import ReadoutCard.Card
import ReadoutCard.Text.Hex

/-! # The list of cards as text

A row shows type and address in full, without padding, and all other columns padded to their width;
what a card does not tell is shown as `n/a`.
-/

namespace ReadoutCard.CommandLine

open Text (padRight)

/-- The text of a value that may be missing. -/
def orNone {α : Type} (text : α → String) : Option α → String
  | some a => text a
  | none => "n/a"

/-- The heading of the list. -/
def cardHeading : String :=
  padRight 3 "#" ++ " " ++ padRight 6 "Type" ++ " " ++ padRight 8 "PCI Addr" ++ " " ++
    padRight 7 "Vendor" ++ " " ++ padRight 7 "Device" ++ " " ++ padRight 5 "NUMA" ++ " " ++
    padRight 8 "Serial" ++ " " ++ padRight 26 "Firmware" ++ " " ++ "Card ID"

/-- The line under the heading. -/
def cardRule : String := String.ofList (List.replicate 96 '-')

/-- A row of the list: a card with its firmware's build and its chip's identity. -/
structure CardRow where
  card : Card
  firmware : Option String
  chip : Option String
  deriving DecidableEq, Repr

/-- The text of a row with its number. -/
def CardRow.text (number : Nat) (row : CardRow) : String :=
  padRight 3 (toString number) ++ " " ++ row.card.type.name ++ " " ++ row.card.address.text ++
    " 0x" ++ Text.hexPadded 4 row.card.pciId.vendor.toNat ++
    "  0x" ++ Text.hexPadded 4 row.card.pciId.device.toNat ++
    "  " ++ padRight 5 (toString row.card.numaNode) ++
    " " ++ padRight 8 (orNone toString row.card.serial) ++
    " " ++ padRight 26 (orNone id row.firmware) ++
    " " ++ orNone id row.chip

/-- The line after the list. -/
def cardCount (count : Nat) : String := "Found " ++ toString count ++ " card(s)"

end ReadoutCard.CommandLine
