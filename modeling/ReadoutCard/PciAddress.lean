import ReadoutCard.Text.Hex

/-! # PCI addresses and card identifiers

An address is bus, device and function, each within its field width; the widths are part of the
type. A card is named by its serial number or by its address.
-/

namespace ReadoutCard

/-- The address of a PCI function: eight bits of bus, five of device, three of function. -/
structure PciAddress where
  bus : Fin 256
  device : Fin 32
  function : Fin 8
  deriving DecidableEq, Repr

namespace PciAddress

/-- The written form `bb:dd.f`, in hexadecimal. -/
def text (a : PciAddress) : String :=
  Text.hexPadded 2 a.bus ++ ":" ++ Text.hexPadded 2 a.device ++ "." ++ Text.hex a.function

/-- The name of the device directory in PCI domain 0. -/
def directoryName (a : PciAddress) : String := "0000:" ++ a.text

end PciAddress

/-- How a card is named: by serial number or by PCI address. -/
inductive CardId where
  | serial (number : Int)
  | address (address : PciAddress)
  deriving DecidableEq, Repr

namespace CardId

/-- The written form: the number in decimal, or the address. -/
def text : CardId → String
  | serial number => toString number
  | address a => a.text

end CardId

end ReadoutCard
