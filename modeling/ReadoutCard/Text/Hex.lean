/-! # Hexadecimal text and column padding

Digits are lowercase and without leading zeros; `hexPadded` fills up with zeros to a least width.
-/

namespace ReadoutCard.Text

/-- Lowercase hexadecimal digits, at least one. -/
def hex (n : Nat) : String := String.ofList (Nat.toDigits 16 n)

/-- Hexadecimal digits with leading zeros up to `width` digits. -/
def hexPadded (width n : Nat) : String :=
  let digits := Nat.toDigits 16 n
  String.ofList (List.replicate (width - digits.length) '0' ++ digits)

/-- Hexadecimal digits after the mark `0x`. -/
def hexMarked (n : Nat) : String := "0x" ++ hex n

/-- A register word: `0x` and eight digits. -/
def hexWord (word : UInt32) : String := "0x" ++ hexPadded 8 word.toNat

/-- The text with spaces after it up to `width` characters. -/
def padRight (width : Nat) (text : String) : String :=
  text ++ String.ofList (List.replicate (width - text.length) ' ')

example : hex 0 = "0" ∧ hexPadded 4 0xdc = "00dc" ∧ hexWord 0x1e0 = "0x000001e0" := by cbv

end ReadoutCard.Text
