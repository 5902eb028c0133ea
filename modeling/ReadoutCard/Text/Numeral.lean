/-! # Integers written in a radix up to 36

A numeral is an optional `+` (or `-` where the type is signed) and one or more digits, with any
number of leading zeros; nothing else may stand in it. Digits are read from the left, and the first
position that fails decides: a character that is no digit comes before a value that grows too large.
-/

namespace ReadoutCard.Text

/-- Why a text is no numeral of the wanted type. -/
inductive NumeralError where
  | empty
  | invalidDigit
  | tooLarge
  | tooSmall
  deriving DecidableEq, Repr

namespace NumeralError

/-- The wording of each cause. -/
def message : NumeralError → String
  | empty => "cannot parse integer from empty string"
  | invalidDigit => "invalid digit found in string"
  | tooLarge => "number too large to fit in target type"
  | tooSmall => "number too small to fit in target type"

end NumeralError

namespace Numeral

/-- The value of an ASCII digit or letter of either case. -/
def digitValue? (c : Char) : Option Nat :=
  if '0' ≤ c ∧ c ≤ '9' then some (c.toNat - '0'.toNat)
  else if 'a' ≤ c ∧ c ≤ 'z' then some (c.toNat - 'a'.toNat + 10)
  else if 'A' ≤ c ∧ c ≤ 'Z' then some (c.toNat - 'A'.toNat + 10)
  else none

/-- The value of a digit of the radix. -/
def digit? (radix : Nat) (c : Char) : Option Nat :=
  (digitValue? c).filter (· < radix)

/-- Reads digits after a value `read` so far; `excess` is the failure of a value above `limit`. -/
def magnitude (radix limit : Nat) (excess : NumeralError) (read : Nat) :
    List Char → Except NumeralError Nat
  | [] => .ok read
  | c :: rest =>
    match digit? radix c with
    | none => .error .invalidDigit
    | some d =>
      if read * radix + d ≤ limit then magnitude radix limit excess (read * radix + d) rest
      else .error excess

/-- An unsigned numeral of at most `limit`. A sign alone is no digit either. -/
def natural (radix limit : Nat) : List Char → Except NumeralError Nat
  | [] => .error .empty
  | '+' :: d :: rest => magnitude radix limit .tooLarge 0 (d :: rest)
  | text => magnitude radix limit .tooLarge 0 text

/-- A signed numeral between `-(limit + 1)` and `limit`. -/
def integer (radix limit : Nat) : List Char → Except NumeralError Int
  | '-' :: d :: rest =>
    (magnitude radix (limit + 1) .tooSmall 0 (d :: rest)).map fun n => -(n : Int)
  | text => (natural radix limit text).map Int.ofNat

/-- The largest value of an unsigned type of that many bits. -/
def unsignedLimit (bits : Nat) : Nat := 1 <<< bits - 1

/-- The largest value of a signed type of that many bits. -/
def signedLimit (bits : Nat) : Nat := 1 <<< (bits - 1) - 1

/-- A value of an unsigned type of that many bits. -/
def unsigned (radix bits : Nat) (text : String) : Except NumeralError Nat :=
  natural radix (unsignedLimit bits) text.toList

/-- A value of a signed type of that many bits. -/
def signed (radix bits : Nat) (text : String) : Except NumeralError Int :=
  integer radix (signedLimit bits) text.toList

theorem magnitude_le {radix limit : Nat} {excess : NumeralError} {read n : Nat} {text : List Char}
    (hr : read ≤ limit) (h : magnitude radix limit excess read text = .ok n) : n ≤ limit := by
  induction text generalizing read with
  | nil => simp only [magnitude, Except.ok.injEq] at h; omega
  | cons c rest ih =>
    simp only [magnitude] at h
    split at h
    · simp at h
    · split at h
      · exact ih (by assumption) h
      · simp at h

/-- What is read fits the type. -/
theorem natural_le {radix limit n : Nat} {text : List Char}
    (h : natural radix limit text = .ok n) : n ≤ limit := by
  unfold natural at h
  split at h
  · simp at h
  · exact magnitude_le (Nat.zero_le _) h
  · exact magnitude_le (Nat.zero_le _) h

/-- The digit that does not fit comes first here, the letter there. -/
example : unsigned 10 32 "42949672960x" = .error .tooLarge ∧
    unsigned 10 32 "4294967295x" = .error .invalidDigit := by cbv

example : signed 10 32 "-2147483649" = .error .tooSmall ∧
    signed 10 32 "-" = .error .invalidDigit ∧ unsigned 10 32 "-1" = .error .invalidDigit ∧
    unsigned 10 32 "+007" = .ok 7 := by cbv

end Numeral

end ReadoutCard.Text
