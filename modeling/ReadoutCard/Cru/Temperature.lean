/-! # The temperature sensor of a CRU

The sensor's ten-bit value `raw` stands for `raw · 693 / 1024 − 265` degrees. Numerator and offset
are far below 2²⁴ in units of 1/1024 degree, so single precision holds every value exactly, and
this module counts in those units.
-/

namespace ReadoutCard.Cru

/-- A temperature in units of 1/1024 degree Celsius. -/
structure Temperature where
  units : Int
  deriving DecidableEq, Repr

namespace Temperature

/-- The largest value of the sensor. -/
def rawMax : UInt32 := 1023

/-- The temperature of a sensor value; zero and more than ten bits stand for none. -/
def ofSensor (raw : UInt32) : Option Temperature :=
  if raw = 0 ∨ rawMax < raw then none else some ⟨raw.toNat * 693 - 265 * 1024⟩

/-- The quotient rounded to the nearest natural number, a half to the even one. -/
def roundHalfEven (numerator denominator : Nat) : Nat :=
  let quotient := numerator / denominator
  let twice := 2 * (numerator % denominator)
  if twice < denominator ∨ twice = denominator ∧ quotient % 2 = 0 then quotient else quotient + 1

/-- The temperature with one decimal place. -/
def text (t : Temperature) : String :=
  let tenths := roundHalfEven (t.units.natAbs * 10) 1024
  (if t.units < 0 then "-" else "") ++ toString (tenths / 10) ++ "." ++ toString (tenths % 10)

/-- The bits of the temperature in single precision: sign, eight bits of exponent, and the 23 bits
after the leading one. -/
def singleBits (t : Temperature) : UInt32 :=
  let size := t.units.natAbs
  if size = 0 then 0
  else
    let top := size.log2
    let sign := if t.units < 0 then 1 <<< 31 else 0
    UInt32.ofNat (sign + (top + 127 - 10) <<< 23 + (size <<< (23 - top) - 1 <<< 23))

example : (ofSensor 512).map text = some "81.5" ∧ (ofSensor 1).map text = some "-264.3" := by cbv

/-- The sensor's range: −264.3 to 427.3 degrees. -/
example : (ofSensor 0, ofSensor 1024) = (none, none) := by decide

end Temperature

end ReadoutCard.Cru
