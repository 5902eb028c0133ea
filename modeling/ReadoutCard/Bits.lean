/-! # Bit fields of 32-bit register words

A field is named by its lowest bit and its width. Reading cuts the field out, writing replaces it
and leaves every other bit alone; a field may run past bit 31, where it is cut off.
-/

namespace ReadoutCard.Bits

/-- The lowest `width` bits set; all of them from width 32 on. -/
def mask (width : Nat) : UInt32 :=
  if 32 ≤ width then 0xffffffff else (1 <<< UInt32.ofNat width) - 1

/-- The `width` bits of `word` from bit `lsb` up, moved down to bit 0. -/
def field (word : UInt32) (lsb width : Nat) : UInt32 :=
  (word >>> UInt32.ofNat lsb) &&& mask width

/-- `word` with the `width` bits from bit `lsb` up replaced by the low bits of `value`. -/
def setField (word : UInt32) (lsb width : Nat) (value : UInt32) : UInt32 :=
  let inside := mask width <<< UInt32.ofNat lsb
  (word &&& ~~~inside) ||| ((value <<< UInt32.ofNat lsb) &&& inside)

/-- Whether bit `position` of `word` is set. -/
def bit (word : UInt32) (position : Nat) : Bool :=
  (word >>> UInt32.ofNat position) &&& 1 == 1

/-- `word` with bit `position` set or cleared: a field of width one. -/
def setBit (word : UInt32) (position : Nat) (on : Bool) : UInt32 :=
  setField word position 1 (if on then 1 else 0)

example : field 0xabcd1234 8 8 = 0x12 ∧ setField 0xffffffff 8 8 0 = 0xffff00ff := by decide

/-- A field that runs past bit 31 is cut off there. -/
example : setField 0 28 8 0xff = 0xf0000000 ∧ field 0xf0000000 28 8 = 0xf := by decide

end ReadoutCard.Bits
