import ReadoutCard.Bits
import ReadoutCard.Choice

/-! # The control word of the CRU data generator

Bit 0 enables it, bits 2:1 hold the pattern, bits 15:8 the page size in units of 32 bytes less one,
and bit 16 lets the size vary. Each setter changes its own field only; a pattern or size that the
generator cannot produce is refused, and then the word is left as it was.
-/

namespace ReadoutCard.Cru.Generator

/-- A change of a control word in place, which may be refused. -/
abbrev Change := ExceptT Error (StateM UInt32) Unit

/-- How a change of a control word ends, and the word that it leaves. -/
def Change.apply (change : Change) (word : UInt32) : Except Error Unit × UInt32 :=
  StateT.run (ExceptT.run change) word

/-- The code of a pattern, if the generator has it. -/
def patternCode? : Pattern → Option UInt32
  | .incremental => some 1
  | .alternating => some 2
  | .constant => some 3
  | .flying0 => none
  | .flying1 => none
  | .decremental => none
  | .random => none

/-- Sets the pattern. -/
def setPattern (pattern : Pattern) : Change :=
  match patternCode? pattern with
  | some code => modify fun word => Bits.setField word 1 2 code
  | none => throw (.configuration "GeneratorPattern"
      (Choice.name pattern ++ " not supported by the CRU generator"))

/-- The unit of the page size in bytes. -/
def sizeUnit : Nat := 32

/-- The smallest page in bytes. -/
def minSize : Nat := 32

/-- The largest page in bytes. -/
def maxSize : Nat := 8192

/-- Sets the page size in bytes. -/
def setSize (size : Nat) : Change :=
  if size % sizeUnit = 0 ∧ minSize ≤ size ∧ size ≤ maxSize then
    modify fun word => Bits.setField word 8 8 (UInt32.ofNat (size / sizeUnit - 1))
  else throw (.configuration "GeneratorDataSize"
    (toString size ++ " bytes: must be a multiple of " ++ toString sizeUnit ++ " between " ++
      toString minSize ++ " and " ++ toString maxSize))

/-- Starts or stops the generator. -/
def setEnabled (word : UInt32) (on : Bool) : UInt32 := Bits.setBit word 0 on

/-- Lets the page size vary or not. -/
def setRandomSize (word : UInt32) (on : Bool) : UInt32 := Bits.setBit word 16 on

/-- Sets pattern, page size and random size, in this order. -/
def configure (pattern : Pattern) (size : Nat) (randomSize : Bool) : Change := do
  setPattern pattern
  setSize size
  modify fun word => setRandomSize word randomSize

end ReadoutCard.Cru.Generator
