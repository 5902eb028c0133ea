import ReadoutCard.Crorc.Flash

/-! # A flash controller that keeps its promises

Writing an address selects a word and starts the wait anew. The status shows `waiting` for a number
of polls and `ready` from then on; the data register shows the selected word, with any bits above.
-/

namespace ReadoutCard

/-- A flash controller with its flash, the record at the record address. -/
structure FlashController where
  words : Array UInt16
  /-- The polls that are answered by `waiting`. -/
  delay : Nat
  ready : UInt32
  waiting : UInt32
  /-- Bits that stand above the word in the data register. -/
  high : UInt32
  selected : Nat
  polls : Nat

namespace FlashController

/-- The flash word at an address; erased outside the record. -/
def wordAt (f : FlashController) (address : Nat) : UInt16 :=
  let base := Crorc.recordAddress.toNat
  if base ≤ address then (f.words[address - base]?).getD Crorc.erased else Crorc.erased

/-- Registers other than status and data read as zero. -/
def read (f : FlashController) (index : Nat) : UInt32 × FlashController :=
  if index = Crorc.flashStatus.index then
    let polls := f.polls + 1
    (if f.delay < polls then f.ready else f.waiting, { f with polls := polls })
  else if index = Crorc.flashData.index then (f.high ||| (f.wordAt f.selected).toUInt32, f)
  else (0, f)

/-- Only the address register can be written. -/
def write (f : FlashController) (index : Nat) (value : UInt32) : FlashController :=
  if index = Crorc.flashAddress.index then
    { f with selected := (value &&& 0x7fffffff).toNat, polls := 0 }
  else f

/-- The controller's window; no index is out of range. -/
def window : Window FlashController where
  read index f := let (value, f) := f.read index; (.ok value, f)
  write index value f := (.ok (), f.write index value)

end FlashController

end ReadoutCard
