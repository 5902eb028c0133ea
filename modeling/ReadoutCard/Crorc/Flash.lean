import ReadoutCard.Bits
import ReadoutCard.Register.Binding
import ReadoutCard.Text.Utf8

/-! # The serial number of a C-RORC

It is part of a text record in flash. A flash word is read by writing its address, polling a status
register until the word is there, and reading it from a data register. The record is 38 characters
long, two to a word with the first in the upper half; the last five are the serial number. A word
with all bits set means that the flash was erased, and ends the reading.
-/

namespace ReadoutCard.Crorc

/-- Takes the address of the flash word wanted, with the command to read it. -/
def flashAddress : Register := ⟨0xa0⟩

/-- Holds a flash word in its lower half. -/
def flashData : Register := ⟨0xa4⟩

/-- Shows in bit 0 whether the word wanted is there. -/
def flashStatus : Register := ⟨0xa8⟩

/-- The command to read, given together with an address. -/
def readCommand : UInt32 := 0x80000000

/-- The bit of the status register that shows a word is there. -/
def statusReadyBit : Nat := 0

/-- The flash address of the record's first word. -/
def recordAddress : UInt32 := 0x01470000

/-- The characters of the record. -/
def recordLength : Nat := 38

/-- The character at which the serial number starts. -/
def serialOffset : Nat := 33

/-- The digits of the serial number. -/
def serialDigits : Nat := 5

/-- How often the status is polled for one word. -/
def maxFlashPolls : Nat := 10000

/-- A word of erased flash. -/
def erased : UInt16 := 0xffff

/-- Polls the status, at most as often as `polls`, and reads the word once it is there. -/
def awaitWord (b : Binding) : Nat → Access UInt16
  | 0 => throw (.timeout "C-RORC flash read" maxFlashPolls)
  | polls + 1 => do
    let status ← b.read flashStatus.index
    if Bits.bit status statusReadyBit then return (← b.read flashData.index).toUInt16
    else awaitWord b polls

/-- Reads the flash word at an address. -/
def readWord (b : Binding) (address : UInt32) : Access UInt16 := do
  b.write flashAddress.index (readCommand ||| address)
  awaitWord b maxFlashPolls

/-- Reads `count` words from an address on, after the words `read` so far, newest first; nothing if
one of them is erased. -/
def readWords (b : Binding) (address : UInt32) (read : List UInt16) :
    Nat → Access (Option (List UInt16))
  | 0 => return some read.reverse
  | count + 1 => do
    let word ← readWord b address
    if word = erased then return none
    else readWords b (address + 1) (word :: read) count

/-- The two characters of a word, the upper half first. -/
def wordBytes (word : UInt16) : List UInt8 := [(word >>> 8).toUInt8, word.toUInt8]

/-- The bytes of the record, unless the flash was erased. -/
def recordBytes (b : Binding) : Access (Option (List UInt8)) := do
  let words ← readWords b recordAddress [] (recordLength / 2)
  return words.map fun words => words.flatMap wordBytes

/-- The value of decimal digits, if all bytes are such. -/
def digitsValue? (digits : List UInt8) : Option Nat :=
  if digits.all fun c => 0x30 ≤ c && c ≤ 0x39 then
    some (digits.foldl (fun n c => n * 10 + (c - 0x30).toNat) 0)
  else none

/-- The serial number in a record. -/
def serialOfRecord (record : List UInt8) : Option Int :=
  (digitsValue? ((record.drop serialOffset).take serialDigits)).map Int.ofNat

/-- The serial number, if the flash holds one. -/
def serial (b : Binding) : Access (Option Int) := do
  b.requireBar crorcFlashBar "serial number"
  return (← recordBytes b).bind serialOfRecord

/-- The record as text, whatever the BAR; malformed parts show as U+FFFD. -/
def recordText (b : Binding) : Access (Option String) := do
  return (← recordBytes b).map Text.Utf8.readable

end ReadoutCard.Crorc
