import ReadoutCard.Register
import ReadoutCard.Window.LittleEndian

/-! # Register windows onto the bytes of a mapped file

A word is accessed by its byte offset, which has to be a multiple of four and leave room for four
bytes. A register index is turned into an offset first; one whose offset is no 64-bit number fails.
-/

namespace ReadoutCard.Mapped

/-- Byte offsets are below this bound. -/
def addressSpace : Nat := 1 <<< 64

/-- Whether a word at this offset lies within the content. -/
def inBounds (size offset : Nat) : Bool := offset % 4 == 0 && offset + 4 ≤ size

/-- The failure of an offset outside the content. -/
def outOfBounds (bar size : Nat) (what : String) (offset : Nat) : Error :=
  .invalidAccess bar bar ("out of bounds " ++ what ++ ": offset=" ++ Text.hexMarked offset ++
    ", limit=" ++ Text.hexMarked size)

/-- Reads the word at a byte offset. -/
def readAt (bar : Nat) (content : ByteArray) (offset : Nat) : Except Error UInt32 :=
  match (if inBounds content.size offset then LittleEndian.wordAt? content offset else none) with
  | some word => .ok word
  | none => .error (outOfBounds bar content.size "read" offset)

/-- Writes the word at a byte offset. -/
def writeAt (bar : Nat) (content : ByteArray) (offset : Nat) (value : UInt32) :
    Except Error Unit × ByteArray :=
  if inBounds content.size offset then (.ok (), LittleEndian.setWordAt content offset value)
  else (.error (outOfBounds bar content.size "write" offset), content)

/-- The byte offset of a register. -/
def offsetOf (bar size index : Nat) : Except Error Nat :=
  if index * 4 < addressSpace then .ok (index * 4)
  else .error (.invalidAccess bar bar ("register index " ++ Text.hexMarked index ++
    " out of bounds, limit=" ++ Text.hexMarked size))

/-- Reads a register. -/
def read (bar : Nat) (content : ByteArray) (index : Nat) : Except Error UInt32 := do
  readAt bar content (← offsetOf bar content.size index)

/-- Writes a register. -/
def write (bar : Nat) (content : ByteArray) (index : Nat) (value : UInt32) :
    Except Error Unit × ByteArray :=
  match offsetOf bar content.size index with
  | .ok offset => writeAt bar content offset value
  | .error e => (.error e, content)

/-- The window onto a file mapped as BAR `bar`. -/
def window (bar : Nat) : Window ByteArray where
  read index content := (read bar content index, content)
  write index value content := write bar content index value

end ReadoutCard.Mapped
