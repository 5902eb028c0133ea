/-! # Words as bytes, the lowest byte first -/

namespace ReadoutCard.LittleEndian

/-- The four bytes of a word. -/
def bytes (word : UInt32) : List UInt8 :=
  [word.toUInt8, (word >>> 8).toUInt8, (word >>> 16).toUInt8, (word >>> 24).toUInt8]

/-- The word of four bytes. -/
def word (a b c d : UInt8) : UInt32 :=
  a.toUInt32 ||| (b.toUInt32 <<< 8) ||| (c.toUInt32 <<< 16) ||| (d.toUInt32 <<< 24)

/-- The word at a byte offset. -/
def wordAt? (content : ByteArray) (offset : Nat) : Option UInt32 :=
  if h : offset + 4 ≤ content.size then
    some (word (content[offset]) (content[offset + 1]) (content[offset + 2]) (content[offset + 3]))
  else none

/-- The content with the word at a byte offset replaced; bytes beyond the end are dropped. -/
def setWordAt (content : ByteArray) (offset : Nat) (value : UInt32) : ByteArray :=
  (((content.set! offset value.toUInt8).set! (offset + 1) (value >>> 8).toUInt8).set!
    (offset + 2) (value >>> 16).toUInt8).set! (offset + 3) (value >>> 24).toUInt8

/-- The bytes of several words. -/
def ofWords (words : List UInt32) : ByteArray := ⟨(words.flatMap bytes).toArray⟩

/-- Content of `size` bytes, all zero. -/
def zeros (size : Nat) : ByteArray := ⟨Array.replicate size 0⟩

@[simp]
theorem size_zeros (size : Nat) : (zeros size).size = size := by
  simp [zeros, ByteArray.size]

/-- The content as an array, with one word replaced. -/
theorem data_setWordAt (content : ByteArray) (offset : Nat) (value : UInt32) :
    (setWordAt content offset value).data =
      (((content.data.set! offset value.toUInt8).set! (offset + 1) (value >>> 8).toUInt8).set!
        (offset + 2) (value >>> 16).toUInt8).set! (offset + 3) (value >>> 24).toUInt8 := rfl

@[simp]
theorem size_setWordAt (content : ByteArray) (offset : Nat) (value : UInt32) :
    (setWordAt content offset value).size = content.size := by
  rw [ByteArray.size, data_setWordAt]
  simp

/-- Writing a word leaves all bytes outside it alone. -/
theorem getElem?_setWordAt (content : ByteArray) (offset : Nat) (value : UInt32) {i : Nat}
    (h : i < offset ∨ offset + 4 ≤ i) :
    (setWordAt content offset value).data[i]? = content.data[i]? := by
  rw [data_setWordAt]
  repeat rw [Array.set!_eq_setIfInBounds]
  repeat rw [Array.getElem?_setIfInBounds_ne (by omega)]

example : bytes 0x12345678 = [0x78, 0x56, 0x34, 0x12] ∧ word 0x78 0x56 0x34 0x12 = 0x12345678 := by
  decide

end ReadoutCard.LittleEndian
