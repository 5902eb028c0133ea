import Mathlib.Algebra.Group.Nat.Defs
import ReadoutCard.Window.LittleEndian

/-!
# Words and their bytes

A word is a number of four digits to the base 256, the lowest first
(`toNat_word`), so a word and its bytes determine each other (`word_bytes`,
`bytes_word`). `toWords` cuts bytes into words and leaves fewer than four over.

A word inside content is told by the bytes before and after it:
`wordAt?_of_split` reads it and `data_setWordAt_of_split` replaces it. Where
only the bytes matter, `wordAt?_congr` says that content with the same four
bytes at a place holds the same word there.
-/

namespace ReadoutCard.LittleEndian

/-! ### One word -/

/-- Bits above those of a number are added to it. -/
theorem or_shiftLeft_eq_add {low bits : Nat} (h : low < 2 ^ bits) (high : Nat) :
    low ||| high <<< bits = low + high * 2 ^ bits := by
  rw [Nat.or_comm, ← Nat.shiftLeft_add_eq_or_of_lt h, Nat.shiftLeft_eq, Nat.add_comm]

theorem toNat_word (a b c d : UInt8) :
    (word a b c d).toNat = a.toNat + b.toNat * 2 ^ 8 + c.toNat * 2 ^ 16 + d.toNat * 2 ^ 24 := by
  have ha := a.toNat_lt
  have hb := b.toNat_lt
  have hc := c.toNat_lt
  -- A byte that is shifted by at most 24 bits fits into a word.
  have shifted (x : UInt8) {n : UInt32} (h : n.toNat ≤ 24) :
      (x.toUInt32 <<< n).toNat = x.toNat <<< n.toNat := by
    rw [UInt32.toNat_shiftLeft, UInt8.toNat_toUInt32, Nat.mod_eq_of_lt (show n.toNat < 32 by omega)]
    apply Nat.mod_eq_of_lt
    rw [Nat.shiftLeft_eq]
    calc x.toNat * 2 ^ n.toNat
        < 2 ^ 8 * 2 ^ n.toNat := Nat.mul_lt_mul_of_pos_right x.toNat_lt (Nat.two_pow_pos _)
      _ ≤ 2 ^ 8 * 2 ^ 24 := Nat.mul_le_mul_left _ (Nat.pow_le_pow_right (by decide) h)
  have parts : (word a b c d).toNat =
      a.toNat ||| b.toNat <<< 8 ||| c.toNat <<< 16 ||| d.toNat <<< 24 := by
    rw [word, UInt32.toNat_or, UInt32.toNat_or, UInt32.toNat_or, UInt8.toNat_toUInt32,
      shifted b (by decide), shifted c (by decide), shifted d (by decide)]
    rfl
  have two : a.toNat + b.toNat * 2 ^ 8 < 2 ^ 16 := by omega
  have three : a.toNat + b.toNat * 2 ^ 8 + c.toNat * 2 ^ 16 < 2 ^ 24 := by omega
  rw [parts, or_shiftLeft_eq_add ha, or_shiftLeft_eq_add two, or_shiftLeft_eq_add three]

/-- A word is the word of its bytes. -/
theorem word_bytes (v : UInt32) :
    word v.toUInt8 (v >>> 8).toUInt8 (v >>> 16).toUInt8 (v >>> 24).toUInt8 = v := by
  apply UInt32.toNat_inj.1
  have := v.toNat_lt
  rw [toNat_word]
  simp [Nat.shiftRight_eq_div_pow]
  omega

/-- Four bytes are the bytes of their word. -/
theorem bytes_word (a b c d : UInt8) : bytes (word a b c d) = [a, b, c, d] := by
  have := a.toNat_lt
  have := b.toNat_lt
  have := c.toNat_lt
  have := d.toNat_lt
  simp [bytes, ← UInt8.toNat_inj, toNat_word, Nat.shiftRight_eq_div_pow]
  omega

@[simp]
theorem length_bytes (v : UInt32) : (bytes v).length = 4 := rfl

/-! ### Bytes cut into words -/

/-- The words of bytes, as far as there are four bytes for a word. -/
def toWords : List UInt8 → List UInt32
  | a :: b :: c :: d :: rest => word a b c d :: toWords rest
  | _ => []

/-- Where no four bytes are left there are fewer than four. -/
theorem length_lt_four {l : List UInt8}
    (few : ∀ a b c d rest, l = a :: b :: c :: d :: rest → False) : l.length < 4 := by
  match l with
  | [] | [_] | [_, _] | [_, _, _] => simp
  | a :: b :: c :: d :: rest => exact absurd rfl (few a b c d rest)

theorem length_toWords (l : List UInt8) : (toWords l).length = l.length / 4 := by
  fun_induction toWords l with
  | case1 a b c d rest ih =>
    simp only [List.length_cons, ih]
    omega
  | case2 l few => exact (Nat.div_eq_of_lt (length_lt_four few)).symm

/-- The bytes of the words, then those left over, are all the bytes. -/
theorem flatMap_toWords_append_drop (l : List UInt8) :
    (toWords l).flatMap bytes ++ l.drop (l.length / 4 * 4) = l := by
  fun_induction toWords l with
  | case1 a b c d rest ih =>
    have cut : (a :: b :: c :: d :: rest).length / 4 * 4 = rest.length / 4 * 4 + 4 := by
      simp only [List.length_cons]
      omega
    rw [cut, List.flatMap_cons, bytes_word, List.append_assoc]
    simpa using ih
  | case2 l few => simp [Nat.div_eq_of_lt (length_lt_four few)]

theorem length_flatMap_bytes (words : List UInt32) :
    (words.flatMap bytes).length = words.length * 4 := by
  induction words with
  | nil => rfl
  | cons w rest ih =>
    rw [List.flatMap_cons, List.length_append, ih, length_bytes, List.length_cons]
    omega

/-! ### A word inside content -/

variable {content content' : ByteArray} {front rest : List UInt8} {offset : Nat}

theorem size_eq_length (content : ByteArray) : content.size = content.data.toList.length := by
  rw [Array.length_toList]
  rfl

/-- The word at an offset is that of the four bytes there. -/
theorem wordAt?_eq_bind (content : ByteArray) (offset : Nat) :
    wordAt? content offset = do
      let a ← content.data[offset]?
      let b ← content.data[offset + 1]?
      let c ← content.data[offset + 2]?
      let d ← content.data[offset + 3]?
      return word a b c d := by
  have inside {i : Nat} (h : i < content.size) : content.data[i]? = some content[i] :=
    Array.getElem?_eq_getElem h
  by_cases h : offset + 4 ≤ content.size
  · rw [wordAt?, dif_pos h, inside (by omega), inside (by omega), inside (by omega),
      inside (by omega)]
    rfl
  · have beyond : content.data[offset + 3]? = none :=
      Array.getElem?_eq_none (show content.size ≤ offset + 3 by omega)
    rw [wordAt?, dif_neg h, beyond]
    simp

theorem wordAt?_congr
    (h : ∀ i, offset ≤ i → i < offset + 4 → content.data[i]? = content'.data[i]?) :
    wordAt? content offset = wordAt? content' offset := by
  rw [wordAt?_eq_bind, wordAt?_eq_bind, h offset (by omega) (by omega),
    h (offset + 1) (by omega) (by omega), h (offset + 2) (by omega) (by omega),
    h (offset + 3) (by omega) (by omega)]

theorem wordAt?_of_split {w : UInt32} (h : content.data.toList = front ++ (bytes w ++ rest)) :
    wordAt? content front.length = some w := by
  have byte (k : Nat) (hk : k < 4) : content.data[front.length + k]? = (bytes w)[k]? := by
    rw [← Array.getElem?_toList, h, List.getElem?_append_right (by omega),
      Nat.add_sub_cancel_left, List.getElem?_append_left (by simpa using hk)]
  rw [wordAt?_eq_bind, byte 1 (by decide), byte 2 (by decide), byte 3 (by decide)]
  have first := byte 0 (by decide)
  rw [Nat.add_zero] at first
  rw [first]
  exact congrArg some (word_bytes w)

theorem data_setWordAt_of_split {w : UInt32} (h : content.data.toList = front ++ (bytes w ++ rest))
    (v : UInt32) :
    (setWordAt content front.length v).data.toList = front ++ (bytes v ++ rest) := by
  rw [data_setWordAt]
  simp [Array.toList_setIfInBounds, h, bytes]

/-- Four bytes at an offset are a word there. -/
theorem exists_split (h : offset + 4 ≤ content.size) : ∃ front w rest,
    front.length = offset ∧ content.data.toList = front ++ (bytes w ++ rest) := by
  have parts := List.take_append_drop offset content.data.toList
  rw [size_eq_length] at h
  have enough : 4 ≤ (content.data.toList.drop offset).length := by
    rw [List.length_drop]
    omega
  match cut : content.data.toList.drop offset with
  | [] | [_] | [_, _] | [_, _, _] => simp [cut] at enough
  | a :: b :: c :: d :: rest =>
    refine ⟨content.data.toList.take offset, word a b c d, rest, ?_, ?_⟩
    · rw [List.length_take]
      omega
    · rw [bytes_word, List.cons_append, List.cons_append, List.cons_append, List.cons_append,
        List.nil_append, ← cut, parts]

theorem size_ofWords (words : List UInt32) : (ofWords words).size = 4 * words.length := by
  rw [size_eq_length, ofWords, length_flatMap_bytes, Nat.mul_comm]

/-- In the bytes of words each word stands at its place. -/
theorem wordAt?_ofWords {words : List UInt32} {k : Nat} (inside : k < words.length) :
    wordAt? (ofWords words) (4 * k) = some words[k] := by
  have cut : (ofWords words).data.toList = (words.take k).flatMap bytes ++
      (bytes words[k] ++ (words.drop (k + 1)).flatMap bytes) := by
    rw [← List.flatMap_cons, ← List.drop_eq_getElem_cons inside, ← List.flatMap_append,
      List.take_append_drop]
    rfl
  have front : ((words.take k).flatMap bytes).length = 4 * k := by
    rw [length_flatMap_bytes, List.length_take]
    omega
  rw [← front]
  exact wordAt?_of_split cut

theorem wordAt?_setWordAt_self (h : offset + 4 ≤ content.size) (v : UInt32) :
    wordAt? (setWordAt content offset v) offset = some v := by
  obtain ⟨front, w, rest, rfl, cut⟩ := exists_split h
  exact wordAt?_of_split (data_setWordAt_of_split cut v)

end ReadoutCard.LittleEndian
