import ReadoutCard.Text.Utf8

/-!
# Text in ASCII

A character below 128 is one byte, and that byte read back is the character. So
text in ASCII, written in bytes, is read as what it was (`readable_toUTF8`).
-/

namespace ReadoutCard.Text

/-- The bytes of content are listed from its start. -/
theorem byteArray_toList (content : ByteArray) : content.toList = content.data.toList := by
  have from_index (i : Nat) (read : List UInt8) : ByteArray.toList.loop content i read =
      read.reverse ++ content.data.toList.drop i := by
    induction left : content.size - i generalizing i read with
    | zero =>
      have beyond : ¬ i < content.size := by omega
      have none_left : content.data.toList.drop i = [] :=
        List.drop_eq_nil_of_le (by rw [Array.length_toList]; exact Nat.le_of_not_lt beyond)
      rw [ByteArray.toList.loop, if_neg beyond, none_left, List.append_nil]
    | succ n ih =>
      have inside : i < content.size := by omega
      have here : content.get! i = content.data[i] := getElem!_pos content.data i inside
      have next : content.data.toList.drop i =
          content.get! i :: content.data.toList.drop (i + 1) := by
        rw [here, ← Array.getElem_toList]
        exact List.drop_eq_getElem_cons _
      rw [ByteArray.toList.loop, if_pos inside, ih (i + 1) _ (by omega), next]
      simp
  exact from_index 0 []

/-- Text in ASCII has one byte for each character. -/
theorem toList_toUTF8 {text : List Char} (h : ∀ c ∈ text, c.toNat < 128) :
    (String.ofList text).toUTF8.toList = text.map fun c => UInt8.ofNat c.toNat := by
  have each : text.flatMap String.utf8EncodeChar = text.map fun c => UInt8.ofNat c.toNat := by
    induction text with
    | nil => rfl
    | cons c rest ih =>
      have here : c.val.toNat ≤ 127 := Nat.le_of_lt_succ (h c List.mem_cons_self)
      have one : String.utf8EncodeChar c = [UInt8.ofNat c.toNat] := if_pos here
      rw [List.flatMap_cons, one, ih fun c hc => h c (List.mem_cons_of_mem _ hc)]
      rfl
  rw [byteArray_toList]
  show (text.flatMap String.utf8EncodeChar).toByteArray.data.toList = _
  rw [List.toList_data_toByteArray, each]

/-- Text in ASCII is read as it was written. -/
theorem readable_toUTF8 {text : List Char} (h : ∀ c ∈ text, c.toNat < 128) :
    Utf8.readable (String.ofList text).toUTF8.toList = String.ofList text := by
  have decoded : Utf8.decodeFrom none (text.map fun c => UInt8.ofNat c.toNat) =
      text.map some := by
    induction text with
    | nil => rfl
    | cons c rest ih =>
      have small := h c List.mem_cons_self
      have value : (UInt8.ofNat c.toNat).toNat = c.toNat := by
        rw [UInt8.toNat_ofNat']
        omega
      have low : UInt8.ofNat c.toNat < 0x80 := by
        rw [UInt8.lt_iff_toNat_lt, value]
        exact small
      have first : Utf8.first (UInt8.ofNat c.toNat) = ([some c], none) := by
        rw [Utf8.first, if_pos low, value, Char.ofNat_toNat]
      have later := ih fun c hc => h c (List.mem_cons_of_mem _ hc)
      rw [List.map_cons, Utf8.decodeFrom, first]
      exact congrArg (some c :: ·) later
  rw [toList_toUTF8 h, Utf8.readable, Utf8.decode, decoded, List.map_map]
  exact congrArg String.ofList (List.map_id text)

end ReadoutCard.Text
