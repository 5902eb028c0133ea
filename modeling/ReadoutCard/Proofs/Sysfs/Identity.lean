import ReadoutCard.Pci.Sysfs
import ReadoutCard.Proofs.Text.Trimming

/-!
# Identities in attribute files

Half of an identity is written in hexadecimal, with any number of marks `0x`
in front and white space around it (`Sysfs.Written`). `idHalf?_eq_some_iff`
says that exactly such texts are read, and `idOf?_eq_some_iff` puts the two
halves together. The steps are those of the reading: `trim` takes off blanks
and nothing else, `dropMarks` takes off marks and nothing else, and a numeral
has neither in it.
-/

namespace ReadoutCard

namespace Sysfs

open Text (isBlank)

/-- The mark `0x` as many times as told. -/
def marks (count : Nat) : List Char := (List.replicate count ['0', 'x']).flatten

/-- Half of an identity as attribute files may have it: a hexadecimal numeral after any number of
marks, with white space around it. -/
def Written (text : List Char) (half : UInt16) : Prop :=
  ∃ before count digits after,
    (∀ c ∈ before, isBlank c = true) ∧ (∀ c ∈ after, isBlank c = true) ∧
    text = before ++ (marks count ++ digits) ++ after ∧
    Text.Numeral.natural 16 (Text.Numeral.unsignedLimit 16) digits = .ok half.toNat

/-- The file can be read and has half of an identity in it. -/
def Reads (node : Option Node) (half : UInt16) : Prop :=
  ∃ text, Node.text? node = .ok text ∧ Written text.toList half

theorem exists_dropMarks (text : List Char) : ∃ count, text = marks count ++ dropMarks text := by
  fun_induction dropMarks text with
  | case1 rest ih =>
    obtain ⟨count, h⟩ := ih
    refine ⟨count + 1, ?_⟩
    rw [marks, List.replicate_succ, List.flatten_cons, List.append_assoc, ← marks, ← h]
    rfl
  | case2 text _ => exact ⟨0, rfl⟩

/-- A hexadecimal numeral does not start with a mark. -/
theorem dropMarks_marks {limit n : Nat} {digits : List Char}
    (h : Text.Numeral.natural 16 limit digits = .ok n) (count : Nat) :
    dropMarks (marks count ++ digits) = digits := by
  induction count with
  | zero =>
    show dropMarks digits = digits
    unfold dropMarks
    split
    · -- The `x` of a mark is no hexadecimal digit.
      rename_i rest
      have digit := Text.Numeral.digit_of_natural h 'x' (by simp)
      exact absurd digit (by decide)
    · rfl
  | succ count ih => exact ih

theorem not_blank_marks (count : Nat) : ∀ c ∈ marks count, isBlank c = false := by
  intro c hc
  obtain ⟨mark, hm, hc⟩ := List.mem_flatten.1 hc
  rw [List.eq_of_mem_replicate hm] at hc
  obtain rfl | rfl : c = '0' ∨ c = 'x' := by simpa using hc
  · decide
  · decide

/-- Exactly the texts that are so written are read. -/
theorem idHalf?_eq_some_iff {node : Option Node} {half : UInt16} :
    idHalf? node = some half ↔ Reads node half := by
  constructor
  · intro h
    unfold idHalf? at h
    cases ht : Node.text? node with
    | error e =>
      rw [ht] at h
      cases h
    | ok text =>
      rw [ht] at h
      simp only at h
      cases hn : Text.Numeral.natural 16 (Text.Numeral.unsignedLimit 16)
          (dropMarks (Text.trim text.toList)) with
      | error e =>
        rw [hn] at h
        cases h
      | ok n =>
        rw [hn] at h
        cases h
        obtain ⟨before, after, hb, ha, cut⟩ := Text.exists_trim text.toList
        obtain ⟨count, marked⟩ := exists_dropMarks (Text.trim text.toList)
        have small : n ≤ 65535 := Text.Numeral.natural_le hn
        have value : (UInt16.ofNat n).toNat = n := by
          rw [UInt16.toNat_ofNat']
          omega
        exact ⟨text, ht, before, count, _, after, hb, ha, marked ▸ cut, value.symm ▸ hn⟩
  · rintro ⟨text, ht, before, count, digits, after, hb, ha, cut, hn⟩
    have core : ∀ c ∈ marks count ++ digits, isBlank c = false := by
      intro c hc
      rcases List.mem_append.1 hc with hc | hc
      · exact not_blank_marks count c hc
      · exact Text.Numeral.not_blank_of_natural hn c hc
    simp only [idHalf?, ht, cut, Text.trim_between hb core ha, dropMarks_marks hn, hn,
      UInt16.ofNat_toNat]

/-- An entry has the identity of which it has both halves. -/
theorem idOf?_eq_some_iff {e : DeviceTree.Entry} {id : PciId} :
    idOf? e = some id ↔
      Reads (e.file? "vendor") id.vendor ∧ Reads (e.file? "device") id.device := by
  rw [← idHalf?_eq_some_iff, ← idHalf?_eq_some_iff]
  unfold idOf?
  cases idHalf? (e.file? "vendor") with
  | none => simp
  | some vendor =>
    cases idHalf? (e.file? "device") with
    | none => simp
    | some device =>
      obtain ⟨v, d⟩ := id
      simp

end Sysfs

end ReadoutCard
