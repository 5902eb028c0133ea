import Mathlib.Data.List.Forall2
import ReadoutCard.Proofs.Text.Numerals
import ReadoutCard.Proofs.Text.Trimming

/-!
# Letters of either case

Two characters are the same letter if they are equal or the capital and the
small form of one letter of ASCII (`SameLetter`); no other letter has a second
form. Making letters small is what makes these equal (`toLower_eq_iff`). The same
letters are the same digits (`digit?_of_sameLetter`), and outside of ASCII, like
white space, a letter is only the same as itself (`sameLetter_of_foreign`).
-/

namespace ReadoutCard.Text

open Numeral

/-- The same character, or the two forms of a letter of ASCII. -/
def SameLetter (c d : Char) : Prop :=
  c = d ∨ (c.isUpper ∧ d.toNat = c.toNat + 32) ∨ (d.isUpper ∧ c.toNat = d.toNat + 32)

/-- Equal up to the case of letters of ASCII. -/
def SameLetters (text text' : List Char) : Prop := List.Forall₂ SameLetter text text'

variable {c d : Char} {text text' : List Char}

/-! ### Small letters -/

theorem isUpper_iff : c.isUpper = true ↔ 65 ≤ c.toNat ∧ c.toNat ≤ 90 := by
  show decide (65 ≤ c.toNat ∧ c.toNat ≤ 90) = true ↔ _
  rw [decide_eq_true_iff]

theorem toNat_toLower (c : Char) :
    c.toLower.toNat = if c.isUpper then c.toNat + 32 else c.toNat := by
  unfold Char.toLower
  by_cases h : c.isUpper = true
  · have inside : c.val ≥ 'A'.val ∧ c.val ≤ 'Z'.val := of_decide_eq_true h
    have code := isUpper_iff.1 h
    rw [dif_pos inside, if_pos h]
    show (c.val + 32).toNat = c.val.toNat + 32
    rw [UInt32.toNat_add]
    apply Nat.mod_eq_of_lt
    show c.toNat + 32 < 2 ^ 32
    omega
  · rw [dif_neg fun inside => h (decide_eq_true inside), if_neg h]

theorem toLower_eq_iff : c.toLower = d.toLower ↔ SameLetter c d := by
  simp only [SameLetter, ← Char.toNat_inj, toNat_toLower, isUpper_iff]
  split
  · split
    · omega
    · omega
  · split
    · omega
    · omega

theorem sameLetters_iff :
    SameLetters text text' ↔ text.map Char.toLower = text'.map Char.toLower := by
  rw [← List.forall₂_eq_eq_eq, List.forall₂_map_left_iff, List.forall₂_map_right_iff]
  simp only [toLower_eq_iff]
  rfl

theorem sameLetters_refl (text : List Char) : SameLetters text text := sameLetters_iff.2 rfl

/-! ### Digits -/

theorem digitValue?_eq (c : Char) : digitValue? c =
    if 48 ≤ c.toNat ∧ c.toNat ≤ 57 then some (c.toNat - 48)
    else if 97 ≤ c.toNat ∧ c.toNat ≤ 122 then some (c.toNat - 97 + 10)
    else if 65 ≤ c.toNat ∧ c.toNat ≤ 90 then some (c.toNat - 65 + 10) else none := rfl

/-- A digit is a figure, or a letter of one of the two cases. -/
theorem toNat_of_digitValue? {n : Nat} (h : digitValue? c = some n) :
    (c.toNat = n + 48 ∧ n < 10) ∨
      10 ≤ n ∧ (c.toNat = n + 87 ∨ c.toNat = n + 55) := by
  rw [digitValue?_eq] at h
  split at h
  · cases h
    omega
  · split at h
    · cases h
      omega
    · split at h
      · cases h
        omega
      · cases h

theorem digitValue?_of_sameLetter (h : SameLetter c d) : digitValue? c = digitValue? d := by
  simp only [SameLetter, isUpper_iff] at h
  rw [digitValue?_eq, digitValue?_eq]
  rcases h with rfl | ⟨upper, small⟩ | ⟨upper, small⟩
  · rfl
  · rw [if_neg (by omega), if_neg (by omega), if_pos upper, if_neg (by omega), if_pos (by omega)]
    congr 1
    omega
  · rw [if_neg (by omega), if_pos (by omega), if_neg (by omega), if_neg (by omega), if_pos upper]
    congr 1
    omega

/-- The same letters are the same digits of every radix. -/
theorem digit?_of_sameLetter (h : SameLetter c d) (radix : Nat) :
    digit? radix c = digit? radix d := by
  rw [digit?, digit?, digitValue?_of_sameLetter h]

theorem digits_of_sameLetters {radix : Nat} (h : SameLetters text text')
    (digits : ∀ c ∈ text', ∃ d, digit? radix c = some d) :
    ∀ c ∈ text, ∃ d, digit? radix c = some d := by
  induction h with
  | nil => exact digits
  | cons same _ ih =>
    obtain ⟨first, others⟩ := List.forall_mem_cons.1 digits
    rw [← digit?_of_sameLetter same] at first
    exact List.forall_mem_cons.2 ⟨first, ih others⟩

theorem value_of_sameLetters (h : SameLetters text text') (radix : Nat) :
    value radix text = value radix text' := by
  have same : text.map digitOf = text'.map digitOf := by
    rw [← List.forall₂_eq_eq_eq, List.forall₂_map_left_iff, List.forall₂_map_right_iff]
    apply h.imp
    intro c d same
    rw [digitOf, digitOf, digitValue?_of_sameLetter same]
  rw [value, value, List.map_reverse, List.map_reverse, same]

/-! ### Characters with one form -/

/-- Beyond ASCII, and of white space, a character is the same as no other. -/
theorem sameLetter_of_foreign (h : SameLetter c d) (foreign : 128 ≤ c.toNat ∨ isBlank c = true) :
    c = d := by
  have outside : ¬ (48 ≤ c.toNat ∧ c.toNat ≤ 122) := by
    intro code
    rcases foreign with beyond | blank
    · omega
    · rw [Numeral.not_blank_of_code code] at blank
      cases blank
  simp only [SameLetter, isUpper_iff] at h
  rcases h with same | ⟨upper, -⟩ | ⟨upper, small⟩
  · exact same
  · omega
  · omega

end ReadoutCard.Text
