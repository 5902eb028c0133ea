import ReadoutCard.Proofs.Text.Letters
import ReadoutCard.Proofs.Text.Spelling

/-!
# The forms of numbers

A number has one of three forms (`numberForms`), told by the mark in front: what
is left of the text without it (`unmarked`) is read in the radix of the mark, and
a text with a mark is never a number of another form (`denotes_iff`). A number
that is written out in digits is what they denote, after any zeros
(`denotes_digits`), and so is a word as it is printed (`denotes_hexWord`).
-/

namespace ReadoutCard.CommandLine

open Text (SameLetters digits_of_sameLetters value_of_sameLetters digits_toDigits hexWord)
open Text.Numeral

/-! ### What a text denotes -/

/-- A form of numbers: the mark in front, the radix and its digits. -/
structure NumberForm where
  mark : String
  radix : Nat
  digits : String
  deriving DecidableEq

/-- The forms of numbers. -/
def numberForms : List NumberForm :=
  [⟨"0x", 16, "0123456789abcdefABCDEF"⟩, ⟨"0X", 16, "0123456789abcdefABCDEF"⟩,
   ⟨"", 10, "0123456789"⟩]

/-- The text is the mark of the form, perhaps a plus sign, and digits of this value. -/
def NumberForm.Denotes (form : NumberForm) (text : List Char) (n : Nat) : Prop :=
  ∃ digits, digits ≠ [] ∧ (∀ c ∈ digits, c ∈ form.digits.toList) ∧
    (text = form.mark.toList ++ digits ∨ text = form.mark.toList ++ '+' :: digits) ∧
    value form.radix digits = n

/-- The text is a number of one of the forms. -/
def Denotes (text : List Char) (n : Nat) : Prop := ∃ form ∈ numberForms, form.Denotes text n

/-- The radix that the mark of a text tells, and the text without its mark. -/
def unmarked : List Char → Nat × List Char
  | '0' :: 'x' :: rest => (16, rest)
  | '0' :: 'X' :: rest => (16, rest)
  | text => (10, text)

section Forms

variable {form : NumberForm} {text : List Char} {n : Nat}

/-- The digits of a form are the digits of its radix. -/
theorem mem_digits_iff (known : form ∈ numberForms) (c : Char) :
    c ∈ form.digits.toList ↔ ∃ d, digit? form.radix c = some d := by
  have all : ∀ form ∈ numberForms, (form.digits.toList.all fun c => (digit? form.radix c).isSome) ∧
      ∀ d < form.radix, (d < 10 → Char.ofNat (d + 48) ∈ form.digits.toList) ∧
        (10 ≤ d → Char.ofNat (d + 87) ∈ form.digits.toList ∧
          Char.ofNat (d + 55) ∈ form.digits.toList) := by
    decide
  obtain ⟨digit, listed⟩ := all form known
  constructor
  · intro mem
    exact Option.isSome_iff_exists.1 (List.all_eq_true.1 digit c mem)
  · rintro ⟨d, digit⟩
    obtain ⟨digit, small⟩ := Option.filter_eq_some_iff.1 digit
    obtain ⟨figures, letters⟩ := listed d (of_decide_eq_true small)
    rw [← Char.ofNat_toNat c]
    rcases Text.toNat_of_digitValue? digit with ⟨code, figure⟩ | ⟨letter, code | code⟩
    · exact code ▸ figures figure
    · exact code ▸ (letters letter).1
    · exact code ▸ (letters letter).2

/-- A mark is seen, and digits of the decimal form hold none. -/
theorem unmarked_of_form (known : form ∈ numberForms)
    (plain : ∀ c ∈ text, c = '+' ∨ c ∈ form.digits.toList) :
    unmarked (form.mark.toList ++ text) = (form.radix, text) := by
  simp only [numberForms, List.mem_cons, List.not_mem_nil, or_false] at known
  rcases known with rfl | rfl | rfl
  · rfl
  · rfl
  · show unmarked text = (10, text)
    unfold unmarked
    split
    case h_1 => exact absurd (plain 'x' (by simp)) (by decide)
    case h_2 => exact absurd (plain 'X' (by simp)) (by decide)
    case h_3 => rfl

theorem exists_form (text : List Char) : ∃ form ∈ numberForms,
    text = form.mark.toList ++ (unmarked text).2 ∧ (unmarked text).1 = form.radix := by
  unfold unmarked
  split
  · exact ⟨_, .head _, rfl, rfl⟩
  · exact ⟨_, .tail _ (.head _), rfl, rfl⟩
  · exact ⟨_, .tail _ (.tail _ (.head _)), rfl, rfl⟩

/-- What a text denotes is what is left of it denotes in the radix of its mark. -/
theorem denotes_iff : Denotes text n ↔ ∃ digits,
    ((unmarked text).2 = digits ∨ (unmarked text).2 = '+' :: digits) ∧ digits ≠ [] ∧
      (∀ c ∈ digits, ∃ d, digit? (unmarked text).1 c = some d) ∧
      value (unmarked text).1 digits = n := by
  constructor
  · rintro ⟨form, known, digits, nonempty, all, written, rfl⟩
    have digit : ∀ c ∈ digits, ∃ d, digit? form.radix c = some d := by
      intro c mem
      exact (mem_digits_iff known c).1 (all c mem)
    rcases written with rfl | rfl
    · rw [unmarked_of_form known fun c mem => .inr (all c mem)]
      exact ⟨digits, .inl rfl, nonempty, digit, rfl⟩
    · have plain : ∀ c ∈ '+' :: digits, c = '+' ∨ c ∈ form.digits.toList := by
        intro c mem
        exact (List.mem_cons.1 mem).imp_right (all c)
      rw [unmarked_of_form known plain]
      exact ⟨digits, .inr rfl, nonempty, digit, rfl⟩
  · rintro ⟨digits, written, nonempty, digit, rfl⟩
    obtain ⟨form, known, whole, radix⟩ := exists_form text
    rw [radix] at digit ⊢
    refine ⟨form, known, digits, nonempty, fun c mem => ?_, ?_, rfl⟩
    · exact (mem_digits_iff known c).2 (digit c mem)
    · rcases written with rest | rest
      · exact .inl (rest ▸ whole)
      · exact .inr (rest ▸ whole)

end Forms

/-! ### Written numbers -/

/-- The digits of a number denote it after the mark of their radix and any zeros. -/
theorem denotes_digits {form : NumberForm} (known : form ∈ numberForms) (n zeros : Nat)
    {digits : List Char} (same : SameLetters digits (Nat.toDigits form.radix n)) :
    Denotes (form.mark ++ String.ofList (List.replicate zeros '0' ++ digits)).toList n := by
  have radixes : ∀ form ∈ numberForms, (1 < form.radix ∧ form.radix ≤ 16) ∧
      '0' ∈ form.digits.toList := by
    decide
  obtain ⟨⟨big, small⟩, zero⟩ := radixes form known
  refine ⟨form, known, List.replicate zeros '0' ++ digits, ?_, ?_, .inl ?_, ?_⟩
  · intro nothing
    rw [(List.append_eq_nil_iff.1 nothing).2] at same
    exact Nat.toDigits_ne_nil (List.forall₂_nil_left_iff.1 same)
  · intro c mem
    rcases List.mem_append.1 mem with padding | digit
    · rw [List.eq_of_mem_replicate padding]
      exact zero
    · exact (mem_digits_iff known c).2
        (digits_of_sameLetters same (digits_toDigits big small n) c digit)
  · rw [String.toList_append, String.toList_ofList]
  · rw [value_zeros_append, value_of_sameLetters same, value_toDigits big small]

/-- A number in hexadecimal, filled up with zeros. -/
theorem denotes_hexPadded (width n : Nat) : Denotes ("0x" ++ Text.hexPadded width n).toList n :=
  denotes_digits (.head _) n _ (Text.sameLetters_refl _)

/-- A word as it is printed. -/
theorem denotes_hexWord (word : UInt32) : Denotes (hexWord word).toList word.toNat :=
  denotes_hexPadded 8 word.toNat

theorem dash_notMem_hexWord (word : UInt32) : '-' ∉ (hexWord word).toList := by
  rw [hexWord, String.toList_append, List.mem_append]
  rintro (mark | digit)
  · exact absurd mark (by decide)
  · exact absurd (Text.isHexDigit_of_mem_hexPadded digit) (by decide)

end ReadoutCard.CommandLine
