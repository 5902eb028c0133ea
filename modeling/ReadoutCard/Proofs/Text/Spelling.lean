import ReadoutCard.Proofs.Text.Numerals
import ReadoutCard.Proofs.Text.Trimming

/-!
# Texts that spell a number

A text spells a number with digits of a radix, perhaps after a sign, and with
white space around (`Spells`). It is read as that number if the number is within
the limit (`natural_trim_eq_ok_iff`), and is too large otherwise
(`Spells.natural_of_lt`); so it spells one number at most (`Spells.unique`), and
has no separators in it (`Spells.notMem`). A number that was written is spelled
by its digits (`spells_toString`), and read with its sign (`integer_toString`).
-/

namespace ReadoutCard

/-! ### Reading one part after the other -/

theorem except_bind_eq_ok {ε α β : Type} {x : Except ε α} {f : α → Except ε β} {b : β} :
    (x >>= f) = .ok b ↔ ∃ a, x = .ok a ∧ f a = .ok b := by
  cases x <;> simp [bind, Except.bind]

theorem except_bind_eq_error {ε α β : Type} {x : Except ε α} {f : α → Except ε β} {e : ε} :
    (x >>= f) = .error e ↔ x = .error e ∨ ∃ a, x = .ok a ∧ f a = .error e := by
  cases x <;> simp [bind, Except.bind]

theorem except_map_eq_ok {ε α β : Type} {x : Except ε α} {f : α → β} {b : β} :
    x.map f = .ok b ↔ ∃ a, x = .ok a ∧ f a = b := by
  cases x <;> simp [Except.map]

theorem except_map_eq_error {ε α β : Type} {x : Except ε α} {f : α → β} {e : ε} :
    x.map f = .error e ↔ x = .error e := by
  cases x <;> simp [Except.map]

theorem except_mapError_eq_ok {ε ε' α : Type} {x : Except ε α} {f : ε → ε'} {a : α} :
    x.mapError f = .ok a ↔ x = .ok a := by
  cases x <;> simp [Except.mapError]

theorem except_mapError_eq_error {ε ε' α : Type} {x : Except ε α} {f : ε → ε'} {e : ε'} :
    x.mapError f = .error e ↔ ∃ cause, x = .error cause ∧ f cause = e := by
  cases x <;> simp [Except.mapError]

end ReadoutCard

namespace ReadoutCard.Text

open Numeral

/-! ### Spelled numbers -/

/-- The text spells a number: digits, perhaps after a sign, with white space around. -/
def Spells (radix : Nat) (text : List Char) (n : Nat) : Prop :=
  ∃ digits, (trim text = digits ∨ trim text = '+' :: digits) ∧ digits ≠ [] ∧
    (∀ c ∈ digits, ∃ d, digit? radix c = some d) ∧ value radix digits = n

variable {radix limit n : Nat} {text : List Char}

theorem natural_trim_eq_ok_iff (positive : 0 < radix) :
    natural radix limit (trim text) = .ok n ↔ Spells radix text n ∧ n ≤ limit := by
  rw [natural_eq_ok_iff positive]
  constructor
  · rintro ⟨digits, sign, nonempty, all, value, fits⟩
    exact ⟨⟨digits, sign, nonempty, all, value⟩, fits⟩
  · rintro ⟨⟨digits, sign, nonempty, all, value⟩, fits⟩
    exact ⟨digits, sign, nonempty, all, value, fits⟩

/-- What is read as a number spells it. -/
theorem spells_of_natural (positive : 0 < radix) (h : natural radix limit (trim text) = .ok n) :
    Spells radix text n :=
  ((natural_trim_eq_ok_iff positive).1 h).1

namespace Spells

theorem natural_of_lt (h : Spells radix text n) (beyond : limit < n) :
    natural radix limit (trim text) = .error .tooLarge := by
  obtain ⟨digits, sign, nonempty, all, rfl⟩ := h
  exact natural_eq_tooLarge nonempty all sign beyond

/-- A text spells one number at most. -/
theorem unique {other : Nat} (positive : 0 < radix) (h : Spells radix text n)
    (h' : Spells radix text other) : n = other := by
  have read := (natural_trim_eq_ok_iff positive).2 ⟨h, Nat.le_max_left n other⟩
  have read' := (natural_trim_eq_ok_iff positive).2 ⟨h', Nat.le_max_right n other⟩
  exact Except.ok.inj (read.symm.trans read')

/-- Neither a digit nor the sign nor a blank is anything else. -/
theorem notMem (h : Spells radix text n) {c : Char} (no_digit : digit? radix c = none)
    (no_sign : c ≠ '+') (no_blank : isBlank c = false) : c ∉ text := by
  obtain ⟨digits, sign, -, all, -⟩ := h
  have none_here : c ∉ digits := by
    intro mem
    obtain ⟨d, known⟩ := all c mem
    rw [no_digit] at known
    cases known
  have trimmed : c ∉ trim text := by
    rcases sign with same | same <;> simp [same, none_here, no_sign]
  rwa [mem_trim_iff no_blank] at trimmed

end Spells

/-! ### Written numbers -/

theorem digits_toDigits (big : 1 < radix) (known : radix ≤ 16) (n : Nat) :
    ∀ c ∈ Nat.toDigits radix n, ∃ d, digit? radix c = some d := by
  intro c hc
  obtain ⟨d, small, rfl⟩ := exists_digitChar_of_mem_toDigits big hc
  exact ⟨d, digit?_digitChar known small⟩

theorem not_blank_toDigits (big : 1 < radix) (known : radix ≤ 16) (n : Nat) :
    ∀ c ∈ Nat.toDigits radix n, isBlank c = false := by
  intro c hc
  obtain ⟨d, digit⟩ := digits_toDigits big known n c hc
  exact not_blank_of_digit (Option.isSome_of_eq_some digit)

theorem toList_toString (n : Nat) : (toString n).toList = Nat.toDigits 10 n :=
  String.toList_ofList

theorem spells_toString (n : Nat) : Spells 10 (toString n).toList n := by
  rw [toList_toString]
  refine ⟨Nat.toDigits 10 n, .inl (trim_of_no_blank (not_blank_toDigits ?_ ?_ n)),
    Nat.toDigits_ne_nil, digits_toDigits ?_ ?_ n, value_toDigits ?_ ?_ n⟩
  all_goals decide

theorem toList_toString_negSucc (n : Nat) :
    (toString (Int.negSucc n)).toList = '-' :: Nat.toDigits 10 (n + 1) := by
  show ("-" ++ toString (n + 1)).toList = _
  rw [String.toList_append, toList_toString]
  rfl

/-- A written integer has digits in it and perhaps a minus sign. -/
theorem digit_of_mem_toString {n : Int} {c : Char} (h : c ∈ (toString n).toList) :
    c = '-' ∨ ∃ d, digit? 10 c = some d := by
  have digits := @digits_toDigits 10 (by decide) (by decide)
  cases n with
  | ofNat m => exact .inr (digits m c (toList_toString m ▸ h))
  | negSucc m =>
    rw [toList_toString_negSucc, List.mem_cons] at h
    exact h.imp_right (digits (m + 1) c)

/-- A written integer is read as what it was, if its type holds it. -/
theorem integer_toString {n : Int} (low : -(limit + 1 : Int) ≤ n) (high : n ≤ limit) :
    integer 10 limit (toString n).toList = .ok n := by
  have digits := @digits_toDigits 10 (by decide) (by decide)
  have known := @value_toDigits 10 (by decide) (by decide)
  cases n with
  | ofNat m =>
    have fits : m ≤ limit := Int.ofNat_le.1 high
    have read : natural 10 limit (Nat.toDigits 10 m) = .ok m :=
      (natural_eq_ok_iff (by decide) _ _).2
        ⟨_, .inl rfl, Nat.toDigits_ne_nil, digits m, known m, fits⟩
    show integer 10 limit (toString m).toList = _
    rw [toList_toString, integer, read]
    · rfl
    · -- A digit in front is no minus sign.
      intro d rest same
      obtain ⟨_, digit⟩ := digits m '-' (by rw [same]; exact List.mem_cons_self)
      have other : digit? 10 '-' = none := by decide
      rw [other] at digit
      cases digit
  | negSucc m =>
    have read : magnitude 10 (limit + 1) .tooSmall 0 (Nat.toDigits 10 (m + 1)) = .ok (m + 1) := by
      refine (magnitude_eq_ok_iff (by decide) _ _ (Nat.zero_le _) _).2 ⟨digits _, ?_, by omega⟩
      rw [known, Nat.zero_mul, Nat.zero_add]
    rw [toList_toString_negSucc]
    cases written : Nat.toDigits 10 (m + 1) with
    | nil => exact absurd written Nat.toDigits_ne_nil
    | cons d rest =>
      rw [written] at read
      rw [integer, read]
      rfl

end ReadoutCard.Text
