import Mathlib.Data.Nat.Digits.Defs
import ReadoutCard.Text.Hex
import ReadoutCard.Text.Numeral

/-!
# The values of numerals

The digits of a numeral have a value (`value`), and reading them gives it if it
is within the limit (`magnitude_eq_ok_iff`, by induction on the digits); a
numeral may have a sign in front (`natural_eq_ok_iff`). The digits that a
number is written in have its value (`value_toDigits`), in hexadecimal also
after zeros (`value_toList_hexPadded`), and digits of a given length are told
by their value (`eq_of_value_eq`), so that lowercase digits are how a number is
written exactly if it is their value (`eq_toList_hexPadded_iff`).
-/

namespace ReadoutCard.Text

namespace Numeral

/-- The value of a digit, zero for other characters. -/
def digitOf (c : Char) : Nat := (digitValue? c).getD 0

/-- The value of digits, the first one the highest. -/
def value (radix : Nat) (digits : List Char) : Nat :=
  Nat.ofDigits radix (digits.reverse.map digitOf)

variable {radix limit : Nat}

theorem value_singleton (c : Char) : value radix [c] = digitOf c := Nat.ofDigits_singleton ..

theorem value_append (front back : List Char) :
    value radix (front ++ back) = value radix front * radix ^ back.length + value radix back := by
  rw [value, List.reverse_append, List.map_append, Nat.ofDigits_append, List.length_map,
    List.length_reverse, Nat.mul_comm, Nat.add_comm]
  rfl

theorem value_cons (c : Char) (rest : List Char) :
    value radix (c :: rest) = digitOf c * radix ^ rest.length + value radix rest := by
  rw [← List.singleton_append, value_append, value_singleton]

/-- Leading zeros do not count. -/
theorem value_zeros_append (zeros : Nat) (digits : List Char) :
    value radix (List.replicate zeros '0' ++ digits) = value radix digits := by
  have nothing : value radix (List.replicate zeros '0') = 0 := by
    induction zeros with
    | zero => rfl
    | succ zeros ih =>
      have zero : digitOf '0' = 0 := by decide
      rw [List.replicate_succ, value_cons, ih, zero, Nat.zero_mul]
  rw [value_append, nothing, Nat.zero_mul, Nat.zero_add]

theorem digitOf_of_digit? {c : Char} {d : Nat} (h : digit? radix c = some d) :
    digitOf c = d ∧ d < radix := by
  obtain ⟨known, small⟩ := Option.filter_eq_some_iff.1 h
  rw [digitOf, known]
  exact ⟨rfl, of_decide_eq_true small⟩

/-- Digits are read if all of them are digits and the value stays within the limit. -/
theorem magnitude_eq_ok_iff (positive : 0 < radix) (excess : NumeralError) (text : List Char)
    {read : Nat} (small : read ≤ limit) (n : Nat) :
    magnitude radix limit excess read text = .ok n ↔
      (∀ c ∈ text, ∃ d, digit? radix c = some d) ∧
        n = read * radix ^ text.length + value radix text ∧ n ≤ limit := by
  induction text generalizing read with
  | nil =>
    have nothing : value radix [] = 0 := rfl
    simp only [magnitude, Except.ok.injEq, nothing, List.length_nil, pow_zero]
    constructor
    · rintro rfl
      exact ⟨by simp, by omega, small⟩
    · rintro ⟨-, rfl, -⟩
      omega
  | cons c rest ih =>
    have raise (d : Nat) : read * radix ^ (rest.length + 1) + (d * radix ^ rest.length) =
        (read * radix + d) * radix ^ rest.length := by
      rw [Nat.pow_succ, Nat.add_mul, Nat.mul_assoc, Nat.mul_comm radix]
    rw [magnitude, value_cons, List.length_cons, ← Nat.add_assoc, raise]
    cases digit : digit? radix c with
    | none =>
      constructor
      · intro absurd
        cases absurd
      · rintro ⟨all, -⟩
        obtain ⟨d, known⟩ := all c List.mem_cons_self
        rw [digit] at known
        cases known
    | some d =>
      rw [(digitOf_of_digit? digit).1]
      show (if read * radix + d ≤ limit then _ else _) = _ ↔ _
      by_cases fits : read * radix + d ≤ limit
      · rw [if_pos fits, ih fits, List.forall_mem_cons, digit]
        simp
      · rw [if_neg fits]
        constructor
        · intro absurd
          cases absurd
        · -- Further digits make the value no smaller.
          rintro ⟨-, rfl, within⟩
          have one := Nat.pow_pos (n := rest.length) positive
          have grows := Nat.le_mul_of_pos_right (read * radix + d) one
          omega

/-- Digits whose value grows beyond the limit fail with the excess: all of them are digits. -/
theorem magnitude_eq_excess {excess : NumeralError} {text : List Char}
    (digits : ∀ c ∈ text, ∃ d, digit? radix c = some d) {read : Nat} (small : read ≤ limit)
    (beyond : limit < read * radix ^ text.length + value radix text) :
    magnitude radix limit excess read text = .error excess := by
  induction text generalizing read with
  | nil =>
    have nothing : value radix [] = 0 := rfl
    rw [nothing, List.length_nil, pow_zero] at beyond
    omega
  | cons c rest ih =>
    obtain ⟨⟨d, known⟩, others⟩ := List.forall_mem_cons.1 digits
    rw [value_cons, (digitOf_of_digit? known).1, List.length_cons, Nat.pow_succ, Nat.mul_comm _ radix,
      ← Nat.mul_assoc, ← Nat.add_assoc, ← Nat.add_mul] at beyond
    rw [magnitude, known]
    show (if read * radix + d ≤ limit then _ else _) = _
    split
    case isTrue fits => exact ih others fits beyond
    case isFalse => rfl

theorem digit?_plus : digit? radix '+' = none := by
  have unknown : digitValue? '+' = none := by decide
  rw [digit?, unknown]
  rfl

/-- Digits with no sign are read from the first one on. -/
theorem natural_of_digits {digits : List Char} (nonempty : digits ≠ [])
    (all : ∀ c ∈ digits, ∃ d, digit? radix c = some d) {text : List Char}
    (sign : text = digits ∨ text = '+' :: digits) :
    natural radix limit text = magnitude radix limit .tooLarge 0 digits := by
  cases digits with
  | nil => exact absurd rfl nonempty
  | cons c rest =>
    rcases sign with rfl | rfl
    · have unsigned : c ≠ '+' := by
        rintro rfl
        obtain ⟨d, known⟩ := all '+' List.mem_cons_self
        rw [digit?_plus] at known
        cases known
      rw [natural]
      · nofun
      · intro d more same
        exact unsigned (List.cons.inj same).1
    · rfl

/-- An unsigned numeral has digits, perhaps after a sign, and their value is within the limit. -/
theorem natural_eq_ok_iff (positive : 0 < radix) (text : List Char) (n : Nat) :
    natural radix limit text = .ok n ↔ ∃ digits, (text = digits ∨ text = '+' :: digits) ∧
      digits ≠ [] ∧ (∀ c ∈ digits, ∃ d, digit? radix c = some d) ∧ value radix digits = n ∧
      n ≤ limit := by
  have read (digits : List Char) : magnitude radix limit .tooLarge 0 digits = .ok n ↔
      (∀ c ∈ digits, ∃ d, digit? radix c = some d) ∧ n = value radix digits ∧ n ≤ limit := by
    rw [magnitude_eq_ok_iff positive _ _ (Nat.zero_le limit), Nat.zero_mul, Nat.zero_add]
  constructor
  · intro h
    unfold natural at h
    split at h
    · cases h
    case h_2 d rest =>
      obtain ⟨all, rfl, fits⟩ := (read _).1 h
      exact ⟨d :: rest, .inr rfl, by simp, all, rfl, fits⟩
    case h_3 nonempty _ =>
      obtain ⟨all, rfl, fits⟩ := (read _).1 h
      exact ⟨text, .inl rfl, nonempty, all, rfl, fits⟩
  · rintro ⟨digits, sign, some, all, rfl, fits⟩
    rw [natural_of_digits some all sign]
    exact (read digits).2 ⟨all, rfl, fits⟩

/-- A numeral whose value is beyond the limit is too large. -/
theorem natural_eq_tooLarge {digits : List Char} (nonempty : digits ≠ [])
    (all : ∀ c ∈ digits, ∃ d, digit? radix c = some d) {text : List Char}
    (sign : text = digits ∨ text = '+' :: digits) (beyond : limit < value radix digits) :
    natural radix limit text = .error .tooLarge := by
  rw [natural_of_digits nonempty all sign]
  apply magnitude_eq_excess all (Nat.zero_le limit)
  rwa [Nat.zero_mul, Nat.zero_add]

/-! ### Written digits -/

theorem digitValue?_digitChar {d : Nat} (h : d < 16) : digitValue? (Nat.digitChar d) = some d := by
  have all : ∀ d < 16, digitValue? (Nat.digitChar d) = some d := by decide
  exact all d h

theorem digitOf_digitChar {d : Nat} (h : d < 16) : digitOf (Nat.digitChar d) = d := by
  rw [digitOf, digitValue?_digitChar h]
  rfl

theorem digit?_digitChar (known : radix ≤ 16) {d : Nat} (h : d < radix) :
    digit? radix (Nat.digitChar d) = some d := by
  rw [digit?, digitValue?_digitChar (Nat.lt_of_lt_of_le h known), Option.filter_some,
    if_pos (decide_eq_true h)]

theorem exists_digitChar_of_mem_toDigits (big : 1 < radix) {n : Nat} {c : Char}
    (h : c ∈ Nat.toDigits radix n) : ∃ d < radix, c = Nat.digitChar d := by
  induction n using Nat.strongRecOn with
  | ind n ih =>
    by_cases small : n < radix
    · rw [Nat.toDigits_of_lt_base small] at h
      exact ⟨n, small, List.mem_singleton.1 h⟩
    · rw [Nat.toDigits_of_base_le big (by omega)] at h
      rcases List.mem_append.1 h with front | last
      · exact ih (n / radix) (Nat.div_lt_self (by omega) big) front
      · exact ⟨n % radix, Nat.mod_lt n (by omega), List.mem_singleton.1 last⟩

theorem value_toDigits (big : 1 < radix) (known : radix ≤ 16) (n : Nat) :
    value radix (Nat.toDigits radix n) = n := by
  induction n using Nat.strongRecOn with
  | ind n ih =>
    by_cases small : n < radix
    · rw [Nat.toDigits_of_lt_base small, value_singleton, digitOf_digitChar (by omega)]
    · have last := Nat.mod_lt n (show radix > 0 by omega)
      rw [Nat.toDigits_of_base_le big (by omega), value_append,
        ih (n / radix) (Nat.div_lt_self (by omega) big), value_singleton,
        digitOf_digitChar (by omega), List.length_singleton, pow_one]
      exact Nat.div_add_mod' n radix

end Numeral

/-- A lowercase hexadecimal digit. -/
def IsHexDigit (c : Char) : Prop := ('0' ≤ c ∧ c ≤ '9') ∨ ('a' ≤ c ∧ c ≤ 'f')

instance : DecidablePred IsHexDigit := fun c =>
  inferInstanceAs (Decidable (('0' ≤ c ∧ c ≤ '9') ∨ ('a' ≤ c ∧ c ≤ 'f')))

open Numeral

variable {c : Char} {digits digits' : List Char}

/-! ### Hexadecimal digits -/

theorem toNat_lt_of_isHexDigit (h : IsHexDigit c) : c.toNat < 128 := by
  rcases h with ⟨-, high⟩ | ⟨-, high⟩
  · exact Nat.lt_of_le_of_lt (show c.toNat ≤ '9'.toNat from high) (by decide)
  · exact Nat.lt_of_le_of_lt (show c.toNat ≤ 'f'.toNat from high) (by decide)

theorem exists_digitChar (h : IsHexDigit c) : ∃ d < 16, c = Nat.digitChar d := by
  have all : ∀ k < 128, IsHexDigit (Char.ofNat k) → ∃ d < 16, Char.ofNat k = Nat.digitChar d := by
    decide
  have same := all c.toNat (toNat_lt_of_isHexDigit h)
  rw [Char.ofNat_toNat] at same
  exact same h

theorem isHexDigit_digitChar {d : Nat} (h : d < 16) : IsHexDigit (Nat.digitChar d) := by
  have all : ∀ d < 16, IsHexDigit (Nat.digitChar d) := by decide
  exact all d h

theorem digitOf_lt (h : IsHexDigit c) : digitOf c < 16 := by
  obtain ⟨d, small, rfl⟩ := exists_digitChar h
  rw [digitOf_digitChar small]
  exact small

theorem digitChar_digitOf (h : IsHexDigit c) : Nat.digitChar (digitOf c) = c := by
  obtain ⟨d, small, rfl⟩ := exists_digitChar h
  rw [digitOf_digitChar small]

/-- Hexadecimal digits within the limit are read as their value. -/
theorem natural_digits {limit : Nat} (h : ∀ c ∈ digits, IsHexDigit c) (some : digits ≠ [])
    (fits : value 16 digits ≤ limit) : natural 16 limit digits = .ok (value 16 digits) := by
  apply (natural_eq_ok_iff (by decide) digits _).2
  refine ⟨digits, .inl rfl, some, ?_, rfl, fits⟩
  intro c hc
  obtain ⟨d, small, rfl⟩ := exists_digitChar (h c hc)
  exact ⟨d, digit?_digitChar (by decide) small⟩

theorem lt_of_mem_map_digitOf (h : ∀ c ∈ digits, IsHexDigit c) :
    ∀ d ∈ digits.reverse.map digitOf, d < 16 := by
  intro d hd
  obtain ⟨c, hc, rfl⟩ := List.mem_map.1 hd
  exact digitOf_lt (h c (List.mem_reverse.1 hc))

theorem value_lt (h : ∀ c ∈ digits, IsHexDigit c) : value 16 digits < 16 ^ digits.length := by
  have := Nat.ofDigits_lt_base_pow_length (by decide : 1 < 16) (lt_of_mem_map_digitOf h)
  rwa [List.length_map, List.length_reverse] at this

/-- Hexadecimal digits are told by their number and value. -/
theorem eq_of_value_eq (h : ∀ c ∈ digits, IsHexDigit c) (h' : ∀ c ∈ digits', IsHexDigit c)
    (length : digits.length = digits'.length) (same : value 16 digits = value 16 digits') :
    digits = digits' := by
  have values : digits.map digitOf = digits'.map digitOf := by
    have reversed := Nat.ofDigits_inj_of_len_eq (by decide) (by simpa using length)
      (lt_of_mem_map_digitOf h) (lt_of_mem_map_digitOf h') same
    rwa [List.map_reverse, List.map_reverse, List.reverse_inj] at reversed
  have back {digits : List Char} (h : ∀ c ∈ digits, IsHexDigit c) :
      (digits.map digitOf).map Nat.digitChar = digits := by
    rw [List.map_map]
    exact (List.map_congr_left fun c hc => digitChar_digitOf (h c hc)).trans (List.map_id digits)
  rw [← back h, values, back h']

/-! ### Numbers in hexadecimal -/

theorem toList_hexPadded (width n : Nat) : (hexPadded width n).toList =
    List.replicate (width - (Nat.toDigits 16 n).length) '0' ++ Nat.toDigits 16 n :=
  String.toList_ofList

theorem isHexDigit_of_mem_toDigits {n : Nat} (h : c ∈ Nat.toDigits 16 n) : IsHexDigit c := by
  obtain ⟨d, small, rfl⟩ := exists_digitChar_of_mem_toDigits (by decide) h
  exact isHexDigit_digitChar small

theorem isHexDigit_of_mem_hexPadded {width n : Nat} (h : c ∈ (hexPadded width n).toList) :
    IsHexDigit c := by
  rw [toList_hexPadded] at h
  rcases List.mem_append.1 h with zero | digit
  · rw [List.eq_of_mem_replicate zero]
    decide
  · exact isHexDigit_of_mem_toDigits digit

theorem value_toList_hexPadded (width n : Nat) : value 16 (hexPadded width n).toList = n := by
  rw [toList_hexPadded, value_zeros_append, value_toDigits (by decide) (by decide)]

theorem length_toList_hexPadded {width n : Nat} (positive : 0 < width) (h : n < 16 ^ width) :
    (hexPadded width n).toList.length = width := by
  have := (Nat.length_toDigits_le_iff (by decide) positive).2 h
  rw [toList_hexPadded, List.length_append, List.length_replicate]
  omega

/-- Digits are how a number is written exactly if it is their value. -/
theorem eq_toList_hexPadded_iff {width n : Nat} (h : ∀ c ∈ digits, IsHexDigit c)
    (length : digits.length = width) (positive : 0 < width) (fits : n < 16 ^ width) :
    digits = (hexPadded width n).toList ↔ value 16 digits = n := by
  have same_length := length.trans (length_toList_hexPadded positive fits).symm
  constructor
  · rintro rfl
    exact value_toList_hexPadded width n
  · intro same
    refine eq_of_value_eq h (fun c => isHexDigit_of_mem_hexPadded) same_length ?_
    rw [same, value_toList_hexPadded]

/-- One digit is how a number below 16 is written exactly if it is its value. -/
theorem eq_digitChar_iff {n : Nat} (h : IsHexDigit c) (fits : n < 16) :
    c = Nat.digitChar n ↔ value 16 [c] = n := by
  rw [value_singleton]
  constructor
  · rintro rfl
    exact digitOf_digitChar fits
  · rintro rfl
    exact (digitChar_digitOf h).symm

end ReadoutCard.Text
