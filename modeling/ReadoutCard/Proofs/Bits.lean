import Mathlib.Algebra.Group.Nat.Defs
import ReadoutCard.Bits

/-!
# Register words bit by bit

`Bits.bit` tests a bit by shifting it down to the lowest place. Proofs test
bits of the word's number instead; `bit_eq_testBit` says that this is the same.
`testBit_field` and `testBit_setField` say which bits a field has and which bits
setting one leaves, and the laws of fields follow from these two.
-/

namespace ReadoutCard.Bits

/-- A position is taken modulo the word's length, and so as it is. -/
theorem toNat_position {position : Nat} (h : position < 32) :
    (UInt32.ofNat position).toNat % 32 = position := by
  simp only [UInt32.toNat_ofNat']
  omega

/-- Shifting a bit down and masking it is testing it. -/
theorem bit_eq_testBit (word : UInt32) {position : Nat} (h : position < 32) :
    bit word position = word.toNat.testBit position := by
  have low : (word >>> UInt32.ofNat position &&& 1).toNat =
      (word.toNat >>> position) &&& 1 := by
    rw [UInt32.toNat_and, UInt32.toNat_shiftRight, toNat_position h]
    rfl
  apply Bool.eq_iff_iff.mpr
  rw [bit, beq_iff_eq, ← UInt32.toNat_inj, low, Nat.testBit_eq_decide_div_mod_eq,
    decide_eq_true_iff, Nat.shiftRight_eq_div_pow, Nat.and_one_is_mod]
  rfl

/-- A word has none of the bits of a mask set if and only if their conjunction is zero. -/
theorem and_eq_zero_iff (word mask : UInt32) :
    word &&& mask = 0 ↔ ∀ i, mask.toNat.testBit i = true → word.toNat.testBit i = false := by
  rw [← UInt32.toNat_inj, UInt32.toNat_and, Nat.eq_iff_testBit_eq]
  simp only [UInt32.toNat_zero, Nat.zero_testBit, Nat.testBit_and, Bool.and_eq_false_iff]
  constructor
  · intro h i hi
    cases h i with
    | inl h => exact h
    | inr h => simp [hi] at h
  · intro h i
    cases hi : mask.toNat.testBit i with
    | true => exact .inl (h i hi)
    | false => exact .inr rfl

/-! ### Words by their bits -/

theorem testBit_of_ge (word : UInt32) {i : Nat} (h : 32 ≤ i) : word.toNat.testBit i = false :=
  Nat.testBit_lt_two_pow (Nat.lt_of_lt_of_le word.toNat_lt (Nat.pow_le_pow_right (by decide) h))

/-- Words with the same bits are the same. -/
theorem eq_of_testBit {a b : UInt32} (h : ∀ i, a.toNat.testBit i = b.toNat.testBit i) : a = b :=
  UInt32.toNat_inj.mp (Nat.eq_of_testBit_eq h)

/-- Only the 32 bits of a word need to be compared. -/
theorem eq_of_testBit_lt {a b : UInt32}
    (h : ∀ i < 32, a.toNat.testBit i = b.toNat.testBit i) : a = b := by
  apply eq_of_testBit
  intro i
  rcases Nat.lt_or_ge i 32 with low | high
  · exact h i low
  · rw [testBit_of_ge a high, testBit_of_ge b high]

/-- Words that agree under a mask still do after the same bits are set in both. -/
theorem or_and_congr {a b mask : UInt32} (same : a &&& mask = b &&& mask) (word : UInt32) :
    (a ||| word) &&& mask = (b ||| word) &&& mask := by
  have := congrArg UInt32.toNat same
  rw [UInt32.toNat_and, UInt32.toNat_and] at this
  apply UInt32.toNat_inj.1
  rw [UInt32.toNat_and, UInt32.toNat_and, UInt32.toNat_or, UInt32.toNat_or,
    Nat.and_or_distrib_right, Nat.and_or_distrib_right, this]

theorem testBit_shiftRight (word : UInt32) {lsb : Nat} (h : lsb < 32) (i : Nat) :
    (word >>> UInt32.ofNat lsb).toNat.testBit i = word.toNat.testBit (lsb + i) := by
  rw [UInt32.toNat_shiftRight, toNat_position h, Nat.testBit_shiftRight]

theorem testBit_shiftLeft (word : UInt32) {lsb : Nat} (h : lsb < 32) (i : Nat) :
    (word <<< UInt32.ofNat lsb).toNat.testBit i =
      (decide (i < 32) && (decide (lsb ≤ i) && word.toNat.testBit (i - lsb))) := by
  rw [UInt32.toNat_shiftLeft, toNat_position h, Nat.testBit_mod_two_pow, Nat.testBit_shiftLeft]

theorem testBit_not (word : UInt32) (i : Nat) :
    (~~~word).toNat.testBit i = (decide (i < 32) && !word.toNat.testBit i) := by
  have complement : (~~~word).toNat = 2 ^ 32 - (word.toNat + 1) := by
    have size : UInt32.size = 2 ^ 32 := rfl
    rw [UInt32.toNat_not, size]
    omega
  rw [complement]
  exact Nat.testBit_two_pow_sub_succ word.toNat_lt i

theorem toNat_mask (width : Nat) : (mask width).toNat = 2 ^ min width 32 - 1 := by
  unfold mask
  split
  case isTrue wide =>
    rw [Nat.min_eq_right wide]
    rfl
  case isFalse narrow =>
    have low : width < 32 := by omega
    have shifted : (1 <<< UInt32.ofNat width : UInt32).toNat = 2 ^ width := by
      rw [UInt32.toNat_shiftLeft, toNat_position low, UInt32.toNat_one, Nat.one_shiftLeft]
      exact Nat.mod_eq_of_lt (Nat.pow_lt_pow_right (by decide) low)
    have one : (1 : UInt32) ≤ 1 <<< UInt32.ofNat width := by
      rw [UInt32.le_iff_toNat_le, shifted]
      exact Nat.one_le_two_pow
    rw [UInt32.toNat_sub_of_le _ _ one, shifted, Nat.min_eq_left (by omega)]
    rfl

theorem testBit_mask (width i : Nat) :
    (mask width).toNat.testBit i = (decide (i < width) && decide (i < 32)) := by
  rw [toNat_mask, Nat.testBit_two_pow_sub_one, ← Bool.decide_and]
  congr 1
  rw [Nat.lt_min]

/-! ### Fields -/

/-- A field has the bits of the word from its lowest bit on, as many as it is wide. -/
theorem testBit_field (word : UInt32) {lsb : Nat} (h : lsb < 32) (width i : Nat) :
    (field word lsb width).toNat.testBit i =
      (decide (i < width) && word.toNat.testBit (lsb + i)) := by
  rw [field, UInt32.toNat_and, Nat.testBit_and, testBit_shiftRight word h, testBit_mask]
  rcases Nat.lt_or_ge i 32 with low | high
  · simp [low, Bool.and_comm]
  · rw [testBit_of_ge word (by omega)]
    simp

/-- Inside a field that was set stand the bits of its value, outside those of the word. -/
theorem testBit_setField (word : UInt32) {lsb : Nat} (h : lsb < 32) (width : Nat) (value : UInt32)
    {i : Nat} (hi : i < 32) : (setField word lsb width value).toNat.testBit i =
      if lsb ≤ i ∧ i < lsb + width then value.toNat.testBit (i - lsb)
      else word.toNat.testBit i := by
  simp only [setField, UInt32.toNat_or, UInt32.toNat_and, Nat.testBit_or, Nat.testBit_and,
    testBit_not, testBit_shiftLeft _ h, testBit_mask, hi]
  by_cases above : lsb ≤ i
  · have width_iff : (i - lsb < width) ↔ i < lsb + width := by omega
    have small : i - lsb < 32 := by omega
    by_cases within : i < lsb + width <;> simp [above, small, width_iff, within]
  · simp [above]

/-- A field that was set has the low bits of its value, up to bit 31 of the word. -/
theorem toNat_field_setField (word : UInt32) {lsb : Nat} (h : lsb < 32) (width : Nat)
    (value : UInt32) : (field (setField word lsb width value) lsb width).toNat =
      value.toNat % 2 ^ min width (32 - lsb) := by
  apply Nat.eq_of_testBit_eq
  intro i
  rw [testBit_field _ h, Nat.testBit_mod_two_pow]
  rcases Nat.lt_or_ge (lsb + i) 32 with low | high
  · have kept : i < min width (32 - lsb) ↔ i < width := by omega
    by_cases inside : i < width
    · rw [testBit_setField word h width value low, if_pos (by omega), Nat.add_sub_cancel_left]
      simp [kept, inside]
    · simp [kept, inside]
  · have cut : ¬ i < min width (32 - lsb) := by omega
    rw [testBit_of_ge _ high]
    simp [cut]

/-- A field that was set to a value that fits has that value. -/
theorem field_setField_self (word : UInt32) {lsb width : Nat} (h : lsb + width ≤ 32)
    (pos : 0 < width) {value : UInt32} (fits : value.toNat < 2 ^ width) :
    field (setField word lsb width value) lsb width = value := by
  apply UInt32.toNat_inj.mp
  rw [toNat_field_setField word (by omega), Nat.min_eq_left (by omega), Nat.mod_eq_of_lt fits]

/-- Two fields, each by its lowest bit and its width, have no bit in common. -/
def Apart (lsb width lsb' width' : Nat) : Prop :=
  ∀ i, ¬ ((lsb ≤ i ∧ i < lsb + width) ∧ lsb' ≤ i ∧ i < lsb' + width')

theorem apart_of_le {lsb width lsb' width' : Nat}
    (h : lsb' + width' ≤ lsb ∨ lsb + width ≤ lsb') : Apart lsb width lsb' width' := by
  intro i
  omega

theorem Apart.symm {lsb width lsb' width' : Nat} (h : Apart lsb width lsb' width') :
    Apart lsb' width' lsb width :=
  fun i both => h i both.symm

/-- Setting one field leaves a field apart from it alone. -/
theorem field_setField_of_apart (word : UInt32) {lsb width lsb' width' : Nat} (h : lsb < 32)
    (h' : lsb' < 32) (apart : Apart lsb width lsb' width') (value : UInt32) :
    field (setField word lsb width value) lsb' width' = field word lsb' width' := by
  apply eq_of_testBit
  intro i
  rw [testBit_field _ h', testBit_field _ h']
  by_cases inside : i < width'
  · rcases Nat.lt_or_ge (lsb' + i) 32 with low | high
    · have outside : ¬ (lsb ≤ lsb' + i ∧ lsb' + i < lsb + width) := fun within =>
        apart (lsb' + i) ⟨within, by omega, by omega⟩
      rw [testBit_setField word h width value low, if_neg outside]
    · rw [testBit_of_ge _ high, testBit_of_ge _ high]
  · simp [inside]

/-- Where a mask leaves the field out, setting the field makes no difference. -/
theorem setField_and_of_outside (word : UInt32) {lsb : Nat} (h : lsb < 32) (width : Nat)
    (value : UInt32) {outside : UInt32}
    (apart : ∀ i, lsb ≤ i → i < lsb + width → outside.toNat.testBit i = false) :
    setField word lsb width value &&& outside = word &&& outside := by
  apply eq_of_testBit
  intro i
  rw [UInt32.toNat_and, UInt32.toNat_and, Nat.testBit_and, Nat.testBit_and]
  rcases Nat.lt_or_ge i 32 with low | high
  · rw [testBit_setField word h width value low]
    split
    case isTrue inside => rw [apart i inside.1 inside.2, Bool.and_false, Bool.and_false]
    case isFalse => rfl
  · rw [testBit_of_ge outside high, Bool.and_false, Bool.and_false]

end ReadoutCard.Bits
