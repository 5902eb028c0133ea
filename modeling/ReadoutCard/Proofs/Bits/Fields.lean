import ReadoutCard.Proofs.Bits

/-!
# The laws of bit fields

A field may be as wide as the word or wider, and may run past bit 31. Which
bits it has and which bits setting it leaves (`testBit_field`,
`testBit_setField`) decides all of its laws: what is read after a setting, how
two settings of one field or of two fields that lie apart go together, and that
a single bit is a field of width one.
-/

namespace ReadoutCard.Bits

variable (word : UInt32) {lsb : Nat}

/-! ### Two settings -/

/-- Of two settings of one field the later one counts. -/
theorem setField_setField (h : lsb < 32) (width : Nat) (value later : UInt32) :
    setField (setField word lsb width value) lsb width later = setField word lsb width later := by
  apply eq_of_testBit_lt
  intro i low
  rw [testBit_setField _ h width later low, testBit_setField word h width later low]
  split
  case isTrue => rfl
  case isFalse outside => rw [testBit_setField word h width value low, if_neg outside]

/-- Setting a field to what it has changes nothing. -/
theorem setField_field (h : lsb < 32) (width : Nat) :
    setField word lsb width (field word lsb width) = word := by
  apply eq_of_testBit_lt
  intro i low
  rw [testBit_setField word h width _ low]
  split
  case isTrue inside =>
    have within : i - lsb < width := by omega
    have place : lsb + (i - lsb) = i := by omega
    rw [testBit_field word h, place]
    simp [within]
  case isFalse => rfl

/-- Settings of fields that lie apart may be made in either order. -/
theorem setField_comm {width lsb' width' : Nat} (h : lsb < 32) (h' : lsb' < 32)
    (apart : Apart lsb width lsb' width') (value value' : UInt32) :
    setField (setField word lsb width value) lsb' width' value' =
      setField (setField word lsb' width' value') lsb width value := by
  apply eq_of_testBit_lt
  intro i low
  rw [testBit_setField _ h' width' value' low, testBit_setField word h width value low,
    testBit_setField _ h width value low, testBit_setField word h' width' value' low]
  by_cases first : lsb ≤ i ∧ i < lsb + width
  · have second : ¬ (lsb' ≤ i ∧ i < lsb' + width') := fun inside => apart i ⟨first, inside⟩
    rw [if_neg second, if_pos first, if_pos first]
  · rw [if_neg first, if_neg first]

/-! ### Single bits -/

theorem testBit_setBit {position : Nat} (h : position < 32) (on : Bool) {i : Nat} (hi : i < 32) :
    (setBit word position on).toNat.testBit i =
      if i = position then on else word.toNat.testBit i := by
  rw [setBit, testBit_setField word h 1 _ hi]
  by_cases same : i = position
  · rw [if_pos (by omega), if_pos same, same, Nat.sub_self]
    cases on <;> rfl
  · rw [if_neg (by omega), if_neg same]

/-- A bit is set if and only if the field of it alone is one. -/
theorem bit_iff_field {position : Nat} : bit word position = true ↔ field word position 1 = 1 := by
  have one : mask 1 = 1 := by decide
  rw [bit, field, one, beq_iff_eq]

/-- **The laws of fields.** Setting a field of any width gives its bits those of the value, from
the lowest on, and leaves all others; reading one gives the bits of the word from its lowest on, as
many as the field is wide and the word has. So what is read after a setting is the value cut to the
bits of the field up to bit 31, a second setting takes the place of the first, and setting a field
to what it has changes nothing. Settings of two fields with no bit in common may be made in either
order, and neither is seen in the other field. A bit is the field of it alone. -/
theorem laws_of_fields (word value : UInt32) {lsb : Nat} (h : lsb < 32) (width : Nat) :
    (∀ i < 32, (setField word lsb width value).toNat.testBit i =
      if lsb ≤ i ∧ i < lsb + width then value.toNat.testBit (i - lsb)
      else word.toNat.testBit i) ∧
    (∀ i, (field word lsb width).toNat.testBit i =
      if i < width ∧ i + lsb < 32 then word.toNat.testBit (i + lsb) else false) ∧
    (field (setField word lsb width value) lsb width).toNat =
      value.toNat % 2 ^ min width (32 - lsb) ∧
    (∀ later, setField (setField word lsb width value) lsb width later =
      setField word lsb width later) ∧
    setField word lsb width (field word lsb width) = word ∧
    (∀ lsb' < 32, ∀ width' value', Apart lsb width lsb' width' →
      setField (setField word lsb width value) lsb' width' value' =
        setField (setField word lsb' width' value') lsb width value ∧
      field (setField word lsb width value) lsb' width' = field word lsb' width' ∧
      field (setField word lsb' width' value') lsb width = field word lsb width) ∧
    (∀ on, setBit word lsb on = setField word lsb 1 (if on then 1 else 0) ∧
      ∀ i < 32, (setBit word lsb on).toNat.testBit i =
        if i = lsb then on else word.toNat.testBit i) ∧
    (bit word lsb = true ↔ field word lsb 1 = 1) ∧ bit word lsb = word.toNat.testBit lsb := by
  refine ⟨fun i hi => testBit_setField word h width value hi, ?_,
    toNat_field_setField word h width value, setField_setField word h width value,
    setField_field word h width, ?_, fun on => ⟨rfl, fun i hi => testBit_setBit word h on hi⟩,
    bit_iff_field word, bit_eq_testBit word h⟩
  · intro i
    rw [testBit_field word h, Nat.add_comm lsb]
    split
    case isTrue inside => simp [inside.1]
    case isFalse outside =>
      by_cases narrow : i < width
      · rw [testBit_of_ge word (by omega), Bool.and_false]
      · simp [narrow]
  · intro lsb' h' width' value' apart
    exact ⟨setField_comm word h h' apart value value', field_setField_of_apart word h h' apart value,
      field_setField_of_apart word h' h apart.symm value'⟩

/-- A field that is wider than a word and begins at bit 28 has four bits. The byte below it lies
apart from it. -/
theorem laws_at_the_top :
    28 < 32 ∧ 20 < 32 ∧ Apart 28 40 20 8 ∧
      (field (setField 0x12345678 28 40 0xabcd) 28 40).toNat = 0xd ∧
      setField (setField 0x12345678 28 40 0xabcd) 28 40 0xef = setField 0x12345678 28 40 0xef ∧
      setField (setField 0x12345678 28 40 0xabcd) 20 8 0x99 =
        setField (setField 0x12345678 20 8 0x99) 28 40 0xabcd ∧
      field (setField 0x12345678 28 40 0xabcd) 20 8 = field 0x12345678 20 8 ∧
      (setBit 0x12345678 28 false).toNat.testBit 28 = false := by
  have low : 28 < 32 := by decide
  have low' : 20 < 32 := by decide
  have apart : Apart 28 40 20 8 := by
    intro i
    omega
  obtain ⟨-, -, cut, again, -, others, single, -⟩ := laws_of_fields 0x12345678 0xabcd low 40
  obtain ⟨swapped, unseen, -⟩ := others 20 low' 8 0x99 apart
  exact ⟨low, low', apart, cut, again 0xef, swapped, unseen, (single false).2 28 low⟩

end ReadoutCard.Bits
