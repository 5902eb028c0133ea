import ReadoutCard.Proofs.Bits
import ReadoutCard.Sca.Command

/-!
# Command words and their fields

Writing a word and reading its fields are compared bit by bit. `testBit_word`
says where a word has the bits of its fields, `testBit_byte` which bits are read
into a field. Bits 8 to 15 are in no field: they are written as zero and not
looked at. So what is written is read back (`ofWord_word`), and what is read is
written back but for these bits (`word_ofWord`).
-/

namespace ReadoutCard.Sca

variable {i lsb : Nat}

/-! ### Bytes by their bits -/

theorem testBit_byte_of_ge (byte : UInt8) (h : 8 ≤ i) : byte.toNat.testBit i = false :=
  Nat.testBit_lt_two_pow (Nat.lt_of_lt_of_le byte.toNat_lt (Nat.pow_le_pow_right (by decide) h))

/-- Only the eight bits of a byte need to be compared. -/
theorem byte_eq_of_testBit {a b : UInt8} (h : ∀ i < 8, a.toNat.testBit i = b.toNat.testBit i) :
    a = b := by
  apply UInt8.toNat_inj.mp
  apply Nat.eq_of_testBit_eq
  intro i
  rcases Nat.lt_or_ge i 8 with low | high
  · exact h i low
  · rw [testBit_byte_of_ge a high, testBit_byte_of_ge b high]

/-- A byte that is moved up to a place in a word. -/
theorem testBit_placed (byte : UInt8) (h : lsb < 32) (hi : i < 32) :
    (byte.toUInt32 <<< UInt32.ofNat lsb).toNat.testBit i =
      (decide (lsb ≤ i) && byte.toNat.testBit (i - lsb)) := by
  rw [Bits.testBit_shiftLeft _ h, UInt8.toNat_toUInt32]
  simp [hi]

/-- A field of eight bits, as a byte. -/
theorem testBit_byte (word : UInt32) (h : lsb < 32) (hi : i < 8) :
    (Bits.field word lsb 8).toUInt8.toNat.testBit i = word.toNat.testBit (lsb + i) := by
  rw [UInt32.toNat_toUInt8, Nat.testBit_mod_two_pow, Bits.testBit_field word h]
  simp [hi]

/-! ### The low byte -/

/-- The low byte of a word is its field at bit 0. -/
theorem code_eq_field (word : UInt32) : code word = Bits.field word 0 8 := by
  have whole : word >>> UInt32.ofNat 0 = word := UInt32.shiftRight_zero
  rw [code, Bits.field, whole]
  rfl

/-- Only the low byte of a response is checked. -/
theorem check_code (word : UInt32) : check (code word) = check word := by
  have again : code (code word) = code word := by
    rw [code, code, UInt32.and_assoc]
    rfl
  rw [check, check, flags, flags, again]

namespace Command

/-! ### The fields of a word -/

theorem testBit_channel (word : UInt32) (hi : i < 8) :
    (ofWord word).channel.toNat.testBit i = word.toNat.testBit (24 + i) :=
  testBit_byte word (by decide) hi

theorem testBit_transaction (word : UInt32) (hi : i < 8) :
    (ofWord word).transaction.toNat.testBit i = word.toNat.testBit (16 + i) :=
  testBit_byte word (by decide) hi

theorem testBit_opcode (word : UInt32) (hi : i < 8) :
    (ofWord word).opcode.toNat.testBit i = word.toNat.testBit i := by
  have low : (ofWord word).opcode = (Bits.field word 0 8).toUInt8 :=
    congrArg UInt32.toUInt8 (code_eq_field word)
  rw [low, testBit_byte word (by decide) hi, Nat.zero_add]

/-- The low byte of a word is the opcode that is read from it. -/
theorem code_eq_opcode (word : UInt32) : code word = (ofWord word).opcode.toUInt32 := by
  apply Bits.eq_of_testBit
  intro i
  rw [code_eq_field, Bits.testBit_field word (by decide), UInt8.toNat_toUInt32, Nat.zero_add]
  rcases Nat.lt_or_ge i 8 with low | high
  · rw [testBit_opcode word low]
    simp [low]
  · have beyond : ¬ i < 8 := by omega
    rw [testBit_byte_of_ge _ high]
    simp [beyond]

/-! ### Words and fields -/

/-- From bit 24 up a word has its channel, from bit 16 its transaction number, and at the low end
its opcode. -/
theorem testBit_word (c : Command) (hi : i < 32) : c.word.toNat.testBit i =
    if 24 ≤ i then c.channel.toNat.testBit (i - 24)
    else if 16 ≤ i then c.transaction.toNat.testBit (i - 16)
    else c.opcode.toNat.testBit i := by
  have channel : (c.channel.toUInt32 <<< 24).toNat.testBit i =
      (decide (24 ≤ i) && c.channel.toNat.testBit (i - 24)) :=
    testBit_placed c.channel (by decide) hi
  have transaction : (c.transaction.toUInt32 <<< 16).toNat.testBit i =
      (decide (16 ≤ i) && c.transaction.toNat.testBit (i - 16)) :=
    testBit_placed c.transaction (by decide) hi
  rw [word, UInt32.toNat_or, UInt32.toNat_or, Nat.testBit_or, Nat.testBit_or, channel,
    transaction, UInt8.toNat_toUInt32]
  by_cases top : 24 ≤ i
  · rw [testBit_byte_of_ge c.transaction (by omega), testBit_byte_of_ge c.opcode (by omega)]
    simp [top]
  · by_cases middle : 16 ≤ i
    · rw [testBit_byte_of_ge c.opcode (by omega)]
      simp [top, middle]
    · simp [top, middle]

/-- What is written is read back. -/
theorem ofWord_word (c : Command) : ofWord c.word = c := by
  have channel : (ofWord c.word).channel = c.channel := by
    apply byte_eq_of_testBit
    intro i hi
    rw [testBit_channel _ hi, testBit_word c (by omega), if_pos (by omega),
      Nat.add_sub_cancel_left]
  have transaction : (ofWord c.word).transaction = c.transaction := by
    apply byte_eq_of_testBit
    intro i hi
    rw [testBit_transaction _ hi, testBit_word c (by omega), if_neg (by omega),
      if_pos (by omega), Nat.add_sub_cancel_left]
  have opcode : (ofWord c.word).opcode = c.opcode := by
    apply byte_eq_of_testBit
    intro i hi
    rw [testBit_opcode _ hi, testBit_word c (by omega), if_neg (by omega), if_neg (by omega)]
  calc ofWord c.word
      = ⟨(ofWord c.word).channel, (ofWord c.word).transaction, (ofWord c.word).opcode⟩ := rfl
    _ = c := by rw [channel, transaction, opcode]

/-- The bits of the fields. -/
theorem testBit_inFields : ∀ i < 32,
    (0xffff00ff : UInt32).toNat.testBit i = decide (i < 8 ∨ 16 ≤ i) := by decide

/-- What is read is written back, but for the bits of no field. -/
theorem word_ofWord (w : UInt32) : (ofWord w).word = w &&& 0xffff00ff := by
  apply Bits.eq_of_testBit_lt
  intro i hi
  rw [testBit_word _ hi, UInt32.toNat_and, Nat.testBit_and, testBit_inFields i hi]
  by_cases top : 24 ≤ i
  · have kept : i < 8 ∨ 16 ≤ i := by omega
    rw [if_pos top, testBit_channel w (by omega), Nat.add_sub_cancel' top]
    simp [kept]
  · by_cases middle : 16 ≤ i
    · rw [if_neg top, if_pos middle, testBit_transaction w (by omega), Nat.add_sub_cancel' middle]
      simp [middle]
    · rw [if_neg top, if_neg middle]
      rcases Nat.lt_or_ge i 8 with low | high
      · rw [testBit_opcode w low]
        simp [low]
      · have lost : ¬ (i < 8 ∨ 16 ≤ i) := by omega
        rw [testBit_byte_of_ge _ high]
        simp [lost]

/-- A word is written back as it was if and only if it has no bits outside the fields. -/
theorem word_ofWord_eq_iff (w : UInt32) :
    (ofWord w).word = w ↔ ∀ i, 8 ≤ i → i < 16 → w.toNat.testBit i = false := by
  rw [word_ofWord]
  constructor
  · intro same i high low
    have lost : ¬ (i < 8 ∨ 16 ≤ i) := by omega
    rw [← same, UInt32.toNat_and, Nat.testBit_and, testBit_inFields i (by omega)]
    simp [lost]
  · intro clear
    apply Bits.eq_of_testBit_lt
    intro i hi
    rw [UInt32.toNat_and, Nat.testBit_and, testBit_inFields i hi]
    by_cases kept : i < 8 ∨ 16 ≤ i
    · simp [kept]
    · rw [clear i (by omega) (by omega), Bool.false_and]

theorem word_injective : Function.Injective word :=
  Function.LeftInverse.injective ofWord_word

/-- **Command words are read back.** The fields of a written word are those it was written from, so
no two commands have one word. A word whose fields are written again has its bits 8 to 15 cleared
and is otherwise the same: doing so twice is doing it once, and changes nothing exactly if these
bits are clear. The low byte of a response, which alone is checked for flags, is its opcode. -/
theorem commands_read_back :
    (∀ channel transaction opcode, ofWord (word ⟨channel, transaction, opcode⟩) =
      ⟨channel, transaction, opcode⟩) ∧
    (∀ w, (ofWord w).word = w &&& 0xffff00ff) ∧
    Function.Injective word ∧
    (∀ w, (ofWord (ofWord w).word).word = (ofWord w).word) ∧
    (∀ w, (ofWord w).word = w ↔ ∀ i, 8 ≤ i → i < 16 → w.toNat.testBit i = false) ∧
    ∀ w, code w = (ofWord w).opcode.toUInt32 ∧
      check w = check (ofWord w).opcode.toUInt32 ∧
      (check w = .ok () ∨
        ∃ names, check w = .error (.protocol (ofWord w).opcode.toUInt32 names)) := by
  refine ⟨fun channel transaction opcode => ofWord_word _, word_ofWord, word_injective, ?_,
    word_ofWord_eq_iff, ?_⟩
  · intro w
    rw [ofWord_word]
  · intro w
    have low := code_eq_opcode w
    refine ⟨low, by rw [← low, check_code], ?_⟩
    rw [← low, check]
    split
    · exact .inl rfl
    · exact .inr ⟨_, rfl⟩

end Command

end ReadoutCard.Sca
