import ReadoutCard.Proofs.Bits
import ReadoutCard.Sca.Command

/-!
# The error flags of a response

`Sca.check` lists the set ones of bits 0 to 6. A response passes if and only
if all seven are clear (`check_eq_ok_iff`). These seven have different names, so
the names of the flags tell the bits (`flagName_mem_iff`).
-/

namespace ReadoutCard.Sca

/-- The low byte of a command word has its bits 0 to 6. -/
theorem bit_code {command : UInt32} {i : Nat} (small : i < 7) :
    Bits.bit (code command) i = command.toNat.testBit i := by
  have low : ∀ i < 7, (0xff : UInt32).toNat.testBit i = true := by decide
  rw [Bits.bit_eq_testBit _ (by omega), code, UInt32.toNat_and, Nat.testBit_and, low i small,
    Bool.and_true]

/-- A number from 0 to 6 is a flag of a response if that bit of the command word is set. -/
theorem mem_flags {command : UInt32} {bit : Nat} :
    bit ∈ flags command ↔ bit < 7 ∧ command.toNat.testBit bit = true := by
  rw [flags, List.mem_filter, List.mem_range]
  exact and_congr_right fun small => by rw [bit_code small]

theorem ascending_flags (command : UInt32) : (flags command).Pairwise (· < ·) :=
  List.pairwise_lt_range.filter _

/-- Words with the same bits 0 to 6 have the same flags. -/
theorem flags_congr {command command' : UInt32}
    (agree : ∀ i < 7, command.toNat.testBit i = command'.toNat.testBit i) :
    flags command = flags command' := by
  apply List.filter_congr
  intro i mem
  have small := List.mem_range.1 mem
  rw [bit_code small, bit_code small, agree i small]

/-- None of bits 0 to 6 is set. -/
theorem clear_iff {command : UInt32} :
    command &&& 0x7f = 0 ↔ ∀ i < 7, command.toNat.testBit i = false := by
  have seven : ∀ i, (0x7f : UInt32).toNat.testBit i = decide (i < 7) := fun i =>
    Nat.testBit_two_pow_sub_one 7 i
  rw [Bits.and_eq_zero_iff]
  simp only [seven, decide_eq_true_iff]

theorem flags_eq_nil_iff {command : UInt32} : flags command = [] ↔ command &&& 0x7f = 0 := by
  rw [clear_iff, List.eq_nil_iff_forall_not_mem]
  simp only [mem_flags, not_and, Bool.not_eq_true]

theorem check_eq_ok_iff {command : UInt32} : check command = .ok () ↔ command &&& 0x7f = 0 := by
  rw [← flags_eq_nil_iff]
  unfold check
  cases flags command with
  | nil => simp
  | cons bit rest => simp

/-- A response with a flag fails with its low byte and the names of its flags. -/
theorem check_eq_error {command : UInt32} (flagged : command &&& 0x7f ≠ 0) :
    check command = .error (.protocol (command &&& 0xff) ((flags command).map flagName)) := by
  have some_flag : flags command ≠ [] := fun h => flagged (flags_eq_nil_iff.1 h)
  unfold check
  cases set : flags command with
  | nil => exact absurd set some_flag
  | cons bit rest => rfl

/-- A response that only tells of a busy channel has one flag. -/
theorem flags_of_busy {command : UInt32} (pending : command &&& 0xff = 0x40) :
    flags command = [6] := by
  rw [flags, code, pending]
  decide

/-! ### The names of flags -/

/-- Only beyond bit 6 is a name used again. -/
theorem flagName_injOn {i j : Nat} (hi : i < 7) (hj : j < 7) (same : flagName i = flagName j) :
    i = j := by
  have distinct : ∀ i < 7, ∀ j < 7, flagName i = flagName j → i = j := by decide
  exact distinct i hi j hj same

/-- A response with the name of a bit among those of its flags has that bit set. -/
theorem flagName_mem_iff {command : UInt32} {i : Nat} (small : i < 7) :
    flagName i ∈ (flags command).map flagName ↔ command.toNat.testBit i = true := by
  rw [List.mem_map]
  constructor
  · rintro ⟨j, flag, same⟩
    obtain ⟨low, set⟩ := mem_flags.1 flag
    rwa [flagName_injOn small low same.symm]
  · intro set
    exact ⟨i, mem_flags.2 ⟨small, set⟩, rfl⟩

theorem nodup_flagNames (command : UInt32) : ((flags command).map flagName).Nodup := by
  rw [List.Nodup, List.pairwise_map]
  apply (ascending_flags command).imp_of_mem
  intro i j flag flag' before same
  have := flagName_injOn (mem_flags.1 flag).1 (mem_flags.1 flag').1 same
  omega

end ReadoutCard.Sca
