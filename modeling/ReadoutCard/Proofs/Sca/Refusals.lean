import ReadoutCard.Proofs.Sca.Responses

/-!
# Which responses are refused

A response is refused for bits 0 to 6 of its command word and for nothing else.
What is reported then tells these seven bits: the low byte as it is, and a name
for each set bit, from which the bits can be read again (`reported_eq_iff`). So
a response that a call of the engine gives has none of them set
(`Call.response_clear`).
-/

namespace ReadoutCard.Sca

variable {σ : Type}

/-- The names of the flags that an outcome reports. -/
def reported : Except Error Unit → List String
  | .error (.protocol _ names) => names
  | _ => []

theorem reported_check (command : UInt32) :
    reported (check command) = (flags command).map flagName := by
  by_cases clear : command &&& 0x7f = 0
  · rw [check_eq_ok_iff.2 clear, flags_eq_nil_iff.2 clear]
    rfl
  · rw [check_eq_error clear]
    rfl

/-- The same names are reported of two words if and only if these have the same bits 0 to 6. -/
theorem reported_eq_iff {command command' : UInt32} :
    reported (check command) = reported (check command') ↔
      ∀ i < 7, command.toNat.testBit i = command'.toNat.testBit i := by
  rw [reported_check, reported_check]
  constructor
  · intro same i small
    rw [Bool.eq_iff_iff, ← flagName_mem_iff small, ← flagName_mem_iff small, same]
  · intro agree
    rw [flags_congr agree]

/-- The response that a call gives has none of bits 0 to 6 set. -/
theorem Call.response_clear (b : Binding) {c : Call} {value : c.Value} {response : Response}
    {t : Register.Trace} (h : (c.program b).bus.Traces t (.ok value))
    (given : c.response? value = some response) : response.command &&& 0x7f = 0 := by
  obtain ⟨before, last, -, fetch⟩ := Call.ends_with_response b h given
  cases fetch with
  | passed data waits pending bound command clear => exact clear

/-- **Which responses are refused.** A response passes if and only if none of bits 0 to 6 of its
command word is set. Else it fails with the low byte of the word and the names of these bits that
are set, ascending by bit, each once. The names reported of two words are the same if and only if
the words agree in bits 0 to 6; so bits 7 to 31 never decide whether a response passes. Over any
window, no call that succeeds gives a response with one of bits 0 to 6 set in its command word. -/
theorem refused_for_flags (w : Window σ) (b : Binding) (st : State) (s : σ) :
    (∀ command, check command = .ok () ↔ ∀ i < 7, command.toNat.testBit i = false) ∧
    (∀ command, check command ≠ .ok () → ∃ set : List Nat,
      set.Pairwise (· < ·) ∧ (∀ i, i ∈ set ↔ i < 7 ∧ command.toNat.testBit i = true) ∧
      (set.map flagName).Nodup ∧
      check command = .error (.protocol (command &&& 0xff) (set.map flagName))) ∧
    (∀ command command', reported (check command) = reported (check command') ↔
      ∀ i < 7, command.toNat.testBit i = command'.toNat.testBit i) ∧
    (∀ command command', (∀ i < 7, command.toNat.testBit i = command'.toNat.testBit i) →
      (check command = .ok () ↔ check command' = .ok ())) ∧
    ∀ (c : Call) value response, ((c.program b).run w st s).1.1 = .ok value →
      c.response? value = some response → ∀ i < 7, response.command.toNat.testBit i = false := by
  refine ⟨fun command => check_eq_ok_iff.trans clear_iff, ?_, fun _ _ => reported_eq_iff, ?_, ?_⟩
  · intro command refused
    have flagged : command &&& 0x7f ≠ 0 := fun clear => refused (check_eq_ok_iff.2 clear)
    exact ⟨flags command, ascending_flags command, fun i => mem_flags, nodup_flagNames command,
      check_eq_error flagged⟩
  · intro command command' agree
    rw [check_eq_ok_iff, check_eq_ok_iff, ← flags_eq_nil_iff, ← flags_eq_nil_iff,
      flags_congr agree]
  · intro c value response good given
    have traces := (Call.blind_program b c).traces_transcript w st s
    rw [good] at traces
    exact clear_iff.1 (Call.response_clear b traces given)

/-- A response with its highest flag and bit 7 set, as it is reported. -/
example : check 0x020500c0 = .error (.protocol 0xc0 ["channel busy"]) := by rfl

end ReadoutCard.Sca
