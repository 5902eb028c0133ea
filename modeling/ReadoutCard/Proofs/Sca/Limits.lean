import ReadoutCard.Proofs.FailStop
import ReadoutCard.Proofs.Sca.Sequence

/-!
# How long the slow control polls

The two loops end differently. A wait on the busy register gives up after
10000 reads (`traces_awaitIdle_exhausted`); reading a response reads the
command word once and then up to 10000 times more, and after that takes the
response as it is (`traces_settleCommand_ok`). Together with `Wait` and
`Fetch`, which leave nothing else to happen, these say how the answers of a
window decide the result. Each step of a sequence then has a greatest number
of accesses (`Step.limit`), and so has the sequence (`limit`, `Performed.length_le`).
-/

namespace ReadoutCard.Sca

open Register (Trace readOk readFailed failure?)

variable {σ : Type}

/-! ### Waiting for the busy register -/

/-- One read that does not give zero, and then a wait with one poll less. -/
theorem traces_awaitIdle_cons {b : Binding} {polls : Nat} {v : UInt32} (hv : v ≠ 0) {t : Trace}
    {r : Except Error Unit} (later : (awaitIdle b polls).Traces t r) :
    (awaitIdle b (polls + 1)).Traces (readOk busy v :: t) r := by
  rw [awaitIdle, Binding.read_eq, Access.traces_bind]
  refine .inr ⟨[readOk busy v], v, t, rfl, Access.traces_read.2 rfl, ?_⟩
  rw [if_neg hv]
  exact later

/-- The wait ends with the first read that gives zero. -/
theorem traces_awaitIdle_cleared {b : Binding} {polls : Nat} {waits : List UInt32}
    (nonzero : ∀ v ∈ waits, v ≠ 0) (bound : waits.length < polls) :
    (awaitIdle b polls).Traces ((waits ++ [0]).map (readOk busy)) (.ok ()) := by
  induction waits generalizing polls with
  | nil =>
    obtain ⟨polls, rfl⟩ := Nat.exists_eq_add_one_of_ne_zero (Nat.ne_of_gt bound)
    rw [awaitIdle, Binding.read_eq, Access.traces_bind]
    exact .inr ⟨[readOk busy 0], 0, [], rfl, Access.traces_read.2 rfl, rfl, rfl⟩
  | cons v rest ih =>
    obtain ⟨polls, rfl⟩ := Nat.exists_eq_add_one_of_ne_zero (Nat.ne_zero_of_lt bound)
    obtain ⟨here, others⟩ := List.forall_mem_cons.1 nonzero
    exact traces_awaitIdle_cons here (ih others (Nat.lt_of_succ_lt_succ bound))

/-- The wait gives up when all its polls have given something else. -/
theorem traces_awaitIdle_exhausted (b : Binding) {waits : List UInt32}
    (nonzero : ∀ v ∈ waits, v ≠ 0) : (awaitIdle b waits.length).Traces
      (waits.map (readOk busy)) (.error (.timeout "SCA busy wait" maxBusyPolls)) := by
  induction waits with
  | nil => exact ⟨rfl, rfl⟩
  | cons v rest ih =>
    obtain ⟨here, others⟩ := List.forall_mem_cons.1 nonzero
    exact traces_awaitIdle_cons here (ih others)

/-! ### Reading a response -/

/-- The command word is read anew while it tells of a busy channel and polls are left. -/
theorem traces_settleCommand_ok {b : Binding} {polls : Nat} {command last : UInt32}
    {waits : List UInt32} {t : Trace}
    (split : readOk readCommand command :: t = (waits ++ [last]).map (readOk readCommand))
    (pending : ∀ c ∈ waits, c &&& 0xff = 0x40) (bound : waits.length ≤ polls)
    (final : last &&& 0xff = 0x40 → waits.length = polls) :
    (settleCommand b command polls).Traces t (.ok last) := by
  induction waits generalizing polls command t with
  | nil =>
    cases split
    cases polls with
    | zero => exact ⟨rfl, rfl⟩
    | succ polls =>
      have ready : ¬ isBusy last = true := fun hb => by simpa using final (isBusy_iff.1 hb)
      rw [settleCommand, if_neg ready]
      exact ⟨rfl, rfl⟩
  | cons c rest ih =>
    obtain ⟨polls, rfl⟩ := Nat.exists_eq_add_one_of_ne_zero (Nat.ne_zero_of_lt bound)
    obtain ⟨here, others⟩ := List.forall_mem_cons.1 pending
    obtain ⟨next, t', again⟩ : ∃ next t', (rest ++ [last]).map (readOk readCommand) =
        readOk readCommand next :: t' := by cases rest <;> exact ⟨_, _, rfl⟩
    rw [List.cons_append, List.map_cons, again] at split
    cases split
    have later := ih again.symm others (Nat.le_of_succ_le_succ bound) fun hl =>
      Nat.succ.inj (final hl)
    rw [settleCommand, if_pos (isBusy_iff.2 here), Binding.read_eq, Access.traces_bind]
    exact .inr ⟨[readOk readCommand next], next, t', rfl, Access.traces_read.2 rfl, later⟩

/-- The result of reading a response hangs on the last command word. -/
theorem traces_fetch_settled (b : Binding) (data : UInt32) {waits : List UInt32} {last : UInt32}
    (pending : ∀ c ∈ waits, c &&& 0xff = 0x40) (bound : waits.length ≤ maxBusyPolls)
    (final : last &&& 0xff = 0x40 → waits.length = maxBusyPolls) :
    (fetch b).Traces (readOk readData data :: (waits ++ [last]).map (readOk readCommand))
      ((check last).map fun _ => ⟨last, data⟩) := by
  obtain ⟨first, t, split⟩ : ∃ first t, readOk readCommand first :: t =
      (waits ++ [last]).map (readOk readCommand) := by cases waits <;> exact ⟨_, _, rfl⟩
  have settled := traces_settleCommand_ok (b := b) split pending bound final
  rw [← split, fetch, Binding.read_eq, Binding.read_eq, Access.traces_bind]
  refine .inr ⟨[readOk readData data], data, _, rfl, Access.traces_read.2 rfl, ?_⟩
  rw [Access.traces_bind]
  refine .inr ⟨[readOk readCommand first], first, t, rfl, Access.traces_read.2 rfl, ?_⟩
  rw [Access.traces_bind]
  refine .inr ⟨t, last, [], (List.append_nil t).symm, settled, ?_⟩
  rw [Access.traces_bind]
  cases check last with
  | ok _ => exact .inr ⟨[], (), [], rfl, ⟨rfl, rfl⟩, rfl, rfl⟩
  | error e => exact .inl ⟨e, ⟨rfl, rfl⟩, rfl⟩

/-- Only an access gives a timeout where a response is read. -/
theorem Fetch.failed_of_timeout {t : Trace} {what : String} {polls : Nat}
    (h : Fetch t (.error (.timeout what polls))) :
    ∃ x ∈ t, failure? x = some (.timeout what polls) := by
  cases h with
  | noData => exact ⟨_, List.mem_singleton_self _, rfl⟩
  | lost data waits =>
    exact ⟨readFailed readCommand (.timeout what polls), by simp, rfl⟩
  | refused data waits pending bound command e final flagged =>
    unfold check at flagged
    split at flagged <;> cases flagged

/-! ### The accesses of a sequence -/

/-- The greatest number of accesses of a step. -/
def Step.limit : Step → Nat
  | write _ _ => 1
  | wait => maxBusyPolls
  | response => maxBusyPolls + 2

/-- The greatest number of accesses of a sequence. -/
def limit : List Step → Nat
  | [] => 0
  | step :: steps => step.limit + limit steps

theorem Step.Carried.length_le {step : Step} {t : Trace} {r : Except Error Unit}
    (h : step.Carried t r) : t.length ≤ step.limit := by
  cases step with
  | write register value =>
    cases h
    exact Nat.le_refl 1
  | wait =>
    cases h with
    | cleared waits nonzero bound => simpa [limit] using Nat.succ_le_of_lt bound
    | failed waits nonzero bound e => simpa [limit] using Nat.succ_le_of_lt bound
    | exhausted waits nonzero bound => simpa [limit] using Nat.le_of_eq bound
  | response =>
    obtain ⟨answer, h, -⟩ := h
    cases h with
    | noData e => simp [limit]
    | lost data waits pending bound e => simpa [limit] using bound
    | refused data waits pending bound command e final flagged => simpa [limit] using bound
    | passed data waits pending bound command clear => simpa [limit] using bound

theorem Performed.length_le {steps : List Step} {t : Trace} {r : Except Error Unit}
    (h : Performed steps t r) : t.length ≤ limit steps := by
  induction h with
  | done => exact Nat.le_refl 0
  | step here _ ih =>
    have first := here.length_le
    rw [List.length_append, limit]
    omega
  | failed here =>
    have first := here.length_le
    rw [limit]
    omega

theorem limit_setUpSteps : limit setUpSteps = 110028 := by
  simp [setUpSteps, handshakeSteps, enableSequence, requestSteps, limit, Step.limit, maxBusyPolls]

theorem limit_outputSteps (word : UInt32) : limit (outputSteps word) = 170046 := by
  simp [outputSteps, outputRequests, handshakeSteps, enableSequence, requestSteps, limit,
    Step.limit, maxBusyPolls]

/-! ### Over a window -/

section Runs

variable (w : Window σ) (b : Binding) (st : State) (s : σ)

theorem accesses_fetchResponse : (fetchResponse b).accesses st = fetch b := by
  rw [(blind_fetchResponse b).accesses_eq, bus_fetchResponse]

/-- A response that is read has the result of its last command word. -/
theorem run_fetchResponse_settled {data last : UInt32} {waits : List UInt32} {s' : σ}
    (pending : ∀ c ∈ waits, c &&& 0xff = 0x40) (bound : waits.length ≤ maxBusyPolls)
    (final : last &&& 0xff = 0x40 → waits.length = maxBusyPolls)
    (answers : Dialogue.Answers w.answer s' s
      (readOk readData data :: (waits ++ [last]).map (readOk readCommand))) :
    (fetchResponse b).transcript w st s =
        readOk readData data :: (waits ++ [last]).map (readOk readCommand) ∧
      ((fetchResponse b).run w st s).1.1 = (check last).map (fun _ => ⟨last, data⟩) ∧
      ((fetchResponse b).run w st s).2 = s' := by
  obtain ⟨ran, noted⟩ :=
    Window.run_of_traces (traces_fetch_settled b data pending bound final) answers
  rw [← accesses_fetchResponse b st, Engine.run_accesses] at ran
  rw [← accesses_fetchResponse b st, Engine.transcript_accesses] at noted
  exact ⟨noted, Prod.mk.inj ran⟩

theorem length_setUp_le : ((setUp b).transcript w st s).length ≤ 110028 := by
  have performed := performs_setUp b _ _ ((blind_setUp b).traces_transcript w st s)
  rw [← limit_setUpSteps]
  exact performed.length_le

theorem length_setOutputs_le (word : UInt32) :
    ((setOutputs b word).transcript w st s).length ≤ 170046 := by
  have performed := performs_setOutputs b word _ _
    ((blind_setOutputs b word).traces_transcript w st s)
  rw [← limit_outputSteps word]
  exact performed.length_le

end Runs

/-- **How long the slow control polls.** If the reads of the busy register give zero for the first
time at one of the first 10000, the wait ends there; if none of these does, it fails with a timeout
after exactly that many. A response is read by one read of the data word, and then of the command
word up to the first whose low byte is not just that of a busy channel, or for 10001 times. Its
result is that last command word with the data word if bits 0 to 6 are clear, else the failure with
its flags, which for a channel that stayed busy is just that; a timeout comes from an access only.
Nothing else can happen but that an access fails. So over any window the engine is set up in at most
110028 accesses, and the outputs are set in at most 170046. -/
theorem polling_limits (w : Window σ) (b : Binding) (st : State) (s : σ) :
    let fetched := (fetchResponse b).run w st s
    (∀ (waits : List UInt32) s', (∀ v ∈ waits, v ≠ 0) → waits.length < 10000 →
      Dialogue.Answers w.answer s' s ((waits ++ [0]).map (readOk busy)) →
      w.run (awaitBusyClear b) s = (.ok (), s') ∧
      w.transcript (awaitBusyClear b) s = (waits ++ [0]).map (readOk busy)) ∧
    (∀ (waits : List UInt32) s', (∀ v ∈ waits, v ≠ 0) → waits.length = 10000 →
      Dialogue.Answers w.answer s' s (waits.map (readOk busy)) →
      w.run (awaitBusyClear b) s = (.error (.timeout "SCA busy wait" 10000), s') ∧
      w.transcript (awaitBusyClear b) s = waits.map (readOk busy)) ∧
    Wait 10000 (w.transcript (awaitBusyClear b) s) (w.run (awaitBusyClear b) s).1 ∧
    (∀ data (waits : List UInt32) last s', (∀ c ∈ waits, c &&& 0xff = 0x40) →
      waits.length ≤ 10000 → (last &&& 0xff = 0x40 → waits.length = 10000) →
      Dialogue.Answers w.answer s' s
        (readOk readData data :: (waits ++ [last]).map (readOk readCommand)) →
      (fetchResponse b).transcript w st s =
        readOk readData data :: (waits ++ [last]).map (readOk readCommand) ∧
      fetched.2 = s' ∧
      (last &&& 0x7f = 0 → fetched.1.1 = .ok ⟨last, data⟩) ∧
      (last &&& 0x7f ≠ 0 →
        fetched.1.1 = .error (.protocol (last &&& 0xff) ((flags last).map flagName))) ∧
      (last &&& 0xff = 0x40 → fetched.1.1 = .error (.protocol 0x40 ["channel busy"]))) ∧
    Fetch ((fetchResponse b).transcript w st s) fetched.1.1 ∧
    (∀ what polls, fetched.1.1 = .error (.timeout what polls) →
      ∃ x ∈ (fetchResponse b).transcript w st s, failure? x = some (.timeout what polls)) ∧
    ((setUp b).transcript w st s).length ≤ 110028 ∧
    ∀ word, ((setOutputs b word).transcript w st s).length ≤ 170046 := by
  intro fetched
  have traces : (fetch b).Traces ((fetchResponse b).transcript w st s) fetched.1.1 := by
    rw [← bus_fetchResponse]
    exact (blind_fetchResponse b).traces_transcript w st s
  refine ⟨?_, ?_, traces_awaitIdle (w.traces_transcript (awaitBusyClear b) s), ?_,
    traces_fetch traces, ?_, length_setUp_le w b st s, length_setOutputs_le w b st s⟩
  · intro waits s' nonzero bound answers
    exact Window.run_of_traces (traces_awaitIdle_cleared nonzero bound) answers
  · intro waits s' nonzero bound answers
    have gives_up := traces_awaitIdle_exhausted b nonzero
    rw [bound] at gives_up
    exact Window.run_of_traces gives_up answers
  · intro data waits last s' pending bound final answers
    obtain ⟨noted, result, left⟩ := run_fetchResponse_settled w b st s pending bound final answers
    refine ⟨noted, left, fun clear => ?_, fun flagged => ?_, fun stuck => ?_⟩
    · rw [result, check_eq_ok_iff.2 clear]
      rfl
    · rw [result, check_eq_error flagged]
      rfl
    · have flagged : last &&& 0x7f ≠ 0 := fun clear => by
        have none_set := flags_eq_nil_iff.2 clear
        rw [flags_of_busy stuck] at none_set
        cases none_set
      rw [result, check_eq_error flagged, flags_of_busy stuck, stuck]
      rfl
  · intro what polls timed_out
    exact (timed_out ▸ traces_fetch traces).failed_of_timeout

end ReadoutCard.Sca
