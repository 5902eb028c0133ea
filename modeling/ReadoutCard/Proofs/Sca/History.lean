import ReadoutCard.Proofs.Sca.Calls

/-!
# The state of an engine over its calls

`history` makes calls one after the other on one engine. The state is never
more than a note on the past: idle if the latest call other than for the
duration succeeded, uninitialized if it failed or if there was none
(`stateOf`). One call keeps this up (`stateOf_call`), and `state_history`
folds it over all calls, by induction on the calls left with the past carried
along.
-/

namespace ReadoutCard.Sca

open Engine

variable {σ : Type}

/-- A call that was made, its result, and the state that it left. -/
structure Called where
  call : Call
  result : Except Error call.Value
  state : State

/-- Makes calls one after the other on one engine. -/
def history (w : Window σ) (b : Binding) : List Call → State → σ → List Called
  | [], _, _ => []
  | call :: rest, st, s =>
    let x := (call.program b).run w st s
    ⟨call, x.1.1, x.1.2⟩ :: history w b rest x.1.2 x.2

theorem calls_history (w : Window σ) (b : Binding) (calls : List Call) (st : State) (s : σ) :
    (history w b calls st s).map Called.call = calls := by
  induction calls generalizing st s with
  | nil => rfl
  | cons call rest ih => exact congrArg (call :: ·) (ih _ _)

/-- The latest call other than for the duration. -/
def latest (past : List Called) : Option Called :=
  (past.filter fun x => x.call ≠ .duration).getLast?

/-- The state that the past tells. -/
def stateOf (past : List Called) : State :=
  match latest past with
  | some x => State.after x.result
  | none => .uninitialized

theorem latest_append_duration {past : List Called} {x : Called} (h : x.call = .duration) :
    latest (past ++ [x]) = latest past := by
  simp [latest, h]

theorem latest_append_of_ne {past : List Called} {x : Called} (h : x.call ≠ .duration) :
    latest (past ++ [x]) = some x := by
  simp [latest, h]

/-- One call keeps up what the past tells. -/
theorem stateOf_call (w : Window σ) (b : Binding) {past : List Called} {st : State}
    (h : stateOf past = st) (call : Call) (s : σ) :
    let x := (call.program b).run w st s
    stateOf (past ++ [⟨call, x.1.1, x.1.2⟩]) = x.1.2 := by
  intro x
  by_cases hc : call = .duration
  · subst hc
    rw [stateOf, latest_append_duration rfl]
    exact h.trans (Call.duration_state b w st s).symm
  · rw [stateOf, latest_append_of_ne hc]
    exact ((Call.settles_program b hc).state_run w st s).symm

theorem state_history (w : Window σ) (b : Binding) (past : List Called) {calls : List Call}
    {st : State} {s : σ} (h : stateOf past = st) {before after : List Called} {x : Called}
    (split : history w b calls st s = before ++ x :: after) :
    x.state = stateOf (past ++ before ++ [x]) := by
  induction calls generalizing past st s before with
  | nil => simp [history] at split
  | cons call rest ih =>
    have step := stateOf_call w b h call s
    cases before with
    | nil =>
      obtain ⟨rfl, -⟩ := List.cons.inj split
      rw [List.append_nil]
      exact step.symm
    | cons y before =>
      obtain ⟨rfl, later⟩ := List.cons.inj split
      rw [ih _ step later, List.append_assoc past, List.singleton_append]

theorem stateOf_eq_idle_or (past : List Called) :
    stateOf past = .idle ∨ stateOf past = .uninitialized := by
  unfold stateOf
  cases latest past with
  | none => exact .inr rfl
  | some x => cases h : x.result <;> simp [h, State.after]

theorem stateOf_eq_idle_iff {past : List Called} :
    stateOf past = .idle ↔ ∃ x value, latest past = some x ∧ x.result = .ok value := by
  unfold stateOf
  cases latest past with
  | none => simp
  | some x => cases h : x.result <;> simp [h, State.after]

theorem stateOf_eq_uninitialized_iff {past : List Called} :
    stateOf past = .uninitialized ↔
      latest past = none ∨ ∃ x e, latest past = some x ∧ x.result = .error e := by
  unfold stateOf
  cases latest past with
  | none => simp
  | some x => cases h : x.result <;> simp [h, State.after]

/-- **The state of an engine.** After each of any calls on a new engine, over any window, it is
idle or uninitialized: idle exactly if the latest call other than for the duration succeeded,
uninitialized exactly if that call failed or there was none. Asking for the duration never
changes the state. And the state never shows on the bus: engines in different states make the
same accesses over the same window, with the same results, and any call other than for the
duration makes their states equal. -/
theorem engine_state (w : Window σ) (b : Binding) (calls : List Call) (s : σ) :
    (history w b calls .uninitialized s).map Called.call = calls ∧
      (∀ before x after, history w b calls .uninitialized s = before ++ x :: after →
        (x.state = .idle ∨ x.state = .uninitialized) ∧
        (x.state = .idle ↔
          ∃ y value, latest (before ++ [x]) = some y ∧ y.result = .ok value) ∧
        (x.state = .uninitialized ↔ latest (before ++ [x]) = none ∨
          ∃ y e, latest (before ++ [x]) = some y ∧ y.result = .error e)) ∧
      (∀ st s, ((Call.duration.program b).run w st s).1.2 = st) ∧
      ∀ (call : Call) (st st' : State) (s : σ),
        (call.program b).transcript w st s = (call.program b).transcript w st' s ∧
        ((call.program b).run w st s).1.1 = ((call.program b).run w st' s).1.1 ∧
        ((call.program b).run w st s).2 = ((call.program b).run w st' s).2 ∧
        (call ≠ .duration →
          ((call.program b).run w st s).1.2 = ((call.program b).run w st' s).1.2) := by
  refine ⟨calls_history w b calls _ s, ?_, Call.duration_state b w, ?_⟩
  · intro before x after split
    have state : x.state = stateOf (before ++ [x]) := state_history w b [] rfl split
    refine ⟨?_, ?_, ?_⟩
    · rw [state]
      exact stateOf_eq_idle_or (before ++ [x])
    · rw [state, stateOf_eq_idle_iff]
    · rw [state, stateOf_eq_uninitialized_iff]
  · intro call st st' s
    have same : (call.program b).accesses st = (call.program b).accesses st' :=
      Call.blind_program b call st st'
    have runs : w.run ((call.program b).accesses st) s =
        w.run ((call.program b).accesses st') s := by
      rw [same]
    rw [run_accesses, run_accesses, Prod.mk.injEq] at runs
    refine ⟨?_, runs.1, runs.2, fun hc => ?_⟩
    · rw [← transcript_accesses, ← transcript_accesses, same]
    · have settled := Call.settles_program b hc
      rw [settled.state_run, settled.state_run, runs.1]

end ReadoutCard.Sca
