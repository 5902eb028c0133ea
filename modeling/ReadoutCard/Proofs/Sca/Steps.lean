import ReadoutCard.Proofs.Sca.Polling

/-!
# Sequences of slow-control accesses

A sequence is a list of steps: writes, waits on the busy register and
responses. `Performed` says that steps are carried out in order up to the first
that fails, which ends everything; `Performs` says it of all traces of a
program, and goes through `>>=` by appending the steps. What was written is then
read off the steps: all their writes after a success (`Performed.writes_eq`), the
first of them after a failure (`Performed.writes_prefix`).
-/

namespace ReadoutCard.Sca

open Register (Trace readOk readFailed writes)

variable {α β σ : Type}

/-- A step of a sequence. -/
inductive Step where
  | write (register : Register) (value : UInt32)
  /-- Polls the busy register until it is zero. -/
  | wait
  /-- Reads a response. -/
  | response

namespace Step

/-- The accesses `t` are the step, carried out or broken off with a failure. -/
def Carried : Step → Trace → Except Error Unit → Prop
  | write register value, t, r => t = [⟨.write register.index value, r⟩]
  | wait, t, r => Wait maxBusyPolls t r
  | response, t, r => ∃ answer, Fetch t answer ∧ r = answer.map fun _ => ()

/-- What a step writes. -/
def writes : Step → List (Nat × UInt32)
  | write register value => [(register.index, value)]
  | wait => []
  | response => []

end Step

/-- The accesses `t` are the steps in order, up to the first that fails. -/
inductive Performed : List Step → Trace → Except Error Unit → Prop where
  | done : Performed [] [] (.ok ())
  | step {first : Step} {rest : List Step} {t t' : Trace} {r : Except Error Unit}
    (here : first.Carried t (.ok ())) (later : Performed rest t' r) :
    Performed (first :: rest) (t ++ t') r
  | failed {first : Step} {rest : List Step} {t : Trace} {e : Error}
    (here : first.Carried t (.error e)) : Performed (first :: rest) t (.error e)

namespace Performed

variable {steps later : List Step} {t t' : Trace} {r : Except Error Unit} {e : Error}

theorem append (h : Performed steps t (.ok ())) (h' : Performed later t' r) :
    Performed (steps ++ later) (t ++ t') r := by
  generalize hok : (.ok () : Except Error Unit) = ok at h
  induction h with
  | done => exact h'
  | step here _ ih =>
    rw [List.cons_append, List.append_assoc]
    exact .step here (ih hok)
  | failed here => cases hok

/-- After a failure the steps that were still to come are not begun. -/
theorem append_failed (h : Performed steps t (.error e)) :
    Performed (steps ++ later) t (.error e) := by
  generalize herror : (.error e : Except Error Unit) = error at h
  induction h with
  | done => cases herror
  | step here _ ih => exact .step here (ih herror)
  | failed here => exact .failed here

end Performed

/-! ### What the steps write -/

theorem Wait.writes_eq {polls : Nat} {t : Trace} {r : Except Error Unit} (h : Wait polls t r) :
    writes t = [] := by
  cases h <;> simp only [Register.writes_append, Register.writes_reads] <;> rfl

theorem Fetch.writes_eq {t : Trace} {r : Except Error Response} (h : Fetch t r) :
    writes t = [] := by
  cases h with
  | noData e => rfl
  | lost data waits pending bound e =>
    show writes (waits.map (readOk readCommand) ++ [readFailed readCommand e]) = []
    rw [Register.writes_append, Register.writes_reads]
    rfl
  | refused data waits pending bound command e final flagged =>
    exact Register.writes_reads readCommand (waits ++ [command])
  | passed data waits pending bound command clear =>
    exact Register.writes_reads readCommand (waits ++ [command])

/-- A write is attempted also where it fails. -/
theorem Step.Carried.writes_eq {step : Step} {t : Trace} {r : Except Error Unit}
    (h : step.Carried t r) : Register.writes t = step.writes := by
  cases step with
  | write register value =>
    cases h
    rfl
  | wait => exact Wait.writes_eq h
  | response =>
    obtain ⟨answer, h, -⟩ := h
    exact h.writes_eq

theorem Performed.writes_prefix {steps : List Step} {t : Trace} {r : Except Error Unit}
    (h : Performed steps t r) : writes t <+: steps.flatMap Step.writes := by
  induction h with
  | done => exact List.prefix_refl []
  | step here _ ih =>
    rw [Register.writes_append, here.writes_eq, List.flatMap_cons]
    exact (List.prefix_append_right_inj _).2 ih
  | failed here =>
    rw [here.writes_eq, List.flatMap_cons]
    exact List.prefix_append _ _

theorem Performed.writes_eq {steps : List Step} {t : Trace} (h : Performed steps t (.ok ())) :
    writes t = steps.flatMap Step.writes := by
  generalize hok : (.ok () : Except Error Unit) = ok at h
  induction h with
  | done => rfl
  | step here _ ih => rw [Register.writes_append, here.writes_eq, ih hok, List.flatMap_cons]
  | failed here => cases hok

/-! ### The steps of programs -/

theorem map_unit (r : Except Error Unit) : (r.map fun _ => ()) = r := by
  cases r <;> rfl

/-- Every trace of the program carries the steps out, up to the first that fails. -/
def Performs (p : Access α) (steps : List Step) : Prop :=
  ∀ t r, p.Traces t r → Performed steps t (r.map fun _ => ())

theorem performs_pure (a : α) : Performs (pure a) [] := by
  rintro t r ⟨rfl, rfl⟩
  exact .done

theorem Performs.bind {p : Access α} {f : α → Access β} {first later : List Step}
    (hp : Performs p first) (hf : ∀ a, Performs (f a) later) :
    Performs (p >>= f) (first ++ later) := by
  intro t r h
  obtain ⟨e, h₁, rfl⟩ | ⟨t₁, a, t₂, rfl, h₁, h₂⟩ := Access.traces_bind.1 h
  · exact (hp t (.error e) h₁).append_failed
  · exact (hp t₁ (.ok a) h₁).append (hf a t₂ r h₂)

theorem performs_write (b : Binding) (register : Register) (value : UInt32) :
    Performs (b.write register.index value) [.write register value] := by
  intro t r h
  rw [Binding.write_eq] at h
  have here : (Step.write register value).Carried t r := Access.traces_write.1 h
  cases r with
  | ok _ => exact List.append_nil t ▸ .step here .done
  | error e => exact .failed here

theorem performs_awaitBusyClear (b : Binding) : Performs (awaitBusyClear b) [.wait] := by
  intro t r h
  have wait := traces_awaitIdle h
  cases r with
  | ok _ => exact List.append_nil t ▸ .step wait .done
  | error e => exact .failed wait

theorem performs_fetch (b : Binding) : Performs (fetch b) [.response] := by
  intro t r h
  have fetched := traces_fetch h
  cases r with
  | ok answer => exact List.append_nil t ▸ .step ⟨_, fetched, rfl⟩ .done
  | error e => exact .failed ⟨_, fetched, rfl⟩

end ReadoutCard.Sca
