import ReadoutCard.Proofs.Traces
import ReadoutCard.Sca.Engine

/-!
# The engine's state and its accesses

The state of the protocol is kept beside the register accesses and is never
asked before one. `Engine.accesses` is an engine program with its state left
out, from a given starting state; a program is `Blind` if the start makes no
difference, and then `Engine.bus` is its access program. Blindness goes through
`>>=`, so everything about accesses and results is proved about `bus`.

In the other direction only the result matters: after an operation that ends
in `Engine.concluding` the state is `State.after` of its result
(`Settles`).
-/

namespace ReadoutCard.Sca

/-- The state in which an operation leaves the engine, by its result. -/
def State.after {α : Type} : Except Error α → State
  | .ok _ => .idle
  | .error _ => .uninitialized

namespace Engine

variable {α β σ : Type}

/-- Runs a program over a window: its result, the engine's state and the window's. -/
def run (w : Window σ) (e : Engine α) (st : State) (s : σ) : (Except Error α × State) × σ :=
  Dialogue.run w.answer (e.start st) s

/-- The accesses of a run over a window. -/
def transcript (w : Window σ) (e : Engine α) (st : State) (s : σ) : Register.Trace :=
  Dialogue.transcript w.answer (e.start st) s

/-- The accesses and the result of a program that is started in `st`. -/
def accesses (e : Engine α) (st : State) : Access α := ExceptT.mk (Prod.fst <$> e.start st)

/-- The state in which a program is started makes no difference to its accesses and result. -/
def Blind (e : Engine α) : Prop := ∀ st st', e.accesses st = e.accesses st'

/-- The access program of an engine program. -/
def bus (e : Engine α) : Access α := e.accesses .uninitialized

theorem Blind.accesses_eq {e : Engine α} (h : e.Blind) (st : State) : e.accesses st = e.bus :=
  h st _

/-- What `accesses` leaves out does not show in a run. -/
theorem run_accesses (w : Window σ) (e : Engine α) (st : State) (s : σ) :
    w.run (e.accesses st) s = ((e.run w st s).1.1, (e.run w st s).2) :=
  Dialogue.run_map w.answer Prod.fst (e.start st) s

/-- Nor does it show in a transcript. -/
theorem transcript_accesses (w : Window σ) (e : Engine α) (st : State) (s : σ) :
    w.transcript (e.accesses st) s = e.transcript w st s :=
  Dialogue.transcript_map w.answer Prod.fst (e.start st) s

/-- A run of a blind program follows a trace of its access program. -/
theorem Blind.traces_transcript {e : Engine α} (h : e.Blind) (w : Window σ) (st : State) (s : σ) :
    e.bus.Traces (e.transcript w st s) (e.run w st s).1.1 := by
  have run := w.traces_transcript (e.accesses st) s
  rw [transcript_accesses, run_accesses, h.accesses_eq] at run
  exact run

/-! ### One lemma per operation -/

theorem start_bind (e : Engine α) (f : α → Engine β) (st : State) :
    start (e >>= f) st = e.start st >>= fun x => match x with
      | (.ok a, st) => (f a).start st
      | (.error cause, st) => .done (.error cause, st) := by
  unfold start
  rw [ExceptT.run_bind, StateT.run_bind]
  congr 1
  funext ⟨r, st⟩
  cases r <;> rfl

theorem start_ofAccess (p : Access α) (st : State) :
    start (ofAccess p) st = (fun r => (r, st)) <$> ExceptT.run p := by
  rw [← bind_pure_comp]
  rfl

theorem start_set (new st : State) : start (set new) st = .done (.ok (), new) := rfl

theorem start_concluding (e : Engine α) (st : State) :
    start (concluding e) st = (fun x => (x.1, State.after x.1)) <$> e.start st := by
  rw [← bind_pure_comp]
  unfold start concluding
  rw [ExceptT.run_mk, StateT.run_bind]
  rfl

theorem start_markBusy (st : State) :
    markBusy.start st = .done (.ok (), if st = .initializing then st else .busy) := by
  cases st <;> rfl

/-! ### Accesses do not depend on the state -/

theorem blind_pure (a : α) : Blind (pure a) := fun _ _ => rfl

theorem accesses_ofAccess (p : Access α) (st : State) : (ofAccess p).accesses st = p := by
  unfold accesses
  rw [start_ofAccess, Functor.map_map]
  exact id_map (ExceptT.run p)

@[simp]
theorem bus_ofAccess (p : Access α) : (ofAccess p).bus = p := accesses_ofAccess p _

theorem blind_ofAccess (p : Access α) : (ofAccess p).Blind := fun st st' => by
  rw [accesses_ofAccess, accesses_ofAccess]

@[simp]
theorem bus_set (new : State) : bus (set new) = pure () := rfl

theorem blind_set (new : State) : Blind (set new) := fun _ _ => rfl

theorem accesses_concluding (e : Engine α) (st : State) :
    (concluding e).accesses st = e.accesses st := by
  unfold accesses
  rw [start_concluding, Functor.map_map]

@[simp]
theorem bus_concluding (e : Engine α) : (concluding e).bus = e.bus := accesses_concluding e _

theorem Blind.concluding {e : Engine α} (h : e.Blind) : (concluding e).Blind := fun st st' => by
  rw [accesses_concluding, accesses_concluding]
  exact h st st'

@[simp]
theorem bus_markBusy : markBusy.bus = pure () := rfl

/-- Marking the engine busy does look at the state, but asks nothing of the window. -/
theorem blind_markBusy : markBusy.Blind := fun st st' => by
  unfold accesses
  rw [start_markBusy, start_markBusy]
  rfl

theorem accesses_bind {e : Engine α} {f : α → Engine β} (hf : ∀ a, (f a).Blind) (st : State) :
    (e >>= f).accesses st = e.accesses st >>= fun a => (f a).bus := by
  apply ExceptT.ext
  unfold accesses
  rw [start_bind, ExceptT.run_bind, ExceptT.run_mk, ExceptT.run_mk, map_bind, bind_map_left]
  congr 1
  funext ⟨r, st⟩
  cases r with
  | ok a => exact congrArg ExceptT.run ((hf a).accesses_eq st)
  | error cause => rfl

theorem bus_bind {e : Engine α} {f : α → Engine β} (hf : ∀ a, (f a).Blind) :
    (e >>= f).bus = e.bus >>= fun a => (f a).bus :=
  accesses_bind hf _

theorem Blind.bind {e : Engine α} {f : α → Engine β} (he : e.Blind) (hf : ∀ a, (f a).Blind) :
    (e >>= f).Blind := fun st st' => by
  rw [accesses_bind hf, accesses_bind hf, he st st']

/-! ### The state depends on the result only -/

/-- A program leaves the engine in the state of its result. -/
def Settles (e : Engine α) : Prop :=
  ∀ st t x, Dialogue.Path (e.start st) t x → x.2 = State.after x.1

theorem settles_concluding (e : Engine α) : (concluding e).Settles := by
  intro st t x h
  rw [start_concluding, Dialogue.path_map] at h
  obtain ⟨y, -, rfl⟩ := h
  rfl

/-- A failure of the first part settles the whole; else the second part settles it. -/
theorem Settles.bind {e : Engine α} {f : α → Engine β} (he : e.Settles)
    (hf : ∀ a, (f a).Settles) : (e >>= f).Settles := by
  intro st t x h
  rw [start_bind, Dialogue.path_bind] at h
  obtain ⟨t₁, ⟨r, st₁⟩, t₂, -, h₁, h₂⟩ := h
  cases r with
  | ok a => exact hf a st₁ t₂ x h₂
  | error cause =>
    obtain ⟨-, rfl⟩ := h₂
    exact he st t₁ _ h₁

theorem Settles.state_run {e : Engine α} (h : e.Settles) (w : Window σ) (st : State) (s : σ) :
    (e.run w st s).1.2 = State.after (e.run w st s).1.1 :=
  h st _ _ (Dialogue.path_transcript w.answer (e.start st) s)

end Engine

end ReadoutCard.Sca
