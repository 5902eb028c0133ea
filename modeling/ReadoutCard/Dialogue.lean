/-! # Dialogues: programs that put requests to a partner and go on with its answers

A dialogue does not know its partner. `run` lets a partner with a state answer, `through` replaces
each request by a dialogue with somebody else. What holds of every sequence of answers therefore
holds over every partner. `Exchange` is one request with its answer, and `transcript` lists the
exchanges of a run in order.
-/

namespace ReadoutCard

/-- A program with requests `Q`, answers `A` and a result. -/
inductive Dialogue (Q : Type) (A : Q → Type) (α : Type) : Type where
  | done (result : α)
  | ask (request : Q) (next : A request → Dialogue Q A α)

/-- A request together with its answer. -/
structure Exchange (Q : Type) (A : Q → Type) where
  request : Q
  answer : A request

namespace Dialogue

variable {Q : Type} {A : Q → Type} {α β γ σ : Type}

/-- Goes on with the result of a first dialogue. -/
def bind : Dialogue Q A α → (α → Dialogue Q A β) → Dialogue Q A β
  | done a, f => f a
  | ask q next, f => ask q fun a => (next a).bind f

instance : Monad (Dialogue Q A) where
  pure := done
  bind := bind

/-- A single request; the result is its answer. -/
def request (q : Q) : Dialogue Q A (A q) := ask q done

@[simp]
theorem pure_eq (a : α) : (pure a : Dialogue Q A α) = done a := rfl

@[simp]
theorem done_bind (a : α) (f : α → Dialogue Q A β) : (done a >>= f) = f a := rfl

@[simp]
theorem ask_bind (q : Q) (next : A q → Dialogue Q A α) (f : α → Dialogue Q A β) :
    (ask q next >>= f) = ask q fun a => next a >>= f := rfl

theorem bind_done (d : Dialogue Q A α) : (d >>= done) = d := by
  induction d with
  | done a => rfl
  | ask q next ih => simp [ih]

theorem bind_assoc (d : Dialogue Q A α) (f : α → Dialogue Q A β) (g : β → Dialogue Q A γ) :
    (d >>= f >>= g) = d >>= fun a => f a >>= g := by
  induction d with
  | done a => rfl
  | ask q next ih => simp [ih]

instance : LawfulMonad (Dialogue Q A) :=
  LawfulMonad.mk' _
    (fun d => bind_done d)
    (fun _ _ => rfl)
    (fun d f g => bind_assoc d f g)

/-- Runs a dialogue with a partner that answers out of its state. -/
def run (answer : (q : Q) → σ → A q × σ) : Dialogue Q A α → σ → α × σ
  | done a, s => (a, s)
  | ask q next, s =>
    let (a, s) := answer q s
    run answer (next a) s

/-- The exchanges of a run, in order. -/
def transcript (answer : (q : Q) → σ → A q × σ) : Dialogue Q A α → σ → List (Exchange Q A)
  | done _, _ => []
  | ask q next, s => ⟨q, (answer q s).1⟩ :: transcript answer (next (answer q s).1) (answer q s).2

/-- A partner that notes its exchanges in its state. -/
def noting (answer : (q : Q) → σ → A q × σ) (q : Q) :
    σ × Array (Exchange Q A) → A q × σ × Array (Exchange Q A)
  | (s, notes) =>
    let (a, s) := answer q s
    (a, s, notes.push ⟨q, a⟩)

/-- Puts every request through to another partner. -/
def through {R : Type} {B : R → Type} (forward : (q : Q) → Dialogue R B (A q)) :
    Dialogue Q A α → Dialogue R B α
  | done a => done a
  | ask q next => forward q >>= fun a => through forward (next a)

/-- Lets the answers come out of any monad. -/
def answerIn {m : Type → Type} [Monad m] (answer : (q : Q) → m (A q)) : Dialogue Q A α → m α
  | done a => pure a
  | ask q next => answer q >>= fun a => answerIn answer (next a)

theorem run_bind (answer : (q : Q) → σ → A q × σ) (d : Dialogue Q A α) (f : α → Dialogue Q A β)
    (s : σ) : run answer (d >>= f) s =
      run answer (f (run answer d s).1) (run answer d s).2 := by
  induction d generalizing s with
  | done a => rfl
  | ask q next ih => simp [run, ih]

theorem transcript_bind (answer : (q : Q) → σ → A q × σ) (d : Dialogue Q A α)
    (f : α → Dialogue Q A β) (s : σ) : transcript answer (d >>= f) s =
      transcript answer d s ++ transcript answer (f (run answer d s).1) (run answer d s).2 := by
  induction d generalizing s with
  | done a => rfl
  | ask q next ih => simp [transcript, run, ih]

/-- Taking notes changes neither result nor state, and the notes are the transcript. -/
theorem run_noting (answer : (q : Q) → σ → A q × σ) (d : Dialogue Q A α) (s : σ)
    (notes : Array (Exchange Q A)) : run (noting answer) d (s, notes) =
      ((run answer d s).1, (run answer d s).2, notes ++ (transcript answer d s).toArray) := by
  induction d generalizing s notes with
  | done a => simp [run, transcript]
  | ask q next ih =>
    simp only [run, transcript, noting, ih, Prod.mk.injEq, true_and]
    apply Array.ext'
    simp

/-! ### Dialogues that may fail -/

/-- A failure ends the run; else the second part goes on from where the first one stopped. -/
theorem run_except_bind {ε : Type} (answer : (q : Q) → σ → A q × σ)
    (p : ExceptT ε (Dialogue Q A) α) (f : α → ExceptT ε (Dialogue Q A) β) (s : σ) :
    run answer (ExceptT.run (p >>= f)) s = match run answer (ExceptT.run p) s with
      | (.ok a, s) => run answer (ExceptT.run (f a)) s
      | (.error e, s) => (.error e, s) := by
  rw [ExceptT.run_bind, run_bind]
  rcases run answer (ExceptT.run p) s with ⟨_ | _, s⟩ <;> rfl

/-- After a failure nothing more is asked. -/
theorem transcript_except_bind {ε : Type} (answer : (q : Q) → σ → A q × σ)
    (p : ExceptT ε (Dialogue Q A) α) (f : α → ExceptT ε (Dialogue Q A) β) (s : σ) :
    transcript answer (ExceptT.run (p >>= f)) s = transcript answer (ExceptT.run p) s ++
      match run answer (ExceptT.run p) s with
      | (.ok a, s) => transcript answer (ExceptT.run (f a)) s
      | (.error _, _) => [] := by
  rw [ExceptT.run_bind, transcript_bind]
  rcases run answer (ExceptT.run p) s with ⟨_ | _, s⟩ <;> rfl

/-- Forwarding a bind forwards its parts. -/
theorem through_bind {R : Type} {B : R → Type} (forward : (q : Q) → Dialogue R B (A q))
    (d : Dialogue Q A α) (f : α → Dialogue Q A β) :
    through forward (d >>= f) = through forward d >>= fun a => through forward (f a) := by
  induction d with
  | done a => rfl
  | ask q next ih =>
    simp only [ask_bind, through, ih]
    exact (bind_assoc ..).symm

/-- Running a forwarded dialogue is running it with a partner that forwards. -/
theorem run_through {R : Type} {B : R → Type} (answer : (r : R) → σ → B r × σ)
    (forward : (q : Q) → Dialogue R B (A q)) (d : Dialogue Q A α) (s : σ) :
    run answer (through forward d) s = run (fun q s => run answer (forward q) s) d s := by
  induction d generalizing s with
  | done a => rfl
  | ask q next ih => simp [through, run, run_bind, ih]

end Dialogue

end ReadoutCard
