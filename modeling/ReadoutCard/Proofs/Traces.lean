import ReadoutCard.Register.Binding

/-!
# Traces of access programs

A dialogue is a tree, and a run of it follows one path: what was asked and
answered, and the result at the end. `Dialogue.Path` lists the paths without
any partner, so what holds of every path holds over every partner
(`path_transcript`), and a path with the answers of a partner is its run
(`run_of_path`). For access programs the paths are called traces. Each
operation has one lemma that says everything its traces can be, and
`traces_bind` cuts the trace of a program into those of its parts. Later proofs
use these and never unfold a dialogue.
-/

namespace ReadoutCard

/-- An element of two lists put together is in the second or in the first. -/
theorem append_eq_append_cons {α : Type} {first later before after : List α} {x : α}
    (split : first ++ later = before ++ x :: after) :
    (∃ middle, before = first ++ middle ∧ later = middle ++ x :: after) ∨
      ∃ middle, first = before ++ x :: middle ∧ after = middle ++ later := by
  rcases List.append_eq_append_iff.1 split with behind | ⟨middle, ahead, rest⟩
  · exact .inl behind
  · cases middle with
    | nil => exact .inl ⟨[], by simpa using ahead.symm, rest.symm⟩
    | cons y middle =>
      cases rest
      exact .inr ⟨middle, ahead, rfl⟩

namespace Dialogue

variable {Q : Type} {A : Q → Type} {α β σ : Type}

/-- The exchanges `t` lead through the dialogue to the result `a`. -/
def Path : Dialogue Q A α → List (Exchange Q A) → α → Prop
  | done b, t, a => t = [] ∧ a = b
  | ask q next, t, a => ∃ answer rest, t = ⟨q, answer⟩ :: rest ∧ Path (next answer) rest a

@[simp]
theorem path_done {b a : α} {t : List (Exchange Q A)} :
    Path (done b) t a ↔ t = [] ∧ a = b := Iff.rfl

@[simp]
theorem path_ask {q : Q} {next : A q → Dialogue Q A α} {a : α} {t : List (Exchange Q A)} :
    Path (ask q next) t a ↔
      ∃ answer rest, t = ⟨q, answer⟩ :: rest ∧ Path (next answer) rest a := Iff.rfl

theorem path_request {q : Q} {a : A q} {t : List (Exchange Q A)} :
    Path (request q) t a ↔ t = [⟨q, a⟩] := by
  constructor
  · rintro ⟨answer, rest, rfl, rfl, rfl⟩
    rfl
  · rintro rfl
    exact ⟨a, [], rfl, rfl, rfl⟩

/-- A path through two dialogues is a path through the first and one through
what the result of the first leads to. -/
theorem path_bind {d : Dialogue Q A α} {f : α → Dialogue Q A β} {t : List (Exchange Q A)} {b : β} :
    Path (d >>= f) t b ↔ ∃ t₁ a t₂, t = t₁ ++ t₂ ∧ Path d t₁ a ∧ Path (f a) t₂ b := by
  induction d generalizing t with
  | done a =>
    constructor
    · intro h
      exact ⟨[], a, t, rfl, ⟨rfl, rfl⟩, h⟩
    · rintro ⟨t₁, a', t₂, rfl, ⟨rfl, rfl⟩, h⟩
      exact h
  | ask q next ih =>
    constructor
    · rintro ⟨answer, rest, rfl, h⟩
      obtain ⟨t₁, a, t₂, rfl, h₁, h₂⟩ := (ih answer).1 h
      exact ⟨⟨q, answer⟩ :: t₁, a, t₂, rfl, ⟨answer, t₁, rfl, h₁⟩, h₂⟩
    · rintro ⟨_, a, t₂, rfl, ⟨answer, t₁, rfl, h₁⟩, h₂⟩
      exact ⟨answer, t₁ ++ t₂, rfl, (ih answer).2 ⟨t₁, a, t₂, rfl, h₁, h₂⟩⟩

theorem path_map {d : Dialogue Q A α} {f : α → β} {t : List (Exchange Q A)} {b : β} :
    Path (f <$> d) t b ↔ ∃ a, Path d t a ∧ b = f a := by
  rw [← bind_pure_comp]
  constructor
  · intro h
    obtain ⟨t₁, a, t₂, rfl, h₁, rfl, rfl⟩ := path_bind.1 h
    exact ⟨a, by simpa using h₁, rfl⟩
  · rintro ⟨a, h, rfl⟩
    exact path_bind.2 ⟨t, a, [], by simp, h, rfl, rfl⟩

/-- A dialogue that may fail ends in its first part with a failure, or goes on in its second. -/
theorem path_except_bind {ε : Type} {p : ExceptT ε (Dialogue Q A) α}
    {f : α → ExceptT ε (Dialogue Q A) β} {t : List (Exchange Q A)} {r : Except ε β} :
    Path (ExceptT.run (p >>= f)) t r ↔ (∃ e, Path (ExceptT.run p) t (.error e) ∧ r = .error e) ∨
      ∃ t₁ a t₂, t = t₁ ++ t₂ ∧ Path (ExceptT.run p) t₁ (.ok a) ∧
        Path (ExceptT.run (f a)) t₂ r := by
  rw [ExceptT.run_bind, path_bind]
  constructor
  · rintro ⟨t₁, x, t₂, rfl, h₁, h₂⟩
    cases x with
    | ok a => exact .inr ⟨t₁, a, t₂, rfl, h₁, h₂⟩
    | error e =>
      obtain ⟨rfl, rfl⟩ := h₂
      exact .inl ⟨e, by simpa using h₁, rfl⟩
  · rintro (⟨e, h, rfl⟩ | ⟨t₁, a, t₂, rfl, h₁, h₂⟩)
    · exact ⟨t, .error e, [], by simp, h, rfl, rfl⟩
    · exact ⟨t₁, .ok a, t₂, rfl, h₁, h₂⟩

/-- Every run follows a path. -/
theorem path_transcript (answer : (q : Q) → σ → A q × σ) (d : Dialogue Q A α) (s : σ) :
    Path d (transcript answer d s) (run answer d s).1 := by
  induction d generalizing s with
  | done a => exact ⟨rfl, rfl⟩
  | ask q next ih => exact ⟨(answer q s).1, _, rfl, ih _ _⟩

/-- From `s` on the partner answers as the exchanges tell, which leaves it in `s'`. -/
def Answers (answer : (q : Q) → σ → A q × σ) (s' : σ) : σ → List (Exchange Q A) → Prop
  | s, [] => s = s'
  | s, ⟨q, a⟩ :: rest => (answer q s).1 = a ∧ Answers answer s' (answer q s).2 rest

/-- A path along which a partner answers is the one that its run follows. -/
theorem run_of_path {answer : (q : Q) → σ → A q × σ} {d : Dialogue Q A α} {s s' : σ}
    {t : List (Exchange Q A)} {a : α} (path : Path d t a) (answers : Answers answer s' s t) :
    run answer d s = (a, s') ∧ transcript answer d s = t := by
  induction d generalizing s t with
  | done b =>
    obtain ⟨rfl, rfl⟩ := path
    obtain rfl : s = s' := answers
    exact ⟨rfl, rfl⟩
  | ask q next ih =>
    obtain ⟨reply, rest, rfl, path⟩ := path
    obtain ⟨rfl, answers⟩ := answers
    obtain ⟨ran, noted⟩ := ih _ path answers
    exact ⟨ran, by rw [transcript, noted]⟩

theorem run_map (answer : (q : Q) → σ → A q × σ) (f : α → β) (d : Dialogue Q A α) (s : σ) :
    run answer (f <$> d) s = (f (run answer d s).1, (run answer d s).2) := by
  rw [← bind_pure_comp, run_bind]
  rfl

theorem transcript_map (answer : (q : Q) → σ → A q × σ) (f : α → β) (d : Dialogue Q A α) (s : σ) :
    transcript answer (f <$> d) s = transcript answer d s := by
  rw [← bind_pure_comp, transcript_bind]
  simp [transcript]

end Dialogue

namespace Register

/-- The accesses of a run in order, each with its answer. -/
abbrev Trace := List (Exchange Request Answer)

/-- The exchange of a read that gives `value`. -/
def readOk (r : Register) (value : UInt32) : Exchange Request Answer :=
  ⟨.read r.index, .ok value⟩

/-- The exchange of a read that fails. -/
def readFailed (r : Register) (e : Error) : Exchange Request Answer :=
  ⟨.read r.index, .error e⟩

/-- The writes attempted, by index and value. -/
def writes (t : Trace) : List (Nat × UInt32) := t.filterMap fun x => match x.request with
  | .read _ => none
  | .write index value => some (index, value)

@[simp]
theorem writes_append (t₁ t₂ : Trace) : writes (t₁ ++ t₂) = writes t₁ ++ writes t₂ :=
  List.filterMap_append

/-- Reads of one register write nothing. -/
theorem writes_reads (r : Register) (values : List UInt32) :
    writes (values.map (readOk r)) = [] := by
  induction values with
  | nil => rfl
  | cons value rest ih => exact ih

end Register

namespace Access

open Register (Trace)

variable {α β : Type} {t : Trace}

/-- The accesses `t` lead through the program to the result `r`. -/
def Traces (p : Access α) (t : Trace) (r : Except Error α) : Prop :=
  Dialogue.Path (ExceptT.run p) t r

theorem traces_read {index : Nat} {r : Except Error UInt32} :
    (read index).Traces t r ↔ t = [⟨.read index, r⟩] := Dialogue.path_request

theorem traces_write {index : Nat} {value : UInt32} {r : Except Error Unit} :
    (write index value).Traces t r ↔ t = [⟨.write index value, r⟩] := Dialogue.path_request

@[simp]
theorem traces_pure {a : α} {r : Except Error α} :
    Traces (pure a) t r ↔ t = [] ∧ r = .ok a := Iff.rfl

@[simp]
theorem traces_throw {e : Error} {r : Except Error α} :
    Traces (throw e) t r ↔ t = [] ∧ r = .error e := Iff.rfl

@[simp]
theorem traces_ofExcept {x r : Except Error α} :
    (ofExcept x).Traces t r ↔ t = [] ∧ r = x := Iff.rfl

/-- A program ends in its first part with a failure, or goes on in its second. -/
theorem traces_bind {p : Access α} {f : α → Access β} {r : Except Error β} :
    (p >>= f).Traces t r ↔ (∃ e, p.Traces t (.error e) ∧ r = .error e) ∨
      ∃ t₁ a t₂, t = t₁ ++ t₂ ∧ p.Traces t₁ (.ok a) ∧ (f a).Traces t₂ r :=
  Dialogue.path_except_bind

theorem traces_bind_ok {p : Access α} {f : α → Access β} {b : β} :
    (p >>= f).Traces t (.ok b) ↔
      ∃ t₁ a t₂, t = t₁ ++ t₂ ∧ p.Traces t₁ (.ok a) ∧ (f a).Traces t₂ (.ok b) := by
  simp [traces_bind]

end Access

/-! ### Bindings

No family moves its registers, so a binding reads and writes where it is told to. -/

theorem CardType.registerOffset_eq_zero (type : CardType) : type.registerOffset = 0 := by
  cases type <;> rfl

theorem Binding.read_eq (b : Binding) (index : Nat) : b.read index = Access.read index := by
  rw [Binding.read, CardType.registerOffset_eq_zero, Nat.add_zero]

theorem Binding.write_eq (b : Binding) (index : Nat) (value : UInt32) :
    b.write index value = Access.write index value := by
  rw [Binding.write, CardType.registerOffset_eq_zero, Nat.add_zero]

/-- Every run over a window follows a trace of its program. -/
theorem Window.traces_transcript {α σ : Type} (w : Window σ) (p : Access α) (s : σ) :
    p.Traces (w.transcript p s) (w.run p s).1 :=
  Dialogue.path_transcript w.answer (ExceptT.run p) s

/-- A trace with the answers of a window is that of its run. -/
theorem Window.run_of_traces {α σ : Type} {w : Window σ} {p : Access α} {s s' : σ}
    {t : Register.Trace} {r : Except Error α} (traces : p.Traces t r)
    (answers : Dialogue.Answers w.answer s' s t) : w.run p s = (r, s') ∧ w.transcript p s = t :=
  Dialogue.run_of_path traces answers

end ReadoutCard
