import ReadoutCard.Proofs.SerialAccesses

/-!
# Programs that write last

A program `Commits` if it reads, and may then end in one write that decides how
it ends: with the failure of the write, or with success. Programs that only read
do (`Asks.commits`), and reading before such a program leads to one
(`Asks.bind_commits`). The traces of these programs are reads, then at most one
write (`Commits.of_traces`).
-/

namespace ReadoutCard

open Register (Request Trace)

/-- A read of a register that may be read. -/
inductive Request.ReadOf (reads : Nat → Prop) : Request → Prop where
  | read {index : Nat} (h : reads index) : ReadOf reads (.read index)

theorem Request.ReadOf.isRead {reads : Nat → Prop} {q : Request} (h : ReadOf reads q) :
    IsRead q := by
  cases h
  exact .read _

namespace Access

variable {α β : Type} {reads : Nat → Prop} {writes : Nat → UInt32 → Prop}

/-- The dialogue reads, then ends with or without a write; the write's failure is its result. -/
def DialogueCommits (reads : Nat → Prop) (writes : Nat → UInt32 → Prop) :
    Dialogue Request Register.Answer (Except Error α) → Prop
  | .done _ => True
  | .ask (.read index) next =>
    reads index ∧ ∀ a, DialogueCommits reads writes (next a)
  | .ask (.write index value) next =>
    writes index value ∧ (∀ e, next (.error e) = .done (.error e)) ∧
      ∃ a, next (.ok ()) = .done (.ok a)

/-- The program reads what may be read, then makes at most one write of what may be written, as its
last access; it fails if that fails, and else succeeds. -/
def Commits (reads : Nat → Prop) (writes : Nat → UInt32 → Prop) (p : Access α) : Prop :=
  DialogueCommits reads writes (ExceptT.run p)

theorem commits_write {index : Nat} {value : UInt32} (h : writes index value) :
    (write index value).Commits reads writes :=
  ⟨h, fun _ => rfl, (), rfl⟩

/-- What only reads. -/
theorem Asks.commits {p : Access α} (hp : p.Asks (Request.ReadOf reads)) :
    p.Commits reads writes := by
  unfold Asks at hp
  unfold Commits
  generalize ExceptT.run p = d at hp ⊢
  induction d with
  | done r => trivial
  | ask q next ih =>
    cases hp.1 with
    | read may => exact ⟨may, fun a => ih a (hp.2 a)⟩

/-- Reading before a program that commits. -/
theorem Asks.bind_commits {p : Access α} {f : α → Access β} (hp : p.Asks (Request.ReadOf reads))
    (hf : ∀ a, (f a).Commits reads writes) : (p >>= f).Commits reads writes := by
  unfold Asks at hp
  unfold Commits
  rw [ExceptT.run_bind]
  generalize ExceptT.run p = d at hp ⊢
  induction d with
  | done r =>
    cases r with
    | ok a => exact hf a
    | error e => trivial
  | ask q next ih =>
    cases hp.1 with
    | read may => exact ⟨may, fun a => ih a (hp.2 a)⟩

/-- After the write only the result is made up. -/
theorem Commits.bind_pure {p : Access α} (hp : p.Commits reads writes) (g : α → β) :
    (p >>= fun a => pure (g a)).Commits reads writes := by
  unfold Commits at hp ⊢
  rw [ExceptT.run_bind]
  generalize ExceptT.run p = d at hp ⊢
  induction d with
  | done r => cases r <;> trivial
  | ask q next ih =>
    cases q with
    | read index => exact ⟨hp.1, fun a => ih a (hp.2 a)⟩
    | write index value =>
      obtain ⟨may, fails, a, succeeds⟩ := hp
      refine ⟨may, fun e => ?_, g a, ?_⟩
      · show (next (.error e)).bind _ = _
        rw [fails]
        rfl
      · show (next (.ok ())).bind _ = _
        rw [succeeds]
        rfl

/-- A check before a program that commits if it passes. -/
theorem commits_ofExcept_bind {x : Except Error α} {f : α → Access β}
    (hf : ∀ a, x = .ok a → (f a).Commits reads writes) :
    (ofExcept x >>= f).Commits reads writes := by
  cases x with
  | ok a => exact hf a rfl
  | error e => trivial

theorem commits_throw (e : Error) : (throw e : Access α).Commits reads writes := trivial

theorem commits_ite {c : Prop} [Decidable c] {p q : Access α} (hp : p.Commits reads writes)
    (hq : q.Commits reads writes) : (if c then p else q).Commits reads writes := by
  split
  · exact hp
  · exact hq

theorem Commits.asks {p : Access α} (hp : p.Commits reads writes) {allowed : Request → Prop}
    (hr : ∀ index, reads index → allowed (.read index))
    (hw : ∀ index value, writes index value → allowed (.write index value)) : p.Asks allowed := by
  unfold Commits at hp
  unfold Asks
  generalize ExceptT.run p = d at hp ⊢
  induction d with
  | done r => trivial
  | ask q next ih =>
    cases q with
    | read index => exact ⟨hr index hp.1, fun a => ih a (hp.2 a)⟩
    | write index value =>
      obtain ⟨may, fails, a, succeeds⟩ := hp
      refine ⟨hw index value may, fun answer => ?_⟩
      cases answer with
      | error e =>
        rw [fails]
        trivial
      | ok _ =>
        rw [succeeds]
        trivial

/-- A trace is reads, then at most one write; the result tells whether the write failed. -/
theorem Commits.of_traces {p : Access α} (hp : p.Commits reads writes) {t : Trace}
    {r : Except Error α} (traces : p.Traces t r) :
    ∃ front, (∀ x ∈ front, Request.ReadOf reads x.request) ∧
      (t = front ∨ ∃ index value, writes index value ∧
        ((∃ e, t = front ++ [⟨.write index value, .error e⟩] ∧ r = .error e) ∨
          ∃ a, t = front ++ [⟨.write index value, .ok ()⟩] ∧ r = .ok a)) := by
  unfold Commits at hp
  unfold Traces at traces
  generalize ExceptT.run p = d at hp traces
  induction d generalizing t with
  | done b =>
    obtain ⟨rfl, -⟩ := traces
    exact ⟨[], by simp, .inl rfl⟩
  | ask q next ih =>
    obtain ⟨answer, rest, rfl, later⟩ := traces
    -- A read comes before the rest of the trace, a write has no rest.
    cases q with
    | read index =>
      obtain ⟨front, onlyReads, shape⟩ := ih answer (hp.2 answer) later
      refine ⟨⟨.read index, answer⟩ :: front, ?_, ?_⟩
      · intro x hx
        rcases List.mem_cons.1 hx with rfl | hx
        · exact .read hp.1
        · exact onlyReads x hx
      · obtain rfl | ⟨i, v, may, ⟨e, rfl, failed⟩ | ⟨a, rfl, succeeded⟩⟩ := shape
        · exact .inl rfl
        · exact .inr ⟨i, v, may, .inl ⟨e, rfl, failed⟩⟩
        · exact .inr ⟨i, v, may, .inr ⟨a, rfl, succeeded⟩⟩
    | write index value =>
      obtain ⟨may, fails, a, succeeds⟩ := hp
      refine ⟨[], by simp, .inr ⟨index, value, may, ?_⟩⟩
      cases answer with
      | error e =>
        rw [fails] at later
        obtain ⟨rfl, rfl⟩ := later
        exact .inl ⟨e, rfl, rfl⟩
      | ok _ =>
        rw [succeeds] at later
        obtain ⟨rfl, rfl⟩ := later
        exact .inr ⟨a, rfl, rfl⟩

end Access

end ReadoutCard
