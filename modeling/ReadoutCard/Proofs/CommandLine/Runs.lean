import ReadoutCard.CommandLine.Host
import ReadoutCard.Proofs.Sysfs.Runs

/-!
# Runs of commands

A command runs with a partner that answers its requests. Each operation has one
lemma that says what it gives and leaves, and `run_bind` puts the parts
together, so that later proofs follow a command step by step without opening a
dialogue. A mapped window is a window onto the partner's state (`windowOf`): an
access program that a command runs is a run over this window (`run_access`). On
a host, a query of a command is a run over its tree and changes nothing else
(`run_queryAs_host`), so that what is known of trees holds of hosts.
-/

namespace ReadoutCard.CommandLine

namespace Console

variable {H W α β σ : Type} (answer : (q : Request H W) → σ → Answer q × σ)

/-- Runs a command with a partner. -/
def run (p : Console H W α) (s : σ) : Except Failure α × σ := Dialogue.run answer (ExceptT.run p) s

/-- The PCI layer behind a partner. -/
def pciOf (q : Pci.Request H W) (s : σ) : Pci.Answer q × σ := answer (.pci q) s

/-- What a partner shows through a mapped window. -/
def windowOf (window : W) : Window σ where
  read index s := answer (.pci (.access window (.read index))) s
  write index value s := answer (.pci (.access window (.write index value))) s

/-- A command stops at its first failure. -/
theorem run_bind (p : Console H W α) (f : α → Console H W β) (s : σ) :
    run answer (p >>= f) s = match run answer p s with
      | (.ok a, s) => run answer (f a) s
      | (.error e, s) => (.error e, s) := by
  have step := Dialogue.run_except_bind answer p f s
  unfold run
  rw [step]
  rcases Dialogue.run answer (ExceptT.run p) s with ⟨_ | _, _⟩ <;> rfl

/-- A part that succeeds hands its result and the partner's state on. -/
theorem run_bind_of_ok {p : Console H W α} {s s' : σ} {a : α} (h : run answer p s = (.ok a, s'))
    (f : α → Console H W β) : run answer (p >>= f) s = run answer (f a) s' := by
  rw [run_bind, h]

/-- A part that fails ends the command. -/
theorem run_bind_of_error {p : Console H W α} {s s' : σ} {e : Failure}
    (h : run answer p s = (.error e, s')) (f : α → Console H W β) :
    run answer (p >>= f) s = (.error e, s') := by
  rw [run_bind, h]

/-- A command that succeeds has gone through both its parts. -/
theorem run_bind_eq_ok {p : Console H W α} {f : α → Console H W β} {s v : σ} {b : β} :
    run answer (p >>= f) s = (.ok b, v) ↔
      ∃ a s', run answer p s = (.ok a, s') ∧ run answer (f a) s' = (.ok b, v) := by
  rw [run_bind]
  rcases run answer p s with ⟨e | a, s'⟩
  · simp
  · constructor
    · intro h
      exact ⟨a, s', rfl, h⟩
    · rintro ⟨_, _, same, h⟩
      cases same
      exact h

@[simp]
theorem run_pure (a : α) (s : σ) : run answer (pure a : Console H W α) s = (.ok a, s) := rfl

@[simp]
theorem run_throw (e : Failure) (s : σ) :
    run answer (throw e : Console H W α) s = (.error e, s) := rfl

@[simp]
theorem run_ofExcept (x : Except Failure α) (s : σ) :
    run answer (ofExcept x : Console H W α) s = (x, s) := rfl

@[simp]
theorem run_print (line : String) (s : σ) :
    run answer (print line : Console H W Unit) s = (.ok (), (answer (.print line) s).2) := rfl

@[simp]
theorem run_save (path : Path) (content : ByteArray) (s : σ) :
    run answer (save path content : Console H W _) s =
      (.ok (answer (.save path content) s).1, (answer (.save path content) s).2) := rfl

theorem run_queryAs (asFailure : Error → Failure) (q : Pci.Query H W α) (s : σ) :
    run answer (queryAs asFailure q) s =
      ((Dialogue.run (pciOf answer) (ExceptT.run q) s).1.mapError asFailure,
        (Dialogue.run (pciOf answer) (ExceptT.run q) s).2) := by
  unfold run queryAs
  rw [ExceptT.run_mk, Dialogue.run_bind, Dialogue.run_through]
  rfl

theorem run_query (q : Pci.Query H W α) (s : σ) : run answer (query q) s =
    ((Dialogue.run (pciOf answer) (ExceptT.run q) s).1.mapError Failure.ofError,
      (Dialogue.run (pciOf answer) (ExceptT.run q) s).2) :=
  run_queryAs answer Failure.ofError q s

/-- Accesses of a command are accesses to the partner's window. -/
theorem run_access (m : Mapping W) (p : Access α) (s : σ) : run answer (access m p) s =
    (((windowOf answer m.window).run p s).1.mapError Failure.ofError,
      ((windowOf answer m.window).run p s).2) := by
  have window : (fun (q : Register.Request) (s : σ) =>
      Dialogue.run (pciOf answer) (Dialogue.request (Pci.Request.access m.window q)) s) =
      (windowOf answer m.window).answer := by
    funext q s
    cases q <;> rfl
  rw [access, run_query, Pci.access, ExceptT.run_mk, Pci.onWindow, Dialogue.run_through, window]
  rfl

end Console

/-! ### Hosts -/

section Hosts

open Sysfs (Resource)

variable {α : Type}

/-- The host with another tree. -/
def Host.withTree (h : Host) (t : DeviceTree) : Host := { h with tree := t }

namespace Console

/-- A query of a command runs over the tree of the host. -/
theorem run_queryAs_host (asFailure : Error → Failure) (q : Pci.Query FileName Resource α)
    (h : Host) : run Host.answer (queryAs asFailure q) h =
      ((Sysfs.run q h.tree).1.mapError asFailure, h.withTree (Sysfs.run q h.tree).2) := by
  have step : ∀ (d : Dialogue (Pci.Request FileName Resource) Pci.Answer (Except Error α)) h,
      Dialogue.run (pciOf Host.answer) d h =
        ((Dialogue.run Sysfs.answer d h.tree).1,
          h.withTree (Dialogue.run Sysfs.answer d h.tree).2) := by
    intro d
    induction d with
    | done a =>
      intro h
      rfl
    | ask q next ih =>
      intro h
      simp only [Dialogue.run]
      rw [ih]
      rfl
  rw [run_queryAs, step]
  rfl

theorem run_query_host (q : Pci.Query FileName Resource α) (h : Host) :
    run Host.answer (query q) h =
      ((Sysfs.run q h.tree).1.mapError .ofError, h.withTree (Sysfs.run q h.tree).2) :=
  run_queryAs_host Failure.ofError q h

/-- Accesses of a command run over the window of the tree of the host. -/
theorem run_access_host (m : Mapping Resource) (p : Access α) (h : Host) :
    run Host.answer (access m p) h =
      (((Sysfs.windowOf m.window).run p h.tree).1.mapError .ofError,
        h.withTree ((Sysfs.windowOf m.window).run p h.tree).2) := by
  rw [access, run_query_host, Sysfs.run_access]

end Console

end Hosts

end ReadoutCard.CommandLine
