import ReadoutCard.Pci.Sysfs
import ReadoutCard.Proofs.Traces

/-!
# Queries over a tree

A query runs over a tree, and each request has one lemma that says what it gives
and leaves; only accesses to windows leave another tree. A mapped window is a
window onto the tree (`windowOf`).
-/

namespace ReadoutCard

namespace Sysfs

variable {α β : Type}

/-- Runs a query over a tree. -/
def run (q : Pci.Query FileName Resource α) (t : DeviceTree) : Except Error α × DeviceTree :=
  Dialogue.run answer (ExceptT.run q) t

/-- What a tree shows through a window. -/
def windowOf (w : Resource) : Window DeviceTree where
  read index t := (read t w index, t)
  write index value t := write t w index value

/-- A query stops at its first failure. -/
theorem run_bind (q : Pci.Query FileName Resource α) (f : α → Pci.Query FileName Resource β)
    (t : DeviceTree) : run (q >>= f) t = match run q t with
      | (.ok a, t) => run (f a) t
      | (.error e, t) => (.error e, t) := by
  have step := Dialogue.run_except_bind answer q f t
  unfold run
  rw [step]
  rcases Dialogue.run answer (ExceptT.run q) t with ⟨_ | _, _⟩ <;> rfl

/-- A query that succeeds has gone through both its parts. -/
theorem run_bind_eq_ok {q : Pci.Query FileName Resource α} {f : α → Pci.Query FileName Resource β}
    {t v : DeviceTree} {b : β} : run (q >>= f) t = (.ok b, v) ↔
      ∃ a s, run q t = (.ok a, s) ∧ run (f a) s = (.ok b, v) := by
  rw [run_bind]
  rcases run q t with ⟨e | a, s⟩
  · simp
  · constructor
    · intro h
      exact ⟨a, s, rfl, h⟩
    · rintro ⟨_, _, same, h⟩
      cases same
      exact h

section Requests

variable (t : DeviceTree) (device : FileName)

@[simp]
theorem run_pure (a : α) : run (pure a) t = (.ok a, t) := rfl

@[simp]
theorem run_throw (e : Error) : run (throw e : Pci.Query FileName Resource α) t = (.error e, t) :=
  rfl

@[simp]
theorem run_ofExcept (x : Except Error α) : run (Pci.ofExcept x) t = (x, t) := rfl

@[simp]
theorem run_devices (id : PciId) : run (Pci.devices id) t = (devices t id, t) := rfl

@[simp]
theorem run_address : run (Pci.address device) t = (address device, t) := rfl

@[simp]
theorem run_numaNode : run (Pci.numaNode device) t = (numaNode t device, t) := rfl

@[simp]
theorem run_map (bar : Nat) : run (Pci.map device bar) t = (map t device bar, t) := rfl

@[simp]
theorem run_warn (warning : Warning) : run (Pci.warn warning) t = (.ok (), t) := rfl

end Requests

/-- A failure that is taken as a value gives no failure. -/
theorem run_attempt (q : Pci.Query FileName Resource α) (t : DeviceTree) :
    run (Pci.attempt q) t = (.ok (run q t).1, (run q t).2) := by
  unfold run
  rw [Pci.attempt, ExceptT.run_lift, Dialogue.run_map]

/-- Accesses of a query are accesses to the tree's window. -/
theorem run_access (m : Mapping Resource) (p : Access α) (t : DeviceTree) :
    run (Pci.access m p) t = (windowOf m.window).run p t := by
  have window : (fun (q : Register.Request) (t : DeviceTree) =>
      Dialogue.run answer (Dialogue.request (Pci.Request.access m.window q)) t) =
      (windowOf m.window).answer := by
    funext q t
    cases q <;> rfl
  unfold run
  rw [Pci.access, ExceptT.run_mk, Pci.onWindow, Dialogue.run_through, window]
  rfl

end Sysfs

end ReadoutCard
