import ReadoutCard.Inventory
import ReadoutCard.Proofs.Traces

/-!
# Traces of queries

The traces of a query to the PCI layer are the exchanges that can lead through
it, and the result. As for access programs there is one lemma for each
operation that says everything its traces can be, and `traces_bind` cuts the
trace of a query into those of its parts. Accesses to a mapped window are
exchanges with the layer too (`traces_access`).
-/

namespace ReadoutCard

variable {H W α β : Type}

namespace Pci

/-- The exchanges with a PCI layer, in order. -/
abbrev Trace (H W : Type) := List (Exchange (Request H W) Answer)

/-- An exchange with a mapped window, put to the layer. -/
def onWindowOf (window : W) (x : Exchange Register.Request Register.Answer) :
    Exchange (Request H W) Answer :=
  ⟨.access window x.request, x.answer⟩

/-- The exchanges `t` lead through the query to the result `r`. -/
def Query.Traces (q : Query H W α) (t : Trace H W) (r : Except Error α) : Prop :=
  Dialogue.Path (ExceptT.run q) t r

variable {t : Trace H W}

theorem traces_map {device : H} {bar : Nat} {r : Except Error (Mapping W)} :
    (map device bar : Query H W (Mapping W)).Traces t r ↔ t = [⟨.map device bar, r⟩] :=
  Dialogue.path_request

theorem traces_devices {id : PciId} {r : Except Error (List H)} :
    (devices id : Query H W (List H)).Traces t r ↔ t = [⟨.devices id, r⟩] :=
  Dialogue.path_request

theorem traces_address {device : H} {r : Except Error PciAddress} :
    (address device : Query H W PciAddress).Traces t r ↔ t = [⟨.address device, r⟩] :=
  Dialogue.path_request

theorem traces_numaNode {device : H} {r : Except Error Int} :
    (numaNode device : Query H W Int).Traces t r ↔ t = [⟨.numaNode device, r⟩] :=
  Dialogue.path_request

theorem traces_warn {warning : Warning} {r : Except Error Unit} :
    (warn warning : Query H W Unit).Traces t r ↔ t = [⟨.warn warning, ()⟩] ∧ r = .ok () := by
  rw [Query.Traces, warn, ExceptT.run_lift, Dialogue.path_map]
  simp only [Dialogue.path_request]
  exact ⟨fun ⟨_, traced, same⟩ => ⟨traced, same⟩, fun ⟨traced, same⟩ => ⟨(), traced, same⟩⟩

theorem path_onWindow {window : W} {d : Dialogue Register.Request Register.Answer α} {a : α} :
    Dialogue.Path (onWindow (H := H) window d) t a ↔
      ∃ u, Dialogue.Path d u a ∧ t = u.map (onWindowOf window) := by
  unfold onWindow
  induction d generalizing t with
  | done b =>
    constructor
    · rintro ⟨rfl, rfl⟩
      exact ⟨[], ⟨rfl, rfl⟩, rfl⟩
    · rintro ⟨u, ⟨rfl, rfl⟩, rfl⟩
      exact ⟨rfl, rfl⟩
  | ask q next ih =>
    constructor
    · rintro ⟨answer, rest, rfl, later⟩
      obtain ⟨u, path, rfl⟩ := (ih answer).1 later
      exact ⟨⟨q, answer⟩ :: u, ⟨answer, u, rfl, path⟩, rfl⟩
    · rintro ⟨u, ⟨answer, rest, rfl, path⟩, rfl⟩
      exact ⟨answer, _, rfl, (ih answer).2 ⟨rest, path, rfl⟩⟩

/-- A program over a mapped window makes its accesses there. -/
theorem traces_access {m : Mapping W} {p : Access α} {r : Except Error α} :
    (access m p : Query H W α).Traces t r ↔
      ∃ u, p.Traces u r ∧ t = u.map (onWindowOf m.window) :=
  path_onWindow

theorem traces_pure {a : α} {r : Except Error α} :
    (pure a : Query H W α).Traces t r ↔ t = [] ∧ r = .ok a := Iff.rfl

/-- A query ends in its first part with a failure, or goes on in its second. -/
theorem traces_bind {q : Query H W α} {f : α → Query H W β} {r : Except Error β} :
    (q >>= f).Traces t r ↔ (∃ e, q.Traces t (.error e) ∧ r = .error e) ∨
      ∃ t₁ a t₂, t = t₁ ++ t₂ ∧ q.Traces t₁ (.ok a) ∧ (f a).Traces t₂ r :=
  Dialogue.path_except_bind

/-- What is made of the result of a query needs no exchange. -/
theorem traces_bind_pure {q : Query H W α} {f : α → β} {r : Except Error β} :
    (q >>= fun a => pure (f a)).Traces t r ↔ ∃ x, q.Traces t x ∧ r = x.map f := by
  constructor
  · intro h
    obtain ⟨e, failed, rfl⟩ | ⟨t₁, a, t₂, rfl, traced, rfl, rfl⟩ := traces_bind.1 h
    · exact ⟨.error e, failed, rfl⟩
    · exact ⟨.ok a, by rwa [List.append_nil], rfl⟩
  · rintro ⟨x, traced, rfl⟩
    cases x with
    | error e => exact traces_bind.2 (.inl ⟨e, traced, rfl⟩)
    | ok a => exact traces_bind.2 (.inr ⟨t, a, [], (List.append_nil t).symm, traced, rfl, rfl⟩)

theorem traces_bind_ok {q : Query H W α} {f : α → Query H W β} {b : β} :
    (q >>= f).Traces t (.ok b) ↔
      ∃ t₁ a t₂, t = t₁ ++ t₂ ∧ q.Traces t₁ (.ok a) ∧ (f a).Traces t₂ (.ok b) := by
  simp [traces_bind]

/-- A failure that is taken as a value comes of the same exchanges. -/
theorem traces_attempt {q : Query H W α} {x : Except Error (Except Error α)} :
    (attempt q).Traces t x ↔ ∃ r, q.Traces t r ∧ x = .ok r := by
  rw [Query.Traces, attempt, ExceptT.run_lift]
  exact Dialogue.path_map

theorem traces_attempt_ok {q : Query H W α} {r : Except Error α} :
    (attempt q).Traces t (.ok r) ↔ q.Traces t r := by
  simp [traces_attempt]

end Pci

end ReadoutCard
