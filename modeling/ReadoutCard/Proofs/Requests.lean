import ReadoutCard.Proofs.Traces

/-!
# What a program may ask for

`Dialogue.Asks` says that a dialogue puts only allowed requests, whatever it is
answered. It goes through `>>=`. What partners do with allowed requests they
do with the whole dialogue: if two of them answer alike and stay related after
each allowed request, then they give the same result and are related at the
end (`Asks.run_related`).
-/

namespace ReadoutCard

namespace Dialogue

variable {Q R : Type} {A : Q → Type} {B : R → Type} {α β σ τ : Type} {allowed : Q → Prop}

/-- Only allowed requests are put, whatever the answers. -/
def Asks (allowed : Q → Prop) : Dialogue Q A α → Prop
  | done _ => True
  | ask q next => allowed q ∧ ∀ a, Asks allowed (next a)

theorem Asks.bind {d : Dialogue Q A α} {f : α → Dialogue Q A β} (hd : d.Asks allowed)
    (hf : ∀ a, (f a).Asks allowed) : (d >>= f).Asks allowed := by
  induction d with
  | done a => exact hf a
  | ask q next ih => exact ⟨hd.1, fun a => ih a (hd.2 a)⟩

theorem Asks.mono {allowed' : Q → Prop} {d : Dialogue Q A α} (hd : d.Asks allowed)
    (h : ∀ q, allowed q → allowed' q) : d.Asks allowed' := by
  induction d with
  | done a => trivial
  | ask q next ih => exact ⟨h q hd.1, fun a => ih a (hd.2 a)⟩

/-- Where everything is allowed. -/
theorem asks_of_forall (h : ∀ q, allowed q) (d : Dialogue Q A α) : d.Asks allowed := by
  induction d with
  | done a => trivial
  | ask q next ih => exact ⟨h q, ih⟩

/-- Partners that answer allowed requests alike, and stay related by it, do so all the way. -/
theorem Asks.run_related {answer : (q : Q) → σ → A q × σ} {answer' : (q : Q) → τ → A q × τ}
    {r : σ → τ → Prop}
    (step : ∀ q, allowed q → ∀ s s', r s s' →
      (answer q s).1 = (answer' q s').1 ∧ r (answer q s).2 (answer' q s').2)
    {d : Dialogue Q A α} (hd : d.Asks allowed) {s : σ} {s' : τ} (hs : r s s') :
    (run answer d s).1 = (run answer' d s').1 ∧
      r (run answer d s).2 (run answer' d s').2 := by
  induction d generalizing s s' with
  | done a => exact ⟨rfl, hs⟩
  | ask q next ih =>
    obtain ⟨same, stays⟩ := step q hd.1 s s' hs
    simp only [run, same]
    exact ih _ (hd.2 _) stays

/-- Partners that answer everything alike do so all the way. -/
theorem run_related {answer : (q : Q) → σ → A q × σ} {answer' : (q : Q) → τ → A q × τ}
    {r : σ → τ → Prop}
    (step : ∀ q s s', r s s' →
      (answer q s).1 = (answer' q s').1 ∧ r (answer q s).2 (answer' q s').2)
    (d : Dialogue Q A α) {s : σ} {s' : τ} (hs : r s s') :
    (run answer d s).1 = (run answer' d s').1 ∧
      r (run answer d s).2 (run answer' d s').2 :=
  (asks_of_forall (fun _ => trivial) d).run_related (fun q _ => step q) hs

end Dialogue

namespace Access

open Register (Request)

variable {α β : Type} {allowed : Request → Prop}

/-- The program makes only allowed accesses. -/
def Asks (allowed : Request → Prop) (p : Access α) : Prop :=
  Dialogue.Asks allowed (ExceptT.run p)

theorem asks_pure (a : α) : Asks allowed (pure a : Access α) := trivial

theorem asks_throw (e : Error) : Asks allowed (throw e : Access α) := trivial

theorem asks_read {index : Nat} (h : allowed (.read index)) : (read index).Asks allowed :=
  ⟨h, fun _ => trivial⟩

theorem asks_write {index : Nat} {value : UInt32} (h : allowed (.write index value)) :
    (write index value).Asks allowed :=
  ⟨h, fun _ => trivial⟩

theorem Asks.bind {p : Access α} {f : α → Access β} (hp : p.Asks allowed)
    (hf : ∀ a, (f a).Asks allowed) : (p >>= f).Asks allowed := by
  unfold Asks
  rw [ExceptT.run_bind]
  refine Dialogue.Asks.bind hp fun x => ?_
  cases x with
  | ok a => exact hf a
  | error e => trivial

theorem asks_ite {c : Prop} [Decidable c] {p q : Access α} (hp : p.Asks allowed)
    (hq : q.Asks allowed) : (if c then p else q).Asks allowed := by
  split
  · exact hp
  · exact hq

end Access

end ReadoutCard
