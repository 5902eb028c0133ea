import ReadoutCard.Proofs.Traces

/-!
# Partners that differ only in what is ignored

`Dialogue.Ignores` says that a dialogue does not see by what two answers differ
if they are alike: it goes on in the same way after both. It goes through `>>=`.
Two partners that answer every sequence of requests alike (`AnswersAlike`) then
cannot be told apart: the dialogue puts the same requests to both and ends with
the same result (`Ignores.lockstep`, by induction on the dialogue).
-/

namespace ReadoutCard

namespace Dialogue

variable {Q : Type} {A : Q → Type} {α β σ τ : Type} {alike : (q : Q) → A q → A q → Prop}

/-- The dialogue goes on in the same way after answers that are alike. -/
def Ignores (alike : (q : Q) → A q → A q → Prop) : Dialogue Q A α → Prop
  | done _ => True
  | ask q next => (∀ a a', alike q a a' → next a = next a') ∧ ∀ a, Ignores alike (next a)

theorem Ignores.bind {d : Dialogue Q A α} {f : α → Dialogue Q A β} (hd : d.Ignores alike)
    (hf : ∀ a, (f a).Ignores alike) : (d >>= f).Ignores alike := by
  induction d with
  | done a => exact hf a
  | ask q next ih =>
    refine ⟨fun a a' same => ?_, fun a => ih a (hd.2 a)⟩
    show next a >>= f = next a' >>= f
    rw [hd.1 a a' same]

/-- From `s` and `s'` on the partners answer the requests alike, one after the other. -/
def AnswersAlike (alike : (q : Q) → A q → A q → Prop) (answer : (q : Q) → σ → A q × σ)
    (answer' : (q : Q) → τ → A q × τ) : List Q → σ → τ → Prop
  | [], _, _ => True
  | q :: rest, s, s' => alike q (answer q s).1 (answer' q s').1 ∧
    AnswersAlike alike answer answer' rest (answer q s).2 (answer' q s').2

/-- What is ignored makes no difference to the requests and the result. -/
theorem Ignores.lockstep {answer : (q : Q) → σ → A q × σ} {answer' : (q : Q) → τ → A q × τ}
    {d : Dialogue Q A α} (h : d.Ignores alike) {s : σ} {s' : τ}
    (same : ∀ requests, AnswersAlike alike answer answer' requests s s') :
    (run answer d s).1 = (run answer' d s').1 ∧
      (transcript answer d s).map Exchange.request =
        (transcript answer' d s').map Exchange.request := by
  induction d generalizing s s' with
  | done a => exact ⟨rfl, rfl⟩
  | ask q next ih =>
    have here := h.1 _ _ (same [q]).1
    obtain ⟨result, requests⟩ := ih _ (h.2 _) fun rest => (same (q :: rest)).2
    simp only [run, transcript, List.map_cons, ← here]
    exact ⟨result, congrArg (q :: ·) requests⟩

end Dialogue

namespace Access

open Register (Request Answer)

variable {α β : Type} {counting : Nat → UInt32 → UInt32}

/-- Answers of windows that are the same up to what counts of the words read. -/
def Alike (counting : Nat → UInt32 → UInt32) : (q : Request) → Answer q → Answer q → Prop
  | .read index, a, a' => a.map (counting index) = a'.map (counting index)
  | .write _ _, a, a' => a = a'

/-- Of the words read the program sees only what counts. -/
def SeesOnly (counting : Nat → UInt32 → UInt32) (p : Access α) : Prop :=
  Dialogue.Ignores (Alike counting) (ExceptT.run p)

theorem seesOnly_pure (a : α) : SeesOnly counting (pure a) := trivial

theorem seesOnly_throw (e : Error) : SeesOnly counting (throw e : Access α) := trivial

theorem SeesOnly.bind {p : Access α} {f : α → Access β} (hp : p.SeesOnly counting)
    (hf : ∀ a, (f a).SeesOnly counting) : (p >>= f).SeesOnly counting := by
  unfold SeesOnly
  rw [ExceptT.run_bind]
  refine Dialogue.Ignores.bind hp fun x => ?_
  cases x with
  | ok a => exact hf a
  | error e => trivial

theorem seesOnly_ite {c : Prop} [Decidable c] {p q : Access α} (hp : p.SeesOnly counting)
    (hq : q.SeesOnly counting) : (if c then p else q).SeesOnly counting := by
  split
  · exact hp
  · exact hq

theorem seesOnly_write (index : Nat) (value : UInt32) : (write index value).SeesOnly counting :=
  ⟨fun a a' same => by rw [show a = a' from same], fun _ => trivial⟩

/-- A word that is read may differ where what follows does not. -/
theorem seesOnly_read_bind {index : Nat} {f : UInt32 → Access α}
    (same : ∀ v v', counting index v = counting index v' → f v = f v')
    (later : ∀ v, (f v).SeesOnly counting) : (read index >>= f).SeesOnly counting := by
  refine ⟨fun a a' alike => ?_, fun a => ?_⟩
  · cases a with
    | ok v =>
      cases a' with
      | ok v' => exact congrArg ExceptT.run (same v v' (Except.ok.inj alike))
      | error e => cases alike
    | error e =>
      cases a' with
      | ok v' => cases alike
      | error e' =>
        cases alike
        rfl
  · cases a with
    | ok v => exact later v
    | error e => trivial

end Access

end ReadoutCard
