import ReadoutCard.Proofs.Commits
import ReadoutCard.Window.Memory

/-!
# Programs over a window in memory

A program that commits changes at most the word that it writes, and none if it
fails (`run_of_commits`). Words that a program does not touch have no influence
on it: over words that agree everywhere else it gives the same result and leaves
words that agree there again (`AgreeOff.run`).
-/

namespace ReadoutCard.Memory

open Register (Request)

variable {α : Type} {bar index : Nat} {words words' : Array UInt32}

theorem write_of_lt (bar : Nat) (inside : index < words.size) (value : UInt32) :
    (window bar).write index value words = (.ok (), words.setIfInBounds index value) := by
  rw [Array.setIfInBounds, dif_pos inside]
  exact dif_pos inside

theorem write_of_ge (bar : Nat) (beyond : ¬ index < words.size) (value : UInt32) :
    (window bar).write index value words = (.error (outOfRange bar words.size index), words) :=
  dif_neg beyond

/-- Reading leaves the words, and so does a write that fails. -/
theorem run_of_commits {reads : Nat → Prop} {writes : Nat → UInt32 → Prop} {p : Access α}
    (hp : p.Commits reads writes) (bar : Nat) (words : Array UInt32) :
    ((window bar).run p words).2 = words ∨ ∃ a index value, writes index value ∧
      (window bar).run p words = (.ok a, words.setIfInBounds index value) := by
  unfold Access.Commits at hp
  unfold Window.run
  generalize ExceptT.run p = d at hp ⊢
  induction d with
  | done r => exact .inl rfl
  | ask q next ih =>
    cases q with
    | read index => exact ih _ (hp.2 _)
    | write index value =>
      obtain ⟨may, fails, a, succeeds⟩ := hp
      rw [Dialogue.run, Window.answer]
      by_cases inside : index < words.size
      · rw [write_of_lt bar inside]
        refine .inr ⟨a, index, value, may, ?_⟩
        show Dialogue.run _ (next (.ok ())) _ = _
        rw [succeeds]
        rfl
      · rw [write_of_ge bar inside]
        refine .inl ?_
        show (Dialogue.run _ (next (.error _)) words).2 = words
        rw [fails]
        rfl

/-- The words are the same in number, and equal except at some places. -/
structure AgreeOff (places : Nat → Prop) (words words' : Array UInt32) : Prop where
  size : words.size = words'.size
  same : ∀ i, ¬ places i → words[i]? = words'[i]?

/-- An access to none of the places. -/
def Away (places : Nat → Prop) : Request → Prop
  | .read index => ¬ places index
  | .write index _ => ¬ places index

/-- A program that accesses none of the places does not tell the words apart. -/
theorem AgreeOff.run {places : Nat → Prop} {p : Access α} (agree : AgreeOff places words words')
    (away : p.Asks (Away places)) (bar : Nat) :
    ((window bar).run p words).1 = ((window bar).run p words').1 ∧
      AgreeOff places ((window bar).run p words).2 ((window bar).run p words').2 := by
  refine Dialogue.Asks.run_related ?_ away agree
  intro q other words words' agree
  cases q with
  | read index =>
    refine ⟨?_, agree⟩
    show read bar words index = read bar words' index
    rw [read, read, agree.same index other, agree.size]
  | write index value =>
    rw [Window.answer, Window.answer]
    by_cases inside : index < words.size
    · rw [write_of_lt bar inside, write_of_lt bar (agree.size ▸ inside)]
      refine ⟨rfl, by simp [agree.size], fun i unlike => ?_⟩
      rw [Array.getElem?_setIfInBounds, Array.getElem?_setIfInBounds, agree.size,
        agree.same i unlike]
    · rw [write_of_ge bar inside, write_of_ge bar (agree.size ▸ inside), agree.size]
      exact ⟨rfl, agree⟩

end ReadoutCard.Memory
