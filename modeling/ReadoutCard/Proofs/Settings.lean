import Mathlib.Data.List.Induction
import Mathlib.Data.List.Nodup
import ReadoutCard.Settings

/-!
# A configuration after any steps

Settings are made one after the other; now and then the whole configuration is
replaced, or a copy of it put aside. A setting then has the value that was last
set for it (`LastSet`), where a replacement sets the card and the channel
number and forgets the rest (`get?_after`). One step does this for the setting
that it decides and leaves the others alone (`Step.get?_of_decides`,
`Step.get?_of_not_decides`). Copies put aside are never touched again
(`saved_after`).
-/

namespace ReadoutCard.Settings

/-- What is done to a configuration. -/
inductive Step where
  /-- One setting is made. -/
  | set (s : Setting) (v : s.Value)
  /-- The configuration gives way to that of just a card and a channel number. -/
  | replace (card : CardId) (channel : Int)
  /-- A copy of the configuration is put aside. -/
  | save

/-- A configuration, and the copies put aside of it, in order. -/
structure Versions where
  current : Settings
  saved : List Settings

/-- Nothing set, and nothing put aside. -/
def Versions.initial : Versions := ⟨Sparse.empty, []⟩

namespace Step

/-- Carries the step out. -/
def apply : Step → Versions → Versions
  | set s v, x => ⟨x.current.set s v, x.saved⟩
  | replace card channel, x => ⟨ofCard card channel, x.saved⟩
  | save, x => ⟨x.current, x.saved ++ [x.current]⟩

/-- The step sets `s` to `v`. -/
inductive Sets : Step → (s : Setting) → s.Value → Prop where
  | set (s : Setting) (v : s.Value) : Sets (.set s v) s v
  | card (card : CardId) (channel : Int) : Sets (.replace card channel) .cardId card
  | channel (card : CardId) (channel : Int) : Sets (.replace card channel) .channelNumber channel

/-- After the step it no longer counts what `s` was before. -/
def Decides (s : Setting) : Step → Prop
  | set s' _ => s' = s
  | replace _ _ => True
  | save => False

/-- Whether the step puts a copy aside. -/
def saves : Step → Bool
  | save => true
  | _ => false

variable {o : Step} {s : Setting} {v : s.Value}

theorem Sets.decides (h : o.Sets s v) : o.Decides s := by
  cases h with
  | set => exact rfl
  | card => exact trivial
  | channel => exact trivial

/-- The configuration of a card and a channel number has these two settings and no other. -/
theorem get?_ofCard {card : CardId} {channel : Int} :
    (ofCard card channel).get? s = some v ↔ (replace card channel).Sets s v := by
  constructor
  · intro h
    cases s <;> cases h
    · exact .card card channel
    · exact .channel card channel
  · intro h
    cases h with
    | card => rfl
    | channel => rfl

/-- A setting that a step decides has the value that the step sets, if any. -/
theorem get?_of_decides (h : o.Decides s) (x : Versions) :
    (o.apply x).current.get? s = some v ↔ o.Sets s v := by
  cases o with
  | set s' v' =>
    obtain rfl : s' = s := h
    rw [apply, Sparse.get?_set_self]
    constructor
    · intro same
      cases same
      exact .set s' v'
    · intro sets
      cases sets
      rfl
  | replace card channel => exact get?_ofCard
  | save => exact h.elim

/-- A step leaves the settings that it does not decide as they are. -/
theorem get?_of_not_decides (h : ¬ o.Decides s) (x : Versions) :
    (o.apply x).current.get? s = x.current.get? s := by
  cases o with
  | set s' v' => exact Sparse.get?_set_of_ne _ _ h
  | replace card channel => exact absurd trivial h
  | save => rfl

/-- Making a setting that has the value already changes nothing. -/
theorem apply_set_of_get?_eq {x : Versions} (h : x.current.get? s = some v) :
    (set s v).apply x = x := by
  obtain ⟨p, saved⟩ := x
  have same : p.set s v = p := by
    ext s' : 2
    by_cases here : s = s'
    · subst here
      rw [Sparse.get?_set_self, h]
    · exact Sparse.get?_set_of_ne _ _ here
  rw [apply, same]

end Step

/-! ### Any number of steps -/

/-- The configuration and its copies after steps, one after the other. -/
def after (x : Versions) (steps : List Step) : Versions := steps.foldl (fun x o => o.apply x) x

/-- The value of `s` that was set last: a step has set it, and none after it decides `s` anew. -/
def LastSet (steps : List Step) (s : Setting) (v : s.Value) : Prop :=
  ∃ earlier o later, steps = earlier ++ o :: later ∧ o.Sets s v ∧ ∀ o' ∈ later, ¬ o'.Decides s

theorem after_append (x : Versions) (earlier later : List Step) :
    after x (earlier ++ later) = after (after x earlier) later :=
  List.foldl_append

theorem after_concat (x : Versions) (steps : List Step) (o : Step) :
    after x (steps ++ [o]) = o.apply (after x steps) :=
  after_append x steps [o]

/-- The last step has set the value; or it leaves it alone, and a step before it has set it. -/
theorem lastSet_concat {steps : List Step} {o : Step} {s : Setting} {v : s.Value} :
    LastSet (steps ++ [o]) s v ↔ o.Sets s v ∨ ¬ o.Decides s ∧ LastSet steps s v := by
  constructor
  · rintro ⟨earlier, o', later, split, sets, quiet⟩
    rcases List.eq_nil_or_concat later with rfl | ⟨middle, last, rfl⟩
    · obtain ⟨-, same⟩ := List.append_inj' split rfl
      obtain rfl := List.singleton_inj.1 same
      exact .inl sets
    · rw [List.concat_eq_append] at split quiet
      rw [← List.cons_append, ← List.append_assoc] at split
      obtain ⟨rfl, same⟩ := List.append_inj' split rfl
      obtain rfl := List.singleton_inj.1 same
      exact .inr ⟨quiet o (by simp),
        earlier, o', middle, rfl, sets, fun p mem => quiet p (List.mem_append_left _ mem)⟩
  · rintro (sets | ⟨leaves, earlier, o', later, rfl, sets, quiet⟩)
    · exact ⟨steps, o, [], rfl, sets, by simp⟩
    · refine ⟨earlier, o', later ++ [o], by simp, sets, ?_⟩
      intro p mem
      rcases List.mem_append.1 mem with mem | mem
      · exact quiet p mem
      · obtain rfl := List.mem_singleton.1 mem
        exact leaves

/-- The induction is on the steps from the end: the last one decides, or the others do. -/
theorem get?_after (steps : List Step) (s : Setting) (v : s.Value) :
    (after .initial steps).current.get? s = some v ↔ LastSet steps s v := by
  induction steps using List.reverseRecOn with
  | nil =>
    constructor
    · intro h
      cases h
    · rintro ⟨earlier, o, later, split, -⟩
      cases earlier <;> cases split
  | append_singleton steps o ih =>
    rw [after_concat, lastSet_concat]
    by_cases decides : o.Decides s
    · rw [Step.get?_of_decides decides]
      simp [decides]
    · rw [Step.get?_of_not_decides decides, ih]
      have sets : ¬ o.Sets s v := fun h => decides h.decides
      simp [decides, sets]

/-- Steps put copies aside behind those that are there, and change none of them. -/
theorem saved_after (x : Versions) (steps : List Step) :
    ∃ more : List Settings, (after x steps).saved = x.saved ++ more ∧
      more.length = steps.countP Step.saves := by
  induction steps generalizing x with
  | nil => exact ⟨[], (List.append_nil _).symm, rfl⟩
  | cons o rest ih =>
    obtain ⟨more, saved, length⟩ := ih (o.apply x)
    cases o with
    | set s v => exact ⟨more, saved, length⟩
    | replace card channel => exact ⟨more, saved, length⟩
    | save =>
      refine ⟨x.current :: more, ?_, ?_⟩
      · rw [List.append_cons]
        exact saved
      · rw [List.length_cons, length, List.countP_cons_of_pos rfl]

/-- Each copy is the configuration as it was when the copy was put aside. -/
theorem getElem?_saved_after (earlier later : List Step) :
    (after .initial (earlier ++ .save :: later)).saved[earlier.countP Step.saves]? =
      some (after .initial earlier).current := by
  obtain ⟨before, saved, length⟩ := saved_after .initial earlier
  obtain ⟨more, final, -⟩ := saved_after (Step.save.apply (after .initial earlier)) later
  have here : (after .initial (earlier ++ .save :: later)).saved =
      before ++ (after .initial earlier).current :: more := by
    rw [after_append]
    refine final.trans ?_
    rw [Step.apply, saved, ← List.append_cons]
    rfl
  rw [here, ← length, List.getElem?_append_right (Nat.le_refl _), Nat.sub_self]
  rfl

/-! ### Settings that are needed -/

variable {p : Settings} {s : Setting}

theorem required_eq_ok_iff {v : s.Value} : p.required s = .ok v ↔ p.get? s = some v := by
  unfold required
  cases p.get? s <;> simp

theorem required_eq_error_iff {e : Error} :
    p.required s = .error e ↔ p.get? s = none ∧ e = .missing s.name := by
  unfold required
  cases p.get? s <;> simp [eq_comm]

/-- Each setting has a name of its own. -/
theorem name_injective {s s' : Setting} (h : s.name = s'.name) : s = s' := by
  revert s s'
  have distinct : (Setting.all.map Setting.name).Nodup := by decide
  intro s s' h
  exact List.inj_on_of_nodup_map distinct (Setting.mem_all s) (Setting.mem_all s') h

/-- **A configuration after any steps.** Each setting has the value that was last set for it, and is
unset if there is none; a replacement sets just the card and the channel number. Where a setting is
needed it is the same value, or the failure under its own name exactly if it is unset. There is one
copy for each time that one was put aside, and it is the configuration as it was then, whatever came
after. Configurations are equal exactly if they agree in every setting. Different settings may be
made in either order, and making a setting again, or as it is already, changes nothing. -/
theorem settings_after (steps : List Step) :
    let now := after .initial steps
    (∀ s v, now.current.get? s = some v ↔ LastSet steps s v) ∧
    (∀ s, now.current.get? s = none ↔ ∀ v, ¬ LastSet steps s v) ∧
    (∀ s v, now.current.required s = .ok v ↔ now.current.get? s = some v) ∧
    (∀ s e, now.current.required s = .error e ↔
      now.current.get? s = none ∧ e = .configuration s.name "required parameter was not set") ∧
    (∀ s s' : Setting, s.name = s'.name → s = s') ∧
    now.saved.length = steps.countP Step.saves ∧
    (∀ earlier later, steps = earlier ++ .save :: later →
      now.saved[earlier.countP Step.saves]? = some (after .initial earlier).current) ∧
    (∀ p q : Settings, ((p == q) = true ↔ ∀ s, (p.get? s == q.get? s) = true) ∧
      (p = q ↔ ∀ s, p.get? s = q.get? s)) ∧
    (∀ x s v s' v', s ≠ s' → (Step.set s' v').apply ((Step.set s v).apply x) =
      (Step.set s v).apply ((Step.set s' v').apply x)) ∧
    (∀ x s v, (Step.set s v).apply ((Step.set s v).apply x) = (Step.set s v).apply x) ∧
    ∀ x s v, x.current.get? s = some v → (Step.set s v).apply x = x := by
  intro now
  refine ⟨get?_after steps, fun s => ?_, fun s v => required_eq_ok_iff,
    fun s e => required_eq_error_iff, fun s s' => name_injective, ?_, ?_, ?_, ?_, ?_,
    fun x s v => Step.apply_set_of_get?_eq⟩
  · rw [Option.eq_none_iff_forall_ne_some]
    exact forall_congr' fun v => not_congr (get?_after steps s v)
  · obtain ⟨more, saved, length⟩ := saved_after .initial steps
    have all : now.saved = more := saved
    rw [all, length]
  · rintro earlier later rfl
    exact getElem?_saved_after earlier later
  · intro p q
    refine ⟨beq_iff, fun same s => by rw [same], fun agree => ?_⟩
    ext s : 2
    exact agree s
  · intro x s v s' v' different
    rw [Step.apply, Step.apply, Step.apply, Step.apply, Sparse.set_comm _ _ _ different]
  · intro x s v
    exact Step.apply_set_of_get?_eq (Sparse.get?_set_self _ _ _)

end ReadoutCard.Settings
