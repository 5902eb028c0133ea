import ReadoutCard.Proofs.FailStop

/-!
# Runs along lists of accesses

Some programs go through a list of accesses that the words read on the way
decide. `Follows` says that a run goes through a list up to the first access that
fails or check that refuses, and `Access.Goes` says it of every run of a program,
for some words; it goes through `>>=` by appending the lists. What a run does is
then read off the list: its writes are the first ones of the list
(`Follows.writes_prefix`), all of them after a success (`Follows.of_ok`), and
everything before an access of the run was carried out (`Follows.exists_step`).
-/

namespace ReadoutCard

namespace Register

/-- A step of a list: a read with the word that it gives, a write, or a check that refuses. -/
inductive Step where
  | read (register : Register) (word : UInt32)
  | write (register : Register) (value : UInt32)
  | refuse (cause : Error)

/-- The access of a step that is carried out. -/
def Step.exchange? : Step → Option (Exchange Request Answer)
  | read register word => some (readOk register word)
  | write register value => some ⟨.write register.index value, .ok ()⟩
  | refuse _ => none

/-- The writes of a list, up to a check that refuses. -/
def Step.writes : List Step → List (Nat × UInt32)
  | [] => []
  | read _ _ :: rest => writes rest
  | write register value :: rest => (register.index, value) :: writes rest
  | refuse _ :: _ => []

/-- The accesses `t` are the steps in order, up to the first that fails. -/
inductive Follows : List Step → Trace → Except Error Unit → Prop where
  | done : Follows [] [] (.ok ())
  | step {first : Step} {rest : List Step} {x : Exchange Request Answer} {t : Trace}
    {r : Except Error Unit} (here : first.exchange? = some x) (later : Follows rest t r) :
    Follows (first :: rest) (x :: t) r
  | readFailed {register : Register} {word : UInt32} {rest : List Step} {e : Error} :
    Follows (.read register word :: rest) [⟨.read register.index, .error e⟩] (.error e)
  | writeFailed {register : Register} {value : UInt32} {rest : List Step} {e : Error} :
    Follows (.write register value :: rest) [⟨.write register.index value, .error e⟩] (.error e)
  | refused {e : Error} {rest : List Step} : Follows (.refuse e :: rest) [] (.error e)

namespace Follows

variable {steps later : List Step} {t t' before after : Trace} {r : Except Error Unit} {e : Error}
  {x : Exchange Request Answer}

theorem append (h : Follows steps t (.ok ())) (h' : Follows later t' r) :
    Follows (steps ++ later) (t ++ t') r := by
  generalize hok : (.ok () : Except Error Unit) = ok at h
  induction h with
  | done => exact h'
  | step here _ ih => exact .step here (ih hok)
  | readFailed => cases hok
  | writeFailed => cases hok
  | refused => cases hok

/-- After a failure the steps that were still to come are not begun. -/
theorem append_failed (h : Follows steps t (.error e)) : Follows (steps ++ later) t (.error e) := by
  generalize herror : (.error e : Except Error Unit) = error at h
  induction h with
  | done => cases herror
  | step here _ ih => exact .step here (ih herror)
  | readFailed => exact .readFailed
  | writeFailed => exact .writeFailed
  | refused => exact .refused

/-! ### What is written -/

/-- A write is attempted also where it fails. -/
theorem writes_prefix (h : Follows steps t r) : writes t <+: Step.writes steps := by
  induction h with
  | done => exact List.prefix_refl []
  | @step first rest x t r here _ ih =>
    cases first with
    | read register word =>
      cases here
      exact ih
    | write register value =>
      cases here
      exact (List.prefix_append_right_inj [(register.index, value)]).2 ih
    | refuse cause => cases here
  | readFailed => exact List.nil_prefix
  | @writeFailed register value =>
    exact (List.prefix_append_right_inj [(register.index, value)]).2 List.nil_prefix
  | refused => exact List.nil_prefix

theorem failure?_of_exchange? {step : Step} (h : step.exchange? = some x) : failure? x = none := by
  cases step <;> cases h <;> rfl

/-- A run that succeeds has carried every step out. -/
theorem of_ok (h : Follows steps t (.ok ())) : steps.map Step.exchange? = t.map some := by
  generalize hok : (.ok () : Except Error Unit) = ok at h
  induction h with
  | done => rfl
  | step here _ ih => rw [List.map_cons, List.map_cons, here, ih hok]
  | readFailed => cases hok
  | writeFailed => cases hok
  | refused => cases hok

theorem only {y : Exchange Request Answer} (split : [y] = before ++ x :: after) :
    before = [] ∧ y = x := by
  cases before with
  | nil => exact ⟨rfl, (List.cons.inj split).1⟩
  | cons z before => simp at split

/-- Before an access of a run stand the steps before it, and all of them were carried out. -/
theorem exists_step (h : Follows steps t r) (split : t = before ++ x :: after) :
    ∃ done step rest, steps = done ++ step :: rest ∧ done.map Step.exchange? = before.map some ∧
      step.exchange?.map Exchange.request = some x.request := by
  induction h generalizing before with
  | done => simp at split
  | @step first rest y t r here _ ih =>
    cases before with
    | nil =>
      cases split
      exact ⟨[], first, rest, rfl, rfl, by rw [here, Option.map_some]⟩
    | cons z before =>
      cases split
      obtain ⟨done, step, rest, rfl, carried, same⟩ := ih rfl
      refine ⟨first :: done, step, rest, rfl, ?_, same⟩
      rw [List.map_cons, List.map_cons, here, carried]
  | @readFailed register word rest =>
    obtain ⟨rfl, rfl⟩ := only split
    exact ⟨[], .read register word, rest, rfl, rfl, rfl⟩
  | @writeFailed register value rest =>
    obtain ⟨rfl, rfl⟩ := only split
    exact ⟨[], .write register value, rest, rfl, rfl, rfl⟩
  | refused => simp at split

/-- An access that fails is the last one, and its failure is the result. -/
theorem stops (h : Follows steps t r) (split : t = before ++ x :: after)
    (failed : failure? x = some e) : after = [] ∧ r = .error e := by
  induction h generalizing before with
  | done => simp at split
  | @step first rest y t r here _ ih =>
    cases before with
    | nil =>
      cases split
      rw [failure?_of_exchange? here] at failed
      cases failed
    | cons z before =>
      cases split
      exact ih rfl
  | readFailed =>
    obtain ⟨rfl, rfl⟩ := only split
    cases failed
    exact ⟨(List.cons.inj split).2.symm, rfl⟩
  | writeFailed =>
    obtain ⟨rfl, rfl⟩ := only split
    cases failed
    exact ⟨(List.cons.inj split).2.symm, rfl⟩
  | refused => simp at split

end Follows

theorem ne_none_of_carried {steps : List Step} {t : Trace}
    (h : steps.map Step.exchange? = t.map some) : ∀ step ∈ steps, step.exchange? ≠ none := by
  intro step mem refused
  have absurd : none ∈ t.map some := h ▸ refused ▸ List.mem_map_of_mem mem
  simp at absurd

/-- Steps that were all carried out made all their writes, and none of them failed. -/
theorem of_carried {steps : List Step} {t : Trace} (h : steps.map Step.exchange? = t.map some) :
    writes t = Step.writes steps ∧ ∀ x ∈ t, failure? x = none := by
  induction steps generalizing t with
  | nil =>
    cases t with
    | nil => exact ⟨rfl, by simp⟩
    | cons => cases h
  | cons first rest ih =>
    cases t with
    | nil => cases h
    | cons x t =>
      obtain ⟨here, later⟩ := List.cons.inj h
      obtain ⟨made, passed⟩ := ih later
      constructor
      · cases first with
        | read register word =>
          cases here
          exact made
        | write register value =>
          cases here
          exact congrArg ((register.index, value) :: ·) made
        | refuse cause => cases here
      · exact List.forall_mem_cons.2 ⟨Follows.failure?_of_exchange? here, passed⟩

end Register

open Register (Step Follows Trace readOk writes failure?)

namespace Access

variable {α β ι κ : Type} {t : Trace}

/-- Every run of the program goes through one of the lists. -/
def Goes (p : Access Unit) (lists : ι → List Step) : Prop :=
  ∀ t r, p.Traces t r → ∃ i, Follows (lists i) t r

theorem goes_pure : Goes (pure ()) fun _ : Unit => [] := by
  rintro t r ⟨rfl, rfl⟩
  exact ⟨(), .done⟩

theorem goes_throw (e : Error) : Goes (throw e) fun _ : Unit => [.refuse e] := by
  rintro t r ⟨rfl, rfl⟩
  exact ⟨(), .refused⟩

theorem goes_write (b : Binding) (register : Register) (value : UInt32) :
    Goes (b.write register.index value) fun _ : Unit => [.write register value] := by
  intro t r h
  rw [Binding.write_eq, traces_write] at h
  subst h
  cases r with
  | ok _ => exact ⟨(), .step rfl .done⟩
  | error e => exact ⟨(), .writeFailed⟩

/-- A read goes on with the word that it gave. -/
theorem goes_read_bind (b : Binding) (register : Register) {f : UInt32 → Access Unit}
    {lists : UInt32 → ι → List Step} [Inhabited ι] (hf : ∀ word, Goes (f word) (lists word)) :
    Goes (b.read register.index >>= f)
      fun i : UInt32 × ι => .read register i.1 :: lists i.1 i.2 := by
  intro t r h
  rw [Binding.read_eq] at h
  obtain ⟨e, failed, rfl⟩ | ⟨t₁, word, t₂, rfl, given, later⟩ := traces_bind.1 h
  · rw [traces_read.1 failed]
    exact ⟨default, .readFailed⟩
  · rw [traces_read.1 given]
    obtain ⟨i, follows⟩ := hf word t₂ r later
    exact ⟨(word, i), .step rfl follows⟩

theorem Goes.bind {p q : Access Unit} {lists : ι → List Step} {later : κ → List Step} [Inhabited κ]
    (hp : p.Goes lists) (hq : q.Goes later) :
    (p >>= fun _ => q).Goes fun i : ι × κ => lists i.1 ++ later i.2 := by
  intro t r h
  obtain ⟨e, failed, rfl⟩ | ⟨t₁, ⟨⟩, t₂, rfl, passed, h⟩ := traces_bind.1 h
  · obtain ⟨i, follows⟩ := hp t _ failed
    exact ⟨(i, default), follows.append_failed⟩
  · obtain ⟨i, first⟩ := hp t₁ _ passed
    obtain ⟨k, second⟩ := hq t₂ r h
    exact ⟨(i, k), first.append second⟩

theorem Goes.mono {p : Access Unit} {lists : ι → List Step} {lists' : κ → List Step}
    (h : p.Goes lists) (same : ∀ i, ∃ k, lists i = lists' k) : p.Goes lists' := by
  intro t r traces
  obtain ⟨i, follows⟩ := h t r traces
  obtain ⟨k, eq⟩ := same i
  exact ⟨k, eq ▸ follows⟩

end Access

end ReadoutCard
