import ReadoutCard.Proofs.Operation
import ReadoutCard.Proofs.Window.Memory

/-!
# What the operations of a CRU write

Every operation reads, and the mutators end in at most one write, to a register
of their own; no operation reads a register that another one sets (`commits`).
So in memory an operation that fails changes nothing, one that succeeds changes
at most its register (`step_frame`), and operations with different registers can
change places (`step_commute`), one after the other and inside any run
(`after_swap`).
-/

namespace ReadoutCard.Cru

open Register (Request Trace)

/-- The registers that can be set. -/
def settable : List Register :=
  [dataGeneratorControl, resetControl, dataGeneratorInjectError, dataSourceSelect, linkEnable]

theorem settable_index_injective :
    ∀ r ∈ settable, ∀ r' ∈ settable, r.index = r'.index → r = r' := by
  decide

namespace Operation

/-- The register that an operation sets. -/
def register? : Operation → Option Register
  | setPattern _ _ _ => some dataGeneratorControl
  | setEnabled _ => some dataGeneratorControl
  | resetCounter => some resetControl
  | resetCard => some resetControl
  | injectError => some dataGeneratorInjectError
  | setSource _ => some dataSourceSelect
  | setLinks _ => some linkEnable
  | serial | temperature | firmwareInfo | chipId | features => none
  | packetsDropped | ctpFrequency | localFrequency | wrapperLinks _ | links => none

/-- What an operation may write to its register. -/
def MayWrite : Operation → UInt32 → Prop
  | setPattern pattern size randomSize, value =>
    ∃ word, configured word pattern size randomSize = .ok value
  | setEnabled on, value => ∃ word, value = Generator.setEnabled word on
  | resetCounter, value => value = 2
  | resetCard, value => value = 1
  | injectError, value => value = 1
  | setSource source, value => value = source.code
  | setLinks mask, value => mask.enableWord = .ok value
  | _, _ => False

/-- The index is that of the register that the operation sets. -/
def Owns (o : Operation) (index : Nat) : Prop := ∃ r, o.register? = some r ∧ r.index = index

/-- The operation may read there: what can be set is read only where it is set. -/
def Reads (o : Operation) (index : Nat) : Prop := index ∈ settable.map Register.index → o.Owns index

/-- The operation may write so. -/
def Writes (o : Operation) (index : Nat) (value : UInt32) : Prop := o.Owns index ∧ o.MayWrite value

/-- No register is set by both operations. -/
def Apart (o o' : Operation) : Prop := ∀ r, o.register? = some r → o'.register? ≠ some r

theorem register?_mem {o : Operation} {r : Register} (h : o.register? = some r) : r ∈ settable := by
  cases o <;> cases h <;> decide

theorem Apart.symm {o o' : Operation} (h : Apart o o') : Apart o' o :=
  fun r set set' => h r set' set

/-- Different registers have different indices. -/
theorem Apart.not_owns {o o' : Operation} (h : Apart o o') {index : Nat} (owned : o.Owns index) :
    ¬ o'.Owns index := by
  obtain ⟨r, set, rfl⟩ := owned
  rintro ⟨r', set', same⟩
  have := settable_index_injective r' (register?_mem set') r (register?_mem set) same
  exact h r set (this ▸ set')

/-- A register that nothing sets. -/
theorem reads_of_notMem (o : Operation) {r : Register} (h : r.index ∉ settable.map Register.index) :
    o.Reads r.index :=
  fun set => absurd set h

/-- The operation's own register. -/
theorem reads_of_register? {o : Operation} {r : Register} (h : o.register? = some r) :
    o.Reads r.index :=
  fun _ => ⟨r, h, rfl⟩

/-! ### The accesses of each operation -/

section Accesses

variable {reads : Nat → Prop} {writes : Nat → UInt32 → Prop} (b : Binding)

theorem asks_bindingRead {index : Nat} (h : reads index) :
    (b.read index).Asks (Request.ReadOf reads) := by
  rw [Binding.read_eq]
  exact Access.asks_read (.read h)

theorem commits_bindingWrite {index : Nat} {value : UInt32} (h : writes index value) :
    (b.write index value).Commits reads writes := by
  rw [Binding.write_eq]
  exact Access.commits_write h

theorem asks_features (h : reads firmwareFeatures.index) :
    (Cru.features b).Asks (Request.ReadOf reads) :=
  (asks_bindingRead b h).bind fun _ => Access.asks_pure _

theorem asks_gated {α : Type} (h : reads firmwareFeatures.index) (what : String)
    (present : Features → Bool) {value : Access (Option α)}
    (hv : value.Asks (Request.ReadOf reads)) :
    (gated b what present value).Asks (Request.ReadOf reads) := by
  rw [gated, Binding.requireBar]
  refine (Access.asks_ite (Access.asks_pure _) (Access.asks_throw _)).bind fun _ => ?_
  exact (asks_features b h).bind fun _ => Access.asks_ite hv (Access.asks_pure _)

theorem asks_wrapperLinks (h : ∀ wrapper base, wrapperBase? wrapper = some base →
    reads (base.offset wrapperConfiguration).index) (wrapper : Nat) :
    (Cru.wrapperLinks b wrapper).Asks (Request.ReadOf reads) := by
  rw [Cru.wrapperLinks]
  split
  · exact Access.asks_throw _
  · next base found =>
    exact (asks_bindingRead b (h wrapper base found)).bind fun _ => Access.asks_pure _

end Accesses

/-- The configuration words of the wrappers are not set. -/
theorem reads_wrapper (o : Operation) {wrapper : Nat} {base : Register}
    (h : wrapperBase? wrapper = some base) : o.Reads (base.offset wrapperConfiguration).index := by
  match wrapper with
  | 0 =>
    cases h
    exact o.reads_of_notMem (by decide)
  | 1 =>
    cases h
    exact o.reads_of_notMem (by decide)
  | _ + 2 => cases h

/-- Every operation commits, within its registers. -/
theorem commits (b : Binding) (o : Operation) : (o.program b).Commits o.Reads o.Writes := by
  -- A register is read only if nothing sets it, or before this operation sets it.
  have read {r : Register} (h : r.index ∉ settable.map Register.index) :
      (b.read r.index).Asks (Request.ReadOf o.Reads) := asks_bindingRead b (o.reads_of_notMem h)
  have readOwn {r : Register} (h : o.register? = some r) :
      (b.read r.index).Asks (Request.ReadOf o.Reads) := asks_bindingRead b (reads_of_register? h)
  have write {r : Register} {value : UInt32} (h : o.register? = some r) (hv : o.MayWrite value) :
      (b.write r.index value).Commits o.Reads o.Writes := commits_bindingWrite b ⟨⟨r, h, rfl⟩, hv⟩
  have provided : o.Reads firmwareFeatures.index := o.reads_of_notMem (by decide)
  have wrapped := asks_wrapperLinks b fun _ _ => o.reads_wrapper
  cases o with
  | serial =>
    have value := (read (r := serialNumber) (by decide)).bind fun word =>
      Access.asks_pure (serialOfWord word)
    exact (asks_gated b provided _ _ value).commits
  | temperature =>
    have value := (read (r := temperatureSensor) (by decide)).bind fun raw =>
      Access.asks_pure (Temperature.ofSensor raw)
    exact (asks_gated b provided _ _ value).commits
  | firmwareInfo =>
    refine (asks_gated b provided _ _ ?_).commits
    refine (read (by decide)).bind fun _ => (read (by decide)).bind fun _ => ?_
    exact (read (by decide)).bind fun _ => Access.asks_pure _
  | chipId =>
    refine (asks_gated b provided _ _ ?_).commits
    exact (read (by decide)).bind fun _ => (read (by decide)).bind fun _ => Access.asks_pure _
  | features => exact (asks_features b provided).commits
  | packetsDropped => exact (read (by decide)).commits
  | ctpFrequency => exact (read (by decide)).commits
  | localFrequency => exact (read (by decide)).commits
  | wrapperLinks wrapper => exact (wrapped wrapper).commits
  | links =>
    refine Access.Asks.commits ?_
    exact (wrapped 0).bind fun _ => (wrapped 1).bind fun _ => Access.asks_pure _
  | setPattern pattern size randomSize =>
    refine (readOwn rfl).bind_commits fun word => Access.commits_ofExcept_bind fun value set => ?_
    exact write rfl ⟨word, set⟩
  | setEnabled on =>
    have change : (b.modify dataGeneratorControl.index fun word =>
        Generator.setEnabled word on).Commits (Reads (setEnabled on)) (Writes (setEnabled on)) :=
      (readOwn rfl).bind_commits fun word =>
        (write rfl ⟨word, rfl⟩).bind_pure fun _ => Generator.setEnabled word on
    exact change.bind_pure fun _ => ()
  | resetCounter => exact write rfl rfl
  | injectError => exact write rfl rfl
  | setSource source =>
    refine (asks_features b provided).bind_commits fun _ => ?_
    exact Access.commits_ite (write rfl rfl) (Access.commits_throw _)
  | setLinks mask => exact Access.commits_ofExcept_bind fun word enabled => write rfl enabled
  | resetCard => exact write rfl rfl

/-! ### Operations in memory -/

section InMemory

variable (b : Binding) (bar : Nat)

/-- An operation on words in memory: how it ends, and the words that are left. -/
def step (o : Operation) (words : Array UInt32) : Except Error o.Value × Array UInt32 :=
  (Memory.window bar).run (o.program b) words

variable {o o' : Operation}

/-- An operation leaves all words but that of its register, and all of them if it fails. -/
theorem step_frame (o : Operation) (words : Array UInt32) :
    (∀ e, (o.step b bar words).1 = .error e → (o.step b bar words).2 = words) ∧
      Memory.AgreeOff o.Owns words (o.step b bar words).2 := by
  rcases Memory.run_of_commits (o.commits b) bar words with
    same | ⟨a, index, value, ⟨owned, -⟩, changed⟩
  · refine ⟨fun _ _ => same, ?_⟩
    rw [step, same]
    exact ⟨rfl, fun _ _ => rfl⟩
  · rw [step, changed]
    refine ⟨fun _ failed => (by cases failed), by simp, fun i other => ?_⟩
    rw [Array.getElem?_setIfInBounds, if_neg]
    rintro rfl
    exact other owned

/-- An operation accesses no register that another one sets. -/
theorem asks_away (h : Apart o o') : (o.program b).Asks (Memory.Away o'.Owns) := by
  refine (o.commits b).asks (fun index may owned => ?_) fun index value may => h.not_owns may.1
  obtain ⟨r', set', rfl⟩ := owned
  exact h.not_owns (may (List.mem_map_of_mem (register?_mem set'))) ⟨r', set', rfl⟩

/-- After one that sets another register, an operation ends as it would before it, and leaves the
same words but for that register. -/
theorem step_after (h : Apart o o') (words : Array UInt32) :
    (o.step b bar (o'.step b bar words).2).1 = (o.step b bar words).1 ∧
      Memory.AgreeOff o'.Owns (o.step b bar words).2 (o.step b bar (o'.step b bar words).2).2 := by
  have other := (o'.step_frame b bar words).2
  obtain ⟨same, agree⟩ := other.run (asks_away b h) bar
  exact ⟨same.symm, agree⟩

/-- Where neither operation owns a word it is as it was; where one does, the other leaves it. -/
theorem step_commute (h : Apart o o') (words : Array UInt32) :
    (o'.step b bar (o.step b bar words).2).2 = (o.step b bar (o'.step b bar words).2).2 := by
  have afterFirst := (o'.step_frame b bar (o.step b bar words).2).2
  have afterSecond := (o.step_frame b bar (o'.step b bar words).2).2
  have first := (step_after b bar h words).2
  have second := (step_after b bar h.symm words).2
  apply Array.ext_getElem?
  intro i
  by_cases owned : o.Owns i
  · have free : ¬ o'.Owns i := h.not_owns owned
    calc (o'.step b bar (o.step b bar words).2).2[i]?
        = (o.step b bar words).2[i]? := (afterFirst.same i free).symm
      _ = (o.step b bar (o'.step b bar words).2).2[i]? := first.same i free
  · calc (o'.step b bar (o.step b bar words).2).2[i]?
        = (o'.step b bar words).2[i]? := (second.same i owned).symm
      _ = (o.step b bar (o'.step b bar words).2).2[i]? := afterSecond.same i owned

/-- The words after operations, one after the other, whether or not they fail. -/
def after (words : Array UInt32) (operations : List Operation) : Array UInt32 :=
  operations.foldl (fun words o => (o.step b bar words).2) words

theorem after_append (words : Array UInt32) (earlier later : List Operation) :
    after b bar words (earlier ++ later) = after b bar (after b bar words earlier) later :=
  List.foldl_append

/-- What no operation owns stays. -/
theorem after_frame (words : Array UInt32) (operations : List Operation) :
    Memory.AgreeOff (fun i => ∃ o ∈ operations, o.Owns i) words (after b bar words operations) := by
  induction operations generalizing words with
  | nil => exact ⟨rfl, fun _ _ => rfl⟩
  | cons o rest ih =>
    have one := (o.step_frame b bar words).2
    have others := ih (o.step b bar words).2
    refine ⟨one.size.trans others.size, fun i free => ?_⟩
    have here : ¬ o.Owns i := fun owned => free ⟨o, List.mem_cons_self, owned⟩
    have later : ¬ ∃ o ∈ rest, o.Owns i := by
      rintro ⟨o', mem, owned⟩
      exact free ⟨o', List.mem_cons_of_mem _ mem, owned⟩
    exact (one.same i here).trans (others.same i later)

theorem after_swap (h : Apart o o') (words : Array UInt32) (earlier later : List Operation) :
    after b bar words (earlier ++ o :: o' :: later) =
      after b bar words (earlier ++ o' :: o :: later) := by
  rw [after_append, after_append]
  show after b bar (o'.step b bar (o.step b bar _).2).2 later = _
  rw [step_commute b bar h]
  rfl

end InMemory

/-- **What CRU operations write.** Over any window an operation without a register of its own only
reads, and any other makes reads only, or reads and then one write as its last access, to its own
register and of a value of its own. In memory, at any point of any run, an operation that fails
leaves all words, one that succeeds changes at most the word of its register, and operations with
different registers give the same results and leave the same words in either order. -/
theorem operation_writes (b : Binding) :
    (∀ (σ : Type) (w : Window σ) (o : Operation) (s : σ),
      (o.register? = none → ∀ x ∈ w.transcript (o.program b) s, Request.IsRead x.request) ∧
      ∃ reads : Trace, (∀ x ∈ reads, Request.IsRead x.request) ∧
        (w.transcript (o.program b) s = reads ∨ ∃ register value answer,
          o.register? = some register ∧ o.MayWrite value ∧
          w.transcript (o.program b) s = reads ++ [⟨.write register.index value, answer⟩])) ∧
    ∀ (bar : Nat) (words : Array UInt32),
      (∀ (earlier : List Operation) (o : Operation),
        (∀ e, (o.step b bar (after b bar words earlier)).1 = .error e →
          after b bar words (earlier ++ [o]) = after b bar words earlier) ∧
        (after b bar words (earlier ++ [o])).size = (after b bar words earlier).size ∧
        (∀ i, (∀ register, o.register? = some register → i ≠ register.index) →
          (after b bar words (earlier ++ [o]))[i]? = (after b bar words earlier)[i]?) ∧
        ∀ o', Apart o o' →
          (o.step b bar (after b bar words (earlier ++ [o']))).1 =
            (o.step b bar (after b bar words earlier)).1 ∧
          (o'.step b bar (after b bar words (earlier ++ [o]))).1 =
            (o'.step b bar (after b bar words earlier)).1 ∧
          ∀ later, after b bar words (earlier ++ o :: o' :: later) =
            after b bar words (earlier ++ o' :: o :: later)) ∧
      ∀ operations i,
        (∀ o ∈ operations, ∀ register, o.register? = some register → i ≠ register.index) →
        (after b bar words operations)[i]? = words[i]? := by
  refine ⟨fun σ w o s => ?_, fun bar words => ⟨fun earlier o => ?_, fun operations i other => ?_⟩⟩
  · obtain ⟨front, allowed, shape⟩ :=
      (o.commits b).of_traces (w.traces_transcript (o.program b) s)
    have onlyReads : ∀ x ∈ front, Request.IsRead x.request := fun x hx => (allowed x hx).isRead
    refine ⟨fun accessor => ?_, front, onlyReads, ?_⟩
    · obtain only | ⟨_, _, ⟨⟨register, set, -⟩, -⟩, -⟩ := shape
      · rw [only]
        exact onlyReads
      · rw [accessor] at set
        cases set
    · obtain only | ⟨_, value, ⟨⟨register, set, rfl⟩, may⟩, ⟨_, last, -⟩ | ⟨_, last, -⟩⟩ := shape
      · exact .inl only
      · exact .inr ⟨register, value, _, set, may, last⟩
      · exact .inr ⟨register, value, _, set, may, last⟩
  · have whole (o : Operation) : after b bar words (earlier ++ [o]) =
        (o.step b bar (after b bar words earlier)).2 := after_append b bar words earlier [o]
    obtain ⟨fails, frame⟩ := o.step_frame b bar (after b bar words earlier)
    refine ⟨fun e failed => ?_, ?_, fun i other => ?_, fun o' h => ⟨?_, ?_, fun later => ?_⟩⟩
    · rw [whole]
      exact fails e failed
    · rw [whole]
      exact frame.size.symm
    · rw [whole]
      refine (frame.same i ?_).symm
      rintro ⟨register, set, same⟩
      exact other register set same.symm
    · rw [whole]
      exact (step_after b bar h _).1
    · rw [whole]
      exact (step_after b bar h.symm _).1
    · exact after_swap b bar h words earlier later
  · refine ((after_frame b bar words operations).same i ?_).symm
    rintro ⟨o, mem, register, set, same⟩
    exact other o mem register set same.symm

end Operation

end ReadoutCard.Cru
