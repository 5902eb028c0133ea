import ReadoutCard.Proofs.CommandLine.Runs
import ReadoutCard.Proofs.Courses
import ReadoutCard.Proofs.Cru.Generator

/-!
# Starting and stopping the data generator

Starting is configuring, resetting, selecting the source where there is a choice,
and enabling, in this order; each part has its list of accesses, with the words
that are read as parameters, and the lists are those of the program
(`goes_start`, `goes_stop`). The writes are then those of the list
(`writes_starting`), and the control register is written only where it was read
just before: with the enable bit as it was, and once more after everything else
(`control_write`).
-/

namespace ReadoutCard

open Register (Step Follows Trace readOk writes failure?)

namespace Cru

open Access (Goes)
open CommandLine (Console)

variable (b : Binding) (pattern : Pattern) (size : Nat) (randomSize inject : Bool)

/-! ### The steps of the generator -/

/-- Setting pattern and sizes in the control word that is read, if they can be produced. -/
def setting (word : UInt32) : Step :=
  match configured word pattern size randomSize with
  | .ok changed => .write dataGeneratorControl changed
  | .error e => .refuse e

/-- Configuring the generator, with the control word that is read. -/
def configuring (word : UInt32) : List Step :=
  [.read dataGeneratorControl word, setting pattern size randomSize word]

/-- Selecting the generator as the source, if the features that are read allow it. -/
def confirming (features : UInt32) : Step :=
  if (Features.ofWord features).dataSelection then .write dataSourceSelect 1
  else .refuse (.configuration "DataSource"
    "data source selection not available in this firmware")

/-- Selecting the generator as the source where there is a choice. The features are read to see
this, and once more before the source is selected. -/
def selecting (features again : UInt32) : List Step :=
  .read firmwareFeatures features ::
    if (Features.ofWord features).dataSelection then
      [.read firmwareFeatures again, confirming again]
    else []

/-- Switching the generator on or off, with the control word that is read. -/
def switching (on : Bool) (word : UInt32) : List Step :=
  [.read dataGeneratorControl word, .write dataGeneratorControl (Generator.setEnabled word on)]

/-- Putting an error into the data, if wanted. -/
def injecting : List Step := if inject then [.write dataGeneratorInjectError 1] else []

/-- Everything that comes before the generator is enabled. -/
def preparing (word features again : UInt32) : List Step :=
  configuring pattern size randomSize word ++ .write resetControl 2 :: selecting features again

theorem goes_setPattern :
    Goes (setPattern b pattern size randomSize) (configuring pattern size randomSize) := by
  have made : ∀ word, Goes
      (do b.write dataGeneratorControl.index
            (← Access.ofExcept (configured word pattern size randomSize)))
      fun _ : Unit => [setting pattern size randomSize word] := by
    intro word
    unfold setting
    cases configured word pattern size randomSize with
    | ok changed => exact Access.goes_write b dataGeneratorControl changed
    | error e => exact Access.goes_throw e
  have all := Access.goes_read_bind b dataGeneratorControl made
  exact all.mono fun i => ⟨i.1, rfl⟩

/-- The source is selected if there is a choice. -/
def selectSource : Access Unit := do
  if (← features b).dataSelection then setSource b .internal

theorem goes_setSource :
    Goes (setSource b .internal) fun again => [.read firmwareFeatures again, confirming again] := by
  have confirmed : ∀ again, Goes
      (if (Features.ofWord again).dataSelection then b.write dataSourceSelect.index 1
        else throw (.configuration "DataSource"
          "data source selection not available in this firmware"))
      fun _ : Unit => [confirming again] := by
    intro again
    unfold confirming
    split
    · exact Access.goes_write b dataSourceSelect 1
    · exact Access.goes_throw _
  have all := Access.goes_read_bind b firmwareFeatures confirmed
  have unfolded : setSource b .internal = b.read firmwareFeatures.index >>= fun again =>
      if (Features.ofWord again).dataSelection then b.write dataSourceSelect.index 1
      else throw (.configuration "DataSource"
        "data source selection not available in this firmware") := by
    simp only [setSource, features, bind_assoc, pure_bind]
    rfl
  rw [unfolded]
  exact all.mono fun i => ⟨i.1, rfl⟩

theorem goes_selectSource :
    Goes (selectSource b) fun i : UInt32 × UInt32 => selecting i.1 i.2 := by
  have chosen : ∀ word, Goes
      (if (Features.ofWord word).dataSelection then setSource b .internal else pure ())
      fun again => if (Features.ofWord word).dataSelection then
        [.read firmwareFeatures again, confirming again] else [] := by
    intro word
    cases (Features.ofWord word).dataSelection with
    | true => exact goes_setSource b
    | false => exact Access.goes_pure.mono fun _ => ⟨0, rfl⟩
  have all := Access.goes_read_bind b firmwareFeatures chosen
  have unfolded : selectSource b = b.read firmwareFeatures.index >>= fun word =>
      if (Features.ofWord word).dataSelection then setSource b .internal else pure () := by
    simp only [selectSource, features, bind_assoc, pure_bind]
  rw [unfolded]
  exact all.mono fun i => ⟨i, rfl⟩

theorem goes_setEnabled (on : Bool) : Goes (setEnabled b on) (switching on) := by
  have unfolded : setEnabled b on = b.read dataGeneratorControl.index >>= fun word =>
      b.write dataGeneratorControl.index (Generator.setEnabled word on) := by
    simp only [setEnabled, Binding.modify, bind_assoc, pure_bind, bind_pure_unit]
  have all := Access.goes_read_bind b dataGeneratorControl fun word =>
    Access.goes_write b dataGeneratorControl (Generator.setEnabled word on)
  rw [unfolded]
  exact all.mono fun i => ⟨i.1, rfl⟩

theorem goes_injectError :
    Goes (if inject then injectError b else pure ()) fun _ : Unit => injecting inject := by
  cases inject with
  | true => exact Access.goes_write b dataGeneratorInjectError 1
  | false => exact Access.goes_pure

/-- The words that are read on the way to a running generator. -/
structure Words where
  word : UInt32
  features : UInt32
  again : UInt32
  control : UInt32
  deriving Inhabited

/-- The steps that start the generator. -/
def starting (w : Words) : List Step :=
  preparing pattern size randomSize w.word w.features w.again ++
    (switching true w.control ++ injecting inject)

/-- The steps that stop the generator. -/
def stopping (control : UInt32) : List Step := switching false control ++ injecting inject

theorem goes_start : Goes (CommandLine.driveGenerator b pattern size randomSize false inject)
    (starting pattern size randomSize inject) := by
  have unfolded : CommandLine.driveGenerator b pattern size randomSize false inject =
      setPattern b pattern size randomSize >>= fun _ => resetCounter b >>= fun _ =>
        selectSource b >>= fun _ => setEnabled b true >>= fun _ =>
          if inject then injectError b else pure () := by
    simp only [CommandLine.driveGenerator, selectSource, bind_assoc, Bool.not_false, if_true]
    congr 1
    funext _
    congr 1
    funext _
    congr 1
    funext f
    cases f.dataSelection with
    | true => rfl
    | false => rfl
  rw [unfolded]
  have all := (goes_setPattern b pattern size randomSize).bind
    ((Access.goes_write b resetControl 2).bind
      ((goes_selectSource b).bind ((goes_setEnabled b true).bind (goes_injectError b inject))))
  exact all.mono fun i => ⟨⟨i.1, i.2.2.1.1, i.2.2.1.2, i.2.2.2.1⟩, by simp [starting, preparing]⟩

theorem goes_stop : Goes (CommandLine.driveGenerator b pattern size randomSize true inject)
    (stopping inject) := by
  have all := (goes_setEnabled b false).bind (goes_injectError b inject)
  exact all.mono fun i => ⟨i.1, rfl⟩

/-! ### What the words written are -/

section Control

open Generator (Change Field Setting made setEnabled)

variable {pattern : Pattern} {size : Nat} {randomSize : Bool} {word : UInt32}

/-- Switching the generator on or off sets bit 0 and leaves the other bits alone. -/
theorem testBit_setEnabled (word : UInt32) (on : Bool) {i : Nat} (hi : i < 32) :
    (Generator.setEnabled word on).toNat.testBit i =
      if i = 0 then on else word.toNat.testBit i := by
  rw [Generator.setEnabled, Bits.setBit, Bits.testBit_setField word (by decide) 1 _ hi]
  by_cases low : i = 0
  · subst low
    cases on <;> rfl
  · rw [if_neg low, if_neg (by omega)]

/-- A control word with pattern, page size and random size set, and all other bits as they were. -/
structure Reconfigured (pattern : Pattern) (size : Nat) (randomSize : Bool)
    (word changed : UInt32) : Prop where
  pattern_set : Field.pattern.read changed = (Setting.pattern pattern).code
  size_set : Field.size.read changed = (Setting.size size).code
  randomSize_set : Field.randomSize.read changed = (Setting.randomSize randomSize).code
  others : ∀ i < 32, i = 0 ∨ 3 ≤ i ∧ i < 8 ∨ 17 ≤ i →
    changed.toNat.testBit i = word.toNat.testBit i

theorem made_eq (hp : (Setting.pattern pattern).Accepted) (hs : (Setting.size size).Accepted) :
    made word [.pattern pattern, .size size, .randomSize randomSize] =
      Bits.setField (Bits.setField (Bits.setField word 1 2 (Setting.pattern pattern).code)
        8 8 (Setting.size size).code) 16 1 (Setting.randomSize randomSize).code := by
  have first : (Setting.pattern pattern).make word = (.ok (), _) := Setting.make_of_accepted hp
  rw [made, List.foldl_cons, first, List.foldl_cons, Setting.make_of_accepted hs]
  rfl

/-- Accepted settings are made one after the other. -/
theorem configured_eq_ok (hp : (Setting.pattern pattern).Accepted)
    (hs : (Setting.size size).Accepted) :
    configured word pattern size randomSize =
      .ok (made word [.pattern pattern, .size size, .randomSize randomSize]) := by
  have first : (Generator.setPattern pattern).apply word = (.ok (), _) := Setting.make_of_accepted hp
  have second (word : UInt32) : (Generator.setSize size).apply word = (.ok (), _) :=
    Setting.make_of_accepted hs
  rw [made_eq hp hs, configured, Generator.configure, Change.apply_bind_of_ok first,
    Change.apply_bind_of_ok (second _)]
  rfl

theorem reconfigured_made (hp : (Setting.pattern pattern).Accepted)
    (hs : (Setting.size size).Accepted) : Reconfigured pattern size randomSize word
      (made word [.pattern pattern, .size size, .randomSize randomSize]) where
  pattern_set := by
    rw [Generator.read_made]
    simp [Generator.latest?, Setting.field, hp]
  size_set := by
    rw [Generator.read_made]
    simp [Generator.latest?, Setting.field, hs]
  randomSize_set := by
    rw [Generator.read_made]
    simp [Generator.latest?, Setting.field, Setting.Accepted]
  others := by
    intro i hi outside
    rw [made_eq hp hs, Bits.testBit_setField _ (by decide) _ _ hi, if_neg (by omega),
      Bits.testBit_setField _ (by decide) _ _ hi, if_neg (by omega),
      Bits.testBit_setField _ (by decide) _ _ hi, if_neg (by omega)]

theorem configured_eq_error (word : UInt32) (randomSize : Bool)
    (h : ¬ ((Setting.pattern pattern).Accepted ∧ (Setting.size size).Accepted)) :
    ∃ e, configured word pattern size randomSize = .error e := by
  by_cases hp : (Setting.pattern pattern).Accepted
  · obtain ⟨between, first⟩ :
        ∃ between, (Generator.setPattern pattern).apply word = (.ok (), between) :=
      ⟨_, Setting.make_of_accepted hp⟩
    obtain ⟨key, reason, -, refused⟩ :=
      Setting.make_of_not_accepted between fun hs => h ⟨hp, hs⟩
    have second : (Generator.setSize size).apply between = (.error _, between) := refused
    refine ⟨.configuration key reason, ?_⟩
    rw [configured, Generator.configure, Change.apply_bind_of_ok first,
      Change.apply_bind_of_error second]
    rfl
  · obtain ⟨key, reason, -, refused⟩ := Setting.make_of_not_accepted word hp
    have first : (Generator.setPattern pattern).apply word = (.error _, word) := refused
    refine ⟨.configuration key reason, ?_⟩
    rw [configured, Generator.configure, Change.apply_bind_of_error first]
    rfl

theorem reconfigured_of_configured {changed : UInt32}
    (h : configured word pattern size randomSize = .ok changed) :
    Reconfigured pattern size randomSize word changed := by
  by_cases accepted : (Setting.pattern pattern).Accepted ∧ (Setting.size size).Accepted
  · rw [configured_eq_ok accepted.1 accepted.2] at h
    cases h
    exact reconfigured_made accepted.1 accepted.2
  · obtain ⟨e, refused⟩ := configured_eq_error word randomSize accepted
    cases refused.symm.trans h

end Control

/-! ### What is written in which order -/

/-- The writes that come before the generator is enabled. -/
def configuration (changed : UInt32) (selects : Bool) : List (Nat × UInt32) :=
  [(dataGeneratorControl.index, changed), (resetControl.index, 2)] ++
    if selects then [(dataSourceSelect.index, 1)] else []

/-- The writes that switch the generator on or off. -/
def switch (enabled : UInt32) : List (Nat × UInt32) :=
  (dataGeneratorControl.index, enabled) ::
    if inject then [(dataGeneratorInjectError.index, 1)] else []

section Order

variable {pattern : Pattern} {size : Nat} {randomSize inject : Bool} {w : Words}
  {changed value : UInt32}

theorem writes_switching (on : Bool) (control : UInt32) :
    Step.writes (switching on control ++ injecting inject) =
      switch inject (Generator.setEnabled control on) := by
  cases inject <;> rfl

/-- Preparing writes the configuration, unless the features that are read again deny the selection
that the first ones had. -/
theorem writes_preparing (made : configured w.word pattern size randomSize = .ok changed)
    (rest : List Step) :
    let steps := preparing pattern size randomSize w.word w.features w.again
    Step.writes (steps ++ rest) =
        configuration changed (Features.ofWord w.features).dataSelection ++ Step.writes rest ∨
      Step.writes (steps ++ rest) = configuration changed false ∧
        ∃ step ∈ steps, step.exchange? = none := by
  intro steps
  have written (later : List Step) : Step.writes
      (configuring pattern size randomSize w.word ++ .write resetControl 2 :: later) =
        (dataGeneratorControl.index, changed) :: (resetControl.index, 2) :: Step.writes later := by
    rw [configuring, setting, made]
    rfl
  have parts : steps ++ rest = configuring pattern size randomSize w.word ++
      .write resetControl 2 :: (selecting w.features w.again ++ rest) := List.append_assoc ..
  rw [parts, written, selecting]
  by_cases chosen : (Features.ofWord w.features).dataSelection = true
  · by_cases confirmed : (Features.ofWord w.again).dataSelection = true
    · left
      rw [if_pos chosen, confirming, if_pos confirmed, chosen]
      rfl
    · right
      constructor
      · rw [if_pos chosen, confirming, if_neg confirmed]
        rfl
      · refine ⟨confirming w.again, by simp [steps, preparing, selecting, chosen], ?_⟩
        rw [confirming, if_neg confirmed]
        rfl
  · left
    rw [if_neg chosen, configuration, if_neg chosen]
    rfl

theorem prefix_writes_starting (made : configured w.word pattern size randomSize = .ok changed) :
    Step.writes (starting pattern size randomSize inject w) <+:
      configuration changed (Features.ofWord w.features).dataSelection ++
        switch inject (Generator.setEnabled w.control true) := by
  unfold starting
  obtain all | ⟨early, -⟩ :=
    writes_preparing made (switching true w.control ++ injecting inject)
  · rw [writes_switching] at all
    exact all ▸ List.prefix_refl _
  · rw [early, configuration, configuration, List.append_assoc, if_neg (by decide), List.append_nil]
    exact List.prefix_append _ _

theorem writes_starting (made : configured w.word pattern size randomSize = .ok changed)
    (carried : ∀ step ∈ starting pattern size randomSize inject w, step.exchange? ≠ none) :
    Step.writes (starting pattern size randomSize inject w) =
      configuration changed (Features.ofWord w.features).dataSelection ++
        switch inject (Generator.setEnabled w.control true) := by
  unfold starting at *
  obtain all | ⟨-, step, mem, refused⟩ :=
    writes_preparing made (switching true w.control ++ injecting inject)
  · rw [all, writes_switching]
  · exact absurd refused (carried step (List.mem_append_left _ mem))

/-- The step is a write to the control register. -/
def SetsControl (step : Step) (value : UInt32) : Prop :=
  step.exchange?.map Exchange.request = some (.write dataGeneratorControl.index value)

@[simp]
theorem setsControl_read {register : Register} {word : UInt32} :
    ¬ SetsControl (.read register word) value := by
  intro sets
  cases sets

@[simp]
theorem setsControl_write {register : Register} {written : UInt32} :
    SetsControl (.write register written) value ↔
      register.index = dataGeneratorControl.index ∧ written = value := by
  simp [SetsControl, Step.exchange?]

@[simp]
theorem setsControl_refuse {e : Error} : ¬ SetsControl (.refuse e) value := by
  intro sets
  cases sets

theorem not_setsControl_selecting {features again : UInt32} :
    ∀ step ∈ .write resetControl 2 :: selecting features again, ¬ SetsControl step value := by
  have reset : resetControl.index ≠ dataGeneratorControl.index := by decide
  have source : dataSourceSelect.index ≠ dataGeneratorControl.index := by decide
  unfold selecting confirming
  split
  · split <;> simp [reset, source]
  · simp [reset]

theorem not_setsControl_injecting : ∀ step ∈ injecting inject, ¬ SetsControl step value := by
  have error : dataGeneratorInjectError.index ≠ dataGeneratorControl.index := by decide
  cases inject <;> simp [injecting, error]

/-- A step that is not in the first part of a list is in the second. -/
theorem split_after {front back done rest : List Step} {step : Step}
    (split : front ++ back = done ++ step :: rest) (other : step ∉ front) :
    ∃ more, done = front ++ more ∧ back = more ++ step :: rest := by
  rcases append_eq_append_cons split with behind | ⟨more, rfl, -⟩
  · exact behind
  · exact absurd (by simp) other

/-- The control register is written right after it was read: with what was configured, and to
enable the generator after everything else. -/
theorem control_write {done rest : List Step} {step : Step}
    (split : starting pattern size randomSize inject w = done ++ step :: rest)
    (sets : SetsControl step value) :
    (done = [.read dataGeneratorControl w.word] ∧
      configured w.word pattern size randomSize = .ok value) ∨
    (done = preparing pattern size randomSize w.word w.features w.again ++
        [.read dataGeneratorControl w.control] ∧ value = Generator.setEnabled w.control true) := by
  have parts : starting pattern size randomSize inject w =
      [.read dataGeneratorControl w.word] ++ setting pattern size randomSize w.word ::
        ((.write resetControl 2 :: selecting w.features w.again) ++
          ([.read dataGeneratorControl w.control] ++
            .write dataGeneratorControl (Generator.setEnabled w.control true) ::
              injecting inject)) := by
    simp [starting, preparing, configuring, switching]
  rw [parts] at split
  have unread {register : Register} {word : UInt32} : step ∉ [.read register word] := by
    intro mem
    rw [List.mem_singleton.1 mem] at sets
    exact setsControl_read sets
  obtain ⟨done, rfl, tail⟩ := split_after split unread
  cases done with
  | nil =>
    obtain ⟨rfl, -⟩ := List.cons.inj tail
    unfold setting at sets
    cases made : configured w.word pattern size randomSize with
    | ok changed =>
      rw [made] at sets
      obtain ⟨-, rfl⟩ := setsControl_write.1 sets
      exact .inl ⟨rfl, rfl⟩
    | error e =>
      rw [made] at sets
      exact absurd sets setsControl_refuse
  | cons second done =>
    obtain ⟨rfl, later⟩ := List.cons.inj tail
    obtain ⟨done, rfl, further⟩ :=
      split_after later fun mem => not_setsControl_selecting step mem sets
    obtain ⟨done, rfl, last⟩ := split_after further unread
    cases done with
    | nil =>
      obtain ⟨rfl, -⟩ := List.cons.inj last
      obtain ⟨-, rfl⟩ := setsControl_write.1 sets
      refine .inr ⟨?_, rfl⟩
      simp [preparing, configuring]
    | cons enabled done =>
      have behind : injecting inject = done ++ step :: rest := (List.cons.inj last).2
      have mem : step ∈ injecting inject := by simp [behind]
      exact absurd sets (not_setsControl_injecting step mem)

/-- Nothing is written where pattern or size is refused. -/
theorem of_refused {t : Trace} {r : Except Error Unit} {e : Error}
    (refused : configured w.word pattern size randomSize = .error e)
    (h : Follows (starting pattern size randomSize inject w) t r) :
    writes t = [] ∧ ∃ e, r = .error e := by
  have steps : starting pattern size randomSize inject w =
      .read dataGeneratorControl w.word :: .refuse e ::
        (.write resetControl 2 :: selecting w.features w.again ++
          (switching true w.control ++ injecting inject)) := by
    simp [starting, preparing, configuring, setting, refused]
  constructor
  · have none := h.writes_prefix
    rw [steps] at none
    exact List.prefix_nil.1 none
  · cases r with
    | error e => exact ⟨e, rfl⟩
    | ok u =>
      have carried := h.of_ok
      rw [steps] at carried
      cases t with
      | nil => cases carried
      | cons x t =>
        cases t with
        | nil => cases carried
        | cons y t => cases carried

/-- A write to the control register keeps the enable bit that was just read, unless everything that
comes before enabling the generator was done. -/
theorem enable_bit {t before after : Trace} {r : Except Error Unit}
    {answer : Except Error Unit}
    (made : configured w.word pattern size randomSize = .ok changed)
    (h : Follows (starting pattern size randomSize inject w) t r)
    (split : t = before ++ ⟨.write dataGeneratorControl.index value, answer⟩ :: after) :
    ∃ earlier word, before = earlier ++ [readOk dataGeneratorControl word] ∧
      (∀ x ∈ before, failure? x = none) ∧
      (value.toNat.testBit 0 = word.toNat.testBit 0 ∨
        writes earlier = configuration changed (Features.ofWord w.features).dataSelection) := by
  obtain ⟨done, step, rest, steps, carried, sets⟩ := h.exists_step split
  obtain ⟨-, passed⟩ := Register.of_carried carried
  obtain ⟨rfl, same⟩ | ⟨rfl, -⟩ := control_write steps sets
  · refine ⟨[], w.word, ?_, passed, .inl ?_⟩
    · exact (List.map_inj_right fun _ _ => Option.some.inj).1 carried.symm
    · cases made.symm.trans same
      exact (reconfigured_of_configured made).others 0 (by decide) (.inl rfl)
  · rw [List.map_append] at carried
    obtain ⟨earlier, last, rfl, first, second⟩ := List.map_eq_append_iff.1 carried.symm
    refine ⟨earlier, w.control, ?_, passed, .inr ?_⟩
    · congr 1
      exact (List.map_inj_right fun _ _ => Option.some.inj).1 second
    · have all := writes_preparing made []
      simp only [List.append_nil] at all
      obtain all | ⟨-, step, mem, refused⟩ := all
      · rw [(Register.of_carried first.symm).1, all, Step.writes, List.append_nil]
      · exact absurd refused (Register.ne_none_of_carried first.symm step mem)

end Order

/-! ### Runs -/

section Runs

variable (pattern : Pattern) (size : Nat) (randomSize inject : Bool)

/-- The accesses `t` start the generator, with the words `w` that were read, or break off. -/
structure Started (w : Words) (t : Trace) (r : Except Error Unit) : Prop where
  follows : Follows (starting pattern size randomSize inject w) t r
  stops : ∀ before x after e, t = before ++ x :: after → failure? x = some e →
    after = [] ∧ r = .error e
  refused : ¬ ((Generator.Setting.pattern pattern).Accepted ∧
    (Generator.Setting.size size).Accepted) → writes t = [] ∧ ∃ e, r = .error e
  accepted : (Generator.Setting.pattern pattern).Accepted →
    (Generator.Setting.size size).Accepted →
    ∃ changed, Reconfigured pattern size randomSize w.word changed ∧
      let prepare := configuration changed (Features.ofWord w.features).dataSelection
      let enable := switch inject (Generator.setEnabled w.control true)
      writes t <+: prepare ++ enable ∧
      (r = .ok () → writes t = prepare ++ enable ∧ ∀ x ∈ t, failure? x = none) ∧
      ∀ before value answer after,
        t = before ++ ⟨.write dataGeneratorControl.index value, answer⟩ :: after →
        ∃ earlier word, before = earlier ++ [readOk dataGeneratorControl word] ∧
          (∀ x ∈ before, failure? x = none) ∧
          (value.toNat.testBit 0 = word.toNat.testBit 0 ∨ writes earlier = prepare)

/-- The accesses `t` stop the generator, with the control word that was read, or break off. -/
structure Stopped (control : UInt32) (t : Trace) (r : Except Error Unit) : Prop where
  follows : Follows (stopping inject control) t r
  attempted : writes t <+: switch inject (Generator.setEnabled control false)
  done : r = .ok () → writes t = switch inject (Generator.setEnabled control false)

variable {pattern size randomSize inject} {w : Words} {control : UInt32} {t : Trace}
  {r : Except Error Unit}

theorem started_of_follows (h : Follows (starting pattern size randomSize inject w) t r) :
    Started pattern size randomSize inject w t r where
  follows := h
  stops before x after e := h.stops
  refused outside := by
    obtain ⟨e, refused⟩ := configured_eq_error w.word randomSize outside
    exact of_refused refused h
  accepted hp hs := by
    obtain ⟨changed, made⟩ : ∃ changed, configured w.word pattern size randomSize = .ok changed :=
      ⟨_, configured_eq_ok hp hs⟩
    refine ⟨changed, reconfigured_of_configured made, ?_, ?_, ?_⟩
    · exact h.writes_prefix.trans (prefix_writes_starting made)
    · rintro rfl
      obtain ⟨wrote, passed⟩ := Register.of_carried h.of_ok
      refine ⟨?_, passed⟩
      rw [wrote]
      exact writes_starting made (Register.ne_none_of_carried h.of_ok)
    · intro before value answer after split
      exact enable_bit made h split

theorem stopped_of_follows (h : Follows (stopping inject control) t r) :
    Stopped inject control t r where
  follows := h
  attempted := by
    rw [← writes_switching]
    exact h.writes_prefix
  done := by
    rintro rfl
    obtain ⟨wrote, -⟩ := Register.of_carried h.of_ok
    exact wrote.trans (writes_switching false control)

end Runs

/-- **Starting and stopping the generator.** Over every window, a run that is to start the generator
goes through the accesses of `starting`, up to the first that fails. So it attempts the writes of
this list from the first one on, all of them if it succeeds: the control word that was just read
with only pattern and sizes replaced, the reset, the source where the features just read have the
selection, the control word read again with bit 0 set, and the error if one is wanted. The enable
bit is written as just read unless everything before enabling was done, and nothing is written if
pattern or size are refused. A run that is to stop it writes the control word just read with bit 0
cleared, and the error. The command opens the card, makes these accesses through the mapped window,
and succeeds if they do. -/
theorem drive_generator {σ H W τ : Type} (w : Window σ) (s : σ) (b : Binding) (pattern : Pattern)
    (size : Nat) (randomSize inject : Bool)
    (answer : (q : CommandLine.Request H W) → τ → CommandLine.Answer q × τ)
    (card : CommandLine.CardArguments) (disable : Bool) (s' : τ) :
    (let start := CommandLine.driveGenerator b pattern size randomSize false inject
      ∃ words, Started pattern size randomSize inject words (w.transcript start s)
        (w.run start s).1) ∧
    (let stop := CommandLine.driveGenerator b pattern size randomSize true inject
      ∃ control, Stopped inject control (w.transcript stop s) (w.run stop s).1) ∧
    (∀ (word : UInt32) (on : Bool) (i : Nat), i < 32 →
      (Generator.setEnabled word on).toNat.testBit i =
        if i = 0 then on else word.toNat.testBit i) ∧
    Console.run answer
        (CommandLine.generator card pattern size randomSize disable inject) s' =
      match Console.run answer
          (Console.query (MappedCard.ofSettings (card.settings cruSupportBar))) s' with
      | (.error f, after) => (.error f, after)
      | (.ok m, after) => match CommandLine.requireCru m "Generator control" with
        | .error f => (.error f, after)
        | .ok b =>
          match (Console.windowOf answer m.mapping.window).run
              (CommandLine.driveGenerator b pattern size randomSize disable inject) after with
          | (.error e, after) => (.error (.ofError e), after)
          | (.ok _, after) => (.ok (), (answer (.print "Done!") after).2) := by
  refine ⟨?_, ?_, fun word on i hi => testBit_setEnabled word on hi, ?_⟩
  · intro start
    obtain ⟨words, follows⟩ :=
      goes_start b pattern size randomSize inject _ _ (w.traces_transcript start s)
    exact ⟨words, started_of_follows follows⟩
  · intro stop
    obtain ⟨control, follows⟩ :=
      goes_stop b pattern size randomSize inject _ _ (w.traces_transcript stop s)
    exact ⟨control, stopped_of_follows follows⟩
  · rw [CommandLine.generator, Console.run_bind]
    rcases Console.run answer _ s' with ⟨f | m, after⟩
    · rfl
    · simp only [Console.run_bind, Console.run_ofExcept]
      cases CommandLine.requireCru m "Generator control" with
      | error f => rfl
      | ok b =>
        simp only [Console.run_access]
        rcases (Console.windowOf answer m.mapping.window).run _ after with ⟨e | u, after⟩
        · rfl
        · rfl

end Cru

end ReadoutCard
