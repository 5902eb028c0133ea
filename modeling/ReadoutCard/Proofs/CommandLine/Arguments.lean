import ReadoutCard.CommandLine.Arguments
import ReadoutCard.Proofs.Text.Spelling

/-!
# Arguments that two commands share

A command with more options and flags than another reads the other's arguments
just as that one does, whatever it was given of its own before
(`Widens.carries_words`). Reading takes an argument at a time, and what was given
before goes through each step unchanged (`Carries`): a value settled, a flag
raised, an option taken (`long_eq_ok_iff`). An option may be given in one
argument or in two (`words_together`, `words_apart`); in two, its value stands
there until the next argument settles it (`words_of_settle`).
-/

namespace ReadoutCard.CommandLine

/-! ### Names -/

theorem OptionName.name_injective : Function.Injective OptionName.name := by
  intro o o' same
  cases o <;> cases o' <;> first | rfl | exact absurd same (by decide)

theorem Flag.name_injective : Function.Injective Flag.name := by
  intro f f' same
  cases f <;> cases f' <;> first | rfl | exact absurd same (by decide)

theorem OptionName.name_ne_flag (o : OptionName) (f : Flag) : o.name ≠ f.name := by
  cases o <;> cases f <;> decide

/-- With names of their own, the element of a name is found by it. -/
theorem find?_name_eq_some_iff {α : Type} {name : α → String} (injective : Function.Injective name)
    {l : List α} {text : String} {a : α} :
    l.find? (fun b => name b == text) = some a ↔ a ∈ l ∧ name a = text := by
  constructor
  · intro found
    have same := List.find?_some found
    exact ⟨List.mem_of_find?_eq_some found, eq_of_beq same⟩
  · rintro ⟨mem, rfl⟩
    cases found : l.find? (fun b => name b == name a) with
    | none => simpa using List.find?_eq_none.1 found a mem
    | some b =>
      have same := List.find?_some found
      rw [injective (eq_of_beq same)]

theorem CommandName.verbose_mem_flags (c : CommandName) : .verbose ∈ c.flags := by
  cases c <;> decide

/-! ### The form of an argument -/

/-- An argument without a dash is plain. -/
theorem Word.ofArgument_plain {text : String} (h : '-' ∉ text.toList) :
    Word.ofArgument text = .plain text := by
  unfold Word.ofArgument
  split
  · next dashes => simp [dashes] at h
  · next dashes => simp [dashes] at h
  · next dashes => simp [dashes] at h
  · rfl

theorem Word.ofArgument_name (c : CommandName) : Word.ofArgument c.name = .plain c.name := by
  cases c <;> decide

theorem Word.ofArgument_option (o : OptionName) :
    Word.ofArgument ("--" ++ o.name) = .long o.name none := by
  cases o <;> decide

theorem Word.ofArgument_flag (f : Flag) : Word.ofArgument ("--" ++ f.name) = .long f.name none := by
  cases f <;> decide

theorem Word.ofArgument_option_value (o : OptionName) (text : String) :
    Word.ofArgument ("--" ++ o.name ++ "=" ++ text) = .long o.name (some text) := by
  have no_sign : '=' ∉ o.name.toList := by
    cases o <;> decide
  have cut := Text.splitOnce_append text.toList no_sign
  have spelled : ("--" ++ o.name ++ "=" ++ text).toList =
      '-' :: '-' :: (o.name.toList ++ '=' :: text.toList) := by
    simp [String.toList_append]
  obtain ⟨c, rest, more⟩ := List.exists_cons_of_ne_nil
    (show o.name.toList ++ '=' :: text.toList ≠ [] by simp)
  rw [more] at cut spelled
  rw [Word.ofArgument, spelled]
  simp only [cut, String.ofList_toList]

theorem Word.ne_nil_of_short {argument : String} {letters : List Char}
    (h : Word.ofArgument argument = .short letters) : letters ≠ [] := by
  unfold Word.ofArgument at h
  split at h
  · cases h
  · split at h
    · cases h
    · cases h
  · cases h
    simp
  · cases h

namespace Scan

variable {c c' : CommandName} {s s' : Scan}

/-! ### What the steps do -/

theorem settle_of_none (h : s.waiting = none) : s.settle = .ok s := by
  rw [settle, h]

/-- Nothing waits once the value that waited is read. -/
theorem waiting_of_settle (settled : s.settle = .ok s') : s'.waiting = none := by
  unfold settle at settled
  split at settled
  case h_1 nothing =>
    cases settled
    exact nothing
  case h_2 => cases settled
  case h_3 =>
    unfold take at settled
    split at settled
    · cases settled
    · obtain ⟨v, -, rfl⟩ := except_map_eq_ok.1 settled
      rfl

theorem take_eq_ok_iff {o : OptionName} {text : String} : s.take o text = .ok s' ↔
    s.values.get? o = none ∧ ∃ v, o.read text = .ok v ∧
      s' = { s with values := s.values.set o v } := by
  unfold take
  cases s.values.get? o with
  | none =>
    rw [if_neg (by simp), except_map_eq_ok]
    simp only [true_and, eq_comm]
  | some v => simp

theorem raise_eq_ok_iff {f : Flag} : s.raise f = .ok s' ↔
    f ∉ s.flags ∧ s' = { s with flags := f :: s.flags } := by
  unfold raise
  by_cases given : f ∈ s.flags
  · simp [given]
  · simp [given, eq_comm]

theorem help_ne_ok : s.help ≠ .ok s' := by
  intro helped
  obtain ⟨_, -, thrown⟩ := except_bind_eq_ok.1 helped
  cases thrown

/-- A long option takes its value, awaits it, or is a flag that is raised. -/
theorem long_eq_ok_iff {name : String} {value : Option String} :
    s.long c name value = .ok s' ↔
      (∃ o ∈ c.options, o.name = name ∧ ∃ t, s.settle = .ok t ∧
        ((∃ text, value = some text ∧ t.take o text = .ok s') ∨
          value = none ∧ s' = { t with waiting := some (o, none) })) ∨
      ∃ f ∈ c.flags, f.name = name ∧ value = none ∧ ∃ t, s.settle = .ok t ∧ t.raise f = .ok s' := by
  unfold long
  cases option : c.options.find? (fun o => o.name == name) with
  | some o =>
    obtain ⟨mem, rfl⟩ := (find?_name_eq_some_iff OptionName.name_injective).1 option
    have no_flag (f : Flag) : f.name ≠ o.name := (o.name_ne_flag f).symm
    have only {o' : OptionName} : o'.name = o.name ↔ o' = o := OptionName.name_injective.eq_iff
    simp only [except_bind_eq_ok, no_flag, only]
    cases value with
    | some text => simp [mem]
    | none => simp [mem, pure, Except.pure, eq_comm]
  | none =>
    have no_option : ∀ o ∈ c.options, o.name ≠ name := by
      intro o mem same
      exact List.find?_eq_none.1 option o mem (beq_iff_eq.2 same)
    have never (P : OptionName → Prop) : ¬ ∃ o ∈ c.options, o.name = name ∧ P o := by
      rintro ⟨o, mem, same, -⟩
      exact no_option o mem same
    rw [or_iff_right (never _)]
    cases flag : c.flags.find? (fun f => f.name == name) with
    | some f =>
      obtain ⟨mem, rfl⟩ := (find?_name_eq_some_iff Flag.name_injective).1 flag
      simp only [Flag.name_injective.eq_iff]
      cases value with
      | some text => simp
      | none => simp [mem, except_bind_eq_ok]
    | none =>
      have no_flag : ∀ f ∈ c.flags, f.name ≠ name := by
        intro f mem same
        exact List.find?_eq_none.1 flag f mem (beq_iff_eq.2 same)
      constructor
      · intro read
        cases value with
        | some text => cases read
        | none =>
          simp only at read
          split at read
          · exact absurd read help_ne_ok
          · cases read
      · rintro ⟨f, mem, same, -⟩
        exact absurd same (no_flag f mem)

/-! ### Values that stand until they are settled -/

theorem long_congr (same : s.settle = s'.settle) (name : String) (value : Option String) :
    s.long c name value = s'.long c name value := by
  unfold long help
  rw [same]

theorem letters_congr (same : s.settle = s'.settle) {letters : List Char} (some : letters ≠ []) :
    s.letters letters = s'.letters letters := by
  unfold Scan.letters
  split
  · exact absurd rfl some
  · unfold help
    rw [same]
  · rw [same]
  · rfl

/-- A value that stands there may be read at once. -/
theorem words_of_settle {o : OptionName} {text : String}
    (standing : s.waiting = some (o, some text)) (settled : s.settle = .ok s')
    (arguments : List String) : s.words c arguments = s'.words c arguments := by
  have nothing := waiting_of_settle settled
  have same : s.settle = s'.settle := by
    rw [settled, settle_of_none nothing]
  cases arguments with
  | nil => exact same
  | cons argument rest =>
    simp only [words]
    cases form : Word.ofArgument argument with
    | escape => simp only [same]
    | long name value => simp only [long_congr same]
    | short letters => simp only [letters_congr same (Word.ne_nil_of_short form)]
    | plain text => simp only [standing, nothing]

/-! ### Scans of one command and of another with more options -/

/-- The second command has the options and flags of the first; `o` and `extra` are not among
these. -/
structure Widens (c c' : CommandName) (o : OptionName) (extra : List Flag) : Prop where
  options : c.options ⊆ c'.options
  flags : c.flags ⊆ c'.flags
  newOption : o ∉ c.options
  newFlags : ∀ f ∈ extra, f ∉ c.flags

/-- What the command can have read so far. -/
structure Fits (c : CommandName) (s : Scan) : Prop where
  waiting : ∀ w ∈ s.waiting, w.1 ∈ c.options
  flags : s.flags ⊆ c.flags

/-- The scan with a value of one more option and with more flags. -/
def adding (o : OptionName) (v : o.Value) (extra : List Flag) (s : Scan) : Scan :=
  { s with values := s.values.set o v, flags := s.flags ++ extra }

section Adding

variable {o o' : OptionName} {v : o.Value} {extra : List Flag}

theorem required_adding_self : (s.adding o v extra).required o = .ok v := by
  rw [required, adding, Sparse.get?_set_self]

theorem get?_adding_of_ne (other : o ≠ o') :
    (s.adding o v extra).values.get? o' = s.values.get? o' :=
  Sparse.get?_set_of_ne _ _ other

theorem required_adding_of_ne (other : o ≠ o') :
    (s.adding o v extra).required o' = s.required o' := by
  rw [required, required, get?_adding_of_ne other]

theorem card_adding (no_id : o ≠ .id) (no_channel : o ≠ .channel) :
    (s.adding o v extra).card = s.card := by
  rw [card, card, required_adding_of_ne no_id, get?_adding_of_ne no_channel]

end Adding

/-- What was given before goes through a step of the command unchanged. -/
def Carries (c : CommandName) (o : OptionName) (v : o.Value) (extra : List Flag)
    (step step' : Scan → Except Rejection Scan) : Prop :=
  ∀ s s', s.Fits c → step s = .ok s' →
    step' (s.adding o v extra) = .ok (s'.adding o v extra) ∧ s'.Fits c

variable {o : OptionName} {v : o.Value} {extra : List Flag}

theorem Carries.bind {p p' q q' : Scan → Except Rejection Scan} (first : Carries c o v extra p p')
    (second : Carries c o v extra q q') :
    Carries c o v extra (fun s => p s >>= q) (fun s => p' s >>= q') := by
  intro s s' fits both
  obtain ⟨t, ran, both⟩ := except_bind_eq_ok.1 both
  obtain ⟨ran', fits⟩ := first s t fits ran
  obtain ⟨both', fits⟩ := second t s' fits both
  exact ⟨except_bind_eq_ok.2 ⟨_, ran', both'⟩, fits⟩

namespace Widens

variable (wider : Widens c c' o extra)
include wider

theorem carries_take {o' : OptionName} (mem : o' ∈ c.options) (text : String) :
    Carries c o v extra (fun s => s.take o' text) fun s => s.take o' text := by
  intro s s' fits taken
  obtain ⟨new, w, read, rfl⟩ := take_eq_ok_iff.1 taken
  have other : o ≠ o' := fun same => wider.newOption (same ▸ mem)
  refine ⟨take_eq_ok_iff.2 ⟨?_, w, read, ?_⟩, fits.waiting, fits.flags⟩
  · rw [adding, Sparse.get?_set_of_ne _ _ other, new]
  · simp only [adding, Sparse.set_comm _ _ _ other]

theorem carries_settle : Carries c o v extra settle settle := by
  intro s s' fits settled
  unfold settle at settled
  split at settled
  case h_1 nothing =>
    cases settled
    exact ⟨settle_of_none nothing, fits⟩
  case h_2 => cases settled
  case h_3 o' text standing =>
    have mem := fits.waiting _ standing
    have idle : Fits c { s with waiting := none } := ⟨by simp, fits.flags⟩
    obtain ⟨taken, fits⟩ := wider.carries_take (v := v) mem text _ s' idle settled
    refine ⟨?_, fits⟩
    rw [settle]
    simp only [adding, standing]
    exact taken

theorem carries_raise {f : Flag} (mem : f ∈ c.flags) :
    Carries c o v extra (fun s => s.raise f) fun s => s.raise f := by
  intro s s' fits raised
  obtain ⟨new, rfl⟩ := raise_eq_ok_iff.1 raised
  refine ⟨raise_eq_ok_iff.2 ⟨?_, rfl⟩, fits.waiting, List.cons_subset.2 ⟨mem, fits.flags⟩⟩
  have not_extra : f ∉ extra := fun given => wider.newFlags f given mem
  simp [adding, new, not_extra]

theorem carries_letters (row : List Char) :
    Carries c o v extra (fun s => s.letters row) fun s => s.letters row := by
  induction row with
  | nil =>
    rintro s s' fits ⟨⟩
    exact ⟨rfl, fits⟩
  | cons letter rest ih =>
    intro s s' fits read
    unfold Scan.letters at read ⊢
    split at read
    case h_1 none => cases none
    case h_2 => exact absurd read help_ne_ok
    case h_3 same =>
      cases same
      have raises := wider.carries_raise (v := v) c.verbose_mem_flags
      exact (wider.carries_settle.bind (raises.bind ih)) s s' fits read
    case h_4 => cases read

theorem carries_long (name : String) (value : Option String) :
    Carries c o v extra (fun s => s.long c name value) fun s => s.long c' name value := by
  intro s s' fits read
  obtain ⟨o', mem, named, t, settled, taken⟩ | ⟨f, mem, named, no_value, t, settled, raised⟩ :=
    long_eq_ok_iff.1 read
  · obtain ⟨settled', fits⟩ := wider.carries_settle (v := v) s t fits settled
    obtain ⟨text, given, taken⟩ | ⟨no_value, rfl⟩ := taken
    · obtain ⟨taken', fits⟩ := wider.carries_take (v := v) mem text t s' fits taken
      exact ⟨long_eq_ok_iff.2 (.inl ⟨o', wider.options mem, named, _, settled',
        .inl ⟨text, given, taken'⟩⟩), fits⟩
    · refine ⟨long_eq_ok_iff.2 (.inl ⟨o', wider.options mem, named, _, settled',
        .inr ⟨no_value, rfl⟩⟩), ?_, fits.flags⟩
      rintro w ⟨⟩
      exact mem
  · obtain ⟨settled', fits⟩ := wider.carries_settle (v := v) s t fits settled
    obtain ⟨raised', fits⟩ := wider.carries_raise (v := v) mem t s' fits raised
    exact ⟨long_eq_ok_iff.2 (.inr ⟨f, wider.flags mem, named, no_value, _, settled', raised'⟩),
      fits⟩

/-- What was given before is still there when all arguments are read. -/
theorem carries_words (arguments : List String) :
    Carries c o v extra (fun s => s.words c arguments) fun s => s.words c' arguments := by
  induction arguments with
  | nil => exact wider.carries_settle
  | cons argument rest ih =>
    intro s s' fits read
    simp only [words] at read ⊢
    cases form : Word.ofArgument argument with
    | escape =>
      simp only [form] at read ⊢
      by_cases last : rest = []
      · rw [if_pos last] at read ⊢
        exact wider.carries_settle s s' fits read
      · rw [if_neg last] at read
        cases read
    | long name value =>
      simp only [form] at read ⊢
      exact ((wider.carries_long name value).bind ih) s s' fits read
    | short row =>
      simp only [form] at read ⊢
      exact ((wider.carries_letters row).bind ih) s s' fits read
    | plain text =>
      simp only [form] at read ⊢
      split at read
      case h_1 o' awaited =>
        have mem := fits.waiting _ awaited
        have standing : Fits c { s with waiting := some (o', some text) } := by
          refine ⟨?_, fits.flags⟩
          rintro w ⟨⟩
          exact mem
        have waits : (s.adding o v extra).waiting = some (o', none) := awaited
        rw [waits]
        exact ih _ s' standing read
      case h_2 => cases read

end Widens

/-! ### Options given first -/

section Given

variable (idle : s.waiting = none)
include idle

theorem words_flag {f : Flag} (mem : f ∈ c.flags) (new : f ∉ s.flags) (rest : List String) :
    s.words c (("--" ++ f.name) :: rest) = { s with flags := f :: s.flags }.words c rest := by
  have raised : s.long c f.name none = .ok { s with flags := f :: s.flags } :=
    long_eq_ok_iff.2 (.inr ⟨f, mem, rfl, rfl, s, settle_of_none idle, raise_eq_ok_iff.2 ⟨new, rfl⟩⟩)
  rw [words, Word.ofArgument_flag]
  simp only [raised, bind, Except.bind]

variable (new : s.values.get? o = none) (mem : o ∈ c.options) {text : String}
  (read : o.read text = .ok v)
include new mem read

/-- An option and its value in one argument. -/
theorem words_together (rest : List String) :
    s.words c (("--" ++ o.name ++ "=" ++ text) :: rest) =
      { s with values := s.values.set o v }.words c rest := by
  have taken : s.long c o.name (some text) = .ok { s with values := s.values.set o v } :=
    long_eq_ok_iff.2 (.inl ⟨o, mem, rfl, s, settle_of_none idle,
      .inl ⟨text, rfl, take_eq_ok_iff.2 ⟨new, v, read, rfl⟩⟩⟩)
  rw [words, Word.ofArgument_option_value]
  simp only [taken, bind, Except.bind]

/-- An option and then its value. -/
theorem words_apart (plain : '-' ∉ text.toList) (rest : List String) :
    s.words c (("--" ++ o.name) :: text :: rest) =
      { s with values := s.values.set o v }.words c rest := by
  have asked : s.long c o.name none = .ok { s with waiting := some (o, none) } :=
    long_eq_ok_iff.2 (.inl ⟨o, mem, rfl, s, settle_of_none idle, .inr ⟨rfl, rfl⟩⟩)
  have settled : settle { s with waiting := some (o, some text) } =
      .ok { s with values := s.values.set o v } := by
    refine take_eq_ok_iff.2 ⟨new, v, read, ?_⟩
    rw [idle]
  rw [words, Word.ofArgument_option]
  simp only [asked, bind, Except.bind]
  rw [words, Word.ofArgument_plain plain]
  exact words_of_settle rfl settled rest

end Given

end Scan

/-- The arguments after its name are a command's own. -/
theorem parse_command (c : CommandName) (arguments : List String) :
    parse (c.name :: arguments) = do
      let s ← Scan.empty.words c arguments
      return .command (← s.command c) := by
  have known : CommandName.all.find? (fun c' => c'.name == c.name) = some c := by
    cases c <;> rfl
  rw [parse, parseFrom, Word.ofArgument_name]
  simp only [known]

theorem parse_command_eq_ok_iff {c : CommandName} {arguments : List String} {command : Command} :
    parse (c.name :: arguments) = .ok (.command command) ↔
      ∃ s, Scan.empty.words c arguments = .ok s ∧ s.command c = .ok command := by
  rw [parse_command, except_bind_eq_ok]
  constructor
  · rintro ⟨s, scanned, asked⟩
    obtain ⟨_, asked, same⟩ := except_bind_eq_ok.1 asked
    cases same
    exact ⟨s, scanned, asked⟩
  · rintro ⟨s, scanned, asked⟩
    exact ⟨s, scanned, except_bind_eq_ok.2 ⟨command, asked, rfl⟩⟩

end ReadoutCard.CommandLine
