import ReadoutCard.Proofs.CommandLine.NumberForms
import ReadoutCard.Proofs.CommandLine.Outcomes
import ReadoutCard.Proofs.Sysfs.Addresses
import ReadoutCard.Proofs.Sysfs.Openings

/-!
# Registers one by one and in a range

A range is read through one mapping, and its registers alone through a mapping
each, after a search of its own. What ties them is `Holds`: the card can be
opened, and then its registers hold given words. It is a property of the tree
that does not change while the tree is kept (`Holds.of_kept`), a register that
holds a word prints it (`Holds.run`), and a range that is read holds the words
read (`run_readRegisters`).
-/

namespace ReadoutCard

open Sysfs (Kept Resource)

namespace CommandLine

/-! ### Hosts whose tree is kept -/

theorem Host.kind?_withTree {h : Host} {t : DeviceTree} (kept : Kept h.tree t) :
    (h.withTree t).kind? = h.kind? := by
  funext place
  obtain ⟨workingDirectory, treePlace, ⟨root, d⟩, saved, printed⟩ := h
  obtain ⟨root', d'⟩ := t
  simp only [kind?, withTree]
  cases kept.entries with
  | none => rfl
  | some same => simp only [Option.bind_eq_bind, Option.bind_some, Sysfs.kind?_kept same]

/-! ### Reading words one after the other -/

/-- Over a window that reads leave as it is, a range is read word by word up to the first that
cannot be read. -/
theorem run_readWords {σ : Type} {w : Window σ} {s : σ} {r : Nat → Except Error UInt32}
    (reads : ∀ index, w.read index s = (r index, s)) (b : Binding) (index count : Nat)
    (read : List UInt32) :
    (∃ words : List UInt32, w.run (readWords b index read count) s =
        (.ok (read.reverse ++ words), s) ∧ words.length = count ∧
        ∀ k (inside : k < words.length), r (index + k) = .ok words[k]) ∨
      ∃ k < count, ∃ e, r (index + k) = .error e ∧
        w.run (readWords b index read count) s = (.error e, s) := by
  induction count generalizing index read with
  | zero =>
    refine .inl ⟨[], ?_, rfl, ?_⟩
    · rw [List.append_nil]
      rfl
    · simp
  | succ count ih =>
    rw [readWords, Window.run_bind, b.read_eq, Window.run_read, reads]
    cases first : r index with
    | error e => exact .inr ⟨0, count.succ_pos, e, first, rfl⟩
    | ok value =>
      simp only
      obtain ⟨words, run, length, each⟩ | ⟨k, inside, e, failed, run⟩ :=
        ih (index + 1) (value :: read)
      · refine .inl ⟨value :: words, ?_, by rw [List.length_cons, length], ?_⟩
        · rw [run, List.reverse_cons, List.append_assoc, List.singleton_append]
        · intro k inside
          cases k with
          | zero => exact first
          | succ k =>
            have next := each k (Nat.lt_of_succ_lt_succ inside)
            rwa [Nat.add_right_comm, Nat.add_assoc] at next
      · rw [Nat.add_assoc, Nat.add_comm 1] at failed
        exact .inr ⟨k + 1, Nat.succ_lt_succ inside, e, failed, run⟩

/-- The line of a register in a range. -/
def registerLine (address : Nat) (value : UInt32) : String :=
  "0x" ++ Text.hexPadded 8 address ++ "  " ++ Text.hexWord value

theorem run_printWords (index : Nat) (values : List UInt32) (h : Host) :
    Console.run Host.answer (printWords index values) h =
      (.ok (), h.printing (values.mapIdx fun k value => registerLine ((index + k) * 4) value)) := by
  induction values generalizing index h with
  | nil => rfl
  | cons value rest ih =>
    rw [printWords, Console.run_bind_of_ok _ (Console.run_print _ _ h), ih, List.mapIdx_cons]
    simp [Host.printing, Host.answer, registerLine, Nat.add_assoc, Nat.add_comm 1]

/-! ### What the commands read -/

/-- The card can be opened, and its registers from a byte address on hold these words. -/
def Holds (card : CardArguments) (address : Nat) (words : List UInt32) (h : Host) : Prop :=
  address % 4 = 0 ∧ ∃ m v, Sysfs.run (MappedCard.ofSettings (card.settings 0)) h.tree = (.ok m, v) ∧
    ∀ k (inside : k < words.length),
      Sysfs.read v m.mapping.window (address / 4 + k) = .ok words[k]

section Reads

variable {card : CardArguments} {address : Nat} {words : List UInt32} {h g : Host}

theorem run_openCard (card : CardArguments) (standard : Nat) (h : Host) :
    Console.run Host.answer (openCard card standard) h =
      ((Sysfs.run (MappedCard.ofSettings (card.settings standard)) h.tree).1.mapError
          fun e => ⟨card.cannotOpen, some e.message⟩,
        h.withTree (Sysfs.run (MappedCard.ofSettings (card.settings standard)) h.tree).2) :=
  Console.run_queryAs_host _ _ h

theorem run_openCard_of_ok {standard : Nat} {m : MappedCard Resource} {v : DeviceTree}
    (opened : Sysfs.run (MappedCard.ofSettings (card.settings standard)) h.tree = (.ok m, v)) :
    Console.run Host.answer (openCard card standard) h = (.ok m, h.withTree v) := by
  rw [run_openCard, opened]
  rfl

theorem run_alignedIndex (aligned : address % 4 = 0) (h : Host) :
    Console.run Host.answer (Console.ofExcept (alignedIndex address)) h =
      (.ok (address / 4), h) := by
  rw [Console.run_ofExcept, alignedIndex, if_pos aligned, Register.wordIndex]

/-- A register of a mapped card is read as the tree shows it. -/
theorem run_access_read {m : MappedCard Resource} {index : Nat} {word : UInt32}
    (shown : Sysfs.read h.tree m.mapping.window index = .ok word) :
    Console.run Host.answer (Console.access m.mapping (m.binding.read index)) h =
      (.ok word, h) := by
  rw [Console.run_access_host, Binding.read_eq, Window.run_read]
  simp only [Sysfs.windowOf, shown]
  rfl

/-- Registers hold their words in every tree that is kept. -/
theorem Holds.of_kept (holds : Holds card address words h) (kept : Kept h.tree g.tree) :
    Holds card address words g := by
  obtain ⟨aligned, m, v, opened, each⟩ := holds
  obtain ⟨r, gives⟩ := Sysfs.gives_ofSettings h.tree (card.settings 0)
  have first := (gives h.tree (.refl _)).1
  have again := (gives g.tree kept).1
  obtain rfl : .ok m = r := by
    rw [← first, Pci.result]
    exact (congrArg Prod.fst opened).symm
  have opened' : Sysfs.run (MappedCard.ofSettings (card.settings 0)) g.tree = (.ok m, _) :=
    Prod.ext again rfl
  have file := Sysfs.file?_of_opened (.refl _) kept opened opened'
  refine ⟨aligned, m, _, opened', fun k inside => ?_⟩
  rw [← each k inside, Sysfs.read, Sysfs.read, file]

/-- A register that holds a word is read, and the word printed. -/
theorem Holds.run (holds : Holds card address words h) {t : DeviceTree} (kept : Kept t h.tree)
    {k : Nat} (inside : k < words.length) : ∃ v, Kept t v ∧
      Console.run Host.answer (Command.readRegister card (address + 4 * k)).run h =
        (.ok (), (h.withTree v).printing [Text.hexWord words[k]]) := by
  obtain ⟨aligned, m, v, opened, each⟩ := holds
  have checked := run_alignedIndex (show (address + 4 * k) % 4 = 0 by omega) h
  rw [show (address + 4 * k) / 4 = address / 4 + k by omega] at checked
  have reads := run_access_read (h := h.withTree v) (each k inside)
  refine ⟨v, Sysfs.kept_of_opened kept opened, ?_⟩
  rw [Command.run, readRegister, Console.run_bind_of_ok _ checked,
    Console.run_bind_of_ok _ (run_openCard_of_ok opened), Console.run_bind_of_ok _ reads]
  rfl

/-- The range of an aligned address that does not reach the end of the address space. -/
theorem ofAddress_cases (address count : Nat) :
    (address % 4 = 0 ∧ (address / 4 + count) * 4 < addressSpace ∧
      IndexRange.ofAddress address count = .ok ⟨address / 4, count⟩) ∨
    ∃ failure, IndexRange.ofAddress address count = .error failure := by
  unfold IndexRange.ofAddress alignedIndex Register.wordIndex
  by_cases aligned : address % 4 = 0
  · by_cases fits : (address / 4 + count) * 4 < addressSpace
    · exact .inl ⟨aligned, fits, by simp [aligned, fits, bind, Except.bind, pure, Except.pure]⟩
    · exact .inr ⟨_, by simp [aligned, fits, bind, Except.bind]; rfl⟩
  · exact .inr ⟨_, by simp [aligned, bind, Except.bind]; rfl⟩

/-- Reading words of a mapped card gives what its registers hold, or fails at one of them. -/
theorem run_access_readWords (m : MappedCard Resource) (index count : Nat) (h : Host) :
    (∃ words : List UInt32, Console.run Host.answer
        (Console.access m.mapping (readWords m.binding index [] count)) h = (.ok words, h) ∧
        words.length = count ∧ ∀ k (inside : k < words.length),
          Sysfs.read h.tree m.mapping.window (index + k) = .ok words[k]) ∨
      ∃ failure, Console.run Host.answer
        (Console.access m.mapping (readWords m.binding index [] count)) h =
          (.error failure, h) := by
  rw [Console.run_access_host]
  obtain ⟨words, run, length, each⟩ | ⟨_, _, e, _, run⟩ := run_readWords
    (w := Sysfs.windowOf m.mapping.window) (s := h.tree) (fun index => rfl) m.binding index count []
  · refine .inl ⟨words, ?_, length, each⟩
    rw [run]
    rfl
  · refine .inr ⟨.ofError e, ?_⟩
    rw [run]
    rfl

/-- After a search a file is saved where it would have been before. -/
theorem answer_save {v : DeviceTree} (kept : Kept h.tree v) (path : Path) (content : ByteArray) :
    Host.answer (.save path content) (h.withTree v) =
      match path.fileToWrite h.kind? h.workingDirectory with
      | .ok place => (.ok (), (h.withTree v).put place content)
      | .error e => (.error e.message, h.withTree v) := by
  simp only [Host.answer, Host.save, Host.kind?_withTree kept]
  have same : (h.withTree v).workingDirectory = h.workingDirectory := rfl
  rw [same]
  cases path.fileToWrite h.kind? h.workingDirectory with
  | ok place => rfl
  | error e => rfl

/-- What reading a range comes to. Where the words could be read, they are printed or saved; else it
fails and only the search for the card has changed something. -/
theorem run_readRegisters (card : CardArguments) (address count : Nat) (h : Host) :
    (∃ words v, words.length = count ∧ (address / 4 + count) * 4 < addressSpace ∧
      Holds card address words h ∧ Kept h.tree v ∧ ∀ file,
        Console.run Host.answer (Command.readRegisters card address count file).run h =
        match file with
        | none => (.ok (), (h.withTree v).printing
            (words.mapIdx fun k word => registerLine (address + 4 * k) word))
        | some path => match path.fileToWrite h.kind? h.workingDirectory with
          | .ok place => (.ok (), ((h.withTree v).put place (LittleEndian.ofWords words)).printing
              ["Wrote " ++ toString count ++ " register(s) to " ++ path.text])
          | .error e => (.error ⟨"Cannot write " ++ path.text, some e.message⟩, h.withTree v)) ∨
    ∃ failure v, Kept h.tree v ∧ ∀ file,
      Console.run Host.answer (Command.readRegisters card address count file).run h =
        (.error failure, h.withTree v) := by
  obtain ⟨aligned, fits, ranged⟩ | ⟨failure, refused⟩ := ofAddress_cases address count
  case inr =>
    refine .inr ⟨failure, h.tree, .refl _, fun file => ?_⟩
    rw [Command.run, readRegisters, Console.run_bind, Console.run_ofExcept, refused]
    rfl
  have checked : Console.run Host.answer (Console.ofExcept (IndexRange.ofAddress address count)) h =
      (.ok ⟨address / 4, count⟩, h) := by rw [Console.run_ofExcept, ranged]
  have opens := run_openCard card 0 h
  rcases opened : Sysfs.run (MappedCard.ofSettings (card.settings 0)) h.tree with ⟨e | m, v⟩
  · rw [opened] at opens
    have kept := Sysfs.kept_of_opened (.refl _) opened
    refine .inr ⟨⟨card.cannotOpen, some e.message⟩, v, kept, fun file => ?_⟩
    rw [Command.run, readRegisters, Console.run_bind_of_ok _ checked]
    exact Console.run_bind_of_error _ opens _
  rw [opened] at opens
  have kept := Sysfs.kept_of_opened (.refl _) opened
  obtain ⟨words, reads, length, each⟩ | ⟨failure, reads⟩ :=
    run_access_readWords m (address / 4) count (h.withTree v)
  case inr =>
    refine .inr ⟨failure, v, kept, fun file => ?_⟩
    rw [Command.run, readRegisters, Console.run_bind_of_ok _ checked,
      Console.run_bind_of_ok _ opens]
    exact Console.run_bind_of_error _ reads _
  refine .inl ⟨words, v, length, fits, ⟨aligned, m, v, opened, each⟩, kept, fun file => ?_⟩
  rw [Command.run, readRegisters, Console.run_bind_of_ok _ checked, Console.run_bind_of_ok _ opens,
    Console.run_bind_of_ok _ reads]
  cases file with
  | none =>
    have place (k : Nat) : (address / 4 + k) * 4 = address + 4 * k := by omega
    rw [run_printWords]
    simp only [place]
  | some path =>
    simp only
    rw [Console.run_bind_of_ok _ (Console.run_save ..), answer_save kept]
    cases path.fileToWrite h.kind? h.workingDirectory with
    | ok place => rfl
    | error e => rfl

end Reads

/-! ### A range and its registers -/

/-- Outside of the tree a file is saved beside the others. -/
theorem Host.put_outside {h : Host} {place : Place} (outside : h.treePlace.isPrefixOf? place = none)
    (content : ByteArray) :
    h.put place content = { h with saved := setNamed place content h.saved } := by
  unfold put
  rw [outside]
  cases h.tree.directory with
  | none => rfl
  | some d => rfl

section Ranges

variable {card : CardArguments} {address : Nat} {words : List UInt32} {h : Host}

/-- A register that holds a word prints it, alone and however often it is read. -/
theorem Holds.prints (holds : Holds card address words h) {g : Host} (kept : Kept h.tree g.tree)
    {k : Nat} (inside : k < words.length) :
    Prints (.readRegister card (address + 4 * k)) g [Text.hexWord words[k]] ∧
      Kept h.tree ((Command.readRegister card (address + 4 * k)).outcome g).2.tree := by
  obtain ⟨v, left, ran⟩ := (holds.of_kept kept).run kept inside
  refine ⟨prints_of_run ran rfl, ?_⟩
  rw [outcome_of_run ran]
  exact left

/-- What a command makes of the words of a range: it prints a line for each, or saves their bytes
under a path and prints that. -/
def Delivers (c : Command) (address : Nat) (words : List UInt32) (h : Host) : Option Path → Prop
  | none => (c.outcome h).2.saved = h.saved ∧
      Prints c h (words.mapIdx fun k word => registerLine (address + 4 * k) word)
  | some path => ∃ place content, path.fileToWrite h.kind? h.workingDirectory = .ok place ∧
      (c.outcome h).2.saved = setNamed place content h.saved ∧ content.size = 4 * words.length ∧
      (∀ k (inside : k < words.length), LittleEndian.wordAt? content (4 * k) = some words[k]) ∧
      Prints c h ["Wrote " ++ toString words.length ++ " register(s) to " ++ path.text]

/-- Reading a range fails, or delivers the words that its registers hold. -/
theorem readRegisters_delivers (card : CardArguments) (address count : Nat) {file : Option Path}
    (outside : ∀ path ∈ file, ∀ place,
      path.fileToWrite h.kind? h.workingDirectory = .ok place →
      h.treePlace.isPrefixOf? place = none) :
    let range := Command.readRegisters card address count file
    Fails range h ∨ ∃ words : List UInt32, words.length = count ∧
      (address / 4 + count) * 4 < addressSpace ∧ Holds card address words h ∧
      (range.outcome h).1.exitCode = 0 ∧ Kept h.tree (range.outcome h).2.tree ∧
      Delivers range address words h file := by
  intro range
  obtain ⟨words, v, rfl, fits, holds, kept, ran⟩ | ⟨failure, v, kept, ran⟩ :=
    run_readRegisters card address count h
  case inr => exact .inl (fails_of_run kept (ran file))
  have ran := ran file
  cases file with
  | none =>
    have prints : Prints range h _ := prints_of_run ran rfl
    refine .inr ⟨words, rfl, fits, holds, prints.exit, ?_, ?_, prints⟩
    · rw [outcome_of_run ran]
      exact kept
    · rw [outcome_of_run ran]
      rfl
  | some path =>
    cases target : path.fileToWrite h.kind? h.workingDirectory with
    | error e =>
      simp only [target] at ran
      exact .inl (fails_of_run kept ran)
    | ok place =>
      have beside : (h.withTree v).treePlace.isPrefixOf? place = none :=
        outside path rfl place target
      simp only [target, Host.put_outside beside] at ran
      have prints : Prints range h _ := prints_of_run ran rfl
      refine .inr ⟨words, rfl, fits, holds, prints.exit, ?_, place, LittleEndian.ofWords words,
        target, ?_, LittleEndian.size_ofWords words,
        fun k inside => LittleEndian.wordAt?_ofWords inside, prints⟩
      · rw [outcome_of_run ran]
        exact kept
      · rw [outcome_of_run ran]
        rfl

/-- **A range of registers is its registers one by one.** If reading a range succeeds, there is one
word for each register, and it is what reading the register alone prints, before the range was read
or after, and however often. The range is printed as one line for each register, with texts that
denote its address and its word; or the bytes of the words, the lowest first, are all that a file
gets. Else the command fails, and has printed nothing and saved nothing; so it does if the address
is no multiple of four, if the range goes beyond the address space, and if any of its registers
cannot be read alone. -/
theorem registers_in_range (card : CardArguments) (address count : Nat) (file : Option Path)
    (h : Host) (outside : ∀ path ∈ file, ∀ place,
      path.fileToWrite h.kind? h.workingDirectory = .ok place →
      h.treePlace.isPrefixOf? place = none) :
    let range := Command.readRegisters card address count file
    let single (k : Nat) := Command.readRegister card (address + 4 * k)
    (∀ arguments c g, parse arguments = .ok (.command c) → run arguments g = c.outcome g) ∧
    Kept h.tree (range.outcome h).2.tree ∧
    ((range.outcome h).1.exitCode = 0 → ∃ words : List UInt32, words.length = count ∧
      (∀ k (inside : k < words.length),
        Denotes ("0x" ++ Text.hexPadded 8 (address + 4 * k)).toList (address + 4 * k) ∧
        Denotes (Text.hexWord words[k]).toList words[k].toNat ∧
        ∀ g : Host, Kept h.tree g.tree →
          Prints (single k) g [Text.hexWord words[k]] ∧
          Kept h.tree ((single k).outcome g).2.tree) ∧
      Delivers range address words h file) ∧
    ((range.outcome h).1.exitCode ≠ 0 → Fails range h) ∧
    (address % 4 ≠ 0 ∨ addressSpace ≤ (address / 4 + count) * 4 ∨
      (∃ k < count, ∃ g : Host, Kept h.tree g.tree ∧ ((single k).outcome g).1.exitCode ≠ 0) →
      Fails range h) := by
  intro range single
  refine ⟨fun arguments c g parsed => run_of_parse parsed g, ?_⟩
  obtain fails | ⟨words, length, fits, holds, success, kept, delivers⟩ :=
    readRegisters_delivers card address count outside
  · refine ⟨fails.tree, fun success => ?_, fun _ => fails, fun _ => fails⟩
    rw [fails.exit] at success
    cases success
  · have alone (k : Nat) (inside : k < words.length) (g : Host) (again : Kept h.tree g.tree) :=
      holds.prints again inside
    have told (k : Nat) (inside : k < words.length) :=
      And.intro (denotes_hexPadded 8 (address + 4 * k))
        (And.intro (denotes_hexWord words[k]) (alone k inside))
    refine ⟨kept, fun _ => ⟨words, length, told, delivers⟩,
      fun failed => absurd success failed, ?_⟩
    rintro (misaligned | beyond | ⟨k, inside, g, again, failed⟩)
    · exact absurd holds.1 misaligned
    · omega
    · exact absurd (alone k (by omega) g again).1.exit failed

end Ranges

/-- A host with one C-RORC. -/
def flashHost : Host where
  workingDirectory := []
  treePlace := ["sys"]
  tree := ⟨"/sys", some (.ofList [Sysfs.erasedCrorc (Fin.last 9)])⟩
  saved := []
  printed := []

/-- Dumps the registers of the flash controller, of which the first holds the last command of the
search. -/
def dumpFlash : Command :=
  .readRegisters ⟨.address Sysfs.sharedAddress, none⟩ 0xa0 3 (some ⟨"/dump"⟩)

theorem flash_registers_in_range : (dumpFlash.outcome flashHost).1.exitCode = 0 ∧
    ∃ words : List UInt32, words.length = 3 ∧
      (∀ k (inside : k < words.length),
        Denotes ("0x" ++ Text.hexPadded 8 (0xa0 + 4 * k)).toList (0xa0 + 4 * k) ∧
        Denotes (Text.hexWord words[k]).toList words[k].toNat ∧
        ∀ g : Host, Kept flashHost.tree g.tree →
          let single := Command.readRegister ⟨.address Sysfs.sharedAddress, none⟩ (0xa0 + 4 * k)
          Prints single g [Text.hexWord words[k]] ∧
          Kept flashHost.tree (single.outcome g).2.tree) ∧
      Delivers dumpFlash 0xa0 words flashHost (some ⟨"/dump"⟩) := by
  have success : (dumpFlash.outcome flashHost).1.exitCode = 0 := by decide +kernel
  have target : (Path.mk "/dump").fileToWrite flashHost.kind? flashHost.workingDirectory =
      .ok ["dump"] := by decide +kernel
  obtain ⟨-, -, delivers, -⟩ := registers_in_range ⟨.address Sysfs.sharedAddress, none⟩ 0xa0 3
    (some ⟨"/dump"⟩) flashHost (by
      intro path mem place found
      obtain rfl := Option.some.inj mem
      obtain rfl := Except.ok.inj (target.symm.trans found)
      decide +kernel)
  exact ⟨success, delivers success⟩

end CommandLine

end ReadoutCard
