import ReadoutCard.Proofs.CommandLine.Arguments
import ReadoutCard.Proofs.CommandLine.Writes

/-!
# Numbers on the command line

A text is read as the number that it denotes, if 32 bits hold it
(`parseNumber_eq_ok_iff`). A register that was read can therefore be written with
the text that was printed: the arguments that ask for it, with that text as the
value, ask for the write of the same word (`parse_writeRegister`).
-/

namespace ReadoutCard.CommandLine

open OptionName (parseNumber)
open Text (SameLetters hexWord)
open Text.Numeral

/-! ### Reading numbers -/

theorem parseNumber_eq (text : String) : parseNumber text =
    (natural (unmarked text.toList).1 (unsignedLimit 32) (unmarked text.toList).2).mapError
      fun cause => "invalid number " ++ Text.Quoted.quote text ++ ": " ++ cause.message := by
  unfold parseNumber
  generalize text.toList = characters
  split
  case h_1 digits =>
    rw [unmarked]
    cases natural 16 (unsignedLimit 32) digits <;> rfl
  case h_2 digits =>
    rw [unmarked]
    cases natural 16 (unsignedLimit 32) digits <;> rfl
  case h_3 no_mark no_other =>
    rw [unmarked]
    · cases natural 10 (unsignedLimit 32) characters <;> rfl
    · exact no_mark
    · exact no_other

/-- A text is read as the number of 32 bits that it denotes. -/
theorem parseNumber_eq_ok_iff (text : String) (n : Nat) :
    parseNumber text = .ok n ↔ Denotes text.toList n ∧ n ≤ unsignedLimit 32 := by
  obtain ⟨form, known, -, radix⟩ := exists_form text.toList
  have positive : ∀ form ∈ numberForms, 0 < form.radix := by decide
  rw [parseNumber_eq, except_mapError_eq_ok,
    natural_eq_ok_iff (radix ▸ positive form known), denotes_iff]
  constructor
  · rintro ⟨digits, written, nonempty, digit, same, fits⟩
    exact ⟨⟨digits, written, nonempty, digit, same⟩, fits⟩
  · rintro ⟨⟨digits, written, nonempty, digit, same⟩, fits⟩
    exact ⟨digits, written, nonempty, digit, same, fits⟩

/-- Any other text is refused, with the text in quotes and the cause. -/
theorem parseNumber_eq_error {text : String}
    (other : ∀ n ≤ unsignedLimit 32, ¬ Denotes text.toList n) :
    ∃ cause : Text.NumeralError, parseNumber text =
      .error ("invalid number " ++ Text.Quoted.quote text ++ ": " ++ cause.message) := by
  cases read : parseNumber text with
  | ok n =>
    obtain ⟨denotes, fits⟩ := (parseNumber_eq_ok_iff text n).1 read
    exact absurd denotes (other n fits)
  | error message =>
    rw [parseNumber_eq] at read
    obtain ⟨cause, -, rfl⟩ := except_mapError_eq_error.1 read
    exact ⟨cause, rfl⟩

/-- The value of a register is read as the word that the text denotes. -/
theorem read_value_eq_ok_iff (text : String) (word : UInt32) :
    OptionName.value.read text = .ok word ↔ Denotes text.toList word.toNat := by
  have small : word.toNat ≤ unsignedLimit 32 := Nat.le_of_lt_succ word.toNat_lt
  show ((parseNumber text).map UInt32.ofNat).mapError _ = .ok word ↔ _
  rw [except_mapError_eq_ok, except_map_eq_ok]
  constructor
  · rintro ⟨n, read, rfl⟩
    obtain ⟨denotes, fits⟩ := (parseNumber_eq_ok_iff text n).1 read
    rwa [UInt32.toNat_ofNat_of_lt' (Nat.lt_of_le_of_lt fits (by decide))]
  · intro denotes
    exact ⟨word.toNat, (parseNumber_eq_ok_iff text _).2 ⟨denotes, small⟩, UInt32.ofNat_toNat⟩

/-! ### Registers read and written again -/

section Registers

variable {card : CardArguments} {address : Nat} {word : UInt32} {arguments : List String} {h : Host}

/-- The register at a byte address holds the word in the file of the window. -/
def HoldsWord (t : DeviceTree) (w : Sysfs.Resource) (address : Nat) (word : UInt32) : Prop :=
  ∃ content, t.file? w.device (Sysfs.resourceName w.bar) = some (.file content) ∧
    LittleEndian.wordAt? content address = some word

/-- The ways to give a word as the value of an option. -/
def givenValue (text : String) : List (List String) := [["--value", text], ["--value=" ++ text]]

/-- What is given when a written register is not to be read again. -/
def givenReadBack (readBack : Bool) : List String := if readBack then [] else ["--no-read"]

/-- The flags of a write that reading a register does not have. -/
def flagsOfReadBack (readBack : Bool) : List Flag := if readBack then [] else [.noRead]

/-- Everything that reading a register may be given, writing may be given too. -/
theorem widens_write (readBack : Bool) :
    Scan.Widens .readRegister .writeRegister .value (flagsOfReadBack readBack) where
  options := by decide
  flags := by decide
  newOption := by decide
  newFlags := by
    cases readBack <;> decide

/-- A scan that asks for a read asks for a write if it has a word besides. -/
theorem Scan.Fits.command_write {s : Scan} (fits : s.Fits .readRegister)
    (asked : s.command .readRegister = .ok (.readRegister card address)) (word : UInt32)
    (readBack : Bool) : (s.adding .value word (flagsOfReadBack readBack)).command .writeRegister =
      .ok (.writeRegister card address word readBack) := by
  obtain ⟨card, carded, asked⟩ := except_bind_eq_ok.1 asked
  obtain ⟨address, addressed, asked⟩ := except_bind_eq_ok.1 asked
  cases asked
  generalize same : s.adding .value word (flagsOfReadBack readBack) = s'
  have carded : s'.card = .ok card := same ▸ (card_adding (by decide) (by decide)).trans carded
  have addressed : s'.required .address = .ok address :=
    same ▸ (required_adding_of_ne (by decide)).trans addressed
  have valued : s'.required .value = .ok word := same ▸ required_adding_self
  have quiet : Flag.noRead ∉ s.flags := fun given => absurd (fits.flags given) (by decide)
  have raised : s'.flags = s.flags ++ flagsOfReadBack readBack := same ▸ rfl
  have flags : decide (.noRead ∉ s'.flags) = readBack := by
    rw [raised]
    cases readBack <;> simp [flagsOfReadBack, quiet]
  simp only [Scan.command, carded, addressed, valued, bind, Except.bind, pure, Except.pure, flags]

theorem words_givenValue {given : List String} (value : given ∈ givenValue (hexWord word))
    (rest : List String) : Scan.empty.words .writeRegister (given ++ rest) =
      (Scan.empty.adding .value word []).words .writeRegister rest := by
  have read := (read_value_eq_ok_iff (hexWord word) word).2 (denotes_hexWord word)
  simp only [givenValue, List.mem_cons, List.not_mem_nil, or_false] at value
  rcases value with rfl | rfl
  · exact Scan.words_apart rfl rfl (by decide) read (dash_notMem_hexWord word) rest
  · exact Scan.words_together rfl rfl (by decide) read rest

theorem words_givenReadBack (readBack : Bool) (rest : List String) :
    (Scan.empty.adding .value word []).words .writeRegister (givenReadBack readBack ++ rest) =
      (Scan.empty.adding .value word (flagsOfReadBack readBack)).words .writeRegister rest := by
  cases readBack with
  | true => rfl
  | false =>
    have new : Flag.noRead ∉ (Scan.empty.adding .value word []).flags := List.not_mem_nil
    exact Scan.words_flag rfl (by decide) new rest

/-- The arguments that ask for a register ask for the write of a word to it, if that word is given
as the value. -/
theorem parse_writeRegister
    (parsed : parse ("reg-read" :: arguments) = .ok (.command (.readRegister card address)))
    {given : List String} (value : given ∈ givenValue (hexWord word)) (readBack : Bool) :
    parse ("reg-write" :: given ++ givenReadBack readBack ++ arguments) =
      .ok (.command (.writeRegister card address word readBack)) := by
  obtain ⟨s, scanned, asked⟩ := (parse_command_eq_ok_iff (c := .readRegister)).1 parsed
  have carries : Scan.Carries .readRegister .value word (flagsOfReadBack readBack) _ _ :=
    (widens_write readBack).carries_words arguments
  have nothing : Scan.empty.Fits .readRegister := ⟨nofun, List.nil_subset _⟩
  obtain ⟨carried, fits⟩ := carries _ s nothing scanned
  refine (parse_command_eq_ok_iff (c := .writeRegister)).2
    ⟨_, ?_, fits.command_write asked word readBack⟩
  show Scan.empty.words .writeRegister (given ++ givenReadBack readBack ++ arguments) = _
  rw [List.append_assoc, words_givenValue value, words_givenReadBack, carried]

/-- Reading a register that succeeds has opened the card and found a word, which it printed. -/
theorem run_readRegister_eq_ok {after : Host} (ran : Console.run Host.answer
    (Command.readRegister card address).run h = (.ok (), after)) :
    address % 4 = 0 ∧ ∃ m v word,
      Sysfs.run (MappedCard.ofSettings (card.settings 0)) h.tree = (.ok m, v) ∧
      Sysfs.read v m.mapping.window (address / 4) = .ok word ∧
      after = (h.withTree v).printing [hexWord word] := by
  have aligned : address % 4 = 0 := by
    by_contra misaligned
    rw [Command.run, readRegister, alignedIndex, if_neg misaligned] at ran
    cases ran
  rw [Command.run, readRegister, Console.run_bind_of_ok _ (run_alignedIndex aligned h)] at ran
  obtain ⟨m, s, opened, ran⟩ := (Console.run_bind_eq_ok _).1 ran
  obtain ⟨word, u, shown, ran⟩ := (Console.run_bind_eq_ok _).1 ran
  rw [run_openCard] at opened
  rcases found : Sysfs.run (MappedCard.ofSettings (card.settings 0)) h.tree with ⟨e | m', v⟩
  · rw [found] at opened
    cases opened
  rw [found] at opened
  cases opened
  rw [Console.run_access_host, Binding.read_eq, Window.run_read] at shown
  have shown : ((Sysfs.read v m.mapping.window (address / 4)).mapError Failure.ofError,
    h.withTree v) = (.ok word, u) := shown
  obtain ⟨read, rfl⟩ := Prod.mk.inj shown
  cases ran
  exact ⟨aligned, m, v, word, rfl, except_mapError_eq_ok.1 read, rfl⟩

/-- A register that is read was reached, and what is printed is the word that it holds. -/
theorem exists_word_of_read
    (exit : ((Command.readRegister card address).outcome h).1.exitCode = 0) :
    let after := ((Command.readRegister card address).outcome h).2
    ∃ word w, Prints (.readRegister card address) h [hexWord word] ∧ Sysfs.Kept h.tree after.tree ∧
      Reaches card address h.tree w ∧ HoldsWord after.tree w address word := by
  intro after
  obtain ⟨left, ran⟩ := exists_run_of_exit exit
  obtain ⟨aligned, m, v, word, opened, read, rfl⟩ := run_readRegister_eq_ok ran
  obtain ⟨content, file, fits, inside, held⟩ := Sysfs.exists_content_of_read read
  rw [Nat.div_mul_cancel (Nat.dvd_of_mod_eq_zero aligned)] at fits inside held
  have tree : after.tree = v := congrArg (fun outcome => outcome.2.tree) (outcome_of_run ran)
  rw [tree]
  exact ⟨word, _, prints_of_run ran rfl, Sysfs.kept_of_opened (.refl _) opened,
    reaches_of_opened aligned opened file ⟨fits, inside⟩, content, file, held⟩

/-- A register that is reached holds the word once it is written. -/
theorem Reaches.holdsWord {w : Sysfs.Resource} (reaches : Reaches card address h.tree w)
    (word : UInt32) (readBack : Bool) :
    HoldsWord ((Command.writeRegister card address word readBack).outcome h).2.tree w address
      word := by
  obtain ⟨-, -, v, kept, left⟩ := reaches.outcome word readBack
  rw [left]
  exact (reaches.writes kept word).2.2

/-- A write that succeeds has reached its register. -/
theorem exists_reaches_of_write {readBack : Bool}
    (exit : ((Command.writeRegister card address word readBack).outcome h).1.exitCode = 0) :
    ∃ w, Reaches card address h.tree w := by
  by_contra no
  have fails := (fails_of_not_reaches (not_exists.1 no) word readBack).1
  rw [fails.exit] at exit
  cases exit

theorem Prints.line {c : Command} {line : String} (prints : Prints c h [line]) :
    (c.outcome h).1.output = h.output ++ line ++ "\n" := by
  rw [prints.output, String.append_assoc]
  simp

/-- The arguments ask to write the word, and a run of them that succeeds leaves it in the register
that it reached, and prints it or that it is done. -/
structure WritesWord (arguments : List String) (card : CardArguments) (address : Nat)
    (word : UInt32) (readBack : Bool) : Prop where
  asks : parse arguments = .ok (.command (.writeRegister card address word readBack))
  leaves : ∀ h, (run arguments h).1.exitCode = 0 → ∃ w, Reaches card address h.tree w ∧
    HoldsWord (run arguments h).2.tree w address word ∧ (run arguments h).1.output =
      h.output ++ (if readBack then hexWord word else "Done!") ++ "\n"

theorem writesWord_of_parse {readBack : Bool}
    (parsed : parse arguments = .ok (.command (.writeRegister card address word readBack))) :
    WritesWord arguments card address word readBack where
  asks := parsed
  leaves h exit := by
    rw [run_of_parse parsed] at exit ⊢
    obtain ⟨w, reaches⟩ := exists_reaches_of_write exit
    exact ⟨w, reaches, reaches.holdsWord word readBack, (reaches.outcome word readBack).1.line⟩

end Registers

/-- **Numbers are read back as they are written.** The hexadecimal digits of a number of 32 bits in
any case, after `0x` or `0X`, and its decimal digits are read as that number, after any zeros. A
text is read as a number exactly if it denotes it and the number has 32 bits; any other is refused.
So a register that was read can be written with the text that was printed: the same arguments with
this text as the value ask to write the word that was read, and a write that succeeds leaves it in
the register. If the card is named by its address, the write succeeds after the read, and the
register holds what it held. -/
theorem numbers_read_back :
    (∀ (n : UInt32) (zeros : Nat),
      (∀ mark ∈ ["0x", "0X"], ∀ digits, SameLetters digits (Nat.toDigits 16 n.toNat) →
        parseNumber (mark ++ String.ofList (List.replicate zeros '0' ++ digits)) = .ok n.toNat) ∧
      parseNumber (String.ofList (List.replicate zeros '0' ++ Nat.toDigits 10 n.toNat)) =
        .ok n.toNat) ∧
    (∀ text : String,
      (∀ n, parseNumber text = .ok n ↔ Denotes text.toList n ∧ n ≤ 2 ^ 32 - 1) ∧
      ((∀ n ≤ 2 ^ 32 - 1, ¬ Denotes text.toList n) → ∃ cause : Text.NumeralError,
        parseNumber text =
          .error ("invalid number " ++ Text.Quoted.quote text ++ ": " ++ cause.message))) ∧
    ∀ (arguments : List String) (card : CardArguments) (address : Nat) (h : Host),
      let read := "reg-read" :: arguments
      parse read = .ok (.command (.readRegister card address)) →
      (run read h).1.exitCode = 0 →
      ∃ word w, (run read h).1.output = h.output ++ hexWord word ++ "\n" ∧
        Reaches card address h.tree w ∧ HoldsWord (run read h).2.tree w address word ∧
        ∀ readBack, ∀ given ∈ givenValue (hexWord word),
          let write := "reg-write" :: given ++ givenReadBack readBack ++ arguments
          WritesWord write card address word readBack ∧
          ∀ place, card.id = .address place → (run write (run read h).2).1.exitCode = 0 ∧
            HoldsWord (run write (run read h).2).2.tree w address word := by
  have ofForm (form : NumberForm) (known : form ∈ numberForms) (n : UInt32) (zeros : Nat)
      (digits : List Char) (same : SameLetters digits (Nat.toDigits form.radix n.toNat)) :
      parseNumber (form.mark ++ String.ofList (List.replicate zeros '0' ++ digits)) =
        .ok n.toNat :=
    (parseNumber_eq_ok_iff _ _).2
      ⟨denotes_digits known n.toNat zeros same, Nat.le_of_lt_succ n.toNat_lt⟩
  refine ⟨fun n zeros => ⟨?_, ?_⟩,
    fun text => ⟨parseNumber_eq_ok_iff text, parseNumber_eq_error⟩, ?_⟩
  · simp only [List.forall_mem_cons, List.not_mem_nil, IsEmpty.forall_iff, implies_true, and_true]
    exact ⟨ofForm _ (.head _) n zeros, ofForm _ (.tail _ (.head _)) n zeros⟩
  · exact ofForm _ (.tail _ (.tail _ (.head _))) n zeros _ (Text.sameLetters_refl _)
  · intro arguments card address h read parsed exit
    rw [run_of_parse parsed] at exit ⊢
    obtain ⟨word, w, prints, kept, reaches, held⟩ := exists_word_of_read exit
    refine ⟨word, w, prints.line, reaches, held, fun readBack given value => ?_⟩
    have asks := parse_writeRegister parsed value readBack
    refine ⟨writesWord_of_parse asks, fun place named => ?_⟩
    have again := reaches.of_sameBut named kept.sameBut (Sysfs.sparesAttributes_flashByte h.tree)
    rw [run_of_parse asks]
    exact ⟨(again.outcome word readBack).1.exit, again.holdsWord word readBack⟩

example : parseNumber "0X+00ffFFffFF" = .ok 4294967295 ∧
    (parseNumber "4294967296").toOption = none ∧ (parseNumber " 7").toOption = none ∧
    (parseNumber "0x").toOption = none := by
  decide +kernel

example :
    let card := ["--id", Sysfs.sharedAddress.text, "--address=0xa4"]
    let read := run ("reg-read" :: card) flashHost
    read.1 = ⟨0, "0x0000ffff\n", ""⟩ ∧
    (run ("reg-write" :: "--value" :: "0x0000ffff" :: card) read.2).1 =
      ⟨0, "0x0000ffff\n0x0000ffff\n", ""⟩ := by
  decide +kernel

end ReadoutCard.CommandLine
