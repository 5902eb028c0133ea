import ReadoutCard.Proofs.CommandLine.Registers
import ReadoutCard.Proofs.Inventory.Hits

/-!
# Writing a register

A register is written only if everything that the command goes through is
right: the address, the channel, the card, the BAR and the room in its file.
`Reaches` names these conditions. If they hold, the command writes, and what it
reads back is what it wrote (`Reaches.run_writeRegister`); else it ends before
anything is written (`run_writeRegister_of_not_reaches`). A card that is named
by its address is found again after the write (`Reaches.of_sameBut`), so its
register holds the word for the commands that follow (`Reaches.holds`).
-/

namespace ReadoutCard.CommandLine

open Sysfs (Kept Resource SameBut FlashByte WordByte SparesAttributes resourceName)

/-- The register at a byte address is reached through the window `w`: a BAR of the card that is
found, in whose file there is room for the register. -/
structure Reaches (card : CardArguments) (address : Nat) (t : DeviceTree) (w : Resource) :
    Prop where
  aligned : address % 4 = 0
  fits : address < Mapped.addressSpace
  channel : card.channel.getD 0 = w.bar
  small : w.bar < maxBars
  found : ∃ found, Pci.result Sysfs.answer (Inventory.locate card.id) t = .ok found ∧
    found.device = w.device
  room : ∃ content, t.file? w.device (resourceName w.bar) = some (.file content) ∧
    address + 4 ≤ content.size

section Conditions

variable {card : CardArguments} {address : Nat} {t t' v : DeviceTree} {w : Resource}

/-- The byte address of the register's index. -/
theorem Reaches.place (reaches : Reaches card address t w) : address / 4 * 4 = address :=
  Nat.div_mul_cancel (Nat.dvd_of_mod_eq_zero reaches.aligned)

/-- The card can be opened, and its window is the one reached. -/
theorem Reaches.opens (reaches : Reaches card address t w) :
    ∃ m v, Sysfs.run (MappedCard.ofSettings (card.settings 0)) t = (.ok m, v) ∧ Kept t v ∧
      m.mapping.window = w := by
  obtain ⟨found, located, device⟩ := reaches.found
  obtain ⟨content, file, room⟩ := reaches.room
  have kept : Kept t (Sysfs.run (Inventory.locate card.id) t).2 :=
    (Inventory.gives_search (Sysfs.describes t) (.locate card.id) t (.refl t)).2
  have mapped : Sysfs.map t found.device w.bar = .ok ⟨⟨found.device, w.bar⟩, w.bar⟩ := by
    refine Sysfs.map_eq_ok.2 ⟨reaches.small, rfl, content, ?_, by omega⟩
    rw [device]
    exact file
  refine ⟨⟨found.card, ⟨⟨found.device, w.bar⟩, w.bar⟩⟩, _, ?_, kept, ?_⟩
  · refine Sysfs.run_ofCard_eq_ok.2 ⟨found, w.bar, reaches.channel, Prod.ext located rfl, ?_, rfl⟩
    rw [kept.map]
    exact mapped
  · rw [device]

/-- Whoever opens the card and finds room in the file has reached the register. -/
theorem reaches_of_opened {m : MappedCard Resource} (aligned : address % 4 = 0)
    (opened : Sysfs.run (MappedCard.ofSettings (card.settings 0)) t = (.ok m, v))
    {content : ByteArray} (file : v.file? m.mapping.window.device
      (resourceName m.mapping.window.bar) = some (.file content))
    (inside : address < Mapped.addressSpace ∧ address + 4 ≤ content.size) :
    Reaches card address t m.mapping.window := by
  have kept := Sysfs.kept_of_opened (.refl t) opened
  obtain ⟨found, bar, channel, located, mapped, -⟩ := Sysfs.run_ofCard_eq_ok.1 opened
  obtain ⟨small, shown, -⟩ := Sysfs.map_eq_ok.1 mapped
  obtain ⟨before, file, size⟩ := kept.sameBut.symm.exists_content file
  rw [shown] at file ⊢
  exact {
    aligned := aligned
    fits := inside.1
    channel := channel
    small := small
    found := ⟨found, congrArg Prod.fst located, rfl⟩
    room := ⟨before, file, by omega⟩ }

/-- The word is written in every tree that was kept, and is then the one that is read. -/
theorem Reaches.writes (reaches : Reaches card address t w) (kept : Kept t v) (value : UInt32) :
    (Sysfs.write v w (address / 4) value).1 = .ok () ∧
      Sysfs.read (Sysfs.write v w (address / 4) value).2 w (address / 4) = .ok value ∧
      ∃ content, (Sysfs.write v w (address / 4) value).2.file? w.device (resourceName w.bar) =
        some (.file content) ∧ LittleEndian.wordAt? content address = some value := by
  have place := reaches.place
  have fits : address / 4 * 4 < Mapped.addressSpace := by
    rw [place]
    exact reaches.fits
  obtain ⟨before, file, room⟩ := reaches.room
  obtain ⟨content, file, size⟩ := kept.sameBut.exists_content file
  have room : address / 4 * 4 + 4 ≤ content.size := by rwa [place, size]
  obtain ⟨written, left⟩ := Sysfs.write_of_inside file room fits value
  have word := LittleEndian.wordAt?_setWordAt_self room value
  rw [← LittleEndian.size_setWordAt content _ value] at room
  refine ⟨written, ?_, _, left, ?_⟩
  · rw [Sysfs.read, left]
    exact Mapped.read_of_inside room fits word
  · rwa [place] at word ⊢

/-- A card that is named by its address is found where it was found if only registers differ. -/
theorem Reaches.of_sameBut (reaches : Reaches card address t w) {place : PciAddress}
    (named : card.id = .address place) {may : FileName → String → Nat → Prop}
    (same : SameBut may t t') (spares : SparesAttributes may) : Reaches card address t' w := by
  obtain ⟨content, file, room⟩ := reaches.room
  obtain ⟨content', file', size⟩ := same.exists_content file
  refine { reaches with found := ?_, room := ⟨content', file', by omega⟩ }
  obtain ⟨found, located, device⟩ := reaches.found
  have search (t : DeviceTree) : Pci.result Sysfs.answer (Inventory.locate card.id) t =
      (Search.locate card.id).outcome (Sysfs.layer t) :=
    (Inventory.gives_search (Sysfs.describes t) (.locate card.id) t (.refl t)).1
  rw [search, named] at located
  have devices : (Sysfs.layer t').devices = (Sysfs.layer t).devices :=
    funext fun id => same.devices spares id
  have numaNode : (Sysfs.layer t').numaNode = (Sysfs.layer t).numaNode :=
    funext fun device => same.numaNode spares device
  have again := Layer.locate_device_congr devices rfl numaNode place
  rw [located] at again
  cases outcome : (Search.locate (.address place)).outcome (Sysfs.layer t') with
  | error e =>
    rw [outcome] at again
    cases again
  | ok found' =>
    rw [outcome] at again
    have same_device : found'.device = found.device := Except.ok.inj again
    rw [search, named]
    exact ⟨found', outcome, same_device.trans device⟩

end Conditions

section Runs

variable {card : CardArguments} {address : Nat} {w : Resource} {h : Host}

/-- A register of a mapped card is written as it is in the tree. -/
theorem run_access_write {m : MappedCard Resource} {index : Nat} {value : UInt32}
    {r : Except Error Unit} {t : DeviceTree}
    (written : Sysfs.write h.tree m.mapping.window index value = (r, t)) :
    Console.run Host.answer (Console.access m.mapping (m.binding.write index value)) h =
      (r.mapError .ofError, h.withTree t) := by
  rw [Console.run_access_host, Binding.write_eq, Window.run_write]
  simp only [Sysfs.windowOf, written]

/-- The register is written, and holds the word when it is read back. -/
theorem Reaches.run_writeRegister (reaches : Reaches card address h.tree w) (value : UInt32)
    (readBack : Bool) : ∃ v, Kept h.tree v ∧
      Console.run Host.answer (Command.writeRegister card address value readBack).run h =
        (.ok (), (h.withTree (Sysfs.write v w (address / 4) value).2).printing
          [if readBack then Text.hexWord value else "Done!"]) := by
  obtain ⟨m, v, opened, kept, rfl⟩ := reaches.opens
  obtain ⟨written, shown, -⟩ := reaches.writes kept value
  refine ⟨v, kept, ?_⟩
  have writes := run_access_write (h := h.withTree v) (Prod.ext written rfl)
  rw [Command.run, writeRegister, Console.run_bind_of_ok _ (run_alignedIndex reaches.aligned h),
    Console.run_bind_of_ok _ (run_openCard_of_ok opened), Console.run_bind_of_ok _ writes]
  cases readBack with
  | false => rfl
  | true =>
    rw [if_pos rfl, Console.run_bind_of_ok _ (run_access_read shown)]
    rfl

/-- A command that does not reach its register ends before anything is written, and before anything
is searched if the address or the channel is no good. -/
theorem run_writeRegister_of_not_reaches (no : ∀ w, ¬ Reaches card address h.tree w)
    (value : UInt32) (readBack : Bool) : ∃ failure v, Kept h.tree v ∧
      (address % 4 ≠ 0 ∨ card.channel.getD 0 < 0 → v = h.tree) ∧
      Console.run Host.answer (Command.writeRegister card address value readBack).run h =
        (.error failure, h.withTree v) := by
  by_cases aligned : address % 4 = 0
  case neg =>
    obtain ⟨failure, refused⟩ : ∃ failure, alignedIndex address = .error failure :=
      ⟨_, if_neg aligned⟩
    refine ⟨failure, h.tree, .refl _, fun _ => rfl, ?_⟩
    rw [Command.run, writeRegister, Console.run_bind, Console.run_ofExcept, refused]
    rfl
  have checked := run_alignedIndex aligned h
  rcases opened : Sysfs.run (MappedCard.ofSettings (card.settings 0)) h.tree with ⟨e | m, v⟩
  · have opens := run_openCard card 0 h
    rw [opened] at opens
    refine ⟨⟨card.cannotOpen, some e.message⟩, v, Sysfs.kept_of_opened (.refl _) opened, ?_, ?_⟩
    · rintro (misaligned | negative)
      · exact absurd aligned misaligned
      · obtain ⟨e', refused⟩ := Sysfs.run_ofCard_of_neg card.id negative h.tree
        exact congrArg Prod.snd (opened.symm.trans refused)
    · rw [Command.run, writeRegister, Console.run_bind_of_ok _ checked]
      exact Console.run_bind_of_error _ opens _
  · obtain ⟨found, bar, channel, -, mapped, -⟩ := Sysfs.run_ofCard_eq_ok.1 opened
    obtain ⟨-, shown, content, file, -⟩ := Sysfs.map_eq_ok.1 mapped
    have file : v.file? m.mapping.window.device (resourceName m.mapping.window.bar) =
        some (.file content) := by
      rw [shown]
      exact file
    have outside : ¬ (address / 4 * 4 < Mapped.addressSpace ∧
        address / 4 * 4 + 4 ≤ content.size) := by
      rw [Nat.div_mul_cancel (Nat.dvd_of_mod_eq_zero aligned)]
      exact fun inside => no _ (reaches_of_opened aligned opened file inside)
    obtain ⟨e, refused⟩ := Sysfs.write_of_not_inside file outside value
    have writes := run_access_write (h := h.withTree v) refused
    refine ⟨.ofError e, v, Sysfs.kept_of_opened (.refl _) opened, ?_, ?_⟩
    · rintro (misaligned | negative)
      · exact absurd aligned misaligned
      · have named : card.channel.getD 0 = bar := channel
        omega
    · rw [Command.run, writeRegister, Console.run_bind_of_ok _ checked,
        Console.run_bind_of_ok _ (run_openCard_of_ok opened)]
      exact Console.run_bind_of_error _ writes _

end Runs

/-! ### What a write leaves -/

/-- The bytes that a command may change that writes a register: those of the register, and those
that take the commands to the flash. -/
def MayChange (t : DeviceTree) (w : Resource) (address : Nat) (device : FileName) (name : String)
    (i : Nat) : Prop :=
  WordByte w address device name i ∨ FlashByte t device name i

section Left

variable {card : CardArguments} {address : Nat} {t v : DeviceTree} {w : Resource} {value : UInt32}

theorem Reaches.sameBut (reaches : Reaches card address t w) (kept : Kept t v)
    (value : UInt32) : SameBut (MayChange t w address) t (Sysfs.write v w (address / 4) value).2 := by
  have written := Sysfs.sameBut_write v w (address / 4) value
  rw [reaches.place] at written
  exact (kept.sameBut.mono fun _ _ _ => .inr).trans (written.mono fun _ _ _ => .inl)

theorem Reaches.spares (reaches : Reaches card address t w) :
    SparesAttributes (MayChange t w address) := by
  rintro device name mem i (word | flash)
  · exact Sysfs.sparesAttributes_wordByte reaches.small address device name mem i word
  · exact Sysfs.sparesAttributes_flashByte t device name mem i flash

/-- The register of a card that is named by its address holds the word for later commands, unless
it is the one that takes the commands to the flash. -/
theorem Reaches.holds (reaches : Reaches card address t w) (kept : Kept t v) {place : PciAddress}
    (named : card.id = .address place) (plain : ¬ FlashByte t w.device (resourceName w.bar) address)
    {h : Host} (left : h.tree = (Sysfs.write v w (address / 4) value).2) :
    Holds card address [value] h := by
  have same : SameBut (MayChange t w address) t h.tree := left ▸ reaches.sameBut kept value
  have again := reaches.of_sameBut named same reaches.spares
  obtain ⟨m, u, opened, kept', rfl⟩ := again.opens
  obtain ⟨-, shown, -⟩ := reaches.writes kept value
  have quiet : Sysfs.read u m.mapping.window (address / 4) =
      Sysfs.read h.tree m.mapping.window (address / 4) := by
    refine kept'.sameBut.read _ ?_
    rintro i first last ⟨crorc, name, lower, upper⟩
    rw [same.identity? reaches.spares] at crorc
    have aligned := reaches.aligned
    exact plain ⟨crorc, name, by omega, by omega⟩
  refine ⟨reaches.aligned, m, u, opened, fun k inside => ?_⟩
  obtain rfl : k = 0 := by simpa using inside
  exact quiet.trans (left ▸ shown)

end Left

section Outcomes

variable {card : CardArguments} {address : Nat} {w : Resource} {h : Host}

theorem Reaches.outcome (reaches : Reaches card address h.tree w) (value : UInt32)
    (readBack : Bool) :
    let write := Command.writeRegister card address value readBack
    Prints write h [if readBack then Text.hexWord value else "Done!"] ∧
      (write.outcome h).2.saved = h.saved ∧
      ∃ v, Kept h.tree v ∧
        (write.outcome h).2.tree = (Sysfs.write v w (address / 4) value).2 := by
  intro write
  obtain ⟨v, kept, ran⟩ := reaches.run_writeRegister value readBack
  have outcome := outcome_of_run ran
  refine ⟨prints_of_run ran rfl, ?_, v, kept, ?_⟩
  · rw [outcome]
    rfl
  · rw [outcome]
    rfl

theorem fails_of_not_reaches (no : ∀ w, ¬ Reaches card address h.tree w) (value : UInt32)
    (readBack : Bool) :
    let write := Command.writeRegister card address value readBack
    Fails write h ∧
      (address % 4 ≠ 0 ∨ card.channel.getD 0 < 0 → (write.outcome h).2 = h) := by
  intro write
  obtain ⟨failure, v, kept, early, ran⟩ := run_writeRegister_of_not_reaches no value readBack
  refine ⟨fails_of_run kept ran, fun refused => ?_⟩
  rw [outcome_of_failure ran, early refused]
  rfl

/-- **Writing a register.** The command succeeds if and only if everything on the way to its
register is right. Then the four bytes of the register hold the word, a text that denotes the word
is what the command prints if it reads it back, and no other byte of a file has changed but those
that take the commands to the flash of a C-RORC. If the card was named by its address, reading the
register prints the word after that, however many searches come between, unless it is the one that
takes those commands. If the command fails it has printed and saved nothing, and only commands to
the flash have changed something; and if the address is no multiple of four or the channel is
negative, nothing has. -/
theorem register_written (card : CardArguments) (address : Nat) (value : UInt32) (readBack : Bool)
    (h : Host) :
    let write := Command.writeRegister card address value readBack
    let after := (write.outcome h).2
    (∀ arguments c g, parse arguments = .ok (.command c) → run arguments g = c.outcome g) ∧
    Denotes (Text.hexWord value).toList value.toNat ∧
    ((write.outcome h).1.exitCode = 0 ↔ ∃ w, Reaches card address h.tree w) ∧
    (∀ w, Reaches card address h.tree w →
      (∃ content, after.tree.file? w.device (resourceName w.bar) = some (.file content) ∧
        LittleEndian.wordAt? content address = some value) ∧
      Prints write h [if readBack then Text.hexWord value else "Done!"] ∧
      after.saved = h.saved ∧
      SameBut (MayChange h.tree w address) h.tree after.tree ∧
      ∀ place, card.id = .address place →
        ¬ FlashByte h.tree w.device (resourceName w.bar) address →
        ∀ g : Host, Kept after.tree g.tree →
          Prints (.readRegister card address) g [Text.hexWord value]) ∧
    ((write.outcome h).1.exitCode ≠ 0 →
      Fails write h ∧ SameBut (FlashByte h.tree) h.tree after.tree) ∧
    (address % 4 ≠ 0 ∨ card.channel.getD 0 < 0 →
      (write.outcome h).1.exitCode ≠ 0 ∧ after = h) := by
  intro write after
  have success : (write.outcome h).1.exitCode = 0 ↔ ∃ w, Reaches card address h.tree w := by
    constructor
    · intro exit
      by_contra no
      have fails := (fails_of_not_reaches (not_exists.1 no) value readBack).1.exit
      exact absurd (exit.symm.trans fails) (by decide)
    · rintro ⟨w, reaches⟩
      exact (reaches.outcome value readBack).1.exit
  refine ⟨fun arguments c g parsed => run_of_parse parsed g, denotes_hexWord value, success,
    ?_, ?_, ?_⟩
  · intro w reaches
    obtain ⟨prints, saved, v, kept, left⟩ := reaches.outcome value readBack
    obtain ⟨-, -, holds⟩ := reaches.writes kept value
    have same := reaches.sameBut kept value
    rw [← left] at holds same
    refine ⟨holds, prints, saved, same, fun place named plain g again => ?_⟩
    have word := reaches.holds kept named plain left
    exact (word.prints again Nat.one_pos).1
  · intro failed
    have no : ¬ ∃ w, Reaches card address h.tree w := fun reached => failed (success.2 reached)
    have fails := (fails_of_not_reaches (not_exists.1 no) value readBack).1
    exact ⟨fails, fails.tree.sameBut⟩
  · intro refused
    have no (w : Resource) : ¬ Reaches card address h.tree w := by
      intro reaches
      have aligned := reaches.aligned
      have channel := reaches.channel
      omega
    obtain ⟨fails, early⟩ := fails_of_not_reaches no value readBack
    refine ⟨?_, early refused⟩
    rw [fails.exit]
    decide

end Outcomes

example : ((Command.writeRegister ⟨.address Sysfs.sharedAddress, none⟩ 0xa4 0x1234 true).outcome
    flashHost).1 = ⟨0, "0x00001234\n", ""⟩ := by
  decide +kernel

end ReadoutCard.CommandLine
