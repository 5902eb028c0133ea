import ReadoutCard.MappedCard
import ReadoutCard.Proofs.Sysfs.Devices
import ReadoutCard.Proofs.Sysfs.Runs

/-!
# What opening a card leaves

Opening a card searches for it, and that writes commands to the flash of a
C-RORC, so a tree is not the same after a card was opened. But the last thing a
search does to the tree is reading the serial number of the card that it finds
(`run_locate`), and that starts with a command, after which nothing is left of
the commands before (`Commanded.write_eq`). So a card that is opened again in a
tree that was kept shows its window as it did the first time
(`file?_of_opened`), the register that takes the commands included.
-/

namespace ReadoutCard

namespace LittleEndian

/-- Writing a word makes contents equal that differ in its bytes only. -/
theorem setWordAt_congr {a b : ByteArray} {offset : Nat} (size : a.size = b.size)
    (outside : ∀ i, i < offset ∨ offset + 4 ≤ i → a.data[i]? = b.data[i]?) (value : UInt32) :
    setWordAt a offset value = setWordAt b offset value := by
  apply ByteArray.ext
  apply Array.ext_getElem?
  intro i
  by_cases h : i < offset ∨ offset + 4 ≤ i
  · rw [getElem?_setWordAt _ _ _ h, getElem?_setWordAt _ _ _ h]
    exact outside i h
  · have sizes : a.data.size = b.data.size := size
    have place : i = offset ∨ i = offset + 1 ∨ i = offset + 2 ∨ i = offset + 3 := by omega
    simp only [data_setWordAt, Array.set!_eq_setIfInBounds, Array.getElem?_setIfInBounds,
      Array.size_setIfInBounds, sizes]
    rcases place with rfl | rfl | rfl | rfl
    · simp
    · simp
    · simp
    · simp

end LittleEndian

namespace Sysfs

variable {α : Type} {t u u' : DeviceTree} {device : FileName} {before a b : ByteArray}

/-- Where there is no room for a command there was none. -/
theorem Commanded.eq_of_small (h : Commanded before a) (small : before.size < 0xa4) :
    a = before := by
  apply ByteArray.ext
  apply Array.ext_getElem?
  intro i
  obtain same | ⟨k, -, word⟩ := h.inside
  · by_cases inside : 0xa0 ≤ i ∧ i < 0xa4
    · exact same i inside.1 inside.2
    · exact h.outside i (by omega)
  · have room : 0xa0 + 4 ≤ a.size := by
      unfold LittleEndian.wordAt? at word
      split at word
      · assumption
      · cases word
    have size := h.size
    omega

/-- After a command no difference is left. -/
theorem Commanded.write_eq (ha : Commanded before a) (hb : Commanded before b) (bar : Nat)
    (value : UInt32) : (Mapped.write bar a Crorc.flashAddress.index value).2 =
      (Mapped.write bar b Crorc.flashAddress.index value).2 := by
  have size : a.size = b.size := ha.size.trans hb.size.symm
  by_cases room : 0xa0 + 4 ≤ before.size
  · have written (c : ByteArray) (hc : c.size = before.size) :
        (Mapped.write bar c Crorc.flashAddress.index value).2 =
          LittleEndian.setWordAt c 0xa0 value := by
      have offset : Mapped.offsetOf bar c.size Crorc.flashAddress.index = .ok 0xa0 :=
        if_pos (by decide)
      have inside : Mapped.inBounds c.size 0xa0 = true := by
        simp [Mapped.inBounds]
        omega
      rw [Mapped.write, offset]
      simp only [Mapped.writeAt, inside, if_true]
    rw [written a ha.size, written b hb.size]
    apply LittleEndian.setWordAt_congr size
    intro i outside
    exact (ha.outside i outside).trans (hb.outside i outside).symm
  · rw [ha.eq_of_small (by omega), hb.eq_of_small (by omega)]

/-! ### Reading a serial number -/

/-- Accesses to a window with the same file give the same and leave the same file. -/
theorem run_onWindow_same {w : Resource}
    (same : u.file? w.device (resourceName w.bar) = u'.file? w.device (resourceName w.bar))
    (d : Dialogue Register.Request Register.Answer α) :
    (Dialogue.run answer (Pci.onWindow w d) u).1 = (Dialogue.run answer (Pci.onWindow w d) u').1 ∧
      (Dialogue.run answer (Pci.onWindow w d) u).2.file? w.device (resourceName w.bar) =
        (Dialogue.run answer (Pci.onWindow w d) u').2.file? w.device (resourceName w.bar) := by
  rw [Pci.onWindow, Dialogue.run_through, Dialogue.run_through]
  exact Dialogue.run_related (r := fun s s' : DeviceTree =>
    s.file? w.device (resourceName w.bar) = s'.file? w.device (resourceName w.bar))
    (fun q _ _ h => answer_access_congr h q) d same

/-- Reading the serial number of a C-RORC starts with a command. -/
theorem exists_serial_next : ∃ next, ExceptT.run (Crorc.serial ⟨.crorc, crorcFlashBar⟩) =
    Dialogue.ask (.write Crorc.flashAddress.index (Crorc.recordCommand 0)) next :=
  ⟨_, rfl⟩

/-- Two trees that keep a third have the same file, or one that differs by commands. -/
theorem file?_cases (h : Kept t u) (h' : Kept t u') (device : FileName) (name : String) :
    u.file? device name = u'.file? device name ∨ ∃ before a b, Commanded before a ∧
      Commanded before b ∧ name = "resource0" ∧ t.file? device name = some (.file before) ∧
      u.file? device name = some (.file a) ∧ u'.file? device name = some (.file b) := by
  obtain same | ⟨first, before, a, bytes, found, ha⟩ := h.file? device name
  · obtain same' | ⟨first, before, b, bytes, found, hb⟩ := h'.file? device name
    · exact .inl (same.trans same'.symm)
    · exact .inr ⟨before, before, b, .refl before, bytes, first, found, same.trans found, hb⟩
  · obtain same' | ⟨-, before', b, bytes', found', hb⟩ := h'.file? device name
    · exact .inr ⟨before, a, before, bytes, .refl before, first, found, ha, same'.trans found⟩
    · obtain rfl : before = before' := by
        rw [found] at found'
        cases found'
        rfl
      exact .inr ⟨before, a, b, bytes, bytes', first, found, ha, hb⟩

/-- The command to read the first word of the record. -/
def firstCommand (w : Resource) : Pci.Request FileName Resource :=
  .access w (.write Crorc.flashAddress.index (Crorc.recordCommand 0))

/-- A command makes the files of two trees equal that keep a third. -/
theorem file?_of_command (h : Kept t u) (h' : Kept t u') (w : Resource) :
    (answer (firstCommand w) u).1 = (answer (firstCommand w) u').1 ∧
      (answer (firstCommand w) u).2.file? w.device (resourceName w.bar) =
        (answer (firstCommand w) u').2.file? w.device (resourceName w.bar) := by
  constructor
  · exact (h.write_fst _ _ _).trans (h'.write_fst _ _ _).symm
  · simp only [firstCommand, answer, write, DeviceTree.file?_modifyFileOf]
    obtain same | ⟨before, a, b, ha, hb, -, -, hu, hu'⟩ :=
      file?_cases h h' w.device (resourceName w.bar)
    · rw [same]
    · rw [hu, hu']
      exact congrArg (fun c => some (Node.file c)) (ha.write_eq hb w.bar _)

/-- Reading the serial number of a C-RORC leaves one and the same file in trees that keep a third,
as the first thing it does is a command. -/
theorem file?_of_serial (h : Kept t u) (h' : Kept t u') (w : Resource) :
    let d : Dialogue Register.Request Register.Answer _ :=
      ExceptT.run (Crorc.serial ⟨.crorc, crorcFlashBar⟩)
    (Dialogue.run answer (Pci.onWindow w d) u).2.file? w.device (resourceName w.bar) =
      (Dialogue.run answer (Pci.onWindow w d) u').2.file? w.device (resourceName w.bar) := by
  obtain ⟨next, starts⟩ := exists_serial_next
  intro d
  obtain ⟨same, file⟩ := file?_of_command h h' w
  have first (t : DeviceTree) : Dialogue.run answer (Pci.onWindow w d) t = Dialogue.run answer
      (Pci.onWindow w (next (answer (firstCommand w) t).1)) (answer (firstCommand w) t).2 := by
    simp only [d, starts]
    rfl
  rw [first, first, same]
  exact (run_onWindow_same file _).2

/-- A BAR that cannot be mapped has no bytes that could differ. -/
theorem file?_of_map_error (h : Kept t u) (h' : Kept t u') {bar : Nat} (small : bar < maxBars)
    {e : Error} (failed : map t device bar = .error e) :
    u.file? device (resourceName bar) = u'.file? device (resourceName bar) := by
  obtain same | ⟨before, a, b, ha, hb, -, found, hu, hu'⟩ :=
    file?_cases h h' device (resourceName bar)
  · exact same
  · have empty : before.size = 0 := by
      rw [map, if_pos small, found] at failed
      by_cases empty : before.size = 0
      · exact empty
      · simp only [openResource, Node.content?, if_neg empty] at failed
        cases failed
    rw [hu, hu', ha.eq_of_small (by omega), hb.eq_of_small (by omega)]

section Listed

variable {family : Family} {e : DeviceTree.Entry}

/-- An entry that is no C-RORC is the same in every tree that is kept. -/
theorem Kept.entry?_of_not_crorc (h : Kept t u) (found : t.entry? device = some e)
    (other : idOf? e ≠ some Family.crorc.pciId) : u.entry? device = some e := by
  have kept := h.entry? device
  rw [found] at kept
  generalize u.entry? device = found' at kept
  cases kept with
  | some same => rw [same.eq_of_not_crorc other]

/-- The files of a CRU are the same in every tree that is kept. -/
theorem Kept.file?_of_cru (h : Kept t u) (listed : (layer t).Lists Family.cru device)
    (name : String) : u.file? device name = t.file? device name := by
  obtain ⟨-, names, hn, mem⟩ := listed
  obtain ⟨e, found, identity⟩ := (mem_devices hn).1 mem
  have other : idOf? e ≠ some Family.crorc.pciId := by
    rw [identity]
    decide
  rw [DeviceTree.file?, DeviceTree.file?, h.entry?_of_not_crorc found other, found]

/-- A device is listed for one family only. -/
theorem family_of_lists {family' : Family} (listed : (layer t).Lists family device)
    (listed' : (layer t).Lists family' device) : family = family' := by
  obtain ⟨known, names, hn, mem⟩ := listed
  obtain ⟨known', names', hn', mem'⟩ := listed'
  obtain ⟨e, found, identity⟩ := (mem_devices hn).1 mem
  obtain ⟨e', found', identity'⟩ := (mem_devices hn').1 mem'
  obtain rfl : e = e' := Option.some.inj (found.symm.trans found')
  exact List.inj_on_of_nodup_map Family.pciId_injective known known'
    (Option.some.inj (identity.symm.trans identity'))

/-- After the serial number of a listed device was read, its files are the same in trees that keep
a third. -/
theorem file?_of_serialOf (h : Kept t u) (h' : Kept t u')
    (listed : (layer t).Lists family device) (bar : Nat) :
    (run (Inventory.serialOf family device) u).2.file? device (resourceName bar) =
      (run (Inventory.serialOf family device) u').2.file? device (resourceName bar) := by
  have reads := (describes t).serial family device listed
  obtain ⟨-, kept⟩ := reads u h
  obtain ⟨-, kept'⟩ := reads u' h'
  rcases Family.mem_all_iff.1 listed.1 with rfl | rfl
  · obtain same | ⟨_, _, _, _, _, first, _⟩ := file?_cases kept kept' device (resourceName bar)
    · exact same
    · have zero : resourceName 0 = "resource0" := by decide
      rw [first, ← zero]
      unfold run
      rw [run_serialOf, run_serialOf, h.map, h'.map]
      cases mapped : map t device Family.crorc.serial.bar with
      | error cause => exact file?_of_map_error h h' (by decide) mapped
      | ok m =>
        obtain rfl := window_of_map mapped
        exact file?_of_serial h h' ⟨device, 0⟩
  · exact (kept.file?_of_cru listed _).trans (kept'.file?_of_cru listed _).symm

end Listed

/-! ### Finding a card -/

section Finding

variable {id : CardId} {family : Family} {found : Found FileName} {v : DeviceTree}

theorem run_entryOf {address : PciAddress} {serial : Option Int}
    (gives : run (Inventory.entryOf family device address serial) u = (.ok found, v)) :
    found.device = device ∧ v = u := by
  obtain ⟨node, s, asked, made⟩ := run_bind_eq_ok.1 gives
  rw [run_numaNode] at asked
  obtain ⟨-, rfl⟩ := Prod.mk.inj asked
  cases made
  exact ⟨rfl, rfl⟩

theorem run_some_entryOf {address : PciAddress} {serial : Option Int}
    (gives : run (do return some (← Inventory.entryOf family device address serial)) u =
      (.ok (some found), v)) : found.device = device ∧ v = u := by
  obtain ⟨f, s, described, same⟩ := run_bind_eq_ok.1 gives
  cases same
  exact run_entryOf described

theorem run_usableSerial (family : Family) (device : FileName) (address : PciAddress)
    (u : DeviceTree) : run (Inventory.usableSerial family device address) u =
      (.ok (run (Inventory.serialOf family device) u).1.toOption,
        (run (Inventory.serialOf family device) u).2) := by
  rw [Inventory.usableSerial, run_bind, run_attempt]
  cases (run (Inventory.serialOf family device) u).1 with
  | ok serial => rfl
  | error cause => rfl

/-- A visit that gives a card reads its serial number, and nothing after that changes the tree. -/
theorem run_matching (gives : run (Inventory.matching id family device) u = (.ok (some found), v)) :
    found.device = device ∧ v = (run (Inventory.serialOf family device) u).2 := by
  obtain ⟨here, s, located, gives⟩ := run_bind_eq_ok.1 gives
  rw [run_address] at located
  obtain ⟨-, rfl⟩ := Prod.mk.inj located
  cases id with
  | address wanted =>
    simp only at gives
    split at gives
    case isTrue =>
      rw [run_bind, run_attempt] at gives
      cases read : (run (Inventory.serialOf family device) u).1 with
      | ok serial =>
        rw [read] at gives
        exact run_some_entryOf gives
      | error cause =>
        rw [read] at gives
        exact run_some_entryOf gives
    case isFalse => cases gives
  | serial wanted =>
    rw [run_bind, run_usableSerial] at gives
    simp only at gives
    split at gives
    case isTrue => exact run_some_entryOf gives
    case isFalse => cases gives

/-- A search ends with the visit that gives something. -/
theorem run_first {visit : FileName → Pci.Query FileName Resource (Option α)} {a : α}
    {devices : List FileName}
    (keeps : ∀ device ∈ devices, ∀ s, Kept t s → Kept t (run (visit device) s).2)
    (h : Kept t u) (gives : run (Inventory.first visit devices) u = (.ok (some a), v)) :
    ∃ device ∈ devices, ∃ s, Kept t s ∧ run (visit device) s = (.ok (some a), v) := by
  induction devices generalizing u with
  | nil => cases gives
  | cons device rest ih =>
    obtain ⟨hit, s, visited, gives⟩ := run_bind_eq_ok.1 gives
    cases hit with
    | none =>
      have kept := keeps device List.mem_cons_self u h
      rw [visited] at kept
      obtain ⟨other, mem, later⟩ := ih (fun d hd => keeps d (List.mem_cons_of_mem _ hd)) kept gives
      exact ⟨other, List.mem_cons_of_mem _ mem, later⟩
    | some b =>
      cases gives
      exact ⟨device, List.mem_cons_self, u, h, visited⟩

theorem run_firstOf {visit : Family → FileName → Pci.Query FileName Resource (Option α)} {a : α}
    {r : Family → FileName → Except Error (Option α)}
    (gives_visit : ∀ family device, (layer t).Lists family device →
      Gives answer (Kept t) (visit family device) (r family device))
    (families : List Family) (known : families ⊆ Family.all) (h : Kept t u)
    (gives : run (Inventory.firstOf visit families) u = (.ok (some a), v)) :
    ∃ family device, (layer t).Lists family device ∧
      ∃ s, Kept t s ∧ run (visit family device) s = (.ok (some a), v) := by
  induction families generalizing u with
  | nil => cases gives
  | cons family rest ih =>
    obtain ⟨searched, others⟩ := List.cons_subset.1 known
    obtain ⟨names, s, asked, gives⟩ := run_bind_eq_ok.1 gives
    rw [run_devices, h.devices] at asked
    obtain ⟨listed, rfl⟩ := Prod.mk.inj asked
    have lists (device : FileName) (mem : device ∈ names) : (layer t).Lists family device :=
      ⟨searched, names, listed, mem⟩
    obtain ⟨hit, s, visited, gives⟩ := run_bind_eq_ok.1 gives
    cases hit with
    | none =>
      have kept := (Inventory.gives_first names fun d hd => gives_visit family d (lists d hd)) u h
      have same : Kept t (run (Inventory.first (visit family) names) u).2 := kept.2
      rw [visited] at same
      exact ih others same gives
    | some b =>
      cases gives
      obtain ⟨device, mem, found⟩ :=
        run_first (fun d hd s hs => (gives_visit family d (lists d hd) s hs).2) h visited
      exact ⟨family, device, lists device mem, found⟩

/-- A card is found by reading its serial number, the last thing that changes the tree. -/
theorem run_locate (h : Kept t u) (gives : run (Inventory.locate id) u = (.ok found, v)) :
    ∃ family, (layer t).Lists family found.device ∧
      ∃ s, Kept t s ∧ v = (run (Inventory.serialOf family found.device) s).2 := by
  obtain ⟨hit, s, searched, gives⟩ := run_bind_eq_ok.1 gives
  cases hit with
  | none => cases gives
  | some other =>
    cases gives
    have visits (family : Family) (device : FileName) (listed : (layer t).Lists family device) :
        Gives answer (Kept t) (Inventory.matching id family device)
          (Search.visitFor (layer t) id family device) := by
      cases id with
      | serial wanted => exact Inventory.gives_matching_serial (describes t) wanted listed
      | address wanted => exact Inventory.gives_matching_address (describes t) wanted listed
    obtain ⟨family, device, listed, s, kept, visited⟩ :=
      run_firstOf visits Family.all (List.Subset.refl _) h searched
    obtain ⟨rfl, left⟩ := run_matching visited
    exact ⟨family, listed, s, kept, left⟩

end Finding

/-! ### Opening a card -/

section Opening

variable {settings : Settings} {m : MappedCard Resource} {v v' : DeviceTree}

/-- What parts of a query give decides what the query gives. -/
theorem exists_gives_bind {β γ : Type} {q : Pci.Query FileName Resource β}
    {f : β → Pci.Query FileName Resource γ} {r : Except Error β} (first : Gives answer (Kept t) q r)
    (later : ∀ a, ∃ r, Gives answer (Kept t) (f a) r) :
    ∃ r, Gives answer (Kept t) (q >>= f) r := by
  choose results given using later
  exact ⟨_, first.bind fun a _ => given a⟩

/-- Opening a card gives the same however many searches went before it, and keeps the tree. -/
theorem gives_ofSettings (t : DeviceTree) (settings : Settings) :
    ∃ r, Gives answer (Kept t) (MappedCard.ofSettings settings) r := by
  have checked {β : Type} (x : Except Error β) : Gives answer (Kept t) (Pci.ofExcept x) x :=
    fun _ kept => ⟨rfl, kept⟩
  refine exists_gives_bind (checked _) fun id => ?_
  refine exists_gives_bind (checked _) fun channel => ?_
  refine exists_gives_bind (checked _) fun bar => ?_
  refine exists_gives_bind (Inventory.gives_search (describes t) (.locate id)) fun found => ?_
  have mapped : Gives answer (Kept t) (Pci.map found.device bar) (map t found.device bar) :=
    fun s kept => ⟨kept.map _ _, kept⟩
  exact exists_gives_bind mapped fun m => ⟨_, .pure _⟩

/-- Opening a card keeps the tree, whether it succeeds or fails. -/
theorem kept_of_opened {r : Except Error (MappedCard Resource)} (h : Kept t u)
    (opened : run (MappedCard.ofSettings settings) u = (r, v)) : Kept t v := by
  obtain ⟨_, gives⟩ := gives_ofSettings t settings
  have left : Kept t (run (MappedCard.ofSettings settings) u).2 := (gives u h).2
  rwa [opened] at left

/-- A card is opened by finding it and mapping the BAR that the channel number names. -/
theorem run_ofSettings_eq_ok : run (MappedCard.ofSettings settings) u = (.ok m, v) ↔
    ∃ id channel bar found, settings.required .cardId = .ok id ∧
      settings.required .channelNumber = .ok channel ∧ MappedCard.barOfChannel channel = .ok bar ∧
      run (Inventory.locate id) u = (.ok found, v) ∧
      map v found.device bar = .ok m.mapping ∧ m.card = found.card := by
  constructor
  · intro opened
    obtain ⟨id, _, same, opened⟩ := run_bind_eq_ok.1 opened
    obtain ⟨card, rfl⟩ := Prod.mk.inj same
    obtain ⟨channel, _, same, opened⟩ := run_bind_eq_ok.1 opened
    obtain ⟨number, rfl⟩ := Prod.mk.inj same
    obtain ⟨bar, _, same, opened⟩ := run_bind_eq_ok.1 opened
    obtain ⟨named, rfl⟩ := Prod.mk.inj same
    obtain ⟨found, s, located, opened⟩ := run_bind_eq_ok.1 opened
    obtain ⟨mapping, s, mapped, made⟩ := run_bind_eq_ok.1 opened
    rw [run_map] at mapped
    obtain ⟨shown, rfl⟩ := Prod.mk.inj mapped
    cases made
    exact ⟨id, channel, bar, found, card, number, named, located, shown, rfl⟩
  · rintro ⟨id, channel, bar, found, card, number, named, located, shown, same⟩
    obtain ⟨_, mapping⟩ := m
    subst same
    refine run_bind_eq_ok.2 ⟨id, u, Prod.ext card rfl, ?_⟩
    refine run_bind_eq_ok.2 ⟨channel, u, Prod.ext number rfl, ?_⟩
    refine run_bind_eq_ok.2 ⟨bar, u, Prod.ext named rfl, ?_⟩
    refine run_bind_eq_ok.2 ⟨found, v, located, ?_⟩
    exact run_bind_eq_ok.2 ⟨mapping, v, Prod.ext shown rfl, rfl⟩

/-- What was opened is the BAR of a listed device, whose serial number was read last. -/
theorem run_ofSettings (h : Kept t u)
    (opened : run (MappedCard.ofSettings settings) u = (.ok m, v)) :
    ∃ family device bar s, (layer t).Lists family device ∧ Kept t s ∧
      m.mapping.window = ⟨device, bar⟩ ∧ v = (run (Inventory.serialOf family device) s).2 := by
  obtain ⟨id, channel, bar, found, -, -, -, located, shown, -⟩ := run_ofSettings_eq_ok.1 opened
  obtain ⟨family, listed, s, kept, left⟩ := run_locate h located
  exact ⟨family, found.device, bar, s, listed, kept, congrArg Mapping.window (window_of_map shown),
    left⟩

/-- A BAR is mapped if there is one of that number and its file is not empty. -/
theorem map_eq_ok {bar : Nat} {mapping : Mapping Resource} :
    map t device bar = .ok mapping ↔ bar < maxBars ∧ mapping = ⟨⟨device, bar⟩, bar⟩ ∧
      ∃ content, t.file? device (resourceName bar) = some (.file content) ∧ content.size ≠ 0 := by
  constructor
  · intro mapped
    refine ⟨?_, window_of_map mapped, ?_⟩
    · by_contra large
      rw [map, if_neg large] at mapped
      cases mapped
    · unfold map at mapped
      split at mapped
      case isFalse => cases mapped
      case isTrue =>
        cases file : t.file? device (resourceName bar) with
        | none =>
          rw [file] at mapped
          cases mapped
        | some node =>
          rw [file] at mapped
          cases node with
          | directory => cases mapped
          | file content =>
            refine ⟨content, rfl, fun empty => ?_⟩
            simp only [openResource, Node.content?, if_pos empty] at mapped
            cases mapped
  · rintro ⟨small, rfl, content, file, nonempty⟩
    simp only [map, if_pos small, openResource, Node.content?, file, if_neg nonempty]
    rfl

theorem barOfChannel_eq_ok_iff {channel : Int} {bar : Nat} :
    MappedCard.barOfChannel channel = .ok bar ↔ channel = bar := by
  unfold MappedCard.barOfChannel
  split
  case isTrue nonneg =>
    rw [Except.ok.injEq]
    omega
  case isFalse negative =>
    constructor
    · intro absurd
      cases absurd
    · rintro rfl
      exact absurd (Int.natCast_nonneg bar) negative

/-- A card and a channel number name the BAR of that number, of the card found. -/
theorem run_ofCard_eq_ok {id : CardId} {channel : Int} :
    run (MappedCard.ofSettings (Settings.ofCard id channel)) u = (.ok m, v) ↔
      ∃ found, ∃ bar : Nat, channel = bar ∧ run (Inventory.locate id) u = (.ok found, v) ∧
        map v found.device bar = .ok m.mapping ∧ m.card = found.card := by
  rw [run_ofSettings_eq_ok]
  constructor
  · rintro ⟨_, _, bar, found, card, number, named, located, shown, same⟩
    cases card
    cases number
    exact ⟨found, bar, barOfChannel_eq_ok_iff.1 named, located, shown, same⟩
  · rintro ⟨found, bar, named, located, shown, same⟩
    exact ⟨id, channel, bar, found, rfl, rfl, barOfChannel_eq_ok_iff.2 named, located, shown, same⟩

/-- A channel number that is negative is refused before anything is searched. -/
theorem run_ofCard_of_neg (id : CardId) {channel : Int} (negative : channel < 0)
    (u : DeviceTree) : ∃ e, run (MappedCard.ofSettings (Settings.ofCard id channel)) u =
      (.error e, u) := by
  obtain ⟨e, refused⟩ : ∃ e, MappedCard.barOfChannel channel = .error e :=
    ⟨_, if_neg (Int.not_le.2 negative)⟩
  refine ⟨e, ?_⟩
  show run (Pci.ofExcept (MappedCard.barOfChannel channel) >>= _) u = _
  rw [refused]
  rfl

/-- **Opening a card again finds the window as it was.** In trees that keep a third, what is opened
is the same, and so is the file of its window. -/
theorem file?_of_opened (h : Kept t u) (h' : Kept t u')
    (opened : run (MappedCard.ofSettings settings) u = (.ok m, v))
    (opened' : run (MappedCard.ofSettings settings) u' = (.ok m, v')) :
    v.file? m.mapping.window.device (resourceName m.mapping.window.bar) =
      v'.file? m.mapping.window.device (resourceName m.mapping.window.bar) := by
  obtain ⟨family, device, bar, s, listed, kept, window, left⟩ := run_ofSettings h opened
  obtain ⟨family', device', bar', s', listed', kept', window', left'⟩ := run_ofSettings h' opened'
  obtain ⟨rfl, rfl⟩ := Resource.mk.inj (window.symm.trans window')
  obtain rfl := family_of_lists listed listed'
  rw [window, left, left']
  exact file?_of_serialOf kept kept' listed bar

end Opening

/-! ### What stands at a place -/

/-- Kept files stand where they stood, as files or directories. -/
theorem kind?_kept {d d' : DeviceTree.Directory} (h : List.Forall₂ EntryKept d.entries d'.entries)
    (place : Place) : d'.kind? place = d.kind? place := by
  match place with
  | [] => rfl
  | [device] =>
    have entry : Option.Rel EntryKept (d.entry? _) (d'.entry? _) :=
      find?_kept h (DeviceTree.fileName device)
    simp only [DeviceTree.Directory.kind?]
    revert entry
    generalize d.entry? _ = e, d'.entry? _ = e'
    rintro (@⟨⟨n, files⟩, ⟨n', files'⟩, kept⟩ | -)
    · cases kept.files with
      | some same => rfl
      | none => rfl
    · rfl
  | [device, name] =>
    have entry : Option.Rel EntryKept (d.entry? _) (d'.entry? _) :=
      find?_kept h (DeviceTree.fileName device)
    simp only [DeviceTree.Directory.kind?]
    revert entry
    generalize d.entry? _ = e, d'.entry? _ = e'
    rintro (@⟨e, e', kept⟩ | -)
    · have file := kept.file? name
      simp only [Option.bind_some]
      revert file
      generalize e.file? name = node, e'.file? name = node'
      rintro (@⟨node, node', file⟩ | -)
      · cases file with
        | same => rfl
        | commanded => rfl
      · rfl
    · rfl
  | _ :: _ :: _ :: _ => rfl

end Sysfs

end ReadoutCard
