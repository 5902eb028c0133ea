import ReadoutCard.Proofs.Sysfs.Searches

/-!
# Listings that depend on the cards alone

The devices of an identity are listed by name, so what is listed says how
(`eq_of_ascending`), and a listing hangs neither on the order of the directory
nor on entries of another identity. Searches ask only for listed devices, and
what a tree tells of one hangs on its entry (`tellSame_of_entry`). So
directories with the same cards in them give the same answers, whatever else
there is (`listing_by_cards`).
-/

namespace ReadoutCard

open DeviceTree (Directory Entry)

namespace Sysfs

/-! ### Lists of names in order -/

theorem nameLe_iff {a b : FileName} : nameLe a b = true ↔ a ≤ b := by
  induction a generalizing b with
  | nil => simp [nameLe]
  | cons x a ih =>
    cases b with
    | nil => simp [nameLe]
    | cons y b => simp [nameLe, List.cons_le_cons_iff, ih]

theorem nodup_of_ascending {names : List FileName} (h : names.Pairwise (· < ·)) : names.Nodup :=
  h.imp fun {a b} lt (same : a = b) => List.lt_irrefl b (same ▸ lt)

/-- Lists in order with the same names in them are the same. -/
theorem eq_of_ascending {names names' : List FileName} (h : names.Pairwise (· < ·))
    (h' : names'.Pairwise (· < ·)) (same : ∀ name, name ∈ names ↔ name ∈ names') :
    names = names' := by
  refine List.Perm.eq_of_pairwise (fun a b _ _ ab ba => absurd ba (List.lt_asymm ab)) h h' ?_
  exact (List.perm_ext_iff_of_nodup (nodup_of_ascending h) (nodup_of_ascending h')).2 same

/-- The devices of an identity are listed by name. -/
theorem exists_devices (root : String) (d : Directory) (id : PciId) :
    ∃ names, devices ⟨root, some d⟩ id = .ok names ∧ names.Pairwise (· < ·) := by
  refine ⟨_, rfl, ?_⟩
  have sorted := @List.pairwise_mergeSort _ nameLe
    (fun a b c ab bc => nameLe_iff.2 (List.le_trans (nameLe_iff.1 ab) (nameLe_iff.1 bc)))
    (fun a b => by simpa [nameLe_iff] using List.le_total a b)
    ((d.entries.filter fun e => idOf? e == some id).map Entry.name)
  have distinct := (List.mergeSort_perm _ nameLe).nodup_iff.2
    (d.distinct.sublist (List.filter_sublist (p := fun e => idOf? e == some id).map Entry.name))
  refine (sorted.and distinct).imp fun {a b} ⟨le, ne⟩ => ?_
  exact (List.le_iff_lt_or_eq.1 (nameLe_iff.1 le)).resolve_right ne

/-! ### What a tree tells of a device -/

variable {α : Type} {t t' : DeviceTree} {device : FileName}

/-- Accesses to a window are answered by its file. -/
theorem run_onWindow_congr {w : Resource}
    (same : t'.file? w.device (resourceName w.bar) = t.file? w.device (resourceName w.bar))
    (d : Dialogue Register.Request Register.Answer α) :
    (Dialogue.run answer (Pci.onWindow w d) t').1 =
      (Dialogue.run answer (Pci.onWindow w d) t).1 := by
  rw [Pci.onWindow, Dialogue.run_through, Dialogue.run_through]
  exact (Dialogue.run_related (r := fun s s' : DeviceTree =>
    s.file? w.device (resourceName w.bar) = s'.file? w.device (resourceName w.bar))
    (fun q _ _ h => answer_access_congr h q) d same).1

theorem tellSame_of_entry (entry : t'.entry? device = t.entry? device) (root : t'.root = t.root)
    (family : Family) : (layer t).TellSame (layer t') family device where
  address := rfl
  numaNode := by simp only [layer, numaNode, DeviceTree.path, DeviceTree.file?, root, entry]
  serial := by
    have mapped : map t' device family.serial.bar = map t device family.serial.bar := by
      simp only [map, DeviceTree.path, DeviceTree.file?, root, entry]
    simp only [layer, Pci.result, run_serialOf, mapped]
    cases hm : map t device family.serial.bar with
    | error e => rfl
    | ok m =>
      obtain rfl := window_of_map hm
      exact run_onWindow_congr (by simp only [DeviceTree.file?, entry]) _

/-! ### Directories with the same cards -/

/-- The entry has the identity of a family that is searched. -/
def IsCard (e : Entry) : Prop := ∃ family ∈ Family.all,
  Reads (e.file? "vendor") family.pciId.vendor ∧ Reads (e.file? "device") family.pciId.device

/-- The same cards are in both directories, in whatever order and whatever else is there. -/
def SameCards (d d' : Directory) : Prop := ∀ e, IsCard e → (e ∈ d'.entries ↔ e ∈ d.entries)

variable {d d' : Directory}

theorem SameCards.agree (same : SameCards d d') (root : String) :
    (layer ⟨root, some d⟩).AgreeOnListed (layer ⟨root, some d'⟩) := by
  have entry {e : Entry} {name : FileName} {family : Family} (known : family ∈ Family.all)
      (identity : idOf? e = some family.pciId) :
      d'.entry? name = some e ↔ d.entry? name = some e := by
    rw [d'.entry?_eq_some_iff, d.entry?_eq_some_iff,
      same e ⟨family, known, idOf?_eq_some_iff.1 identity⟩]
  refine ⟨fun family known => ?_, fun family device listed => ?_⟩
  · obtain ⟨names, hn, ascending⟩ := exists_devices root d family.pciId
    obtain ⟨names', hn', ascending'⟩ := exists_devices root d' family.pciId
    have equal : names' = names := eq_of_ascending ascending' ascending fun name => by
      rw [mem_devices hn', mem_devices hn]
      exact exists_congr fun e => and_congr_left fun identity => entry known identity
    exact hn'.trans (equal ▸ hn.symm)
  · -- A listed device is a card, so it has the same entry in both directories.
    obtain ⟨known, names, hn, mem⟩ := listed
    obtain ⟨e, here, identity⟩ := (mem_devices (t := ⟨root, some d⟩) hn).1 mem
    have found : DeviceTree.entry? ⟨root, some d'⟩ device =
        DeviceTree.entry? ⟨root, some d⟩ device := ((entry known identity).2 here).trans here.symm
    exact tellSame_of_entry found rfl family

/-- **Listings and searches depend on the cards alone.** The devices of an identity are the entries
whose attribute files have both its halves in them, each once and ascending by name, in whatever
order the directory gives its entries. No entry is a device of two families. Directories with the
same cards in them give the same in every search. -/
theorem listing_by_cards (root : String) (d : Directory) :
    (∀ id, ∃ names, devices ⟨root, some d⟩ id = .ok names ∧
      names.Pairwise (· < ·) ∧ names.Nodup ∧
      (∀ name, name ∈ names ↔ ∃ e ∈ d.entries, e.name = name ∧
        Reads (e.file? "vendor") id.vendor ∧ Reads (e.file? "device") id.device) ∧
      ∀ d' : Directory, d'.entries.Perm d.entries → devices ⟨root, some d'⟩ id = .ok names) ∧
    (∀ family ∈ Family.all, ∀ other ∈ Family.all, family ≠ other → ∀ names names',
      devices ⟨root, some d⟩ family.pciId = .ok names →
      devices ⟨root, some d⟩ other.pciId = .ok names' → ∀ name ∈ names, name ∉ names') ∧
    ∀ d', SameCards d d' → ∀ o : Search,
      Pci.result answer o.query ⟨root, some d'⟩ = Pci.result answer o.query ⟨root, some d⟩ := by
  refine ⟨fun id => ?_, ?_, fun d' same o => ?_⟩
  · obtain ⟨names, hn, ascending⟩ := exists_devices root d id
    have members (name : FileName) :
        name ∈ names ↔ ∃ e ∈ d.entries, e.name = name ∧ idOf? e = some id := by
      simp only [mem_devices hn, DeviceTree.entry?, Option.bind_some, d.entry?_eq_some_iff,
        and_assoc]
    refine ⟨names, hn, ascending, nodup_of_ascending ascending, fun name => ?_, fun d' perm => ?_⟩
    · simp only [members, idOf?_eq_some_iff]
    · obtain ⟨names', hn', ascending'⟩ := exists_devices root d' id
      have equal : names' = names := eq_of_ascending ascending' ascending fun name => by
        simp only [members, mem_devices hn', DeviceTree.entry?, Option.bind_some,
          d'.entry?_eq_some_iff, and_assoc, perm.mem_iff]
      rw [hn', equal]
  · intro family known other known' ne names names' hn hn' name mem mem'
    obtain ⟨e, found, identity⟩ := (mem_devices hn).1 mem
    obtain ⟨e', found', identity'⟩ := (mem_devices hn').1 mem'
    obtain rfl : e = e' := Option.some.inj (found.symm.trans found')
    have same_id := Option.some.inj (identity.symm.trans identity')
    exact ne (List.inj_on_of_nodup_map Family.pciId_injective known known' same_id)
  · rw [(Inventory.gives_search (describes _) o _ (.refl _)).1,
      (Inventory.gives_search (describes _) o _ (.refl _)).1]
    exact (same.agree root).outcome o

/-- An entry with the attribute files of an identity. -/
def functionEntry (name vendor device : String) : Entry :=
  ⟨DeviceTree.fileName name,
    some [("vendor", .file vendor.toUTF8), ("device", .file device.toUTF8)]⟩

/-- A C-RORC whose vendor has two marks. -/
def markedCrorc : Entry := functionEntry "0000:3b:00.0" " 0x0x10DC\n" "0x0033\n"

/-- A CRU whose identity has no marks. -/
def plainCru : Entry := functionEntry "0000:af:00.0" "1172" "e001"

/-- An entry that is named like no device and has half of an identity. -/
def strayEntry : Entry := functionEntry "stray" "0x10dc\n" "0xzz\n"

/-- A directory of two cards, in no order, with a stray entry between them. -/
def mixedBench : Directory := ⟨[plainCru, strayEntry, markedCrorc], by decide +kernel⟩

/-- The same entries in another order. -/
def turnedBench : Directory := ⟨[markedCrorc, strayEntry, plainCru], by decide +kernel⟩

/-- The cards without the stray entry. -/
def tidyBench : Directory := ⟨[markedCrorc, plainCru], by decide +kernel⟩

/-- Neither the order nor the stray entry shows in an answer, and no card is in both listings. -/
theorem benches_by_cards :
    turnedBench.entries.Perm mixedBench.entries ∧
    devices ⟨"pci", some turnedBench⟩ Family.crorc.pciId =
      devices ⟨"pci", some mixedBench⟩ Family.crorc.pciId ∧
    (∀ name ∈ [markedCrorc.name], name ∉ [plainCru.name]) ∧
    SameCards mixedBench tidyBench ∧
    ∀ o : Search, Pci.result answer o.query ⟨"pci", some tidyBench⟩ =
      Pci.result answer o.query ⟨"pci", some mixedBench⟩ := by
  obtain ⟨listed, apart, searched⟩ := listing_by_cards "pci" mixedBench
  have turned : turnedBench.entries.Perm mixedBench.entries := List.reverse_perm mixedBench.entries
  have crorc : devices ⟨"pci", some mixedBench⟩ Family.crorc.pciId = .ok [markedCrorc.name] := by
    decide +kernel
  have cru : devices ⟨"pci", some mixedBench⟩ Family.cru.pciId = .ok [plainCru.name] := by
    decide +kernel
  have unread : idOf? strayEntry = none := by decide +kernel
  have tidy : SameCards mixedBench tidyBench := by
    rintro e ⟨family, _, identity⟩
    have other : e ≠ strayEntry := by
      rintro rfl
      cases unread.symm.trans (idOf?_eq_some_iff.2 identity)
    simp [mixedBench, tidyBench, other, or_comm]
  obtain ⟨names, here, -, -, -, same⟩ := listed Family.crorc.pciId
  exact ⟨turned, (same turnedBench turned).trans here.symm,
    apart Family.crorc (by decide) Family.cru (by decide) (by decide) _ _ crorc cru,
    tidy, searched tidyBench tidy⟩

end Sysfs

end ReadoutCard
