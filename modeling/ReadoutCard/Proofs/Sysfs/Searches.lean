import ReadoutCard.Proofs.Inventory.Search
import ReadoutCard.Proofs.Sysfs.Frame

/-!
# Searches of a tree

A search of a tree reads serial numbers through files, and for that writes
commands into some of them. It still finds fixed answers: `layer` tells them as
tables, and `describes` says that every tree that is kept answers by the
tables of the tree it was. So a search gives the same however many went before
it, and any number of them keeps the tree (`searches_keep`).
-/

namespace ReadoutCard.Sysfs

open DeviceTree (Directory Entry)

variable {α : Type} {t t' : DeviceTree} {w : Resource}

/-- What a tree tells. -/
def layer (t : DeviceTree) : Layer FileName where
  devices := devices t
  address := address
  numaNode := numaNode t
  serial family device := Pci.result answer (Inventory.serialOf family device) t

/-! ### Devices that are listed -/

theorem mem_devices {id : PciId} {names : List FileName} {name : FileName}
    (listed : devices t id = .ok names) :
    name ∈ names ↔ ∃ e, t.entry? name = some e ∧ idOf? e = some id := by
  obtain ⟨root, _ | d⟩ := t
  · cases listed
  · cases listed
    simp only [List.mem_mergeSort, List.mem_map, List.mem_filter, beq_iff_eq,
      DeviceTree.entry?, Option.bind_some, d.entry?_eq_some_iff, and_right_comm]

/-! ### Reading a serial number -/

theorem window_of_map {device : FileName} {bar : Nat} {m : Mapping Resource}
    (mapped : map t device bar = .ok m) : m = ⟨⟨device, bar⟩, bar⟩ := by
  unfold map at mapped
  split at mapped
  · cases opened : openResource (t.path device (resourceName bar)) bar
        (t.file? device (resourceName bar)) with
    | error e =>
      rw [opened] at mapped
      cases mapped
    | ok content =>
      rw [opened] at mapped
      exact (Except.ok.inj mapped).symm
  · cases mapped

/-- A serial number is read through the window that the tree maps. -/
theorem run_serialOf (t : DeviceTree) (family : Family) (device : FileName) :
    Dialogue.run answer (ExceptT.run (Inventory.serialOf family device)) t =
      match map t device family.serial.bar with
      | .ok m => Dialogue.run answer
          (Pci.onWindow m.window (ExceptT.run (family.serial.read m.bar))) t
      | .error e => (.error e, t) := by
  have run := Dialogue.run_except_bind answer (Pci.map device family.serial.bar)
    (fun m => Pci.access m (family.serial.read m.bar)) t
  unfold Inventory.serialOf
  rw [run]
  simp only [Pci.map, ExceptT.run_mk, Dialogue.request, Dialogue.run, answer]
  cases map t device family.serial.bar <;> rfl

/-- Accesses that keep a tree give what they gave before. -/
theorem Kept.run_onWindow (h : Kept t t') {d : Dialogue Register.Request Register.Answer α}
    (hd : d.Asks (SerialRequest t w)) :
    (Dialogue.run answer (Pci.onWindow w d) t').1 = (Dialogue.run answer (Pci.onWindow w d) t).1 ∧
      Kept t (Dialogue.run answer (Pci.onWindow w d) t').2 := by
  have step : ∀ q, SerialRequest t w q → ∀ s s', Kept t s ∧ Kept t s' →
      (answer (.access w q) s).1 = (answer (.access w q) s').1 ∧
        Kept t (answer (.access w q) s).2 ∧ Kept t (answer (.access w q) s').2 := by
    rintro q hq s s' ⟨hs, hs'⟩
    obtain ⟨same, kept⟩ := hs.access hq
    obtain ⟨same', kept'⟩ := hs'.access hq
    exact ⟨same.trans same'.symm, kept, kept'⟩
  rw [Pci.onWindow, Dialogue.run_through, Dialogue.run_through]
  obtain ⟨same, kept, _⟩ := hd.run_related step ⟨h, .refl t⟩
  exact ⟨same, kept⟩

/-- Reading the serial number of a listed device makes accesses that keep the tree. -/
theorem asks_serial {family : Family} (known : family ∈ Family.all) {device : FileName} {e : Entry}
    (found : t.entry? device = some e) (identity : idOf? e = some family.pciId) (bar : Nat) :
    (family.serial.read bar).Asks (SerialRequest t ⟨device, family.serial.bar⟩) := by
  rcases Family.mem_all_iff.1 known with rfl | rfl
  · refine (Crorc.asks_serial _).mono ?_
    rintro q (_ | _ | ⟨k, inside⟩)
    · exact .read _ (.inr (by decide))
    · exact .read _ (.inr (by decide))
    · exact .command k inside rfl found identity
  · refine (Cru.asks_serial _).mono ?_
    rintro q ⟨index⟩
    exact .read index (.inl (show resourceName cruSupportBar ≠ "resource0" by decide))

/-- A tree that is kept answers as it always did. -/
theorem describes (t : DeviceTree) : (layer t).DescribesListed answer (Kept t) where
  devices id _ h := ⟨h.devices id, h⟩
  address _ _ h := ⟨rfl, h⟩
  numaNode device _ h := ⟨h.numaNode device, h⟩
  warn _ _ h := ⟨rfl, h⟩
  serial family device listed s h := by
    obtain ⟨known, names, hn, mem⟩ := listed
    obtain ⟨e, found, identity⟩ := (mem_devices hn).1 mem
    simp only [layer, Pci.result, run_serialOf, h.map]
    cases mapped : map t device family.serial.bar with
    | error cause => exact ⟨rfl, h⟩
    | ok m =>
      obtain rfl := window_of_map mapped
      exact h.run_onWindow (asks_serial known found identity _)

/-! ### Any number of searches -/

/-- The tree after searches one after the other, whether they succeed or fail. -/
def after (t : DeviceTree) (searches : List Search) : DeviceTree :=
  searches.foldl (fun t o => (Dialogue.run answer (ExceptT.run o.query) t).2) t

theorem kept_after (searches : List Search) (h : Kept t t') : Kept t (after t' searches) := by
  induction searches generalizing t' with
  | nil => exact h
  | cons o rest ih => exact ih (Inventory.gives_search (describes t) o t' h).2

/-- **Searching changes nothing but commands to the flash of a C-RORC.** However many searches are
made of a tree, entries that are no C-RORC are as they were, and so is every file byte by byte, but
for the word at `0xa0` of `resource0` of a C-RORC, which may hold the command to read one of the
words of the record. A search gives the same after any other searches as at first. -/
theorem searches_keep (t : DeviceTree) (earlier : List Search) (o : Search) :
    Kept t (after t earlier) ∧
    (∀ device e, t.entry? device = some e → idOf? e ≠ some Family.crorc.pciId →
      DeviceTree.entry? (after t earlier) device = some e) ∧
    Pci.result answer o.query (after t earlier) = Pci.result answer o.query t := by
  have kept := kept_after earlier (.refl t)
  refine ⟨kept, fun device e found other => ?_, ?_⟩
  · have entry := kept.entry? device
    rw [found] at entry
    generalize DeviceTree.entry? (after t earlier) device = found' at entry
    cases entry with
    | some same => rw [same.eq_of_not_crorc other]
  · have gives := Inventory.gives_search (describes t) o
    exact (gives _ kept).1.trans (gives t (.refl t)).1.symm

end ReadoutCard.Sysfs
