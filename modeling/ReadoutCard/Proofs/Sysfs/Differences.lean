import ReadoutCard.Proofs.Sysfs.Tree
import ReadoutCard.Proofs.Window.Mapped

/-!
# Trees that differ in some bytes

`SameBut` compares a tree with what it was before, byte by byte: the same
entries stand in the same order, and files are as large as they were and differ
at most in the bytes that are named. Such comparisons follow one another
(`SameBut.trans`), and a write to a window is one (`sameBut_write`). What the
attribute files tell of the devices is the same if no byte of them is named
(`SameBut.devices`, `SameBut.numaNode`), whether a BAR can be mapped hangs on
sizes only (`SameBut.map`), and a register reads the same if none of its bytes
is named (`SameBut.read`).
-/

namespace ReadoutCard.Sysfs

open DeviceTree (Entry)

/-- What stands under a name is the same; or it is a file as large as it was, and the same but for
the bytes at these offsets. -/
inductive FileBut (may : Nat → Prop) : Option Node → Option Node → Prop where
  | same (node : Option Node) : FileBut may node node
  | bytes {before after : ByteArray} (size : after.size = before.size)
      (others : ∀ i, ¬ may i → after.data[i]? = before.data[i]?) :
    FileBut may (some (.file before)) (some (.file after))

/-- A tree has the entries that it had, and its files are the same but for these bytes. -/
structure SameBut (may : FileName → String → Nat → Prop) (t t' : DeviceTree) : Prop where
  root : t'.root = t.root
  listing : t'.listing = t.listing
  files : ∀ device name, FileBut (may device name) (t.file? device name) (t'.file? device name)

section Files

variable {may may' : Nat → Prop} {node node' node'' : Option Node} {content : ByteArray}

theorem FileBut.mono (h : FileBut may node node') (imp : ∀ i, may i → may' i) :
    FileBut may' node node' := by
  cases h with
  | same => exact .same node
  | bytes size others => exact .bytes size fun i no => others i fun yes => no (imp i yes)

theorem FileBut.symm (h : FileBut may node node') : FileBut may node' node := by
  cases h with
  | same => exact .same node
  | bytes size others => exact .bytes size.symm fun i no => (others i no).symm

theorem FileBut.trans (h : FileBut may node node') (h' : FileBut may node' node'') :
    FileBut may node node'' := by
  cases h with
  | same => exact h'
  | bytes size others =>
    cases h' with
    | same => exact .bytes size others
    | bytes size' others' =>
      exact .bytes (size'.trans size) fun i no => (others' i no).trans (others i no)

/-- Where no byte is named nothing differs. -/
theorem FileBut.eq (h : FileBut may node node') (never : ∀ i, ¬ may i) : node' = node := by
  cases h with
  | same => rfl
  | bytes size others =>
    have same := ByteArray.ext (Array.ext_getElem? fun i => others i (never i))
    rw [same]

theorem FileBut.exists_content (h : FileBut may (some (.file content)) node) :
    ∃ content', node = some (.file content') ∧ content'.size = content.size := by
  cases h with
  | same => exact ⟨content, rfl, rfl⟩
  | @bytes _ after size others => exact ⟨after, rfl, size⟩

end Files

section Trees

variable {may may' : FileName → String → Nat → Prop} {t t' t'' : DeviceTree} {device : FileName}
  {name : String}

theorem SameBut.mono (h : SameBut may t t')
    (imp : ∀ device name i, may device name i → may' device name i) : SameBut may' t t' :=
  ⟨h.root, h.listing, fun device name => (h.files device name).mono (imp device name)⟩

theorem SameBut.symm (h : SameBut may t t') : SameBut may t' t :=
  ⟨h.root.symm, h.listing.symm, fun device name => (h.files device name).symm⟩

theorem SameBut.trans (h : SameBut may t t') (h' : SameBut may t' t'') : SameBut may t t'' :=
  ⟨h'.root.trans h.root, h'.listing.trans h.listing,
    fun device name => (h.files device name).trans (h'.files device name)⟩

theorem SameBut.file?_eq (h : SameBut may t t') (never : ∀ i, ¬ may device name i) :
    t'.file? device name = t.file? device name :=
  (h.files device name).eq never

/-- A file is found where it was found, as large as it was. -/
theorem SameBut.exists_content (h : SameBut may t t') {content : ByteArray}
    (found : t.file? device name = some (.file content)) :
    ∃ content', t'.file? device name = some (.file content') ∧ content'.size = content.size :=
  FileBut.exists_content (found ▸ h.files device name)

/-- A change of one file changes no more than it does to its content. -/
theorem sameBut_modifyFileOf {α : Type} (t : DeviceTree) (otherwise : α)
    {change : ByteArray → α × ByteArray} (bytes : ∀ content,
      FileBut (may device name) (some (.file content)) (some (.file (change content).2))) :
    SameBut may t (t.modifyFileOf device name otherwise change).2 := by
  refine ⟨t.root_modifyFileOf otherwise change, t.listing_modifyFileOf otherwise change,
    fun device' name' => ?_⟩
  by_cases this : device' = device ∧ name' = name
  · obtain ⟨rfl, rfl⟩ := this
    rw [DeviceTree.file?_modifyFileOf]
    rcases t.file? device' name' with _ | content | _
    · exact .same _
    · exact bytes content
    · exact .same _
  · rw [t.file?_modifyFileOf_of_ne (not_and_or.1 this)]
    exact .same _

end Trees

/-! ### What is told by a tree -/

/-- The files that tell of a device. -/
def attributes : List String := ["vendor", "device", "numa_node"]

/-- The identity of a device, if it can be read. -/
def identity? (t : DeviceTree) (device : FileName) : Option PciId :=
  (t.entry? device).bind idOf?

theorem identity?_eq (t : DeviceTree) (device : FileName) : identity? t device = do
    let vendor ← idHalf? (t.file? device "vendor")
    let half ← idHalf? (t.file? device "device")
    return ⟨vendor, half⟩ := by
  rw [identity?, DeviceTree.file?, DeviceTree.file?]
  cases t.entry? device with
  | none => rfl
  | some e => rfl

/-- The devices of an identity are selected by their own attributes. -/
theorem devices_eq (t : DeviceTree) (id : PciId) (d : DeviceTree.Directory)
    (here : t.directory = some d) : devices t id =
      .ok (((d.entries.map Entry.name).filter fun device => identity? t device == some id).mergeSort
        nameLe) := by
  have each : ∀ e ∈ d.entries, (idOf? e == some id) = (identity? t e.name == some id) := by
    intro e mem
    rw [identity?, DeviceTree.entry?, here, Option.bind_some, d.entry?_of_mem mem, Option.bind_some]
  rw [devices, here, List.filter_map]
  simp only [List.filter_congr each]
  rfl

/-- The bytes of a register. -/
def WordByte (w : Resource) (address : Nat) (device : FileName) (name : String) (i : Nat) : Prop :=
  device = w.device ∧ name = resourceName w.bar ∧ address ≤ i ∧ i < address + 4

/-- No byte of a file that tells of a device is named. -/
def SparesAttributes (may : FileName → String → Nat → Prop) : Prop :=
  ∀ device, ∀ name ∈ attributes, ∀ i, ¬ may device name i

theorem sparesAttributes_wordByte {w : Resource} (small : w.bar < maxBars) (address : Nat) :
    SparesAttributes (WordByte w address) := by
  have none_of_them : ∀ bar < maxBars, resourceName bar ∉ attributes := by decide
  rintro device name mem i ⟨-, rfl, -⟩
  exact none_of_them w.bar small mem

/-- A write changes no more than the bytes of its register. -/
theorem sameBut_write (t : DeviceTree) (w : Resource) (index : Nat) (value : UInt32) :
    SameBut (WordByte w (index * 4)) t (write t w index value).2 := by
  refine sameBut_modifyFileOf t _ fun content => ?_
  obtain same | ⟨fits, changed⟩ := Mapped.write_snd w.bar content index value
  · rw [same]
    exact .same _
  · rw [changed]
    refine .bytes (LittleEndian.size_setWordAt ..) fun i no => ?_
    refine LittleEndian.getElem?_setWordAt _ _ _ ?_
    by_contra inside
    exact no ⟨rfl, rfl, by omega, by omega⟩

section Written

variable {t : DeviceTree} {w : Resource} {content : ByteArray} {index : Nat}

/-- A read that succeeds gives a word inside the file. -/
theorem exists_content_of_read {word : UInt32} (given : read t w index = .ok word) :
    ∃ content, t.file? w.device (resourceName w.bar) = some (.file content) ∧
      index * 4 < Mapped.addressSpace ∧ index * 4 + 4 ≤ content.size ∧
      LittleEndian.wordAt? content (index * 4) = some word := by
  unfold read at given
  split at given
  case h_1 content file => exact ⟨content, file, Mapped.read_eq_ok_iff.1 given⟩
  case h_2 => cases given

/-- A write that finds room is made. -/
theorem write_of_inside (file : t.file? w.device (resourceName w.bar) = some (.file content))
    (room : index * 4 + 4 ≤ content.size) (fits : index * 4 < Mapped.addressSpace)
    (value : UInt32) : (write t w index value).1 = .ok () ∧
      (write t w index value).2.file? w.device (resourceName w.bar) =
        some (.file (LittleEndian.setWordAt content (index * 4) value)) := by
  have written : Mapped.write w.bar content index value = _ :=
    Mapped.write_of_inside room fits value
  rw [write, DeviceTree.modifyFileOf_fst, DeviceTree.file?_modifyFileOf, file]
  simp only [DeviceTree.given, DeviceTree.left, written]
  exact ⟨trivial, trivial⟩

/-- Any other write fails and changes nothing. -/
theorem write_of_not_inside (file : t.file? w.device (resourceName w.bar) = some (.file content))
    (no : ¬ (index * 4 < Mapped.addressSpace ∧ index * 4 + 4 ≤ content.size)) (value : UInt32) :
    ∃ e, write t w index value = (.error e, t) := by
  obtain ⟨e, refused⟩ : ∃ e, Mapped.write w.bar content index value = (.error e, content) :=
    Mapped.write_of_not_inside no value
  refine ⟨e, Prod.ext ?_ ?_⟩
  · rw [write, DeviceTree.modifyFileOf_fst, file]
    simp only [DeviceTree.given, refused]
  · refine DeviceTree.modifyFileOf_eq_self _ fun other found => ?_
    obtain rfl : content = other := by
      rw [file] at found
      cases found
      rfl
    rw [refused]

end Written

section Told

variable {may : FileName → String → Nat → Prop} {t t' : DeviceTree}

theorem SameBut.identity? (h : SameBut may t t') (spares : SparesAttributes may)
    (device : FileName) : identity? t' device = identity? t device := by
  rw [identity?_eq, identity?_eq, h.file?_eq (spares device "vendor" (by decide)),
    h.file?_eq (spares device "device" (by decide))]

theorem SameBut.devices (h : SameBut may t t') (spares : SparesAttributes may) (id : PciId) :
    devices t' id = devices t id := by
  have listing := h.listing
  cases here : t.directory with
  | none =>
    cases there : t'.directory with
    | none => simp only [Sysfs.devices, here, there, h.root]
    | some d' => simp [DeviceTree.listing, here, there] at listing
  | some d =>
    cases there : t'.directory with
    | none => simp [DeviceTree.listing, here, there] at listing
    | some d' =>
      have names : d'.entries.map Entry.name = d.entries.map Entry.name := by
        simp only [DeviceTree.listing, here, there, Option.map_some, Option.some.injEq] at listing
        have first := congrArg (List.map Prod.fst) listing
        rwa [List.map_map, List.map_map] at first
      simp only [devices_eq t id d here, devices_eq t' id d' there, names,
        h.identity? spares]

theorem SameBut.numaNode (h : SameBut may t t') (spares : SparesAttributes may)
    (device : FileName) : numaNode t' device = numaNode t device := by
  simp only [Sysfs.numaNode, DeviceTree.path, h.root,
    h.file?_eq (spares device "numa_node" (by decide))]

/-- Whether a BAR can be mapped hangs on the size of its file. -/
theorem SameBut.map (h : SameBut may t t') (device : FileName) (bar : Nat) :
    map t' device bar = map t device bar := by
  have file := h.files device (resourceName bar)
  rw [Sysfs.map, Sysfs.map, DeviceTree.path, DeviceTree.path, h.root]
  revert file
  generalize t.file? device (resourceName bar) = a, t'.file? device (resourceName bar) = b
  rintro (_ | @⟨before, after, size, others⟩)
  · rfl
  · simp only [openResource, Node.content?, size]
    by_cases empty : before.size = 0
    · rw [if_pos empty, if_pos empty]
    · rw [if_neg empty, if_neg empty]
      rfl

/-- A register none of whose bytes is named reads the same. -/
theorem SameBut.read (h : SameBut may t t') (w : Resource) {index : Nat}
    (elsewhere : ∀ i, index * 4 ≤ i → i < index * 4 + 4 →
      ¬ may w.device (resourceName w.bar) i) : read t' w index = read t w index := by
  have file := h.files w.device (resourceName w.bar)
  rw [Sysfs.read, Sysfs.read]
  revert file
  generalize t.file? w.device (resourceName w.bar) = a, t'.file? w.device (resourceName w.bar) = b
  rintro (_ | ⟨size, others⟩)
  · rfl
  · exact Mapped.read_congr size fun i first last => others i (elsewhere i first last)

end Told

end ReadoutCard.Sysfs
