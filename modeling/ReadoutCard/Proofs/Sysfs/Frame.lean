import Mathlib.Data.List.Forall2
import ReadoutCard.Proofs.SerialAccesses
import ReadoutCard.Proofs.Sysfs.Differences

/-!
# What reading serial numbers leaves in a tree

`Kept` compares a tree with what it was before: entry by entry and file by
file it is the same, but that `resource0` of a C-RORC may hold a command to the
flash controller (`Commanded`). So only four bytes differ (`Kept.sameBut`), and
what a search asks for does not hang on these: the listings, the NUMA nodes and
the mappings are the same (`Kept.devices`, `Kept.numaNode`, `Kept.map`), and so
are the answers to the accesses that reading a serial number makes, which keep
the tree again (`Kept.access`).
-/

namespace ReadoutCard

open DeviceTree (Directory Entry Files)

namespace Sysfs

/-! ### One file -/

/-- The bytes of a file are what they were before, but for the four at `0xa0`: these may also hold
a command to read one of the 19 words of the record. -/
structure Commanded (before after : ByteArray) : Prop where
  size : after.size = before.size
  outside : ∀ i, i < 0xa0 ∨ 0xa4 ≤ i → after.data[i]? = before.data[i]?
  inside : (∀ i, 0xa0 ≤ i → i < 0xa4 → after.data[i]? = before.data[i]?) ∨
    ∃ k < 19, LittleEndian.wordAt? after 0xa0 =
      some (0x80000000 ||| (0x01470000 + UInt32.ofNat k))

theorem Commanded.refl (content : ByteArray) : Commanded content content :=
  ⟨rfl, fun _ _ => rfl, .inl fun _ _ _ => rfl⟩

theorem Commanded.write {before after : ByteArray} (h : Commanded before after) (bar : Nat)
    {k : Nat} (inside : k < Crorc.recordLength / 2) :
    Commanded before
      (Mapped.write bar after Crorc.flashAddress.index (Crorc.recordCommand k)).2 := by
  obtain same | ⟨fits, changed⟩ :=
    Mapped.write_snd bar after Crorc.flashAddress.index (Crorc.recordCommand k)
  · rwa [same]
  · rw [changed]
    refine ⟨?_, fun i hi => ?_, .inr ⟨k, inside, ?_⟩⟩
    · rw [LittleEndian.size_setWordAt, h.size]
    · exact (LittleEndian.getElem?_setWordAt _ _ _ hi).trans (h.outside i hi)
    · exact LittleEndian.wordAt?_setWordAt_self fits _

/-! ### A tree, entry by entry and file by file -/

/-- A file of an entry is what it was before, or it is `resource0` of a C-RORC and was written
commands. -/
inductive FileKept (e : Entry) (name : String) : Node → Node → Prop where
  | same (node : Node) : FileKept e name node node
  | commanded (crorc : idOf? e = some Family.crorc.pciId) (first : name = "resource0")
    {before after : ByteArray} (bytes : Commanded before after) :
    FileKept e name (.file before) (.file after)

/-- The files of an entry are those that it had before one by one, each kept. -/
abbrev FilesKept (e : Entry) : Files → Files → Prop :=
  List.Forall₂ fun f f' => f'.1 = f.1 ∧ FileKept e f.1 f.2 f'.2

/-- An entry has the name that it had before, and its files are kept. -/
structure EntryKept (before after : Entry) : Prop where
  name : after.name = before.name
  files : Option.Rel (FilesKept before) before.files after.files

/-- A tree has the entries that it had before one by one, each kept. -/
structure Kept (before after : DeviceTree) : Prop where
  root : after.root = before.root
  entries : Option.Rel (fun d d' : Directory => List.Forall₂ EntryKept d.entries d'.entries)
    before.directory after.directory

theorem EntryKept.refl (e : Entry) : EntryKept e e := by
  refine ⟨rfl, ?_⟩
  cases e.files with
  | none => exact .none
  | some files => exact .some (List.forall₂_same.2 fun f _ => ⟨rfl, .same _⟩)

theorem Kept.refl (t : DeviceTree) : Kept t t := by
  refine ⟨rfl, ?_⟩
  cases t.directory with
  | none => exact .none
  | some d => exact .some (List.forall₂_same.2 fun e _ => .refl e)

variable {e e' : Entry} {t t' : DeviceTree} {device : FileName} {name : String}
  {files files' : Files}

theorem lookup_kept (h : FilesKept e files files') (name : String) :
    Option.Rel (FileKept e name) (files.lookup name) (files'.lookup name) := by
  induction h with
  | nil => exact .none
  | @cons f f' rest rest' here _ ih =>
    obtain ⟨n, node⟩ := f
    obtain ⟨n', node'⟩ := f'
    obtain ⟨rfl, kept⟩ := here
    by_cases hn : name = n'
    · subst hn
      simpa using Option.Rel.some kept
    · have other : (name == n') = false := by simpa using hn
      simpa [List.lookup_cons, other] using ih

theorem EntryKept.file? (h : EntryKept e e') (name : String) :
    Option.Rel (FileKept e name) (e.file? name) (e'.file? name) := by
  obtain ⟨n, files⟩ := e
  obtain ⟨n', files'⟩ := e'
  cases h.files with
  | none => exact .none
  | some same => exact lookup_kept same name

/-- Entries that are no C-RORC are the same. -/
theorem EntryKept.eq_of_not_crorc (h : EntryKept e e') (other : idOf? e ≠ some Family.crorc.pciId) :
    e' = e := by
  obtain ⟨n, files⟩ := e
  obtain ⟨n', files'⟩ := e'
  obtain rfl : n' = n := h.name
  cases h.files with
  | none => rfl
  | @some files files' same =>
    have each : List.Forall₂ (· = ·) files files' := by
      refine same.imp ?_
      rintro ⟨name, node⟩ ⟨name', node'⟩ ⟨rfl, kept⟩
      cases kept with
      | same => rfl
      | commanded crorc _ _ => exact absurd crorc other
    rw [List.forall₂_eq_eq_eq] at each
    rw [each]

theorem find?_kept {entries entries' : List Entry} (h : List.Forall₂ EntryKept entries entries')
    (device : FileName) :
    Option.Rel EntryKept (entries.find? fun e => e.name == device)
      (entries'.find? fun e => e.name == device) := by
  induction h with
  | nil => exact .none
  | @cons e e' _ _ here _ ih =>
    by_cases hd : e.name = device
    · simpa [here.name, hd] using Option.Rel.some here
    · simpa [here.name, hd] using ih

theorem Kept.entry? (h : Kept t t') (device : FileName) :
    Option.Rel EntryKept (t.entry? device) (t'.entry? device) := by
  obtain ⟨root, d⟩ := t
  obtain ⟨root', d'⟩ := t'
  cases h.entries with
  | none => exact .none
  | some same => exact find?_kept same device

/-! ### What is told by a tree -/

/-- The bytes of the register that takes the commands to the flash of a C-RORC. -/
def FlashByte (t : DeviceTree) (device : FileName) (name : String) (i : Nat) : Prop :=
  identity? t device = some Family.crorc.pciId ∧ name = "resource0" ∧ 0xa0 ≤ i ∧ i < 0xa4

theorem sparesAttributes_flashByte (t : DeviceTree) : SparesAttributes (FlashByte t) := by
  rintro device name mem i ⟨-, rfl, -⟩
  revert mem
  decide

theorem listing_kept {entries entries' : List Entry} (h : List.Forall₂ EntryKept entries entries') :
    (entries'.map fun e => (e.name, e.kind)) = entries.map fun e => (e.name, e.kind) := by
  induction h with
  | nil => rfl
  | @cons e e' _ _ here _ ih =>
    have kind : e'.kind = e.kind := by
      have files := here.files
      unfold Entry.kind
      revert files
      generalize e.files = files, e'.files = files'
      rintro (_ | _) <;> rfl
    rw [List.map_cons, List.map_cons, here.name, kind, ih]

/-- A tree that is kept differs in these bytes only. -/
theorem Kept.sameBut (h : Kept t t') : SameBut (FlashByte t) t t' := by
  refine ⟨h.root, ?_, fun device name => ?_⟩
  · unfold DeviceTree.listing
    have entries := h.entries
    revert entries
    generalize t.directory = d, t'.directory = d'
    rintro (@⟨d, d', same⟩ | -)
    · exact congrArg some (listing_kept same)
    · rfl
  · have entry := h.entry? device
    unfold DeviceTree.file? FlashByte identity?
    revert entry
    generalize t.entry? device = found, t'.entry? device = found'
    rintro (@⟨e, e', kept⟩ | -)
    · have file := kept.file? name
      simp only [Option.bind_some]
      revert file
      generalize e.file? name = node, e'.file? name = node'
      rintro (file | -)
      · cases file with
        | same => exact .same _
        | commanded crorc first bytes =>
          refine .bytes bytes.size fun i other => bytes.outside i ?_
          by_contra inside
          exact other ⟨crorc, first, by omega, by omega⟩
      · exact .same _
    · exact .same _

theorem Kept.devices (h : Kept t t') (id : PciId) : devices t' id = devices t id :=
  h.sameBut.devices (sparesAttributes_flashByte t) id

/-- A file of the tree is the same, or it is `resource0` of a C-RORC that was written commands. -/
theorem Kept.file? (h : Kept t t') (device : FileName) (name : String) :
    t'.file? device name = t.file? device name ∨
      name = "resource0" ∧ ∃ before after, Commanded before after ∧
        t.file? device name = some (.file before) ∧ t'.file? device name = some (.file after) := by
  have entry := h.entry? device
  unfold DeviceTree.file?
  revert entry
  generalize t.entry? device = found, t'.entry? device = found'
  rintro (@⟨e, e', kept⟩ | -)
  · have file := kept.file? name
    simp only [Option.bind_some]
    revert file
    generalize e.file? name = node, e'.file? name = node'
    rintro (file | -)
    · cases file with
      | same => exact .inl rfl
      | commanded _ first bytes => exact .inr ⟨first, _, _, bytes, rfl, rfl⟩
    · exact .inl rfl
  · exact .inl rfl

theorem Kept.numaNode (h : Kept t t') (device : FileName) :
    numaNode t' device = numaNode t device :=
  h.sameBut.numaNode (sparesAttributes_flashByte t) device

theorem Kept.map (h : Kept t t') (device : FileName) (bar : Nat) :
    map t' device bar = map t device bar :=
  h.sameBut.map device bar

/-! ### Accesses that keep a tree -/

/-- The accesses to a window of a tree that reading serial numbers makes: reads that are not of
where commands are written, and commands to the flash of a C-RORC. -/
inductive SerialRequest (t : DeviceTree) (w : Resource) : Register.Request → Prop where
  | read (index : Nat)
    (elsewhere : resourceName w.bar ≠ "resource0" ∨ index ≠ Crorc.flashAddress.index) :
    SerialRequest t w (.read index)
  | command (k : Nat) (inside : k < Crorc.recordLength / 2) (first : w.bar = crorcFlashBar)
    {e : Entry} (found : t.entry? w.device = some e) (crorc : idOf? e = some Family.crorc.pciId) :
    SerialRequest t w (.write Crorc.flashAddress.index (Crorc.recordCommand k))

theorem Kept.read (h : Kept t t') (w : Resource) {index : Nat}
    (elsewhere : resourceName w.bar ≠ "resource0" ∨ index ≠ Crorc.flashAddress.index) :
    read t' w index = read t w index := by
  refine h.sameBut.read w ?_
  rintro i first last ⟨-, name, lower, upper⟩
  have other : index ≠ 40 := elsewhere.resolve_left (not_not_intro name)
  omega

theorem Kept.write_fst (h : Kept t t') (w : Resource) (index : Nat) (value : UInt32) :
    (write t' w index value).1 = (write t w index value).1 := by
  rw [Sysfs.write, Sysfs.write, DeviceTree.modifyFileOf_fst, DeviceTree.modifyFileOf_fst]
  obtain same | ⟨_, before, after, bytes, found, found'⟩ := h.file? w.device (resourceName w.bar)
  · rw [same]
  · rw [found, found']
    exact Mapped.write_fst_congr bytes.size value

section Change

variable {α : Type} {change : ByteArray → α × ByteArray} (otherwise : α)

theorem modifyFile_kept (crorc : idOf? e = some Family.crorc.pciId)
    (bytes : ∀ before after, Commanded before after → Commanded before (change after).2)
    (h : FilesKept e files files') :
    FilesKept e files (DeviceTree.modifyFile "resource0" otherwise change files').2 := by
  induction h with
  | nil => exact .nil
  | @cons f f' rest rest' here later ih =>
    obtain ⟨n, node⟩ := f
    obtain ⟨n', node'⟩ := f'
    obtain ⟨rfl, kept⟩ := here
    by_cases first : n' = "resource0"
    · subst first
      cases kept with
      | same node =>
        cases node with
        | file content =>
          exact .cons ⟨rfl, .commanded crorc rfl (bytes _ _ (.refl content))⟩ later
        | directory => exact .cons ⟨rfl, .same _⟩ later
      | commanded _ _ before => exact .cons ⟨rfl, .commanded crorc rfl (bytes _ _ before)⟩ later
    · have other : (n' == "resource0") = false := by simpa using first
      simp only [DeviceTree.modifyFile, other]
      exact .cons ⟨rfl, kept⟩ ih

/-- A change of the files of an entry that keeps the entry keeps all of them. -/
theorem modifyEntries_kept {changeAll : Option Files → α × Option Files}
    {entries entries' : List Entry} (found : entries.find? (fun e => e.name == device) = some e)
    (step : ∀ e', EntryKept e e' → EntryKept e ⟨e'.name, (changeAll e'.files).2⟩)
    (h : List.Forall₂ EntryKept entries entries') :
    List.Forall₂ EntryKept entries
      (DeviceTree.modifyEntries device otherwise changeAll entries').2 := by
  induction h with
  | nil => exact .nil
  | @cons e₁ e₁' rest rest' here later ih =>
    obtain ⟨n', files'⟩ := e₁'
    have named : n' = e₁.name := here.name
    by_cases hd : n' = device
    · obtain rfl : e₁ = e := by simpa [← named, hd] using found
      rw [DeviceTree.modifyEntries, if_pos (by simpa using hd)]
      exact .cons (step _ here) later
    · rw [List.find?_cons_of_neg (by simpa [← named] using hd)] at found
      rw [DeviceTree.modifyEntries, if_neg (by simpa using hd)]
      exact .cons here (ih found)

theorem Kept.modifyFileOf (h : Kept t t') (found : t.entry? device = some e)
    (crorc : idOf? e = some Family.crorc.pciId)
    (bytes : ∀ before after, Commanded before after → Commanded before (change after).2) :
    Kept t (t'.modifyFileOf device "resource0" otherwise change).2 := by
  obtain ⟨root, d⟩ := t
  obtain ⟨root', d'⟩ := t'
  cases h.entries with
  | none => exact h
  | some same =>
    refine ⟨h.root, .some (modifyEntries_kept otherwise found (fun e' kept => ?_) same)⟩
    refine ⟨kept.name, ?_⟩
    have each := kept.files
    revert each
    generalize e.files = files, e'.files = files'
    rintro (each | -)
    · exact .some (modifyFile_kept otherwise crorc bytes each)
    · exact .none

end Change

/-- Reading serial numbers gives the same answers however often it was done before, and keeps the
tree. -/
theorem Kept.access (h : Kept t t') {w : Resource} {q : Register.Request}
    (hq : SerialRequest t w q) :
    (answer (.access w q) t').1 = (answer (.access w q) t).1 ∧
      Kept t (answer (.access w q) t').2 := by
  cases hq with
  | read index elsewhere => exact ⟨h.read w elsewhere, h⟩
  | command k inside first found crorc =>
    refine ⟨h.write_fst w _ _, ?_⟩
    have name : resourceName w.bar = "resource0" := by rw [first]; decide
    simp only [answer, write, name]
    exact h.modifyFileOf _ found crorc fun _ _ bytes => bytes.write w.bar inside

end Sysfs

end ReadoutCard
