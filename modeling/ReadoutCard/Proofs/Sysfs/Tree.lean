import Mathlib.Data.List.Nodup
import ReadoutCard.Proofs.Requests
import ReadoutCard.Proofs.Sysfs.Identity

/-!
# Looking up and changing files in a tree

A change of a file gives what the change gives on the file's content, and
afterwards the file has the content it left (`modifyFileOf_fst`,
`file?_modifyFileOf`); every other file is as it was, and so are the entries
(`file?_modifyFileOf_of_ne`, `listing_modifyFileOf`). So a window of the tree is
told by one file: where two trees have the same file there, accesses to the
window are answered the same and leave the same file (`answer_access_congr`).
-/

namespace ReadoutCard

namespace DeviceTree

variable {α : Type} {name : String} {device : FileName}

/-! ### A change of what stands under a name -/

/-- What a change of content gives on what stands under a name. -/
def given (otherwise : α) (change : ByteArray → α × ByteArray) : Option Node → α
  | some (.file content) => (change content).1
  | _ => otherwise

/-- What a change of content leaves under a name. -/
def left (change : ByteArray → α × ByteArray) : Option Node → Option Node
  | some (.file content) => some (.file (change content).2)
  | node => node

theorem modifyFile_fst (otherwise : α) (change : ByteArray → α × ByteArray) (files : Files) :
    (modifyFile name otherwise change files).1 = given otherwise change (files.lookup name) := by
  induction files with
  | nil => rfl
  | cons f rest ih =>
    obtain ⟨n, node⟩ := f
    by_cases h : n = name
    · subst h
      cases node <;> simp [modifyFile, given]
    · have hne : (name == n) = false := by simpa using Ne.symm h
      simp [modifyFile, h, List.lookup_cons, hne, ih]

theorem lookup_modifyFile (otherwise : α) (change : ByteArray → α × ByteArray) (files : Files) :
    (modifyFile name otherwise change files).2.lookup name = left change (files.lookup name) := by
  induction files with
  | nil => rfl
  | cons f rest ih =>
    obtain ⟨n, node⟩ := f
    by_cases h : n = name
    · subst h
      cases node <;> simp [modifyFile, left]
    · have hne : (name == n) = false := by simpa using Ne.symm h
      simp [modifyFile, h, List.lookup_cons, hne, ih]

theorem modifyEntries_fst (otherwise : α) (change : Option Files → α × Option Files)
    (entries : List Entry) : (modifyEntries device otherwise change entries).1 =
      match entries.find? fun e => e.name == device with
      | some e => (change e.files).1
      | none => otherwise := by
  induction entries with
  | nil => rfl
  | cons e rest ih =>
    by_cases h : e.name = device
    · simp [modifyEntries, h]
    · simp [modifyEntries, h, ih]

theorem find?_modifyEntries (otherwise : α) (change : Option Files → α × Option Files)
    (entries : List Entry) :
    ((modifyEntries device otherwise change entries).2.find? fun e => e.name == device) =
      (entries.find? fun e => e.name == device).map fun e =>
        { e with files := (change e.files).2 } := by
  induction entries with
  | nil => rfl
  | cons e rest ih =>
    by_cases h : e.name = device
    · simp [modifyEntries, h]
    · simp [modifyEntries, h, ih]

theorem modifyFileOf_fst (t : DeviceTree) (otherwise : α) (change : ByteArray → α × ByteArray) :
    (t.modifyFileOf device name otherwise change).1 =
      given otherwise change (t.file? device name) := by
  obtain ⟨root, _ | d⟩ := t
  · rfl
  · simp only [modifyFileOf, Directory.modify, modifyEntries_fst, file?, entry?,
      Directory.entry?, Option.bind_some]
    cases d.entries.find? fun e => e.name == device with
    | none => rfl
    | some e =>
      obtain ⟨n, _ | files⟩ := e
      · rfl
      · exact modifyFile_fst otherwise change files

theorem file?_modifyFileOf (t : DeviceTree) (otherwise : α) (change : ByteArray → α × ByteArray) :
    (t.modifyFileOf device name otherwise change).2.file? device name =
      left change (t.file? device name) := by
  obtain ⟨root, _ | d⟩ := t
  · rfl
  · simp only [modifyFileOf, Directory.modify, file?, entry?,
      Directory.entry?, Option.bind_some, find?_modifyEntries]
    cases d.entries.find? fun e => e.name == device with
    | none => rfl
    | some e =>
      obtain ⟨n, _ | files⟩ := e
      · rfl
      · exact lookup_modifyFile otherwise change files

/-! ### What a change leaves alone -/

theorem lookup_modifyFile_of_ne {other : String} (ne : other ≠ name) (otherwise : α)
    (change : ByteArray → α × ByteArray) (files : Files) :
    (modifyFile name otherwise change files).2.lookup other = files.lookup other := by
  induction files with
  | nil => rfl
  | cons f rest ih =>
    obtain ⟨n, node⟩ := f
    by_cases h : n = name
    · subst h
      have hne : (other == n) = false := by simpa using ne
      cases node <;> simp [modifyFile, List.lookup_cons, hne]
    · simp [modifyFile, h, List.lookup_cons, ih]

theorem find?_modifyEntries_of_ne {other : FileName} (ne : other ≠ device) (otherwise : α)
    (change : Option Files → α × Option Files) (entries : List Entry) :
    ((modifyEntries device otherwise change entries).2.find? fun e => e.name == other) =
      entries.find? fun e => e.name == other := by
  induction entries with
  | nil => rfl
  | cons e rest ih =>
    by_cases h : e.name = device
    · simp [modifyEntries, h, ne.symm]
    · simp [modifyEntries, h, List.find?_cons, ih]

/-- Other files are as they were. -/
theorem file?_modifyFileOf_of_ne (t : DeviceTree) {device' : FileName} {name' : String}
    (ne : device' ≠ device ∨ name' ≠ name) (otherwise : α) (change : ByteArray → α × ByteArray) :
    (t.modifyFileOf device name otherwise change).2.file? device' name' =
      t.file? device' name' := by
  obtain ⟨root, _ | d⟩ := t
  · rfl
  · simp only [modifyFileOf, Directory.modify, file?, entry?, Directory.entry?, Option.bind_some]
    by_cases same : device' = device
    · subst same
      rw [find?_modifyEntries]
      cases d.entries.find? fun e => e.name == device' with
      | none => rfl
      | some e =>
        obtain ⟨n, _ | files⟩ := e
        · rfl
        · exact lookup_modifyFile_of_ne (ne.resolve_left (not_not_intro rfl)) otherwise change files
    · rw [find?_modifyEntries_of_ne same]

/-- The entries of the root with their kinds, in order. -/
def listing (t : DeviceTree) : Option (List (FileName × FileKind)) :=
  t.directory.map fun d => d.entries.map fun e => (e.name, e.kind)

theorem map_kind_modifyEntries (otherwise : α) {change : Option Files → α × Option Files}
    (keeps : ∀ files, (change files).2.isSome = files.isSome) (entries : List Entry) :
    ((modifyEntries device otherwise change entries).2.map fun e => (e.name, e.kind)) =
      entries.map fun e => (e.name, e.kind) := by
  induction entries with
  | nil => rfl
  | cons e rest ih =>
    by_cases h : e.name = device
    · simp [modifyEntries, h, Entry.kind, keeps]
    · simp [modifyEntries, h, ih]

theorem listing_modifyFileOf (t : DeviceTree) (otherwise : α)
    (change : ByteArray → α × ByteArray) :
    (t.modifyFileOf device name otherwise change).2.listing = t.listing := by
  obtain ⟨root, _ | d⟩ := t
  · rfl
  · refine congrArg some (map_kind_modifyEntries otherwise (fun files => ?_) d.entries)
    cases files <;> rfl

theorem root_modifyFileOf (t : DeviceTree) (otherwise : α) (change : ByteArray → α × ByteArray) :
    (t.modifyFileOf device name otherwise change).2.root = t.root := by
  obtain ⟨root, _ | d⟩ := t
  · rfl
  · rfl

/-! ### Changes that change nothing -/

theorem modifyFile_eq_self (otherwise : α) {change : ByteArray → α × ByteArray} {files : Files}
    (h : ∀ content, files.lookup name = some (.file content) → (change content).2 = content) :
    (modifyFile name otherwise change files).2 = files := by
  induction files with
  | nil => rfl
  | cons f rest ih =>
    obtain ⟨n, node⟩ := f
    by_cases hn : n = name
    · subst hn
      cases node with
      | file content => simp [modifyFile, h content (by simp)]
      | directory => simp [modifyFile]
    · have hne : (name == n) = false := by simpa using Ne.symm hn
      have later := ih fun content hc => h content (by simpa [List.lookup_cons, hne] using hc)
      simp [modifyFile, hn, later]

theorem modifyEntries_eq_self (otherwise : α) {change : Option Files → α × Option Files}
    {entries : List Entry}
    (h : ∀ e, (entries.find? fun e => e.name == device) = some e → (change e.files).2 = e.files) :
    (modifyEntries device otherwise change entries).2 = entries := by
  induction entries with
  | nil => rfl
  | cons e rest ih =>
    by_cases hd : e.name = device
    · subst hd
      simp [modifyEntries, h e (by simp)]
    · simp [modifyEntries, hd, ih fun e' he' => h e' (by simpa [List.find?_cons, hd] using he')]

theorem modifyFileOf_eq_self {t : DeviceTree} (otherwise : α)
    {change : ByteArray → α × ByteArray}
    (h : ∀ content, t.file? device name = some (.file content) → (change content).2 = content) :
    (t.modifyFileOf device name otherwise change).2 = t := by
  obtain ⟨root, _ | d⟩ := t
  · rfl
  · obtain ⟨entries, distinct⟩ := d
    simp only [modifyFileOf, Directory.modify]
    congr
    refine modifyEntries_eq_self otherwise fun e found => ?_
    obtain ⟨n, _ | files⟩ := e
    · rfl
    · refine congrArg some (modifyFile_eq_self otherwise fun content hc => h content ?_)
      simp only [file?, entry?, Directory.entry?, Option.bind_some, found, Entry.file?, hc]

/-! ### Entries by name -/

/-- The names are distinct, so an entry is the one of its name. -/
theorem Directory.entry?_of_mem (d : Directory) {e : Entry} (h : e ∈ d.entries) :
    d.entry? e.name = some e := by
  unfold entry?
  cases found : d.entries.find? fun other => other.name == e.name with
  | none => simpa using List.find?_eq_none.1 found e h
  | some other =>
    have same_name : other.name = e.name := by simpa using List.find?_some found
    rw [List.inj_on_of_nodup_map d.distinct (List.mem_of_find?_eq_some found) h same_name]

theorem Directory.entry?_eq_some_iff (d : Directory) {e : Entry} :
    d.entry? device = some e ↔ e ∈ d.entries ∧ e.name = device := by
  constructor
  · intro h
    exact ⟨List.mem_of_find?_eq_some h, by simpa using List.find?_some h⟩
  · rintro ⟨mem, rfl⟩
    exact d.entry?_of_mem mem

end DeviceTree

namespace Sysfs

/-- What is answered to an access, and the file that is left, hang on the file of the window. -/
theorem answer_access_congr {t t' : DeviceTree} {w : Resource}
    (same : t.file? w.device (resourceName w.bar) = t'.file? w.device (resourceName w.bar))
    (q : Register.Request) :
    (answer (.access w q) t).1 = (answer (.access w q) t').1 ∧
    (answer (.access w q) t).2.file? w.device (resourceName w.bar) =
      (answer (.access w q) t').2.file? w.device (resourceName w.bar) := by
  cases q with
  | read index => exact ⟨by simp only [answer, read, same], same⟩
  | write index value =>
    simp only [answer, write, DeviceTree.modifyFileOf_fst, DeviceTree.file?_modifyFileOf, same]
    exact ⟨trivial, trivial⟩

end Sysfs

end ReadoutCard
