import ReadoutCard.Path

/-! # Trees of device directories

The root holds entries with distinct names. An entry is a plain file or a device directory with
files of its own. Changing an entry or a file keeps all names (`names_modifyEntries`), so that the
names stay distinct by construction.

Seen from outside, the tree is a directory of a file system: `kind?` tells what stands at a place in
it, and `save?` puts a file there.
-/

namespace ReadoutCard

/-- The name of a directory entry: any bytes. -/
abbrev FileName := List UInt8

namespace DeviceTree

/-- The files of a device directory, by name. -/
abbrev Files := List (String × Node)

/-- An entry of the root. -/
structure Entry where
  name : FileName
  /-- The files of a device directory; nothing if the entry is a plain file. -/
  files : Option Files

/-- The file of that name in a device directory. -/
def Entry.file? (e : Entry) (name : String) : Option Node :=
  e.files.bind fun files => files.lookup name

/-- The kind of an entry. -/
def Entry.kind (e : Entry) : FileKind := if e.files.isSome then .directory else .file

/-- The entries with only the first of each name kept. -/
def keepFirst : List Entry → List Entry
  | [] => []
  | e :: rest => e :: (keepFirst rest).filter fun other => other.name ≠ e.name

theorem nodup_keepFirst (entries : List Entry) :
    ((keepFirst entries).map Entry.name).Nodup := by
  induction entries with
  | nil => exact List.nodup_nil
  | cons e rest ih =>
    rw [keepFirst, List.map_cons, List.nodup_cons]
    constructor
    · intro h
      obtain ⟨other, hother, hname⟩ := List.mem_map.1 h
      have := (List.mem_filter.1 hother).2
      simp [hname] at this
    · exact ih.sublist (List.filter_sublist.map _)

/-- Applies a change to the files of the first entry of that name. -/
def modifyEntries {α : Type} (name : FileName) (otherwise : α)
    (change : Option Files → α × Option Files) : List Entry → α × List Entry
  | [] => (otherwise, [])
  | ⟨n, files⟩ :: rest =>
    if n == name then
      let (a, files) := change files
      (a, ⟨n, files⟩ :: rest)
    else
      let (a, rest) := modifyEntries name otherwise change rest
      (a, ⟨n, files⟩ :: rest)

theorem names_modifyEntries {α : Type} (name : FileName) (otherwise : α)
    (change : Option Files → α × Option Files) (entries : List Entry) :
    (modifyEntries name otherwise change entries).2.map Entry.name = entries.map Entry.name := by
  induction entries with
  | nil => rfl
  | cons e rest ih =>
    rw [modifyEntries]
    split
    · rfl
    · simpa using ih

/-- The bytes of a name. -/
def fileName (name : String) : FileName := name.toUTF8.toList

/-- A directory of entries with distinct names. -/
structure Directory where
  entries : List Entry
  distinct : (entries.map Entry.name).Nodup

namespace Directory

/-- The directory of the listed entries; of several with one name the first counts. -/
def ofList (entries : List Entry) : Directory := ⟨keepFirst entries, nodup_keepFirst entries⟩

/-- The entry of that name. -/
def entry? (d : Directory) (name : FileName) : Option Entry :=
  d.entries.find? fun e => e.name == name

/-- Applies a change to the files of the entry of that name, if there is one. -/
def modify {α : Type} (d : Directory) (name : FileName) (otherwise : α)
    (change : Option Files → α × Option Files) : α × Directory :=
  let result := modifyEntries name otherwise change d.entries
  (result.1, ⟨result.2, names_modifyEntries name otherwise change d.entries ▸ d.distinct⟩)

/-- The directory with one more plain file, unless there is an entry of that name. -/
def addPlain (d : Directory) (name : FileName) : Directory :=
  if h : name ∈ d.entries.map Entry.name then d
  else ⟨⟨name, none⟩ :: d.entries, List.nodup_cons.2 ⟨h, d.distinct⟩⟩

/-- What stands at a place in the directory, down to the files of the devices. -/
def kind? (d : Directory) : Place → Option FileKind
  | [] => some .directory
  | [device] => (d.entry? (fileName device)).map Entry.kind
  | [device, name] => (d.entry? (fileName device)).bind fun e => (e.file? name).map Node.kind
  | _ => none

/-- The directory with a file saved at a place in it, down to the files of the devices. -/
def save? (d : Directory) (content : ByteArray) : Place → Option Directory
  | [device] => some (d.addPlain (fileName device))
  | [device, name] =>
    some (d.modify (fileName device) () fun files =>
      ((), files.map (setNamed name (.file content)))).2
  | _ => none

end Directory

/-- Applies a change to the first file of that name. -/
def modifyFile {α : Type} (name : String) (otherwise : α) (change : ByteArray → α × ByteArray) :
    Files → α × Files
  | [] => (otherwise, [])
  | (n, node) :: rest =>
    if n == name then
      match node with
      | .file content =>
        let (a, content) := change content
        (a, (n, .file content) :: rest)
      | .directory => (otherwise, (n, .directory) :: rest)
    else
      let (a, rest) := modifyFile name otherwise change rest
      (a, (n, node) :: rest)

end DeviceTree

/-- A root directory: its path, and what is in it if it exists. -/
structure DeviceTree where
  root : String
  directory : Option DeviceTree.Directory

namespace DeviceTree

/-- The entry of that name. -/
def entry? (t : DeviceTree) (device : FileName) : Option Entry :=
  t.directory.bind fun d => d.entry? device

/-- The file of that name in a device directory. -/
def file? (t : DeviceTree) (device : FileName) (name : String) : Option Node :=
  (t.entry? device).bind fun e => e.file? name

/-- The path of a file in a device directory, as it is shown. -/
def path (t : DeviceTree) (device : FileName) (name : String) : String :=
  t.root ++ "/" ++ Text.Utf8.readable device ++ "/" ++ name

/-- Applies a change to a file of a device. -/
def modifyFileOf {α : Type} (t : DeviceTree) (device : FileName) (name : String) (otherwise : α)
    (change : ByteArray → α × ByteArray) : α × DeviceTree :=
  match t with
  | ⟨root, none⟩ => (otherwise, ⟨root, none⟩)
  | ⟨root, some d⟩ =>
    let (a, d) := d.modify device otherwise fun
      | none => (otherwise, none)
      | some files =>
        let (a, files) := modifyFile name otherwise change files
        (a, some files)
    (a, ⟨root, some d⟩)

end DeviceTree

end ReadoutCard
