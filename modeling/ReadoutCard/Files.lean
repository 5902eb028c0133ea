import ReadoutCard.Text.Utf8

/-! # Files as the PCI layer sees them, and how the system words their failures

A file stands under a name in a list of named nodes; `setNamed` changes what stands under one name
and nothing else (`lookup_setNamed_self`, `lookup_setNamed_of_ne`).
-/

namespace ReadoutCard

/-- Why a file cannot be used. -/
inductive FileError where
  | notFound
  | notDirectory
  | isDirectory
  | nameTooLong
  | notText
  deriving DecidableEq, Repr

/-- The system's wording. -/
def FileError.message : FileError → String
  | notFound => "No such file or directory (os error 2)"
  | notDirectory => "Not a directory (os error 20)"
  | isDirectory => "Is a directory (os error 21)"
  | nameTooLong => "File name too long (os error 36)"
  | notText => "stream did not contain valid UTF-8"

/-- The kinds of what can stand under a name. -/
inductive FileKind where
  | file
  | directory
  deriving DecidableEq, Repr

/-- What stands under a name. -/
inductive Node where
  | file (content : ByteArray)
  | directory

namespace Node

/-- The kind of a node. -/
def kind : Node → FileKind
  | file _ => .file
  | directory => .directory

/-- The bytes of a file that stands under a name, if anything does. -/
def content? : Option Node → Except FileError ByteArray
  | none => .error .notFound
  | some .directory => .error .isDirectory
  | some (.file content) => .ok content

/-- The text of a file. -/
def text? (node : Option Node) : Except FileError String := do
  match Text.Utf8.strict? (← content? node).toList with
  | some text => return text
  | none => throw .notText

end Node

/-- The named values with the first value of a name replaced, or with a value of that name added. -/
def setNamed {ν α : Type} [BEq ν] (name : ν) (value : α) : List (ν × α) → List (ν × α)
  | [] => [(name, value)]
  | (n, v) :: rest => if n == name then (n, value) :: rest else (n, v) :: setNamed name value rest

theorem lookup_setNamed_self {ν α : Type} [BEq ν] [LawfulBEq ν] (name : ν) (value : α)
    (entries : List (ν × α)) : (setNamed name value entries).lookup name = some value := by
  induction entries with
  | nil => simp [setNamed]
  | cons e rest ih =>
    obtain ⟨n, v⟩ := e
    by_cases h : n = name
    · simp [setNamed, h]
    · have hne : (name == n) = false := by simpa using Ne.symm h
      simp [setNamed, h, List.lookup_cons, hne, ih]

theorem lookup_setNamed_of_ne {ν α : Type} [BEq ν] [LawfulBEq ν] {name other : ν} (value : α)
    (entries : List (ν × α)) (h : other ≠ name) :
    (setNamed name value entries).lookup other = entries.lookup other := by
  have hne : (other == name) = false := by simpa using h
  induction entries with
  | nil => simp [setNamed, List.lookup_cons, hne]
  | cons e rest ih =>
    obtain ⟨n, v⟩ := e
    by_cases hn : n = name
    · simp [setNamed, hn, List.lookup_cons, hne]
    · simp [setNamed, hn, List.lookup_cons, ih]

end ReadoutCard
