import ReadoutCard.Files
import ReadoutCard.Text.Split

/-! # Paths

A path is a text of names between slashes. Two paths compare equal (`==`) when they start alike and
the same names follow: slashes beside slashes, dots inside a path and a slash at its end make no
difference, while `..` is a name like others.

Where a path leads depends on what stands on the way. `fileToWrite` follows it name by name, as the
system does that opens a file for writing.
-/

namespace ReadoutCard

/-- A place in a file system: the names on the way to it from the root. -/
abbrev Place := List String

/-- A path, as it is written. -/
structure Path where
  text : String
  deriving Repr

namespace Path

/-- The texts between the slashes. -/
def pieces (p : Path) : List String := (Text.pieces '/' p.text.toList).map String.ofList

/-- Whether the path starts at the root. -/
def isAbsolute (p : Path) : Bool := p.text.toList.head? == some '/'

/-- Whether the path starts with a dot. -/
def startsWithDot (p : Path) : Bool := p.pieces.head? == some "."

/-- The names in the path that lead away from where it starts. -/
def steps (p : Path) : List String := p.pieces.filter fun name => name ≠ "" && name ≠ "."

instance : BEq Path where
  beq p q := p.isAbsolute == q.isAbsolute && p.startsWithDot == q.startsWithDot &&
    p.steps == q.steps

theorem beq_iff {p q : Path} : (p == q) = true ↔
    p.isAbsolute = q.isAbsolute ∧ p.startsWithDot = q.startsWithDot ∧ p.steps = q.steps := by
  change (_ && _ && _) = true ↔ _
  simp [and_assoc]

instance : EquivBEq Path where
  rfl := beq_iff.2 ⟨rfl, rfl, rfl⟩
  symm h := let ⟨a, d, s⟩ := beq_iff.1 h; beq_iff.2 ⟨a.symm, d.symm, s.symm⟩
  trans h h' :=
    let ⟨a, d, s⟩ := beq_iff.1 h
    let ⟨a', d', s'⟩ := beq_iff.1 h'
    beq_iff.2 ⟨a.trans a', d.trans d', s.trans s'⟩

/-- The most bytes that a name may have. -/
def longestName : Nat := 255

/-- The most bytes that a path may have. -/
def longestPath : Nat := 4095

/-- Whether a name stands for a directory by its relation to the one it is looked up in. -/
def isRelative (name : String) : Bool := name == "." || name == ".."

/-- The place of a name in the directory at `place`, if the name is not too long. -/
def locate (place : Place) (name : String) : Except FileError Place :=
  if longestName < name.utf8ByteSize then .error .nameTooLong else .ok (place ++ [name])

/-- Goes on to the directory that a name stands for in the directory at `place`. -/
def enter (kind? : Place → Option FileKind) (place : Place) (name : String) :
    Except FileError Place := do
  if name = "." then return place
  if name = ".." then return place.dropLast
  let place ← locate place name
  match kind? place with
  | some .directory => return place
  | some .file => throw .notDirectory
  | none => throw .notFound

/-- The place of the file to be written under a path. Everything before the last name has to lead
through directories. The last name stands for a file, there already or not; it cannot be a
directory, nor have a slash after it. -/
def fileToWrite (kind? : Place → Option FileKind) (start : Place) (p : Path) :
    Except FileError Place := do
  if longestPath < p.text.utf8ByteSize then throw .nameTooLong
  let names := p.pieces.filter (· ≠ "")
  match names.getLast? with
  | none => throw (if p.isAbsolute then .isDirectory else .notFound)
  | some name =>
    let place ← names.dropLast.foldlM (enter kind?) (if p.isAbsolute then [] else start)
    if isRelative name || p.pieces.getLast? == some "" then throw .isDirectory
    let place ← locate place name
    if kind? place = some .directory then throw .isDirectory
    return place

end Path

end ReadoutCard
