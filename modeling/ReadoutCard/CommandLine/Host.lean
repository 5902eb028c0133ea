import ReadoutCard.CommandLine.Commands
import ReadoutCard.Pci.Sysfs

/-! # Running the command line over a file system

A host is a file system with the tree of device directories in it and the files that commands saved.
Running the same arguments over the same host always gives the same outcome.
-/

namespace ReadoutCard.CommandLine

/-- A file system with a tree of device directories. -/
structure Host where
  /-- The directory where relative paths start. -/
  workingDirectory : Place
  /-- Where the tree of device directories is. -/
  treePlace : Place
  tree : DeviceTree
  /-- The files saved outside of the tree, or deeper in it than the files of the devices. -/
  saved : List (Place × ByteArray)
  /-- The lines printed, newest first. -/
  printed : List String

/-- What a run of the command line leaves behind. -/
structure Outcome where
  exitCode : Nat
  output : String
  report : String
  deriving DecidableEq, Repr

namespace Host

/-- What stands at a place. The directories down to the working directory and to the tree exist. -/
def kind? (h : Host) (place : Place) : Option FileKind :=
  if (h.saved.lookup place).isSome then some .file
  else if place <+: h.workingDirectory ∨ place <+: h.treePlace.dropLast then some .directory
  else do (← h.tree.directory).kind? (← h.treePlace.isPrefixOf? place)

/-- The host with a file at a place. -/
def put (h : Host) (place : Place) (content : ByteArray) : Host :=
  match (do (← h.tree.directory).save? content (← h.treePlace.isPrefixOf? place)) with
  | some d => { h with tree := { h.tree with directory := some d } }
  | none => { h with saved := setNamed place content h.saved }

/-- Saves a file under a path. -/
def save (h : Host) (path : Path) (content : ByteArray) : Except FileError Unit × Host :=
  match path.fileToWrite h.kind? h.workingDirectory with
  | .ok place => (.ok (), h.put place content)
  | .error e => (.error e, h)

/-- The host as a partner of commands. -/
def answer : (q : Request FileName Sysfs.Resource) → Host → Answer q × Host
  | .pci q, h =>
    let ⟨workingDirectory, treePlace, tree, saved, printed⟩ := h
    let (a, tree) := Sysfs.answer q tree
    (a, ⟨workingDirectory, treePlace, tree, saved, printed⟩)
  | .print line, h => ((), { h with printed := line :: h.printed })
  | .save path content, h =>
    let (result, h) := h.save path content
    (result.mapError FileError.message, h)

/-- All lines printed, in order. -/
def output (h : Host) : String := String.join (h.printed.reverse.map (· ++ "\n"))

end Host

/-- The name and version of the program. -/
def versionText : String := "roc 0.1.0"

/-- Runs the command line: rejected arguments leave with their own code, a failing command with
code 1. -/
def run (arguments : List String) (host : Host) : Outcome × Host :=
  match parse arguments with
  | .error rejection => (⟨rejection.exitCode, "", rejection.report⟩, host)
  | .ok .version => (⟨0, versionText ++ "\n", ""⟩, host)
  | .ok (.command command) =>
    match Dialogue.run Host.answer (ExceptT.run command.run) host with
    | (.ok _, after) => (⟨0, after.output, ""⟩, after)
    | (.error failure, after) => (⟨1, after.output, failure.report⟩, after)

end ReadoutCard.CommandLine
