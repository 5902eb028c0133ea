import ReadoutCard.CommandLine.Host

/-! # The program `roc`

The device directories are read from the tree named by the environment, or from the system's, before
a command runs; resource files that the command changed are written back after it.
-/

namespace ReadoutCard.Program

open CommandLine

/-- The tree of device directories of the system. -/
def systemRoot : String := "/sys/bus/pci/devices"

/-- The variable that names another tree. -/
def rootVariable : String := "ROC_SYSFS_PCI_ROOT"

/-- The files of a device directory that a command may look at. -/
def fileNames : List String :=
  ["vendor", "device", "numa_node"] ++ (List.range maxBars).map Sysfs.resourceName

/-- The text of a failure to save a file: the system's words and its number. -/
def saveFailure : IO.Error → String
  | .noFileOrDirectory _ code details | .inappropriateType _ code details
  | .permissionDenied _ code details | .invalidArgument _ code details
  | .resourceExhausted _ code details => s!"{details} (os error {code})"
  | e => toString e

/-- Reads the tree of device directories. -/
def loadTree (root : String) : IO DeviceTree := do
  let place := (← IO.currentDir) / root
  if !(← place.isDir) then return ⟨root, none⟩
  let entries ← (← place.readDir).toList.mapM fun item => do
    let files ← fileNames.filterMapM fun name => do
      let path := item.path / name
      if ← path.isDir then return some (name, Node.directory)
      match ← (IO.FS.readBinFile path).toBaseIO with
      | .ok content => return some (name, Node.file content)
      | .error _ => return none
    let isDevice ← item.path.isDir
    let files := if isDevice then some files else none
    return (⟨DeviceTree.fileName item.fileName, files⟩ : DeviceTree.Entry)
  return ⟨root, some (DeviceTree.Directory.ofList entries)⟩

/-- Writes back the resource files that differ from those before. -/
def storeTree (before after : DeviceTree) : IO Unit := do
  let place := (← IO.currentDir) / after.root
  for e in (after.directory.map DeviceTree.Directory.entries).getD [] do
    for (name, node) in e.files.getD [] do
      match node, before.file? e.name name with
      | .file content, some (.file old) =>
        if content != old then
          IO.FS.writeBinFile (place / Text.Utf8.readable e.name / name) content
      | _, _ => pure ()

/-- Answers the requests of a command: the PCI layer is the tree, printing and saving are real. -/
def answer : (q : Request FileName Sysfs.Resource) → StateT DeviceTree IO (Answer q)
  | .pci (.warn warning) => do
    IO.eprintln warning.message
    return ()
  | .pci q => fun t => return Sysfs.answer q t
  | .print line => do IO.println line
  | .save path content => do
    match ← (IO.FS.writeBinFile path.text content).toBaseIO with
    | .ok _ => return .ok ()
    | .error e => return .error (saveFailure e)

/-- Carries a command out; the result is the exit code. -/
def carryOut (command : Command) : IO UInt32 := do
  let before ← loadTree ((← IO.getEnv rootVariable).getD systemRoot)
  let (result, after) ← (Dialogue.answerIn answer (ExceptT.run command.run)).run before
  storeTree before after
  match result with
  | .ok _ => return 0
  | .error failure =>
    IO.eprint failure.report
    return 1

end ReadoutCard.Program

open ReadoutCard in
/-- Reads the arguments and carries out what they ask for. -/
def main (arguments : List String) : IO UInt32 := do
  match CommandLine.parse arguments with
  | .error rejection =>
    if rejection.report ≠ "" then IO.eprintln rejection.report
    return rejection.exitCode.toUInt32
  | .ok .version =>
    IO.println CommandLine.versionText
    return 0
  | .ok (.command command) => Program.carryOut command
