import ReadoutCard.Pci.DeviceTree
import ReadoutCard.Pci.Query
import ReadoutCard.PciAddress.Parser
import ReadoutCard.Window.Mapped

/-! # The PCI layer over a tree of device directories

Each entry of the root is a device directory, named `domain:bus:device.function`. Its files `vendor`
and `device` hold the identity, `numa_node` the NUMA node, and `resource0` to `resource5` the BARs;
windows read and write these files. Entries whose identity cannot be read are passed over, and the
devices of an identity are listed by name, whatever the order of the directory.
-/

namespace ReadoutCard.Sysfs

open DeviceTree (Entry)

/-- A window onto a resource file: the device directory and the BAR. -/
structure Resource where
  device : FileName
  bar : Nat
  deriving DecidableEq, Repr

/-- The order of names, byte by byte. -/
def nameLe : FileName → FileName → Bool
  | [], _ => true
  | _ :: _, [] => false
  | a :: as, b :: bs => a < b || (a == b && nameLe as bs)

/-- The name of a BAR's resource file. -/
def resourceName (bar : Nat) : String := "resource" ++ toString bar

/-- A text without the marks `0x` at its start, however many. -/
def dropMarks : List Char → List Char
  | '0' :: 'x' :: rest => dropMarks rest
  | text => text

/-- The half of an identity in an attribute file, if it can be read. -/
def idHalf? (node : Option Node) : Option UInt16 :=
  match Node.text? node with
  | .error _ => none
  | .ok text =>
    match Text.Numeral.natural 16 (Text.Numeral.unsignedLimit 16)
        (dropMarks (Text.trim text.toList)) with
    | .ok half => some (UInt16.ofNat half)
    | .error _ => none

/-- The identity of an entry, if both halves can be read. -/
def idOf? (e : Entry) : Option PciId := do
  let vendor ← idHalf? (e.file? "vendor")
  let device ← idHalf? (e.file? "device")
  return ⟨vendor, device⟩

/-- The names of the devices of an identity, in order. -/
def devices (t : DeviceTree) (id : PciId) : Except Error (List FileName) :=
  match t.directory with
  | none => .error (.pci ("Cannot read PCI devices in " ++ t.root ++ ": " ++
      FileError.notFound.message))
  | some d =>
    .ok (((d.entries.filter fun e => idOf? e == some id).map Entry.name).mergeSort nameLe)

/-- The address that a device's name tells. -/
def address (device : FileName) : Except Error PciAddress :=
  PciAddress.parseDirectoryName (Text.Utf8.readable device)

/-- The NUMA node of a device; `-1` where there is no such attribute. -/
def numaNode (t : DeviceTree) (device : FileName) : Except Error Int :=
  match Node.text? (t.file? device "numa_node") with
  | .error .notFound => .ok (-1)
  | .error e => .error (.pci ("Cannot read " ++ t.path device "numa_node" ++ ": " ++ e.message))
  | .ok text =>
    match Text.Numeral.integer 10 (Text.Numeral.signedLimit 32) (Text.trim text.toList) with
    | .ok node => .ok node
    | .error e => .error (.pci ("Invalid NUMA node in " ++ t.path device "numa_node" ++ ": " ++
        e.message))

/-- Opens a resource file for mapping as BAR `bar`; an empty file cannot be mapped. -/
def openResource (path : String) (bar : Nat) (node : Option Node) : Except Error ByteArray :=
  match Node.content? node with
  | .error e => .error (.pci ("Cannot open " ++ path ++ ": " ++ e.message))
  | .ok content =>
    if content.size = 0 then
      .error (.pci ("BAR" ++ toString bar ++ " size is 0 (" ++ path ++ "; device not enabled?)"))
    else .ok content

/-- Maps a BAR of a device. -/
def map (t : DeviceTree) (device : FileName) (bar : Nat) : Except Error (Mapping Resource) :=
  if bar < maxBars then
    (openResource (t.path device (resourceName bar)) bar (t.file? device (resourceName bar))).map
      fun _ => ⟨⟨device, bar⟩, bar⟩
  else .error (.pci ("BAR" ++ toString bar ++ " does not exist (a PCI function has " ++
    toString maxBars ++ ")"))

/-- The failure of an access to a window whose file is gone. -/
def lost : Error := .pci "window is not mapped"

/-- Reads a register of a window. -/
def read (t : DeviceTree) (w : Resource) (index : Nat) : Except Error UInt32 :=
  match t.file? w.device (resourceName w.bar) with
  | some (.file content) => Mapped.read w.bar content index
  | _ => .error lost

/-- Writes a register of a window. -/
def write (t : DeviceTree) (w : Resource) (index : Nat) (value : UInt32) :
    Except Error Unit × DeviceTree :=
  t.modifyFileOf w.device (resourceName w.bar) (.error lost) fun content =>
    Mapped.write w.bar content index value

/-- The tree as a partner. -/
def answer : (q : Pci.Request FileName Resource) → DeviceTree → Pci.Answer q × DeviceTree
  | .devices id, t => (devices t id, t)
  | .address device, t => (address device, t)
  | .numaNode device, t => (numaNode t device, t)
  | .map device bar, t => (map t device bar, t)
  | .access w (.read index), t => (read t w index, t)
  | .access w (.write index value), t => write t w index value
  | .warn _, t => ((), t)

end ReadoutCard.Sysfs
