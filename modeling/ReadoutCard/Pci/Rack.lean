import ReadoutCard.Pci.Query
import ReadoutCard.PciAddress.Parser
import ReadoutCard.Register.Log
import ReadoutCard.Window.Simulated

/-! # A simulated PCI layer: a rack of devices with simulated windows

Devices are named by their position in the rack, windows by device and BAR. Windows keep their
contents however often they are mapped. The rack is for running searches and logging what they do;
statements are about every layer, or about a tree of device directories.
-/

namespace ReadoutCard

/-- A window of a device, and the BAR that it reports. -/
structure RackWindow where
  bar : Nat
  state : Simulated

/-- A device of the rack; what it lacks cannot be read. -/
structure RackDevice where
  id : PciId
  /-- Bus, device and function. -/
  address : Option (Nat × Nat × Nat)
  numaNode : Option Int
  /-- The windows by BAR. -/
  windows : List (Nat × RackWindow)

/-- A rack of devices. -/
structure Rack where
  devices : Array RackDevice
  /-- Identities whose devices cannot be listed. -/
  unlistable : List PciId

namespace Rack

/-- The positions of the devices of an identity. -/
def listing (r : Rack) (id : PciId) : Except Error (List Nat) :=
  if id ∈ r.unlistable then .error (.pci "listing failed")
  else .ok ((List.range r.devices.size).filter fun n => (r.devices[n]?).any fun d => d.id == id)

/-- The address of the device at a position. -/
def addressOf (r : Rack) (position : Nat) : Except Error PciAddress :=
  match (r.devices[position]?).bind RackDevice.address with
  | some (bus, device, function) => PciAddress.ofComponents bus device function
  | none => .error (.pci "no address")

/-- The NUMA node of the device at a position. -/
def numaNodeOf (r : Rack) (position : Nat) : Except Error Int :=
  match (r.devices[position]?).bind RackDevice.numaNode with
  | some node => .ok node
  | none => .error (.pci "no NUMA node")

/-- The window of a device, by BAR. -/
def windowOf? (r : Rack) (position bar : Nat) : Option RackWindow :=
  (r.devices[position]?).bind fun d => d.windows.lookup bar

/-- Lets the window of a device answer an access. -/
def accessWindow (bar : Nat) (q : Register.Request) (windows : List (Nat × RackWindow)) :
    Register.Answer q × List (Nat × RackWindow) :=
  match windows with
  | [] =>
    (match q with
      | .read _ => .error (.pci "no window")
      | .write _ _ => .error (.pci "no window"), [])
  | (b, w) :: rest =>
    if b = bar then
      let (a, state) := (Simulated.window w.bar).answer q w.state
      (a, (b, ⟨w.bar, state⟩) :: rest)
    else
      let (a, rest) := accessWindow bar q rest
      (a, (b, w) :: rest)

/-- The rack as a partner. -/
def answer : (q : Pci.Request Nat (Nat × Nat)) → Rack → Pci.Answer q × Rack
  | .devices id, r => (r.listing id, r)
  | .address position, r => (r.addressOf position, r)
  | .numaNode position, r => (r.numaNodeOf position, r)
  | .map position bar, r =>
    (match r.windowOf? position bar with
      | some w => .ok ⟨(position, bar), w.bar⟩
      | none => .error (.pci ("resource" ++ toString bar ++ " missing")), r)
  | .access (position, bar) q, ⟨devices, unlistable⟩ =>
    match devices[position]? with
    | none => ((accessWindow bar q []).1, ⟨devices, unlistable⟩)
    | some device =>
      let devices := devices.set! position { device with windows := [] }
      let (a, windows) := accessWindow bar q device.windows
      (a, ⟨devices.set! position { device with windows := windows }, unlistable⟩)
  | .warn _, r => ((), r)

/-- The log entry of a request, if it has one. -/
def logEntry? : (q : Pci.Request Nat (Nat × Nat)) → Pci.Answer q → Option String
  | .devices id, _ => some ("devices " ++ id.text)
  | .address position, _ => some ("address " ++ toString position)
  | .numaNode position, _ => some ("numa " ++ toString position)
  | .map position bar, _ => some ("map " ++ toString position ++ " " ++ toString bar)
  | .access _ q, a => some (Register.logEntry q a)
  | .warn _, _ => none

end Rack

end ReadoutCard
