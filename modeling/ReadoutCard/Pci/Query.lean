import ReadoutCard.Card
import ReadoutCard.Register

/-! # The PCI layer as a partner in a dialogue

It lists devices by identity, tells a device's address and NUMA node, maps BARs, and answers the
accesses to the windows it mapped. Devices `H` and windows `W` are named as the layer likes. A
`Query` is a program of such requests that may fail.
-/

namespace ReadoutCard

/-- What an operator is warned of. -/
inductive Warning where
  /-- A device was left out because its serial number cannot be read. -/
  | skipped (type : CardType) (address : PciAddress) (cause : Error)
  /-- A device was taken although its serial number cannot be read. -/
  | serialUnreadable (address : PciAddress) (cause : Error)
  deriving DecidableEq, Repr

/-- The wording of a warning. -/
def Warning.message : Warning → String
  | skipped type address cause =>
    "Skipping " ++ type.name ++ " at " ++ address.text ++ ": " ++ cause.message
  | serialUnreadable address cause =>
    "Serial of " ++ address.text ++ " unreadable: " ++ cause.message

/-- A mapped window, and the BAR that it shows. -/
structure Mapping (W : Type) where
  window : W
  bar : Nat

namespace Pci

/-- One request to the PCI layer. -/
inductive Request (H W : Type) where
  /-- The devices of an identity, in the order in which they are found. -/
  | devices (id : PciId)
  | address (device : H)
  | numaNode (device : H)
  | map (device : H) (bar : Nat)
  | access (window : W) (request : Register.Request)
  | warn (warning : Warning)

/-- What the layer answers. -/
abbrev Answer {H W : Type} : Request H W → Type
  | .devices _ => Except Error (List H)
  | .address _ => Except Error PciAddress
  | .numaNode _ => Except Error Int
  | .map _ _ => Except Error (Mapping W)
  | .access _ request => Register.Answer request
  | .warn _ => Unit

/-- A program of requests to the PCI layer that may fail. -/
abbrev Query (H W α : Type) := ExceptT Error (Dialogue (Request H W) Answer) α

variable {H W α : Type}

/-- The devices of an identity. -/
def devices (id : PciId) : Query H W (List H) :=
  ExceptT.mk (Dialogue.request (Request.devices id))

/-- The address of a device. -/
def address (device : H) : Query H W PciAddress :=
  ExceptT.mk (Dialogue.request (Request.address device))

/-- The NUMA node of a device. -/
def numaNode (device : H) : Query H W Int :=
  ExceptT.mk (Dialogue.request (Request.numaNode device))

/-- Maps a BAR of a device. -/
def map (device : H) (bar : Nat) : Query H W (Mapping W) :=
  ExceptT.mk (Dialogue.request (Request.map device bar))

/-- Warns the operator. -/
def warn (warning : Warning) : Query H W Unit :=
  ExceptT.lift (Dialogue.request (Request.warn warning))

/-- A check that needs no request. -/
def ofExcept (result : Except Error α) : Query H W α := ExceptT.mk (.done result)

/-- Lets a mapped window answer register accesses. -/
def onWindow (window : W) (d : Dialogue Register.Request Register.Answer α) :
    Dialogue (Request H W) Answer α :=
  d.through fun q => Dialogue.request (Request.access window q)

/-- Runs an access program over a mapped window. -/
def access (m : Mapping W) (p : Access α) : Query H W α :=
  ExceptT.mk (onWindow m.window (ExceptT.run p))

/-- Goes on with the failure of a query as a value. -/
def attempt (q : Query H W α) : Query H W (Except Error α) := ExceptT.lift (ExceptT.run q)

end Pci

end ReadoutCard
