import ReadoutCard.Card.Accessors
import ReadoutCard.Pci.Query

/-! # Finding the installed cards

Families are searched in their order, the devices of each as they are listed. A device whose serial
number cannot be read is skipped with a warning; failing to list devices, or to read an address or
the NUMA node of a device that is not skipped, ends the search. Serial numbers are read only of
devices that may match, and a search for one card ends at the first match.
-/

namespace ReadoutCard

/-- An installed card and the device that it is. -/
structure Found (H : Type) where
  card : Card
  device : H

namespace Inventory

open Pci (Query)

variable {H W α : Type}

/-- Reads the serial number of a device of a family. -/
def serialOf (family : Family) (device : H) : Query H W (Option Int) := do
  let m ← Pci.map device family.serial.bar
  Pci.access m (family.serial.read m.bar)

/-- The serial number, or nothing if the device is to be skipped. -/
def usableSerial (family : Family) (device : H) (address : PciAddress) :
    Query H W (Option (Option Int)) := do
  match ← Pci.attempt (serialOf family device) with
  | .ok serial => return some serial
  | .error cause =>
    Pci.warn (.skipped family.type address cause)
    return none

/-- The description of a device, whose NUMA node is read last. -/
def entryOf (family : Family) (device : H) (address : PciAddress) (serial : Option Int) :
    Query H W (Found H) := do
  let node ← Pci.numaNode device
  return ⟨⟨family.type, serial, family.pciId, address, node⟩, device⟩

/-- Visits devices in order and keeps what the visits give. -/
def keep (visit : H → Query H W (Option α)) : List H → Query H W (List α)
  | [] => return []
  | device :: rest => do
    match ← visit device with
    | none => keep visit rest
    | some a => return a :: (← keep visit rest)

/-- Visits the devices of families in order and keeps what the visits give. -/
def keepAll (visit : Family → H → Query H W (Option α)) : List Family → Query H W (List α)
  | [] => return []
  | family :: rest => do
    let here ← keep (visit family) (← Pci.devices family.pciId)
    return here ++ (← keepAll visit rest)

/-- Visits devices in order up to the first visit that gives something. -/
def first (visit : H → Query H W (Option α)) : List H → Query H W (Option α)
  | [] => return none
  | device :: rest => do
    match ← visit device with
    | none => first visit rest
    | some a => return some a

/-- Visits the devices of families in order up to the first visit that gives something. -/
def firstOf (visit : Family → H → Query H W (Option α)) : List Family → Query H W (Option α)
  | [] => return none
  | family :: rest => do
    match ← first (visit family) (← Pci.devices family.pciId) with
    | none => firstOf visit rest
    | some a => return some a

/-- Describes a device unless it has to be skipped. -/
def entryUnlessSkipped (family : Family) (device : H) (address : PciAddress) :
    Query H W (Option (Found H)) := do
  match ← usableSerial family device address with
  | none => return none
  | some serial => return some (← entryOf family device address serial)

/-- Every installed card, with its device. -/
def all : Query H W (List (Found H)) :=
  keepAll (fun family device => do
    entryUnlessSkipped family device (← Pci.address device)) Family.all

/-- Every installed card. -/
def cards : Query H W (List Card) := do return (← all).map Found.card

/-- Every installed card of a serial number. -/
def withSerial (serial : Int) : Query H W (List Card) := do
  return (← cards).filter fun card => card.serial = some serial

/-- Every installed card at an address. -/
def atAddress (wanted : PciAddress) : Query H W (List Card) := do
  let found ← keepAll (fun family device => do
    let address ← Pci.address device
    if address = wanted then entryUnlessSkipped family device address else return none)
    Family.all
  return found.map Found.card

/-- Visits a device in the search for a card. A device matched by address is taken even if its
serial number cannot be read. -/
def matching (id : CardId) (family : Family) (device : H) : Query H W (Option (Found H)) := do
  let address ← Pci.address device
  match id with
  | .address wanted =>
    if address = wanted then
      match ← Pci.attempt (serialOf family device) with
      | .ok serial => return some (← entryOf family device address serial)
      | .error cause =>
        Pci.warn (.serialUnreadable address cause)
        return some (← entryOf family device address none)
    else return none
  | .serial wanted =>
    if (← usableSerial family device address) = some (some wanted) then
      return some (← entryOf family device address (some wanted))
    else return none

/-- The card of an identifier: the first that matches. -/
def locate (id : CardId) : Query H W (Found H) := do
  match ← firstOf (matching id) Family.all with
  | some found => return found
  | none => throw (.notFound id)

end Inventory

end ReadoutCard
