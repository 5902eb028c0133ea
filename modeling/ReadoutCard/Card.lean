import ReadoutCard.PciAddress

/-! # Card families and the identity of an installed card -/

namespace ReadoutCard

/-- The card families. -/
inductive CardType where
  | unknown
  | crorc
  | cru
  deriving DecidableEq, Repr

namespace CardType

/-- The name of a family. -/
def name : CardType → String
  | unknown => "Unknown"
  | crorc => "CRORC"
  | cru => "CRU"

/-- What a family adds to every register index of its windows. -/
def registerOffset : CardType → Nat
  | unknown => 0
  | crorc => 0
  | cru => 0

end CardType

/-- The pair of vendor and device by which a PCI function is recognised. -/
structure PciId where
  vendor : UInt16
  device : UInt16
  deriving DecidableEq, Repr

/-- The written form `vvvv:dddd`. -/
def PciId.text (id : PciId) : String :=
  Text.hexPadded 4 id.vendor.toNat ++ ":" ++ Text.hexPadded 4 id.device.toNat

/-- An installed card. -/
structure Card where
  type : CardType
  /-- The serial number, if the card reports one. -/
  serial : Option Int
  pciId : PciId
  address : PciAddress
  /-- The NUMA node, `-1` when the platform reports none. -/
  numaNode : Int
  deriving DecidableEq, Repr

/-- The number of BARs of a PCI function. -/
def maxBars : Nat := 6

/-- The BAR with the flash controller of a C-RORC. -/
def crorcFlashBar : Nat := 0

/-- The BAR with the board support registers of a CRU. -/
def cruSupportBar : Nat := 2

/-- Where a family keeps its serial number: in flash, or in a register. -/
inductive SerialStore where
  | crorcFlash
  | cruRegister
  deriving DecidableEq, Repr

/-- The BAR to map for reading the serial number. -/
def SerialStore.bar : SerialStore → Nat
  | crorcFlash => crorcFlashBar
  | cruRegister => cruSupportBar

/-- A supported family: how it is recognised and where its serial number is. -/
structure Family where
  type : CardType
  pciId : PciId
  serial : SerialStore
  deriving DecidableEq, Repr

namespace Family

/-- The family of C-RORC cards. -/
def crorc : Family := ⟨.crorc, ⟨0x10dc, 0x0033⟩, .crorcFlash⟩

/-- The family of CRU cards. -/
def cru : Family := ⟨.cru, ⟨0x1172, 0xe001⟩, .cruRegister⟩

/-- The supported families, in the order in which they are searched. -/
def all : List Family := [crorc, cru]

/-- No identity belongs to two families. -/
theorem pciId_injective : (all.map Family.pciId).Nodup := by decide

end Family

end ReadoutCard
