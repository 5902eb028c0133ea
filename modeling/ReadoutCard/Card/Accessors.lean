import ReadoutCard.Crorc.Flash
import ReadoutCard.Cru.Accessors

/-! # What can be asked of a card of either family

Accessors for which a family has no register give nothing, without any access.
-/

namespace ReadoutCard

/-- The register interface of a card, by family. -/
inductive Accessors where
  | crorc (binding : Binding)
  | cru (binding : Binding)
  deriving DecidableEq, Repr

namespace Accessors

/-- The interface of a card of that type over a window of BAR `bar`. -/
def ofType (type : CardType) (bar : Nat) : Except Error Accessors :=
  match type with
  | .crorc => .ok (crorc ⟨type, bar⟩)
  | .cru => .ok (cru ⟨type, bar⟩)
  | .unknown => .error (.configuration "CardType" "no register map for unknown card type")

/-- The type of the card. -/
def type : Accessors → CardType
  | crorc _ => .crorc
  | cru _ => .cru

/-- The serial number. -/
def serial : Accessors → Access (Option Int)
  | crorc b => Crorc.serial b
  | cru b => Cru.serial b

/-- The temperature. -/
def temperature : Accessors → Access (Option Cru.Temperature)
  | crorc _ => return none
  | cru b => Cru.temperature b

/-- The firmware's build. -/
def firmwareInfo : Accessors → Access (Option String)
  | crorc _ => return none
  | cru b => Cru.firmwareInfo b

/-- The identity of the chip. -/
def chipId : Accessors → Access (Option String)
  | crorc _ => return none
  | cru b => Cru.chipId b

/-- The number of packets dropped. -/
def packetsDropped : Accessors → Access (Option UInt32)
  | crorc _ => return none
  | cru b => return some (← Cru.packetsDropped b)

/-- The number of links. -/
def links : Accessors → Access (Option Nat)
  | crorc _ => return none
  | cru b => return some (← Cru.links b)

end Accessors

/-- Reads the serial number where a family keeps it, through a window of BAR `bar`. -/
def SerialStore.read (source : SerialStore) (bar : Nat) : Access (Option Int) :=
  match source with
  | .crorcFlash => Crorc.serial ⟨.crorc, bar⟩
  | .cruRegister => Cru.serial ⟨.cru, bar⟩

end ReadoutCard
