import ReadoutCard.Card.Accessors
import ReadoutCard.Proofs.Sca.Calls

/-!
# The register operations

Everything that accesses the registers of a card, listed with its arguments:
`Operation`, with the program of each. What holds of every operation is proved
by cases on it.
-/

namespace ReadoutCard

namespace Cru

/-- What can be asked of a CRU and set in it. -/
inductive Operation where
  | serial
  | temperature
  | firmwareInfo
  | chipId
  | features
  | packetsDropped
  | ctpFrequency
  | localFrequency
  | wrapperLinks (wrapper : Nat)
  | links
  | setPattern (pattern : Pattern) (size : Nat) (randomSize : Bool)
  | setEnabled (on : Bool)
  | resetCounter
  | injectError
  | setSource (source : DataSource)
  | setLinks (mask : LinkMask)
  | resetCard

namespace Operation

/-- What an operation gives if it succeeds. -/
abbrev Value : Operation → Type
  | serial => Option Int
  | temperature => Option Temperature
  | firmwareInfo => Option String
  | chipId => Option String
  | features => Features
  | packetsDropped => UInt32
  | ctpFrequency => UInt32
  | localFrequency => UInt32
  | wrapperLinks _ => Nat
  | links => Nat
  | setPattern _ _ _ => Unit
  | setEnabled _ => Unit
  | resetCounter => Unit
  | injectError => Unit
  | setSource _ => Unit
  | setLinks _ => Unit
  | resetCard => Unit

/-- The program of an operation. -/
def program (b : Binding) : (o : Operation) → Access o.Value
  | serial => Cru.serial b
  | temperature => Cru.temperature b
  | firmwareInfo => Cru.firmwareInfo b
  | chipId => Cru.chipId b
  | features => Cru.features b
  | packetsDropped => Cru.packetsDropped b
  | ctpFrequency => Cru.ctpFrequency b
  | localFrequency => Cru.localFrequency b
  | wrapperLinks wrapper => Cru.wrapperLinks b wrapper
  | links => Cru.links b
  | setPattern pattern size randomSize => Cru.setPattern b pattern size randomSize
  | setEnabled on => Cru.setEnabled b on
  | resetCounter => Cru.resetCounter b
  | injectError => Cru.injectError b
  | setSource source => Cru.setSource b source
  | setLinks mask => Cru.setLinks b mask
  | resetCard => Cru.resetCard b

end Operation

end Cru

namespace Accessors

/-- What can be asked of a card of either family. -/
inductive Operation where
  | serial
  | temperature
  | firmwareInfo
  | chipId
  | packetsDropped
  | links

namespace Operation

/-- What an operation gives if it succeeds. -/
abbrev Value : Operation → Type
  | serial => Option Int
  | temperature => Option Cru.Temperature
  | firmwareInfo => Option String
  | chipId => Option String
  | packetsDropped => Option UInt32
  | links => Option Nat

/-- The program of an operation. -/
def program (a : Accessors) : (o : Operation) → Access o.Value
  | serial => a.serial
  | temperature => a.temperature
  | firmwareInfo => a.firmwareInfo
  | chipId => a.chipId
  | packetsDropped => a.packetsDropped
  | links => a.links

end Operation

end Accessors

/-- An operation with all it is given, down to the state of the slow-control engine. -/
inductive Operation where
  | read (b : Binding) (index : Nat)
  | write (b : Binding) (index : Nat) (value : UInt32)
  | modify (b : Binding) (index : Nat) (f : UInt32 → UInt32)
  | cru (b : Binding) (operation : Cru.Operation)
  | crorcSerial (b : Binding)
  | crorcRecord (b : Binding)
  | card (a : Accessors) (operation : Accessors.Operation)
  | serialStore (source : SerialStore) (bar : Nat)
  | sca (b : Binding) (st : Sca.State) (call : Sca.Call)

namespace Operation

/-- What an operation gives if it succeeds. -/
abbrev Value : Operation → Type
  | read _ _ => UInt32
  | write _ _ _ => Unit
  | modify _ _ _ => UInt32
  | cru _ operation => operation.Value
  | crorcSerial _ => Option Int
  | crorcRecord _ => Option String
  | card _ operation => operation.Value
  | serialStore _ _ => Option Int
  | sca _ _ call => call.Value

/-- The program of an operation; for the slow control, without the state that it leaves. -/
def program : (o : Operation) → Access o.Value
  | read b index => b.read index
  | write b index value => b.write index value
  | modify b index f => b.modify index f
  | cru b operation => operation.program b
  | crorcSerial b => Crorc.serial b
  | crorcRecord b => Crorc.recordText b
  | card a operation => operation.program a
  | serialStore source bar => source.read bar
  | sca b st call => (call.program b).accesses st

end Operation

end ReadoutCard
