import ReadoutCard.Cru.Features
import ReadoutCard.Cru.Generator
import ReadoutCard.Cru.Registers
import ReadoutCard.Cru.Temperature
import ReadoutCard.LinkMask
import ReadoutCard.Register.Binding

/-! # What can be asked of a CRU and set in it

Serial number, temperature, firmware information and chip identity are in the board support BAR
only and may be left out of a firmware: each accessor checks the BAR, then the features, and only
then reads its own registers. Every setter makes at most one write, as its last access.
-/

namespace ReadoutCard.Cru

/-- The firmware's features. -/
def features (b : Binding) : Access Features := do
  return Features.ofWord (← b.read firmwareFeatures.index)

/-- The result of `value` where the BAR is right and the feature present. -/
def gated {α : Type} (b : Binding) (what : String) (present : Features → Bool)
    (value : Access (Option α)) : Access (Option α) := do
  b.requireBar cruSupportBar what
  if present (← features b) then value else return none

/-- The number in the serial number register; none was programmed if all bits are set, and what
does not fit a signed word is no serial number. -/
def serialOfWord (word : UInt32) : Option Int :=
  if word.toNat < 1 <<< 31 then some word.toNat else none

/-- The serial number. -/
def serial (b : Binding) : Access (Option Int) :=
  gated b "serial number" Features.serial do
    return serialOfWord (← b.read serialNumber.index)

/-- The temperature. -/
def temperature (b : Binding) : Access (Option Temperature) :=
  gated b "temperature" Features.temperature do
    return Temperature.ofSensor (← b.read temperatureSensor.index)

/-- The firmware's build as `date-time-hash`, each in hexadecimal. -/
def firmwareInfo (b : Binding) : Access (Option String) :=
  gated b "firmware info" Features.firmwareInfo do
    let date ← b.read firmwareDate.index
    let time ← b.read firmwareTime.index
    let hash ← b.read firmwareGitHash.index
    return some (Text.hex date.toNat ++ "-" ++ Text.hex time.toNat ++ "-" ++ Text.hex hash.toNat)

/-- The identity of the chip as `high-low`, eight hexadecimal digits each. -/
def chipId (b : Binding) : Access (Option String) :=
  gated b "card ID" Features.chipId do
    let high ← b.read fpgaChipHigh.index
    let low ← b.read fpgaChipLow.index
    return some (Text.hexPadded 8 high.toNat ++ "-" ++ Text.hexPadded 8 low.toNat)

/-- The number of packets dropped. -/
def packetsDropped (b : Binding) : Access UInt32 := b.read droppedPackets.index

/-- The frequency of the CTP clock in Hz. -/
def ctpFrequency (b : Binding) : Access UInt32 := b.read ctpClock.index

/-- The frequency of the local clock in Hz. -/
def localFrequency (b : Binding) : Access UInt32 := b.read localClock.index

/-- The base register of a wrapper, if the card has it. -/
def wrapperBase? : Nat → Option Register
  | 0 => some wrapper0
  | 1 => some wrapper1
  | _ => none

/-- The number of links of one wrapper: bits 31:24 of its configuration word. -/
def wrapperLinks (b : Binding) (wrapper : Nat) : Access Nat :=
  match wrapperBase? wrapper with
  | none => throw (.configuration "Wrapper" ("wrapper " ++ toString wrapper ++
      " out of range (card has " ++ toString wrapperCount ++ ")"))
  | some base => do
    let word ← b.read (base.offset wrapperConfiguration).index
    return (Bits.field word 24 8).toNat

/-- The number of links of all wrappers. -/
def links (b : Binding) : Access Nat := do
  let first ← wrapperLinks b 0
  let second ← wrapperLinks b 1
  return first + second

/-- The control word with pattern, page size and random size set. -/
def configured (word : UInt32) (pattern : Pattern) (size : Nat) (randomSize : Bool) :
    Except Error UInt32 :=
  let (ended, changed) := (Generator.configure pattern size randomSize).apply word
  ended.map fun _ => changed

/-- Sets pattern, page size and random size of the generator; nothing is written if one of them
cannot be produced. -/
def setPattern (b : Binding) (pattern : Pattern) (size : Nat) (randomSize : Bool) :
    Access Unit := do
  let word ← b.read dataGeneratorControl.index
  let word ← Access.ofExcept (configured word pattern size randomSize)
  b.write dataGeneratorControl.index word

/-- Starts or stops the generator. -/
def setEnabled (b : Binding) (on : Bool) : Access Unit := do
  let _ ← b.modify dataGeneratorControl.index fun word => Generator.setEnabled word on
  return ()

/-- Resets the generator's counter. The register takes commands, so only that bit is written. -/
def resetCounter (b : Binding) : Access Unit := b.write resetControl.index 2

/-- Resets the card. -/
def resetCard (b : Binding) : Access Unit := b.write resetControl.index 1

/-- Puts one error into the generated data. -/
def injectError (b : Binding) : Access Unit := b.write dataGeneratorInjectError.index 1

/-- Where the data comes from: the links or the generator. -/
inductive DataSource where
  | gbt
  | internal
  deriving DecidableEq, Repr

/-- The code of a source. -/
def DataSource.code : DataSource → UInt32
  | gbt => 0
  | internal => 1

/-- Selects the data source, if the firmware lets it be selected. -/
def setSource (b : Binding) (source : DataSource) : Access Unit := do
  if (← features b).dataSelection then b.write dataSourceSelect.index source.code
  else throw (.configuration "DataSource" "data source selection not available in this firmware")

/-- Enables exactly the links of the mask. -/
def setLinks (b : Binding) (mask : LinkMask) : Access Unit := do
  let word ← Access.ofExcept mask.enableWord
  b.write linkEnable.index word

end ReadoutCard.Cru
