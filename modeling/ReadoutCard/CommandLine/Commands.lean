import ReadoutCard.CommandLine.Addressing
import ReadoutCard.CommandLine.Arguments
import ReadoutCard.CommandLine.CardList
import ReadoutCard.MappedCard
import ReadoutCard.Window.LittleEndian

/-! # What the commands do

Register commands use BAR 0 unless a channel is given, `info` the family's board support BAR, all
others that of the CRU. Register addresses are checked before a card is searched for.
-/

namespace ReadoutCard.CommandLine

open Text (padRight)

variable {H W : Type}

/-- The configuration of a command's card. -/
def CardArguments.settings (card : CardArguments) (standard : Nat) : Settings :=
  Settings.ofCard card.id (card.channel.getD standard)

/-- The message of a failure to open a card. -/
def CardArguments.cannotOpen (card : CardArguments) : String := "Cannot open card " ++ card.id.text

/-- Opens the card of a command. -/
def openCard (card : CardArguments) (standard : Nat) : Console H W (MappedCard W) :=
  Console.queryFor card.cannotOpen (MappedCard.ofSettings (card.settings standard))

/-- The board support BAR of a family. -/
def supportBar : CardType → Nat
  | .crorc => crorcFlashBar
  | .cru => cruSupportBar
  | .unknown => cruSupportBar

/-- The firmware's build and the chip's identity, read through the board support BAR of a CRU. -/
def supportTexts (found : Found H) : Pci.Query H W (Option String × Option String) :=
  if found.card.type = .cru then do
    let m ← Pci.map found.device cruSupportBar
    let b : Binding := ⟨found.card.type, m.bar⟩
    let firmware ← Pci.access m (Cru.firmwareInfo b)
    let chip ← Pci.access m (Cru.chipId b)
    return (firmware, chip)
  else return (none, none)

/-- Prints the rows of cards, numbered from `number` on. -/
def printCards (number : Nat) : List (Found H) → Console H W Unit
  | [] => return ()
  | found :: rest => do
    let texts ← Console.query (Pci.attempt (supportTexts found))
    let (firmware, chip) := texts.toOption.getD (none, none)
    Console.print (CardRow.text number ⟨found.card, firmware, chip⟩)
    printCards (number + 1) rest

/-- Lists the installed cards. -/
def listCards : Console H W Unit := do
  let cards ← Console.query Inventory.all
  Console.print cardHeading
  Console.print cardRule
  printCards 0 cards
  Console.print ""
  Console.print (cardCount cards.length)

/-- Prints the value of a register. -/
def readRegister (card : CardArguments) (address : Nat) : Console H W Unit := do
  let index ← Console.ofExcept (alignedIndex address)
  let s ← openCard card 0
  let value ← Console.access s.mapping (s.binding.read index)
  Console.print (Text.hexWord value)

/-- Writes a register and prints what it then holds, if wanted. -/
def writeRegister (card : CardArguments) (address : Nat) (value : UInt32) (readBack : Bool) :
    Console H W Unit := do
  let index ← Console.ofExcept (alignedIndex address)
  let s ← openCard card 0
  Console.access s.mapping (s.binding.write index value)
  if readBack then
    let value ← Console.access s.mapping (s.binding.read index)
    Console.print (Text.hexWord value)
  else Console.print "Done!"

/-- Reads registers from an index on, after those `read` so far, newest first. -/
def readWords (b : Binding) (index : Nat) (read : List UInt32) : Nat → Access (List UInt32)
  | 0 => return read.reverse
  | count + 1 => do
    let value ← b.read index
    readWords b (index + 1) (value :: read) count

/-- Prints registers from an index on, each with its byte address. -/
def printWords (index : Nat) : List UInt32 → Console H W Unit
  | [] => return ()
  | value :: rest => do
    Console.print ("0x" ++ Text.hexPadded 8 (index * 4) ++ "  " ++ Text.hexWord value)
    printWords (index + 1) rest

/-- Prints consecutive registers, or saves them to a file. Nothing is printed or saved unless all
could be read. -/
def readRegisters (card : CardArguments) (address count : Nat) (file : Option Path) :
    Console H W Unit := do
  let range ← Console.ofExcept (IndexRange.ofAddress address count)
  let s ← openCard card 0
  let values ← Console.access s.mapping (readWords s.binding range.first [] range.count)
  match file with
  | none => printWords range.first values
  | some path =>
    match ← Console.save path (LittleEndian.ofWords values) with
    | .ok _ => Console.print ("Wrote " ++ toString count ++ " register(s) to " ++ path.text)
    | .error reason => throw ⟨"Cannot write " ++ path.text, some reason⟩

/-- Prints a labelled value. -/
def printField (label value : String) : Console H W Unit :=
  Console.print (padRight 13 label ++ ": " ++ value)

/-- The BAR that `info` looks at. -/
def infoBar (type : CardType) : Option Int → Except Failure Nat
  | none => .ok (supportBar type)
  | some channel =>
    if 0 ≤ channel then .ok channel.toNat
    else .error ⟨"Channel " ++ toString channel ++ " is not a valid BAR index",
      some "out of range integral type conversion attempted"⟩

/-- Prints what a card tells of itself. -/
def info (card : CardArguments) : Console H W Unit := do
  let found ← Console.query (Inventory.locate card.id)
  let bar ← Console.ofExcept (infoBar found.card.type card.channel)
  let s ← Console.queryFor card.cannotOpen (MappedCard.ofFound found bar)
  printField "Card type" s.card.type.name
  printField "PCI address" s.card.address.text
  printField "PCI ID" s.card.pciId.text
  printField "NUMA node" (toString s.card.numaNode)
  let a ← Console.ofExcept (s.accessors.mapError Failure.ofError)
  printField "Serial" (orNone toString (← Console.access s.mapping a.serial))
  printField "Temperature"
    (orNone (fun t => t.text ++ " °C") (← Console.access s.mapping a.temperature))
  printField "Firmware" (orNone id (← Console.access s.mapping a.firmwareInfo))
  printField "Card ID" (orNone id (← Console.access s.mapping a.chipId))
  printField "Links" (orNone toString (← Console.access s.mapping a.links))
  printField "Dropped pkts" (orNone toString (← Console.access s.mapping a.packetsDropped))
  match a with
  | .crorc _ => return ()
  | .cru b =>
    printField "CTP clock" (toString (← Console.access s.mapping (Cru.ctpFrequency b)) ++ " Hz")
    printField "Local clock"
      (toString (← Console.access s.mapping (Cru.localFrequency b)) ++ " Hz")
    let features ← Console.access s.mapping (Cru.features b)
    printField "Mode" (if features.standalone then "standalone" else "integrated")

/-- The binding of a mapped card's window, if it is a CRU. -/
def requireCru (s : MappedCard W) (what : String) : Except Failure Binding :=
  match s.accessors with
  | .ok (.cru b) => .ok b
  | .ok (.crorc _) => .error ⟨what ++ " is only available on the CRU", none⟩
  | .error e => .error (Failure.ofError e)

/-- Enables exactly the links given. -/
def setLinks (card : CardArguments) (links : LinkMask) : Console H W Unit := do
  let s ← Console.query (MappedCard.ofSettings (card.settings cruSupportBar))
  let b ← Console.ofExcept (requireCru s "Link enable")
  Console.access s.mapping (Cru.setLinks b links)
  Console.print "Done!"

/-- The register accesses of `generator`: unless it is to be stopped, the generator is configured,
its counter reset and, where the firmware has the choice, made the data source before it starts. -/
def driveGenerator (b : Binding) (pattern : Pattern) (size : Nat)
    (randomSize disable injectError : Bool) : Access Unit := do
  if !disable then
    Cru.setPattern b pattern size randomSize
    Cru.resetCounter b
    if (← Cru.features b).dataSelection then
      Cru.setSource b .internal
  Cru.setEnabled b (!disable)
  if injectError then
    Cru.injectError b

/-- Configures and starts the data generator, or stops it. -/
def generator (card : CardArguments) (pattern : Pattern) (size : Nat)
    (randomSize disable injectError : Bool) : Console H W Unit := do
  let s ← Console.query (MappedCard.ofSettings (card.settings cruSupportBar))
  let b ← Console.ofExcept (requireCru s "Generator control")
  Console.access s.mapping (driveGenerator b pattern size randomSize disable injectError)
  Console.print "Done!"

/-- Runs an operation of the slow-control engine of a card. -/
def runSca {α : Type} (card : CardArguments) (operation : Binding → Sca.Engine α) :
    Console H W α := do
  let s ← openCard card cruSupportBar
  Console.query (ExceptT.mk do
    let (result, _) ← Pci.onWindow s.mapping.window
      ((operation s.binding).start .uninitialized)
    return result)

/-- Carries a command out. -/
def Command.run : Command → Console H W Unit
  | .listCards => CommandLine.listCards
  | .readRegister card address => CommandLine.readRegister card address
  | .writeRegister card address value readBack =>
    CommandLine.writeRegister card address value readBack
  | .readRegisters card address count file => CommandLine.readRegisters card address count file
  | .info card => CommandLine.info card
  | .setLinks card links => CommandLine.setLinks card links
  | .generator card pattern size randomSize disable injectError =>
    CommandLine.generator card pattern size randomSize disable injectError
  | .scaSetUp card => do
    runSca card Sca.setUp
    Console.print "Done!"
  | .scaGpioRead card => do
    let response ← runSca card Sca.outputs
    Console.print response.text
  | .scaGpioWrite card outputs => do
    let response ← runSca card fun b => Sca.setOutputs b outputs
    Console.print response.text

end ReadoutCard.CommandLine
