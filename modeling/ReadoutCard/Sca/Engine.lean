import ReadoutCard.Register.Binding
import ReadoutCard.Sca.Command

/-! # The slow-control engine

A request is sent by writing its data and command words and pulsing the control register; then a
busy register is polled until it is zero, and the response is read from two more registers. Before
anything else a handshake on the control register has to be run. The engine keeps the state of the
protocol; after every operation it is idle, or uninitialized if the operation failed.
-/

namespace ReadoutCard.Sca

/-- The data word of the next request. -/
def writeData : Register := ⟨0x1e0⟩

/-- The command word of the next request. -/
def writeCommand : Register := ⟨0x1e4⟩

/-- Steps of the handshake, and the pulse that sends a request. -/
def control : Register := ⟨0x1e8⟩

/-- Not zero while a request is under way. -/
def busy : Register := ⟨0x1ec⟩

/-- The data word of the last response. -/
def readData : Register := ⟨0x1f0⟩

/-- The command word of the last response. -/
def readCommand : Register := ⟨0x1f4⟩

/-- How long the last transaction took, in ticks. -/
def time : Register := ⟨0x1fc⟩

/-- The length of a tick in nanoseconds. -/
def tickNanoseconds : Nat := 4

/-- How often a busy register or channel is polled. -/
def maxBusyPolls : Nat := 10000

/-- The value of the control register at rest. -/
def controlIdle : UInt32 := 0

/-- The first step of the handshake. -/
def controlFirst : UInt32 := 1

/-- The second step of the handshake. -/
def controlSecond : UInt32 := 2

/-- The pulse that sends a request. -/
def controlExecute : UInt32 := 4

/-- The state of the protocol. -/
inductive State where
  /-- Not set up, or the last operation failed. -/
  | uninitialized
  /-- The handshake or the enabling of the pins is under way. -/
  | initializing
  | idle
  /-- A request is under way. -/
  | busy
  deriving DecidableEq, Repr

/-- The name of a state. -/
def State.name : State → String
  | uninitialized => "Uninitialized"
  | initializing => "Initializing"
  | idle => "Idle"
  | busy => "Busy"

/-- A program of the engine: register accesses that may fail, with a state that outlives a
failure. -/
abbrev Engine (α : Type) :=
  ExceptT Error (StateT State (Dialogue Register.Request Register.Answer)) α

namespace Engine

/-- An access program that leaves the state alone. -/
def ofAccess {α : Type} (p : Access α) : Engine α :=
  ExceptT.mk fun s => do return (← p.run, s)

/-- Runs a program from a state. -/
def start {α : Type} (e : Engine α) (s : State) :
    Dialogue Register.Request Register.Answer (Except Error α × State) :=
  (ExceptT.run e).run s

/-- Ends an operation: idle if it succeeded, else uninitialized. -/
def concluding {α : Type} (e : Engine α) : Engine α := ExceptT.mk do
  let result ← ExceptT.run e
  set (match result with
    | .ok _ => State.idle
    | .error _ => State.uninitialized)
  return result

end Engine

/-- Polls the busy register, at most as often as `polls`, until it is zero. -/
def awaitIdle (b : Binding) : Nat → Access Unit
  | 0 => throw (.timeout "SCA busy wait" maxBusyPolls)
  | polls + 1 => do
    if (← b.read busy.index) = 0 then return () else awaitIdle b polls

/-- Waits until no request is under way. -/
def awaitBusyClear (b : Binding) : Access Unit := awaitIdle b maxBusyPolls

/-- Reads the command word of the response anew, at most as often as `polls`, while it only tells
that the channel is busy. -/
def settleCommand (b : Binding) (command : UInt32) : Nat → Access UInt32
  | 0 => return command
  | polls + 1 => do
    if isBusy command then settleCommand b (← b.read readCommand.index) polls
    else return command

/-- Reads a response. A channel still busy after all polls fails the check of the flags. -/
def fetch (b : Binding) : Access Response := do
  let data ← b.read readData.index
  let command ← b.read readCommand.index
  let command ← settleCommand b command maxBusyPolls
  Access.ofExcept (check command)
  return ⟨command, data⟩

/-- Steps through the handshake. -/
def handshake (b : Binding) : Access Unit := do
  b.write control.index controlFirst
  awaitBusyClear b
  b.write control.index controlSecond
  awaitBusyClear b
  b.write control.index controlFirst
  awaitBusyClear b
  b.write control.index controlIdle

/-- The engine is busy from here on, unless it is being set up. -/
def markBusy : Engine Unit := do
  if (← get) ≠ .initializing then set State.busy

/-- Sends a request and waits until it is done. -/
def send (b : Binding) (request : Request) : Engine Unit := do
  Engine.ofAccess do
    b.write writeData.index request.data
    b.write writeCommand.index request.command
  markBusy
  Engine.ofAccess do
    b.write control.index controlExecute
    b.write control.index controlIdle
    awaitBusyClear b

/-- Sends requests in order and reads the response to each. -/
def sendAll (b : Binding) : List Request → Engine Unit
  | [] => return ()
  | request :: rest => do
    send b request
    let _ ← Engine.ofAccess (fetch b)
    sendAll b rest

/-- Sets the engine up: the handshake, then the pins. -/
def setUp (b : Binding) : Engine Unit := do
  set State.initializing
  Engine.concluding do
    Engine.ofAccess (handshake b)
    sendAll b enableSequence

/-- Sends a request. -/
def sendRequest (b : Binding) (request : Request) : Engine Unit :=
  Engine.concluding (send b request)

/-- Reads the response to the last request. -/
def fetchResponse (b : Binding) : Engine Response :=
  Engine.concluding (Engine.ofAccess (fetch b))

/-- Sends a request and reads its response. -/
def perform (b : Binding) (request : Request) : Engine Response := do
  sendRequest b request
  fetchResponse b

/-- Sets the engine up, sets the outputs and reads back outputs and inputs; the result is the
response with the inputs. -/
def setOutputs (b : Binding) (outputs : UInt32) : Engine Response := do
  setUp b
  let _ ← perform b ⟨writeOutputs, outputs⟩
  let _ ← perform b readOutputs
  perform b readInputs

/-- Reads the outputs. -/
def outputs (b : Binding) : Engine Response := perform b readOutputs

/-- How long the last transaction took, in nanoseconds; the state stays as it is. -/
def duration (b : Binding) : Engine Nat := Engine.ofAccess do
  return (← b.read time.index).toNat * tickNanoseconds

end ReadoutCard.Sca
