import ReadoutCard.Bits
import ReadoutCard.Error
import ReadoutCard.Register

/-! # The words of the slow-control protocol

A command word holds a channel in bits 31:24, a transaction number in bits 23:16 and, in bits 7:0,
a command or, in a response, error flags. A request is a command word with a data word, a response
likewise.
-/

namespace ReadoutCard.Sca

/-- The fields of a command word. -/
structure Command where
  channel : UInt8
  transaction : UInt8
  /-- The command of a request, the error flags of a response. -/
  opcode : UInt8
  deriving DecidableEq, Repr

namespace Command

/-- The word with these fields. -/
def word (c : Command) : UInt32 :=
  (c.channel.toUInt32 <<< 24) ||| (c.transaction.toUInt32 <<< 16) ||| c.opcode.toUInt32

/-- The fields of a word; its bits 15:8 are not looked at. -/
def ofWord (word : UInt32) : Command :=
  ⟨(Bits.field word 24 8).toUInt8, (Bits.field word 16 8).toUInt8, (word &&& 0xff).toUInt8⟩

end Command

/-- A request to the slow control. -/
structure Request where
  command : UInt32
  data : UInt32
  deriving DecidableEq, Repr

/-- A response of the slow control. -/
structure Response where
  command : UInt32
  data : UInt32
  deriving DecidableEq, Repr

/-- Both words of a response. -/
def Response.text (r : Response) : String :=
  Text.hexWord r.command ++ " " ++ Text.hexWord r.data

/-- The channel of the node controller. -/
def nodeController : UInt8 := 0

/-- The channel of the general purpose pins. -/
def gpio : UInt8 := 2

/-- Enables the GPIO channel. -/
def writeControlB : Request := ⟨Command.word ⟨nodeController, 1, 0x02⟩, 0xff000000⟩

/-- Reads the enabled channels back. -/
def readControlB : Request := ⟨Command.word ⟨nodeController, 2, 0x03⟩, 0xff000000⟩

/-- Makes all pins outputs. -/
def writeDirection : Request := ⟨Command.word ⟨gpio, 3, 0x20⟩, 0xffffffff⟩

/-- Reads the directions back. -/
def readDirection : Request := ⟨Command.word ⟨gpio, 4, 0x21⟩, 0⟩

/-- The command that sets the outputs; the data word holds them. -/
def writeOutputs : UInt32 := Command.word ⟨gpio, 4, 0x10⟩

/-- Reads the outputs. -/
def readOutputs : Request := ⟨Command.word ⟨gpio, 5, 0x11⟩, 0⟩

/-- Reads the inputs. -/
def readInputs : Request := ⟨Command.word ⟨gpio, 6, 0x01⟩, 0⟩

/-- The requests that enable the pins. -/
def enableSequence : List Request := [writeControlB, readControlB, writeDirection, readDirection]

/-- The name of an error flag. Bits 6 and 7 both mean a busy channel. -/
def flagName (bit : Nat) : String :=
  match bit with
  | 1 => "invalid channel request"
  | 2 => "invalid command request"
  | 3 => "invalid transaction number"
  | 4 => "invalid length"
  | 5 => "channel not enabled"
  | 6 => "channel busy"
  | 7 => "channel busy"
  | _ => "generic error flag"

/-- The low byte of a command word. -/
def code (command : UInt32) : UInt32 := command &&& 0xff

/-- The error flags of a response that count: the set ones of bits 0 to 6, in ascending order. -/
def flags (command : UInt32) : List Nat := (List.range 7).filter (Bits.bit (code command))

/-- Fails if a response has error flags. -/
def check (command : UInt32) : Except Error Unit :=
  match flags command with
  | [] => .ok ()
  | set => .error (.protocol (code command) (set.map flagName))

/-- Whether a response only tells that its channel is still busy. -/
def isBusy (command : UInt32) : Bool := code command == 0x40

end ReadoutCard.Sca
