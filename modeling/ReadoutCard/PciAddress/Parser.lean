import ReadoutCard.Error
import ReadoutCard.Text.Blank
import ReadoutCard.Text.Numeral
import ReadoutCard.Text.Split

/-! # Reading PCI addresses, device directory names and card identifiers

Components are hexadecimal and may have white space around them; a component beyond its field
width is a configuration failure, any other fault of the text a parse failure that carries the text.
-/

namespace ReadoutCard

namespace PciAddress

/-- The failure of a component beyond its field width. -/
def outOfRange (name : String) (value limit : Nat) : Error :=
  .configuration "PciAddress"
    (name ++ " " ++ Text.hexMarked value ++ " out of range (max " ++ Text.hexMarked limit ++ ")")

/-- An address from its components; the first one out of range is reported. -/
def ofComponents (bus device function : Nat) : Except Error PciAddress :=
  if hb : bus < 256 then
    if hd : device < 32 then
      if hf : function < 8 then .ok ⟨⟨bus, hb⟩, ⟨device, hd⟩, ⟨function, hf⟩⟩
      else .error (outOfRange "function" function 7)
    else .error (outOfRange "device" device 31)
  else .error (outOfRange "bus" bus 255)

/-- One hexadecimal component of the address `input`. -/
def parseComponent (input name : String) (text : List Char) : Except Error Nat :=
  match Text.Numeral.natural 16 (Text.Numeral.unsignedLimit 32) (Text.trim text) with
  | .ok n => .ok n
  | .error e => .error (.parse input
      ("invalid " ++ name ++ " " ++ Text.Quoted.quote (String.ofList text) ++ ": " ++ e.message))

/-- Cuts `bus:device.function` at the first colon and the first dot after it. -/
def cut (text : List Char) : Option (List Char × List Char × List Char) := do
  let (bus, rest) ← Text.splitOnce ':' text
  let (device, function) ← Text.splitOnce '.' rest
  return (bus, device, function)

/-- Reads `bus:device.function`. All components are read before any range is checked. -/
def parse (input : String) : Except Error PciAddress := do
  match cut input.toList with
  | none => throw (.parse input "expected PCI address bus:device.function")
  | some (bus, device, function) =>
    let bus ← parseComponent input "bus" bus
    let device ← parseComponent input "device" device
    let function ← parseComponent input "function" function
    ofComponents bus device function

/-- Reads a device directory name `domain:bus:device.function`. The domain must be a 16-bit number
and is not kept. -/
def parseDirectoryName (name : String) : Except Error PciAddress :=
  match Text.splitOnce ':' name.toList with
  | none => .error (.parse name "expected domain:bus:device.function")
  | some (domain, rest) =>
    match Text.Numeral.natural 16 (Text.Numeral.unsignedLimit 16) domain with
    | .error e => .error (.parse name
        ("invalid PCI domain " ++ Text.Quoted.quote (String.ofList domain) ++ ": " ++ e.message))
    | .ok _ => parse (String.ofList rest)

end PciAddress

/-- Reads a card identifier: an address if there is a colon in it, else a serial number. White
space around it is ignored. -/
def CardId.parse (input : String) : Except Error CardId :=
  let text := Text.trim input.toList
  if ':' ∈ text then (PciAddress.parse (String.ofList text)).map .address
  else
    match Text.Numeral.integer 10 (Text.Numeral.signedLimit 32) text with
    | .ok number => .ok (.serial number)
    | .error e => .error (.parse input
        ("expected serial number or PCI address bus:device.function (" ++ e.message ++ ")"))

end ReadoutCard
