import ReadoutCard.Choice
import ReadoutCard.LinkMask
import ReadoutCard.Path
import ReadoutCard.PciAddress.Parser
import ReadoutCard.Sparse
import ReadoutCard.Text.Terminal

/-! # The options of the command line and how their values are read -/

namespace ReadoutCard.CommandLine

/-- The options that take a value. -/
inductive OptionName where
  | id
  | channel
  | address
  | value
  | range
  | file
  | links
  | pattern
  | size
  deriving DecidableEq, Repr

/-- The options that are given or not. -/
inductive Flag where
  | verbose
  | noRead
  | randomSize
  | disable
  | injectError
  deriving DecidableEq, Repr

/-- Why arguments are not carried out. -/
inductive Rejection where
  /-- They ask for help, whatever follows. -/
  | help
  /-- The arguments do not have the form of a command. -/
  | usage
  /-- The value given for an option cannot be read. -/
  | invalidValue (option : OptionName) (given reason : String)
  deriving DecidableEq, Repr

namespace OptionName

/-- The type of an option's values. -/
def Value : OptionName → Type
  | id => CardId
  | channel => Int
  | address => Nat
  | value => UInt32
  | range => Nat
  | file => Path
  | links => LinkMask
  | pattern => Pattern
  | size => Nat

/-- The name of an option, after its two dashes. -/
def name : OptionName → String
  | id => "id"
  | channel => "channel"
  | address => "address"
  | value => "value"
  | range => "range"
  | file => "file"
  | links => "links"
  | pattern => "pattern"
  | size => "size"

/-- What stands for the value of an option where it is described. -/
def placeholder (o : OptionName) : String := o.name.map Char.toUpper

/-- A 32-bit number: hexadecimal after `0x` or `0X`, else decimal. -/
def parseNumber (text : String) : Except String Nat :=
  let number := match text.toList with
    | '0' :: 'x' :: digits => Text.Numeral.natural 16 (Text.Numeral.unsignedLimit 32) digits
    | '0' :: 'X' :: digits => Text.Numeral.natural 16 (Text.Numeral.unsignedLimit 32) digits
    | digits => Text.Numeral.natural 10 (Text.Numeral.unsignedLimit 32) digits
  match number with
  | .ok n => .ok n
  | .error e => .error ("invalid number " ++ Text.Quoted.quote text ++ ": " ++ e.message)

/-- A channel number: a 64-bit number that fits 32 bits. -/
def parseChannel (text : String) : Except String Int :=
  match Text.Numeral.signed 10 64 text with
  | .error e => .error e.message
  | .ok n =>
    if -2147483648 ≤ n ∧ n ≤ 2147483647 then .ok n
    else .error (toString n ++ " is not in -2147483648..=2147483647")

/-- A 64-bit count. -/
def parseCount (text : String) : Except String Nat :=
  match Text.Numeral.unsigned 10 64 text with
  | .error e => .error e.message
  | .ok n => .ok n

/-- Reads the value of an option. A path may be anything but empty. -/
def read (o : OptionName) (text : String) : Except Rejection o.Value :=
  let orInvalid {α : Type} (result : Except String α) : Except Rejection α :=
    result.mapError (.invalidValue o text)
  match o with
  | id => orInvalid ((CardId.parse text).mapError Error.message)
  | channel => orInvalid (parseChannel text)
  | address => orInvalid (parseNumber text)
  | value => orInvalid ((parseNumber text).map UInt32.ofNat)
  | range => orInvalid (parseCount text)
  | file => if text = "" then .error .usage else .ok ⟨text⟩
  | links => orInvalid ((LinkMask.parse text).mapError Error.message)
  | pattern => orInvalid ((Choice.parse Pattern text).mapError Error.message)
  | size => orInvalid (parseCount text)

end OptionName

/-- The name of a flag, after its two dashes. -/
def Flag.name : Flag → String
  | verbose => "verbose"
  | noRead => "no-read"
  | randomSize => "random-size"
  | disable => "disable"
  | injectError => "inject-error"

/-- The exit code of a rejection: asking for help is no failure. -/
def Rejection.exitCode : Rejection → Nat
  | help => 0
  | _ => 2

/-- What is reported of a rejection: a line for an invalid value, else nothing. The value is given
as a terminal shows it, and a report of several lines is cut after the first. -/
def Rejection.report : Rejection → String
  | help | usage => ""
  | invalidValue o given reason =>
    let whole := "error: invalid value '" ++ Text.Terminal.shown given ++ "' for '--" ++ o.name ++
      " <" ++ o.placeholder ++ ">': " ++ reason
    String.ofList (Text.firstLine whole.toList)

end ReadoutCard.CommandLine
