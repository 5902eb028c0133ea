import ReadoutCard.CommandLine.Option

/-! # Commands and how arguments are read as one

Options are written `--name value` or `--name=value`; a separate value may not look like an option.
An option may be given once. A separate value is read only when the next option or the end of the
arguments follows, so that a word that fits nowhere is reported before it. Asking for help is such
an option, and ends the reading.
-/

namespace ReadoutCard.CommandLine

/-- Which card a command is for, and which channel. -/
structure CardArguments where
  id : CardId
  channel : Option Int
  deriving DecidableEq, Repr

/-- A command with its arguments. -/
inductive Command where
  | listCards
  | readRegister (card : CardArguments) (address : Nat)
  | writeRegister (card : CardArguments) (address : Nat) (value : UInt32) (readBack : Bool)
  | readRegisters (card : CardArguments) (address count : Nat) (file : Option Path)
  | info (card : CardArguments)
  | setLinks (card : CardArguments) (links : LinkMask)
  | generator (card : CardArguments) (pattern : Pattern) (size : Nat)
      (randomSize disable injectError : Bool)
  | scaSetUp (card : CardArguments)
  | scaGpioRead (card : CardArguments)
  | scaGpioWrite (card : CardArguments) (outputs : UInt32)

/-- The names of commands. -/
inductive CommandName where
  | listCards
  | readRegister
  | writeRegister
  | readRegisters
  | info
  | setLinks
  | generator
  | scaSetUp
  | scaGpioRead
  | scaGpioWrite
  deriving DecidableEq, Repr

namespace CommandName

/-- All names. -/
def all : List CommandName :=
  [listCards, readRegister, writeRegister, readRegisters, info, setLinks, generator, scaSetUp,
   scaGpioRead, scaGpioWrite]

/-- The word for a command. -/
def name : CommandName → String
  | listCards => "list-cards"
  | readRegister => "reg-read"
  | writeRegister => "reg-write"
  | readRegisters => "reg-read-range"
  | info => "info"
  | setLinks => "set-links"
  | generator => "generator"
  | scaSetUp => "sca-init"
  | scaGpioRead => "sca-gpio-read"
  | scaGpioWrite => "sca-gpio-write"

/-- The options of a command. -/
def options : CommandName → List OptionName
  | listCards => []
  | readRegister => [.id, .channel, .address]
  | writeRegister => [.id, .channel, .address, .value]
  | readRegisters => [.id, .channel, .address, .range, .file]
  | info => [.id, .channel]
  | setLinks => [.id, .channel, .links]
  | generator => [.id, .channel, .pattern, .size]
  | scaSetUp => [.id, .channel]
  | scaGpioRead => [.id, .channel]
  | scaGpioWrite => [.id, .channel, .value]

/-- The flags of a command. -/
def flags : CommandName → List Flag
  | writeRegister => [.verbose, .noRead]
  | generator => [.verbose, .randomSize, .disable, .injectError]
  | _ => [.verbose]

end CommandName

/-- An argument, by its form. -/
inductive Word where
  /-- Two dashes alone: no options follow. -/
  | escape
  | long (name : String) (value : Option String)
  | short (letters : List Char)
  | plain (text : String)
  deriving DecidableEq, Repr

/-- The form of an argument. A single dash is no option. -/
def Word.ofArgument (argument : String) : Word :=
  match argument.toList with
  | ['-', '-'] => escape
  | '-' :: '-' :: rest =>
    match Text.splitOnce '=' rest with
    | some (name, value) => long (String.ofList name) (some (String.ofList value))
    | none => long (String.ofList rest) none
  | '-' :: c :: rest => short (c :: rest)
  | _ => plain argument

/-- What has been read of a command's arguments. -/
structure Scan where
  values : Sparse OptionName.Value
  flags : List Flag
  /-- An option whose value is to come, or stands there and has not been read. -/
  waiting : Option (OptionName × Option String)

namespace Scan

/-- Nothing read yet. -/
def empty : Scan := ⟨Sparse.empty, [], none⟩

/-- Reads the value of an option that was not given before. -/
def take (s : Scan) (o : OptionName) (text : String) : Except Rejection Scan :=
  if (s.values.get? o).isSome then .error .usage
  else (o.read text).map fun v => { s with values := s.values.set o v }

/-- Reads the value that is waiting to be read. -/
def settle (s : Scan) : Except Rejection Scan :=
  match s.waiting with
  | none => .ok s
  | some (_, none) => .error .usage
  | some (o, some text) => { s with waiting := none }.take o text

/-- Notes a flag that was not given before. -/
def raise (s : Scan) (f : Flag) : Except Rejection Scan :=
  if f ∈ s.flags then .error .usage else .ok { s with flags := f :: s.flags }

/-- Gives help instead of a command, unless the value that is waiting cannot be read. -/
def help (s : Scan) : Except Rejection Scan := do
  let _ ← s.settle
  throw .help

/-- Reads a row of one-letter options. -/
def letters (s : Scan) : List Char → Except Rejection Scan
  | [] => .ok s
  | 'h' :: _ => s.help
  | 'v' :: rest => do
    let s ← s.settle
    let s ← s.raise .verbose
    s.letters rest
  | _ :: _ => .error .usage

/-- Reads a long option of a command. -/
def long (c : CommandName) (s : Scan) (name : String) (value : Option String) :
    Except Rejection Scan :=
  match c.options.find? fun o => o.name == name with
  | some o => do
    let s ← s.settle
    match value with
    | some text => s.take o text
    | none => return { s with waiting := some (o, none) }
  | none =>
    match c.flags.find? fun f => f.name == name, value with
    | some f, none => do
      let s ← s.settle
      s.raise f
    | none, none => if name = "help" then s.help else .error .usage
    | _, some _ => .error .usage

/-- Reads the arguments of a command. -/
def words (c : CommandName) (s : Scan) : List String → Except Rejection Scan
  | [] => s.settle
  | argument :: rest =>
    match Word.ofArgument argument with
    | .escape => if rest = [] then s.settle else .error .usage
    | .long name value => do
      let s ← s.long c name value
      s.words c rest
    | .short letters => do
      let s ← s.letters letters
      s.words c rest
    | .plain text =>
      match s.waiting with
      | some (o, none) => { s with waiting := some (o, some text) }.words c rest
      | _ => .error .usage

/-- The value of an option that has to be given. -/
def required (s : Scan) (o : OptionName) : Except Rejection o.Value :=
  match s.values.get? o with
  | some v => .ok v
  | none => .error .usage

/-- The card and channel of a command. -/
def card (s : Scan) : Except Rejection CardArguments := do
  let id : CardId ← s.required .id
  return ⟨id, s.values.get? .channel⟩

/-- The command with its arguments. -/
def command (s : Scan) : CommandName → Except Rejection Command
  | .listCards => return .listCards
  | .readRegister => return .readRegister (← s.card) (← s.required .address)
  | .writeRegister =>
    return .writeRegister (← s.card) (← s.required .address) (← s.required .value)
      (.noRead ∉ s.flags)
  | .readRegisters =>
    return .readRegisters (← s.card) (← s.required .address) (← s.required .range)
      (s.values.get? .file)
  | .info => return .info (← s.card)
  | .setLinks => return .setLinks (← s.card) (← s.required .links)
  | .generator =>
    return .generator (← s.card) ((s.values.get? .pattern).getD Pattern.incremental)
      ((s.values.get? .size).getD (8192 : Nat)) (.randomSize ∈ s.flags) (.disable ∈ s.flags)
      (.injectError ∈ s.flags)
  | .scaSetUp => return .scaSetUp (← s.card)
  | .scaGpioRead => return .scaGpioRead (← s.card)
  | .scaGpioWrite => return .scaGpioWrite (← s.card) (← s.required .value)

end Scan

/-- What the arguments ask for. -/
inductive Wish where
  | version
  | command (command : Command)

/-- Reads the one-letter options before the command; the result tells whether the version is asked
for. -/
def leadingLetters (verbose : Bool) : List Char → Except Rejection (Bool × Bool)
  | [] => .ok (verbose, false)
  | 'v' :: rest => if verbose then .error .usage else leadingLetters true rest
  | 'V' :: _ => .ok (verbose, true)
  | 'h' :: _ => .error .help
  | _ :: _ => .error .usage

/-- Reads the arguments from the first one on. -/
def parseFrom (verbose : Bool) : List String → Except Rejection Wish
  | [] => .error .usage
  | argument :: rest =>
    match Word.ofArgument argument with
    | .plain word =>
      match CommandName.all.find? fun c => c.name == word with
      | some c => do
        let s ← Scan.empty.words c rest
        return .command (← s.command c)
      | none =>
        let known := [] :: ["help"] :: CommandName.all.map fun c => [c.name]
        .error (if word = "help" ∧ rest ∈ known then .help else .usage)
    | .long "help" none => .error .help
    | .long "verbose" none => if verbose then .error .usage else parseFrom true rest
    | .long "version" none => .ok .version
    | .short letters => do
      let (verbose, version) ← leadingLetters verbose letters
      if version then return .version else parseFrom verbose rest
    | _ => .error .usage

/-- Reads the arguments. -/
def parse (arguments : List String) : Except Rejection Wish := parseFrom false arguments

end ReadoutCard.CommandLine
