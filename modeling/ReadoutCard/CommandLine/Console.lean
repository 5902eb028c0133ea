import ReadoutCard.Path
import ReadoutCard.Pci.Query
import ReadoutCard.Text.Split

/-! # What a command can do: ask the PCI layer, print a line, save a file

A command fails with a message, which may have a cause of its own.
-/

namespace ReadoutCard.CommandLine

/-- The failure of a command. -/
structure Failure where
  message : String
  cause : Option String
  deriving DecidableEq, Repr

namespace Failure

/-- The failure of a card operation. -/
def ofError (e : Error) : Failure := ⟨e.message, none⟩

/-- A text with each of its lines moved in by four columns. -/
def indented (text : String) : String :=
  "\n".intercalate ((Text.pieces '\n' text.toList).map fun line => "    " ++ String.ofList line)

/-- What is reported of a failure. -/
def report (f : Failure) : String :=
  "Error: " ++ f.message ++ "\n" ++
    (match f.cause with
      | none => ""
      | some cause => "\nCaused by:\n" ++ indented cause ++ "\n")

end Failure

/-- One request of a command. -/
inductive Request (H W : Type) where
  | pci (request : Pci.Request H W)
  | print (line : String)
  | save (path : Path) (content : ByteArray)

/-- What is answered; a file that cannot be saved gives the system's wording. -/
abbrev Answer {H W : Type} : Request H W → Type
  | .pci request => Pci.Answer request
  | .print _ => Unit
  | .save _ _ => Except String Unit

/-- A program of such requests that may fail. -/
abbrev Console (H W α : Type) := ExceptT Failure (Dialogue (Request H W) Answer) α

namespace Console

variable {H W α : Type}

/-- Asks the PCI layer; its failures are passed on as `asFailure` words them. -/
def queryAs (asFailure : Error → Failure) (q : Pci.Query H W α) : Console H W α :=
  ExceptT.mk do
    return (← (ExceptT.run q).through fun r => Dialogue.request (Request.pci r)).mapError asFailure

/-- Asks the PCI layer. -/
def query (q : Pci.Query H W α) : Console H W α := queryAs Failure.ofError q

/-- Asks the PCI layer; a failure becomes the cause of one with the message `context`. -/
def queryFor (context : String) (q : Pci.Query H W α) : Console H W α :=
  queryAs (fun e => ⟨context, some e.message⟩) q

/-- Accesses the registers of a mapped window. -/
def access (m : Mapping W) (p : Access α) : Console H W α := query (Pci.access m p)

/-- Prints a line. -/
def print (line : String) : Console H W Unit :=
  ExceptT.lift (Dialogue.request (Request.print line))

/-- Saves a file. -/
def save (path : Path) (content : ByteArray) : Console H W (Except String Unit) :=
  ExceptT.lift (Dialogue.request (Request.save path content))

/-- A check that needs no request. -/
def ofExcept (result : Except Failure α) : Console H W α := ExceptT.mk (.done result)

end Console

end ReadoutCard.CommandLine
