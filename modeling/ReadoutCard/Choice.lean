import ReadoutCard.Error
import ReadoutCard.Text.Blank

/-! # Settings that are chosen by name

A type of choices lists its members with their names. A name is read with white space around it
and ASCII letters of either case; no other spelling stands for a member.
-/

namespace ReadoutCard

/-- A type whose members are chosen by name. -/
class Choice (α : Type) where
  /-- What is chosen, as failures word it. -/
  what : String
  /-- The members, in the order in which they are offered. -/
  all : List α
  name : α → String

namespace Choice

/-- Whether two texts are equal up to the case of ASCII letters. -/
def sameName (a b : List Char) : Bool := a.map Char.toLower == b.map Char.toLower

/-- The member of that name. -/
def find? (α : Type) [Choice α] (text : List Char) : Option α :=
  (all : List α).find? fun a => sameName (name a).toList (Text.trim text)

/-- Reads a name; a failure carries the text as it was and lists the names. -/
def parse (α : Type) [Choice α] (input : String) : Except Error α :=
  match find? α input.toList with
  | some a => .ok a
  | none => .error (.parse input ("unknown " ++ what α ++ " (expected one of " ++
      ", ".intercalate ((all : List α).map name) ++ ")"))

end Choice

/-- The content of internally generated data. -/
inductive Pattern where
  | constant
  | alternating
  | flying0
  | flying1
  | incremental
  | decremental
  | random
  deriving DecidableEq, Repr

instance : Choice Pattern where
  what := "generator pattern"
  all := [.constant, .alternating, .flying0, .flying1, .incremental, .decremental, .random]
  name
    | .constant => "Constant"
    | .alternating => "Alternating"
    | .flying0 => "Flying0"
    | .flying1 => "Flying1"
    | .incremental => "Incremental"
    | .decremental => "Decremental"
    | .random => "Random"

/-- The routing of generated data. -/
inductive Loopback where
  | none
  | internal
  | diu
  | siu
  | ddg
  deriving DecidableEq, Repr

instance : Choice Loopback where
  what := "loopback mode"
  all := [.none, .internal, .diu, .siu, .ddg]
  name
    | .none => "None"
    | .internal => "Internal"
    | .diu => "Diu"
    | .siu => "Siu"
    | .ddg => "Ddg"

/-- The readout mode of a DMA channel. -/
inductive ReadoutMode where
  | continuous
  deriving DecidableEq, Repr

instance : Choice ReadoutMode where
  what := "readout mode"
  all := [.continuous]
  name
    | .continuous => "Continuous"

end ReadoutCard
