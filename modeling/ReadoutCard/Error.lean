import ReadoutCard.PciAddress
import ReadoutCard.Text.Quoted

/-! # What can go wrong in card operations, and its wording -/

namespace ReadoutCard

/-- The causes of failure of card operations. -/
inductive Error where
  /-- A required setting is absent, or the value of the setting `key` cannot be used. -/
  | configuration (key reason : String)
  /-- The text `input` is malformed. -/
  | parse (input reason : String)
  /-- No installed card is the one searched for. -/
  | notFound (target : CardId)
  /-- The operation needs another BAR than the window has, or a register outside the window. -/
  | invalidAccess (expected actual : Nat) (message : String)
  /-- A bounded wait used up its polls. -/
  | timeout (operation : String) (polls : Nat)
  /-- A slow-control response carries error flags. -/
  | protocol (code : UInt32) (flags : List String)
  /-- The PCI layer failed: listing, topology or mapping. -/
  | pci (reason : String)
  /-- The system failed to read or write. -/
  | io (reason : String)
  deriving DecidableEq, Repr

namespace Error

/-- The failure of a required setting that was not set. -/
def missing (key : String) : Error := .configuration key "required parameter was not set"

/-- What a search was for. -/
def targetText : CardId → String
  | .serial number => "serial number " ++ toString number
  | .address a => "PCI address " ++ a.text

/-- The wording of each cause. -/
def message : Error → String
  | configuration key reason => "Configuration error for " ++ key ++ ": " ++ reason
  | parse input reason => "Failed to parse " ++ Text.Quoted.quote input ++ ": " ++ reason
  | notFound target => "Could not find card: " ++ targetText target
  | invalidAccess expected actual message =>
    "Invalid BAR access: " ++ message ++ " (expected BAR " ++ toString expected ++
      ", bound to BAR " ++ toString actual ++ ")"
  | timeout operation polls =>
    "Timeout in " ++ operation ++ " after " ++ toString polls ++ " polls"
  | protocol code flags =>
    "SCA error code " ++ Text.hexMarked code.toNat ++ ": " ++ ", ".intercalate flags
  | pci reason => "PCI access failed: " ++ reason
  | io reason => "I/O error: " ++ reason

/-- The setting that a configuration failure is about. -/
def key? : Error → Option String
  | configuration key _ => some key
  | _ => none

end Error

end ReadoutCard
