import ReadoutCard.Card
import ReadoutCard.Register

/-! # A register window bound to a card family

The binding knows which BAR its window shows and adds the family's register offset to every index.
-/

namespace ReadoutCard

/-- A window of BAR `bar`, taken for one of a card of type `type`. -/
structure Binding where
  type : CardType
  bar : Nat
  deriving DecidableEq, Repr

namespace Binding

/-- Reads a register by index. -/
def read (b : Binding) (index : Nat) : Access UInt32 :=
  Access.read (index + b.type.registerOffset)

/-- Writes a register by index. -/
def write (b : Binding) (index : Nat) (value : UInt32) : Access Unit :=
  Access.write (index + b.type.registerOffset) value

/-- Replaces a register by `f` of what it holds; the result is the value written. -/
def modify (b : Binding) (index : Nat) (f : UInt32 → UInt32) : Access UInt32 := do
  let value := f (← b.read index)
  b.write index value
  return value

/-- Fails unless the window shows BAR `expected`; `message` names the operation. -/
def requireBar (b : Binding) (expected : Nat) (message : String) : Access Unit :=
  if b.bar = expected then return () else throw (.invalidAccess expected b.bar message)

end Binding

end ReadoutCard
