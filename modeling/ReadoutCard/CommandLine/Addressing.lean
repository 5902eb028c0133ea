import ReadoutCard.CommandLine.Console

/-! # From byte addresses on the command line to register indices

Indices and byte addresses are 64-bit numbers: a range is refused if an index in it, or the one
after it, has no byte address.
-/

namespace ReadoutCard.CommandLine

/-- Word indices and byte addresses are below this bound. -/
def addressSpace : Nat := 1 <<< 64

/-- The word index of a byte address that is a multiple of four. -/
def alignedIndex (address : Nat) : Except Failure Nat :=
  if address % 4 = 0 then .ok (Register.wordIndex address)
  else .error ⟨"address " ++ Text.hexMarked address ++ " is not 32-bit aligned", none⟩

/-- Consecutive word indices. -/
structure IndexRange where
  first : Nat
  count : Nat
  deriving DecidableEq, Repr

/-- The indices of a range, in order. -/
def IndexRange.toList (r : IndexRange) : List Nat := List.range' r.first r.count

/-- The word indices of `count` registers from a byte address on. -/
def IndexRange.ofAddress (address count : Nat) : Except Failure IndexRange := do
  let first ← alignedIndex address
  if (first + count) * 4 < addressSpace then return ⟨first, count⟩
  else throw ⟨toString count ++ " registers from " ++ Text.hexMarked address ++
    " overflow the address space", none⟩

end ReadoutCard.CommandLine
