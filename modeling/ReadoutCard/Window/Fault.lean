import ReadoutCard.Register

/-! # Windows in which chosen accesses fail

A fault strikes the n-th read or write of a register, or every one. An access that is struck does
not reach the window behind. These windows are for running the program; statements about failing
accesses are about every window.
-/

namespace ReadoutCard

/-- A failure of accesses to one register. -/
structure Fault where
  /-- Whether it strikes writes; else it strikes reads. -/
  ofWrites : Bool
  index : Nat
  /-- Which access is struck, counted from one; zero for every access. -/
  occurrence : Nat
  /-- The accesses so far. -/
  seen : Nat

namespace Fault

/-- Whether an access is one that the fault counts. -/
def counts (f : Fault) (ofWrite : Bool) (index : Nat) : Bool :=
  f.ofWrites == ofWrite && f.index == index

/-- The fault after an access. -/
def advance (ofWrite : Bool) (index : Nat) (f : Fault) : Fault :=
  if f.counts ofWrite index then { f with seen := f.seen + 1 } else f

/-- Whether the access that was just counted is struck. -/
def strikes (ofWrite : Bool) (index : Nat) (f : Fault) : Bool :=
  f.counts ofWrite index && (f.occurrence == 0 || f.seen == f.occurrence)

/-- The window `w` behind faults. -/
def window {σ : Type} (w : Window σ) : Window (List Fault × σ) where
  read index
    | (faults, s) =>
      let faults := faults.map (advance false index)
      if faults.any (strikes false index) then (.error (.pci "injected read fault"), faults, s)
      else
        let (result, s) := w.read index s
        (result, faults, s)
  write index value
    | (faults, s) =>
      let faults := faults.map (advance true index)
      if faults.any (strikes true index) then (.error (.pci "injected write fault"), faults, s)
      else
        let (result, s) := w.write index value s
        (result, faults, s)

end Fault

end ReadoutCard
