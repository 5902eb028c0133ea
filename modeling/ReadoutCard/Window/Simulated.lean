import ReadoutCard.Window.Fault
import ReadoutCard.Window.FlashController
import ReadoutCard.Window.Memory
import ReadoutCard.Window.ScaResponder

/-! # Simulated register windows

Memory, a flash controller or a slow-control partner, with faults, as one type of windows. It is for
running the program; statements are about one of these windows, or about every window.
-/

namespace ReadoutCard

/-- What stands behind a simulated window. -/
inductive Device where
  | memory (words : Array UInt32)
  | flash (controller : FlashController)
  | sca (responder : ScaResponder)

/-- The window of a device that passes for BAR `bar`. -/
def Device.window (bar : Nat) : Window Device where
  read index
    | .memory words => let (r, words) := (Memory.window bar).read index words; (r, .memory words)
    | .flash f => let (r, f) := FlashController.window.read index f; (r, .flash f)
    | .sca s => let (r, s) := ScaResponder.window.read index s; (r, .sca s)
  write index value
    | .memory words =>
      let (r, words) := (Memory.window bar).write index value words
      (r, .memory words)
    | .flash f => let (r, f) := FlashController.window.write index value f; (r, .flash f)
    | .sca s => let (r, s) := ScaResponder.window.write index value s; (r, .sca s)

/-- A device behind faults. -/
abbrev Simulated := List Fault × Device

/-- The window of a simulated device. -/
def Simulated.window (bar : Nat) : Window Simulated := Fault.window (Device.window bar)

end ReadoutCard
