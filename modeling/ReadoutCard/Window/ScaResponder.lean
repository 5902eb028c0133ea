import ReadoutCard.Sca.Engine

/-! # A slow-control partner that answers from scripts

A script gives its entries one after the other and its last one for ever.
-/

namespace ReadoutCard

/-- Entries that are given one after the other, the last one for ever. -/
structure Script (α : Type) where
  head : α
  later : List α

namespace Script

/-- The script of the listed entries, or of `otherwise` alone. -/
def ofList {α : Type} (otherwise : α) : List α → Script α
  | [] => ⟨otherwise, []⟩
  | head :: later => ⟨head, later⟩

/-- The entry to give now, and the script from then on. -/
def next {α : Type} (s : Script α) : α × Script α :=
  match s.later with
  | [] => (s.head, s)
  | head :: later => (s.head, ⟨head, later⟩)

end Script

/-- A partner of the slow-control engine. -/
structure ScaResponder where
  /-- How many polls find the request under way, for each pulse of the control register. -/
  busy : Script Nat
  /-- What the busy register shows meanwhile. -/
  busyValue : UInt32
  /-- The command words of the responses, or only their low bytes. -/
  responses : Script UInt32
  /-- Whether `responses` are whole words. -/
  whole : Bool
  data : Script UInt32
  time : UInt32
  busyLeft : Nat
  lastCommand : UInt32

namespace ScaResponder

/-- Registers other than the response, busy and time registers read as zero. -/
def read (r : ScaResponder) (index : Nat) : UInt32 × ScaResponder :=
  if index = Sca.busy.index then
    if 0 < r.busyLeft then (r.busyValue, { r with busyLeft := r.busyLeft - 1 }) else (0, r)
  else if index = Sca.readData.index then
    let (value, data) := r.data.next
    (value, { r with data := data })
  else if index = Sca.readCommand.index then
    let (value, responses) := r.responses.next
    (if r.whole then value else (r.lastCommand &&& 0xffffff00) ||| value,
      { r with responses := responses })
  else if index = Sca.time.index then (r.time, r)
  else (0, r)

/-- The control register starts a wait, the command register is remembered. -/
def write (r : ScaResponder) (index : Nat) (value : UInt32) : ScaResponder :=
  if index = Sca.control.index then
    let (polls, busy) := r.busy.next
    { r with busyLeft := polls, busy := busy }
  else if index = Sca.writeCommand.index then { r with lastCommand := value }
  else r

/-- The partner's window; no index is out of range. -/
def window : Window ScaResponder where
  read index r := let (value, r) := r.read index; (.ok value, r)
  write index value r := (.ok (), r.write index value)

end ScaResponder

end ReadoutCard
