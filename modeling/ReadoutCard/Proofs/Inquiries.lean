import ReadoutCard.Card.Accessors
import ReadoutCard.Proofs.Bits
import ReadoutCard.Proofs.Traces

/-!
# What a card tells in one BAR only

The serial number of a C-RORC and what a CRU tells of itself are refused over a
window of another BAR, and then nothing is accessed (`Crorc.serial_of_ne`,
`Cru.gated_of_ne`). A CRU asks its firmware next: `LeavesOut` says which words
of the features register stand for a firmware that leaves something out, and
`Inquired` says everything that an accessor can do over the right BAR. All four
accessors are one gate and a list of registers, so `traces_gated` and
`traces_read_bind` carry each of them, and `guarded_inquiries` only adds the
ways to call them.
-/

namespace ReadoutCard

open Register (Trace readOk readFailed)

variable {α σ : Type} {t : Trace}

theorem Binding.requireBar_of_ne {b : Binding} {expected : Nat} (other : b.bar ≠ expected)
    (message : String) :
    b.requireBar expected message = throw (.invalidAccess expected b.bar message) := if_neg other

theorem Binding.requireBar_of_eq {b : Binding} {expected : Nat} (right : b.bar = expected)
    (message : String) : b.requireBar expected message = pure () := if_pos right

/-! ### C-RORC -/

namespace Crorc

theorem serial_of_ne {b : Binding} (other : b.bar ≠ crorcFlashBar) :
    serial b = throw (.invalidAccess crorcFlashBar b.bar "serial number") := by
  rw [serial, Binding.requireBar_of_ne other]
  rfl

/-- The ways to ask for the serial number of a C-RORC over a window of BAR `bar`. -/
inductive SerialCall (bar : Nat) : Access (Option Int) → Prop where
  | direct (type : CardType) : SerialCall bar (serial ⟨type, bar⟩)
  | card (type : CardType) : SerialCall bar (Accessors.serial (.crorc ⟨type, bar⟩))
  | store : SerialCall bar (SerialStore.crorcFlash.read bar)

end Crorc

/-! ### The features of a CRU -/

namespace Cru

/-- The firmware with this features register leaves out what the bit stands for: it is a
standalone one, and the bit is set. -/
def LeavesOut (word : UInt32) (bit : Nat) : Prop :=
  word >>> 16 = 0x5afe ∧ word.toNat.testBit bit = true

instance (word : UInt32) (bit : Nat) : Decidable (LeavesOut word bit) :=
  inferInstanceAs (Decidable (_ ∧ _))

/-- The upper half of a word, as a field and by shifting. -/
theorem field_upper (word : UInt32) : Bits.field word 16 16 = word >>> 16 := by
  have shift : word >>> 16 = word >>> UInt32.ofNat 16 := rfl
  apply Bits.eq_of_testBit
  intro i
  rw [Bits.testBit_field word (by decide), shift, Bits.testBit_shiftRight word (by decide)]
  rcases Nat.lt_or_ge i 16 with low | high
  · simp [low]
  · rw [Bits.testBit_of_ge word (by omega), Bool.and_false]

/-- What a CRU tells of itself, if its firmware does not leave it out. -/
inductive Inquiry where
  | serial
  | temperature
  | firmwareInfo
  | chipId
  deriving DecidableEq, Repr

namespace Inquiry

/-- What an inquiry gives. -/
abbrev Value : Inquiry → Type
  | serial => Int
  | temperature => Temperature
  | firmwareInfo => String
  | chipId => String

/-- What it is called where the BAR is wrong. -/
def name : Inquiry → String
  | serial => "serial number"
  | temperature => "temperature"
  | firmwareInfo => "firmware info"
  | chipId => "card ID"

/-- The bit by which a firmware tells that it leaves it out. -/
def bit : Inquiry → Nat
  | serial => 2
  | temperature => 1
  | firmwareInfo => 3
  | chipId => 4

/-- Whether a firmware has it. -/
def present : Inquiry → Features → Bool
  | serial => Features.serial
  | temperature => Features.temperature
  | firmwareInfo => Features.firmwareInfo
  | chipId => Features.chipId

/-- The registers of its value, in the order in which they are read. -/
def registers : Inquiry → List Register
  | serial => [serialNumber]
  | temperature => [temperatureSensor]
  | firmwareInfo => [firmwareDate, firmwareTime, firmwareGitHash]
  | chipId => [fpgaChipHigh, fpgaChipLow]

/-- What the words of these registers stand for. -/
def value : (q : Inquiry) → List UInt32 → Option q.Value
  | serial, [word] => serialOfWord word
  | temperature, [raw] => Temperature.ofSensor raw
  | firmwareInfo, [date, time, hash] =>
    some (Text.hex date.toNat ++ "-" ++ Text.hex time.toNat ++ "-" ++ Text.hex hash.toNat)
  | chipId, [high, low] =>
    some (Text.hexPadded 8 high.toNat ++ "-" ++ Text.hexPadded 8 low.toNat)
  | _, _ => none

/-- The accessor of a CRU. -/
def program (b : Binding) : (q : Inquiry) → Access (Option q.Value)
  | serial => Cru.serial b
  | temperature => Cru.temperature b
  | firmwareInfo => Cru.firmwareInfo b
  | chipId => Cru.chipId b

/-- The accessor of a card of either family. -/
def ofCard (a : Accessors) : (q : Inquiry) → Access (Option q.Value)
  | serial => a.serial
  | temperature => a.temperature
  | firmwareInfo => a.firmwareInfo
  | chipId => a.chipId

/-- The ways to put an inquiry to a CRU over a window of BAR `bar`. -/
inductive Call (bar : Nat) : (q : Inquiry) → Access (Option q.Value) → Prop where
  | direct (type : CardType) (q : Inquiry) : Call bar q (q.program ⟨type, bar⟩)
  | card (type : CardType) (q : Inquiry) : Call bar q (q.ofCard (.cru ⟨type, bar⟩))
  | store : Call bar serial (SerialStore.cruRegister.read bar)

/-- All ways come down to the accessor of a CRU. -/
theorem Call.exists_program {bar : Nat} {q : Inquiry} {p : Access (Option q.Value)}
    (h : Call bar q p) : ∃ type, p = q.program ⟨type, bar⟩ := by
  cases h with
  | direct type q => exact ⟨type, rfl⟩
  | card type q => cases q <;> exact ⟨type, rfl⟩
  | store => exact ⟨.cru, rfl⟩

theorem present_eq_false_iff (q : Inquiry) (word : UInt32) :
    q.present (Features.ofWord word) = false ↔ LeavesOut word q.bit := by
  have tested : Bits.bit word q.bit = word.toNat.testBit q.bit :=
    Bits.bit_eq_testBit word (by cases q <;> decide)
  rw [LeavesOut, ← tested, ← field_upper]
  unfold Features.ofWord Features.standaloneTag
  split
  case isTrue tagged => cases q <;> simp [present, bit, tagged]
  case isFalse untagged => cases q <;> simp [present, untagged]

end Inquiry

/-! ### What an accessor does -/

/-- Registers are read in order, up to the first read that fails; if none fails, their words make
the answer. -/
inductive Answered : List Register → (List UInt32 → Option α) → Trace → Except Error (Option α) →
    Prop where
  | done (value : List UInt32 → Option α) : Answered [] value [] (.ok (value []))
  | failed (register : Register) (rest : List Register) (value : List UInt32 → Option α)
    (e : Error) : Answered (register :: rest) value [readFailed register e] (.error e)
  | read {register : Register} {rest : List Register} {value : List UInt32 → Option α} {t : Trace}
    {r : Except Error (Option α)} (word : UInt32)
    (later : Answered rest (fun words => value (word :: words)) t r) :
    Answered (register :: rest) value (readOk register word :: t) r

/-- What an accessor does over the right BAR: the features are read first; if the firmware leaves
it out, that is all, and else exactly its own registers are read. -/
inductive Inquired (q : Inquiry) : Trace → Except Error (Option q.Value) → Prop where
  | unreadable (e : Error) : Inquired q [readFailed firmwareFeatures e] (.error e)
  | leftOut (word : UInt32) (absent : LeavesOut word q.bit) :
    Inquired q [readOk firmwareFeatures word] (.ok none)
  | answered (word : UInt32) (present : ¬ LeavesOut word q.bit) {t : Trace}
    {r : Except Error (Option q.Value)} (values : Answered q.registers q.value t r) :
    Inquired q (readOk firmwareFeatures word :: t) r

theorem gated_of_ne {b : Binding} (other : b.bar ≠ cruSupportBar) (what : String)
    (present : Features → Bool) (value : Access (Option α)) :
    gated b what present value = throw (.invalidAccess cruSupportBar b.bar what) := by
  rw [gated, Binding.requireBar_of_ne other]
  rfl

theorem gated_of_eq {b : Binding} (right : b.bar = cruSupportBar) (what : String)
    (present : Features → Bool) (value : Access (Option α)) :
    gated b what present value =
      features b >>= fun f => if present f then value else pure none := by
  rw [gated, Binding.requireBar_of_eq right]
  rfl

theorem traces_features {b : Binding} {r : Except Error Features}
    (h : (features b).Traces t r) :
    ∃ x, t = [⟨.read firmwareFeatures.index, x⟩] ∧ r = x.map Features.ofWord := by
  rw [features, Binding.read_eq] at h
  obtain ⟨e, failed, rfl⟩ | ⟨t₁, word, t₂, rfl, given, rfl, rfl⟩ := Access.traces_bind.1 h
  · exact ⟨.error e, Access.traces_read.1 failed, rfl⟩
  · rw [List.append_nil]
    exact ⟨.ok word, Access.traces_read.1 given, rfl⟩

/-- Over the right BAR the features decide whether the value is read. -/
theorem traces_gated {b : Binding} (right : b.bar = cruSupportBar) {what : String}
    {present : Features → Bool} {value : Access (Option α)} {r : Except Error (Option α)}
    (h : (gated b what present value).Traces t r) :
    (∃ e, t = [readFailed firmwareFeatures e] ∧ r = .error e) ∨
      ∃ word t', t = readOk firmwareFeatures word :: t' ∧
        if present (Features.ofWord word) = true then value.Traces t' r
        else t' = [] ∧ r = .ok none := by
  rw [gated_of_eq right] at h
  obtain ⟨e, failed, rfl⟩ | ⟨t₁, f, t₂, rfl, read, later⟩ := Access.traces_bind.1 h
  · obtain ⟨x, rfl, same⟩ := traces_features failed
    cases x with
    | ok word => cases same
    | error cause =>
      cases same
      exact .inl ⟨e, rfl, rfl⟩
  · obtain ⟨x, rfl, same⟩ := traces_features read
    cases x with
    | error cause => cases same
    | ok word =>
      cases same
      refine .inr ⟨word, t₂, rfl, ?_⟩
      split
      case isTrue has => rwa [if_pos has] at later
      case isFalse lacks => rwa [if_neg lacks] at later

/-- A register is read before those of what the word leads to. -/
theorem traces_read_bind {b : Binding} {register : Register} {rest : List Register}
    {f : UInt32 → Access (Option α)} {value : List UInt32 → Option α}
    (hf : ∀ word t r, (f word).Traces t r → Answered rest (fun words => value (word :: words)) t r)
    {r : Except Error (Option α)} (h : (b.read register.index >>= f).Traces t r) :
    Answered (register :: rest) value t r := by
  rw [Binding.read_eq] at h
  obtain ⟨e, failed, rfl⟩ | ⟨t₁, word, t₂, rfl, read, later⟩ := Access.traces_bind.1 h
  · rw [Access.traces_read.1 failed]
    exact .failed register rest value e
  · rw [Access.traces_read.1 read]
    exact .read word (hf word t₂ r later)

theorem answered_of_pure {value : List UInt32 → Option α} {a : Option α} (same : a = value [])
    {r : Except Error (Option α)} (h : (pure a : Access (Option α)).Traces t r) :
    Answered [] value t r := by
  obtain ⟨rfl, rfl⟩ := Access.traces_pure.1 h
  subst same
  exact .done value

namespace Inquiry

/-- The value of an inquiry, without the gate before it. -/
def reading (b : Binding) : (q : Inquiry) → Access (Option q.Value)
  | serial => do return serialOfWord (← b.read serialNumber.index)
  | temperature => do return Temperature.ofSensor (← b.read temperatureSensor.index)
  | firmwareInfo => do
    let date ← b.read firmwareDate.index
    let time ← b.read firmwareTime.index
    let hash ← b.read firmwareGitHash.index
    return some (Text.hex date.toNat ++ "-" ++ Text.hex time.toNat ++ "-" ++ Text.hex hash.toNat)
  | chipId => do
    let high ← b.read fpgaChipHigh.index
    let low ← b.read fpgaChipLow.index
    return some (Text.hexPadded 8 high.toNat ++ "-" ++ Text.hexPadded 8 low.toNat)

theorem program_eq_gated (b : Binding) (q : Inquiry) :
    q.program b = gated b q.name q.present (q.reading b) := by cases q <;> rfl

theorem traces_reading {b : Binding} {q : Inquiry} {r : Except Error (Option q.Value)}
    (h : (q.reading b).Traces t r) : Answered q.registers q.value t r := by
  cases q with
  | serial =>
    refine traces_read_bind (fun word t r h => ?_) h
    exact answered_of_pure rfl h
  | temperature =>
    refine traces_read_bind (fun raw t r h => ?_) h
    exact answered_of_pure rfl h
  | firmwareInfo =>
    refine traces_read_bind (fun date t r h => ?_) h
    refine traces_read_bind (fun time t r h => ?_) h
    refine traces_read_bind (fun hash t r h => ?_) h
    exact answered_of_pure rfl h
  | chipId =>
    refine traces_read_bind (fun high t r h => ?_) h
    refine traces_read_bind (fun low t r h => ?_) h
    exact answered_of_pure rfl h

theorem traces_program {b : Binding} (right : b.bar = cruSupportBar) {q : Inquiry}
    {r : Except Error (Option q.Value)} (h : (q.program b).Traces t r) : Inquired q t r := by
  rw [program_eq_gated] at h
  obtain ⟨e, rfl, rfl⟩ | ⟨word, t', rfl, later⟩ := traces_gated right h
  · exact .unreadable e
  · split at later
    case isTrue has =>
      have present : ¬ LeavesOut word q.bit := by
        rw [← q.present_eq_false_iff word, has]
        decide
      exact .answered word present (traces_reading later)
    case isFalse lacks =>
      obtain ⟨rfl, rfl⟩ := later
      exact .leftOut word ((q.present_eq_false_iff word).1 (Bool.eq_false_iff.2 lacks))

end Inquiry

end Cru

/-- **Guarded inquiries.** Over any window, whichever way they are called: through a BAR other than
0 the serial number of a C-RORC, and through one other than 2 the four inquiries to a CRU, fail
with that BAR and the one needed, make no access and leave the window as it was. Through BAR 2 an
inquiry reads the features first. If their upper half is 0x5afe and its own bit is set, it gives
nothing and reads no more; else, whatever the other bits are, it reads exactly its own registers in
order, up to a read that fails. -/
theorem guarded_inquiries (w : Window σ) (s : σ) (bar : Nat) :
    (∀ p, Crorc.SerialCall bar p → bar ≠ 0 →
      w.run p s = (.error (.invalidAccess 0 bar "serial number"), s) ∧ w.transcript p s = []) ∧
    ∀ q p, Cru.Inquiry.Call bar q p →
      (bar ≠ 2 → w.run p s = (.error (.invalidAccess 2 bar q.name), s) ∧ w.transcript p s = []) ∧
      (bar = 2 → Cru.Inquired q (w.transcript p s) (w.run p s).1) := by
  constructor
  · intro p call other
    have refused : p = throw (.invalidAccess 0 bar "serial number") := by
      cases call with
      | direct type => exact Crorc.serial_of_ne other
      | card type => exact Crorc.serial_of_ne other
      | store => exact Crorc.serial_of_ne other
    subst refused
    exact ⟨w.run_throw _ s, w.transcript_throw _ s⟩
  · intro q p call
    obtain ⟨type, rfl⟩ := call.exists_program
    constructor
    · intro other
      have refused : q.program ⟨type, bar⟩ = throw (.invalidAccess 2 bar q.name) := by
        rw [q.program_eq_gated]
        exact Cru.gated_of_ne other q.name q.present _
      rw [refused]
      exact ⟨w.run_throw _ s, w.transcript_throw _ s⟩
    · intro right
      exact Cru.Inquiry.traces_program right (w.traces_transcript _ s)

end ReadoutCard
