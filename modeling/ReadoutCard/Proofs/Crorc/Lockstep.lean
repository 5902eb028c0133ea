import ReadoutCard.Proofs.Crorc.Polling
import ReadoutCard.Proofs.Crorc.Record
import ReadoutCard.Proofs.Lockstep

/-!
# The bits of the flash registers that are ignored

Of a status word only bit 0 counts and of a data word only the lower half, so
two windows that differ in the other bits alone cannot be told apart by reading
the record (`seesOnly_readWords`, by induction on the words left). Of the record
the serial number takes bytes 33 to 37 (`serialOfRecord_congr`).
`flash_lockstep` puts both together.
-/

namespace ReadoutCard

namespace Crorc

variable {σ τ : Type}

/-- What counts of the word in a register. -/
def counting (index : Nat) (word : UInt32) : UInt32 :=
  if index = flashStatus.index then word &&& 1
  else if index = flashData.index then word &&& 0xffff
  else word

theorem toUInt16_and (word : UInt32) : (word &&& 0xffff).toUInt16 = word.toUInt16 := by
  have low : word.toNat &&& 0xffff = word.toNat % 2 ^ 16 := Nat.and_two_pow_sub_one_eq_mod _ 16
  apply UInt16.toNat_inj.1
  rw [UInt32.toNat_toUInt16, UInt32.toNat_toUInt16, UInt32.toNat_and]
  show (word.toNat &&& 0xffff) % 2 ^ 16 = _
  rw [low, Nat.mod_mod]

theorem bit_congr {v v' : UInt32} (same : v &&& 1 = v' &&& 1) :
    Bits.bit v statusReadyBit = Bits.bit v' statusReadyBit := by
  apply Bool.eq_iff_iff.mpr
  rw [bit_statusReadyBit_iff, bit_statusReadyBit_iff, Ready, Ready, same]

theorem toUInt16_congr {v v' : UInt32} (same : v &&& 0xffff = v' &&& 0xffff) :
    v.toUInt16 = v'.toUInt16 := by
  rw [← toUInt16_and v, same, toUInt16_and v']

/-! ### Reading the record -/

theorem seesOnly_awaitWord (b : Binding) (polls : Nat) :
    (awaitWord b polls).SeesOnly counting := by
  induction polls with
  | zero => exact Access.seesOnly_throw _
  | succ polls ih =>
    rw [awaitWord, Binding.read_eq, Binding.read_eq]
    refine Access.seesOnly_read_bind (fun v v' same => ?_) fun status => ?_
    · rw [bit_congr (same : v &&& 1 = v' &&& 1)]
    · refine Access.seesOnly_ite (Access.seesOnly_read_bind (fun v v' same => ?_) fun data => ?_) ih
      · rw [toUInt16_congr (same : v &&& 0xffff = v' &&& 0xffff)]
      · exact Access.seesOnly_pure _

theorem seesOnly_readWord (b : Binding) (address : UInt32) :
    (readWord b address).SeesOnly counting := by
  rw [readWord, Binding.write_eq]
  exact (Access.seesOnly_write _ _).bind fun _ => seesOnly_awaitWord b _

theorem seesOnly_readWords (b : Binding) (address : UInt32) (words : List UInt16) (count : Nat) :
    (readWords b address words count).SeesOnly counting := by
  induction count generalizing address words with
  | zero => exact Access.seesOnly_pure _
  | succ count ih =>
    refine (seesOnly_readWord b address).bind fun word => ?_
    exact Access.seesOnly_ite (Access.seesOnly_pure _) (ih _ _)

theorem seesOnly_recordBytes (b : Binding) : (recordBytes b).SeesOnly counting :=
  (seesOnly_readWords b _ _ _).bind fun _ => Access.seesOnly_pure _

theorem seesOnly_serial (b : Binding) : (serial b).SeesOnly counting := by
  rw [serial, Binding.requireBar]
  refine (Access.seesOnly_ite (Access.seesOnly_pure _) (Access.seesOnly_throw _)).bind fun _ => ?_
  exact (seesOnly_recordBytes b).bind fun _ => Access.seesOnly_pure _

theorem seesOnly_recordText (b : Binding) : (recordText b).SeesOnly counting :=
  (seesOnly_recordBytes b).bind fun _ => Access.seesOnly_pure _

/-! ### The card type

It makes no difference to the registers, and so none to what is read. -/

theorem awaitWord_of_type (type type' : CardType) (bar polls : Nat) :
    awaitWord ⟨type, bar⟩ polls = awaitWord ⟨type', bar⟩ polls := by
  induction polls with
  | zero => rfl
  | succ polls ih => simp only [awaitWord, Binding.read_eq, ih]

theorem readWord_of_type (type type' : CardType) (bar : Nat) (address : UInt32) :
    readWord ⟨type, bar⟩ address = readWord ⟨type', bar⟩ address := by
  rw [readWord, readWord, Binding.write_eq, Binding.write_eq, awaitWord_of_type type type']

theorem readWords_of_type (type type' : CardType) (bar : Nat) (address : UInt32)
    (words : List UInt16) (count : Nat) :
    readWords ⟨type, bar⟩ address words count = readWords ⟨type', bar⟩ address words count := by
  induction count generalizing address words with
  | zero => rfl
  | succ count ih => simp only [readWords, readWord_of_type type type', ih]

theorem recordBytes_of_type (type type' : CardType) (bar : Nat) :
    recordBytes ⟨type, bar⟩ = recordBytes ⟨type', bar⟩ := by
  rw [recordBytes, recordBytes, readWords_of_type type type']

theorem serial_of_type (type type' : CardType) (bar : Nat) :
    serial ⟨type, bar⟩ = serial ⟨type', bar⟩ := by
  rw [serial, serial, recordBytes_of_type type type']
  rfl

theorem recordText_of_type (type type' : CardType) (bar : Nat) :
    recordText ⟨type, bar⟩ = recordText ⟨type', bar⟩ := by
  rw [recordText, recordText, recordBytes_of_type type type']

/-! ### What the serial number takes of the record -/

theorem serialOfRecord_congr {record record' : List UInt8}
    (same : ∀ i, 33 ≤ i → i ≤ 37 → record[i]? = record'[i]?) :
    serialOfRecord record = serialOfRecord record' := by
  have field : (record.drop serialOffset).take serialDigits =
      (record'.drop serialOffset).take serialDigits := by
    apply List.ext_getElem?
    intro i
    rw [List.getElem?_take, List.getElem?_take]
    split
    case isTrue inside =>
      have last : 33 + i ≤ 37 := Nat.add_le_add_left (Nat.le_of_lt_succ inside) 33
      rw [List.getElem?_drop, List.getElem?_drop]
      exact same (33 + i) (Nat.le_add_right 33 i) last
    case isFalse => rfl
  rw [serialOfRecord, field, serialOfRecord]

theorem run_serial_of_record {w : Window σ} {s : σ} {b : Binding} {record : List UInt8}
    (right : b.bar = crorcFlashBar) (h : (w.run (recordBytes b) s).1 = .ok (some record)) :
    (w.run (serial b) s).1 = .ok (serialOfRecord record) := by
  obtain ⟨type, bar⟩ := b
  obtain rfl : bar = crorcFlashBar := right
  rw [run_serial, h]
  rfl

/-- **What is ignored of the flash.** Two windows of one BAR that answer every sequence of accesses
alike, but for bits 1 to 31 of the status and bits 16 to 31 of the data, see the same accesses, of
the same values, and give the same serial number and the same text or fail alike. And of two
records without an erased word, read through any two windows, the serial numbers are the same if
bytes 33 to 37 are. -/
theorem flash_lockstep (w : Window σ) (w' : Window τ) (type type' : CardType) (bar : Nat) (s : σ)
    (s' : τ) :
    ((∀ requests,
        Dialogue.AnswersAlike (Access.Alike counting) w.answer w'.answer requests s s') →
      (w.run (serial ⟨type, bar⟩) s).1 = (w'.run (serial ⟨type', bar⟩) s').1 ∧
      (w.transcript (serial ⟨type, bar⟩) s).map Exchange.request =
        (w'.transcript (serial ⟨type', bar⟩) s').map Exchange.request ∧
      (w.run (recordText ⟨type, bar⟩) s).1 = (w'.run (recordText ⟨type', bar⟩) s').1 ∧
      (w.transcript (recordText ⟨type, bar⟩) s).map Exchange.request =
        (w'.transcript (recordText ⟨type', bar⟩) s').map Exchange.request) ∧
    ∀ record record', (w.run (recordBytes ⟨type, bar⟩) s).1 = .ok (some record) →
      (w'.run (recordBytes ⟨type', bar⟩) s').1 = .ok (some record') →
      (∀ i, 33 ≤ i → i ≤ 37 → record[i]? = record'[i]?) →
      (w.run (serial ⟨type, bar⟩) s).1 = (w'.run (serial ⟨type', bar⟩) s').1 ∧
      (bar = 0 → (w.run (serial ⟨type, bar⟩) s).1 = .ok (serialOfRecord record)) := by
  constructor
  · intro alike
    rw [serial_of_type type type', recordText_of_type type type']
    obtain ⟨number, asked⟩ := Dialogue.Ignores.lockstep (seesOnly_serial ⟨type', bar⟩) alike
    obtain ⟨text, read⟩ := Dialogue.Ignores.lockstep (seesOnly_recordText ⟨type', bar⟩) alike
    exact ⟨number, asked, text, read⟩
  · intro record record' found found' same
    by_cases right : bar = crorcFlashBar
    · rw [run_serial_of_record right found, run_serial_of_record right found',
        serialOfRecord_congr same]
      exact ⟨rfl, fun _ => rfl⟩
    · have wrong (type : CardType) := serial_of_ne (b := ⟨type, bar⟩) right
      rw [wrong type, wrong type']
      exact ⟨rfl, fun zero => absurd zero right⟩

end Crorc

namespace FlashController

open Crorc

/-- The controllers hold the same flash in the same state, and differ only in bits that do not
count. -/
structure Twins (f g : FlashController) : Prop where
  words : f.words = g.words
  delay : f.delay = g.delay
  selected : f.selected = g.selected
  polls : f.polls = g.polls
  ready : f.ready &&& 1 = g.ready &&& 1
  waiting : f.waiting &&& 1 = g.waiting &&& 1
  high : f.high &&& 0xffff = g.high &&& 0xffff

variable {f g : FlashController}

theorem Twins.wordAt_eq (h : Twins f g) (address : Nat) : f.wordAt address = g.wordAt address := by
  rw [wordAt, wordAt, h.words]

/-- Twins answer a read alike and stay twins. -/
theorem Twins.read (h : Twins f g) (index : Nat) :
    counting index (f.read index).1 = counting index (g.read index).1 ∧
      Twins (f.read index).2 (g.read index).2 := by
  unfold counting FlashController.read
  by_cases status : index = flashStatus.index
  · simp only [if_pos status]
    refine ⟨?_, { h with polls := congrArg (· + 1) h.polls }⟩
    rw [h.delay, h.polls]
    split
    · exact h.ready
    · exact h.waiting
  · simp only [if_neg status]
    by_cases data : index = flashData.index
    · simp only [if_pos data]
      refine ⟨?_, h⟩
      rw [h.selected, h.wordAt_eq]
      exact Bits.or_and_congr h.high _
    · simp only [if_neg data]
      exact ⟨trivial, h⟩

theorem Twins.write (h : Twins f g) (index : Nat) (value : UInt32) :
    Twins (f.write index value) (g.write index value) := by
  unfold FlashController.write
  split
  · exact { h with selected := rfl, polls := rfl }
  · exact h

theorem Twins.answersAlike (h : Twins f g) (requests : List Register.Request) :
    Dialogue.AnswersAlike (Access.Alike counting) window.answer window.answer requests f g := by
  induction requests generalizing f g with
  | nil => trivial
  | cons q rest ih =>
    cases q with
    | read index => exact ⟨congrArg Except.ok (h.read index).1, ih (h.read index).2⟩
    | write index value => exact ⟨rfl, ih (h.write index value)⟩

/-- Another description before the same digits, and nothing in the bits that do not count. -/
def relabelled : FlashController :=
  { slowest with
    words := Array.replicate 16 0x2020 ++ #[0x2030, 0x3030, 0x3432]
    ready := 1
    waiting := 0
    high := 0 }

/-- The record of a controller that is honest and fast enough, if none of its words is erased. -/
theorem run_recordBytes_of_written {f : FlashController} (ready : Bits.bit f.ready 0 = true)
    (waiting : Bits.bit f.waiting 0 = false) (high : f.high.toNat % 2 ^ 16 = 0)
    (fast : f.delay < 10000) (written : 0xffff ∉ recordWords f.wordAt) (b : Binding) :
    (window.run (recordBytes b) f).1 =
      .ok (some ((recordWords f.wordAt).flatMap wordBytes)) := by
  rw [run_recordBytes (f.honest ready waiting high) b (rfl : f = { f with polls := f.polls }),
    if_pos fast, if_neg written]

theorem slowest_lockstep :
    (window.transcript (serial ⟨.crorc, 0⟩) slowest).map Exchange.request =
        (window.transcript (serial ⟨.cru, 0⟩)
          { slowest with ready := 1, waiting := 0, high := 0 }).map Exchange.request ∧
      (window.run (serial ⟨.crorc, 0⟩) slowest).1 =
        (window.run (serial ⟨.cru, 0⟩) relabelled).1 := by
  have twins : Twins slowest { slowest with ready := 1, waiting := 0, high := 0 } :=
    ⟨rfl, rfl, rfl, rfl, by decide, by decide, by decide⟩
  have described := run_recordBytes_of_written (f := slowest) (by decide) (by decide) (by decide)
    (by decide) (by decide) ⟨.crorc, 0⟩
  have named := run_recordBytes_of_written (f := relabelled) (by decide) (by decide) (by decide)
    (by decide) (by decide) ⟨.cru, 0⟩
  refine ⟨?_, ?_⟩
  · exact ((flash_lockstep window window .crorc .cru 0 _ _).1 twins.answersAlike).2.1
  · exact ((flash_lockstep window window .crorc .cru 0 _ _).2 _ _ described named
      (by decide)).1

end FlashController

end ReadoutCard
