import ReadoutCard.Card.Accessors
import ReadoutCard.Proofs.Requests

/-!
# The accesses that reading a serial number makes

A CRU is only read, for its serial number (`Cru.asks_serial`) as for whatever
else it tells of itself. For a C-RORC the only writes are the commands to read
the 19 words of the record, all to one register, and that register is never
read (`Crorc.asks_serial`).
-/

namespace ReadoutCard

open Register (Request)

/-- The request is a read. -/
inductive Request.IsRead : Request → Prop where
  | read (index : Nat) : IsRead (.read index)

namespace Crorc

/-- The command to read the word of the record at a position. -/
def recordCommand (k : Nat) : UInt32 := readCommand ||| (recordAddress + UInt32.ofNat k)

theorem recordAddress_next (k : Nat) :
    recordAddress + UInt32.ofNat k + 1 = recordAddress + UInt32.ofNat (k + 1) := by
  rw [UInt32.ofNat_add, UInt32.add_assoc]
  rfl

/-- The requests to the flash controller for the words of the record. -/
inductive RecordRequest : Request → Prop where
  | status : RecordRequest (.read flashStatus.index)
  | data : RecordRequest (.read flashData.index)
  | command (k : Nat) (inside : k < recordLength / 2) :
    RecordRequest (.write flashAddress.index (recordCommand k))

theorem asks_awaitWord (b : Binding) (polls : Nat) : (awaitWord b polls).Asks RecordRequest := by
  induction polls with
  | zero => exact Access.asks_throw _
  | succ polls ih =>
    rw [awaitWord, Binding.read_eq, Binding.read_eq]
    refine (Access.asks_read .status).bind fun _ => Access.asks_ite ?_ ih
    exact (Access.asks_read .data).bind fun _ => Access.asks_pure _

theorem asks_readWord (b : Binding) {k : Nat} (inside : k < recordLength / 2) :
    (readWord b (recordAddress + UInt32.ofNat k)).Asks RecordRequest := by
  rw [readWord, Binding.write_eq]
  exact (Access.asks_write (.command k inside)).bind fun _ => asks_awaitWord b _

/-- From the word at position `k` on, as many words are read as are left of the record. -/
theorem asks_readWords (b : Binding) (words : List UInt16) {k count : Nat}
    (left : k + count = recordLength / 2) :
    (readWords b (recordAddress + UInt32.ofNat k) words count).Asks RecordRequest := by
  induction count generalizing k words with
  | zero => exact Access.asks_pure _
  | succ count ih =>
    rw [readWords]
    refine (asks_readWord b (by omega)).bind fun _ => Access.asks_ite (Access.asks_pure _) ?_
    rw [recordAddress_next]
    exact ih _ (by omega)

theorem asks_serial (b : Binding) : (serial b).Asks RecordRequest := by
  have words := asks_readWords b [] (Nat.zero_add (recordLength / 2))
  rw [serial, Binding.requireBar]
  refine (Access.asks_ite (Access.asks_pure _) (Access.asks_throw _)).bind fun _ => ?_
  exact (words.bind fun _ => Access.asks_pure _).bind fun _ => Access.asks_pure _

end Crorc

namespace Cru

theorem asks_register (b : Binding) (register : Register) :
    (b.read register.index).Asks Request.IsRead :=
  Access.asks_read (.read _)

/-- Checking the BAR and the features is no more than reading. -/
theorem asks_gated {α : Type} (b : Binding) (what : String) (present : Features → Bool)
    {value : Access (Option α)} (asks : value.Asks Request.IsRead) :
    (gated b what present value).Asks Request.IsRead := by
  rw [gated, Binding.requireBar]
  refine (Access.asks_ite (Access.asks_pure _) (Access.asks_throw _)).bind fun _ => ?_
  refine ((asks_register b _).bind fun _ => Access.asks_pure _).bind fun _ => ?_
  exact Access.asks_ite asks (Access.asks_pure _)

theorem asks_serial (b : Binding) : (serial b).Asks Request.IsRead :=
  asks_gated b _ _ ((asks_register b _).bind fun _ => Access.asks_pure _)

theorem asks_temperature (b : Binding) : (temperature b).Asks Request.IsRead :=
  asks_gated b _ _ ((asks_register b _).bind fun _ => Access.asks_pure _)

theorem asks_firmwareInfo (b : Binding) : (firmwareInfo b).Asks Request.IsRead :=
  asks_gated b _ _ ((asks_register b _).bind fun _ => (asks_register b _).bind fun _ =>
    (asks_register b _).bind fun _ => Access.asks_pure _)

theorem asks_chipId (b : Binding) : (chipId b).Asks Request.IsRead :=
  asks_gated b _ _ ((asks_register b _).bind fun _ => (asks_register b _).bind fun _ =>
    Access.asks_pure _)

end Cru

end ReadoutCard
