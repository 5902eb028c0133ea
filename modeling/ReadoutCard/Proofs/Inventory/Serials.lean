import ReadoutCard.Proofs.Crorc.Record
import ReadoutCard.Proofs.Inquiries
import ReadoutCard.Proofs.Inventory.Visits

/-!
# The serial numbers that the searches tell

A C-RORC keeps its number as five decimal digits (`Crorc.traces_serial_ok`), a
CRU in a register whose word is taken as a signed one (`Cru.traces_serial_ok`).
Neither reading gives a negative number. `serials_found` puts that together
with where the result of a search comes from: over every layer, whatever it
answers from one request to the next, each card stands on its own reading, and
no search finds a card by a negative number.
-/

namespace ReadoutCard

open Pci (Query Trace)
open Register (readOk)

variable {H W σ : Type}

/-! ### The two readings -/

namespace Crorc

/-- Digits stand for a number that has no more of them. -/
theorem decimal_lt {digits : List UInt8} (h : ∀ c ∈ digits, IsDigit c) :
    decimal digits < 10 ^ digits.length := by
  have bound := Nat.ofDigits_lt_base_pow_length (b := 10)
    (l := digits.reverse.map fun c => c.toNat - 0x30) (by decide) fun d hd => ?_
  · rwa [List.length_map, List.length_reverse] at bound
  · obtain ⟨c, hc, rfl⟩ := List.mem_map.1 hd
    have last : c.toNat ≤ 0x39 := UInt8.le_iff_toNat_le.1 (h c (List.mem_reverse.1 hc)).2
    omega

theorem serialOfRecord_bounds {record : List UInt8} {n : Int} (h : serialOfRecord record = some n) :
    0 ≤ n ∧ n ≤ 99999 := by
  obtain ⟨digits, rfl⟩ := (serialOfRecord_eq_some_iff record n).1 h
  have bound := decimal_lt digits
  have width : (serialField record).length ≤ 5 := by
    rw [serialField]
    exact List.length_take_le ..
  have power : 10 ^ (serialField record).length ≤ 10 ^ 5 := Nat.pow_le_pow_right (by decide) width
  omega

/-- Whatever the flash answers, a number read out of it has at most five digits. -/
theorem traces_serial_ok {b : Binding} {t : Register.Trace} {n : Int}
    (h : (serial b).Traces t (.ok (some n))) : 0 ≤ n ∧ n ≤ 99999 := by
  obtain ⟨t₁, -, t₂, rfl, -, later⟩ := Access.traces_bind_ok.1 h
  obtain ⟨t₃, record, t₄, rfl, -, -, same⟩ := Access.traces_bind_ok.1 later
  obtain ⟨record, -, serial⟩ := Option.bind_eq_some_iff.1 (Except.ok.inj same).symm
  exact serialOfRecord_bounds serial

end Crorc

namespace Cru

/-- What the successful reading of a serial number has read, and the number that it gives. -/
inductive Told : Register.Trace → Option Int → Prop where
  | number (features word : UInt32) (present : (Features.ofWord features).serial = true)
      (small : word.toNat < 2 ^ 31) :
    Told [readOk firmwareFeatures features, readOk serialNumber word] (some word.toNat)
  | unprogrammed (features word : UInt32) (present : (Features.ofWord features).serial = true)
      (large : 2 ^ 31 ≤ word.toNat) :
    Told [readOk firmwareFeatures features, readOk serialNumber word] none
  | leftOut (features : UInt32) (absent : (Features.ofWord features).serial = false) :
    Told [readOk firmwareFeatures features] none

/-- The serial number is read through the right BAR only, and comes out of the register. -/
theorem traces_serial_ok {b : Binding} {t : Register.Trace} {serial : Option Int}
    (h : (Cru.serial b).Traces t (.ok serial)) : b.bar = cruSupportBar ∧ Told t serial := by
  by_cases bar : b.bar = cruSupportBar
  case neg =>
    rw [Cru.serial, gated_of_ne bar] at h
    cases h.2
  refine ⟨bar, ?_⟩
  have inquired : Inquired .serial t (.ok serial) := Inquiry.traces_program bar h
  cases inquired with
  | leftOut features absent =>
    exact .leftOut features ((Inquiry.serial.present_eq_false_iff features).2 absent)
  | answered features kept values =>
    have present : (Features.ofWord features).serial = true :=
      Bool.eq_true_of_not_eq_false fun absent =>
        kept ((Inquiry.serial.present_eq_false_iff features).1 absent)
    cases values with
    | read word later =>
      cases later
      show Told _ (serialOfWord word)
      rw [serialOfWord]
      split
      case isTrue small => exact .number features word present small
      case isFalse large => exact .unprogrammed features word present (Nat.not_lt.1 large)

theorem Told.nonneg {t : Register.Trace} {n : Int} (h : Told t (some n)) : 0 ≤ n := by
  cases h with
  | number features word present small => exact Int.natCast_nonneg _

end Cru

namespace Inventory

/-- What the exchanges with the layer for the serial number of a CRU tell of it. -/
inductive CruTold (device : H) : Trace H W → Option Int → Prop where
  /-- The BAR was mapped and its registers were read. -/
  | read (window : W) (accesses : Register.Trace) (serial : Option Int)
      (told : Cru.Told accesses serial) :
    CruTold device (⟨.map device 2, .ok ⟨window, 2⟩⟩ :: accesses.map (Pci.onWindowOf window)) serial
  /-- The reading failed on its way. -/
  | failed (u : Trace H W) (e : Error) (failed : (serialOf Family.cru device).Traces u (.error e)) :
    CruTold device u none

/-- What the exchanges `u` for the serial number of a card tell of it. -/
structure SerialTold (u : Trace H W) (f : Found H) : Prop where
  family : f.card.type = .crorc ∨ f.card.type = .cru
  nonneg : ∀ n, f.card.serial = some n → 0 ≤ n
  crorc : f.card.type = .crorc → ∀ n, f.card.serial = some n → n ≤ 99999
  cru : f.card.type = .cru → CruTold f.device u f.card.serial

theorem traces_serialOf_ok {family : Family} {device : H} {u : Trace H W} {serial : Option Int}
    (h : (serialOf family device).Traces u (.ok serial)) : ∃ m accesses,
      u = ⟨.map device family.serial.bar, .ok m⟩ :: accesses.map (Pci.onWindowOf m.window) ∧
      (family.serial.read m.bar).Traces accesses (.ok serial) := by
  obtain ⟨t₁, m, t₂, rfl, mapped, accessed⟩ := Pci.traces_bind_ok.1 h
  obtain rfl := Pci.traces_map.1 mapped
  obtain ⟨accesses, read, rfl⟩ := Pci.traces_access.1 accessed
  exact ⟨m, accesses, rfl, read⟩

/-- A reading tells the serial number within the bounds of its family. -/
theorem SerialRead.told {u : Trace H W} {f : Found H} (h : SerialRead u f) : SerialTold u f := by
  obtain ⟨family, searched, type, r, read, serial⟩ := h
  rcases Family.mem_all_iff.1 searched with rfl | rfl
  · have bounds : ∀ n, f.card.serial = some n → 0 ≤ n ∧ n ≤ 99999 := by
      intro n hn
      cases r with
      | error e => cases serial.symm.trans hn
      | ok number =>
        obtain rfl : number = some n := serial.symm.trans hn
        obtain ⟨m, accesses, -, flash⟩ := traces_serialOf_ok read
        exact Crorc.traces_serial_ok flash
    exact {
      family := .inl type
      nonneg := fun n hn => (bounds n hn).1
      crorc := fun _ n hn => (bounds n hn).2
      cru := fun other => absurd (type.symm.trans other) (by decide) }
  · have told : CruTold f.device u f.card.serial := by
      cases r with
      | error e =>
        rw [serial]
        exact .failed u e read
      | ok number =>
        obtain ⟨⟨window, bar⟩, accesses, rfl, register⟩ := traces_serialOf_ok read
        obtain ⟨rfl, told⟩ := Cru.traces_serial_ok register
        rw [serial]
        exact .read window accesses number told
    refine {
      family := .inr type
      nonneg := fun n hn => ?_
      crorc := fun other => absurd (type.symm.trans other) (by decide)
      cru := fun _ => told }
    rw [hn] at told
    cases told with
    | read window accesses _ told => exact told.nonneg

/-- **Serial numbers found.** Over every PCI layer, whatever it answers, each card that a search
shows is of a known family and stands on exchanges of its own for its serial number, in the order
of the cards. The number is not negative, for a C-RORC it is at most 99999, and for a CRU it is the
word read in the register, which is below 2^31; a larger word shows as no number, as does a
firmware without the register and, for a card found by its address, a reading that failed. So no
search finds a card by a negative number. -/
theorem serials_found (answer : (q : Pci.Request H W) → σ → Pci.Answer q × σ) (s : σ) :
    (∀ (o : Search) (value : o.Value H), Pci.result answer o.query s = .ok value →
      ∃ found, o.Shows value found ∧
        Backed SerialTold (Dialogue.transcript answer (ExceptT.run o.query) s) found) ∧
    ∀ wanted < 0,
      (∀ cards, Pci.result answer (withSerial wanted) s = .ok cards → cards = []) ∧
      ∀ found, Pci.result answer (locate (.serial wanted)) s ≠ .ok found := by
  have known : ∀ (o : Search) (value : o.Value H), Pci.result answer o.query s = .ok value →
      ∃ found, o.Shows value found ∧
        Backed SerialTold (Dialogue.transcript answer (ExceptT.run o.query) s) found := by
    intro o value result
    have path := Dialogue.path_transcript answer (ExceptT.run o.query) s
    rw [show (Dialogue.run answer (ExceptT.run o.query) s).1 = .ok value from result] at path
    obtain ⟨found, shown, backed⟩ := o.backed_search path
    exact ⟨found, shown, backed.mono fun u f _ read => read.told⟩
  refine ⟨known, fun wanted negative => ⟨fun cards result => ?_, fun card result => ?_⟩⟩
  · obtain ⟨found, ⟨rfl, fits⟩, backed⟩ := known (.withSerial wanted) cards result
    cases found with
    | nil => rfl
    | cons f rest =>
      obtain ⟨u, told⟩ := backed.exists_of_mem List.mem_cons_self
      have := told.nonneg wanted (fits f List.mem_cons_self)
      omega
  · obtain ⟨found, ⟨rfl, fits⟩, backed⟩ := known (.locate (.serial wanted)) card result
    obtain ⟨u, told⟩ := backed.exists_of_mem List.mem_cons_self
    have := told.nonneg wanted (fits wanted rfl)
    omega

end Inventory

end ReadoutCard
