import Mathlib.Data.List.Forall2
import ReadoutCard.Proofs.Inventory.Agreement

/-!
# What the listing of every card lists

Two kinds of failures meet in a listing. One of the topology ends it: the
devices of a family, an address or a NUMA node cannot be told
(`Layer.failures`, in the order in which they would be met). One of mapping or
reading a serial number only skips the device, after its address and before
its NUMA node. So the listing gives the first failure of the topology, or else
one entry for each device with a readable serial number (`Layer.IsEntry`), and
what is skipped leaves no trace (`collected_map_filter`).
-/

namespace ReadoutCard

open Pci (Query)

variable {H W α β σ : Type}

/-! ### Outcomes with failures -/

/-- The failure of a visit, if it failed. -/
def visitFailure? : Except Error (Option α) → Option Error
  | .error e => some e
  | .ok _ => none

/-- The first failure ends the collection. -/
theorem collected_eq_error {outcomes : List (Except Error (Option α))} {e : Error}
    {later : List Error} (h : outcomes.filterMap visitFailure? = e :: later) :
    collected outcomes = .error e := by
  induction outcomes with
  | nil => cases h
  | cons o rest ih =>
    cases o with
    | error cause =>
      cases h
      rfl
    | ok hit =>
      have first := ih h
      cases hit with
      | none => exact first
      | some a =>
        rw [collected, first]
        rfl

/-- Without a failure everything is collected. -/
theorem collected_eq_ok {outcomes : List (Except Error (Option α))}
    (h : outcomes.filterMap visitFailure? = []) : ∃ l, collected outcomes = .ok l := by
  induction outcomes with
  | nil => exact ⟨[], rfl⟩
  | cons o rest ih =>
    cases o with
    | error cause => cases h
    | ok hit =>
      obtain ⟨l, later⟩ := ih h
      cases hit with
      | none => exact ⟨l, later⟩
      | some a =>
        refine ⟨a :: l, ?_⟩
        rw [collected, later]
        rfl

/-- Visits that give nothing need not be made. -/
theorem collected_map_filter {v : β → Except Error (Option α)} {p : β → Bool} {l : List β}
    (h : ∀ x ∈ l, p x = false → v x = .ok none) :
    collected ((l.filter p).map v) = collected (l.map v) := by
  induction l with
  | nil => rfl
  | cons x rest ih =>
    have later := ih fun y hy => h y (List.mem_cons_of_mem x hy)
    cases hx : p x with
    | false =>
      rw [List.filter_cons_of_neg (by simp [hx]), later, List.map_cons,
        h x List.mem_cons_self hx]
      rfl
    | true =>
      rw [List.filter_cons_of_pos hx, List.map_cons, List.map_cons]
      cases v x with
      | error e => rfl
      | ok hit =>
        cases hit with
        | none => exact later
        | some a => rw [collected, collected, later]

/-- Where `g` gives a related value exactly at matches, the matches and the values given
correspond one to one, in order. -/
theorem forall₂_filter_filterMap {R : β → α → Prop} {p : β → Bool} {g : β → Option α} {l : List β}
    (h : ∀ x ∈ l, if p x then ∃ a, g x = some a ∧ R x a else g x = none) :
    List.Forall₂ R (l.filter p) (l.filterMap g) := by
  induction l with
  | nil => exact .nil
  | cons x rest ih =>
    have later := ih fun y hy => h y (List.mem_cons_of_mem x hy)
    have here := h x List.mem_cons_self
    cases hx : p x with
    | false =>
      simp only [hx] at here
      rwa [List.filter_cons_of_neg (by simp [hx]), List.filterMap_cons_none (by simpa using here)]
    | true =>
      simp only [hx, if_true] at here
      obtain ⟨a, given, related⟩ := here
      rw [List.filter_cons_of_pos hx, List.filterMap_cons_some given]
      exact .cons related later

namespace Layer

/-! ### The listing in terms of the tables -/

/-- The failure of the topology at a device. The NUMA node of a device that is skipped is not
asked for. -/
def failureAt? (layer : Layer H) (family : Family) (device : H) : Option Error :=
  match layer.address device, layer.serial family device, layer.numaNode device with
  | .error e, _, _ => some e
  | .ok _, .error _, _ => none
  | .ok _, .ok _, .error e => some e
  | .ok _, .ok _, .ok _ => none

/-- The failures of the topology, family by family and device by device. -/
def failures (layer : Layer H) : List Error :=
  Family.all.flatMap fun family => match layer.devices family.pciId with
    | .error e => [e]
    | .ok devices => devices.filterMap (layer.failureAt? family)

/-- The serial number of the device can be read. -/
def readable (layer : Layer H) (p : Family × H) : Bool := (layer.serial p.1 p.2).isOk

/-- The entry of a device: type and identity of its family, and what the layer tells of it. -/
structure IsEntry (layer : Layer H) (p : Family × H) (found : Found H) : Prop where
  device : found.device = p.2
  type : found.card.type = p.1.type
  pciId : found.card.pciId = p.1.pciId
  address : layer.address p.2 = .ok found.card.address
  serial : layer.serial p.1 p.2 = .ok found.card.serial
  numaNode : layer.numaNode p.2 = .ok found.card.numaNode

theorem visitFailure?_visit (layer : Layer H) (family : Family) (device : H) :
    visitFailure? (layer.visit family device) = layer.failureAt? family device := by
  unfold visit failureAt? entryUnlessSkipped entry
  cases layer.address device with
  | error e => rfl
  | ok address =>
    cases layer.serial family device with
    | error cause => rfl
    | ok serial => cases layer.numaNode device <;> rfl

theorem failures_eq (layer : Layer H) :
    layer.failures = (layer.outcomes layer.visit Family.all).filterMap visitFailure? := by
  rw [outcomes, List.filterMap_flatMap]
  unfold failures
  congr
  funext family
  cases layer.devices family.pciId with
  | error e => rfl
  | ok devices =>
    rw [List.filterMap_map]
    exact congrArg (devices.filterMap ·) (funext fun d => (layer.visitFailure?_visit family d).symm)

variable {layer : Layer H} {found : List (Found H)}

theorem isEntry_of_entry {family : Family} {device : H} {address : PciAddress}
    {serial : Option Int} {f : Found H} (ha : layer.address device = .ok address)
    (hs : layer.serial family device = .ok serial)
    (he : layer.entry family device address serial = .ok f) : layer.IsEntry (family, device) f := by
  unfold entry at he
  cases hn : layer.numaNode device with
  | error e =>
    rw [hn] at he
    cases he
  | ok node =>
    rw [hn] at he
    cases he
    exact ⟨rfl, rfl, rfl, ha, hs, hn⟩

/-- What is kept of the devices are entries of those with a readable serial number. -/
theorem entries_of_collected (h : collected (layer.outcomes layer.visit Family.all) = .ok found) :
    List.Forall₂ layer.IsEntry ((layer.pairs Family.all).filter layer.readable) found := by
  rw [eq_filterMap_kept h]
  refine forall₂_filter_filterMap fun p hp => ?_
  obtain ⟨address, ha, skipped | ⟨serial, f, hs, he, hk⟩⟩ := visit_eq_ok (visit_eq_kept h p hp)
  · obtain ⟨cause, hs, hk⟩ := skipped
    simp [readable, hs, hk, Except.isOk, Except.toBool]
  · have described := isEntry_of_entry ha hs he
    simpa [readable, hs, hk, Except.isOk, Except.toBool] using described

/-! ### What is skipped leaves no trace -/

/-- The device is skipped: it has an address, but its serial number cannot be read. -/
def skips (layer : Layer H) (family : Family) (device : H) : Bool :=
  (layer.address device).isOk && !(layer.serial family device).isOk

/-- The devices listed for a family that are not skipped. -/
def unskipped (layer : Layer H) (family : Family) : Except Error (List H) :=
  (layer.devices family.pciId).map (List.filter fun device => !layer.skips family device)

/-- The layers differ at most in devices that are skipped: such devices may be missing, added, or
fail for another reason. -/
structure SameUnskipped (layer layer' : Layer H) : Prop where
  devices : ∀ family ∈ Family.all, layer'.unskipped family = layer.unskipped family
  tellSame : ∀ family device, layer.Lists family device → layer.skips family device = false →
    layer.TellSame layer' family device

/-- Deleting a device that is skipped. -/
theorem SameUnskipped.of_deleted {layer' : Layer H} {family : Family} {before after : List H}
    {device : H} (listed : layer.devices family.pciId = .ok (before ++ device :: after))
    (skipped : layer.skips family device = true)
    (deleted : layer'.devices family.pciId = .ok (before ++ after))
    (others : ∀ other ∈ Family.all, other ≠ family →
      layer'.devices other.pciId = layer.devices other.pciId)
    (address : layer'.address = layer.address) (serial : layer'.serial = layer.serial)
    (numaNode : layer'.numaNode = layer.numaNode) : layer.SameUnskipped layer' where
  devices other hf := by
    have same_skips : layer'.skips = layer.skips := by
      unfold skips
      rw [address, serial]
    unfold unskipped
    rw [same_skips]
    by_cases this_one : other = family
    · subst this_one
      rw [listed, deleted]
      simp [Except.map, skipped]
    · rw [others other hf this_one]
  tellSame other d _ _ := ⟨by rw [address], by rw [serial], by rw [numaNode]⟩

/-- Letting devices that are skipped fail for other reasons. -/
theorem SameUnskipped.of_failing {layer' : Layer H} (devices : layer'.devices = layer.devices)
    (address : layer'.address = layer.address) (numaNode : layer'.numaNode = layer.numaNode)
    (serial : ∀ family device, layer'.serial family device = layer.serial family device ∨
      layer.skips family device = true ∧ ∃ cause, layer'.serial family device = .error cause) :
    layer.SameUnskipped layer' where
  devices family _ := by
    have same_skips (d : H) : layer'.skips family d = layer.skips family d := by
      obtain same | ⟨skipped, cause, failed⟩ := serial family d
      · rw [skips, skips, address, same]
      · have addressed := skipped
        unfold skips at addressed ⊢
        rw [addressed, address, failed]
        simpa [Except.isOk, Except.toBool] using (Bool.and_eq_true_iff.1 addressed).1
    simp only [unskipped, devices, same_skips]
  tellSame family d _ unskipped := by
    obtain same | ⟨skipped, -⟩ := serial family d
    · exact ⟨congrFun address d, same, congrFun numaNode d⟩
    · rw [skipped] at unskipped
      cases unskipped

theorem visit_of_skips {family : Family} {device : H} (h : layer.skips family device = true) :
    layer.visit family device = .ok none := by
  unfold skips at h
  unfold visit entryUnlessSkipped
  cases ha : layer.address device with
  | error e =>
    rw [ha] at h
    cases h
  | ok address =>
    cases hs : layer.serial family device with
    | error cause => rfl
    | ok serial =>
      rw [ha, hs] at h
      cases h

/-- Of a family, the devices that are not skipped decide what is collected. -/
theorem collected_unskipped (layer : Layer H) (family : Family) (devices : List H) :
    collected ((devices.filter fun device => !layer.skips family device).map (layer.visit family)) =
      collected (devices.map (layer.visit family)) :=
  collected_map_filter fun device _ skipped => visit_of_skips (by simpa using skipped)

theorem collected_of_sameUnskipped {layer' : Layer H} (h : SameUnskipped layer layer') :
    collected (layer'.outcomes layer'.visit Family.all) =
      collected (layer.outcomes layer.visit Family.all) := by
  suffices ∀ families ⊆ Family.all, collected (layer'.outcomes layer'.visit families) =
      collected (layer.outcomes layer.visit families) from this _ (List.Subset.refl _)
  intro families known
  induction families with
  | nil => rfl
  | cons family rest ih =>
    obtain ⟨searched, others⟩ := List.cons_subset.1 known
    have same := h.devices family searched
    rw [collected_outcomes_cons, collected_outcomes_cons, ih others]
    unfold unskipped at same
    cases listed : layer.devices family.pciId with
    | error e =>
      cases listed' : layer'.devices family.pciId with
      | error e' =>
        rw [listed, listed'] at same
        cases same
        rfl
      | ok devices' =>
        rw [listed, listed'] at same
        cases same
    | ok devices =>
      cases listed' : layer'.devices family.pciId with
      | error e' =>
        rw [listed, listed'] at same
        cases same
      | ok devices' =>
        rw [listed, listed'] at same
        have kept := Except.ok.inj same
        have here : collected (devices'.map (layer'.visit family)) =
            collected (devices.map (layer.visit family)) := by
          rw [← collected_unskipped layer', ← collected_unskipped layer, kept]
          refine congrArg collected (List.map_congr_left fun device hd => ?_)
          obtain ⟨hd, unskipped⟩ := List.mem_filter.1 hd
          exact (h.tellSame family device ⟨searched, devices, listed, hd⟩
            (by simpa using unskipped)).visit
        simp only [bind, Except.bind, here]

end Layer

namespace Inventory

variable {layer : Layer H} {answer : (q : Pci.Request H W) → σ → Pci.Answer q × σ}
  {steady : σ → Prop} {s : σ}

/-- **What a listing lists.** Families and devices are visited in order. The first failure of the
topology is the result. If there is none, the result has one entry for each device whose serial
number can be read, in the order of the visits. Over another layer that differs only in devices
that are skipped, because they are missing, added or fail for other reasons, the listing gives the
same. -/
theorem listing_entries (h : layer.DescribesListed answer steady) (hs : steady s) :
    (∀ e later, layer.failures = e :: later → Pci.result answer all s = .error e) ∧
    (layer.failures = [] → ∃ found, Pci.result answer all s = .ok found ∧
      List.Forall₂ layer.IsEntry ((layer.pairs Family.all).filter layer.readable) found) ∧
    ∀ {W' σ' : Type} {answer' : (q : Pci.Request H W') → σ' → Pci.Answer q × σ'}
      {layer' : Layer H} {steady' : σ' → Prop} {s' : σ'},
      layer'.DescribesListed answer' steady' → steady' s' → layer.SameUnskipped layer' →
      Pci.result answer' all s' = Pci.result answer all s := by
  have outcome : Pci.result answer all s = _ := (gives_search h .all s hs).1
  refine ⟨fun e later failed => ?_, fun none_failed => ?_, fun h' hs' same => ?_⟩
  · rw [Layer.failures_eq] at failed
    exact outcome.trans (collected_eq_error failed)
  · rw [Layer.failures_eq] at none_failed
    obtain ⟨found, listed⟩ := collected_eq_ok none_failed
    exact ⟨found, outcome.trans listed, Layer.entries_of_collected listed⟩
  · have outcome' : Pci.result _ all _ = _ := (gives_search h' .all _ hs').1
    exact outcome'.trans ((Layer.collected_of_sameUnskipped same).trans outcome.symm)

/-- The shelf without its C-RORC. -/
def cruShelf : Fixture Nat UInt32 :=
  { shelf with devices := fun id => .ok (if id = Family.crorc.pciId then [] else [1, 2]) }

/-- The shelf with a C-RORC that may not be opened. -/
def lockedShelf : Fixture Nat UInt32 :=
  { shelf with map := fun device bar =>
      if device = 0 then .error (.io "permission denied") else shelf.map device bar }

/-- The C-RORC of the shelf is skipped, so it may be missing or fail for another reason. -/
theorem shelf_listing :
    shelf.layer.failures = [] ∧
    (∃ found, Pci.result shelf.answer all [] = .ok found ∧
      List.Forall₂ shelf.layer.IsEntry [(.cru, 1), (.cru, 2)] found) ∧
    Pci.result cruShelf.answer all [] = Pci.result shelf.answer all [] ∧
    Pci.result lockedShelf.answer all [] = Pci.result shelf.answer all [] := by
  have no_failures : shelf.layer.failures = [] := rfl
  obtain ⟨-, entries, same⟩ :=
    listing_entries (s := ([] : List UInt32)) shelf.describes.listed trivial
  have deleted : shelf.layer.SameUnskipped cruShelf.layer := by
    have listed : shelf.layer.devices Family.crorc.pciId = .ok ([] ++ 0 :: []) := rfl
    have left : cruShelf.layer.devices Family.crorc.pciId = .ok ([] ++ []) := rfl
    exact .of_deleted listed rfl left (by decide) rfl rfl rfl
  have failing : shelf.layer.SameUnskipped lockedShelf.layer := by
    refine .of_failing rfl rfl rfl fun family device => ?_
    by_cases crorc : device = 0
    · subst crorc
      exact .inr ⟨rfl, _, rfl⟩
    · exact .inl (by simp [Fixture.layer, lockedShelf, shelf, crorc])
  exact ⟨no_failures, entries no_failures, same cruShelf.describes.listed trivial deleted,
    same lockedShelf.describes.listed trivial failing⟩

end Inventory

end ReadoutCard
