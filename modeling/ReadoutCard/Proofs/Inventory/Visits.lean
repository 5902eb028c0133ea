import ReadoutCard.Proofs.Inventory.Tours

/-!
# The exchanges behind the result of a search

A layer whose answers may change from one request to the next tells nothing
fixed of a device. What a search gives over it was told in its own run:
`Backed` says of a list that each member stands on exchanges of its own, in the
order of the list. Each visit that gives a card has read the serial number of
that very device (`SerialRead`), a tour only puts together what its visits are
backed by (`Tour.backed`), and so `backed_search` holds over every layer.
-/

namespace ReadoutCard

open Pci (Query Trace)

variable {H W α : Type}

/-! ### Lists that stand on exchanges -/

/-- Each member of the list stands on exchanges of its own, in the order of the list. -/
def Backed (R : Trace H W → α → Prop) : Trace H W → List α → Prop
  | _, [] => True
  | t, a :: rest => ∃ before u after, t = before ++ u ++ after ∧ R u a ∧ Backed R after rest

namespace Backed

variable {R R' : Trace H W → α → Prop} {t t' : Trace H W} {l l' : List α}

theorem after (t' : Trace H W) (h : Backed R t l) : Backed R (t' ++ t) l := by
  cases l with
  | nil => trivial
  | cons a rest =>
    obtain ⟨before, u, after, rfl, here, later⟩ := h
    exact ⟨t' ++ before, u, after, by simp, here, later⟩

theorem append (h : Backed R t l) (h' : Backed R t' l') : Backed R (t ++ t') (l ++ l') := by
  induction l generalizing t with
  | nil => exact h'.after t
  | cons a rest ih =>
    obtain ⟨before, u, after, rfl, here, later⟩ := h
    exact ⟨before, u, after ++ t', by simp, here, ih later⟩

theorem mono (h : Backed R t l) (imp : ∀ u a, a ∈ l → R u a → R' u a) : Backed R' t l := by
  induction l generalizing t with
  | nil => trivial
  | cons a rest ih =>
    obtain ⟨before, u, after, rfl, here, later⟩ := h
    refine ⟨before, u, after, rfl, imp u a List.mem_cons_self here, ?_⟩
    exact ih later fun u b hb => imp u b (List.mem_cons_of_mem a hb)

theorem filter (h : Backed R t l) (p : α → Bool) : Backed R t (l.filter p) := by
  induction l generalizing t with
  | nil => trivial
  | cons a rest ih =>
    obtain ⟨before, u, after, rfl, here, later⟩ := h
    rw [List.filter_cons]
    split
    · exact ⟨before, u, after, rfl, here, ih later⟩
    · exact (ih later).after _

theorem exists_of_mem (h : Backed R t l) {a : α} (ha : a ∈ l) : ∃ u, R u a := by
  induction l generalizing t with
  | nil => cases ha
  | cons b rest ih =>
    obtain ⟨before, u, after, rfl, here, later⟩ := h
    rcases List.mem_cons.1 ha with rfl | ha
    · exact ⟨u, here⟩
    · exact ih later ha

end Backed

/-! ### Visits and tours -/

namespace Inventory

/-- The exchanges of one reading of the device's serial number, as its family keeps it. The
description has the number read, and none if the reading failed. -/
def SerialRead (u : Trace H W) (f : Found H) : Prop :=
  ∃ family ∈ Family.all, f.card.type = family.type ∧ ∃ r,
    (serialOf family f.device).Traces u r ∧ f.card.serial = r.toOption.getD none

end Inventory

/-- The card that a visit gives stands on the serial number that the visit has read; the search
for a serial number gives only cards that have it. -/
theorem Search.Visited.backed {o : Search} {family : Family} {device : H} {u : Trace H W}
    {x : Except Error (Option (Found H))} (h : o.Visited family device u x)
    (searched : family ∈ Family.all) :
    Backed (fun u f => Inventory.SerialRead u f ∧
      ∀ wanted, o = .locate (.serial wanted) → f.card.serial = some wanted) u (given [x]) := by
  cases h with
  | lost e => trivial
  | passed address other => trivial
  | left address _ reading read unfit => trivial
  | kept address u reading node read fit =>
    cases node with
    | error e => trivial
    | ok node =>
      obtain ⟨-, v, read, rfl⟩ := read
      refine ⟨[⟨.address device, .ok address⟩], v,
        o.warned family address reading ++ [⟨.numaNode device, .ok node⟩], by simp,
        ⟨⟨family, searched, rfl, reading, read, rfl⟩, ?_⟩, trivial⟩
      rintro wanted rfl
      rw [show reading = .ok (some wanted) from fit]
      rfl

theorem Tour.backed {R : Trace H W → α → Prop} {goesOn : Except Error (Option α) → Prop}
    {visited : Family → H → Trace H W → Except Error (Option α) → Prop}
    (hv : ∀ family ∈ Family.all, ∀ device u x, visited family device u x →
      Backed R u (given [x]))
    {pending : List (Family × H)} {families : List Family} {t : Trace H W}
    {xs : List (Except Error (Option α))} (h : Tour goesOn visited pending families t xs)
    (searched : ∀ p ∈ pending, p.1 ∈ Family.all) (known : families ⊆ Family.all) :
    Backed R t (given xs) := by
  induction h with
  | finished => trivial
  | unlisted => trivial
  | @opened family families devices t xs later ih =>
    obtain ⟨this, others⟩ := List.cons_subset.1 known
    refine Backed.after [_] (ih (fun p hp => ?_) others)
    obtain ⟨device, -, rfl⟩ := List.mem_map.1 hp
    exact this
  | @visit family device pending families u t x xs here on later ih =>
    have front := hv family (searched _ List.mem_cons_self) device u x here
    have both := front.append (ih (fun p hp => searched p (List.mem_cons_of_mem _ hp)) known)
    rwa [given, given, ← List.flatMap_append] at both
  | ended pending families here off =>
    exact hv _ (searched _ List.mem_cons_self) _ _ _ here

/-! ### The searches -/

/-- The result of a search shows these cards, in this order, and they are what was searched for. -/
def Search.Shows : (o : Search) → o.Value H → List (Found H) → Prop
  | all, value, found => value = found
  | cards, value, found => value = found.map Found.card
  | withSerial serial, value, found =>
    value = found.map Found.card ∧ ∀ f ∈ found, f.card.serial = some serial
  | atAddress _, value, found => value = found.map Found.card
  | locate id, value, found =>
    [value] = found ∧ ∀ serial, id = .serial serial → value.card.serial = some serial

/-- Over every layer, each card that a search shows stands on a reading of its own serial
number. -/
theorem Search.backed_search (o : Search) {value : o.Value H} {t : Trace H W}
    (h : (o.query : Query H W _).Traces t (.ok value)) :
    ∃ found, o.Shows value found ∧ Backed Inventory.SerialRead t found := by
  obtain ⟨xs, tour, made⟩ := o.tour h
  have presented := presents_of_made tour made.symm
  have fitting := tour.backed (fun family searched device u x here => here.backed searched)
    (fun p hp => by cases hp) (List.Subset.refl _)
  have backed := fitting.mono fun u f _ told => told.1
  cases o with
  | all => exact ⟨given xs, presented, backed⟩
  | cards => exact ⟨given xs, presented, backed⟩
  | withSerial serial =>
    refine ⟨(given xs).filter fun f => f.card.serial = some serial, ⟨?_, fun f hf => ?_⟩,
      backed.filter _⟩
    · rw [show value = _ from presented, List.filter_map]
      rfl
    · exact of_decide_eq_true (List.mem_filter.1 hf).2
  | atAddress wanted => exact ⟨given xs, presented, backed⟩
  | locate id =>
    refine ⟨given xs, ⟨presented.symm, fun serial same => ?_⟩, backed⟩
    subst same
    have mem : value ∈ given xs := presented ▸ List.mem_cons_self
    obtain ⟨u, -, fits⟩ := fitting.exists_of_mem mem
    exact fits serial rfl

end ReadoutCard
