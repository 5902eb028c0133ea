import ReadoutCard.Proofs.Inventory.Exchanges

/-!
# The tours of the searches

`Tour` puts visits together as the loops do: a family is listed when no device
of the one before is left, and a visit that the search does not go on after is
the last. Each of the loops makes a tour (`tour_keepAll` and `tour_firstOf`, by
induction on the devices and families left), and so does every search
(`Search.tour`). Its result is made of the cards that the visits gave
(`Search.presents_of_made`), or is the failure that ended them
(`Search.made_append_error`).
-/

namespace ReadoutCard

open Pci (Query Trace)

variable {H W α : Type}

/-! ### Tours -/

/-- Visits one after the other: of the devices of a family that are left, and then of those of the
families left. After a visit that the tour does not go on after, and after a family that cannot be
listed, nothing follows. The last index lists what came of the visits. -/
inductive Tour (goesOn : Except Error (Option α) → Prop)
    (visited : Family → H → Trace H W → Except Error (Option α) → Prop) :
    List (Family × H) → List Family → Trace H W → List (Except Error (Option α)) → Prop where
  | finished : Tour goesOn visited [] [] [] []
  | unlisted (family : Family) (families : List Family) (e : Error) :
    Tour goesOn visited [] (family :: families) [⟨.devices family.pciId, .error e⟩] [.error e]
  | opened {family : Family} {families : List Family} {devices : List H} {t : Trace H W}
      {xs : List (Except Error (Option α))}
      (later : Tour goesOn visited (devices.map (family, ·)) families t xs) :
    Tour goesOn visited [] (family :: families) (⟨.devices family.pciId, .ok devices⟩ :: t) xs
  | visit {family : Family} {device : H} {pending : List (Family × H)} {families : List Family}
      {u t : Trace H W} {x : Except Error (Option α)} {xs : List (Except Error (Option α))}
      (here : visited family device u x) (on : goesOn x)
      (later : Tour goesOn visited pending families t xs) :
    Tour goesOn visited ((family, device) :: pending) families (u ++ t) (x :: xs)
  | ended {family : Family} {device : H} (pending : List (Family × H)) (families : List Family)
      {u : Trace H W} {x : Except Error (Option α)} (here : visited family device u x)
      (off : ¬ goesOn x) :
    Tour goesOn visited ((family, device) :: pending) families u [x]

namespace Tour

variable {goesOn : Except Error (Option α) → Prop}
  {visited : Family → H → Trace H W → Except Error (Option α) → Prop}
  {pending : List (Family × H)} {families : List Family} {t t' : Trace H W}
  {xs xs' : List (Except Error (Option α))}

/-- After the devices of one family the tour goes on with the other families. -/
theorem append (h : Tour goesOn visited pending [] t xs) (on : ∀ x ∈ xs, goesOn x)
    (later : Tour goesOn visited [] families t' xs') :
    Tour goesOn visited pending families (t ++ t') (xs ++ xs') := by
  generalize none : ([] : List Family) = left at h
  induction h with
  | finished => exact later
  | unlisted => cases none
  | opened => cases none
  | visit here goes _ ih =>
    rw [List.append_assoc, List.cons_append]
    exact .visit here goes (ih (fun x hx => on x (List.mem_cons_of_mem _ hx)) none)
  | ended pending left here stop => exact absurd (on _ List.mem_cons_self) stop

/-- If it ends among the devices of one family, it does not get to the others. -/
theorem early (h : Tour goesOn visited pending [] t xs) (off : ¬ ∀ x ∈ xs, goesOn x)
    (families : List Family) : Tour goesOn visited pending families t xs := by
  generalize none : ([] : List Family) = left at h
  induction h with
  | finished => exact absurd (fun x hx => by cases hx) off
  | unlisted => cases none
  | opened => cases none
  | visit here goes _ ih =>
    refine .visit here goes (ih (fun all => off fun x hx => ?_) none)
    rcases List.mem_cons.1 hx with rfl | hx
    · exact goes
    · exact all x hx
  | ended pending left here stop => exact .ended pending families here stop

end Tour

/-- Everything is collected if and only if no visit has failed. -/
theorem exists_collected_iff {xs : List (Except Error (Option α))} :
    (∃ l, collected xs = .ok l) ↔ ∀ x ∈ xs, ∃ y, x = .ok y := by
  constructor
  · rintro ⟨l, h⟩
    exact ok_of_collected_eq_ok h
  · intro all
    induction xs with
    | nil => exact ⟨[], rfl⟩
    | cons x rest ih =>
      obtain ⟨l, gone⟩ := ih fun x hx => all x (List.mem_cons_of_mem _ hx)
      obtain ⟨y, rfl⟩ := all x List.mem_cons_self
      cases y with
      | none => exact ⟨l, gone⟩
      | some a => exact ⟨a :: l, by rw [collected, gone]; rfl⟩

theorem given_of_collected {xs : List (Except Error (Option α))} {l : List α}
    (h : collected xs = .ok l) : given xs = l := by
  induction xs generalizing l with
  | nil => exact Except.ok.inj h
  | cons x rest ih =>
    obtain ⟨rfl, later⟩ | ⟨a, l', rfl, later, rfl⟩ := collected_cons_eq_ok h
    · exact ih later
    · exact congrArg (a :: ·) (ih later)

theorem collected_append_error {xs : List (Except Error (Option α))}
    (on : ∀ x ∈ xs, ∃ y, x = .ok y) (e : Error) : collected (xs ++ [.error e]) = .error e := by
  obtain ⟨l, gone⟩ := exists_collected_iff.2 on
  rw [collected_append, gone]
  rfl

theorem firstHit_eq_none_iff {xs : List (Except Error (Option α))} :
    firstHit xs = .ok none ↔ ∀ x ∈ xs, x = .ok none := by
  induction xs with
  | nil => simp [firstHit]
  | cons x rest ih =>
    cases x with
    | error e => simp [firstHit]
    | ok hit => cases hit <;> simp [firstHit, ih]

namespace Inventory

/-! ### The loops -/

section Loops

variable {visited : Family → H → Trace H W → Except Error (Option α) → Prop} {t : Trace H W}

theorem tour_keep {family : Family} {visit : H → Query H W (Option α)}
    (hv : ∀ device u x, (visit device).Traces u x → visited family device u x)
    {devices : List H} {r : Except Error (List α)} (h : (keep visit devices).Traces t r) :
    ∃ xs, Tour (fun x => ∃ y, x = .ok y) visited (devices.map (family, ·)) [] t xs ∧
      r = collected xs := by
  induction devices generalizing t r with
  | nil =>
    obtain ⟨rfl, rfl⟩ := Pci.traces_pure.1 h
    exact ⟨[], .finished, rfl⟩
  | cons device rest ih =>
    obtain ⟨e, failed, rfl⟩ | ⟨t₁, x, t₂, rfl, here, later⟩ := Pci.traces_bind.1 h
    · exact ⟨[.error e], .ended _ _ (hv device t _ failed) (by simp), rfl⟩
    have here := hv device t₁ _ here
    cases x with
    | none =>
      obtain ⟨xs, tour, rfl⟩ := ih later
      exact ⟨.ok none :: xs, .visit here ⟨none, rfl⟩ tour, rfl⟩
    | some a =>
      obtain ⟨r', kept, rfl⟩ := Pci.traces_bind_pure.1 later
      obtain ⟨xs, tour, rfl⟩ := ih kept
      exact ⟨.ok (some a) :: xs, .visit here ⟨some a, rfl⟩ tour, rfl⟩

theorem tour_keepAll {visit : Family → H → Query H W (Option α)}
    (hv : ∀ family device u x, (visit family device).Traces u x → visited family device u x)
    {families : List Family} {r : Except Error (List α)}
    (h : (keepAll visit families).Traces t r) :
    ∃ xs, Tour (fun x => ∃ y, x = .ok y) visited [] families t xs ∧ r = collected xs := by
  induction families generalizing t r with
  | nil =>
    obtain ⟨rfl, rfl⟩ := Pci.traces_pure.1 h
    exact ⟨[], .finished, rfl⟩
  | cons family rest ih =>
    obtain ⟨e, failed, rfl⟩ | ⟨t₁, devices, t₂, rfl, listed, later⟩ := Pci.traces_bind.1 h
    · obtain rfl := Pci.traces_devices.1 failed
      exact ⟨[.error e], .unlisted family rest e, rfl⟩
    obtain rfl := Pci.traces_devices.1 listed
    obtain ⟨e, failed, rfl⟩ | ⟨t₃, here, t₄, rfl, kept, later⟩ := Pci.traces_bind.1 later
    · obtain ⟨xs, tour, stopped⟩ := tour_keep (hv family) failed
      have off : ¬ ∀ x ∈ xs, ∃ y, x = .ok y := fun all => by
        obtain ⟨l, same⟩ := exists_collected_iff.2 all
        cases stopped.trans same
      exact ⟨xs, .opened (tour.early off rest), stopped⟩
    · obtain ⟨xs, tour, gone⟩ := tour_keep (hv family) kept
      obtain ⟨r', others, rfl⟩ := Pci.traces_bind_pure.1 later
      obtain ⟨xs', tour', rfl⟩ := ih others
      have on := exists_collected_iff.1 ⟨here, gone.symm⟩
      refine ⟨xs ++ xs', .opened (tour.append on tour'), ?_⟩
      rw [collected_append, ← gone]
      rfl

theorem tour_first {family : Family} {visit : H → Query H W (Option α)}
    (hv : ∀ device u x, (visit device).Traces u x → visited family device u x)
    {devices : List H} {r : Except Error (Option α)} (h : (first visit devices).Traces t r) :
    ∃ xs, Tour (fun x => x = .ok none) visited (devices.map (family, ·)) [] t xs ∧
      r = firstHit xs := by
  induction devices generalizing t r with
  | nil =>
    obtain ⟨rfl, rfl⟩ := Pci.traces_pure.1 h
    exact ⟨[], .finished, rfl⟩
  | cons device rest ih =>
    obtain ⟨e, failed, rfl⟩ | ⟨t₁, x, t₂, rfl, here, later⟩ := Pci.traces_bind.1 h
    · exact ⟨[.error e], .ended _ _ (hv device t _ failed) (by simp), rfl⟩
    have here := hv device t₁ _ here
    cases x with
    | none =>
      obtain ⟨xs, tour, rfl⟩ := ih later
      exact ⟨.ok none :: xs, .visit here rfl tour, rfl⟩
    | some a =>
      obtain ⟨rfl, rfl⟩ := Pci.traces_pure.1 later
      rw [List.append_nil]
      exact ⟨[.ok (some a)], .ended _ _ here (by simp), rfl⟩

theorem tour_firstOf {visit : Family → H → Query H W (Option α)}
    (hv : ∀ family device u x, (visit family device).Traces u x → visited family device u x)
    {families : List Family} {r : Except Error (Option α)}
    (h : (firstOf visit families).Traces t r) :
    ∃ xs, Tour (fun x => x = .ok none) visited [] families t xs ∧ r = firstHit xs := by
  induction families generalizing t r with
  | nil =>
    obtain ⟨rfl, rfl⟩ := Pci.traces_pure.1 h
    exact ⟨[], .finished, rfl⟩
  | cons family rest ih =>
    obtain ⟨e, failed, rfl⟩ | ⟨t₁, devices, t₂, rfl, listed, later⟩ := Pci.traces_bind.1 h
    · obtain rfl := Pci.traces_devices.1 failed
      exact ⟨[.error e], .unlisted family rest e, rfl⟩
    obtain rfl := Pci.traces_devices.1 listed
    -- The family is the last one unless its visits give nothing.
    have last {xs : List (Except Error (Option α))} {u : Trace H W} {x : Except Error (Option α)}
        (tour : Tour (fun x => x = .ok none) visited (devices.map (family, ·)) [] u xs)
        (hit : x = firstHit xs) (some_hit : x ≠ .ok none) :
        Tour (fun x => x = .ok none) visited (devices.map (family, ·)) rest u xs :=
      tour.early (fun all => some_hit (hit.trans (firstHit_eq_none_iff.2 all))) rest
    obtain ⟨e, failed, rfl⟩ | ⟨t₃, x, t₄, rfl, here, later⟩ := Pci.traces_bind.1 later
    · obtain ⟨xs, tour, hit⟩ := tour_first (hv family) failed
      exact ⟨xs, .opened (last tour hit (by simp)), hit⟩
    · obtain ⟨xs, tour, hit⟩ := tour_first (hv family) here
      cases x with
      | none =>
        obtain ⟨xs', tour', rfl⟩ := ih later
        refine ⟨xs ++ xs', .opened (tour.append (firstHit_eq_none_iff.1 hit.symm) tour'), ?_⟩
        rw [firstHit_append, ← hit]
        rfl
      | some a =>
        obtain ⟨rfl, rfl⟩ := Pci.traces_pure.1 later
        rw [List.append_nil]
        exact ⟨xs, .opened (last tour hit (by simp)), hit⟩

end Loops

end Inventory

theorem given_of_firstHit {visited : Family → H → Trace H W → Except Error (Option α) → Prop}
    {pending : List (Family × H)} {families : List Family} {t : Trace H W}
    {xs : List (Except Error (Option α))}
    (tour : Tour (fun x => x = .ok none) visited pending families t xs) {a : α}
    (h : firstHit xs = .ok (some a)) : given xs = [a] := by
  induction tour with
  | finished => cases h
  | unlisted => cases h
  | opened later ih => exact ih h
  | visit here on later ih =>
    obtain rfl := on
    exact ih h
  | @ended _ _ _ _ _ x here off =>
    cases x with
    | error e => cases h
    | ok hit =>
      cases hit with
      | none => cases h
      | some b =>
        cases h
        rfl

/-! ### The searches -/

namespace Search

/-- A search goes on after a visit: one for a single card if the visit gave nothing, any other
unless it failed. -/
def GoesOn : Search → Except Error (Option (Found H)) → Prop
  | locate _, x => x = .ok none
  | _, x => ∃ y, x = .ok y

theorem not_goesOn_error (o : Search) (e : Error) :
    ¬ o.GoesOn (.error e : Except Error (Option (Found H))) := by
  cases o <;> simp [GoesOn]

theorem goesOn_of_many {o : Search} (many : ∀ id, o ≠ .locate id) :
    (o.GoesOn : Except Error (Option (Found H)) → Prop) = fun x => ∃ y, x = .ok y := by
  cases o with
  | locate id => exact absurd rfl (many id)
  | all | cards | withSerial | atAddress => rfl

/-- What a search gives if its visits gave this. -/
def made : (o : Search) → List (Except Error (Option (Found H))) → Except Error (o.Value H)
  | all, xs => collected xs
  | cards, xs => (collected xs).map (List.map Found.card)
  | withSerial serial, xs =>
    ((collected xs).map (List.map Found.card)).map (List.filter fun card =>
      card.serial = some serial)
  | atAddress _, xs => (collected xs).map (List.map Found.card)
  | locate id, xs => firstHit xs >>= fun x => match x with
    | some found => .ok found
    | none => .error (.notFound id)

/-- Every search makes a tour of the families. -/
theorem tour (o : Search) {t : Trace H W} {r : Except Error (o.Value H)}
    (h : (o.query : Query H W _).Traces t r) :
    ∃ xs, Tour o.GoesOn o.Visited [] Family.all t xs ∧ r = o.made xs := by
  have visited (o : Search) (family : Family) (device : H) (u : Trace H W)
      (x : Except Error (Option (Found H))) (h : (o.visit family device).Traces u x) :=
    o.visited_of_visit h
  cases o with
  | all => exact Inventory.tour_keepAll (visited .all) h
  | cards =>
    obtain ⟨found, every, rfl⟩ := Pci.traces_bind_pure.1 h
    obtain ⟨xs, tour, rfl⟩ := Inventory.tour_keepAll (visited .cards) every
    exact ⟨xs, tour, rfl⟩
  | withSerial serial =>
    obtain ⟨listing, each, rfl⟩ := Pci.traces_bind_pure.1 h
    obtain ⟨found, every, rfl⟩ := Pci.traces_bind_pure.1 each
    obtain ⟨xs, tour, rfl⟩ := Inventory.tour_keepAll (visited (.withSerial serial)) every
    exact ⟨xs, tour, rfl⟩
  | atAddress wanted =>
    obtain ⟨found, every, rfl⟩ := Pci.traces_bind_pure.1 h
    obtain ⟨xs, tour, rfl⟩ := Inventory.tour_keepAll (visited (.atAddress wanted)) every
    exact ⟨xs, tour, rfl⟩
  | locate id =>
    obtain ⟨e, failed, rfl⟩ | ⟨t₁, x, t₂, rfl, hit, later⟩ := Pci.traces_bind.1 h
    · obtain ⟨xs, tour, same⟩ := Inventory.tour_firstOf (visited (.locate id)) failed
      exact ⟨xs, tour, by rw [made, ← same]; rfl⟩
    · obtain ⟨xs, tour, same⟩ := Inventory.tour_firstOf (visited (.locate id)) hit
      cases x with
      | none =>
        obtain ⟨rfl, rfl⟩ := later
        rw [List.append_nil]
        exact ⟨xs, tour, by rw [made, ← same]; rfl⟩
      | some found =>
        obtain ⟨rfl, rfl⟩ := Pci.traces_pure.1 later
        rw [List.append_nil]
        exact ⟨xs, tour, by rw [made, ← same]; rfl⟩

/-! ### Results -/

/-- The result of a search is made of these cards. -/
def Presents : (o : Search) → o.Value H → List (Found H) → Prop
  | all, value, found => value = found
  | cards, value, found => value = found.map Found.card
  | withSerial serial, value, found =>
    value = (found.map Found.card).filter fun card => card.serial = some serial
  | atAddress _, value, found => value = found.map Found.card
  | locate _, value, found => found = [value]

/-- A failure that ends the visits is the result. -/
theorem made_append_error {o : Search} {xs : List (Except Error (Option (Found H)))}
    (on : ∀ x ∈ xs, o.GoesOn x) (e : Error) : o.made (xs ++ [.error e]) = .error e := by
  cases o with
  | locate id =>
    rw [made, firstHit_append, firstHit_eq_none_iff.2 on]
    rfl
  | all => exact collected_append_error on e
  | cards | withSerial | atAddress =>
    rw [made, collected_append_error on e]
    rfl

/-- A search for more than one card presents what was collected. -/
theorem collected_of_made {o : Search} {xs : List (Except Error (Option (Found H)))}
    {value : o.Value H} (h : o.made xs = .ok value) (many : ∀ id, o ≠ .locate id) :
    ∃ found, collected xs = .ok found ∧ o.Presents value found := by
  cases o with
  | locate id => exact absurd rfl (many id)
  | all => exact ⟨value, h, rfl⟩
  | cards | withSerial | atAddress =>
    rw [made] at h
    cases hc : collected xs with
    | error e =>
      rw [hc] at h
      cases h
    | ok found =>
      rw [hc] at h
      cases h
      exact ⟨found, rfl, rfl⟩

/-- What a search presents are the cards that its visits gave. -/
theorem presents_of_made {o : Search} {pending : List (Family × H)} {families : List Family}
    {t : Trace H W} {xs : List (Except Error (Option (Found H)))}
    (tour : Tour o.GoesOn o.Visited pending families t xs) {value : o.Value H}
    (h : o.made xs = .ok value) : o.Presents value (given xs) := by
  cases o with
  | locate id =>
    rw [made] at h
    cases hit : firstHit xs with
    | error e =>
      rw [hit] at h
      cases h
    | ok x =>
      rw [hit] at h
      cases x with
      | none => cases h
      | some found =>
        cases h
        exact given_of_firstHit tour hit
  | all | cards | withSerial | atAddress =>
    obtain ⟨found, gone, presented⟩ := collected_of_made h nofun
    rwa [given_of_collected gone]

end Search

end ReadoutCard
