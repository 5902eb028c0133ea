import ReadoutCard.Proofs.Inventory.Agreement

/-!
# Where the result of a search comes from

What a search gives was given by one of its visits (`mem_of_collected`,
`mem_of_firstHit`), a visit without failure is that of a listed device
(`Layer.exists_of_mem_outcomes`), and what was collected stands in the order of
the visits (`map_collected_sublist`). A visit for an address finds the device
that it visits, and only at the address; which device is found there does not
hang on serial numbers (`Layer.locate_device_congr`).
-/

namespace ReadoutCard

variable {α β H : Type}

theorem mem_of_collected {outcomes : List (Except Error (Option α))} {found : List α}
    (h : collected outcomes = .ok found) : ∀ a ∈ found, .ok (some a) ∈ outcomes := by
  induction outcomes generalizing found with
  | nil =>
    cases h
    simp
  | cons o rest ih =>
    intro a ha
    obtain ⟨rfl, later⟩ | ⟨b, found', rfl, later, rfl⟩ := collected_cons_eq_ok h
    · exact List.mem_cons_of_mem _ (ih later a ha)
    · rcases List.mem_cons.1 ha with rfl | ha
      · exact List.mem_cons_self
      · exact List.mem_cons_of_mem _ (ih later a ha)

theorem mem_of_firstHit {outcomes : List (Except Error (Option α))} {a : α}
    (h : firstHit outcomes = .ok (some a)) : .ok (some a) ∈ outcomes := by
  induction outcomes with
  | nil => cases h
  | cons o rest ih =>
    cases o with
    | error e => cases h
    | ok hit =>
      cases hit with
      | none => exact List.mem_cons_of_mem _ (ih h)
      | some b =>
        cases h
        exact List.mem_cons_self

/-- What was collected stands in the order of the visits. -/
theorem map_collected_sublist {κ : Type} {key : α → κ} {place : β → κ}
    {v : β → Except Error (Option α)} {l : List β} {found : List α}
    (same : ∀ x ∈ l, ∀ a, v x = .ok (some a) → key a = place x)
    (h : collected (l.map v) = .ok found) : (found.map key).Sublist (l.map place) := by
  induction l generalizing found with
  | nil =>
    cases h
    exact .slnil
  | cons x rest ih =>
    have others := fun y hy => same y (List.mem_cons_of_mem x hy)
    obtain ⟨-, later⟩ | ⟨a, found', hx, later, rfl⟩ := collected_cons_eq_ok h
    · exact (ih others later).cons _
    · rw [List.map_cons, List.map_cons, same x List.mem_cons_self a hx]
      exact (ih others later).cons_cons _

namespace Layer

variable {layer : Layer H} {family : Family} {device : H} {wanted : PciAddress} {found : Found H}

/-- Each outcome without failure is that of a listed device. -/
theorem exists_of_mem_outcomes {v : Family → H → Except Error (Option α)} {families : List Family}
    {x : Option α} (h : .ok x ∈ layer.outcomes v families) : ∃ family ∈ families, ∃ devices,
      layer.devices family.pciId = .ok devices ∧ ∃ device ∈ devices, v family device = .ok x := by
  obtain ⟨family, known, mem⟩ := List.mem_flatMap.1 h
  refine ⟨family, known, ?_⟩
  cases listed : layer.devices family.pciId with
  | error e => simp [listed] at mem
  | ok devices =>
    rw [listed] at mem
    obtain ⟨device, hd, visited⟩ := List.mem_map.1 mem
    exact ⟨devices, rfl, device, hd, visited⟩

theorem entry_map_eq {address : PciAddress} {serial : Option Int}
    (h : (layer.entry family device address serial).map some = .ok (some found)) :
    found.device = device ∧ found.card.address = address := by
  cases he : layer.entry family device address serial with
  | error e =>
    rw [he] at h
    cases h
  | ok f =>
    rw [he] at h
    cases h
    obtain ⟨its_device, its_address, -⟩ := entry_eq_ok he
    exact ⟨its_device, its_address⟩

/-- A visit for an address finds the device that it visits, and only at the address. -/
theorem visitAt_eq_some (h : layer.visitAt wanted family device = .ok (some found)) :
    layer.address device = .ok wanted ∧ found.device = device ∧ found.card.address = wanted := by
  unfold visitAt at h
  cases ha : layer.address device with
  | error e =>
    rw [ha] at h
    cases h
  | ok address =>
    rw [ha] at h
    change (if address = wanted then _ else _) = _ at h
    split at h
    case isTrue same =>
      subst same
      unfold entryUnlessSkipped at h
      cases hs : layer.serial family device with
      | error e =>
        rw [hs] at h
        cases h
      | ok serial =>
        rw [hs] at h
        exact ⟨rfl, entry_map_eq h⟩
    case isFalse other => cases h

theorem visitForAddress_eq_some
    (h : layer.visitForAddress wanted family device = .ok (some found)) :
    layer.address device = .ok wanted ∧ found.device = device ∧ found.card.address = wanted := by
  unfold visitForAddress at h
  cases ha : layer.address device with
  | error e =>
    rw [ha] at h
    cases h
  | ok address =>
    rw [ha] at h
    change (if address = wanted then _ else _) = _ at h
    split at h
    case isTrue same =>
      subst same
      exact ⟨rfl, entry_map_eq h⟩
    case isFalse other => cases h

end Layer

/-! ### The device at an address -/

/-- The first hit among images is the image of the first hit. -/
theorem firstHit_images {κ : Type} (f : α → κ) (outcomes : List (Except Error (Option α))) :
    firstHit (outcomes.map (Except.map (Option.map f))) =
      (firstHit outcomes).map (Option.map f) := by
  induction outcomes with
  | nil => rfl
  | cons o rest ih =>
    cases o with
    | error e => rfl
    | ok hit =>
      cases hit with
      | none => exact ih
      | some a => rfl

namespace Layer

/-- The images of what visits gave are what visits for the images give. -/
theorem map_outcomes {κ : Type} (layer : Layer H) (f : α → κ)
    (v : Family → H → Except Error (Option α)) (families : List Family) :
    (layer.outcomes v families).map (Except.map (Option.map f)) =
      layer.outcomes (fun family device => (v family device).map (Option.map f)) families := by
  rw [outcomes, outcomes, List.map_flatMap]
  congr
  funext family
  cases layer.devices family.pciId with
  | error e => rfl
  | ok devices => exact List.map_map

/-- What a visit for an address tells of the device alone. -/
def deviceFor (layer : Layer H) (wanted : PciAddress) (device : H) : Except Error (Option H) :=
  layer.address device >>= fun address =>
    if address = wanted then (layer.numaNode device).map fun _ => some device else .ok none

theorem map_visitForAddress (layer : Layer H) (wanted : PciAddress) (family : Family)
    (device : H) : (layer.visitForAddress wanted family device).map (Option.map Found.device) =
      layer.deviceFor wanted device := by
  unfold visitForAddress deviceFor
  cases layer.address device with
  | error e => rfl
  | ok address =>
    show Except.map _ (if address = wanted then _ else _) = if address = wanted then _ else _
    split
    · rw [entry]
      cases layer.numaNode device <;> rfl
    · rfl

theorem map_outcome_locate (layer : Layer H) (wanted : PciAddress) :
    ((Search.locate (.address wanted)).outcome layer).map Found.device =
      firstHit (layer.outcomes (fun _ => layer.deviceFor wanted) Family.all) >>= fun hit =>
        hit.elim (.error (.notFound (.address wanted))) .ok := by
  have devices := layer.map_outcomes Found.device (layer.visitForAddress wanted) Family.all
  simp only [map_visitForAddress] at devices
  rw [← devices, firstHit_images, Search.outcome, Search.visitFor]
  cases firstHit (layer.outcomes (layer.visitForAddress wanted) Family.all) with
  | error e => rfl
  | ok hit => cases hit <;> rfl

/-- Which device is found at an address does not hang on serial numbers. -/
theorem locate_device_congr {layer layer' : Layer H} (devices : layer'.devices = layer.devices)
    (address : layer'.address = layer.address) (numaNode : layer'.numaNode = layer.numaNode)
    (wanted : PciAddress) :
    ((Search.locate (.address wanted)).outcome layer').map Found.device =
      ((Search.locate (.address wanted)).outcome layer).map Found.device := by
  have visit : layer'.deviceFor wanted = layer.deviceFor wanted := by
    funext device
    rw [deviceFor, deviceFor, address, numaNode]
  simp only [map_outcome_locate, outcomes, devices, visit]

end Layer

end ReadoutCard
