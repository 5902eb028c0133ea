import ReadoutCard.Proofs.Inventory.Search

/-!
# The searches agree

Over a layer with fixed answers, a listing of every card that succeeds
determines the answers of the other searches. The listing says of each device
that it can be addressed and, unless it was skipped, described
(`visit_eq_ok`). From that the outcome of each other search's visit is the
listed card or nothing, except where a card is searched for by its address and
its serial number cannot be read (`visitForAddress_of_eq`): then the answer hangs
on its NUMA node, which the listing has not read. The statement at the end puts
the five searches together.
-/

namespace ReadoutCard

variable {H W α β σ : Type}

/-! ### Outcomes without failures -/

theorem collected_map {v : β → Except Error (Option α)} {g : β → Option α} {l : List β}
    (h : ∀ x ∈ l, v x = .ok (g x)) : collected (l.map v) = .ok (l.filterMap g) := by
  induction l with
  | nil => rfl
  | cons x rest ih =>
    have later := ih fun y hy => h y (List.mem_cons_of_mem x hy)
    rw [List.map_cons, h x List.mem_cons_self]
    cases hx : g x with
    | none => rw [collected, later, List.filterMap_cons_none hx]
    | some a =>
      rw [collected, later, List.filterMap_cons_some hx]
      rfl

theorem firstHit_map {v : β → Except Error (Option α)} {g : β → Option α} {l : List β}
    (h : ∀ x ∈ l, v x = .ok (g x)) : firstHit (l.map v) = .ok (l.findSome? g) := by
  induction l with
  | nil => rfl
  | cons x rest ih =>
    have later := ih fun y hy => h y (List.mem_cons_of_mem x hy)
    rw [List.map_cons, h x List.mem_cons_self, List.findSome?_cons]
    cases g x with
    | none => exact later
    | some a => rfl

/-- Where visits give nothing but at matches, and never nothing there, the first match decides. -/
theorem firstHit_map_eq_find? {v : β → Except Error (Option α)} {q : β → Bool} {l : List β}
    (miss : ∀ x ∈ l, q x = false → v x = .ok none) (hit : ∀ x ∈ l, q x = true → v x ≠ .ok none) :
    firstHit (l.map v) = match l.find? q with
      | none => .ok none
      | some x => v x := by
  induction l with
  | nil => rfl
  | cons x rest ih =>
    rw [List.map_cons, List.find?_cons]
    cases hx : q x with
    | false =>
      rw [miss x List.mem_cons_self hx]
      exact ih (fun y hy => miss y (List.mem_cons_of_mem x hy))
        (fun y hy => hit y (List.mem_cons_of_mem x hy))
    | true =>
      have something := hit x List.mem_cons_self hx
      change firstHit (v x :: rest.map v) = v x
      cases hv : v x with
      | error e => rfl
      | ok outcome =>
        cases outcome with
        | none => exact absurd hv something
        | some a => rfl

/-- What was collected starts with what the first visit gave, if it gave something. -/
theorem collected_cons_eq_ok {o : Except Error (Option α)} {rest : List (Except Error (Option α))}
    {l : List α} (h : collected (o :: rest) = .ok l) :
    (o = .ok none ∧ collected rest = .ok l) ∨
      ∃ a later, o = .ok (some a) ∧ collected rest = .ok later ∧ l = a :: later := by
  cases o with
  | error e => cases h
  | ok hit =>
    cases hit with
    | none => exact .inl ⟨rfl, h⟩
    | some a =>
      rw [collected] at h
      cases hr : collected rest with
      | error e =>
        rw [hr] at h
        cases h
      | ok later =>
        rw [hr] at h
        exact .inr ⟨a, later, rfl, rfl, (Except.ok.inj h).symm⟩

/-- If everything was collected, no visit has failed. -/
theorem ok_of_collected_eq_ok {outcomes : List (Except Error (Option α))} {l : List α}
    (h : collected outcomes = .ok l) : ∀ o ∈ outcomes, ∃ x, o = .ok x := by
  induction outcomes generalizing l with
  | nil => simp
  | cons o rest ih =>
    obtain ⟨rfl, later⟩ | ⟨a, l', rfl, later, -⟩ := collected_cons_eq_ok h
    · exact List.forall_mem_cons.2 ⟨⟨none, rfl⟩, ih later⟩
    · exact List.forall_mem_cons.2 ⟨⟨some a, rfl⟩, ih later⟩

namespace Layer

/-- The devices of families with their family, in the order in which they are visited. -/
def pairs (layer : Layer H) (families : List Family) : List (Family × H) :=
  families.flatMap fun family => match layer.devices family.pciId with
    | .ok devices => devices.map fun device => (family, device)
    | .error _ => []

/-- The first device at an address, in table then discovery order. -/
def firstAt (layer : Layer H) (wanted : PciAddress) : Option (Family × H) :=
  (layer.pairs Family.all).find? fun p => (layer.address p.2).toOption = some wanted

/-- The devices that are visited are those that are listed. -/
theorem mem_pairs_iff {layer : Layer H} {p : Family × H} :
    p ∈ layer.pairs Family.all ↔ layer.Lists p.1 p.2 := by
  constructor
  · intro h
    obtain ⟨family, known, mem⟩ := List.mem_flatMap.1 h
    cases listed : layer.devices family.pciId with
    | error e => simp [listed] at mem
    | ok devices =>
      rw [listed] at mem
      obtain ⟨device, hd, rfl⟩ := List.mem_map.1 mem
      exact ⟨known, devices, listed, hd⟩
  · rintro ⟨known, devices, listed, hd⟩
    refine List.mem_flatMap.2 ⟨p.1, known, ?_⟩
    rw [listed]
    exact List.mem_map_of_mem hd

theorem toOption_address_eq_some_iff {layer : Layer H} {device : H} {wanted : PciAddress} :
    (layer.address device).toOption = some wanted ↔ layer.address device = .ok wanted := by
  cases layer.address device <;> simp [Except.toOption]

/-- Where every family is listed, each outcome is that of a device. -/
theorem outcomes_eq_map_pairs (layer : Layer H) {v : Family → H → Except Error (Option α)}
    {families : List Family} (h : ∀ o ∈ layer.outcomes v families, ∃ x, o = .ok x)
    (v' : Family → H → Except Error (Option β)) :
    layer.outcomes v' families = (layer.pairs families).map fun p => v' p.1 p.2 := by
  induction families with
  | nil => rfl
  | cons family rest ih =>
    rw [outcomes, List.flatMap_cons, List.forall_mem_append] at h
    have head : layer.pairs (family :: rest) = _ ++ layer.pairs rest := List.flatMap_cons
    rw [outcomes, List.flatMap_cons, ← outcomes, ih h.2, head, List.map_append]
    cases listed : layer.devices family.pciId with
    | ok devices =>
      simp only [List.map_map]
      rfl
    | error e =>
      rw [listed] at h
      obtain ⟨x, hx⟩ := h.1 (.error e) (List.mem_singleton_self _)
      cases hx

/-! ### What a visit that succeeded tells -/

variable {layer : Layer H} {family : Family} {device : H} {x : Option (Found H)}

/-- The device has an address; and it was skipped, or its description was kept. -/
theorem visit_eq_ok (h : layer.visit family device = .ok x) :
    ∃ address, layer.address device = .ok address ∧
      ((∃ cause, layer.serial family device = .error cause ∧ x = none) ∨
        ∃ serial found, layer.serial family device = .ok serial ∧
          layer.entry family device address serial = .ok found ∧ x = some found) := by
  unfold visit at h
  cases ha : layer.address device with
  | error e => rw [ha] at h; cases h
  | ok address =>
    refine ⟨address, rfl, ?_⟩
    rw [ha] at h
    change layer.entryUnlessSkipped family device address = .ok x at h
    unfold entryUnlessSkipped at h
    cases hs : layer.serial family device with
    | error cause =>
      rw [hs] at h
      cases h
      exact .inl ⟨cause, rfl, rfl⟩
    | ok serial =>
      rw [hs] at h
      change (layer.entry family device address serial).map some = .ok x at h
      cases he : layer.entry family device address serial with
      | error e => rw [he] at h; cases h
      | ok found =>
        rw [he] at h
        cases h
        exact .inr ⟨serial, found, rfl, he, rfl⟩

/-- A description names its device, its address and its serial number. -/
theorem entry_eq_ok {address : PciAddress} {serial : Option Int} {found : Found H}
    (h : layer.entry family device address serial = .ok found) :
    found.device = device ∧ found.card.address = address ∧ found.card.serial = serial := by
  unfold entry at h
  cases hn : layer.numaNode device with
  | error e => rw [hn] at h; cases h
  | ok node =>
    rw [hn] at h
    cases h
    exact ⟨rfl, rfl, rfl⟩

theorem visitAt_eq (h : layer.visit family device = .ok x) (wanted : PciAddress) :
    layer.visitAt wanted family device =
      .ok (x.filter fun found => found.card.address = wanted) := by
  obtain ⟨address, ha, skipped | ⟨serial, found, hs, he, rfl⟩⟩ := visit_eq_ok h
  · obtain ⟨cause, hs, rfl⟩ := skipped
    simp only [visitAt, ha, bind, Except.bind, entryUnlessSkipped, hs, ite_self, Option.filter]
  · obtain ⟨-, at_address, -⟩ := entry_eq_ok he
    simp only [visitAt, ha, bind, Except.bind, entryUnlessSkipped, hs, he, Except.map,
      Option.filter, at_address, decide_eq_true_eq]
    split <;> rfl

theorem visitForSerial_eq (h : layer.visit family device = .ok x) (wanted : Int) :
    layer.visitForSerial wanted family device =
      .ok (x.filter fun found => found.card.serial = some wanted) := by
  obtain ⟨address, ha, skipped | ⟨serial, found, hs, he, rfl⟩⟩ := visit_eq_ok h
  · obtain ⟨cause, hs, rfl⟩ := skipped
    simp only [visitForSerial, ha, hs, bind, Except.bind, Except.toOption, Option.filter]
    rfl
  · obtain ⟨-, -, has_serial⟩ := entry_eq_ok he
    simp only [visitForSerial, ha, hs, bind, Except.bind, Except.toOption, Option.filter,
      has_serial, decide_eq_true_eq, Option.some.injEq]
    by_cases wanted_one : serial = some wanted
    · rw [if_pos wanted_one, if_pos wanted_one, ← wanted_one, he]
      rfl
    · rw [if_neg wanted_one, if_neg wanted_one]

theorem visitForAddress_of_ne {wanted : PciAddress} (h : layer.visit family device = .ok x)
    (elsewhere : layer.address device ≠ .ok wanted) :
    layer.visitForAddress wanted family device = .ok none := by
  obtain ⟨address, ha, -⟩ := visit_eq_ok h
  have hne : address ≠ wanted := fun same => elsewhere (same ▸ ha)
  simp only [visitForAddress, ha, bind, Except.bind, if_neg hne]

/-- At the address, the device's own description, without a serial number if none can be read. -/
theorem visitForAddress_of_eq {wanted : PciAddress} (here : layer.address device = .ok wanted) :
    layer.visitForAddress wanted family device =
      (layer.entry family device wanted
        ((layer.serial family device).toOption.getD none)).map some := by
  simp only [visitForAddress, here, bind, Except.bind, if_pos]

/-! ### What a listing that succeeded tells -/

/-- What the listing keeps of a device. -/
def kept (layer : Layer H) (p : Family × H) : Option (Found H) :=
  (layer.visit p.1 p.2).toOption.getD none

variable {found : List (Found H)}

/-- Every visit of a listing that succeeded has succeeded, and `kept` is what they gave. -/
theorem visit_eq_kept (h : collected (layer.outcomes layer.visit Family.all) = .ok found) :
    ∀ p ∈ layer.pairs Family.all, layer.visit p.1 p.2 = .ok (layer.kept p) := by
  intro p hp
  have outcomes := outcomes_eq_map_pairs layer (ok_of_collected_eq_ok h) layer.visit
  obtain ⟨x, hx⟩ := ok_of_collected_eq_ok h (layer.visit p.1 p.2)
    (outcomes ▸ List.mem_map_of_mem hp)
  rw [kept, hx]
  rfl

theorem eq_filterMap_kept (h : collected (layer.outcomes layer.visit Family.all) = .ok found) :
    found = (layer.pairs Family.all).filterMap layer.kept := by
  have outcomes := outcomes_eq_map_pairs layer (ok_of_collected_eq_ok h) layer.visit
  have all := collected_map (visit_eq_kept h)
  rw [← outcomes, h] at all
  exact Except.ok.inj all

theorem collected_visitAt (h : collected (layer.outcomes layer.visit Family.all) = .ok found)
    (wanted : PciAddress) :
    collected (layer.outcomes (layer.visitAt wanted) Family.all) =
      .ok (found.filter fun f => f.card.address = wanted) := by
  rw [outcomes_eq_map_pairs layer (ok_of_collected_eq_ok h),
    collected_map fun p hp => visitAt_eq (visit_eq_kept h p hp) wanted, eq_filterMap_kept h,
    List.filter_filterMap]

theorem firstHit_visitForSerial (h : collected (layer.outcomes layer.visit Family.all) = .ok found)
    (wanted : Int) :
    firstHit (layer.outcomes (layer.visitForSerial wanted) Family.all) =
      .ok (found.find? fun f => f.card.serial = some wanted) := by
  rw [outcomes_eq_map_pairs layer (ok_of_collected_eq_ok h),
    firstHit_map fun p hp => visitForSerial_eq (visit_eq_kept h p hp) wanted,
    ← List.head?_filterMap, ← List.filter_filterMap, List.head?_filter, ← eq_filterMap_kept h]

/-- The first device at an address is listed, and there. -/
theorem lists_of_firstAt {wanted : PciAddress}
    (first : layer.firstAt wanted = some (family, device)) :
    layer.Lists family device ∧ layer.address device = .ok wanted := by
  refine ⟨mem_pairs_iff.1 (List.mem_of_find?_eq_some first), ?_⟩
  have here := List.find?_some first
  exact toOption_address_eq_some_iff.1 (of_decide_eq_true here)

theorem firstHit_visitForAddress
    (h : collected (layer.outcomes layer.visit Family.all) = .ok found) (wanted : PciAddress) :
    firstHit (layer.outcomes (layer.visitForAddress wanted) Family.all) =
      match layer.firstAt wanted with
      | none => .ok none
      | some (family, device) => (layer.entry family device wanted
          ((layer.serial family device).toOption.getD none)).map some := by
  rw [outcomes_eq_map_pairs layer (ok_of_collected_eq_ok h),
    firstHit_map_eq_find? (q := fun p => (layer.address p.2).toOption = some wanted), ← firstAt]
  · cases first : layer.firstAt wanted with
    | none => rfl
    | some p => exact visitForAddress_of_eq (lists_of_firstAt first).2
  · intro p hp elsewhere
    exact visitForAddress_of_ne (visit_eq_kept h p hp)
      fun here => of_decide_eq_false elsewhere (toOption_address_eq_some_iff.2 here)
  · intro p _ here
    rw [visitForAddress_of_eq (toOption_address_eq_some_iff.1 (of_decide_eq_true here))]
    cases layer.entry p.1 p.2 wanted ((layer.serial p.1 p.2).toOption.getD none) <;> nofun

/-- If the first device at an address has a readable serial number, then the first listed card
at the address is that device. -/
theorem find?_of_firstAt (h : collected (layer.outcomes layer.visit Family.all) = .ok found)
    {wanted : PciAddress} {serial : Option Int}
    (first : layer.firstAt wanted = some (family, device))
    (hs : layer.serial family device = .ok serial) :
    ∃ f, layer.entry family device wanted serial = .ok f ∧ f.device = device ∧
      found.find? (fun f => f.card.address = wanted) = some f := by
  obtain ⟨here, before, after, split, earlier⟩ := List.find?_eq_some_iff_append.1 first
  have mem (p : Family × H) (hp : p ∈ before) : p ∈ layer.pairs Family.all := by
    rw [split]
    exact List.mem_append_left _ hp
  have this_one := visit_eq_kept h (family, device) (List.mem_of_find?_eq_some first)
  obtain ⟨address, ha, skipped | ⟨serial', f, hs', he, hk⟩⟩ := visit_eq_ok this_one
  · obtain ⟨cause, hs', -⟩ := skipped
    rw [hs] at hs'
    cases hs'
  · have same : address = wanted := by
      have := of_decide_eq_true here
      simpa [ha, Except.toOption] using this
    rw [hs] at hs'
    cases hs'
    subst same
    obtain ⟨its_device, its_address, -⟩ := entry_eq_ok he
    refine ⟨f, he, its_device, ?_⟩
    rw [eq_filterMap_kept h, ← List.head?_filter, List.filter_filterMap, List.head?_filterMap,
      List.findSome?_eq_some_iff]
    refine ⟨before, (family, device), after, split, ?_, ?_⟩
    · simp [hk, its_address]
    · -- An earlier device is not at the address, so what is kept of it is filtered out.
      intro p hp
      have visited := visit_eq_kept h p (mem p hp)
      obtain ⟨address', ha', skipped | ⟨serial', f', -, he', hk'⟩⟩ := visit_eq_ok visited
      · obtain ⟨-, -, hk'⟩ := skipped
        rw [hk']
        rfl
      · have elsewhere := earlier p hp
        obtain ⟨-, its_address', -⟩ := entry_eq_ok he'
        rw [hk']
        simpa [ha', Except.toOption, its_address'] using elsewhere

/-- Some device of either family is at the address. -/
def Occupied (layer : Layer H) (wanted : PciAddress) : Prop :=
  ∃ family ∈ Family.all, ∃ devices, layer.devices family.pciId = .ok devices ∧
    ∃ device ∈ devices, layer.address device = .ok wanted

theorem occupied_iff {wanted : PciAddress} :
    layer.Occupied wanted ↔ ∃ family device, layer.firstAt wanted = some (family, device) := by
  constructor
  · rintro ⟨family, known, devices, listed, device, hd, here⟩
    have visited : (family, device) ∈ layer.pairs Family.all :=
      mem_pairs_iff.2 ⟨known, devices, listed, hd⟩
    have found : (layer.firstAt wanted).isSome := List.find?_isSome.2
      ⟨_, visited, decide_eq_true (toOption_address_eq_some_iff.2 here)⟩
    obtain ⟨p, first⟩ := Option.isSome_iff_exists.1 found
    exact ⟨p.1, p.2, first⟩
  · rintro ⟨family, device, first⟩
    obtain ⟨⟨known, devices, listed, hd⟩, here⟩ := lists_of_firstAt first
    exact ⟨family, known, devices, listed, device, hd, here⟩

end Layer

namespace Inventory

open Layer

variable {layer : Layer H} {answer : (q : Pci.Request H W) → σ → Pci.Answer q × σ}
  {steady : σ → Prop} {s₀ s : σ} {found : List (Found H)}

/-- The search for the card at an address is for the first device there. -/
theorem result_locate_address (h : layer.DescribesListed answer steady) (hs : steady s)
    (listed : collected (layer.outcomes layer.visit Family.all) = .ok found) (wanted : PciAddress) :
    Pci.result answer (locate (.address wanted)) s =
      match layer.firstAt wanted with
      | none => .error (.notFound (.address wanted))
      | some (family, device) => layer.entry family device wanted
          ((layer.serial family device).toOption.getD none) := by
  have search : Pci.result answer (locate (.address wanted)) s = _ :=
    (gives_search h (.locate (.address wanted)) s hs).1
  rw [search, Search.outcome, Search.visitFor, firstHit_visitForAddress listed wanted]
  cases layer.firstAt wanted with
  | none => rfl
  | some p =>
    obtain ⟨family, device⟩ := p
    show (layer.entry family device wanted _).map some >>= _ = layer.entry family device wanted _
    cases layer.entry family device wanted ((layer.serial family device).toOption.getD none) <;> rfl

/-- There is no card at the address if there is no device, and else only where the NUMA node of a
device without a readable serial number is refused for this very reason. -/
theorem locate_address_eq_notFound_iff (h : layer.DescribesListed answer steady) (hs : steady s)
    (listed : collected (layer.outcomes layer.visit Family.all) = .ok found) (wanted : PciAddress) :
    Pci.result answer (locate (.address wanted)) s = .error (.notFound (.address wanted)) ↔
      ¬ layer.Occupied wanted ∨ ∃ family device cause,
        layer.firstAt wanted = some (family, device) ∧
        layer.serial family device = .error cause ∧
        layer.numaNode device = .error (.notFound (.address wanted)) := by
  rw [result_locate_address h hs listed wanted]
  constructor
  · intro failed
    by_cases occupied : layer.Occupied wanted
    case neg => exact .inl occupied
    obtain ⟨family, device, first⟩ := occupied_iff.1 occupied
    rw [first] at failed
    refine .inr ⟨family, device, ?_⟩
    cases serial_at : layer.serial family device with
    | ok serial =>
      obtain ⟨f, described, -⟩ := find?_of_firstAt listed first serial_at
      simp only [serial_at] at failed
      cases described.symm.trans failed
    | error cause =>
      change (layer.numaNode device).map _ = .error _ at failed
      cases node : layer.numaNode device with
      | ok n =>
        rw [node] at failed
        cases failed
      | error e =>
        rw [node] at failed
        cases failed
        exact ⟨cause, first, rfl, rfl⟩
  · rintro (nothing_there | ⟨family, device, cause, first, -, unread⟩)
    · cases first : layer.firstAt wanted with
      | none => rfl
      | some p => exact absurd (occupied_iff.2 ⟨p.1, p.2, first⟩) nothing_there
    · rw [first]
      show (layer.numaNode device).map _ = _
      rw [unread]
      rfl

/-- Where a device is at the address, the search gives the first one: as it is listed if its
serial number can be read, and else described without one. -/
theorem locate_address_of_firstAt (h : layer.DescribesListed answer steady) (hs : steady s)
    (listed : collected (layer.outcomes layer.visit Family.all) = .ok found) {wanted : PciAddress}
    {family : Family} {device : H} (first : layer.firstAt wanted = some (family, device)) :
    match layer.serial family device with
    | .ok _ => ∃ f, f.device = device ∧
        found.find? (fun f => f.card.address = wanted) = some f ∧
        Pci.result answer (locate (.address wanted)) s = .ok f
    | .error _ => Pci.result answer (locate (.address wanted)) s =
        (layer.numaNode device).map fun node =>
          ⟨⟨family.type, none, family.pciId, wanted, node⟩, device⟩ := by
  rw [result_locate_address h hs listed wanted, first]
  cases serial_at : layer.serial family device with
  | ok serial =>
    obtain ⟨f, described, its_device, found_first⟩ := find?_of_firstAt listed first serial_at
    refine ⟨f, its_device, found_first, ?_⟩
    simp only [serial_at]
    exact described
  | error cause =>
    simp only [serial_at]
    rfl

theorem result_locate_serial (h : layer.Describes answer steady) (hs : steady s)
    (listed : collected (layer.outcomes layer.visit Family.all) = .ok found) (wanted : Int) :
    Pci.result answer (locate (.serial wanted)) s =
      match found.find? fun f => f.card.serial = some wanted with
      | some f => .ok f
      | none => .error (.notFound (.serial wanted)) := by
  have search : Pci.result answer (locate (.serial wanted)) s = _ :=
    (gives_search h.listed (.locate (.serial wanted)) s hs).1
  rw [search, Search.outcome, Search.visitFor, firstHit_visitForSerial listed wanted]
  cases found.find? fun f => f.card.serial = some wanted <;> rfl

/-- **The searches agree.** Over a layer whose answers do not change, on which a listing of every
card with its device gives `found`: the listing without devices, the searches for every card of a
serial number or at an address, and the search for the card of a serial number select from
`found`. The search for the card at an address is for the first device there. It gives the first
card of `found` at the address, which is that device, or if the serial number of the device cannot
be read, its description without one. It reports that there is no card if there is no device, and
else only as the reason why the NUMA node of such a device cannot be read. -/
theorem searches_agree (h : layer.Describes answer steady) (hs₀ : steady s₀)
    (listed : Pci.result answer all s₀ = .ok found) (hs : steady s) :
    Pci.result answer cards s = .ok (found.map Found.card) ∧
    (∀ n, Pci.result answer (withSerial n) s =
      .ok ((found.map Found.card).filter fun card => card.serial = some n)) ∧
    (∀ wanted, Pci.result answer (atAddress wanted) s =
      .ok ((found.map Found.card).filter fun card => card.address = wanted)) ∧
    (∀ n, Pci.result answer (locate (.serial n)) s =
      match found.find? fun f => f.card.serial = some n with
      | some f => .ok f
      | none => .error (.notFound (.serial n))) ∧
    ∀ wanted,
      (Pci.result answer (locate (.address wanted)) s = .error (.notFound (.address wanted)) ↔
        ¬ layer.Occupied wanted ∨ ∃ family device cause,
          layer.firstAt wanted = some (family, device) ∧
          layer.serial family device = .error cause ∧
          layer.numaNode device = .error (.notFound (.address wanted))) ∧
      (layer.Occupied wanted → ∃ family device, layer.firstAt wanted = some (family, device) ∧
        match layer.serial family device with
        | .ok _ => ∃ f, f.device = device ∧
            found.find? (fun f => f.card.address = wanted) = some f ∧
            Pci.result answer (locate (.address wanted)) s = .ok f
        | .error _ => Pci.result answer (locate (.address wanted)) s =
            (layer.numaNode device).map fun node =>
              ⟨⟨family.type, none, family.pciId, wanted, node⟩, device⟩) := by
  have visits : collected (layer.outcomes layer.visit Family.all) = .ok found :=
    (gives_search h.listed .all s₀ hs₀).1.symm.trans listed
  have gives (o : Search) : Pci.result answer o.query s = o.outcome layer :=
    (gives_search h.listed o s hs).1
  refine ⟨?_, ?_, ?_, result_locate_serial h hs visits, fun wanted =>
    ⟨locate_address_eq_notFound_iff h.listed hs visits wanted, ?_⟩⟩
  · refine (gives .cards).trans ?_
    rw [Search.outcome, visits]
    rfl
  · intro n
    refine (gives (.withSerial n)).trans ?_
    rw [Search.outcome, visits]
    rfl
  · intro wanted
    refine (gives (.atAddress wanted)).trans ?_
    rw [Search.outcome, collected_visitAt visits wanted, List.filter_map]
    rfl
  · intro occupied
    obtain ⟨family, device, first⟩ := occupied_iff.1 occupied
    exact ⟨family, device, first, locate_address_of_firstAt h.listed hs visits first⟩

/-- A shelf with a C-RORC that cannot be mapped and two CRUs at one address. A CRU reads its
contents as its serial number. -/
def shelf : Fixture Nat UInt32 where
  devices id := .ok (if id = Family.crorc.pciId then [0] else [1, 2])
  address device := .ok ⟨if device = 0 then 1 else 2, 0, 0⟩
  numaNode _ := .ok 0
  map device bar := if device = 0 then .error (.pci "no such BAR")
    else .ok ⟨UInt32.ofNat device, bar⟩
  window :=
    { read := fun index serial =>
        (.ok (if index = Cru.serialNumber.index then serial else 0), serial)
      write := fun _ _ serial => (.ok (), serial) }

/-- The card that is listed for a CRU of the shelf. -/
def shelfCard (device : Nat) : Found Nat :=
  ⟨⟨.cru, some device, Family.cru.pciId, ⟨2, 0, 0⟩, 0⟩, device⟩

theorem shelf_searches :
    Pci.result shelf.answer all [] = .ok [shelfCard 1, shelfCard 2] ∧
    Pci.result shelf.answer (locate (.serial 2)) [] = .ok (shelfCard 2) ∧
    Pci.result shelf.answer (locate (.address ⟨1, 0, 0⟩)) [] =
      .ok ⟨⟨.crorc, none, Family.crorc.pciId, ⟨1, 0, 0⟩, 0⟩, 0⟩ ∧
    Pci.result shelf.answer (locate (.address ⟨3, 0, 0⟩)) [] =
      .error (.notFound (.address ⟨3, 0, 0⟩)) := by
  have listed : Pci.result shelf.answer all [] = .ok [shelfCard 1, shelfCard 2] := rfl
  obtain ⟨-, -, -, of_serial, of_address⟩ :=
    searches_agree shelf.describes trivial listed (s := []) trivial
  refine ⟨listed, of_serial 2, ?_, ?_⟩
  · have occupied : shelf.layer.Occupied ⟨1, 0, 0⟩ :=
      ⟨.crorc, List.mem_cons_self, [0], rfl, 0, List.mem_cons_self, rfl⟩
    obtain ⟨family, device, first, located⟩ := (of_address ⟨1, 0, 0⟩).2 occupied
    cases first
    exact located
  · refine (of_address ⟨3, 0, 0⟩).1.2 (.inl fun occupied => ?_)
    obtain ⟨family, device, first⟩ := occupied_iff.1 occupied
    cases first

/-- The shelf with NUMA nodes that cannot be read, for the reason that there is no card at the
address of the C-RORC. -/
def misleadingShelf : Fixture Nat UInt32 :=
  { shelf with
    devices := fun id => .ok (if id = Family.crorc.pciId then [0] else [])
    numaNode := fun _ => .error (.notFound (.address ⟨1, 0, 0⟩)) }

/-- There is a device at an address, and the search reports all the same that there is none. -/
theorem occupied_not_found :
    misleadingShelf.layer.Describes misleadingShelf.answer (fun _ => True) ∧
    Pci.result misleadingShelf.answer all [] = .ok [] ∧
    misleadingShelf.layer.Occupied ⟨1, 0, 0⟩ ∧
    Pci.result misleadingShelf.answer (locate (.address ⟨1, 0, 0⟩)) [] =
      .error (.notFound (.address ⟨1, 0, 0⟩)) :=
  ⟨misleadingShelf.describes, rfl,
    ⟨.crorc, List.mem_cons_self, [0], rfl, 0, List.mem_cons_self, rfl⟩, rfl⟩

end Inventory

end ReadoutCard
