import ReadoutCard.Proofs.Inventory.Layer

/-!
# The searches over a layer with fixed answers

Each search visits devices one after the other. Over a layer with fixed answers
a visit gives a fixed outcome, and what a search gives is read off the list of
outcomes: `collected` for the searches that keep everything, `firstHit` for the
one that stops at a match. `gives_keepAll` and `gives_firstOf` fold the loops
by induction on the devices and families left; below them stands the outcome
of each search's visit. `Search` lists the searches, and `gives_search` says
what each of them gives. That hangs only on what the layer tells of the listed
devices (`Layer.AgreeOnListed.outcome`).
-/

namespace ReadoutCard

open Pci (Query)

variable {H W α σ : Type}

/-- Everything that visits gave, in order, unless one of them failed. -/
def collected : List (Except Error (Option α)) → Except Error (List α)
  | [] => .ok []
  | .error e :: _ => .error e
  | .ok none :: rest => collected rest
  | .ok (some a) :: rest => (collected rest).map (a :: ·)

/-- What the first visit gave that gave something or failed. -/
def firstHit : List (Except Error (Option α)) → Except Error (Option α)
  | [] => .ok none
  | .error e :: _ => .error e
  | .ok none :: rest => firstHit rest
  | .ok (some a) :: _ => .ok (some a)

theorem collected_append (xs ys : List (Except Error (Option α))) :
    collected (xs ++ ys) = collected xs >>= fun l => (collected ys).map (l ++ ·) := by
  induction xs with
  | nil =>
    show collected ys = (collected ys).map _
    cases collected ys <;> rfl
  | cons x rest ih =>
    cases x with
    | error e => rfl
    | ok hit =>
      cases hit with
      | none => exact ih
      | some a =>
        rw [List.cons_append, collected, collected, ih]
        cases collected rest with
        | error e => rfl
        | ok l => cases collected ys <;> rfl

theorem firstHit_append (xs ys : List (Except Error (Option α))) :
    firstHit (xs ++ ys) =
      firstHit xs >>= fun hit => hit.elim (firstHit ys) fun a => .ok (some a) := by
  induction xs with
  | nil => rfl
  | cons x rest ih =>
    cases x with
    | error e => rfl
    | ok hit =>
      cases hit with
      | none => exact ih
      | some a => rfl

/-- The outcomes of visiting the devices of families in order; a family that cannot be listed is
one outcome, its failure. -/
def Layer.outcomes (layer : Layer H) (visit : Family → H → Except Error (Option α))
    (families : List Family) : List (Except Error (Option α)) :=
  families.flatMap fun family => match layer.devices family.pciId with
    | .ok devices => devices.map (visit family)
    | .error e => [.error e]

/-- What a first family gives comes before what the others give. -/
theorem Layer.collected_outcomes_cons (layer : Layer H) (v : Family → H → Except Error (Option α))
    (family : Family) (rest : List Family) :
    collected (layer.outcomes v (family :: rest)) =
      layer.devices family.pciId >>= fun devices => collected (devices.map (v family)) >>=
        fun l => collected (layer.outcomes v rest) >>= fun l' => .ok (l ++ l') := by
  rw [outcomes, List.flatMap_cons, collected_append]
  cases layer.devices family.pciId with
  | error e => rfl
  | ok devices => rfl

/-! ### The outcomes of visits -/

namespace Layer

/-- The description of a device, unless its NUMA node cannot be read. -/
def entry (layer : Layer H) (family : Family) (device : H) (address : PciAddress)
    (serial : Option Int) : Except Error (Found H) :=
  (layer.numaNode device).map fun node =>
    ⟨⟨family.type, serial, family.pciId, address, node⟩, device⟩

/-- The description of a device, or nothing if its serial number cannot be read. -/
def entryUnlessSkipped (layer : Layer H) (family : Family) (device : H) (address : PciAddress) :
    Except Error (Option (Found H)) :=
  match layer.serial family device with
  | .ok serial => (layer.entry family device address serial).map some
  | .error _ => .ok none

/-- The visit of the search for every card. -/
def visit (layer : Layer H) (family : Family) (device : H) : Except Error (Option (Found H)) :=
  layer.address device >>= layer.entryUnlessSkipped family device

/-- The visit of the search for every card at an address. -/
def visitAt (layer : Layer H) (wanted : PciAddress) (family : Family) (device : H) :
    Except Error (Option (Found H)) :=
  layer.address device >>= fun address =>
    if address = wanted then layer.entryUnlessSkipped family device address else .ok none

/-- The visit of the search for the card at an address: there a device without a readable serial
number is described without one. -/
def visitForAddress (layer : Layer H) (wanted : PciAddress) (family : Family) (device : H) :
    Except Error (Option (Found H)) :=
  layer.address device >>= fun address =>
    if address = wanted then
      (layer.entry family device address
        ((layer.serial family device).toOption.getD none)).map some
    else .ok none

/-- The visit of the search for the card of a serial number. -/
def visitForSerial (layer : Layer H) (wanted : Int) (family : Family) (device : H) :
    Except Error (Option (Found H)) :=
  layer.address device >>= fun address =>
    if (layer.serial family device).toOption = some (some wanted) then
      (layer.entry family device address (some wanted)).map some
    else .ok none

end Layer

/-- The searches for cards, each with what is searched for. -/
inductive Search where
  | all
  | cards
  | withSerial (serial : Int)
  | atAddress (wanted : PciAddress)
  | locate (id : CardId)

namespace Search

/-- What a search gives if it succeeds. -/
abbrev Value (H : Type) : Search → Type
  | all => List (Found H)
  | cards => List Card
  | withSerial _ => List Card
  | atAddress _ => List Card
  | locate _ => Found H

/-- The program of a search. -/
def query : (o : Search) → Query H W (o.Value H)
  | all => Inventory.all
  | cards => Inventory.cards
  | withSerial serial => Inventory.withSerial serial
  | atAddress wanted => Inventory.atAddress wanted
  | locate id => Inventory.locate id

/-- What the search for the card of an identifier makes of a device. -/
def visitFor (layer : Layer H) : CardId → Family → H → Except Error (Option (Found H))
  | .serial wanted => layer.visitForSerial wanted
  | .address wanted => layer.visitForAddress wanted

/-- What a search gives over a layer, read off the outcomes of its visits. -/
def outcome (layer : Layer H) : (o : Search) → Except Error (o.Value H)
  | all => collected (layer.outcomes layer.visit Family.all)
  | cards => (collected (layer.outcomes layer.visit Family.all)).map (List.map Found.card)
  | withSerial serial =>
    ((collected (layer.outcomes layer.visit Family.all)).map (List.map Found.card)).map
      (List.filter fun card => card.serial = some serial)
  | atAddress wanted =>
    (collected (layer.outcomes (layer.visitAt wanted) Family.all)).map (List.map Found.card)
  | locate id => firstHit (layer.outcomes (visitFor layer id) Family.all) >>= fun x => match x with
    | some found => .ok found
    | none => .error (.notFound id)

end Search

/-! ### Layers that tell the same -/

/-- Two layers tell the same of a device of a family. -/
structure Layer.TellSame (layer layer' : Layer H) (family : Family) (device : H) : Prop where
  address : layer'.address device = layer.address device
  serial : layer'.serial family device = layer.serial family device
  numaNode : layer'.numaNode device = layer.numaNode device

/-- Two layers list the same devices for each family that is searched, and tell the same of
them. -/
structure Layer.AgreeOnListed (layer layer' : Layer H) : Prop where
  devices : ∀ family ∈ Family.all, layer'.devices family.pciId = layer.devices family.pciId
  tellSame : ∀ family device, layer.Lists family device → layer.TellSame layer' family device

namespace Layer

variable {layer layer' : Layer H} {family : Family} {device : H}

theorem TellSame.entry (h : layer.TellSame layer' family device) :
    layer'.entry family device = layer.entry family device := by
  funext address serial
  rw [Layer.entry, Layer.entry, h.numaNode]

theorem TellSame.entryUnlessSkipped (h : layer.TellSame layer' family device) :
    layer'.entryUnlessSkipped family device = layer.entryUnlessSkipped family device := by
  funext address
  simp only [Layer.entryUnlessSkipped, h.serial, h.entry]

theorem TellSame.visit (h : layer.TellSame layer' family device) :
    layer'.visit family device = layer.visit family device := by
  rw [Layer.visit, Layer.visit, h.address, h.entryUnlessSkipped]

theorem TellSame.visitAt (h : layer.TellSame layer' family device) (wanted : PciAddress) :
    layer'.visitAt wanted family device = layer.visitAt wanted family device := by
  rw [Layer.visitAt, Layer.visitAt, h.address, h.entryUnlessSkipped]

theorem TellSame.visitFor (h : layer.TellSame layer' family device) (id : CardId) :
    Search.visitFor layer' id family device = Search.visitFor layer id family device := by
  cases id with
  | serial wanted => simp only [Search.visitFor, visitForSerial, h.address, h.serial, h.entry]
  | address wanted => simp only [Search.visitFor, visitForAddress, h.address, h.serial, h.entry]

theorem AgreeOnListed.outcomes (h : layer.AgreeOnListed layer')
    {v v' : Family → H → Except Error (Option α)}
    (same : ∀ family device, layer.TellSame layer' family device →
      v' family device = v family device) :
    layer'.outcomes v' Family.all = layer.outcomes v Family.all := by
  rw [Layer.outcomes, Layer.outcomes, List.flatMap_def, List.flatMap_def]
  refine congrArg List.flatten (List.map_congr_left fun family known => ?_)
  rw [h.devices family known]
  cases listed : layer.devices family.pciId with
  | error e => rfl
  | ok devices =>
    refine List.map_congr_left fun device mem => ?_
    exact same family device (h.tellSame family device ⟨known, devices, listed, mem⟩)

/-- Every search gives the same over both. -/
theorem AgreeOnListed.outcome (h : layer.AgreeOnListed layer') (o : Search) :
    o.outcome layer' = o.outcome layer := by
  have every : layer'.outcomes layer'.visit Family.all = layer.outcomes layer.visit Family.all :=
    h.outcomes fun _ _ same => same.visit
  cases o with
  | all => simp only [Search.outcome, every]
  | cards => simp only [Search.outcome, every]
  | withSerial serial => simp only [Search.outcome, every]
  | atAddress wanted =>
    have here := h.outcomes fun _ _ same => same.visitAt wanted
    simp only [Search.outcome, here]
  | locate id =>
    have here := h.outcomes fun _ _ same => same.visitFor id
    simp only [Search.outcome, here]

end Layer

namespace Inventory

variable {layer : Layer H} {answer : (q : Pci.Request H W) → σ → Pci.Answer q × σ}
  {steady : σ → Prop}

/-! ### The loops -/

theorem gives_keep {visit : H → Query H W (Option α)} {v : H → Except Error (Option α)}
    (devices : List H) (hv : ∀ device ∈ devices, Gives answer steady (visit device) (v device)) :
    Gives answer steady (keep visit devices) (collected (devices.map v)) := by
  induction devices with
  | nil => exact .pure []
  | cons device rest ih =>
    have here := hv device List.mem_cons_self
    have later := ih fun d hd => hv d (List.mem_cons_of_mem device hd)
    have step : collected ((device :: rest).map v) = v device >>= fun hit =>
        hit.elim (collected (rest.map v)) fun a =>
          collected (rest.map v) >>= fun l => .ok (a :: l) := by
      rw [List.map_cons]
      cases v device with
      | error e => rfl
      | ok hit =>
        cases hit with
        | none => rfl
        | some a =>
          rw [collected]
          cases collected (rest.map v) <;> rfl
    rw [step, keep]
    refine here.bind fun x _ => ?_
    cases x with
    | none => exact later
    | some a => exact later.bind fun l _ => .pure (a :: l)

theorem gives_keepAll (h : layer.DescribesListed answer steady)
    {visit : Family → H → Query H W (Option α)} {v : Family → H → Except Error (Option α)}
    (hv : ∀ family device, layer.Lists family device →
      Gives answer steady (visit family device) (v family device))
    (families : List Family) (known : families ⊆ Family.all) :
    Gives answer steady (keepAll visit families) (collected (layer.outcomes v families)) := by
  induction families with
  | nil => exact .pure []
  | cons family rest ih =>
    obtain ⟨searched, others⟩ := List.cons_subset.1 known
    have later := ih others
    rw [Layer.collected_outcomes_cons, keepAll]
    refine (h.devices family.pciId).bind fun devices listed => ?_
    have here := gives_keep devices fun device hd =>
      hv family device ⟨searched, devices, listed, hd⟩
    exact here.bind fun l _ => later.bind fun l' _ => .pure (l ++ l')

theorem gives_first {visit : H → Query H W (Option α)} {v : H → Except Error (Option α)}
    (devices : List H) (hv : ∀ device ∈ devices, Gives answer steady (visit device) (v device)) :
    Gives answer steady (first visit devices) (firstHit (devices.map v)) := by
  induction devices with
  | nil => exact .pure none
  | cons device rest ih =>
    have here := hv device List.mem_cons_self
    have later := ih fun d hd => hv d (List.mem_cons_of_mem device hd)
    have step : firstHit ((device :: rest).map v) =
        v device >>= fun hit => hit.elim (firstHit (rest.map v)) fun a => .ok (some a) := by
      rw [List.map_cons]
      cases v device with
      | error e => rfl
      | ok hit => cases hit <;> rfl
    rw [step, first]
    refine here.bind fun x _ => ?_
    cases x with
    | none => exact later
    | some a => exact .pure (some a)

theorem gives_firstOf (h : layer.DescribesListed answer steady)
    {visit : Family → H → Query H W (Option α)} {v : Family → H → Except Error (Option α)}
    (hv : ∀ family device, layer.Lists family device →
      Gives answer steady (visit family device) (v family device))
    (families : List Family) (known : families ⊆ Family.all) :
    Gives answer steady (firstOf visit families) (firstHit (layer.outcomes v families)) := by
  induction families with
  | nil => exact .pure none
  | cons family rest ih =>
    obtain ⟨searched, others⟩ := List.cons_subset.1 known
    have later := ih others
    have step : firstHit (layer.outcomes v (family :: rest)) =
        layer.devices family.pciId >>= fun devices => firstHit (devices.map (v family)) >>=
          fun hit => hit.elim (firstHit (layer.outcomes v rest)) fun a => .ok (some a) := by
      rw [Layer.outcomes, List.flatMap_cons, firstHit_append]
      cases layer.devices family.pciId with
      | error e => rfl
      | ok devices => rfl
    rw [step, firstOf]
    refine (h.devices family.pciId).bind fun devices listed => ?_
    have here := gives_first devices fun device hd =>
      hv family device ⟨searched, devices, listed, hd⟩
    refine here.bind fun x _ => ?_
    cases x with
    | none => exact later
    | some a => exact .pure (some a)

/-! ### The visits -/

theorem gives_usableSerial (h : layer.DescribesListed answer steady) {family : Family} {device : H}
    (listed : layer.Lists family device) (address : PciAddress) :
    Gives answer steady (usableSerial family device address)
      (.ok (layer.serial family device).toOption) := by
  refine Gives.bind (g := fun x => .ok x.toOption) (h.serial family device listed).attempt
    fun x _ => ?_
  cases x with
  | ok serial => exact .pure (some serial)
  | error cause => exact (h.warn _).bind fun _ _ => .pure none

theorem gives_entryOf (h : layer.DescribesListed answer steady) (family : Family) (device : H)
    (address : PciAddress) (serial : Option Int) :
    Gives answer steady (entryOf family device address serial)
      (layer.entry family device address serial) :=
  (h.numaNode device).bind fun _ _ => .pure _

/-- Keeping a description is a step of its own. -/
theorem gives_entryOf_some (h : layer.DescribesListed answer steady) (family : Family) (device : H)
    (address : PciAddress) (serial : Option Int) :
    Gives answer steady (entryOf family device address serial >>= fun x => pure (some x))
      ((layer.entry family device address serial).map some) :=
  (gives_entryOf h family device address serial).bind fun _ _ => .pure _

theorem gives_entryUnlessSkipped (h : layer.DescribesListed answer steady) {family : Family}
    {device : H} (listed : layer.Lists family device) (address : PciAddress) :
    Gives answer steady (entryUnlessSkipped family device address)
      (layer.entryUnlessSkipped family device address) := by
  have step : layer.entryUnlessSkipped family device address =
        Except.ok (layer.serial family device).toOption >>= fun usable =>
          usable.elim (.ok none) fun serial =>
            (layer.entry family device address serial).map some := by
    unfold Layer.entryUnlessSkipped
    cases layer.serial family device <;> rfl
  rw [step, entryUnlessSkipped]
  refine (gives_usableSerial h listed address).bind fun x _ => ?_
  cases x with
  | none => exact .pure none
  | some serial => exact gives_entryOf_some h family device address serial

theorem gives_matching_address (h : layer.DescribesListed answer steady) (wanted : PciAddress)
    {family : Family} {device : H} (listed : layer.Lists family device) :
    Gives answer steady (matching (.address wanted) family device)
      (layer.visitForAddress wanted family device) := by
  refine (h.address device).bind fun address _ => ?_
  by_cases at_wanted : address = wanted
  · simp only [if_pos at_wanted]
    refine Gives.bind
      (g := fun x => (layer.entry family device address (x.toOption.getD none)).map some)
      (h.serial family device listed).attempt fun x _ => ?_
    cases x with
    | ok serial => exact gives_entryOf_some h family device address serial
    | error cause =>
      exact (h.warn _).bind (g := fun _ => (layer.entry family device address none).map some)
        fun _ _ => gives_entryOf_some h family device address none
  · simp only [if_neg at_wanted]
    exact .pure none

theorem gives_matching_serial (h : layer.DescribesListed answer steady) (wanted : Int)
    {family : Family} {device : H} (listed : layer.Lists family device) :
    Gives answer steady (matching (.serial wanted) family device)
      (layer.visitForSerial wanted family device) := by
  refine (h.address device).bind fun address _ => ?_
  refine Gives.bind (g := fun x => if x = some (some wanted) then
    (layer.entry family device address (some wanted)).map some else .ok none)
    (gives_usableSerial h listed address) fun x _ => ?_
  by_cases wanted_one : x = some (some wanted)
  · rw [if_pos wanted_one, if_pos wanted_one]
    exact gives_entryOf_some h family device address (some wanted)
  · rw [if_neg wanted_one, if_neg wanted_one]
    exact .pure none

/-- The search for one card gives its first hit, or that there is none. -/
theorem gives_locate (h : layer.DescribesListed answer steady) (id : CardId)
    {v : Family → H → Except Error (Option (Found H))}
    (hv : ∀ family device, layer.Lists family device →
      Gives answer steady (matching id family device) (v family device)) :
    Gives answer steady (locate id)
      (firstHit (layer.outcomes v Family.all) >>= fun x => match x with
        | some found => .ok found
        | none => .error (.notFound id)) := by
  refine (gives_firstOf h hv Family.all (List.Subset.refl _)).bind fun x _ => ?_
  cases x with
  | none => exact .throw _
  | some found => exact .pure found

/-! ### The searches -/

/-- Over a layer whose answers do not change, every search gives its outcome. -/
theorem gives_search (h : layer.DescribesListed answer steady) (o : Search) :
    Gives answer steady o.query (o.outcome layer) := by
  have every : Gives answer steady all (collected (layer.outcomes layer.visit Family.all)) := by
    refine gives_keepAll h (fun family device listed => ?_) Family.all (List.Subset.refl _)
    exact (h.address device).bind fun address _ => gives_entryUnlessSkipped h listed address
  have each : Gives answer steady cards
      ((collected (layer.outcomes layer.visit Family.all)).map (List.map Found.card)) :=
    every.bind fun _ _ => .pure _
  cases o with
  | all => exact every
  | cards => exact each
  | withSerial serial => exact each.bind fun _ _ => .pure _
  | atAddress wanted =>
    refine Gives.bind ?_ fun found _ => .pure _
    refine gives_keepAll h (fun family device listed => ?_) Family.all (List.Subset.refl _)
    refine (h.address device).bind fun address _ => ?_
    by_cases at_wanted : address = wanted
    · rw [if_pos at_wanted, if_pos at_wanted]
      exact gives_entryUnlessSkipped h listed address
    · rw [if_neg at_wanted, if_neg at_wanted]
      exact .pure none
  | locate id =>
    refine gives_locate h id fun family device listed => ?_
    cases id with
    | serial wanted => exact gives_matching_serial h wanted listed
    | address wanted => exact gives_matching_address h wanted listed

end Inventory

end ReadoutCard
