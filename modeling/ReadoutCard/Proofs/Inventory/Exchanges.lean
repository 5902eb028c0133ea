import ReadoutCard.Proofs.Inventory.Agreement
import ReadoutCard.Proofs.Inventory.Queries

/-!
# What the visit to a device exchanges with the PCI layer

`Search.Visited` says everything that the visit of a search can be: the address
of the device is read, its serial number if the address is wanted, and its NUMA
node if the serial number is such that the device is kept
(`Search.visited_of_visit`). What was listed, asked for its address, mapped and
asked for its NUMA node is then read off the exchanges. Up to the NUMA node
every visit looks alike (`Search.Visited.observed`), and the NUMA node comes last
(`Search.Visited.of_node`).
-/

namespace ReadoutCard

open Pci (Query Trace)

variable {H W α : Type}

/-- The cards that visits gave. -/
def given (xs : List (Except Error (Option α))) : List α := xs.flatMap fun
  | .ok y => y.toList
  | .error _ => []

/-! ### What a visit can be -/

namespace Search

/-- The visit of a search to a device. -/
def visit : Search → Family → H → Query H W (Option (Found H))
  | all, family, device | cards, family, device | withSerial _, family, device => do
    Inventory.entryUnlessSkipped family device (← Pci.address device)
  | atAddress wanted, family, device => do
    let address ← Pci.address device
    if address = wanted then Inventory.entryUnlessSkipped family device address else return none
  | locate id, family, device => Inventory.matching id family device

/-- Whether the serial number of a device with this address is read. -/
def wants : Search → PciAddress → Bool
  | atAddress wanted, address | locate (.address wanted), address => address = wanted
  | _, _ => true

/-- A device is kept after such a reading of its serial number. -/
def Keeps : Search → Except Error (Option Int) → Prop
  | locate (.serial wanted), reading => reading = .ok (some wanted)
  | locate (.address _), _ => True
  | _, reading => ∃ serial, reading = .ok serial

/-- What the operator is warned of when a serial number cannot be read. -/
def warning : Search → Family → PciAddress → Error → Warning
  | locate (.address _), _, address, cause => .serialUnreadable address cause
  | _, family, address, cause => .skipped family.type address cause

/-- The warning after a reading that failed. -/
def warned (o : Search) (family : Family) (address : PciAddress) :
    Except Error (Option Int) → Trace H W
  | .ok _ => []
  | .error cause => [⟨.warn (o.warning family address cause), ()⟩]

/-- The exchanges `u` are for the address of a device, which is wanted, and its serial number. -/
def Reads (o : Search) (family : Family) (device : H) (address : PciAddress) (u : Trace H W)
    (reading : Except Error (Option Int)) : Prop :=
  o.wants address = true ∧ ∃ v, (Inventory.serialOf family device).Traces v reading ∧
    u = ⟨.address device, .ok address⟩ :: (v ++ o.warned family address reading)

/-- Everything that the visit to a device can be, and what comes of it. -/
inductive Visited (o : Search) (family : Family) (device : H) :
    Trace H W → Except Error (Option (Found H)) → Prop where
  /-- The address cannot be read. -/
  | lost (e : Error) : Visited o family device [⟨.address device, .error e⟩] (.error e)
  /-- The address is not wanted. -/
  | passed (address : PciAddress) (other : o.wants address = false) :
    Visited o family device [⟨.address device, .ok address⟩] (.ok none)
  /-- The serial number was read, and the device is not kept. -/
  | left (address : PciAddress) (u : Trace H W) (reading : Except Error (Option Int))
      (read : o.Reads family device address u reading) (unfit : ¬ o.Keeps reading) :
    Visited o family device u (.ok none)
  /-- The device is kept, and described unless its NUMA node cannot be read. -/
  | kept (address : PciAddress) (u : Trace H W) (reading : Except Error (Option Int))
      (node : Except Error Int) (read : o.Reads family device address u reading)
      (fit : o.Keeps reading) :
    Visited o family device (u ++ [⟨.numaNode device, node⟩]) (node.map fun node =>
      some ⟨⟨family.type, reading.toOption.getD none, family.pciId, address, node⟩, device⟩)

end Search

namespace Inventory

variable {family : Family} {device : H} {address : PciAddress} {t : Trace H W}
  {x : Except Error (Option (Found H))}

theorem traces_described {serial : Option Int}
    (h : (entryOf family device address serial >>= fun f => pure (some f) :
      Query H W (Option (Found H))).Traces t x) :
    ∃ node, t = [⟨.numaNode device, node⟩] ∧ x = node.map fun node =>
      some ⟨⟨family.type, serial, family.pciId, address, node⟩, device⟩ := by
  obtain ⟨y, described, rfl⟩ := Pci.traces_bind_pure.1 h
  obtain ⟨node, read, rfl⟩ := Pci.traces_bind_pure.1 described
  refine ⟨node, Pci.traces_numaNode.1 read, ?_⟩
  cases node <;> rfl

/-- A reading that fails is warned of. -/
theorem traces_usable {y : Except Error (Option (Option Int))}
    (h : (usableSerial family device address : Query H W (Option (Option Int))).Traces t y) :
    ∃ v reading, (serialOf family device).Traces v reading ∧ y = .ok reading.toOption ∧
      t = v ++ Search.all.warned family address reading := by
  obtain ⟨e, failed, -⟩ | ⟨v, reading, rest, rfl, read, later⟩ := Pci.traces_bind.1 h
  · obtain ⟨_, -, same⟩ := Pci.traces_attempt.1 failed
    cases same
  · refine ⟨v, reading, Pci.traces_attempt_ok.1 read, ?_⟩
    cases reading with
    | ok serial =>
      obtain ⟨rfl, rfl⟩ := Pci.traces_pure.1 later
      exact ⟨rfl, rfl⟩
    | error cause =>
      obtain ⟨_, warned, rfl⟩ := Pci.traces_bind_pure.1 later
      obtain ⟨rfl, rfl⟩ := Pci.traces_warn.1 warned
      exact ⟨rfl, rfl⟩

/-- A device at a wanted address is described or skipped. -/
theorem visited_of_entryUnlessSkipped {o : Search} (wanted : o.wants address = true)
    (keeps : ∀ reading, o.Keeps reading ↔ ∃ serial, reading = .ok serial)
    (warns : ∀ cause, o.warning family address cause = .skipped family.type address cause)
    (h : (entryUnlessSkipped family device address : Query H W _).Traces t x) :
    o.Visited family device (⟨.address device, .ok address⟩ :: t) x := by
  obtain ⟨e, failed, -⟩ | ⟨t₁, y, t₂, rfl, usable, later⟩ := Pci.traces_bind.1 h
  · obtain ⟨_, _, -, same, -⟩ := traces_usable failed
    cases same
  · obtain ⟨v, reading, read, same, rfl⟩ := traces_usable usable
    have warned : o.warned family address reading =
        (Search.all.warned family address reading : Trace H W) := by
      cases reading with
      | ok serial => rfl
      | error cause => rw [Search.warned, Search.warned, warns]; rfl
    have reads : o.Reads family device address
        (⟨.address device, .ok address⟩ :: (v ++ Search.all.warned family address reading))
        reading := ⟨wanted, v, read, by rw [warned]⟩
    cases reading with
    | ok serial =>
      cases same
      obtain ⟨node, rfl, rfl⟩ := traces_described later
      exact .kept address _ _ node reads ((keeps _).2 ⟨serial, rfl⟩)
    | error cause =>
      cases same
      obtain ⟨rfl, rfl⟩ := Pci.traces_pure.1 later
      rw [List.append_nil]
      refine .left address _ _ reads fun fit => ?_
      obtain ⟨_, same⟩ := (keeps _).1 fit
      cases same

theorem visited_of_matching {id : CardId}
    (h : (matching id family device : Query H W _).Traces t x) :
    (Search.locate id).Visited family device t x := by
  obtain ⟨e, failed, rfl⟩ | ⟨t₁, address, t₂, rfl, told, later⟩ := Pci.traces_bind.1 h
  · obtain rfl := Pci.traces_address.1 failed
    exact .lost e
  obtain rfl := Pci.traces_address.1 told
  cases id with
  | address wanted =>
    dsimp only at later
    split at later
    case isFalse other =>
      obtain ⟨rfl, rfl⟩ := Pci.traces_pure.1 later
      exact .passed address (decide_eq_false other)
    case isTrue here =>
      have wanted : (Search.locate (.address wanted)).wants address = true := decide_eq_true here
      obtain ⟨e, failed, -⟩ | ⟨v, reading, t₃, rfl, read, later⟩ := Pci.traces_bind.1 later
      · obtain ⟨_, -, same⟩ := Pci.traces_attempt.1 failed
        cases same
      rw [Pci.traces_attempt_ok] at read
      cases reading with
      | ok serial =>
        obtain ⟨node, rfl, rfl⟩ := traces_described later
        refine .kept address (⟨.address device, .ok address⟩ :: v) _ node ⟨wanted, v, read, ?_⟩
          trivial
        rw [Search.warned, List.append_nil]
      | error cause =>
        obtain ⟨e, failed, -⟩ | ⟨t₄, _, t₅, rfl, warned, described⟩ := Pci.traces_bind.1 later
        · cases (Pci.traces_warn.1 failed).2
        obtain ⟨rfl, -⟩ := Pci.traces_warn.1 warned
        obtain ⟨node, rfl, rfl⟩ := traces_described described
        have whole : ⟨.address device, .ok address⟩ ::
            (v ++ (⟨.warn (.serialUnreadable address cause), ()⟩ :: [⟨.numaNode device, node⟩])) =
            ⟨.address device, .ok address⟩ ::
              (v ++ [⟨.warn (.serialUnreadable address cause), ()⟩]) ++
              ([⟨.numaNode device, node⟩] : Trace H W) := by simp
        show Search.Visited _ _ _ (⟨.address device, .ok address⟩ ::
          (v ++ (⟨.warn (.serialUnreadable address cause), ()⟩ :: [⟨.numaNode device, node⟩]))) _
        rw [whole]
        exact .kept address _ (.error cause) node ⟨wanted, v, read, rfl⟩ trivial
  | serial wanted =>
    obtain ⟨e, failed, -⟩ | ⟨t₃, y, t₄, rfl, usable, later⟩ := Pci.traces_bind.1 later
    · obtain ⟨_, _, -, same, -⟩ := traces_usable failed
      cases same
    obtain ⟨v, reading, read, same, rfl⟩ := traces_usable usable
    obtain rfl := Except.ok.inj same
    have reads : (Search.locate (.serial wanted)).Reads family device address
        (⟨.address device, .ok address⟩ :: (v ++ Search.all.warned family address reading))
        reading := ⟨rfl, v, read, by cases reading <;> rfl⟩
    split at later
    case isFalse other =>
      obtain ⟨rfl, rfl⟩ := Pci.traces_pure.1 later
      rw [List.append_nil]
      refine .left address _ reading reads fun fit => other ?_
      rw [show reading = .ok (some wanted) from fit]
      rfl
    case isTrue fits =>
      obtain ⟨node, rfl, rfl⟩ := traces_described later
      cases reading with
      | error e => cases fits
      | ok serial =>
        obtain rfl := Option.some.inj fits
        exact .kept address _ _ node reads rfl

end Inventory

open Inventory in
/-- A visit is one of these. -/
theorem Search.visited_of_visit (o : Search) {family : Family} {device : H} {t : Trace H W}
    {x : Except Error (Option (Found H))}
    (h : (o.visit family device : Query H W _).Traces t x) : o.Visited family device t x := by
  cases o with
  | locate id => exact visited_of_matching h
  | atAddress wanted =>
    obtain ⟨e, failed, rfl⟩ | ⟨t₁, address, t₂, rfl, told, later⟩ := Pci.traces_bind.1 h
    · obtain rfl := Pci.traces_address.1 failed
      exact .lost e
    obtain rfl := Pci.traces_address.1 told
    split at later
    case isFalse other =>
      obtain ⟨rfl, rfl⟩ := Pci.traces_pure.1 later
      exact .passed address (decide_eq_false other)
    case isTrue here =>
      exact visited_of_entryUnlessSkipped (decide_eq_true here) (fun _ => Iff.rfl) (fun _ => rfl)
        later
  | all | cards | withSerial =>
    obtain ⟨e, failed, rfl⟩ | ⟨t₁, address, t₂, rfl, told, later⟩ := Pci.traces_bind.1 h
    · obtain rfl := Pci.traces_address.1 failed
      exact .lost e
    obtain rfl := Pci.traces_address.1 told
    exact visited_of_entryUnlessSkipped rfl (fun _ => Iff.rfl) (fun _ => rfl) later

/-! ### What is seen of exchanges -/

namespace Pci

/-- The listings, each with the identity that was asked for. -/
def listings (t : Trace H W) : List (PciId × Except Error (List H)) := t.filterMap fun
  | ⟨.devices id, answer⟩ => some (id, answer)
  | _ => none

/-- The devices that were asked for their address, each with the answer. -/
def asked (t : Trace H W) : List (H × Except Error PciAddress) := t.filterMap fun
  | ⟨.address device, answer⟩ => some (device, answer)
  | _ => none

/-- The mappings, by device and BAR, whether they succeeded or not. -/
def mapped (t : Trace H W) : List (H × Nat) := t.filterMap fun
  | ⟨.map device bar, _⟩ => some (device, bar)
  | _ => none

/-- The devices that were asked for their NUMA node, each with the answer. -/
def nodes (t : Trace H W) : List (H × Except Error Int) := t.filterMap fun
  | ⟨.numaNode device, answer⟩ => some (device, answer)
  | _ => none

/-- The devices listed, each with its family. -/
def listed (t : Trace H W) : List (Family × H) := (listings t).flatMap fun (id, answer) =>
  (Family.all.filter fun family => family.pciId = id).flatMap fun family =>
    (answer.toOption.getD []).map fun device => (family, device)

/-- The devices listed and asked for their address, each with its family and the answer. -/
def inspected (t : Trace H W) : List ((Family × H) × Except Error PciAddress) :=
  (listed t).zip ((asked t).map Prod.snd)

/-- The BAR of a device in which its family keeps the serial number. -/
def own (x : Family × H) : H × Nat := (x.2, x.1.serial.bar)

section

variable (t t' : Trace H W)

@[simp]
theorem listings_append : listings (t ++ t') = listings t ++ listings t' := List.filterMap_append

@[simp]
theorem asked_append : asked (t ++ t') = asked t ++ asked t' := List.filterMap_append

@[simp]
theorem mapped_append : mapped (t ++ t') = mapped t ++ mapped t' := List.filterMap_append

@[simp]
theorem nodes_append : nodes (t ++ t') = nodes t ++ nodes t' := List.filterMap_append

@[simp]
theorem listed_append : listed (t ++ t') = listed t ++ listed t' := by
  rw [listed, listings_append, List.flatMap_append]
  rfl

end

theorem mem_nodes {t : Trace H W} {device : H} {node : Except Error Int} :
    (device, node) ∈ nodes t ↔ ⟨.numaNode device, node⟩ ∈ t := by
  simp only [nodes, List.mem_filterMap]
  constructor
  · rintro ⟨⟨request, answer⟩, mem, same⟩
    cases request with
    | numaNode other =>
      cases same
      exact mem
    | _ => cases same
  · intro mem
    exact ⟨_, mem, rfl⟩

/-- Listing a known family lists its devices. -/
theorem listed_devices {family : Family} (known : family ∈ Family.all) (devices : List H)
    (t : Trace H W) :
    listed (⟨.devices family.pciId, .ok devices⟩ :: t) =
      devices.map (fun device => (family, device)) ++ listed t := by
  have only : (Family.all.filter fun other => other.pciId = family.pciId) = [family] := by
    rcases Family.mem_all_iff.1 known with rfl | rfl <;> decide
  show ((Family.all.filter fun other => other.pciId = family.pciId).flatMap fun family =>
    devices.map fun device => (family, device)) ++ listed t = _
  rw [only, List.flatMap_singleton]

theorem listed_refused (id : PciId) (e : Error) (t : Trace H W) :
    listed (⟨.devices id, .error e⟩ :: t) = listed t := by
  show ((Family.all.filter fun family => family.pciId = id).flatMap fun _ => []) ++ listed t = _
  rw [List.flatMap_eq_nil_iff.2 fun _ _ => rfl, List.nil_append]

/-- Neither listing nor asking for anything, apart from mapping. -/
structure Quiet (t : Trace H W) : Prop where
  listings : listings t = []
  asked : asked t = []
  nodes : nodes t = []

theorem quiet_accesses (window : W) (accesses : List (Exchange Register.Request Register.Answer)) :
    Quiet (accesses.map (onWindowOf (H := H) window)) ∧
      mapped (accesses.map (onWindowOf (H := H) window)) = [] := by
  induction accesses with
  | nil => exact ⟨⟨rfl, rfl, rfl⟩, rfl⟩
  | cons x rest ih => exact ⟨⟨ih.1.listings, ih.1.asked, ih.1.nodes⟩, ih.2⟩

end Pci

open Pci

/-! ### What is seen of a visit -/

namespace Inventory

/-- Reading a serial number maps one BAR, that of the family. -/
theorem mapped_serialOf {family : Family} {device : H} {v : Trace H W}
    {reading : Except Error (Option Int)} (h : (serialOf family device).Traces v reading) :
    Quiet v ∧ mapped v = [own (family, device)] := by
  obtain ⟨e, failed, -⟩ | ⟨t₁, m, t₂, rfl, done, accessed⟩ := traces_bind.1 h
  · obtain rfl := traces_map.1 failed
    exact ⟨⟨rfl, rfl, rfl⟩, rfl⟩
  · obtain rfl := traces_map.1 done
    obtain ⟨accesses, -, rfl⟩ := traces_access.1 accessed
    obtain ⟨quiet, none⟩ := quiet_accesses (H := H) m.window accesses
    exact ⟨⟨quiet.listings, quiet.asked, quiet.nodes⟩, congrArg (own (family, device) :: ·) none⟩

end Inventory

namespace Search

variable {o : Search} {family : Family} {device : H} {u : Trace H W}
  {x : Except Error (Option (Found H))}

theorem quiet_warned (o : Search) (family : Family) (address : PciAddress)
    (reading : Except Error (Option Int)) :
    Quiet (o.warned family address reading : Trace H W) ∧
      mapped (o.warned family address reading : Trace H W) = [] := by
  cases reading <;> exact ⟨⟨rfl, rfl, rfl⟩, rfl⟩

/-- What is seen of the exchanges up to the NUMA node. -/
structure Observed (o : Search) (family : Family) (device : H) (u : Trace H W)
    (told : Except Error PciAddress) : Prop where
  listings : listings u = []
  asked : asked u = [(device, told)]
  mapped : mapped u = if told.toOption.any o.wants then [own (family, device)] else []

theorem Reads.observed {address : PciAddress} {reading : Except Error (Option Int)}
    (h : o.Reads family device address u reading) :
    o.Observed family device u (.ok address) ∧ nodes u = [] := by
  obtain ⟨wanted, v, read, rfl⟩ := h
  obtain ⟨quiet, mapped_own⟩ := Inventory.mapped_serialOf read
  obtain ⟨warned, none⟩ := quiet_warned (H := H) (W := W) o family address reading
  refine ⟨⟨?_, ?_, ?_⟩, ?_⟩
  · show listings (v ++ o.warned family address reading) = []
    rw [listings_append, quiet.listings, warned.listings]
    rfl
  · show (device, Except.ok address) :: asked (v ++ o.warned family address reading) = _
    rw [asked_append, quiet.asked, warned.asked]
    rfl
  · show mapped (v ++ o.warned family address reading) = if o.wants address = true then _ else _
    rw [if_pos wanted, mapped_append, mapped_own, none]
    rfl
  · show nodes (v ++ o.warned family address reading) = []
    rw [nodes_append, quiet.nodes, warned.nodes]
    rfl

/-- A visit asks its device for the address, and maps one BAR if that is wanted. -/
theorem Visited.observed (h : o.Visited family device u x) :
    ∃ told, o.Observed family device u told ∧ ∀ e, told = .error e → x = .error e := by
  cases h with
  | lost e => exact ⟨.error e, ⟨rfl, rfl, rfl⟩, fun _ same => by cases same; rfl⟩
  | passed address other =>
    refine ⟨.ok address, ⟨rfl, rfl, ?_⟩, fun _ same => by cases same⟩
    show [] = if o.wants address = true then _ else _
    rw [other]
    rfl
  | left address _ reading read unfit =>
    exact ⟨.ok address, read.observed.1, fun _ same => by cases same⟩
  | kept address u reading node read fit =>
    obtain ⟨observed, -⟩ := read.observed
    refine ⟨.ok address, ⟨?_, ?_, ?_⟩, fun _ same => by cases same⟩
    · rw [listings_append, observed.listings]
      rfl
    · rw [asked_append, observed.asked]
      rfl
    · rw [mapped_append, ← observed.mapped]
      exact List.append_nil _

/-- In the search for the card at an address only a device at another address gives nothing. -/
theorem Visited.observed_of_none {wanted : PciAddress}
    (h : (locate (.address wanted)).Visited family device u (.ok none)) : ∃ told,
      (locate (.address wanted)).Observed family device u told ∧ told.toOption ≠ some wanted ∧
        mapped u = [] := by
  generalize hx : (Except.ok none : Except Error (Option (Found H))) = x at h
  cases h with
  | lost e => cases hx
  | passed address other =>
    refine ⟨.ok address, ⟨rfl, rfl, ?_⟩, fun same => ?_, rfl⟩
    · show [] = if (locate (.address wanted)).wants address = true then _ else _
      rw [other]
      rfl
    · cases same
      cases other.symm.trans (decide_eq_true rfl)
  | left address _ reading read unfit => exact absurd trivial unfit
  | kept address u reading node read fit => cases node <;> cases hx

/-- The NUMA node is read last, and only of a device that is kept. -/
theorem Visited.of_node (h : o.Visited family device u x) {before after : Trace H W} {other : H}
    {node : Except Error Int} (split : u = before ++ ⟨.numaNode other, node⟩ :: after) :
    other = device ∧ after = [] ∧
      (∃ address reading, o.Reads family device address before reading ∧ o.Keeps reading) ∧
      ∃ f : Int → Found H, x = node.map fun node => some (f node) := by
  have mem : (other, node) ∈ nodes u := mem_nodes.2 (split ▸ List.mem_append_right _ (by simp))
  cases h with
  | lost e => cases mem
  | passed address unwanted => cases mem
  | left address _ reading read unfit =>
    rw [read.observed.2] at mem
    cases mem
  | kept address u reading node' read fit =>
    obtain ⟨middle, rfl, rest⟩ | ⟨middle, rfl, -⟩ := append_eq_append_cons split
    · cases middle with
      | nil =>
        cases rest
        rw [List.append_nil]
        exact ⟨rfl, rfl, ⟨address, reading, read, fit⟩, _, rfl⟩
      | cons y middle => cases middle <;> cases rest
    · have early : (other, node) ∈ nodes (before ++ ⟨.numaNode other, node⟩ :: middle : Trace H W) :=
        mem_nodes.2 (List.mem_append_right _ List.mem_cons_self)
      rw [read.observed.2] at early
      cases early

/-- The reading of a NUMA node that a card shows. -/
def shown (f : Found H) : H × Except Error Int := (f.device, .ok f.card.numaNode)

/-- A visit reads the NUMA node of the card that it gives, or one that makes it fail. -/
theorem Visited.nodes_eq (h : o.Visited family device u x) :
    nodes u = (given [x]).map shown ∨ ∃ e, x = .error e ∧ nodes u = [(device, .error e)] := by
  cases h with
  | lost e => exact .inl rfl
  | passed address unwanted => exact .inl rfl
  | left address _ reading read unfit => exact .inl read.observed.2
  | kept address u reading node read fit =>
    rw [nodes_append, read.observed.2]
    cases node with
    | ok node => exact .inl rfl
    | error e => exact .inr ⟨e, rfl, rfl⟩

end Search

end ReadoutCard
