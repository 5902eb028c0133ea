import ReadoutCard.Proofs.Inventory.Tours

/-!
# What a search touches

Mapping a BAR and reading a serial number touch the hardware, so which devices
a search does this to is part of what it promises. `Search.Touches` says it of
the exchanges of a search and its result. The parts follow by induction on the
tour that the search makes, where the devices still to be visited stand before
those that are listed later, and `search_touches` puts them together.
-/

namespace ReadoutCard

open Pci
open Pci (Query Trace)

variable {H W α σ : Type}

/-! ### Whole tours -/

namespace Tour

open Search (Visited shown)

variable {o : Search} {goesOn : Except Error (Option (Found H)) → Prop}
  {pending : List (Family × H)} {families : List Family} {t : Trace H W}
  {xs : List (Except Error (Option (Found H)))}

/-- Devices are asked for their address one after the other. -/
theorem asked_isPrefix (h : Tour goesOn o.Visited pending families t xs)
    (known : families ⊆ Family.all) :
    (asked t).map Prod.fst <+: (pending ++ listed t).map Prod.snd := by
  induction h with
  | finished => exact List.prefix_rfl
  | unlisted => exact List.nil_prefix
  | opened later ih =>
    -- The devices of the family just listed are those that are pending next.
    obtain ⟨searched, others⟩ := List.cons_subset.1 known
    rw [listed_devices searched]
    exact ih others
  | visit here on later ih =>
    obtain ⟨told, observed, -⟩ := here.observed
    rw [asked_append, observed.asked, listed_append, Pci.listed, observed.listings]
    exact List.prefix_cons_inj _ |>.2 (ih known)
  | ended pending families here off =>
    obtain ⟨told, observed, -⟩ := here.observed
    rw [observed.asked]
    exact List.prefix_cons_inj _ |>.2 List.nil_prefix

/-- One BAR is mapped of each device whose address is wanted. -/
theorem mapped_eq (h : Tour goesOn o.Visited pending families t xs)
    (known : families ⊆ Family.all) :
    mapped t = (((pending ++ listed t).zip ((asked t).map Prod.snd)).filter fun x =>
      x.2.toOption.any o.wants).map fun x => own x.1 := by
  induction h with
  | finished => rfl
  | unlisted family families e =>
    rw [listed_refused]
    rfl
  | opened later ih =>
    obtain ⟨searched, others⟩ := List.cons_subset.1 known
    rw [listed_devices searched]
    exact ih others
  | visit here on later ih =>
    obtain ⟨told, observed, -⟩ := here.observed
    rw [mapped_append, asked_append, listed_append, observed.asked, observed.mapped,
      Pci.listed, observed.listings, ih known]
    by_cases wanted : told.toOption.any o.wants = true
    · simp [wanted]
    · simp [wanted]
  | ended pending families here off =>
    obtain ⟨told, observed, -⟩ := here.observed
    rw [observed.asked, observed.mapped]
    by_cases wanted : told.toOption.any o.wants = true
    · simp [wanted]
    · simp [wanted]

/-- A search that wants every address, and goes on only without failure, maps one BAR of each
device that it gets to, and gets to all if it goes on after every visit. -/
theorem mapped_isPrefix (h : Tour goesOn o.Visited pending families t xs)
    (known : families ⊆ Family.all) (every : ∀ address, o.wants address = true)
    (sound : ∀ e, ¬ goesOn (.error e)) :
    mapped t <+: (pending ++ listed t).map own ∧
      ((∀ x ∈ xs, goesOn x) → mapped t = (pending ++ listed t).map own) := by
  induction h with
  | finished => exact ⟨List.prefix_rfl, fun _ => rfl⟩
  | unlisted family families e =>
    exact ⟨List.nil_prefix, fun on => absurd (on _ List.mem_cons_self) (sound e)⟩
  | opened later ih =>
    obtain ⟨searched, others⟩ := List.cons_subset.1 known
    rw [listed_devices searched]
    exact ih others
  | visit here on later ih =>
    obtain ⟨told, observed, failed⟩ := here.observed
    have wanted : told.toOption.any o.wants = true := by
      cases told with
      | error e => exact absurd (failed e rfl ▸ on) (sound e)
      | ok address => exact every address
    obtain ⟨front, whole⟩ := ih known
    rw [mapped_append, listed_append, observed.mapped, if_pos wanted, Pci.listed,
      observed.listings]
    refine ⟨List.prefix_cons_inj _ |>.2 front, fun on => ?_⟩
    exact congrArg (own _ :: ·) (whole fun x hx => on x (List.mem_cons_of_mem _ hx))
  | ended pending families here off =>
    obtain ⟨told, observed, -⟩ := here.observed
    refine ⟨?_, fun on => absurd (on _ List.mem_cons_self) off⟩
    rw [observed.mapped]
    split
    · exact List.prefix_cons_inj _ |>.2 List.nil_prefix
    · exact List.nil_prefix

/-- A tour that goes on after every visit has listed every family. -/
theorem listings_eq (h : Tour goesOn o.Visited pending families t xs)
    (sound : ∀ e, ¬ goesOn (.error e)) (on : ∀ x ∈ xs, goesOn x) :
    (listings t).map Prod.fst = families.map Family.pciId := by
  induction h with
  | finished => rfl
  | unlisted family families e => exact absurd (on _ List.mem_cons_self) (sound e)
  | @opened family families devices t xs later ih =>
    exact congrArg (family.pciId :: ·) (ih on)
  | visit here goes later ih =>
    obtain ⟨told, observed, -⟩ := here.observed
    rw [listings_append, observed.listings]
    exact ih fun x hx => on x (List.mem_cons_of_mem _ hx)
  | ended pending families here off => exact absurd (on _ List.mem_cons_self) off

/-- A search for the card at an address does not look at another device after the first one
there. -/
theorem mapped_eq_find? {wanted : PciAddress}
    (h : Tour goesOn (Visited (.locate (.address wanted))) pending families t xs)
    (known : families ⊆ Family.all) (gone : ∀ x, goesOn x → x = .ok none) :
    mapped t = (((pending ++ listed t).zip ((asked t).map Prod.snd)).find? fun x =>
      x.2.toOption = some wanted).toList.map fun x => own x.1 := by
  induction h with
  | finished => rfl
  | unlisted family families e =>
    rw [listed_refused]
    rfl
  | opened later ih =>
    obtain ⟨searched, others⟩ := List.cons_subset.1 known
    rw [listed_devices searched]
    exact ih others
  | visit here on later ih =>
    obtain rfl := gone _ on
    obtain ⟨told, observed, unwanted, unmapped⟩ := here.observed_of_none
    rw [mapped_append, asked_append, listed_append, observed.asked, unmapped, Pci.listed,
      observed.listings, ih known]
    simp [unwanted]
  | ended pending families here off =>
    obtain ⟨told, observed, -⟩ := here.observed
    rw [observed.asked, observed.mapped]
    by_cases here : told.toOption = some wanted
    · simp [here, Search.wants]
    · cases told <;> simp_all [Search.wants, Except.toOption]

/-- The NUMA node is read of the cards given, and of a device where that ends the tour. -/
theorem nodes_eq (h : Tour goesOn o.Visited pending families t xs)
    (sound : ∀ e, ¬ goesOn (.error e)) :
    ∃ aborting, nodes t = (given xs).map shown ++ aborting ∧ (aborting = [] ∨
      ∃ device e, aborting = [(device, .error e)] ∧
        ∃ xs', xs = xs' ++ [.error e] ∧ ∀ x ∈ xs', goesOn x) := by
  induction h with
  | finished => exact ⟨[], rfl, .inl rfl⟩
  | unlisted => exact ⟨[], rfl, .inl rfl⟩
  | opened later ih => exact ih
  | @visit family device pending families u t x xs here on later ih =>
    obtain ⟨aborting, read, aborts⟩ := ih
    have gave : nodes u = (given [x]).map shown := by
      rcases here.nodes_eq with gave | ⟨e, rfl, -⟩
      · exact gave
      · exact absurd on (sound e)
    refine ⟨aborting, ?_, ?_⟩
    · rw [nodes_append, gave, read, ← List.append_assoc, ← List.map_append]
      congr 2
      simp [given]
    · rcases aborts with none | ⟨device, e, abort, xs', rfl, gone⟩
      · exact .inl none
      · refine .inr ⟨device, e, abort, x :: xs', rfl, fun y hy => ?_⟩
        rcases List.mem_cons.1 hy with rfl | hy
        · exact on
        · exact gone y hy
  | ended pending families here off =>
    rcases here.nodes_eq with gave | ⟨e, rfl, read⟩
    · exact ⟨[], by rw [gave, List.append_nil], .inl rfl⟩
    · exact ⟨_, read, .inr ⟨_, e, rfl, [], rfl, fun x hx => by cases hx⟩⟩

/-- Where the NUMA node is read, the device was kept; a failure ends the tour. -/
theorem of_node (h : Tour goesOn o.Visited pending families t xs)
    (sound : ∀ e, ¬ goesOn (.error e)) {before after : Trace H W} {device : H}
    {node : Except Error Int} (split : t = before ++ ⟨.numaNode device, node⟩ :: after) :
    (∃ earlier family address u reading, before = earlier ++ u ∧
      o.Reads family device address u reading ∧ o.Keeps reading) ∧
    ∀ e, node = .error e → after = [] := by
  induction h generalizing before with
  | finished => simp at split
  | unlisted => cases before <;> simp at split
  | opened later ih =>
    cases before with
    | nil => cases split
    | cons x before =>
      cases split
      obtain ⟨⟨earlier, family, address, u, reading, rfl, kept⟩, last⟩ := ih rfl
      exact ⟨⟨_ :: earlier, family, address, u, reading, rfl, kept⟩, last⟩
  | @visit family _ pending families u t x xs here on later ih =>
    obtain ⟨middle, rfl, rfl⟩ | ⟨middle, rfl, rfl⟩ := append_eq_append_cons split
    · obtain ⟨⟨earlier, family, address, v, reading, rfl, kept⟩, last⟩ := ih rfl
      exact ⟨⟨u ++ earlier, family, address, v, reading, by simp, kept⟩, last⟩
    · obtain ⟨rfl, rfl, ⟨address, reading, kept⟩, f, rfl⟩ := here.of_node rfl
      refine ⟨⟨[], family, address, before, reading, rfl, kept⟩, ?_⟩
      rintro e rfl
      exact absurd on (sound e)
  | @ended family _ pending families u x here off =>
    obtain ⟨rfl, rfl, ⟨address, reading, kept⟩, -⟩ := here.of_node split
    exact ⟨⟨[], family, address, before, reading, rfl, kept⟩, fun _ _ => rfl⟩

end Tour

/-! ### The end of a search for one card -/

/-- The search for a card ended at a device, after the ones `before` out of those `seen`. -/
structure Matched (id : CardId) (seen : List (Family × H)) (t : Trace H W) (device : H)
    (node : Except Error Int) (before : List (Family × H)) (family : Family) : Prop where
  place : before ++ [(family, device)] <+: seen
  asks : (asked t).map Prod.fst = (before ++ [(family, device)]).map Prod.snd
  maps : ∀ serial, id = .serial serial → mapped t = (before ++ [(family, device)]).map own
  mapsOne : ∀ wanted, id = .address wanted → mapped t = [own (family, device)]
  last : [⟨.numaNode device, node⟩] <:+ t

/-- A visit that has a NUMA node read is a match, if it is the first. -/
theorem Search.Visited.matched {id : CardId} {family : Family} {device other : H} {u : Trace H W}
    {x : Except Error (Option (Found H))} {node : Except Error Int}
    (h : (Search.locate id).Visited family device u x) (read : (other, node) ∈ nodes u)
    (pending : List (Family × H)) :
    Matched id ((family, device) :: pending) u other node [] family ∧ listings u = [] := by
  obtain ⟨before, after, rfl⟩ := List.append_of_mem (mem_nodes.1 read)
  obtain ⟨rfl, rfl, ⟨address, reading, reads, -⟩, -⟩ := h.of_node rfl
  obtain ⟨observed, -⟩ := reads.observed
  have mapped_own : mapped (before ++ [⟨.numaNode other, node⟩] : Trace H W) =
      [own (family, other)] := by
    rw [mapped_append, observed.mapped]
    exact congrArg (· ++ []) (if_pos reads.1)
  constructor
  · exact {
      place := List.prefix_cons_inj _ |>.2 List.nil_prefix
      asks := by
        rw [asked_append, observed.asked]
        rfl
      maps := fun _ _ => mapped_own
      mapsOne := fun _ _ => mapped_own
      last := List.suffix_append _ _ }
  · rw [listings_append, observed.listings]
    rfl

/-- After visits that gave nothing, the search for a card ends at the device of which it reads the
NUMA node. Its family is the one of the devices pending, and no other is listed; or it is the last
one listed. -/
theorem Tour.matched {id : CardId} {pending : List (Family × H)} {families : List Family}
    {t : Trace H W} {xs : List (Except Error (Option (Found H)))}
    (h : Tour (fun x => x = .ok none) (Search.locate id).Visited pending families t xs)
    (known : families ⊆ Family.all) {device : H} {node : Except Error Int}
    (read : (device, node) ∈ nodes t) :
    ∃ before family, Matched id (pending ++ listed t) t device node before family ∧
      ((family ∈ pending.map Prod.fst ∧ listings t = []) ∨
        ∃ earlier later, families = earlier ++ family :: later ∧
          (listings t).map Prod.fst = (earlier ++ [family]).map Family.pciId) := by
  induction h with
  | finished => cases read
  | unlisted => cases read
  | @opened first families devices t xs later ih =>
    obtain ⟨searched, others⟩ := List.cons_subset.1 known
    obtain ⟨before, family, m, listing⟩ := ih others read
    refine ⟨before, family, ⟨?_, m.asks, m.maps, m.mapsOne, ?_⟩, .inr ?_⟩
    · rw [listed_devices searched]
      exact m.place
    · exact m.last.trans (List.suffix_cons _ _)
    · rcases listing with ⟨here, none⟩ | ⟨earlier, behind, rfl, listing⟩
      · obtain ⟨_, pending, rfl⟩ := List.mem_map.1 here
        obtain ⟨device, -, rfl⟩ := List.mem_map.1 pending
        refine ⟨[], families, rfl, ?_⟩
        show first.pciId :: (listings t).map Prod.fst = [first.pciId]
        rw [none]
        rfl
      · exact ⟨first :: earlier, behind, rfl, congrArg (first.pciId :: ·) listing⟩
  | @visit first passed pending families u t x xs here on later ih =>
    obtain rfl := on
    have silent : nodes u = [] := by
      rcases here.nodes_eq with gave | ⟨e, failed, -⟩
      · exact gave
      · cases failed
    rw [nodes_append, silent, List.nil_append] at read
    obtain ⟨before, family, m, listing⟩ := ih known read
    obtain ⟨told, observed, failed⟩ := here.observed
    have alike : listings (u ++ t) = listings t := by
      rw [listings_append, observed.listings, List.nil_append]
    refine ⟨(first, passed) :: before, family, ⟨?_, ?_, ?_, ?_, ?_⟩, ?_⟩
    · rw [Pci.listed, alike]
      exact List.prefix_cons_inj _ |>.2 m.place
    · rw [asked_append, observed.asked, List.map_append, m.asks]
      rfl
    · rintro serial rfl
      have wanted : told.toOption.any (Search.locate (.serial serial)).wants = true := by
        cases told with
        | error e => cases failed e rfl
        | ok address => rfl
      rw [mapped_append, observed.mapped, if_pos wanted, m.maps serial rfl]
      rfl
    · rintro wanted rfl
      obtain ⟨-, -, -, unmapped⟩ := here.observed_of_none
      rw [mapped_append, unmapped, m.mapsOne wanted rfl, List.nil_append]
    · exact m.last.trans (List.suffix_append _ _)
    · rw [alike]
      rcases listing with ⟨here, none⟩ | listing
      · exact .inl ⟨List.mem_cons_of_mem _ here, none⟩
      · exact .inr listing
  | @ended first last pending families u x here off =>
    obtain ⟨m, unlisted⟩ := here.matched read (pending ++ listed u)
    exact ⟨[], first, m, .inl ⟨List.mem_cons_self, unlisted⟩⟩

/-! ### What every search touches -/

theorem Pci.family_of_mem_listed {t : Trace H W} {x : Family × H} (h : x ∈ listed t) :
    x.1 ∈ Family.all := by
  obtain ⟨_, -, listing⟩ := List.mem_flatMap.1 h
  obtain ⟨family, known, device⟩ := List.mem_flatMap.1 listing
  obtain ⟨_, -, rfl⟩ := List.mem_map.1 device
  exact (List.mem_filter.1 known).1

namespace Search

/-- One BAR is mapped of each listed device in turn, and of all of them if the search succeeds. -/
def MapsEach (t : Trace H W) (r : Except Error α) : Prop :=
  mapped t <+: (listed t).map own ∧ ∀ value, r = .ok value → mapped t = (listed t).map own

/-- What a search maps. -/
def Maps : (o : Search) → Trace H W → Except Error (o.Value H) → Prop
  | all, t, r => MapsEach t r
  | cards, t, r => MapsEach t r
  | withSerial _, t, r => MapsEach t r
  | atAddress wanted, t, _ => mapped t =
    ((inspected t).filter fun x => x.2.toOption = some wanted).map fun x => own x.1
  | locate (.serial _), t, _ => mapped t <+: (listed t).map own
  | locate (.address wanted), t, _ => mapped t =
    ((inspected t).find? fun x => x.2.toOption = some wanted).toList.map fun x => own x.1

/-- The search for one card ended at a device, and the family of this was the last one listed. -/
def Ended (id : CardId) (t : Trace H W) (device : H) (node : Except Error Int) : Prop :=
  ∃ before family earlier later, Matched id (listed t) t device node before family ∧
    Family.all = earlier ++ family :: later ∧
    (listings t).map Prod.fst = (earlier ++ [family]).map Family.pciId

/-- A search for one card ends at the first device of which it reads the NUMA node, and reads that
of the card found. -/
def Ends : (o : Search) → Trace H W → Except Error (o.Value H) → Prop
  | locate id, t, r => (∀ device node, (device, node) ∈ nodes t → Ended id t device node) ∧
    ∀ found, r = .ok found → shown found ∈ nodes t
  | _, _, _ => True

/-- What a search with the exchanges `t` and the result `r` touches. -/
structure Touches (o : Search) (t : Trace H W) (r : Except Error (o.Value H)) : Prop where
  /-- A listing that succeeds has listed the devices of every family. -/
  lists : (∀ id, o ≠ .locate id) → ∀ value, r = .ok value →
    (listings t).map Prod.fst = Family.all.map Family.pciId
  /-- Devices are asked for their address one after the other, as they are listed. -/
  asks : (asked t).map Prod.fst <+: (listed t).map Prod.snd
  maps : o.Maps t r
  /-- Of a C-RORC it is BAR 0 that is mapped, of a CRU BAR 2. -/
  bars : ∀ x ∈ mapped t, (Family.crorc, x.1) ∈ listed t ∧ x.2 = 0 ∨
    (Family.cru, x.1) ∈ listed t ∧ x.2 = 2
  /-- The NUMA node is read of the cards that are found, and of a device that ends the search. -/
  nodes : ∃ found aborting, nodes t = found.map shown ++ aborting ∧
    (∀ value, r = .ok value → o.Presents value found) ∧
    (aborting = [] ∨ ∃ device e, aborting = [(device, .error e)] ∧ r = .error e)
  /-- It is read right after the address and the serial number of a device that is kept; nothing
  follows if that fails. -/
  kept : ∀ before device node after, t = before ++ ⟨.numaNode device, node⟩ :: after →
    (∃ earlier family address u reading, before = earlier ++ u ∧
      o.Reads family device address u reading ∧ o.Keeps reading) ∧
    ∀ e, node = .error e → after = []
  ends : o.Ends t r

theorem mapsEach_of_tour {o : Search} {t : Trace H W}
    {xs : List (Except Error (Option (Found H)))}
    (tour : Tour (fun x => ∃ y, x = .ok y) o.Visited [] Family.all t xs)
    (every : ∀ address, o.wants address = true) (many : ∀ id, o ≠ .locate id) :
    MapsEach t (o.made xs) := by
  obtain ⟨front, whole⟩ := tour.mapped_isPrefix (List.Subset.refl _) every (by simp)
  refine ⟨front, fun value h => whole ?_⟩
  obtain ⟨found, gone, -⟩ := collected_of_made h many
  exact ok_of_collected_eq_ok gone

/-- What is mapped are BARs of listed devices with their serial numbers. -/
theorem bars_of_tour {o : Search} {t : Trace H W} {xs : List (Except Error (Option (Found H)))}
    (tour : Tour o.GoesOn o.Visited [] Family.all t xs) {x : H × Nat} (h : x ∈ mapped t) :
    (Family.crorc, x.1) ∈ listed t ∧ x.2 = 0 ∨ (Family.cru, x.1) ∈ listed t ∧ x.2 = 2 := by
  rw [tour.mapped_eq (List.Subset.refl _)] at h
  obtain ⟨⟨⟨family, device⟩, told⟩, mem, rfl⟩ := List.mem_map.1 h
  have seen : (family, device) ∈ listed t := (List.of_mem_zip (List.mem_filter.1 mem).1).1
  rcases Family.mem_all_iff.1 (family_of_mem_listed seen) with rfl | rfl
  · exact .inl ⟨seen, rfl⟩
  · exact .inr ⟨seen, rfl⟩

theorem touches_of_traces {o : Search} {t : Trace H W} {r : Except Error (o.Value H)}
    (h : (o.query : Query H W _).Traces t r) : o.Touches t r := by
  obtain ⟨xs, tour, rfl⟩ := o.tour h
  have known : Family.all ⊆ Family.all := List.Subset.refl _
  refine ⟨fun many value h => ?_, tour.asked_isPrefix known, ?_, ?_, ?_, ?_, ?_⟩
  · obtain ⟨found, gone, -⟩ := collected_of_made h many
    refine tour.listings_eq o.not_goesOn_error ?_
    rw [goesOn_of_many many]
    exact ok_of_collected_eq_ok gone
  · cases o with
    | all => exact mapsEach_of_tour tour (fun _ => rfl) nofun
    | cards => exact mapsEach_of_tour tour (fun _ => rfl) nofun
    | withSerial serial => exact mapsEach_of_tour tour (fun _ => rfl) nofun
    | atAddress wanted =>
      refine (tour.mapped_eq known).trans (congrArg _ (List.filter_congr fun x _ => ?_))
      cases x.2 <;> simp [wants, Except.toOption]
    | locate id =>
      cases id with
      | serial wanted =>
        exact (tour.mapped_isPrefix known (fun _ => rfl) (not_goesOn_error _)).1
      | address wanted => exact tour.mapped_eq_find? known fun x on => on
  · exact fun x => bars_of_tour tour
  · obtain ⟨aborting, read, aborts⟩ := tour.nodes_eq o.not_goesOn_error
    refine ⟨given xs, aborting, read, fun value => presents_of_made tour, ?_⟩
    rcases aborts with none | ⟨device, e, abort, xs', rfl, on⟩
    · exact .inl none
    · exact .inr ⟨device, e, abort, made_append_error on e⟩
  · rintro before device node after rfl
    exact tour.of_node o.not_goesOn_error rfl
  · cases o with
    | locate id =>
      refine ⟨fun device node read => ?_, fun found h => ?_⟩
      · obtain ⟨before, family, m, ⟨none, -⟩ | ⟨earlier, later, families, listing⟩⟩ :=
          tour.matched known read
        · cases none
        · exact ⟨before, family, earlier, later, m, families, listing⟩
      · obtain ⟨aborting, read, -⟩ := tour.nodes_eq (not_goesOn_error _)
        rw [read, show given xs = [found] from presents_of_made tour h]
        exact List.mem_cons_self
    | all | cards | withSerial | atAddress => trivial

/-- **What searches touch.** Over every PCI layer, whatever it answers, a search maps no BAR but
that with the serial number, and at most one of each device that is listed: listing every card
that of every device of every family, unless a failure ends it, the search for the cards at an
address that of each device there, the search for the card at an address that of the first one
there, and the search for a serial number that of each device up to the match. NUMA nodes are read
of the cards that are found, and of a device that ends the search by it. After its match the search
for one card asks for nothing more, so any other layer that answers alike up to there gives the same
card. -/
theorem search_touches (answer : (q : Pci.Request H W) → σ → Pci.Answer q × σ) (s : σ)
    (o : Search) :
    o.Touches (Dialogue.transcript answer (ExceptT.run o.query) s) (Pci.result answer o.query s) ∧
    ∀ (τ : Type) (answer' : (q : Pci.Request H W) → τ → Pci.Answer q × τ) (s' s'' : τ),
      Dialogue.Answers answer' s'' s' (Dialogue.transcript answer (ExceptT.run o.query) s) →
      Pci.result answer' o.query s' = Pci.result answer o.query s := by
  have path := Dialogue.path_transcript answer (ExceptT.run (o.query : Query H W _)) s
  refine ⟨touches_of_traces path, fun τ answer' s' s'' same => ?_⟩
  exact congrArg Prod.fst (Dialogue.run_of_path path same).1

end Search

end ReadoutCard
