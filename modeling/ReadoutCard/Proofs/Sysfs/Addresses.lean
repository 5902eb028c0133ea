import ReadoutCard.Proofs.Inventory.Hits
import ReadoutCard.Proofs.PciAddress
import ReadoutCard.Proofs.Sysfs.Devices
import ReadoutCard.Proofs.Text.Ascii

/-!
# Devices at an address

Addresses have no domain, so they tell devices with canonical names apart up to
the domain: a device with an address is named for it in some domain
(`Canonical.namedFor`), and there no other device is (`entry_eq_of_domain_eq`).
Each device is visited once in a search (`nodup_pairs`), so a search for an
address finds at most one device in each domain (`devices_at_address`).
-/

namespace ReadoutCard

open DeviceTree (Directory Entry fileName)
open PciAddress (CanonicalName)

namespace Sysfs

/-! ### What a search for an address finds -/

section Searches

variable {d : Directory} {a : PciAddress}

/-- A search of a tree gives what the tables of the tree say. -/
theorem result_search (t : DeviceTree) (o : Search) :
    Pci.result answer o.query t = o.outcome (layer t) :=
  (Inventory.gives_search (describes t) o t (.refl t)).1

/-- A device that is listed has an entry in the directory. -/
theorem exists_entry (root : String) {id : PciId} {names : List FileName} {name : FileName}
    (listed : devices ⟨root, some d⟩ id = .ok names) (mem : name ∈ names) :
    ∃ e ∈ d.entries, e.name = name ∧ idOf? e = some id := by
  obtain ⟨e, found, identity⟩ := (mem_devices listed).1 mem
  obtain ⟨here, named⟩ := d.entry?_eq_some_iff.1 found
  exact ⟨e, here, named, identity⟩

/-- No device is visited twice: no listing has it twice, and no two have it. -/
theorem nodup_pairs (root : String) (d : Directory) :
    (((layer ⟨root, some d⟩).pairs Family.all).map Prod.snd).Nodup := by
  obtain ⟨crorcs, hc, ascending⟩ := exists_devices root d Family.crorc.pciId
  obtain ⟨crus, hu, ascending'⟩ := exists_devices root d Family.cru.pciId
  have visited : ((layer ⟨root, some d⟩).pairs Family.all).map Prod.snd = crorcs ++ crus := by
    have listed : (layer ⟨root, some d⟩).devices Family.crorc.pciId = .ok crorcs := hc
    have listed' : (layer ⟨root, some d⟩).devices Family.cru.pciId = .ok crus := hu
    simp only [Layer.pairs, Family.all, List.flatMap_cons, List.flatMap_nil, listed, listed',
      List.append_nil, List.map_append, List.map_map, Function.comp_def, List.map_id']
  rw [visited]
  refine List.nodup_append'.2 ⟨nodup_of_ascending ascending, nodup_of_ascending ascending', ?_⟩
  intro name mem mem'
  obtain ⟨e, found, identity⟩ := (mem_devices hc).1 mem
  obtain ⟨e', found', identity'⟩ := (mem_devices hu).1 mem'
  obtain rfl : e = e' := Option.some.inj (found.symm.trans found')
  exact absurd (Option.some.inj (identity.symm.trans identity')) (by decide)

/-- The cards found at an address are of distinct devices with that address. -/
theorem found_at_address {root : String} {cards : List Card}
    (h : Pci.result answer (Inventory.atAddress a) ⟨root, some d⟩ = .ok cards) :
    ∃ found : List (Found FileName), cards = found.map Found.card ∧
      (found.map Found.device).Nodup ∧
      ∀ f ∈ found, ∃ e ∈ d.entries, f.device = e.name ∧ address e.name = .ok a := by
  have outcome : (collected ((layer ⟨root, some d⟩).outcomes
      ((layer ⟨root, some d⟩).visitAt a) Family.all)).map (List.map Found.card) = .ok cards :=
    (result_search ⟨root, some d⟩ (.atAddress a)).symm.trans h
  cases hf : collected ((layer ⟨root, some d⟩).outcomes
      ((layer ⟨root, some d⟩).visitAt a) Family.all) with
  | error e =>
    rw [hf] at outcome
    cases outcome
  | ok found =>
    rw [hf] at outcome
    refine ⟨found, (Except.ok.inj outcome).symm, ?_, fun f mem => ?_⟩
    · have visits := Layer.outcomes_eq_map_pairs _ (ok_of_collected_eq_ok hf)
        ((layer ⟨root, some d⟩).visitAt a)
      rw [visits] at hf
      refine (nodup_pairs root d).sublist (map_collected_sublist ?_ hf)
      intro p _ f visited
      exact (Layer.visitAt_eq_some visited).2.1
    · obtain ⟨family, -, names, listed, device, hd, visited⟩ :=
        Layer.exists_of_mem_outcomes (mem_of_collected hf f mem)
      obtain ⟨here, its_device, -⟩ := Layer.visitAt_eq_some visited
      obtain ⟨e, he, rfl, -⟩ := exists_entry root listed hd
      exact ⟨e, he, its_device, here⟩

/-- The card located at an address is of a device with that address. -/
theorem located_at_address {root : String} {found : Found FileName}
    (h : Pci.result answer (Inventory.locate (.address a)) ⟨root, some d⟩ = .ok found) :
    ∃ e ∈ d.entries, found.device = e.name ∧ address e.name = .ok a := by
  have first := (result_search ⟨root, some d⟩ (.locate (.address a))).symm.trans h
  rw [Search.outcome] at first
  cases hf : firstHit ((layer ⟨root, some d⟩).outcomes
      (Search.visitFor (layer ⟨root, some d⟩) (.address a)) Family.all) with
  | error e =>
    rw [hf] at first
    cases first
  | ok hit =>
    rw [hf] at first
    cases hit with
    | none => cases first
    | some f =>
      cases first
      obtain ⟨family, -, names, listed, device, hd, visited⟩ :=
        Layer.exists_of_mem_outcomes (mem_of_firstHit hf)
      obtain ⟨here, its_device, -⟩ := Layer.visitForAddress_eq_some visited
      obtain ⟨e, he, rfl, -⟩ := exists_entry root listed hd
      exact ⟨e, he, its_device, here⟩

end Searches

/-! ### Trees with canonical names -/

/-- All names in the directory are as the system writes them. -/
def Canonical (d : Directory) : Prop :=
  ∀ e ∈ d.entries, ∃ name : CanonicalName, e.name = fileName name.text

/-- All names in the directory are as the system writes them in one domain. -/
def CanonicalIn (domain : List Char) (d : Directory) : Prop :=
  ∀ e ∈ d.entries, ∃ name : CanonicalName, name.domain = domain ∧ e.name = fileName name.text

variable {d : Directory} {root : String} {a : PciAddress}

/-- A device of a canonical name is told its address by that name. -/
theorem address_fileName (name : CanonicalName) :
    address (fileName name.text) = PciAddress.parseDirectoryName name.text := by
  have ascii : ∀ c ∈ name.domain ++ ':' :: (name.bus ++ ':' :: (name.device ++ '.' ::
      [name.function])), c.toNat < 128 := by
    intro c hc
    have either : c ∈ name.domain ++ name.bus ++ name.device ++ [name.function] ∨
        c = ':' ∨ c = '.' := by
      simp only [List.mem_append, List.mem_cons] at hc ⊢
      tauto
    rcases either with digit | rfl | rfl
    · exact Text.toNat_lt_of_isHexDigit (name.digits c digit)
    · decide
    · decide
  have same : Text.Utf8.readable (fileName name.text) = name.text := Text.readable_toUTF8 ascii
  rw [address, same]

theorem text_of_address {name : CanonicalName} (h : address (fileName name.text) = .ok a) :
    name.text = a.nameIn name.domain := by
  rw [address_fileName] at h
  exact name.parse_eq_ok_iff.1 h

/-- The device has the name of the address in some domain. -/
def NamedFor (a : PciAddress) (device : FileName) : Prop :=
  ∃ name : CanonicalName, device = fileName name.text ∧ name.text = a.nameIn name.domain

theorem Canonical.namedFor (canonical : Canonical d) {e : Entry} (he : e ∈ d.entries)
    (here : address e.name = .ok a) : NamedFor a e.name := by
  obtain ⟨name, named⟩ := canonical e he
  rw [named] at here
  exact ⟨name, named, text_of_address here⟩

/-- Entries with one address and one domain have one name, and names are distinct. -/
theorem entry_eq_of_domain_eq {e e' : Entry} (he : e ∈ d.entries) (he' : e' ∈ d.entries)
    {name name' : CanonicalName} (named : e.name = fileName name.text)
    (named' : e'.name = fileName name'.text) (here : address e.name = .ok a)
    (here' : address e'.name = .ok a) (domains : name.domain = name'.domain) : e = e' := by
  rw [named] at here
  rw [named'] at here'
  refine List.inj_on_of_nodup_map d.distinct he he' ?_
  rw [named, named', text_of_address here, text_of_address here', domains]

theorem CanonicalIn.entry_eq {domain : List Char} (single : CanonicalIn domain d) {e e' : Entry}
    (he : e ∈ d.entries) (he' : e' ∈ d.entries) (here : address e.name = .ok a)
    (here' : address e'.name = .ok a) : e = e' := by
  obtain ⟨name, rfl, named⟩ := single e he
  obtain ⟨name', domains, named'⟩ := single e' he'
  exact entry_eq_of_domain_eq he he' named named' here here' domains.symm

/-- **Addresses tell devices apart up to the domain.** A canonical name is accepted only as the name
of its address in its own domain, which is the name in domain 0 only there. In a tree of such names
two devices with one address are in different domains; a search for the cards at an address gives
distinct devices named for it, any two of them in different domains; and the card located at an
address is of a device named for it in some domain. Where all names are in one domain, an address
is that of at most one device, and the searches find at most that one. -/
theorem devices_at_address (root : String) (canonical : Canonical d) :
    (∀ (name : CanonicalName) (a : PciAddress), PciAddress.parseDirectoryName name.text = .ok a →
      name.text = a.nameIn name.domain ∧
      (name.domain = ['0', '0', '0', '0'] → name.text = a.directoryName)) ∧
    (∀ e ∈ d.entries, ∀ e' ∈ d.entries, ∀ name name' : CanonicalName,
      e.name = fileName name.text → e'.name = fileName name'.text →
      ∀ a, address e.name = .ok a → address e'.name = .ok a → name.domain = name'.domain →
      e = e') ∧
    (∀ a cards, Pci.result answer (Inventory.atAddress a) ⟨root, some d⟩ = .ok cards →
      ∃ found : List (Found FileName), cards = found.map Found.card ∧
        (∀ f ∈ found, NamedFor a f.device) ∧
        found.Pairwise fun f f' => ∀ name name' : CanonicalName,
          f.device = fileName name.text → f'.device = fileName name'.text →
          name.domain ≠ name'.domain) ∧
    (∀ a found, Pci.result answer (Inventory.locate (.address a)) ⟨root, some d⟩ = .ok found →
      NamedFor a found.device) ∧
    ∀ domain, CanonicalIn domain d →
      (∀ e ∈ d.entries, ∀ e' ∈ d.entries, ∀ a,
        address e.name = .ok a → address e'.name = .ok a → e = e') ∧
      (∀ a cards, Pci.result answer (Inventory.atAddress a) ⟨root, some d⟩ = .ok cards →
        cards.length ≤ 1) ∧
      ∀ a found, Pci.result answer (Inventory.locate (.address a)) ⟨root, some d⟩ = .ok found →
        found.device = fileName (a.nameIn domain) := by
  refine ⟨fun name a accepted => ?_, fun e he e' he' name name' named named' a here here' domains =>
    entry_eq_of_domain_eq he he' named named' here here' domains, fun a cards h => ?_,
    fun a found h => ?_, fun domain single => ⟨fun e he e' he' a here here' =>
      single.entry_eq he he' here here', fun a cards h => ?_, fun a found h => ?_⟩⟩
  · have named := name.parse_eq_ok_iff.1 accepted
    refine ⟨named, fun zero => ?_⟩
    rw [named, zero, PciAddress.directoryName_eq]
  · obtain ⟨found, rfl, distinct, every⟩ := found_at_address h
    refine ⟨found, rfl, fun f mem => ?_, ?_⟩
    · obtain ⟨e, he, device, here⟩ := every f mem
      rw [device]
      exact canonical.namedFor he here
    · refine (List.pairwise_map.1 distinct).imp_of_mem ?_
      intro f f' mem mem' unlike name name' named named' domains
      obtain ⟨e, he, device, here⟩ := every f mem
      obtain ⟨e', he', device', here'⟩ := every f' mem'
      have same :=
        entry_eq_of_domain_eq he he' (device ▸ named) (device' ▸ named') here here' domains
      exact unlike (by rw [device, device', same])
  · obtain ⟨e, he, device, here⟩ := located_at_address h
    rw [device]
    exact canonical.namedFor he here
  · obtain ⟨found, rfl, distinct, every⟩ := found_at_address h
    -- Two devices at the address would have one entry, but no device is found twice.
    match found with
    | [] => exact Nat.zero_le 1
    | [_] => exact Nat.le_refl 1
    | f :: f' :: _ =>
      obtain ⟨e, he, device, here⟩ := every f List.mem_cons_self
      obtain ⟨e', he', device', here'⟩ := every f' (List.mem_cons_of_mem _ List.mem_cons_self)
      have same := single.entry_eq he he' here here'
      simp [device, device', same] at distinct
  · obtain ⟨e, he, device, here⟩ := located_at_address h
    obtain ⟨name, rfl, named⟩ := single e he
    rw [named] at here device
    rw [device, text_of_address here]

/-- The name of the function at `3b:00.0` in one of ten domains. -/
def nameInDomain (last : Fin 10) : CanonicalName where
  domain := ['0', '0', '0', Nat.digitChar last]
  bus := ['3', 'b']
  device := ['0', '0']
  function := '0'
  domain_length := rfl
  bus_length := rfl
  device_length := rfl
  digits := by
    have written : Text.IsHexDigit (Nat.digitChar last) := Text.isHexDigit_digitChar (by omega)
    simp only [List.cons_append, List.nil_append, List.forall_mem_cons, written, List.not_mem_nil,
      false_implies, implies_true]
    decide

/-- The address of these functions. -/
def sharedAddress : PciAddress := ⟨⟨0x3b, by decide⟩, ⟨0, by decide⟩, ⟨0, by decide⟩⟩

/-- A C-RORC in one of the domains, its flash ready at once and erased. -/
def erasedCrorc (last : Fin 10) : Entry :=
  ⟨fileName (nameInDomain last).text,
    some [("vendor", .file "0x10dc\n".toUTF8), ("device", .file "0x0033\n".toUTF8),
      ("resource0", .file ⟨Array.replicate 164 0 ++ #[0xff, 0xff, 0, 0, 1, 0, 0, 0]⟩)]⟩

/-- A CRU in one of the domains whose registers cannot be mapped. -/
def closedCru (last : Fin 10) : Entry :=
  functionEntry (nameInDomain last).text "0x1172\n" "0xe001\n"

/-- Three cards with one address: a CRU in domain 0, and a C-RORC in two others. -/
def threeDomains : Directory :=
  ⟨[closedCru 0, erasedCrorc 1, erasedCrorc 2], by decide +kernel⟩

/-- The description of the C-RORC cards. -/
def erasedCard : Card := ⟨.crorc, none, Family.crorc.pciId, sharedAddress, -1⟩

/-- The tree of these cards. -/
def domainTree : DeviceTree := ⟨"pci", some threeDomains⟩

theorem canonical_threeDomains : Canonical threeDomains := by
  intro e he
  have cases : e = closedCru 0 ∨ e = erasedCrorc 1 ∨ e = erasedCrorc 2 := by
    simpa [threeDomains] using he
  rcases cases with rfl | rfl | rfl
  · exact ⟨nameInDomain 0, rfl⟩
  · exact ⟨nameInDomain 1, rfl⟩
  · exact ⟨nameInDomain 2, rfl⟩

/-- The devices of each family in the tree. -/
theorem devices_domainTree :
    (layer domainTree).devices Family.crorc.pciId =
      .ok [(erasedCrorc 1).name, (erasedCrorc 2).name] ∧
    (layer domainTree).devices Family.cru.pciId = .ok [(closedCru 0).name] := by
  have crorcs : (threeDomains.entries.filter fun e => idOf? e == some Family.crorc.pciId).map
      Entry.name = [(erasedCrorc 1).name, (erasedCrorc 2).name] := by decide +kernel
  have sorted : [(erasedCrorc 1).name, (erasedCrorc 2).name].mergeSort nameLe =
      [(erasedCrorc 1).name, (erasedCrorc 2).name] :=
    List.mergeSort_of_pairwise (by decide +kernel)
  refine ⟨?_, by decide +kernel⟩
  show Except.ok (List.mergeSort _ nameLe) = _
  rw [crorcs, sorted]

/-- Either C-RORC of the tree is found and located at the address. -/
theorem visits_domainTree (last : Fin 10) (h : last = 1 ∨ last = 2) :
    (layer domainTree).visitAt sharedAddress Family.crorc (erasedCrorc last).name =
      .ok (some ⟨erasedCard, (erasedCrorc last).name⟩) ∧
    (layer domainTree).visitForAddress sharedAddress Family.crorc (erasedCrorc last).name =
      .ok (some ⟨erasedCard, (erasedCrorc last).name⟩) := by
  have here : (layer domainTree).address (erasedCrorc last).name = .ok sharedAddress := by
    revert last
    decide +kernel
  have serial : (layer domainTree).serial Family.crorc (erasedCrorc last).name = .ok none := by
    rcases h with rfl | rfl <;> decide +kernel
  have numa : (layer domainTree).numaNode (erasedCrorc last).name = .ok (-1) := by
    rcases h with rfl | rfl <;> decide +kernel
  constructor
  · rw [Layer.visitAt, here]
    show (layer domainTree).entryUnlessSkipped _ _ _ = _
    rw [Layer.entryUnlessSkipped, serial]
    show ((layer domainTree).entry _ _ _ none).map some = _
    rw [Layer.entry, numa]
    rfl
  · rw [Layer.visitForAddress_of_eq here, serial, Layer.entry, numa]
    rfl

/-- The CRU is left out of the search at the address, where both C-RORC cards are found. -/
theorem found_domainTree :
    Pci.result answer (Inventory.atAddress sharedAddress) domainTree =
      .ok [erasedCard, erasedCard] := by
  obtain ⟨crorcs, crus⟩ := devices_domainTree
  obtain ⟨first, -⟩ := visits_domainTree 1 (.inl rfl)
  obtain ⟨second, -⟩ := visits_domainTree 2 (.inr rfl)
  have skipped : (layer domainTree).visitAt sharedAddress Family.cru (closedCru 0).name =
      .ok none := by
    have here : (layer domainTree).address (closedCru 0).name = .ok sharedAddress := by
      decide +kernel
    have unread : ((layer domainTree).serial Family.cru (closedCru 0).name).isOk = false := by
      decide +kernel
    rw [Layer.visitAt, here]
    show (layer domainTree).entryUnlessSkipped _ _ _ = _
    rw [Layer.entryUnlessSkipped]
    cases serial : (layer domainTree).serial Family.cru (closedCru 0).name with
    | error e => rfl
    | ok n =>
      rw [serial] at unread
      cases unread
  refine (result_search domainTree (.atAddress sharedAddress)).trans ?_
  simp only [Search.outcome, Layer.outcomes, Family.all, List.flatMap_cons, List.flatMap_nil,
    crorcs, crus, List.map_cons, List.map_nil, first, second, skipped]
  rfl

/-- The first C-RORC is located at the address. -/
theorem located_domainTree :
    Pci.result answer (Inventory.locate (.address sharedAddress)) domainTree =
      .ok ⟨erasedCard, (erasedCrorc 1).name⟩ := by
  obtain ⟨crorcs, -⟩ := devices_domainTree
  obtain ⟨-, first⟩ := visits_domainTree 1 (.inl rfl)
  refine (result_search domainTree (.locate (.address sharedAddress))).trans ?_
  simp only [Search.outcome, Search.visitFor, Layer.outcomes, Family.all, List.flatMap_cons,
    crorcs, List.map_cons, first]
  rfl

/-- The cards found are named for the address in different domains, and so is the one located. -/
theorem domainTree_at_address :
    (∃ found : List (Found FileName), [erasedCard, erasedCard] = found.map Found.card ∧
      (∀ f ∈ found, NamedFor sharedAddress f.device) ∧
      found.Pairwise fun f f' => ∀ name name' : CanonicalName,
        f.device = fileName name.text → f'.device = fileName name'.text →
        name.domain ≠ name'.domain) ∧
    NamedFor sharedAddress (erasedCrorc 1).name := by
  obtain ⟨-, -, found, located, -⟩ := devices_at_address "pci" canonical_threeDomains
  exact ⟨found sharedAddress _ found_domainTree, located sharedAddress _ located_domainTree⟩

/-- Canonical and distinct names may have one address: the search for it then gives more than one
card, and the card located there is not the one named for it in domain 0, which there is. -/
theorem domains_share_address :
    Canonical threeDomains ∧
    PciAddress.parseDirectoryName (nameInDomain 1).text = .ok sharedAddress ∧
    (nameInDomain 1).text ≠ sharedAddress.directoryName ∧
    (closedCru 0).name = fileName sharedAddress.directoryName ∧
    address (closedCru 0).name = address (erasedCrorc 1).name ∧
    Pci.result answer (Inventory.atAddress sharedAddress) domainTree =
      .ok [erasedCard, erasedCard] ∧
    ∃ found, Pci.result answer (Inventory.locate (.address sharedAddress)) domainTree = .ok found ∧
      found.device ≠ fileName sharedAddress.directoryName := by
  refine ⟨canonical_threeDomains, by decide, by decide, by decide +kernel, by decide +kernel,
    found_domainTree, _, located_domainTree, ?_⟩
  decide +kernel

end Sysfs

end ReadoutCard
