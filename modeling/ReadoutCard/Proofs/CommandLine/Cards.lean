import ReadoutCard.Proofs.CommandLine.Arguments
import ReadoutCard.Proofs.CommandLine.Outcomes
import ReadoutCard.Proofs.Inventory.Listing
import ReadoutCard.Proofs.Sysfs.Addresses
import ReadoutCard.Proofs.Sysfs.Openings

/-!
# Listed cards and what they tell of themselves

A card is shown twice: in its row of the list, with the serial number that was
read when it was found (`listCards_cases`), and by a command that searches for
it again at the address of the row and reads it through another mapping
(`exists_reading`). The card that is found there is the listed one if no two
cards have one address (`locate_listed`). What is read is the same both times
(`Reading.serial_eq`, `Reading.row_eq`): searches leave the tree as it was up
to the commands of flash controllers, and neither rows nor readings hang on
those.
-/

namespace ReadoutCard

open DeviceTree (Entry fileName)
open Sysfs (Kept Resource)

/-! ### Programs that only read -/

namespace Sysfs

variable {α : Type} {t u : DeviceTree} {p : Access α}

/-- A program that only reads leaves the tree as it is. -/
theorem run_reads (asks : p.Asks Request.IsRead) (w : Resource) (t : DeviceTree) :
    ((windowOf w).run p t).2 = t := by
  have step : ∀ q, Request.IsRead q → ∀ s s', s = t ∧ s' = t →
      ((windowOf w).answer q s).1 = ((windowOf w).answer q s').1 ∧
        ((windowOf w).answer q s).2 = t ∧ ((windowOf w).answer q s').2 = t := by
    rintro q ⟨index⟩ s s' ⟨rfl, rfl⟩
    exact ⟨rfl, rfl, rfl⟩
  exact (Dialogue.Asks.run_related step asks ⟨rfl, rfl⟩).2.1

theorem eq_of_reads (asks : p.Asks Request.IsRead) {w : Resource} {r : Except Error α}
    (ran : (windowOf w).run p t = (r, u)) : u = t := by
  have left := run_reads asks w t
  rwa [ran] at left

theorem run_access_reads (asks : p.Asks Request.IsRead) (m : Mapping Resource) (t : DeviceTree) :
    run (Pci.access m p) t = (((windowOf m.window).run p t).1, t) := by
  rw [run_access]
  exact Prod.ext rfl (run_reads asks m.window t)

/-- What a program gives hangs on the file of the window. -/
theorem run_same (p : Access α) {w : Resource}
    (same : t.file? w.device (resourceName w.bar) = u.file? w.device (resourceName w.bar)) :
    ((windowOf w).run p t).1 = ((windowOf w).run p u).1 := by
  have given := (run_onWindow_same same (ExceptT.run p)).1
  have here := run_access (⟨w, w.bar⟩ : Mapping Resource) p
  rw [← here t, ← here u]
  exact given

/-! ### Cards at distinct addresses -/

/-- No two cards of a tree have one address. -/
def DistinctAddresses (t : DeviceTree) : Prop :=
  ∀ d, t.directory = some d → ∀ e ∈ d.entries, ∀ e' ∈ d.entries, IsCard e → IsCard e' →
    ∀ a, address e.name = .ok a → address e'.name = .ok a → e = e'

section Distinct

variable {family family' : Family} {device device' : FileName} {a : PciAddress}
  {found : List (Found FileName)} {f : Found FileName}

theorem DistinctAddresses.device_eq (distinct : DistinctAddresses t)
    (listed : (layer t).Lists family device) (listed' : (layer t).Lists family' device')
    (here : address device = .ok a) (here' : address device' = .ok a) : device = device' := by
  obtain ⟨root, _ | d⟩ := t
  · obtain ⟨-, _, none, -⟩ := listed
    cases none
  · obtain ⟨known, _, names, mem⟩ := listed
    obtain ⟨known', _, names', mem'⟩ := listed'
    obtain ⟨e, he, rfl, identity⟩ := exists_entry root names mem
    obtain ⟨e', he', rfl, identity'⟩ := exists_entry root names' mem'
    rw [distinct d rfl e he e' he' ⟨family, known, idOf?_eq_some_iff.1 identity⟩
      ⟨family', known', idOf?_eq_some_iff.1 identity'⟩ a here here']

/-- A listed card is that of a listed device. -/
theorem exists_isEntry
    (listed : collected ((layer t).outcomes (layer t).visit Family.all) = .ok found)
    (mem : f ∈ found) : ∃ family, (layer t).Lists family f.device ∧
      (layer t).IsEntry (family, f.device) f := by
  obtain ⟨length, entries⟩ := List.forall₂_iff_get.1 (Layer.entries_of_collected listed)
  obtain ⟨i, rfl⟩ := List.mem_iff_get.1 mem
  have inside := Nat.lt_of_lt_of_eq i.isLt length.symm
  obtain ⟨⟨family, device⟩, visited, entry⟩ :
      ∃ p ∈ ((layer t).pairs Family.all).filter (layer t).readable,
        (layer t).IsEntry p (found.get i) :=
    ⟨_, List.get_mem _ ⟨i, inside⟩, entries i inside i.isLt⟩
  obtain rfl : (found.get i).device = device := entry.device
  exact ⟨family, Layer.mem_pairs_iff.1 (List.mem_of_mem_filter visited), entry⟩

/-- A device is described by its entry. -/
theorem entry_of_isEntry {layer : Layer FileName} (entry : layer.IsEntry (family, device) f) :
    layer.entry family device f.card.address ((layer.serial family device).toOption.getD none) =
      .ok f := by
  have read : layer.serial family device = .ok f.card.serial := entry.serial
  have told : layer.numaNode device = .ok f.card.numaNode := entry.numaNode
  have type : f.card.type = family.type := entry.type
  have pciId : f.card.pciId = family.pciId := entry.pciId
  have itself : f.device = device := entry.device
  rw [read, Layer.entry, told, ← type, ← pciId, ← itself]
  rfl

/-- A listed card is the one that is found at its address. -/
theorem locate_listed (distinct : DistinctAddresses t)
    (listed : collected ((layer t).outcomes (layer t).visit Family.all) = .ok found)
    (mem : f ∈ found) (h : Kept t u) :
    (run (Inventory.locate (.address f.card.address)) u).1 = .ok f := by
  obtain ⟨family, lists, entry⟩ := exists_isEntry listed mem
  obtain ⟨family', device', first⟩ : ∃ family device,
      (layer t).firstAt f.card.address = some (family, device) := by
    obtain ⟨known, names, named, mem⟩ := lists
    exact Layer.occupied_iff.1 ⟨family, known, names, named, f.device, mem, entry.address⟩
  obtain ⟨lists', here'⟩ := Layer.lists_of_firstAt first
  obtain rfl := distinct.device_eq lists' lists here' entry.address
  obtain rfl := family_of_lists lists' lists
  refine (Inventory.result_locate_address (describes t) h listed f.card.address).trans ?_
  rw [first]
  exact entry_of_isEntry entry

end Distinct

end Sysfs

namespace CommandLine

open Sysfs (DistinctAddresses erasedCard erasedCrorc sharedAddress)

/-! ### The printed lines -/

/-- The line of a row with its number, column by column. -/
def rowLine (number : Nat) (row : CardRow) : String :=
  Text.padRight 3 (toString number) ++ " " ++ row.card.type.name ++ " " ++ row.card.address.text ++
    " 0x" ++ Text.hexPadded 4 row.card.pciId.vendor.toNat ++
    "  0x" ++ Text.hexPadded 4 row.card.pciId.device.toNat ++
    "  " ++ Text.padRight 5 (toString row.card.numaNode) ++
    " " ++ Text.padRight 8 ((row.card.serial.map toString).getD "n/a") ++
    " " ++ Text.padRight 26 (row.firmware.getD "n/a") ++ " " ++ row.chip.getD "n/a"

/-- The lines of a list of cards. -/
def listLines (rows : List CardRow) : List String :=
  ["#   Type   PCI Addr Vendor  Device  NUMA  Serial   Firmware                   Card ID",
    String.ofList (List.replicate 96 '-')] ++ rows.mapIdx rowLine ++
    ["", "Found " ++ toString rows.length ++ " card(s)"]

/-- The line of a labelled value. -/
def fieldLine (label value : String) : String := Text.padRight 13 label ++ ": " ++ value

/-- The first lines of what is told of a card. -/
def infoLines (card : Card) (serial : Option Int) (temperature : String)
    (firmware chip : Option String) : List String :=
  [fieldLine "Card type" card.type.name, fieldLine "PCI address" card.address.text,
    fieldLine "PCI ID" card.pciId.text, fieldLine "NUMA node" (toString card.numaNode),
    fieldLine "Serial" ((serial.map toString).getD "n/a"), fieldLine "Temperature" temperature,
    fieldLine "Firmware" (firmware.getD "n/a"), fieldLine "Card ID" (chip.getD "n/a")]

theorem orNone_eq {α : Type} (text : α → String) (value : Option α) :
    orNone text value = (value.map text).getD "n/a" := by
  cases value <;> rfl

theorem cardHeading_eq : cardHeading =
    "#   Type   PCI Addr Vendor  Device  NUMA  Serial   Firmware                   Card ID" := by
  cbv

theorem text_eq_rowLine : CardRow.text = rowLine := by
  funext number row
  unfold CardRow.text rowLine
  simp only [orNone_eq, Option.map_id_apply]

theorem listLines_eq (rows : List CardRow) : listLines rows =
    [cardHeading, cardRule] ++ rows.mapIdx CardRow.text ++ ["", cardCount rows.length] := by
  rw [listLines, cardHeading_eq, text_eq_rowLine]
  rfl

/-! ### Listing cards -/

section Listing

variable {f : Found FileName}

/-- The texts of a CRU are read, and nothing else is done. -/
theorem run_supportTexts (cru : f.card.type = .cru) (t : DeviceTree) :
    Sysfs.run (supportTexts f) t = match Sysfs.map t f.device cruSupportBar with
      | .error e => (.error e, t)
      | .ok m =>
        let w := Sysfs.windowOf m.window
        let b : Binding := ⟨f.card.type, m.bar⟩
        ((w.run (Cru.firmwareInfo b) t).1 >>= fun firmware =>
          (w.run (Cru.chipId b) t).1 >>= fun chip => .ok (firmware, chip), t) := by
  rw [supportTexts, if_pos cru, Sysfs.run_bind, Sysfs.run_map]
  cases Sysfs.map t f.device cruSupportBar with
  | error e => rfl
  | ok m =>
    simp only [Sysfs.run_bind, Sysfs.run_access_reads (Cru.asks_firmwareInfo _),
      Sysfs.run_access_reads (Cru.asks_chipId _)]
    cases ((Sysfs.windowOf m.window).run (Cru.firmwareInfo ⟨f.card.type, m.bar⟩) t).1 with
    | error e => rfl
    | ok firmware =>
      simp only
      cases ((Sysfs.windowOf m.window).run (Cru.chipId ⟨f.card.type, m.bar⟩) t).1 with
      | error e => rfl
      | ok chip => rfl

theorem run_supportTexts_snd (f : Found FileName) (t : DeviceTree) :
    (Sysfs.run (supportTexts f) t).2 = t := by
  by_cases cru : f.card.type = .cru
  · rw [run_supportTexts cru]
    cases Sysfs.map t f.device cruSupportBar with
    | error e => rfl
    | ok m => rfl
  · rw [supportTexts, if_neg cru]
    rfl

/-- The row of a card in the list. -/
def rowOf (t : DeviceTree) (f : Found FileName) : CardRow :=
  let (firmware, chip) := (Sysfs.run (supportTexts f) t).1.toOption.getD (none, none)
  ⟨f.card, firmware, chip⟩

theorem run_printCards (number : Nat) (found : List (Found FileName)) (h : Host) :
    Console.run Host.answer (printCards number found) h =
      (.ok (), h.printing ((found.map (rowOf h.tree)).mapIdx fun k row =>
        CardRow.text (number + k) row)) := by
  induction found generalizing number h with
  | nil => rfl
  | cons f rest ih =>
    have texts : Console.run Host.answer (Console.query (Pci.attempt (supportTexts f))) h =
        (.ok (Sysfs.run (supportTexts f) h.tree).1, h) := by
      rw [Console.run_query_host, Sysfs.run_attempt, run_supportTexts_snd]
      rfl
    rw [printCards, Console.run_bind_of_ok _ texts]
    simp only
    rw [Console.run_bind_of_ok _ (Console.run_print ..)]
    refine (ih (number + 1) _).trans ?_
    rw [List.map_cons, List.mapIdx_cons]
    simp [Host.printing, Host.answer, rowOf, Nat.add_assoc, Nat.add_comm 1]

/-- Listing the cards fails, or prints a row for each card that is found. -/
theorem listCards_cases (h : Host) :
    Fails .listCards h ∨ ∃ found v, Kept h.tree v ∧
      collected ((Sysfs.layer h.tree).outcomes (Sysfs.layer h.tree).visit Family.all) = .ok found ∧
      Prints .listCards h (listLines (found.map (rowOf v))) ∧
      (Command.listCards.outcome h).2.tree = v := by
  have asked := Console.run_query_host Search.all.query h
  have searched := Inventory.gives_search (Sysfs.describes h.tree) .all h.tree (.refl _)
  have gives : (Sysfs.run Search.all.query h.tree).1 =
      collected ((Sysfs.layer h.tree).outcomes (Sysfs.layer h.tree).visit Family.all) := searched.1
  have kept : Kept h.tree (Sysfs.run Search.all.query h.tree).2 := searched.2
  generalize Sysfs.run Search.all.query h.tree = result at asked gives kept
  obtain ⟨e | found, v⟩ := result
  · exact .inl (fails_of_run kept (Console.run_bind_of_error _ asked _))
  · have ran : Console.run Host.answer Command.listCards.run h =
        (.ok (), (h.withTree v).printing (listLines (found.map (rowOf v)))) := by
      refine (Console.run_bind_of_ok _ asked _).trans ?_
      rw [Console.run_bind_of_ok _ (Console.run_print ..),
        Console.run_bind_of_ok _ (Console.run_print ..),
        Console.run_bind_of_ok _ (run_printCards ..),
        Console.run_bind_of_ok _ (Console.run_print ..), Console.run_print]
      simp [listLines_eq, Host.answer, Host.printing, Host.withTree]
    refine .inr ⟨found, v, kept, gives.symm, prints_of_run ran rfl, ?_⟩
    rw [outcome_of_run ran]
    rfl

end Listing

/-! ### What a card tells of itself -/

/-- What a card tells in a tree, read one after the other through one mapping. -/
structure Reading (t : DeviceTree) (f : Found FileName) where
  mapping : Mapping Resource
  accessors : Accessors
  serial : Option Int
  temperature : Option Cru.Temperature
  firmware : Option String
  chip : Option String
  afterSerial : DeviceTree
  afterTemperature : DeviceTree
  afterFirmware : DeviceTree
  after : DeviceTree
  mapped : Sysfs.map t f.device (supportBar f.card.type) = .ok mapping
  typed : Accessors.ofType f.card.type mapping.bar = .ok accessors
  serial_read : (Sysfs.windowOf mapping.window).run accessors.serial t = (.ok serial, afterSerial)
  temperature_read : (Sysfs.windowOf mapping.window).run accessors.temperature afterSerial =
    (.ok temperature, afterTemperature)
  firmware_read : (Sysfs.windowOf mapping.window).run accessors.firmwareInfo afterTemperature =
    (.ok firmware, afterFirmware)
  chip_read : (Sysfs.windowOf mapping.window).run accessors.chipId afterFirmware = (.ok chip, after)

/-- The lines of a reading. -/
def Reading.lines {t : DeviceTree} {f : Found FileName} (r : Reading t f) : List String :=
  infoLines f.card r.serial (orNone (fun t => t.text ++ " °C") r.temperature) r.firmware r.chip

section Info

variable {α β : Type} {g after : Host} {f : Found FileName} {a : PciAddress} {v : DeviceTree}

theorem run_printField (label value : String) (h : Host) :
    Console.run Host.answer (printField label value) h =
      (.ok (), h.printing [fieldLine label value]) := rfl

/-- A value that is read and printed. -/
theorem run_field {m : Mapping Resource} {p : Access α} {text : α → String} {label : String}
    {next : Unit → Console FileName Resource β} {b : β}
    (ran : Console.run Host.answer (do
      let x ← Console.access m p
      let u ← printField label (text x)
      next u) g = (.ok b, after)) :
    ∃ x t, (Sysfs.windowOf m.window).run p g.tree = (.ok x, t) ∧
      Console.run Host.answer (next ()) ((g.withTree t).printing [fieldLine label (text x)]) =
        (.ok b, after) := by
  obtain ⟨x, s, read, ran⟩ := (Console.run_bind_eq_ok _).1 ran
  rw [Console.run_access_host] at read
  rcases accessed : (Sysfs.windowOf m.window).run p g.tree with ⟨e | y, t⟩
  · rw [accessed] at read
    cases read
  · rw [accessed] at read
    cases read
    refine ⟨x, t, rfl, ?_⟩
    rwa [Console.run_bind_of_ok _ (run_printField ..)] at ran

theorem run_ofFound (f : Found FileName) (bar : Nat) (v : DeviceTree) :
    Sysfs.run (MappedCard.ofFound f bar) v =
      ((Sysfs.map v f.device bar).map fun m => ⟨f.card, m⟩, v) := by
  rw [MappedCard.ofFound, Sysfs.run_bind, Sysfs.run_map]
  cases Sysfs.map v f.device bar with
  | error e => rfl
  | ok m => rfl

theorem ofType_of_accessors {card : Card} {m : Mapping Resource} {x : Accessors}
    (typed : (MappedCard.mk card m).accessors.mapError Failure.ofError = .ok x) :
    Accessors.ofType card.type m.bar = .ok x := by
  revert typed
  unfold MappedCard.accessors
  cases Accessors.ofType card.type m.bar with
  | error e => nofun
  | ok y =>
    rintro ⟨⟩
    rfl

/-- Telling of a card that is located prints its reading. -/
theorem exists_reading
    (located : Sysfs.run (Inventory.locate (.address a)) g.tree = (.ok f, v))
    (ran : Console.run Host.answer (Command.info ⟨.address a, none⟩).run g = (.ok (), after)) :
    ∃ (r : Reading v f) (rest : List String),
      after.printed = (r.lines ++ rest).reverse ++ g.printed := by
  have found := Console.run_query_host (Inventory.locate (.address a)) g
  rw [located] at found
  have chosen : Console.run Host.answer (Console.ofExcept (infoBar f.card.type none))
      (g.withTree v) = (.ok (supportBar f.card.type), g.withTree v) := rfl
  rw [Command.run, info, Console.run_bind_of_ok _ found, Console.run_bind_of_ok _ chosen] at ran
  obtain ⟨s, g₁, opened, ran⟩ := (Console.run_bind_eq_ok _).1 ran
  have tree : (g.withTree v).tree = v := rfl
  rw [Console.queryFor, Console.run_queryAs_host, run_ofFound, tree] at opened
  cases mapped : Sysfs.map v f.device (supportBar f.card.type) with
  | error e =>
    rw [mapped] at opened
    cases opened
  | ok m =>
    rw [mapped] at opened
    cases opened
    rw [Console.run_bind_of_ok _ (run_printField ..), Console.run_bind_of_ok _ (run_printField ..),
      Console.run_bind_of_ok _ (run_printField ..), Console.run_bind_of_ok _ (run_printField ..)]
      at ran
    obtain ⟨x, g₂, typed, ran⟩ := (Console.run_bind_eq_ok _).1 ran
    rw [Console.run_ofExcept] at typed
    obtain ⟨kind, rfl⟩ := Prod.mk.inj typed
    obtain ⟨serial, t₁, serial_read, ran⟩ := run_field ran
    obtain ⟨temperature, t₂, temperature_read, ran⟩ := run_field ran
    obtain ⟨firmware, t₃, firmware_read, ran⟩ := run_field ran
    obtain ⟨chip, t₄, chip_read, ran⟩ := run_field ran
    obtain ⟨rest, printed⟩ := exists_printed_of_run ran
    refine ⟨⟨m, x, serial, temperature, firmware, chip, t₁, t₂, t₃, t₄, mapped,
      ofType_of_accessors kind, serial_read, temperature_read, firmware_read, chip_read⟩, rest, ?_⟩
    rw [printed]
    simp [Reading.lines, infoLines, orNone_eq, Host.printing, Host.withTree]

section Rows

variable {t u : DeviceTree} {family : Family}

/-- The serial number of a listed card is read again as it was listed. -/
theorem serial_again {m : Mapping Resource} {serial : Option Int} {t₁ : DeviceTree}
    (lists : (Sysfs.layer t).Lists family f.device)
    (entry : (Sysfs.layer t).IsEntry (family, f.device) f) (h : Kept t u)
    (mapped : Sysfs.map u f.device family.serial.bar = .ok m)
    (read : (Sysfs.windowOf m.window).run (family.serial.read m.bar) u = (.ok serial, t₁)) :
    serial = f.card.serial := by
  have listed : (Sysfs.layer t).serial family f.device = .ok f.card.serial := entry.serial
  have again : Sysfs.run (Inventory.serialOf family f.device) u = (.ok serial, t₁) := by
    rw [Inventory.serialOf, Sysfs.run_bind, Sysfs.run_map, mapped]
    exact (Sysfs.run_access ..).trans read
  have same : (Sysfs.run (Inventory.serialOf family f.device) u).1 = .ok f.card.serial :=
    ((Sysfs.describes t).serial family f.device lists u h).1.trans listed
  rw [again] at same
  exact Except.ok.inj same

theorem Reading.serial_eq (r : Reading u f) (lists : (Sysfs.layer t).Lists family f.device)
    (entry : (Sysfs.layer t).IsEntry (family, f.device) f) (hu : Kept t u) :
    r.serial = f.card.serial := by
  obtain ⟨m, x, serial, -, -, -, t₁, -, -, -, mapped, typed, read, -, -, -⟩ := r
  have type : f.card.type = family.type := entry.type
  rw [type] at mapped typed
  rcases Family.mem_all_iff.1 lists.1 with rfl | rfl
  · cases typed
    exact serial_again lists entry hu mapped read
  · cases typed
    exact serial_again lists entry hu mapped read

/-- The texts of a listed CRU are read again as the list shows them. Nothing is written on the way,
so that all is read from the tree as it was. -/
theorem Reading.texts_eq (r : Reading u f) (lists : (Sysfs.layer t).Lists Family.cru f.device)
    (type : f.card.type = .cru) (hu : Kept t u) (hv : Kept t v) :
    (Sysfs.run (supportTexts f) v).1 = .ok (r.firmware, r.chip) := by
  obtain ⟨m, x, serial, temperature, firmware, chip, t₁, t₂, t₃, t₄, mapped, typed, serial_read,
    temperature_read, firmware_read, chip_read⟩ := r
  rw [type] at mapped typed
  cases typed
  obtain rfl := Sysfs.eq_of_reads (Cru.asks_serial _) serial_read
  obtain rfl := Sysfs.eq_of_reads (Cru.asks_temperature _) temperature_read
  obtain rfl := Sysfs.eq_of_reads (Cru.asks_firmwareInfo _) firmware_read
  obtain rfl := Sysfs.window_of_map mapped
  have file : v.file? f.device (Sysfs.resourceName cruSupportBar) =
      t₃.file? f.device (Sysfs.resourceName cruSupportBar) :=
    (hv.file?_of_cru lists _).trans (hu.file?_of_cru lists _).symm
  have mapped' : Sysfs.map v f.device cruSupportBar = .ok _ :=
    ((hv.map _ _).trans (hu.map _ _).symm).trans mapped
  let w := Sysfs.windowOf ⟨f.device, supportBar .cru⟩
  let b : Binding := ⟨.cru, supportBar .cru⟩
  have firmware_again : (w.run (Cru.firmwareInfo b) v).1 = .ok firmware :=
    (Sysfs.run_same _ file).trans (congrArg Prod.fst firmware_read)
  have chip_again : (w.run (Cru.chipId b) v).1 = .ok chip :=
    (Sysfs.run_same _ file).trans (congrArg Prod.fst chip_read)
  rw [run_supportTexts type, mapped']
  simp only [type]
  rw [firmware_again, chip_again]
  rfl

/-- What a listed card tells of itself is what its row shows. -/
theorem Reading.row_eq (r : Reading u f) (lists : (Sysfs.layer t).Lists family f.device)
    (entry : (Sysfs.layer t).IsEntry (family, f.device) f) (hu : Kept t u) (hv : Kept t v) :
    rowOf v f = ⟨f.card, r.firmware, r.chip⟩ := by
  have type : f.card.type = family.type := entry.type
  rcases Family.mem_all_iff.1 lists.1 with rfl | rfl
  · -- there are no texts on a C-RORC
    obtain ⟨m, x, serial, temperature, firmware, chip, t₁, t₂, t₃, t₄, mapped, typed, -, -,
      firmware_read, chip_read⟩ := r
    rw [type] at typed
    cases typed
    cases firmware_read
    cases chip_read
    rw [rowOf, supportTexts, if_neg (by rw [type]; decide)]
    rfl
  · rw [rowOf, r.texts_eq lists type hu hv]
    rfl

end Rows

end Info

/-! ### Asking for a card by its address -/

/-- The arguments that ask for what the card at an address tells. -/
theorem parse_info (a : PciAddress) : parse ["info", "--id", a.text] =
    .ok (.command (.info ⟨.address a, none⟩)) := by
  have plain : '-' ∉ a.text.toList := by
    intro dash
    rcases PciAddress.isHexDigit_of_mem_text dash with digit | colon | dot
    · exact absurd digit (by decide)
    · exact absurd colon (by decide)
    · exact absurd dot (by decide)
  have read : OptionName.id.read a.text = .ok (CardId.address a) := by
    simp only [OptionName.read, CardId.parse_written]
    rfl
  exact (parse_command_eq_ok_iff (c := .info)).2
    ⟨_, Scan.words_apart rfl rfl (by decide) read plain [], rfl⟩

/-- **A card tells of itself what its row in the list shows.** Listing the cards fails, or prints a
row for each card that is found. If no two cards have one address, then asking for the card at the
address of a row, in this tree or as searches leave it, tells, if it succeeds, the type, the
address, the identity, the NUMA node, the serial number, the firmware and the chip that the row
shows. -/
theorem info_of_row (h : Host) (distinct : DistinctAddresses h.tree) :
    run ["list-cards"] h = Command.listCards.outcome h ∧
    (Fails .listCards h ∨ ∃ rows : List CardRow,
      Pci.result Sysfs.answer Inventory.cards h.tree = .ok (rows.map CardRow.card) ∧
      Prints .listCards h (listLines rows) ∧ Kept h.tree (Command.listCards.outcome h).2.tree ∧
      ∀ row ∈ rows,
        let info := Command.info ⟨.address row.card.address, none⟩
        (∀ g, run ["info", "--id", row.card.address.text] g = info.outcome g) ∧
        ∀ g : Host, Kept h.tree g.tree → (info.outcome g).1.exitCode = 0 →
          ∃ (temperature : String) (rest : List String), Prints info g
            (infoLines row.card row.card.serial temperature row.firmware row.chip ++ rest)) := by
  refine ⟨run_of_parse rfl h, ?_⟩
  obtain fails | ⟨found, v, left, listed, prints, rfl⟩ := listCards_cases h
  · exact .inl fails
  have cards : (found.map (rowOf (Command.listCards.outcome h).2.tree)).map CardRow.card =
      found.map Found.card := by
    rw [List.map_map]
    rfl
  refine .inr ⟨found.map (rowOf _), ?_, prints, left, ?_⟩
  · rw [cards]
    refine (Sysfs.result_search h.tree .cards).trans ?_
    rw [Search.outcome, listed]
    rfl
  intro row shown
  obtain ⟨f, mem, rfl⟩ := List.mem_map.1 shown
  refine ⟨fun g => run_of_parse (parse_info _) g, fun g kept success => ?_⟩
  obtain ⟨after, ran⟩ := exists_run_of_exit success
  obtain ⟨family, lists, entry⟩ := Sysfs.exists_isEntry listed mem
  have searched := Inventory.gives_search (Sysfs.describes h.tree)
    (.locate (.address f.card.address)) g.tree kept
  have located : Sysfs.run (Inventory.locate (.address f.card.address)) g.tree = (.ok f, _) :=
    Prod.ext (Sysfs.locate_listed distinct listed mem kept) rfl
  obtain ⟨r, rest, printed⟩ := exists_reading located ran
  rw [Reading.lines, r.serial_eq lists entry searched.2] at printed
  rw [r.row_eq lists entry searched.2 left]
  exact ⟨_, rest, prints_of_run ran printed⟩

/-- A CRU whose firmware tells only what it is. -/
def firmwareCru : Entry :=
  ⟨fileName "0000:3c:00.0",
    some [("vendor", .file "0x1172\n".toUTF8), ("device", .file "0xe001\n".toUTF8),
      ("numa_node", .file "1\n".toUTF8),
      ("resource2", .file (LittleEndian.ofWords
        ([0, 0xabcdef, 0x20240131, 0x123456] ++ List.replicate 0x103 0 ++ [0x5afe0017])))]⟩

/-- A host with a CRU and a C-RORC. -/
def twoCards : Host where
  workingDirectory := []
  treePlace := ["sys"]
  tree := ⟨"/sys", some (.ofList [firmwareCru, erasedCrorc (Fin.last 9)])⟩
  saved := []
  printed := []

theorem distinctAddresses_twoCards : DistinctAddresses twoCards.tree := by
  have apart : Sysfs.address firmwareCru.name ≠ Sysfs.address (erasedCrorc (Fin.last 9)).name := by
    decide +kernel
  rintro d ⟨⟩ e he e' he' - - a here here'
  simp only [DeviceTree.Directory.ofList, DeviceTree.keepFirst, List.mem_cons, List.mem_filter,
    List.filter_nil, List.not_mem_nil, or_false] at he he'
  rcases he with rfl | ⟨rfl, -⟩
  · rcases he' with rfl | ⟨rfl, -⟩
    · rfl
    · exact absurd (here.trans here'.symm) apart
  · rcases he' with rfl | ⟨rfl, -⟩
    · exact absurd (here'.trans here.symm) apart
    · rfl

/-- The list of the two cards, and what the first of them tells of itself. -/
theorem info_of_listed_crorc :
    ∃ (row : CardRow) (rows : List CardRow), row.card = erasedCard ∧
      Prints .listCards twoCards (listLines (row :: rows)) ∧
      Prints .listCards twoCards [
        "#   Type   PCI Addr Vendor  Device  NUMA  Serial   Firmware                   Card ID",
        String.ofList (List.replicate 96 '-'),
        "0   CRORC 3b:00.0 0x10dc  0x0033  -1    n/a      n/a                        n/a",
        "1   CRU 3c:00.0 0x1172  0xe001  1     n/a      20240131-123456-abcdef     n/a",
        "", "Found 2 card(s)"] ∧
      let info := Command.info ⟨.address sharedAddress, none⟩
      (∃ (temperature : String) (rest : List String), Prints info twoCards
        (infoLines erasedCard none temperature row.firmware row.chip ++ rest)) ∧
      Prints info twoCards ["Card type    : CRORC", "PCI address  : 3b:00.0",
        "PCI ID       : 10dc:0033", "NUMA node    : -1", "Serial       : n/a",
        "Temperature  : n/a", "Firmware     : n/a", "Card ID      : n/a",
        "Links        : n/a", "Dropped pkts : n/a"] := by
  have listed : (Command.listCards.outcome twoCards).1.exitCode = 0 := by decide +kernel
  have told : ((Command.info ⟨.address sharedAddress, none⟩).outcome twoCards).1.exitCode = 0 := by
    decide +kernel
  have first : ((Pci.result Sysfs.answer Inventory.cards twoCards.tree).map List.head?) =
      .ok (some erasedCard) := by
    decide +kernel
  obtain ⟨-, fails | ⟨rows, found, prints, -, tells⟩⟩ :=
    info_of_row twoCards distinctAddresses_twoCards
  · exact absurd (fails.exit.symm.trans listed) (by decide)
  rw [found] at first
  cases rows with
  | nil => cases first
  | cons row rows =>
    have card : row.card = erasedCard := Option.some.inj (Except.ok.inj first)
    have tell := (tells row List.mem_cons_self).2 twoCards (.refl _)
    rw [card] at tell
    exact ⟨row, rows, card, prints, ⟨listed, by decide +kernel⟩, tell told,
      ⟨told, by decide +kernel⟩⟩

end CommandLine

end ReadoutCard
