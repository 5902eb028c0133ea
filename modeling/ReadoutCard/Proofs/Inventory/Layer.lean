import ReadoutCard.Inventory
import ReadoutCard.Proofs.Traces

/-!
# PCI layers whose answers do not change

A `Layer` is what such a layer tells, as tables: the devices of an identity, a
device's address and NUMA node, and the serial number that its mapped BAR
holds. `Layer.Describes` says of a partner that it answers so in every state
out of a set that requests do not leave. The state may still change: reading a
serial number out of flash writes registers.

`DescribesListed` asks less: a serial number is read only of a device that is
listed for the family. The searches need no more, and where reading one writes
registers, it matters which devices they are.

`Gives` is the value of a query over such a partner, and goes through `>>=`.
`Fixture` is the plainest such partner, whose mappings always show the same
contents afresh (`Fixture.describes`).
-/

namespace ReadoutCard

open Pci (Query)

variable {H W α β σ : Type}

/-- The result of a query. -/
def Pci.result (answer : (q : Pci.Request H W) → σ → Pci.Answer q × σ) (q : Query H W α) (s : σ) :
    Except Error α :=
  (Dialogue.run answer (ExceptT.run q) s).1

/-- From every state out of `steady` the result of the query is `r`, and the state stays there. -/
def Gives (answer : (q : Pci.Request H W) → σ → Pci.Answer q × σ) (steady : σ → Prop)
    (q : Query H W α) (r : Except Error α) : Prop :=
  ∀ s, steady s → Pci.result answer q s = r ∧ steady (Dialogue.run answer (ExceptT.run q) s).2

/-- What a PCI layer with fixed answers tells. -/
structure Layer (H : Type) where
  devices : PciId → Except Error (List H)
  address : H → Except Error PciAddress
  numaNode : H → Except Error Int
  /-- What mapping the BAR with the serial number and reading it gives. -/
  serial : Family → H → Except Error (Option Int)

/-- The partner answers as the tables say, in whatever order it is asked. -/
structure Layer.Describes (layer : Layer H)
    (answer : (q : Pci.Request H W) → σ → Pci.Answer q × σ) (steady : σ → Prop) : Prop where
  devices : ∀ id, Gives answer steady (Pci.devices id) (layer.devices id)
  address : ∀ device, Gives answer steady (Pci.address device) (layer.address device)
  numaNode : ∀ device, Gives answer steady (Pci.numaNode device) (layer.numaNode device)
  serial : ∀ family ∈ Family.all, ∀ device,
    Gives answer steady (Inventory.serialOf family device) (layer.serial family device)
  warn : ∀ warning, Gives answer steady (Pci.warn warning) (.ok ())

theorem Family.mem_all_iff {family : Family} :
    family ∈ Family.all ↔ family = Family.crorc ∨ family = Family.cru := by simp [Family.all]

/-- The device is listed for a family that is searched. -/
def Layer.Lists (layer : Layer H) (family : Family) (device : H) : Prop :=
  family ∈ Family.all ∧ ∃ devices, layer.devices family.pciId = .ok devices ∧ device ∈ devices

/-- The partner answers as the tables say, as long as serial numbers are read of devices that are
listed for their family. -/
structure Layer.DescribesListed (layer : Layer H)
    (answer : (q : Pci.Request H W) → σ → Pci.Answer q × σ) (steady : σ → Prop) : Prop where
  devices : ∀ id, Gives answer steady (Pci.devices id) (layer.devices id)
  address : ∀ device, Gives answer steady (Pci.address device) (layer.address device)
  numaNode : ∀ device, Gives answer steady (Pci.numaNode device) (layer.numaNode device)
  serial : ∀ family device, layer.Lists family device →
    Gives answer steady (Inventory.serialOf family device) (layer.serial family device)
  warn : ∀ warning, Gives answer steady (Pci.warn warning) (.ok ())

theorem Layer.Describes.listed {layer : Layer H}
    {answer : (q : Pci.Request H W) → σ → Pci.Answer q × σ} {steady : σ → Prop}
    (h : layer.Describes answer steady) : layer.DescribesListed answer steady :=
  { h with serial := fun family device listed => h.serial family listed.1 device }

namespace Gives

variable {answer : (q : Pci.Request H W) → σ → Pci.Answer q × σ} {steady : σ → Prop}

theorem pure (a : α) : Gives answer steady (pure a) (.ok a) := fun _ hs => ⟨rfl, hs⟩

theorem throw (e : Error) : Gives answer steady (throw e : Query H W α) (.error e) :=
  fun _ hs => ⟨rfl, hs⟩

theorem bind {q : Query H W α} {f : α → Query H W β} {r : Except Error α} {g : α → Except Error β}
    (hq : Gives answer steady q r) (hf : ∀ a, r = .ok a → Gives answer steady (f a) (g a)) :
    Gives answer steady (q >>= f) (r >>= g) := by
  intro s hs
  obtain ⟨result, stays⟩ := hq s hs
  have run := Dialogue.run_except_bind answer q f s
  unfold Pci.result at result ⊢
  rw [run]
  generalize Dialogue.run answer (ExceptT.run q) s = x at result stays
  obtain ⟨y, s₁⟩ := x
  cases result
  cases y with
  | ok a => exact hf a rfl s₁ stays
  | error e => exact ⟨rfl, stays⟩

/-- A failure that is taken as a value gives no failure. -/
theorem attempt {q : Query H W α} {r : Except Error α} (hq : Gives answer steady q r) :
    Gives answer steady (Pci.attempt q) (.ok r) := by
  intro s hs
  obtain ⟨result, stays⟩ := hq s hs
  unfold Pci.result at result ⊢
  rw [Pci.attempt, ExceptT.run_lift, Dialogue.run_map, result]
  exact ⟨rfl, stays⟩

end Gives

/-! ### Layers whose mappings show the same contents afresh -/

/-- A PCI layer given by tables, that of mapped contents included. -/
structure Fixture (H C : Type) where
  devices : PciId → Except Error (List H)
  address : H → Except Error PciAddress
  numaNode : H → Except Error Int
  /-- The contents that a mapping of a BAR starts with, and the BAR that it reports. -/
  map : H → Nat → Except Error (Mapping C)
  /-- How mapped contents answer accesses. -/
  window : Window C

namespace Fixture

variable {C : Type}

/-- The layer as a partner: windows are named by their place in the list of all mapped contents. -/
def answer (fixture : Fixture H C) : (q : Pci.Request H Nat) → List C → Pci.Answer q × List C
  | .devices id, s => (fixture.devices id, s)
  | .address device, s => (fixture.address device, s)
  | .numaNode device, s => (fixture.numaNode device, s)
  | .map device bar, s => match fixture.map device bar with
    | .ok m => (.ok ⟨s.length, m.bar⟩, s ++ [m.window])
    | .error e => (.error e, s)
  | .access place (.read index), s => match s[place]? with
    | some contents =>
      let (r, contents) := fixture.window.read index contents
      (r, s.set place contents)
    | none => (.error (.pci "no window"), s)
  | .access place (.write index value), s => match s[place]? with
    | some contents =>
      let (r, contents) := fixture.window.write index value contents
      (r, s.set place contents)
    | none => (.error (.pci "no window"), s)
  | .warn _, s => ((), s)

/-- What the layer tells. -/
def layer (fixture : Fixture H C) : Layer H where
  devices := fixture.devices
  address := fixture.address
  numaNode := fixture.numaNode
  serial family device := do
    let m ← fixture.map device family.serial.bar
    (fixture.window.run (family.serial.read m.bar) m.window).1

theorem answer_access (fixture : Fixture H C) {s : List C} {place : Nat} {contents : C}
    (h : s[place]? = some contents) (q : Register.Request) :
    fixture.answer (.access place q) s =
      ((fixture.window.answer q contents).1, s.set place (fixture.window.answer q contents).2) := by
  cases q <;> simp [answer, h, Window.answer]

/-- Accesses to a mapped window are accesses to its contents, whatever else is mapped. -/
theorem run_onWindow (fixture : Fixture H C) (d : Dialogue Register.Request Register.Answer α)
    {s : List C} {place : Nat} {contents : C} (h : s[place]? = some contents) :
    (Dialogue.run fixture.answer (Pci.onWindow place d) s).1 =
      (Dialogue.run fixture.window.answer d contents).1 := by
  unfold Pci.onWindow
  induction d generalizing s contents with
  | done a => rfl
  | ask q next ih =>
    have place_lt : place < s.length := (List.getElem?_eq_some_iff.1 h).1
    rw [Dialogue.through, Dialogue.run_bind]
    simp only [Dialogue.request, Dialogue.run, answer_access fixture h q]
    exact ih _ (List.getElem?_set_self place_lt)

/-- Such a layer answers the same in every state. -/
theorem describes (fixture : Fixture H C) :
    fixture.layer.Describes fixture.answer fun _ => True where
  devices _ _ _ := ⟨rfl, trivial⟩
  address _ _ _ := ⟨rfl, trivial⟩
  numaNode _ _ _ := ⟨rfl, trivial⟩
  warn _ _ _ := ⟨rfl, trivial⟩
  serial family _ device s _ := by
    refine ⟨?_, trivial⟩
    have run := Dialogue.run_except_bind fixture.answer (Pci.map device family.serial.bar)
      (fun m => Pci.access m (family.serial.read m.bar)) s
    unfold Pci.result Inventory.serialOf
    rw [run]
    simp only [Pci.map, ExceptT.run_mk, Dialogue.request, Dialogue.run, answer, layer]
    cases fixture.map device family.serial.bar with
    | error e => rfl
    | ok m => exact run_onWindow fixture _ (List.getElem?_concat_length ..)

end Fixture

end ReadoutCard
