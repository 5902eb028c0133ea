import ReadoutCard.Proofs.Inventory.Queries
import ReadoutCard.Proofs.Settings
import ReadoutCard.Proofs.Sysfs.Openings
import ReadoutCard.Proofs.Text.Spelling

/-!
# The stages of opening a card

Opening a card first takes from the settings which card and which BAR it is
about (`selection`), without the PCI layer; then it searches for the card and
maps the BAR (`ofSettings_of_selected`). So it makes the exchanges of the search
and one more, and fails with the first failure on the way. `Stages` says this
over every PCI layer; `opening_stages` adds which settings count, and what is
known of the window where the layer is a tree of device directories.
-/

namespace ReadoutCard.MappedCard

open Pci (Query Trace)

variable {H W σ : Type} {p : Settings}

/-! ### What the settings select -/

/-- The card and the BAR that settings name. -/
def selection (p : Settings) : Except Error (CardId × Nat) := do
  let card : CardId ← p.required .cardId
  let channel : Int ← p.required .channelNumber
  let bar ← barOfChannel channel
  return (card, bar)

/-- Only the card and the channel number count. -/
theorem selection_congr {q : Settings} (card : q.get? .cardId = p.get? .cardId)
    (channel : q.get? .channelNumber = p.get? .channelNumber) : selection q = selection p := by
  simp only [selection, Settings.required, card, channel]

theorem selection_eq_ok_iff {card : CardId} {bar : Nat} :
    selection p = .ok (card, bar) ↔
      p.get? .cardId = some card ∧ p.get? .channelNumber = some (bar : Int) := by
  unfold selection
  constructor
  · intro selected
    obtain ⟨card', set, selected⟩ := except_bind_eq_ok.1 selected
    obtain ⟨channel, number, selected⟩ := except_bind_eq_ok.1 selected
    obtain ⟨bar', named, same⟩ := except_bind_eq_ok.1 selected
    cases same
    obtain rfl := Sysfs.barOfChannel_eq_ok_iff.1 named
    exact ⟨Settings.required_eq_ok_iff.1 set, Settings.required_eq_ok_iff.1 number⟩
  · rintro ⟨set, number⟩
    refine except_bind_eq_ok.2 ⟨card, Settings.required_eq_ok_iff.2 set, ?_⟩
    refine except_bind_eq_ok.2 ⟨(bar : Int), Settings.required_eq_ok_iff.2 number, ?_⟩
    exact except_bind_eq_ok.2 ⟨bar, Sysfs.barOfChannel_eq_ok_iff.2 rfl, rfl⟩

theorem selection_of_noCard (unset : p.get? .cardId = none) :
    selection p = .error (.configuration "CardId" "required parameter was not set") := by
  unfold selection
  exact except_bind_eq_error.2 (.inl (Settings.required_eq_error_iff.2 ⟨unset, rfl⟩))

section Channels

variable {card : CardId} (set : p.get? .cardId = some card)
include set

theorem selection_of_noChannel (unset : p.get? .channelNumber = none) :
    selection p = .error (.configuration "ChannelNumber" "required parameter was not set") := by
  unfold selection
  refine except_bind_eq_error.2 (.inr ⟨card, Settings.required_eq_ok_iff.2 set, ?_⟩)
  exact except_bind_eq_error.2 (.inl (Settings.required_eq_error_iff.2 ⟨unset, rfl⟩))

theorem selection_of_negative {channel : Int} (number : p.get? .channelNumber = some channel)
    (negative : channel < 0) :
    selection p = .error (.configuration "ChannelNumber"
      ("channel " ++ toString channel ++ " is not a valid BAR index")) := by
  unfold selection
  refine except_bind_eq_error.2 (.inr ⟨card, Settings.required_eq_ok_iff.2 set, ?_⟩)
  refine except_bind_eq_error.2 (.inr ⟨channel, Settings.required_eq_ok_iff.2 number, ?_⟩)
  exact except_bind_eq_error.2 (.inl (if_neg (by omega)))

end Channels

/-! ### Selecting, searching, mapping -/

theorem ofSettings_eq (p : Settings) : (ofSettings p : Query H W _) =
    Pci.ofExcept (selection p) >>= fun (card, bar) =>
      Inventory.locate card >>= fun found => ofFound found bar := by
  unfold ofSettings selection
  cases p.required .cardId with
  | error e => rfl
  | ok card =>
    cases p.required .channelNumber with
    | error e => rfl
    | ok channel =>
      show (Pci.ofExcept (barOfChannel channel) >>= _) =
        Pci.ofExcept (barOfChannel channel >>= _) >>= _
      cases barOfChannel channel with
      | error e => rfl
      | ok bar => rfl

/-- Settings that select nothing are refused before anything is asked. -/
theorem ofSettings_of_refused {e : Error} (refused : selection p = .error e) :
    (ofSettings p : Query H W _) = throw e := by
  rw [ofSettings_eq, refused]
  rfl

theorem ofSettings_of_selected {card : CardId} {bar : Nat}
    (selected : selection p = .ok (card, bar)) : (ofSettings p : Query H W _) =
      Inventory.locate card >>= fun found => ofFound found bar := by
  rw [ofSettings_eq, selected]
  rfl

/-! ### Exchanges and results -/

section Runs

variable (answer : (q : Pci.Request H W) → σ → Pci.Answer q × σ)

theorem run_map (device : H) (bar : Nat) (s : σ) :
    Dialogue.run answer (ExceptT.run (Pci.map device bar)) s = answer (.map device bar) s := rfl

theorem run_ofFound (found : Found H) (bar : Nat) (s : σ) :
    Dialogue.run answer (ExceptT.run (ofFound found bar)) s =
      ((answer (.map found.device bar) s).1.map (MappedCard.mk found.card),
        (answer (.map found.device bar) s).2) := by
  rw [ofFound, Dialogue.run_except_bind, run_map]
  rcases answer (.map found.device bar) s with ⟨e | m, s'⟩
  · rfl
  · rfl

theorem transcript_ofFound (found : Found H) (bar : Nat) (s : σ) :
    Dialogue.transcript answer (ExceptT.run (ofFound found bar)) s =
      [⟨.map found.device bar, (answer (.map found.device bar) s).1⟩] := by
  have asked : Dialogue.transcript answer (ExceptT.run (Pci.map found.device bar)) s =
      [⟨.map found.device bar, (answer (.map found.device bar) s).1⟩] := rfl
  rw [ofFound, Dialogue.transcript_except_bind, run_map, asked]
  rcases answer (.map found.device bar) s with ⟨e | m, s'⟩
  · simp
  · simp [Dialogue.transcript]

/-- What opening a card with the settings `p` comes to, with a PCI layer in state `s`: its exchanges
are `t`, and `r` is its result with the state it leaves. -/
structure Stages (s : σ) (p : Settings) (t : Trace H W) (r : Except Error (MappedCard W) × σ) :
    Prop where
  noCard : p.get? .cardId = none → t = [] ∧
    r = (.error (.configuration "CardId" "required parameter was not set"), s)
  noChannel : ∀ card, p.get? .cardId = some card → p.get? .channelNumber = none → t = [] ∧
    r = (.error (.configuration "ChannelNumber" "required parameter was not set"), s)
  negative : ∀ card (channel : Int), p.get? .cardId = some card →
    p.get? .channelNumber = some channel → channel < 0 → t = [] ∧
    r = (.error (.configuration "ChannelNumber"
      ("channel " ++ toString channel ++ " is not a valid BAR index")), s)
  notFound : ∀ card (bar : Nat) e s', p.get? .cardId = some card →
    p.get? .channelNumber = some (bar : Int) →
    Dialogue.run answer (ExceptT.run (Inventory.locate card)) s = (.error e, s') →
    t = Dialogue.transcript answer (ExceptT.run (Inventory.locate card)) s ∧ r = (.error e, s')
  found : ∀ card (bar : Nat) found s', p.get? .cardId = some card →
    p.get? .channelNumber = some (bar : Int) →
    Dialogue.run answer (ExceptT.run (Inventory.locate card)) s = (.ok found, s') →
    let mapped := answer (.map found.device bar) s'
    t = Dialogue.transcript answer (ExceptT.run (Inventory.locate card)) s ++
      [⟨.map found.device bar, mapped.1⟩] ∧
    r = (mapped.1.map (MappedCard.mk found.card), mapped.2)

theorem stages (s : σ) (p : Settings) :
    Stages answer s p (Dialogue.transcript answer (ExceptT.run (ofSettings p)) s)
      (Dialogue.run answer (ExceptT.run (ofSettings p)) s) := by
  have refused {e : Error} (h : selection p = .error e) :
      Dialogue.transcript answer (ExceptT.run (ofSettings p)) s = [] ∧
        Dialogue.run answer (ExceptT.run (ofSettings p)) s = (.error e, s) := by
    rw [ofSettings_of_refused h]
    exact ⟨rfl, rfl⟩
  constructor
  · intro unset
    exact refused (selection_of_noCard unset)
  · intro card set unset
    exact refused (selection_of_noChannel set unset)
  · intro card channel set number negative
    exact refused (selection_of_negative set number negative)
  · intro card bar e s' set number failed
    rw [ofSettings_of_selected (selection_eq_ok_iff.2 ⟨set, number⟩),
      Dialogue.transcript_except_bind, Dialogue.run_except_bind, failed]
    simp
  · intro card bar found s' set number located
    rw [ofSettings_of_selected (selection_eq_ok_iff.2 ⟨set, number⟩),
      Dialogue.transcript_except_bind, Dialogue.run_except_bind, located]
    simp only [run_ofFound, transcript_ofFound, and_self]

end Runs

/-- In a tree what is opened is a BAR that there is, of the card that is found. -/
theorem exists_of_opened {tree left : DeviceTree} {m : MappedCard Sysfs.Resource}
    (opened : Sysfs.run (ofSettings p) tree = (.ok m, left)) :
    ∃ card found, ∃ bar : Nat, p.get? .cardId = some card ∧
      p.get? .channelNumber = some (bar : Int) ∧ bar < maxBars ∧
      Sysfs.run (Inventory.locate card) tree = (.ok found, left) ∧
      m = ⟨found.card, ⟨⟨found.device, bar⟩, bar⟩⟩ := by
  obtain ⟨card, channel, bar, found, set, number, named, located, mapped, same⟩ :=
    Sysfs.run_ofSettings_eq_ok.1 opened
  obtain rfl := Sysfs.barOfChannel_eq_ok_iff.1 named
  obtain ⟨small, shown, -⟩ := Sysfs.map_eq_ok.1 mapped
  refine ⟨card, found, bar, Settings.required_eq_ok_iff.1 set, Settings.required_eq_ok_iff.1 number,
    small, located, ?_⟩
  rw [← same, ← shown]

/-- **The stages of opening a card.** Over every PCI layer, whatever it answers, opening a card
fails if no card is set, or else if no channel is set or it is negative, and then asks the layer
nothing. Else it fails as the search for the card does, or else as the mapping of the BAR does, and
what is opened is the card that was found, with the window that this mapping gave. No other setting
makes a difference. Over a tree of device directories a channel that is opened is below six, and its
window shows the BAR of that number, of the device that was found. -/
theorem opening_stages (answer : (q : Pci.Request H W) → σ → Pci.Answer q × σ) (s : σ)
    (p : Settings) :
    Stages answer s p (Dialogue.transcript answer (ExceptT.run (ofSettings p)) s)
      (Dialogue.run answer (ExceptT.run (ofSettings p)) s) ∧
    (∀ q : Settings, q.get? .cardId = p.get? .cardId →
      q.get? .channelNumber = p.get? .channelNumber →
      (ofSettings q : Query H W (MappedCard W)) = ofSettings p) ∧
    ∀ (tree left : DeviceTree) (m : MappedCard Sysfs.Resource),
      Sysfs.run (ofSettings p) tree = (.ok m, left) →
      ∃ card found, ∃ bar : Nat, p.get? .cardId = some card ∧
        p.get? .channelNumber = some (bar : Int) ∧ bar < 6 ∧
        Sysfs.run (Inventory.locate card) tree = (.ok found, left) ∧
        m = ⟨found.card, ⟨⟨found.device, bar⟩, bar⟩⟩ := by
  refine ⟨stages answer s p, fun q card channel => ?_, fun tree left m opened => ?_⟩
  · rw [ofSettings_eq, ofSettings_eq, selection_congr card channel]
  · exact exists_of_opened opened

end ReadoutCard.MappedCard
