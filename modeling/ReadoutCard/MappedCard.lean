import ReadoutCard.Inventory
import ReadoutCard.Settings
import ReadoutCard.Sca.Engine

/-! # Cards with one BAR mapped

Which card and which BAR is told by settings: the channel number names the BAR. Card and channel
are checked before the PCI layer is asked anything.
-/

namespace ReadoutCard

/-- A card with a mapped window. -/
structure MappedCard (W : Type) where
  card : Card
  mapping : Mapping W

namespace MappedCard

open Pci (Query)

variable {H W : Type}

/-- The BAR that a channel number names. -/
def barOfChannel (channel : Int) : Except Error Nat :=
  if 0 ≤ channel then .ok channel.toNat
  else .error (.configuration "ChannelNumber"
    ("channel " ++ toString channel ++ " is not a valid BAR index"))

/-- Maps a BAR of a card that was found. -/
def ofFound (found : Found H) (bar : Nat) : Query H W (MappedCard W) := do
  return ⟨found.card, ← Pci.map found.device bar⟩

/-- Finds and maps what the settings name. -/
def ofSettings (settings : Settings) : Query H W (MappedCard W) := do
  let card : CardId ← Pci.ofExcept (settings.required .cardId)
  let channel : Int ← Pci.ofExcept (settings.required .channelNumber)
  let bar ← Pci.ofExcept (barOfChannel channel)
  ofFound (← Inventory.locate card) bar

/-- The binding of the window to the card's type. -/
def binding (s : MappedCard W) : Binding := ⟨s.card.type, s.mapping.bar⟩

/-- The accessors of the card's family. -/
def accessors (s : MappedCard W) : Except Error Accessors :=
  Accessors.ofType s.card.type s.mapping.bar

end MappedCard

end ReadoutCard
