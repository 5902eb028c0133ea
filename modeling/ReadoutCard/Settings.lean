import ReadoutCard.Choice
import ReadoutCard.LinkMask
import ReadoutCard.Path
import ReadoutCard.Sparse

/-! # The configuration of a channel

Every setting is optional and independent of every other; which settings are needed together is
decided where they are used.
-/

namespace ReadoutCard

/-- A DMA buffer of a channel. -/
inductive Buffer where
  /-- A buffer that is mapped already, by address and size in bytes. -/
  | memory (address size : Nat)
  /-- A buffer in a file. -/
  | file (path : Path) (size : Nat)
  /-- No buffer: the channel is opened without data transfer. -/
  | null
  deriving BEq, Repr

/-- The settings of a channel. -/
inductive Setting where
  | cardId
  | channelNumber
  | dmaPageSize
  | generatorEnabled
  | generatorDataSize
  | generatorLoopback
  | generatorPattern
  | generatorRandomSizeEnabled
  | buffer
  | readoutMode
  | linkMask
  deriving DecidableEq, Repr

namespace Setting

/-- The type of the values of a setting. -/
def Value : Setting → Type
  | cardId => CardId
  | channelNumber => Int
  | dmaPageSize => Nat
  | generatorEnabled => Bool
  | generatorDataSize => Nat
  | generatorLoopback => Loopback
  | generatorPattern => Pattern
  | generatorRandomSizeEnabled => Bool
  | buffer => Buffer
  | readoutMode => ReadoutMode
  | linkMask => LinkMask

instance : (s : Setting) → BEq s.Value
  | cardId => inferInstanceAs (BEq CardId)
  | channelNumber => inferInstanceAs (BEq Int)
  | dmaPageSize => inferInstanceAs (BEq Nat)
  | generatorEnabled => inferInstanceAs (BEq Bool)
  | generatorDataSize => inferInstanceAs (BEq Nat)
  | generatorLoopback => inferInstanceAs (BEq Loopback)
  | generatorPattern => inferInstanceAs (BEq Pattern)
  | generatorRandomSizeEnabled => inferInstanceAs (BEq Bool)
  | buffer => inferInstanceAs (BEq Buffer)
  | readoutMode => inferInstanceAs (BEq ReadoutMode)
  | linkMask => inferInstanceAs (BEq LinkMask)

/-- The name by which failures call a setting. -/
def name : Setting → String
  | cardId => "CardId"
  | channelNumber => "ChannelNumber"
  | dmaPageSize => "DmaPageSize"
  | generatorEnabled => "GeneratorEnabled"
  | generatorDataSize => "GeneratorDataSize"
  | generatorLoopback => "GeneratorLoopback"
  | generatorPattern => "GeneratorPattern"
  | generatorRandomSizeEnabled => "GeneratorRandomSizeEnabled"
  | buffer => "BufferParameters"
  | readoutMode => "ReadoutMode"
  | linkMask => "LinkMask"

/-- All settings. -/
def all : List Setting :=
  [cardId, channelNumber, dmaPageSize, generatorEnabled, generatorDataSize, generatorLoopback,
   generatorPattern, generatorRandomSizeEnabled, buffer, readoutMode, linkMask]

theorem mem_all (s : Setting) : s ∈ all := by cases s <;> decide

end Setting

/-- A channel configuration. -/
abbrev Settings := Sparse Setting.Value

namespace Settings

/-- The value of a setting that has to be set. -/
def required (p : Settings) (s : Setting) : Except Error s.Value :=
  match p.get? s with
  | some v => .ok v
  | none => .error (.missing s.name)

/-- The configuration of just a card and a channel number. -/
def ofCard (card : CardId) (channel : Int) : Settings :=
  (Sparse.empty.set .cardId card).set .channelNumber channel

/-- Configurations compare equal when each setting is unset in both or has equal values. -/
instance : BEq Settings where
  beq p q := Setting.all.all fun s => p.get? s == q.get? s

theorem beq_iff {p q : Settings} :
    (p == q) = true ↔ ∀ s, (p.get? s == q.get? s) = true := by
  change Setting.all.all _ = true ↔ _
  simp only [List.all_eq_true]
  exact ⟨fun h s => h s (Setting.mem_all s), fun h s _ => h s⟩

end Settings

end ReadoutCard
