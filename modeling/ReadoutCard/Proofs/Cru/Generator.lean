import Mathlib.Data.List.Induction
import ReadoutCard.Cru.Generator
import ReadoutCard.Proofs.Bits

/-!
# The control word of the generator after any settings

Settings are made in the control word one after the other, and one that is
refused leaves the word as it is. After a run each field has the code of the
last setting of it that was accepted (`read_made`), and the bits outside all
fields are those of the start (`made_outside`). Both fold one step: an accepted
setting is `Bits.setField` of its own field (`make_of_accepted`), and the
four fields lie apart. A code tells the setting it came from (`pattern_of_code`,
`size_of_code`).
-/

namespace ReadoutCard.Cru.Generator

/-! ### One change after another -/

namespace Change

variable {first second : Change} {word left : UInt32}

theorem apply_bind_of_ok (h : first.apply word = (.ok (), left)) :
    apply (first >>= fun _ => second) word = second.apply left := by
  simp only [apply] at h ⊢
  rw [ExceptT.run_bind, StateT.run_bind, h]
  rfl

/-- What comes after a change that is refused is not made. -/
theorem apply_bind_of_error {e : Error} (h : first.apply word = (.error e, left)) :
    apply (first >>= fun _ => second) word = (.error e, left) := by
  simp only [apply] at h ⊢
  rw [ExceptT.run_bind, StateT.run_bind, h]
  rfl

end Change

/-- The fields of the control word. -/
inductive Field where
  | enable
  | pattern
  | size
  | randomSize
  deriving DecidableEq, Repr

namespace Field

/-- The lowest bit of a field. -/
def lsb : Field → Nat
  | enable => 0
  | pattern => 1
  | size => 8
  | randomSize => 16

/-- The bits of a field. -/
def width : Field → Nat
  | enable => 1
  | pattern => 2
  | size => 8
  | randomSize => 1

/-- What a control word has in a field. -/
def read (f : Field) (word : UInt32) : UInt32 := Bits.field word f.lsb f.width

/-- The bits of all fields together. -/
def all : UInt32 := 0x0001ff07

theorem width_pos (f : Field) : 0 < f.width := by cases f <;> decide

theorem fits (f : Field) : f.lsb + f.width ≤ 32 := by cases f <;> decide

theorem lsb_lt (f : Field) : f.lsb < 32 := by
  have := f.width_pos
  have := f.fits
  omega

/-- Two fields have no bit in common. -/
theorem apart {f g : Field} (h : f ≠ g) : g.lsb + g.width ≤ f.lsb ∨ f.lsb + f.width ≤ g.lsb := by
  cases f <;> cases g <;> first | exact absurd rfl h | decide

/-- The bits of a field are among those of all fields. -/
theorem testBit_outside (f : Field) : ∀ i, f.lsb ≤ i → i < f.lsb + f.width →
    (~~~all).toNat.testBit i = false := by
  have inside : ∀ i < 32, f.lsb ≤ i → i < f.lsb + f.width →
      (~~~all).toNat.testBit i = false := by
    cases f <;> decide
  intro i low high
  have := f.fits
  exact inside i (by omega) low high

end Field

/-- A setting of one field. -/
inductive Setting where
  | pattern (pattern : Pattern)
  | size (bytes : Nat)
  | enabled (on : Bool)
  | randomSize (on : Bool)
  deriving DecidableEq, Repr

/-- The patterns that the generator has. -/
def supported : List Pattern := [.incremental, .alternating, .constant]

namespace Setting

/-- The field that is set. -/
def field : Setting → Field
  | pattern _ => .pattern
  | size _ => .size
  | enabled _ => .enable
  | randomSize _ => .randomSize

/-- The change that makes the setting. -/
def change : Setting → Change
  | pattern p => setPattern p
  | size bytes => setSize bytes
  | enabled on => modify fun word => setEnabled word on
  | randomSize on => modify fun word => setRandomSize word on

/-- Makes the setting in place: how that ended, and the control word that is left. -/
def make (s : Setting) (word : UInt32) : Except Error Unit × UInt32 := s.change.apply word

/-- The generator can be set so: it has the pattern, and a page is a multiple of 32 bytes between
32 bytes and 8 KiB. -/
def Accepted : Setting → Prop
  | pattern p => p ∈ supported
  | size bytes => 32 ∣ bytes ∧ 32 ≤ bytes ∧ bytes ≤ 8192
  | enabled _ => True
  | randomSize _ => True

instance : DecidablePred Accepted
  | pattern p => inferInstanceAs (Decidable (p ∈ supported))
  | size bytes => inferInstanceAs (Decidable (32 ∣ bytes ∧ 32 ≤ bytes ∧ bytes ≤ 8192))
  | enabled _ => inferInstanceAs (Decidable True)
  | randomSize _ => inferInstanceAs (Decidable True)

/-- The code of an accepted setting. -/
def code : Setting → UInt32
  | pattern p => (patternCode? p).getD 0
  | size bytes => UInt32.ofNat (bytes / 32 - 1)
  | enabled on => if on then 1 else 0
  | randomSize on => if on then 1 else 0

/-- The setting that a failure of it names. -/
def key : Setting → Option String
  | pattern _ => some "GeneratorPattern"
  | size _ => some "GeneratorDataSize"
  | enabled _ => none
  | randomSize _ => none

/-! ### One setting -/

variable {s : Setting} {word : UInt32}

/-- The size of a page in units, less one, is below 256. -/
theorem toNat_code_size {bytes : Nat} (h : (size bytes).Accepted) :
    (code (size bytes)).toNat = bytes / 32 - 1 ∧ bytes / 32 - 1 < 256 := by
  obtain ⟨-, -, small⟩ := h
  have low : bytes / 32 - 1 < 256 := by omega
  refine ⟨?_, low⟩
  rw [code, UInt32.toNat_ofNat']
  omega

/-- An accepted setting has a code that fits into its field. -/
theorem code_fits (h : s.Accepted) : s.code.toNat < 2 ^ s.field.width := by
  cases s with
  | pattern p => cases p <;> decide
  | size bytes =>
    obtain ⟨value, low⟩ := toNat_code_size h
    rw [value]
    exact low
  | enabled on => cases on <;> decide
  | randomSize on => cases on <;> decide

/-- An accepted setting sets its field to its code. -/
theorem make_of_accepted (h : s.Accepted) :
    s.make word = (.ok (), Bits.setField word s.field.lsb s.field.width s.code) := by
  cases s with
  | pattern p =>
    have cases : p = .incremental ∨ p = .alternating ∨ p = .constant := by
      simpa [Accepted, supported] using h
    rcases cases with rfl | rfl | rfl
    · rfl
    · rfl
    · rfl
  | size bytes =>
    obtain ⟨divides, low, high⟩ := h
    have inside : bytes % sizeUnit = 0 ∧ minSize ≤ bytes ∧ bytes ≤ maxSize :=
      ⟨Nat.mod_eq_zero_of_dvd divides, low, high⟩
    rw [make, change, setSize, if_pos inside]
    rfl
  | enabled on => rfl
  | randomSize on => rfl

/-- Any other setting is refused under the name of what was to be set, and the word is left as it
was. -/
theorem make_of_not_accepted (word : UInt32) (h : ¬ s.Accepted) :
    ∃ key reason, s.key = some key ∧ s.make word = (.error (.configuration key reason), word) := by
  cases s with
  | pattern p =>
    have absent : patternCode? p = none := by
      cases p <;> first | rfl | exact absurd (by decide) h
    have refused : (pattern p).make word = (.error (.configuration "GeneratorPattern"
        (Choice.name p ++ " not supported by the CRU generator")), word) := by
      rw [make, change, setPattern, absent]
      rfl
    exact ⟨_, _, rfl, refused⟩
  | size bytes =>
    have outside : ¬ (bytes % sizeUnit = 0 ∧ minSize ≤ bytes ∧ bytes ≤ maxSize) := by
      rintro ⟨divides, low, high⟩
      exact h ⟨Nat.dvd_of_mod_eq_zero divides, low, high⟩
    have refused : (size bytes).make word = Change.apply (throw _) word :=
      congrArg (Change.apply · word) (if_neg outside)
    exact ⟨_, _, rfl, refused⟩
  | enabled on => exact absurd trivial h
  | randomSize on => exact absurd trivial h

/-- A setting leaves the bits outside all fields alone. -/
theorem make_outside (s : Setting) (word : UInt32) :
    (s.make word).2 &&& ~~~Field.all = word &&& ~~~Field.all := by
  by_cases h : s.Accepted
  · rw [make_of_accepted h]
    have apart := s.field.testBit_outside
    exact Bits.setField_and_of_outside word s.field.lsb_lt s.field.width s.code apart
  · obtain ⟨key, reason, -, same⟩ := make_of_not_accepted word h
    rw [same]

/-- After an accepted setting its field has its code. -/
theorem read_make_self (h : s.Accepted) : s.field.read (s.make word).2 = s.code := by
  rw [make_of_accepted h]
  exact Bits.field_setField_self word s.field.fits s.field.width_pos (code_fits h)

/-- A setting that is refused, or is one of another field, does not change what a field has. -/
theorem read_make_other {f : Field} (h : ¬ (s.field = f ∧ s.Accepted)) :
    f.read (s.make word).2 = f.read word := by
  by_cases accepted : s.Accepted
  · have other : s.field ≠ f := fun same => h ⟨same, accepted⟩
    rw [make_of_accepted accepted]
    have apart := Bits.apart_of_le (Field.apart other)
    exact Bits.field_setField_of_apart word s.field.lsb_lt f.lsb_lt apart s.code
  · obtain ⟨key, reason, -, same⟩ := make_of_not_accepted word accepted
    rw [same]

end Setting

/-! ### Any number of settings -/

/-- The control word after settings, one after the other. -/
def made (word : UInt32) (settings : List Setting) : UInt32 :=
  settings.foldl (fun word s => (s.make word).2) word

/-- The last of the settings of a field that were accepted. -/
def latest? (f : Field) (settings : List Setting) : Option Setting :=
  (settings.filter fun s => s.field = f ∧ s.Accepted).getLast?

theorem made_concat (word : UInt32) (settings : List Setting) (s : Setting) :
    made word (settings ++ [s]) = (s.make (made word settings)).2 := by
  rw [made, List.foldl_append]
  rfl

theorem latest?_concat (f : Field) (settings : List Setting) (s : Setting) :
    latest? f (settings ++ [s]) =
      if s.field = f ∧ s.Accepted then some s else latest? f settings := by
  rw [latest?, List.filter_append]
  split
  case isTrue counts => simp [counts]
  case isFalse counts => simp [counts, latest?]

theorem made_outside (word : UInt32) (settings : List Setting) :
    made word settings &&& ~~~Field.all = word &&& ~~~Field.all := by
  induction settings generalizing word with
  | nil => rfl
  | cons s rest ih =>
    have later := ih (s.make word).2
    exact later.trans (s.make_outside word)

/-- The induction is on the settings from the end: the last one decides, or the others do. -/
theorem read_made (word : UInt32) (settings : List Setting) (f : Field) :
    f.read (made word settings) = ((latest? f settings).map Setting.code).getD (f.read word) := by
  induction settings using List.reverseRecOn with
  | nil => rfl
  | append_singleton earlier s ih =>
    rw [made_concat, latest?_concat]
    split
    case isTrue counts =>
      obtain ⟨rfl, accepted⟩ := counts
      exact Setting.read_make_self accepted
    case isFalse counts =>
      rw [Setting.read_make_other counts]
      exact ih

theorem latest?_eq_some {f : Field} {settings : List Setting} {s : Setting}
    (h : latest? f settings = some s) : s.field = f ∧ s.Accepted := by
  have mem := List.mem_of_getLast? h
  simpa using (List.mem_filter.1 mem).2

/-! ### What codes tell -/

/-- The patterns of the generator have codes of their own, none of them zero. -/
theorem pattern_of_code {p q : Pattern} (hp : p ∈ supported) (hq : q ∈ supported) :
    (Setting.pattern p).code ≠ 0 ∧
      ((Setting.pattern p).code = (Setting.pattern q).code → p = q) := by
  have each : ∀ p ∈ supported, ∀ q ∈ supported, (Setting.pattern p).code ≠ 0 ∧
      ((Setting.pattern p).code = (Setting.pattern q).code → p = q) := by decide
  exact each p hp q hq

/-- The size of a page is told by its code. -/
theorem size_of_code {bytes : Nat} (h : (Setting.size bytes).Accepted) :
    ((Setting.size bytes).code.toNat + 1) * 32 = bytes := by
  obtain ⟨value, -⟩ := Setting.toNat_code_size h
  obtain ⟨divides, low, -⟩ := h
  rw [value]
  omega

/-- **The generator's settings.** In any run of settings from any control word, one that the
generator does not have is refused under its own name and leaves the word as it was. After the run
the bits outside the fields are those of the start, and each field has the code of the last accepted
setting of it, or what it had. Codes can be read back: those of patterns are distinct and not zero,
and the size field with one added is the size of a page in units of 32 bytes. -/
theorem settings_run (start : UInt32) (settings : List Setting) :
    (∀ earlier s later, settings = earlier ++ s :: later →
      (s.Accepted → (s.make (made start earlier)).1 = .ok ()) ∧
      (¬ s.Accepted →
        (∃ key reason, s.key = some key ∧
          (s.make (made start earlier)).1 = .error (.configuration key reason)) ∧
        made start (earlier ++ [s]) = made start earlier)) ∧
    made start settings &&& ~~~0x0001ff07 = start &&& ~~~0x0001ff07 ∧
    (∀ f : Field, f.read (made start settings) =
      ((latest? f settings).map Setting.code).getD (f.read start)) ∧
    (∀ p ∈ supported, ∀ q ∈ supported, (Setting.pattern p).code ≠ 0 ∧
      ((Setting.pattern p).code = (Setting.pattern q).code → p = q)) ∧
    (∀ bytes, latest? .size settings = some (.size bytes) →
      ((Field.size.read (made start settings)).toNat + 1) * 32 = bytes) := by
  refine ⟨fun earlier s later _ => ⟨fun accepted => ?_, fun refused => ?_⟩,
    made_outside start settings, read_made start settings,
    fun p hp q hq => pattern_of_code hp hq, ?_⟩
  · rw [Setting.make_of_accepted accepted]
  · obtain ⟨key, reason, named, same⟩ :=
      Setting.make_of_not_accepted (made start earlier) refused
    refine ⟨⟨key, reason, named, ?_⟩, ?_⟩
    · rw [same]
    · rw [made_concat, same]
  · intro bytes last
    obtain ⟨-, accepted⟩ := latest?_eq_some last
    rw [read_made, last]
    exact size_of_code accepted

end ReadoutCard.Cru.Generator
