import Mathlib.Data.List.Forall2
import ReadoutCard.Pci.Sysfs
import ReadoutCard.Proofs.Window.Mapped
import ReadoutCard.Window.Memory

/-!
# A mapped file answers like words in memory

`Mapped.Holds` says that a mapped file holds the words of a window in memory,
with fewer than four bytes after them. Both windows then answer a request
alike, and hold the same words again (`Holds.answer`). An induction on the
requests carries this through every sequence of them, failures included
(`Holds.answers`). Words start to be held when a window in memory is preset to
those of a file (`holds_toWords`).
-/

namespace ReadoutCard

open LittleEndian (bytes toWords)

variable {α σ : Type}

/-- The answers to requests that are made one after the other, whether they succeed or not, and
the contents that they leave. -/
def Window.answers (w : Window σ) : List Register.Request → σ →
    List (Exchange Register.Request Register.Answer) × σ
  | [], s => ([], s)
  | q :: rest, s =>
    let (a, s) := w.answer q s
    let (later, s) := w.answers rest s
    (⟨q, a⟩ :: later, s)

/-- Both succeed with the same value, or a window of BAR `bar` refuses both. -/
def Alike (bar : Nat) (r r' : Except Error α) : Prop :=
  (∃ a, r = .ok a ∧ r' = .ok a) ∨ Refused bar r ∧ Refused bar r'

/-- The same request with answers that are alike. -/
inductive SameAnswer (bar : Nat) : Exchange Register.Request Register.Answer →
    Exchange Register.Request Register.Answer → Prop where
  | read (index : Nat) {r r' : Except Error UInt32} (alike : Alike bar r r') :
    SameAnswer bar ⟨.read index, r⟩ ⟨.read index, r'⟩
  | write (index : Nat) (value : UInt32) {r r' : Except Error Unit} (alike : Alike bar r r') :
    SameAnswer bar ⟨.write index value, r⟩ ⟨.write index value, r'⟩

namespace Memory

variable {bar index : Nat} {words : Array UInt32}

theorem read_of_lt (h : index < words.size) : read bar words index = .ok words[index] := by
  rw [read, Array.getElem?_eq_getElem h]

theorem read_of_ge (h : words.size ≤ index) : Refused bar (read bar words index) := by
  rw [read, Array.getElem?_eq_none h]
  exact ⟨_, rfl⟩

/-- Presetting the registers from `front` on leaves those before them alone. -/
theorem presetAll_append (bar : Nat) (front words blank : List UInt32)
    (same : blank.length = words.length) :
    presetAll bar (front ++ blank).toArray ((words.zipIdx front.length).map Prod.swap) =
      .ok (front ++ words).toArray := by
  induction words generalizing front blank with
  | nil =>
    rw [List.length_eq_zero_iff.1 same]
    rfl
  | cons w rest ih =>
    obtain ⟨old, blank, rfl⟩ := List.exists_cons_of_length_eq_add_one same
    have inside : front.length < (front ++ old :: blank).toArray.size := by simp
    have one : write bar (front ++ old :: blank).toArray front.length w =
        .ok ((front ++ [w]) ++ blank).toArray := by
      rw [write, dif_pos inside]
      simp
    have later := ih (front ++ [w]) blank (by simpa using same)
    rw [List.length_append, List.length_singleton, List.append_assoc] at later
    rw [List.zipIdx_cons, List.map_cons, presetAll, Prod.swap_prod_mk, one]
    change presetAll bar (front ++ [w] ++ blank).toArray _ = _
    simpa using later

end Memory

namespace Mapped

/-- The presets that put the words of a file into registers, from the first one on. -/
def presets (content : ByteArray) : List (Nat × UInt32) :=
  (toWords content.data.toList).zipIdx.map Prod.swap

/-- The content is the bytes of the words and then `tail`, too few for one more word. The size of
a file is a 64-bit number. -/
structure Holds (words : Array UInt32) (tail : List UInt8) (content : ByteArray) : Prop where
  bytes_eq : content.data.toList = words.toList.flatMap bytes ++ tail
  short : tail.length < 4
  fits : content.size < addressSpace

variable {bar index : Nat} {content : ByteArray} {words : Array UInt32} {tail : List UInt8}

theorem Holds.size_eq (h : Holds words tail content) :
    content.size = words.size * 4 + tail.length := by
  rw [LittleEndian.size_eq_length, h.bytes_eq, List.length_append,
    LittleEndian.length_flatMap_bytes, Array.length_toList]

/-- The word at an index, between the bytes of those before and after it. -/
theorem Holds.split (h : Holds words tail content) (inside : index < words.size) :
    content.data.toList = (words.toList.take index).flatMap bytes ++
      (bytes words[index] ++ ((words.toList.drop (index + 1)).flatMap bytes ++ tail)) := by
  have cut : words.toList = words.toList.take index ++
      words[index] :: words.toList.drop (index + 1) := by
    rw [← Array.getElem_toList inside, List.getElem_cons_drop, List.take_append_drop]
  have pieces := congrArg (List.flatMap bytes) cut
  rw [List.flatMap_append, List.flatMap_cons] at pieces
  rw [h.bytes_eq, pieces, List.append_assoc, List.append_assoc]

/-! ### Both windows side by side -/

theorem Holds.beyond (h : Holds words tail content) (outside : words.size ≤ index) :
    content.size < index * 4 + 4 := by
  have := h.size_eq
  have := h.short
  omega

theorem Holds.inside (h : Holds words tail content) (inside : index < words.size) :
    index * 4 + 4 ≤ content.size := by
  have := h.size_eq
  omega

theorem Holds.offset_lt (h : Holds words tail content) (inside : index < words.size) :
    index * 4 < addressSpace := by
  have room := h.inside inside
  have fits := h.fits
  omega

theorem Holds.length_front (inside : index < words.size) :
    ((words.toList.take index).flatMap bytes).length = index * 4 := by
  rw [LittleEndian.length_flatMap_bytes, List.length_take, Array.length_toList,
    Nat.min_eq_left (Nat.le_of_lt inside)]

theorem Holds.read (h : Holds words tail content) (index : Nat) :
    Alike bar (Mapped.read bar content index) (Memory.read bar words index) := by
  by_cases inside : index < words.size
  · have word := LittleEndian.wordAt?_of_split (h.split inside)
    rw [Holds.length_front inside] at word
    exact .inl ⟨words[index], read_of_inside (h.inside inside) (h.offset_lt inside) word,
      Memory.read_of_lt inside⟩
  · have outside := Nat.le_of_not_lt inside
    exact .inr ⟨read_of_beyond (h.beyond outside), Memory.read_of_ge outside⟩

theorem Holds.set (h : Holds words tail content) (inside : index < words.size) (value : UInt32) :
    Holds (words.set index value) tail (LittleEndian.setWordAt content (index * 4) value) where
  bytes_eq := by
    have changed := LittleEndian.data_setWordAt_of_split (h.split inside) value
    rw [Holds.length_front inside] at changed
    rw [changed, Array.toList_set, List.set_eq_take_append_cons_drop,
      if_pos (by simpa using inside), List.flatMap_append, List.flatMap_cons, List.append_assoc,
      List.append_assoc]
  short := h.short
  fits := by simpa using h.fits

/-- A request is answered alike, and afterwards the file holds the words in memory again. -/
theorem Holds.answer (h : Holds words tail content) (bar : Nat) (q : Register.Request) :
    SameAnswer bar ⟨q, ((window bar).answer q content).1⟩
        ⟨q, ((Memory.window bar).answer q words).1⟩ ∧
      Holds ((Memory.window bar).answer q words).2 tail ((window bar).answer q content).2 := by
  cases q with
  | read index => exact ⟨.read index (h.read index), h⟩
  | write index value =>
    by_cases inside : index < words.size
    · have mapped : (window bar).write index value content =
          (.ok (), LittleEndian.setWordAt content (index * 4) value) :=
        write_of_inside (h.inside inside) (h.offset_lt inside) value
      have memory : (Memory.window bar).write index value words =
          (.ok (), words.set index value) := dif_pos inside
      simp only [Window.answer, mapped, memory]
      exact ⟨.write index value (.inl ⟨(), rfl, rfl⟩), h.set inside value⟩
    · have outside := h.beyond (Nat.le_of_not_lt inside)
      obtain ⟨refused, same⟩ := write_of_beyond outside value
      have memory : (Memory.window bar).write index value words =
          (.error (Memory.outOfRange bar words.size index), words) := dif_neg inside
      simp only [Window.answer, memory]
      exact ⟨.write index value (.inr ⟨refused, _, rfl⟩), same.symm ▸ h⟩

theorem Holds.answers (h : Holds words tail content) (bar : Nat) (calls : List Register.Request) :
    List.Forall₂ (SameAnswer bar) ((window bar).answers calls content).1
        ((Memory.window bar).answers calls words).1 ∧
      Holds ((Memory.window bar).answers calls words).2 tail
        ((window bar).answers calls content).2 := by
  induction calls generalizing content words with
  | nil => exact ⟨.nil, h⟩
  | cons q rest ih =>
    obtain ⟨alike, holds⟩ := h.answer bar q
    obtain ⟨later, held⟩ := ih holds
    exact ⟨.cons alike later, held⟩

/-- A file holds the words that its bytes are cut into. -/
theorem holds_toWords (fits : content.size < addressSpace) :
    Holds (toWords content.data.toList).toArray
      (content.data.toList.drop (content.size / 4 * 4)) content where
  bytes_eq := by
    rw [LittleEndian.size_eq_length]
    exact (LittleEndian.flatMap_toWords_append_drop _).symm
  short := by
    rw [List.length_drop, ← LittleEndian.size_eq_length]
    omega
  fits := fits

/-- **A mapped file is a window of words.** Map a file that is not empty as BAR `bar`, and preset a
window in memory of as many words as there are four bytes in the file to the words of the file.
Both answer any sequence of requests alike, up to the messages of refusals. Afterwards the bytes of
the file are those of the words in memory and then the bytes that were too few for a word, and an
index whose bytes do not all have 64-bit offsets is refused. -/
theorem mapped_like_memory (bar : Nat) (path : String) (content : ByteArray)
    (nonempty : 0 < content.size) (fits : content.size < addressSpace)
    (calls : List Register.Request) :
    Sysfs.openResource path bar (some (.file content)) = .ok content ∧
    ∃ words : Array UInt32,
      Memory.presetAll bar (Array.replicate (content.size / 4) 0) (presets content) = .ok words ∧
      List.Forall₂ (SameAnswer bar) ((window bar).answers calls content).1
        ((Memory.window bar).answers calls words).1 ∧
      ((window bar).answers calls content).2.data.toList =
        ((Memory.window bar).answers calls words).2.toList.flatMap bytes ++
          content.data.toList.drop (content.size / 4 * 4) ∧
      ∀ index value, addressSpace ≤ index * 4 + 4 →
        Refused bar (read bar ((window bar).answers calls content).2 index) ∧
        Refused bar (write bar ((window bar).answers calls content).2 index value).1 ∧
        (write bar ((window bar).answers calls content).2 index value).2 =
          ((window bar).answers calls content).2 := by
  have opened : Sysfs.openResource path bar (some (.file content)) = .ok content :=
    if_neg (Nat.ne_of_gt nonempty)
  obtain ⟨alike, held⟩ := (holds_toWords fits).answers bar calls
  refine ⟨opened, _, ?_, alike, held.bytes_eq, fun index value overflow => ?_⟩
  · have blank : (List.replicate (content.size / 4) (0 : UInt32)).length =
        (toWords content.data.toList).length := by
      rw [List.length_replicate, LittleEndian.length_toWords, ← LittleEndian.size_eq_length]
    have preset := Memory.presetAll_append bar [] (toWords content.data.toList) _ blank
    simpa [presets] using preset
  · have beyond := Nat.lt_of_lt_of_le held.fits overflow
    exact ⟨read_of_beyond beyond, write_of_beyond beyond value⟩

/-- Two words and a byte. -/
def spareFile : ByteArray := ⟨#[1, 0, 0, 0, 2, 0, 0, 0, 9]⟩

/-- A write, a read of it, a read past the words and one whose offset has 65 bits: the byte left
over is never touched. -/
theorem spareFile_like_memory :
    0 < spareFile.size ∧ spareFile.size < addressSpace ∧
    ((window 2).answers [.write 1 0x01020304, .read 1, .read 2, .read (1 <<< 62)]
      spareFile).2.data.toList = [1, 0, 0, 0, 4, 3, 2, 1, 9] ∧
    Refused 2 (read 2 spareFile (1 <<< 62)) := by
  have nonempty : 0 < spareFile.size := by decide
  have fits : spareFile.size < addressSpace := by decide
  obtain ⟨-, words, preset, -, left, -⟩ := mapped_like_memory 2 "resource2" spareFile nonempty fits
    [.write 1 0x01020304, .read 1, .read 2, .read (1 <<< 62)]
  obtain ⟨-, -, -, -, -, overflow⟩ := mapped_like_memory 2 "resource2" spareFile nonempty fits []
  cases preset
  exact ⟨nonempty, fits, left, (overflow (1 <<< 62) 0 (by decide)).1⟩

end Mapped

end ReadoutCard
