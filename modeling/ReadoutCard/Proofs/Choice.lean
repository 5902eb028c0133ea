import Mathlib.Data.List.Nodup
import ReadoutCard.Choice
import ReadoutCard.Proofs.Text.Letters

/-!
# Reading names of members

A choice is lawful if all members are offered, under plain names that differ in
more than the case of letters (`Choice.Lawful`). A text that is a member's name
up to case, between white space, is then read as this member and as no other
(`parse_eq_ok_iff`), and every other text fails. Each choice of this library is
lawful, which its table of names decides, and the rest follows for all of them
at once (`readsNames`).
-/

namespace ReadoutCard.Choice

open Text

variable {α : Type} [Choice α]

/-- The text without the white space around it is the name of the member, up to the case of letters
of ASCII. -/
def Spelled (text : List Char) (a : α) : Prop := SameLetters (trim text) (name a).toList

/-- All members are offered, and their names are plain and told apart. -/
class Lawful (α : Type) [Choice α] : Prop where
  mem_all : ∀ a : α, a ∈ (all : List α)
  plain : ∀ a : α, ∀ c ∈ (name a).toList, c.toNat < 128 ∧ isBlank c = false
  distinct : ((all : List α).map fun a => (name a).toList.map Char.toLower).Nodup

theorem sameName_iff (name text : List Char) :
    sameName name text = true ↔ SameLetters text name := by
  rw [sameName, beq_iff_eq, sameLetters_iff, eq_comm]

section Members

variable [Lawful α] {a b : α} {text : List Char}

/-- A text is the name of one member at most. -/
theorem Spelled.unique (h : Spelled text a) (h' : Spelled text b) : a = b := by
  have same : (name a).toList.map Char.toLower = (name b).toList.map Char.toLower :=
    (sameLetters_iff.1 h).symm.trans (sameLetters_iff.1 h')
  exact List.inj_on_of_nodup_map Lawful.distinct (Lawful.mem_all a) (Lawful.mem_all b) same

omit [Lawful α] in
theorem spelled_of_find? (found : find? α text = some a) : Spelled text a := by
  unfold find? at found
  have hit := List.find?_some found
  exact (sameName_iff _ _).1 hit

theorem find?_eq_some_iff : find? α text = some a ↔ Spelled text a := by
  constructor
  · exact spelled_of_find?
  · intro spelled
    cases found : find? α text with
    | none =>
      have other := List.find?_eq_none.1 found a (Lawful.mem_all a)
      exact absurd ((sameName_iff _ _).2 spelled) other
    | some b => rw [(spelled_of_find? found).unique spelled]

theorem parse_eq_ok_iff {text : String} : parse α text = .ok a ↔ Spelled text.toList a := by
  rw [← find?_eq_some_iff, parse]
  cases find? α text.toList with
  | none => simp
  | some b => simp

theorem parse_of_not_spelled {text : String} (h : ∀ a : α, ¬ Spelled text.toList a) :
    parse α text = .error (.parse text ("unknown " ++ what α ++ " (expected one of " ++
      ", ".intercalate ((all : List α).map name) ++ ")")) := by
  have nothing : find? α text.toList = none := by
    apply Option.eq_none_iff_forall_ne_some.2
    intro a found
    exact h a (find?_eq_some_iff.1 found)
  rw [parse, nothing]

/-- What is the same as a name has only characters of ASCII in it, and no white space. -/
theorem plain_of_same (h : SameLetters text (name a).toList) {c : Char} (mem : c ∈ text) :
    c.toNat < 128 ∧ isBlank c = false := by
  have small : c.toLower ∈ (name a).toList.map Char.toLower := by
    rw [← sameLetters_iff.1 h]
    exact List.mem_map_of_mem mem
  obtain ⟨d, known, same⟩ := List.mem_map.1 small
  have plain := Lawful.plain a d known
  have alike : SameLetter c d := toLower_eq_iff.1 same.symm
  constructor
  · by_contra beyond
    obtain rfl := sameLetter_of_foreign alike (.inl (by omega))
    omega
  · by_contra blank
    obtain rfl := sameLetter_of_foreign alike (.inr (by simpa using blank))
    exact blank plain.2

/-- A member's name in any case, between white space, spells the member. -/
theorem spelled_between {before core after : List Char} (hb : ∀ c ∈ before, isBlank c = true)
    (ha : ∀ c ∈ after, isBlank c = true) (same : SameLetters core (name a).toList) :
    Spelled (before ++ core ++ after) a := by
  have alone : trim core = core := trim_of_no_blank fun c mem => (plain_of_same same mem).2
  unfold Spelled
  rwa [trim_around hb ha, alone]

end Members

/-- How texts are read as members of a choice. -/
structure ReadsNames (α : Type) [Choice α] : Prop where
  parse_eq_ok_iff : ∀ (text : String) (a : α), parse α text = .ok a ↔
    SameLetters (trim text.toList) (name a).toList
  unique : ∀ (text : String) (a b : α), SameLetters (trim text.toList) (name a).toList →
    SameLetters (trim text.toList) (name b).toList → a = b
  /-- Every other text fails, and the failure carries it as it was. -/
  refused : ∀ text : String, (∀ a : α, ¬ SameLetters (trim text.toList) (name a).toList) →
    parse α text = .error (.parse text ("unknown " ++ what α ++ " (expected one of " ++
      ", ".intercalate ((all : List α).map name) ++ ")"))
  /-- No name has letters beyond ASCII in it, or white space. -/
  foreign : ∀ (text : String) (c : Char), c ∈ trim text.toList →
    128 ≤ c.toNat ∨ isBlank c = true → ∀ a : α, ¬ SameLetters (trim text.toList) (name a).toList
  /-- What is read is a member's name with letters of any case, between any white space. -/
  between : ∀ (text : String) (a : α), parse α text = .ok a ↔ ∃ before core after,
    text.toList = before ++ core ++ after ∧ (∀ c ∈ before, isBlank c = true) ∧
    (∀ c ∈ after, isBlank c = true) ∧ SameLetters core (name a).toList

theorem readsNames [Lawful α] : ReadsNames α where
  parse_eq_ok_iff text a := parse_eq_ok_iff
  unique text a b h h' := Spelled.unique h h'
  refused text h := parse_of_not_spelled h
  foreign text c mem foreign a same := by
    obtain ⟨low, plain⟩ := plain_of_same same mem
    rcases foreign with beyond | blank
    · omega
    · rw [plain] at blank
      cases blank
  between text a := by
    rw [Choice.parse_eq_ok_iff]
    constructor
    · intro spelled
      obtain ⟨before, after, hb, ha, cut⟩ := exists_trim text.toList
      exact ⟨before, _, after, cut, hb, ha, spelled⟩
    · rintro ⟨before, core, after, cut, hb, ha, same⟩
      rw [cut]
      exact spelled_between hb ha same

theorem plain_of_all {text : List Char} (h : text.all fun c => c.toNat < 128 && !isBlank c) :
    ∀ c ∈ text, c.toNat < 128 ∧ isBlank c = false := by
  intro c mem
  simpa using List.all_eq_true.1 h c mem

instance : Lawful Pattern where
  mem_all a := by cases a <;> decide
  plain a := plain_of_all (by cases a <;> decide)
  distinct := by decide

instance : Lawful Loopback where
  mem_all a := by cases a <;> decide
  plain a := plain_of_all (by cases a <;> decide)
  distinct := by decide

instance : Lawful ReadoutMode where
  mem_all a := by cases a; decide
  plain a := plain_of_all (by cases a; decide)
  distinct := by decide

/-- **Names of patterns, loopback modes and readout modes.** A text is read as a member exactly if
without the white space around it it is the member's name, up to the case of letters of ASCII. It is
the name of one member at most, and every other text fails with itself, as it was, in the failure:
so do names with other letters that look alike, and those with white space inside. -/
theorem named_members : ReadsNames Pattern ∧ ReadsNames Loopback ∧ ReadsNames ReadoutMode :=
  ⟨readsNames, readsNames, readsNames⟩

/-- The long s is no letter of ASCII. -/
example : (parse Pattern " conSTant\u00a0").toOption = some .constant ∧
    (parse Pattern "con\u017ftant").toOption = none := by decide

end ReadoutCard.Choice
