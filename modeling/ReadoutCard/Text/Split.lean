/-! # Cutting text at a separator character

`splitOnce` cuts at the first separator, `pieces` at every one, `firstLine` at a line end. Joining
what was cut off with the separator gives the text back (`splitOnce_eq_some`, `join_pieces`).
-/

namespace ReadoutCard.Text

/-- The text before and after the first `separator`, if it holds one. -/
def splitOnce (separator : Char) : List Char → Option (List Char × List Char)
  | [] => none
  | c :: rest =>
    if c = separator then some ([], rest)
    else (splitOnce separator rest).map fun (before, after) => (c :: before, after)

/-- Puts `c` in front of the first of several pieces. -/
def consFirst (c : Char) : List (List Char) → List (List Char)
  | [] => [[c]]
  | piece :: more => (c :: piece) :: more

/-- All pieces of the text between separators, empty ones included: one more than separators. -/
def pieces (separator : Char) : List Char → List (List Char)
  | [] => [[]]
  | c :: rest =>
    if c = separator then [] :: pieces separator rest else consFirst c (pieces separator rest)

/-- The first line of a text, without its end: a line feed, or a carriage return and a line feed. -/
def firstLine (text : List Char) : List Char :=
  match splitOnce '\n' text with
  | none => text
  | some (line, _) => if line.getLast? = some '\r' then line.dropLast else line

/-- The pieces with the separator between each two. -/
def join (separator : Char) : List (List Char) → List Char
  | [] => []
  | [piece] => piece
  | piece :: more => piece ++ separator :: join separator more

theorem splitOnce_eq_some {separator : Char} {text before after : List Char}
    (h : splitOnce separator text = some (before, after)) :
    text = before ++ separator :: after ∧ separator ∉ before := by
  induction text generalizing before after with
  | nil => simp [splitOnce] at h
  | cons c rest ih =>
    by_cases hc : c = separator
    · simp [splitOnce, hc] at h
      simp [h, hc]
    · simp only [splitOnce, hc, if_false, Option.map_eq_some_iff, Prod.mk.injEq, Prod.exists] at h
      obtain ⟨b, a, hb, rfl, rfl⟩ := h
      obtain ⟨rfl, hn⟩ := ih hb
      simp [hn, Ne.symm hc]

theorem splitOnce_append {separator : Char} {before : List Char} (after : List Char)
    (h : separator ∉ before) :
    splitOnce separator (before ++ separator :: after) = some (before, after) := by
  induction before with
  | nil => simp [splitOnce]
  | cons c rest ih =>
    simp only [List.mem_cons, not_or] at h
    simp [splitOnce, Ne.symm h.1, ih h.2]

theorem splitOnce_eq_none {separator : Char} {text : List Char} :
    splitOnce separator text = none ↔ separator ∉ text := by
  induction text with
  | nil => simp [splitOnce]
  | cons c rest ih =>
    by_cases hc : c = separator
    · simp [splitOnce, hc]
    · simp [splitOnce, hc, ih, Ne.symm hc]

theorem pieces_ne_nil (separator : Char) (text : List Char) : pieces separator text ≠ [] := by
  cases text with
  | nil => simp [pieces]
  | cons c rest =>
    by_cases hc : c = separator
    · simp [pieces, hc]
    · simp only [pieces, hc, if_false]
      cases pieces separator rest <;> simp [consFirst]

theorem join_pieces (separator : Char) (text : List Char) :
    join separator (pieces separator text) = text := by
  induction text with
  | nil => simp [pieces, join]
  | cons c rest ih =>
    by_cases hc : c = separator
    · subst hc
      rw [pieces, if_pos rfl]
      cases hp : pieces c rest with
      | nil => exact absurd hp (pieces_ne_nil c rest)
      | cons piece more => rw [← ih, hp]; rfl
    · rw [pieces, if_neg hc]
      cases hp : pieces separator rest with
      | nil => exact absurd hp (pieces_ne_nil separator rest)
      | cons piece more =>
        rw [hp] at ih
        cases more <;> simp_all [consFirst, join]

end ReadoutCard.Text
