/-! # White space and trimming

A character is blank when it has the Unicode property White_Space. `trim` takes every blank
character off both ends; zero-width characters have no such property and stay.
-/

namespace ReadoutCard.Text

/-- The code point ranges of the property White_Space, both ends included. -/
def blankRanges : List (Nat × Nat) :=
  [(0x09, 0x0d), (0x20, 0x20), (0x85, 0x85), (0xa0, 0xa0), (0x1680, 0x1680), (0x2000, 0x200a),
   (0x2028, 0x2029), (0x202f, 0x202f), (0x205f, 0x205f), (0x3000, 0x3000)]

/-- Whether `c` is white space. -/
def isBlank (c : Char) : Bool :=
  blankRanges.any fun (first, last) => first ≤ c.toNat && c.toNat ≤ last

/-- The text without blank characters at its start. -/
def trimStart (text : List Char) : List Char := text.dropWhile isBlank

/-- The text without blank characters at either end. -/
def trim (text : List Char) : List Char := (trimStart (trimStart text).reverse).reverse

/-- Trimming of strings. -/
def trimmed (text : String) : String := String.ofList (trim text.toList)

/-- Every character that core takes for white space is blank. -/
theorem isBlank_of_isWhitespace {c : Char} (h : c.isWhitespace = true) : isBlank c = true := by
  simp only [Char.isWhitespace, Bool.or_eq_true, decide_eq_true_eq] at h
  rcases h with ((rfl | rfl) | rfl) | rfl <;> decide

theorem trim_nil : trim [] = [] := rfl

theorem mem_trimStart {c : Char} {text : List Char} (h : isBlank c = false) (mem : c ∈ text) :
    c ∈ trimStart text := by
  induction text with
  | nil => cases mem
  | cons first rest ih =>
    unfold trimStart
    rw [List.dropWhile_cons]
    split
    case isTrue blank =>
      have other : c ≠ first := by
        rintro rfl
        rw [h] at blank
        cases blank
      exact ih (List.mem_of_ne_of_mem other mem)
    case isFalse => exact mem

/-- Only blank characters are taken off. -/
theorem mem_trim {c : Char} {text : List Char} (h : isBlank c = false) (mem : c ∈ text) :
    c ∈ trim text := by
  apply List.mem_reverse.2
  apply mem_trimStart h
  apply List.mem_reverse.2
  exact mem_trimStart h mem

/-- A text whose ends are not blank is its own trimming. -/
theorem trim_eq_self {text : List Char} (first : ∀ c, text.head? = some c → isBlank c = false)
    (last : ∀ c, text.getLast? = some c → isBlank c = false) : trim text = text := by
  have start : ∀ {s : List Char}, (∀ c, s.head? = some c → isBlank c = false) →
      trimStart s = s := by
    intro s hs
    cases s with
    | nil => rfl
    | cons c rest => simp [trimStart, hs c rfl]
  unfold trim
  rw [start first, start (by simpa [List.head?_reverse] using last), List.reverse_reverse]

/-- Blank characters in front make no difference. -/
theorem trim_append_left {blanks : List Char} (h : ∀ c ∈ blanks, isBlank c = true)
    (text : List Char) : trim (blanks ++ text) = trim text := by
  have : trimStart (blanks ++ text) = trimStart text := by
    induction blanks with
    | nil => rfl
    | cons c rest ih =>
      simp only [List.mem_cons, forall_eq_or_imp] at h
      simpa [trimStart, List.dropWhile_cons, h.1] using ih h.2
  simp [trim, this]

end ReadoutCard.Text
