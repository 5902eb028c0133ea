import ReadoutCard.Text.Blank
import ReadoutCard.Text.Numeral

/-!
# What trimming takes off

Trimming takes white space off both ends and nothing else (`exists_trim`), so
white space added there makes no difference (`trim_around`). A numeral
has none in it, and is what is left of itself between white space
(`trim_between`).
-/

namespace ReadoutCard.Text

/-! ### Blank characters at the ends -/

theorem all_takeWhile_isBlank (text : List Char) :
    ∀ c ∈ text.takeWhile isBlank, isBlank c = true :=
  fun _ hc => List.all_eq_true.1 (List.all_takeWhile ..) _ hc

/-- What trimming takes off both ends is blank. -/
theorem exists_trim (text : List Char) : ∃ before after,
    (∀ c ∈ before, isBlank c = true) ∧ (∀ c ∈ after, isBlank c = true) ∧
      text = before ++ trim text ++ after := by
  let rest := trimStart text
  refine ⟨text.takeWhile isBlank, (rest.reverse.takeWhile isBlank).reverse,
    all_takeWhile_isBlank text, fun c hc => ?_, ?_⟩
  · exact all_takeWhile_isBlank rest.reverse c (List.mem_reverse.1 hc)
  · have cut : rest = trim text ++ (rest.reverse.takeWhile isBlank).reverse := by
      rw [trim, ← List.reverse_append, trimStart, List.takeWhile_append_dropWhile,
        List.reverse_reverse]
    rw [List.append_assoc, ← cut]
    exact (List.takeWhile_append_dropWhile ..).symm

theorem trimStart_eq_self {core : List Char} (hc : ∀ c ∈ core, isBlank c = false) :
    trimStart core = core := by
  cases core with
  | nil => rfl
  | cons c rest => simp [trimStart, hc c List.mem_cons_self]

/-- Of a text without blanks between blanks, the text is left. -/
theorem trim_between {before core after : List Char} (hb : ∀ c ∈ before, isBlank c = true)
    (hc : ∀ c ∈ core, isBlank c = false) (ha : ∀ c ∈ after, isBlank c = true) :
    trim (before ++ core ++ after) = core := by
  rw [List.append_assoc, trim_append_left hb]
  cases core with
  | nil =>
    have blank := trim_append_left ha []
    rwa [List.append_nil, trim_nil] at blank
  | cons c rest =>
    have front : trimStart (c :: rest ++ after) = c :: rest ++ after := by
      simp [trimStart, hc c List.mem_cons_self]
    have back : trimStart (after.reverse ++ (c :: rest).reverse) = (c :: rest).reverse := by
      rw [trimStart, List.dropWhile_append_of_pos fun c h => ha c (List.mem_reverse.1 h)]
      exact trimStart_eq_self fun c h => hc c (List.mem_reverse.1 h)
    rw [trim, front, List.reverse_append, back, List.reverse_reverse]

/-- Trimming leaves a text without blanks as it is. -/
theorem trim_of_no_blank {text : List Char} (h : ∀ c ∈ text, isBlank c = false) :
    trim text = text :=
  trim_eq_self (fun c first => h c (List.mem_of_mem_head? first))
    fun c last => h c (List.mem_of_getLast? last)

/-- Blank characters behind make no difference either. -/
theorem trim_append_right {blanks : List Char} (h : ∀ c ∈ blanks, isBlank c = true)
    (text : List Char) : trim (text ++ blanks) = trim text := by
  have reversed : ∀ c ∈ blanks.reverse, isBlank c = true := fun c hc => h c (List.mem_reverse.1 hc)
  unfold trim trimStart
  rw [List.dropWhile_append]
  split
  case isTrue empty =>
    have all : (blanks ++ []).dropWhile isBlank = [] := List.dropWhile_append_of_pos h
    rw [List.append_nil] at all
    rw [all, List.isEmpty_iff.1 empty]
  case isFalse => rw [List.reverse_append, List.dropWhile_append_of_pos reversed]

theorem trim_around {before after : List Char} (hb : ∀ c ∈ before, isBlank c = true)
    (ha : ∀ c ∈ after, isBlank c = true) (text : List Char) :
    trim (before ++ text ++ after) = trim text := by
  rw [trim_append_right ha, trim_append_left hb]

/-- A character is in a text exactly if it is in what trimming leaves, unless it is blank. -/
theorem mem_trim_iff {c : Char} {text : List Char} (h : isBlank c = false) :
    c ∈ trim text ↔ c ∈ text := by
  refine ⟨fun mem => ?_, mem_trim h⟩
  obtain ⟨before, after, -, -, cut⟩ := exists_trim text
  rw [cut]
  exact List.mem_append_left _ (List.mem_append_right _ mem)

/-! ### Texts with a separator in them

Where a text has a separator, trimming leaves it and what is next to it. -/

/-- The text without blank characters at its end. -/
def trimEnd (text : List Char) : List Char := (trimStart text.reverse).reverse

theorem trim_trimStart (text : List Char) : trim (trimStart text) = trim text := by
  have around := trim_append_left (all_takeWhile_isBlank text) (trimStart text)
  rw [trimStart, List.takeWhile_append_dropWhile] at around
  exact around.symm

theorem trim_trimEnd (text : List Char) : trim (trimEnd text) = trim text := by
  have blank : ∀ c ∈ (text.reverse.takeWhile isBlank).reverse, isBlank c = true :=
    fun c hc => all_takeWhile_isBlank text.reverse c (List.mem_reverse.1 hc)
  have around := trim_append_right blank (trimEnd text)
  rw [trimEnd, trimStart, ← List.reverse_append, List.takeWhile_append_dropWhile,
    List.reverse_reverse] at around
  exact around.symm

theorem trimStart_append_cons {c : Char} (h : isBlank c = false) (front back : List Char) :
    trimStart (front ++ c :: back) = trimStart front ++ c :: back := by
  have stops : (c :: back).dropWhile isBlank = c :: back := by simp [h]
  unfold trimStart
  rw [List.dropWhile_append]
  split
  case isTrue empty => rw [stops, List.isEmpty_iff.1 empty, List.nil_append]
  case isFalse => rfl

theorem trimEnd_append_cons {c : Char} (h : isBlank c = false) (front back : List Char) :
    trimEnd (front ++ c :: back) = front ++ c :: trimEnd back := by
  unfold trimEnd
  rw [List.reverse_append, List.reverse_cons, List.append_assoc, List.singleton_append,
    trimStart_append_cons h, List.reverse_append, List.reverse_cons, List.reverse_reverse,
    List.append_assoc, List.singleton_append]

theorem trim_append_cons {c : Char} (h : isBlank c = false) (front back : List Char) :
    trim (front ++ c :: back) = trimStart front ++ c :: trimEnd back := by
  show trimEnd (trimStart (front ++ c :: back)) = _
  rw [trimStart_append_cons h, trimEnd_append_cons h]

/-! ### Numerals have no blanks in them -/

namespace Numeral

variable {radix limit n : Nat} {text : List Char}

theorem digit_of_magnitude {excess : NumeralError} {read : Nat}
    (h : magnitude radix limit excess read text = .ok n) : ∀ c ∈ text, (digit? radix c).isSome := by
  induction text generalizing read with
  | nil => simp
  | cons c rest ih =>
    rw [magnitude] at h
    cases hd : digit? radix c with
    | none =>
      rw [hd] at h
      cases h
    | some d =>
      rw [hd] at h
      simp only at h
      split at h
      · exact List.forall_mem_cons.2 ⟨by rw [hd]; rfl, ih h⟩
      · cases h

/-- A numeral consists of digits after at most one sign. -/
theorem digit_of_natural (h : natural radix limit text = .ok n) :
    ∀ c ∈ text, c = '+' ∨ (digit? radix c).isSome := by
  unfold natural at h
  split at h
  · cases h
  · exact List.forall_mem_cons.2 ⟨.inl rfl, fun c hc => .inr (digit_of_magnitude h c hc)⟩
  · exact fun c hc => .inr (digit_of_magnitude h c hc)

/-- Digits and letters lie between the blanks of ASCII and those beyond. -/
theorem code_of_digit {c : Char} (h : (digit? radix c).isSome) : 48 ≤ c.toNat ∧ c.toNat ≤ 122 := by
  have code {first last : Char} (inside : first ≤ c ∧ c ≤ last) :
      first.toNat ≤ c.toNat ∧ c.toNat ≤ last.toNat := inside
  have value : (digitValue? c).isSome := by
    cases hv : digitValue? c with
    | none => simp [digit?, hv] at h
    | some d => rfl
  unfold digitValue? at value
  split at value
  case isTrue digit => exact ⟨(code digit).1, Nat.le_trans (code digit).2 (by decide)⟩
  split at value
  case isTrue lower => exact ⟨Nat.le_trans (by decide) (code lower).1, (code lower).2⟩
  split at value
  case isTrue upper =>
    exact ⟨Nat.le_trans (by decide) (code upper).1, Nat.le_trans (code upper).2 (by decide)⟩
  cases value

theorem not_blank_of_code {c : Char} (h : 48 ≤ c.toNat ∧ c.toNat ≤ 122) : isBlank c = false := by
  simp [isBlank, blankRanges]
  omega

theorem not_blank_of_digit {c : Char} (h : (digit? radix c).isSome) : isBlank c = false :=
  not_blank_of_code (code_of_digit h)

theorem not_blank_of_natural (h : natural radix limit text = .ok n) :
    ∀ c ∈ text, isBlank c = false := by
  intro c hc
  obtain rfl | digit := digit_of_natural h c hc
  · decide
  · exact not_blank_of_digit digit

end Numeral

end ReadoutCard.Text
