import ReadoutCard.Proofs.LinkMask

/-!
# The texts that are link masks

A text is a mask exactly if each of its pieces is one link or an ascending range
(`exists_parse_iff`), and every other text is reported as a whole
(`error_of_parse`). What is read depends on the pieces only as a set
(`parse_congr`); the pieces of texts that are put together with commas are those
of all the texts (`pieces_intercalate`), so that masks are united that way and a
written mask is read again (`parse_tokens`).
-/

namespace ReadoutCard.Text

variable {separator : Char}

theorem consFirst_append {c : Char} {pieces : List (List Char)} (some : pieces ≠ [])
    (more : List (List Char)) : consFirst c (pieces ++ more) = consFirst c pieces ++ more := by
  cases pieces with
  | nil => exact absurd rfl some
  | cons => rfl

/-- A separator between two texts keeps their pieces apart. -/
theorem pieces_append (before after : List Char) :
    pieces separator (before ++ separator :: after) =
      pieces separator before ++ pieces separator after := by
  induction before with
  | nil => simp [pieces]
  | cons c rest ih =>
    by_cases here : c = separator
    · rw [List.cons_append, pieces, pieces, if_pos here, if_pos here, ih, List.cons_append]
    · rw [List.cons_append, pieces, pieces, if_neg here, if_neg here, ih,
        consFirst_append (pieces_ne_nil separator rest)]

/-- A text without separators is one piece. -/
theorem pieces_of_notMem {text : List Char} (h : separator ∉ text) :
    pieces separator text = [text] := by
  induction text with
  | nil => rfl
  | cons c rest ih =>
    rw [List.mem_cons, not_or] at h
    rw [pieces, if_neg (Ne.symm h.1), ih h.2, consFirst]

theorem pieces_comma (before after : String) :
    pieces ',' (before ++ "," ++ after).toList =
      pieces ',' before.toList ++ pieces ',' after.toList := by
  rw [String.toList_append, String.toList_append, List.append_assoc]
  exact pieces_append _ _

/-- Texts with commas between them have the pieces of all the texts. -/
theorem pieces_intercalate {texts : List String} (some : texts ≠ []) :
    pieces ',' (",".intercalate texts).toList =
      texts.flatMap fun text => pieces ',' text.toList := by
  induction texts with
  | nil => exact absurd rfl some
  | cons first rest ih =>
    cases rest with
    | nil => simp
    | cons second more =>
      rw [String.intercalate_cons_cons, pieces_comma, ih (List.cons_ne_nil second more)]
      rfl

end ReadoutCard.Text

namespace ReadoutCard.LinkMask

open Text Text.Numeral

variable {input : String} {text piece : List Char} {links : List Nat} {link : Nat}

/-! ### The grammar -/

theorem exists_parsePieces_iff {m : LinkMask} {pieces : List (List Char)} :
    (∃ result, parsePieces input m pieces = .ok result) ↔
      ∀ piece ∈ pieces, ∃ low high, Spans piece low high := by
  induction pieces generalizing m with
  | nil => simp [parsePieces]
  | cons piece more ih =>
    rw [List.forall_mem_cons]
    constructor
    · rintro ⟨result, h⟩
      obtain ⟨links, read, h⟩ := except_bind_eq_ok.1 h
      obtain ⟨low, high, spans, -⟩ := spans_of_parsePiece read
      exact ⟨⟨low, high, spans⟩, ih.1 ⟨result, h⟩⟩
    · rintro ⟨⟨low, high, spans⟩, all⟩
      obtain ⟨result, read⟩ := ih.2 all
      exact ⟨result, except_bind_eq_ok.2 ⟨_, spans.parsePiece input, read⟩⟩

/-- A text is a mask if each piece between commas is a link or an ascending range. -/
theorem exists_parse_iff : (∃ m, parse input = .ok m) ↔
    ∀ piece ∈ pieces ',' input.toList, ∃ low high, Spans piece low high :=
  exists_parsePieces_iff

theorem parse_eq_ok_iff {m : LinkMask} : parse input = .ok m ↔
    (∀ piece ∈ pieces ',' input.toList, ∃ low high, Spans piece low high) ∧
      ∀ link, link ∈ m ↔ Covers input link := by
  rw [← exists_parse_iff]
  constructor
  · intro h
    exact ⟨⟨m, h⟩, mem_iff_covers h⟩
  · rintro ⟨⟨m', h⟩, covers⟩
    have same : m' = m := ext_of_mem_iff fun link => (mem_iff_covers h link).trans (covers link).symm
    rw [h, same]

/-! ### Reported texts -/

theorem error_of_parseLink {e : Error} (h : parseLink input text = .error e) :
    ∃ reason, e = .parse input reason := by
  unfold parseLink at h
  split at h
  · cases h
    exact ⟨_, rfl⟩
  · split at h
    · cases h
    · cases h
      exact ⟨_, rfl⟩

theorem error_of_parsePiece {e : Error} (h : parsePiece input piece = .error e) :
    ∃ reason, e = .parse input reason := by
  unfold parsePiece at h
  split at h
  · exact error_of_parseLink (except_map_eq_error.1 h)
  · rcases except_bind_eq_error.1 h with first | ⟨low, -, h⟩
    · exact error_of_parseLink first
    rcases except_bind_eq_error.1 h with last | ⟨high, -, h⟩
    · exact error_of_parseLink last
    split at h
    · cases h
    · cases h
      exact ⟨_, rfl⟩

theorem error_of_parsePieces {m : LinkMask} {pieces : List (List Char)} {e : Error}
    (h : parsePieces input m pieces = .error e) : ∃ reason, e = .parse input reason := by
  induction pieces generalizing m with
  | nil => cases h
  | cons piece more ih =>
    rcases except_bind_eq_error.1 h with first | ⟨links, -, h⟩
    · exact error_of_parsePiece first
    · exact ih h

/-- A text that is no mask is reported as it was given. -/
theorem parse_malformed (h : ¬ ∃ m, parse input = .ok m) :
    ∃ reason, parse input = .error (.parse input reason) := by
  cases result : parse input with
  | ok m => exact absurd ⟨m, result⟩ h
  | error e =>
    obtain ⟨reason, rfl⟩ := error_of_parsePieces result
    exact ⟨reason, rfl⟩

/-! ### Masks put together -/

/-- What is read depends on which pieces there are, not on their order and number. -/
theorem parse_congr {other : String} {m : LinkMask}
    (same : ∀ piece, piece ∈ pieces ',' input.toList ↔ piece ∈ pieces ',' other.toList) :
    parse input = .ok m ↔ parse other = .ok m := by
  simp only [parse_eq_ok_iff, Covers, same]

/-- A comma between two texts unites their masks. -/
theorem parse_comma {a b : String} {m : LinkMask} : parse (a ++ "," ++ b) = .ok m ↔
    ∃ ma mb, parse a = .ok ma ∧ parse b = .ok mb ∧ ∀ link, link ∈ m ↔ link ∈ ma ∨ link ∈ mb := by
  have covers (link : Nat) :
      Covers (a ++ "," ++ b) link ↔ Covers a link ∨ Covers b link := by
    simp only [Covers, pieces_comma, List.mem_append, or_and_right, exists_or]
  rw [parse_eq_ok_iff, pieces_comma, List.forall_mem_append, ← exists_parse_iff,
    ← exists_parse_iff]
  constructor
  · rintro ⟨⟨⟨ma, ha⟩, ⟨mb, hb⟩⟩, holds⟩
    refine ⟨ma, mb, ha, hb, fun link => ?_⟩
    rw [holds, covers, mem_iff_covers ha, mem_iff_covers hb]
  · rintro ⟨ma, mb, ha, hb, union⟩
    refine ⟨⟨⟨ma, ha⟩, ⟨mb, hb⟩⟩, fun link => ?_⟩
    rw [union, covers, mem_iff_covers ha, mem_iff_covers hb]

/-- Texts between commas may be in any order, and repeated. -/
theorem parse_intercalate_congr {texts others : List String} {m : LinkMask}
    (same : ∀ text, text ∈ texts ↔ text ∈ others) :
    parse (",".intercalate texts) = .ok m ↔ parse (",".intercalate others) = .ok m := by
  by_cases none_here : texts = []
  · have nothing : others = [] := by
      rw [List.eq_nil_iff_forall_not_mem]
      intro text mem
      rw [← same, none_here] at mem
      cases mem
    rw [none_here, nothing]
  · obtain ⟨text, mem⟩ := List.exists_mem_of_ne_nil texts none_here
    have some : others ≠ [] := List.ne_nil_of_mem ((same text).1 mem)
    apply parse_congr
    intro piece
    rw [pieces_intercalate none_here, pieces_intercalate some, List.mem_flatMap, List.mem_flatMap]
    simp only [same]

/-! ### Written masks -/

/-- One link of a written mask, or all links from the first to the last one. -/
inductive Token where
  | single (number : Nat)
  | range (first last : Nat)

namespace Token

/-- The token as it is written. -/
def written : Token → String
  | single number => toString number
  | range first last => toString first ++ "-" ++ toString last

def first : Token → Nat
  | single number => number
  | range first _ => first

def last : Token → Nat
  | single number => number
  | range _ last => last

/-- The token stands for the link. -/
def Holds (token : Token) (link : Nat) : Prop := token.first ≤ link ∧ link ≤ token.last

theorem spans_written {token : Token} (ascending : token.first ≤ token.last)
    (has : token.last ≤ maxLink) : Spans token.written.toList token.first token.last := by
  cases token with
  | single number => exact .single (spells_toString number) has
  | range first last =>
    have dash : (range first last).written.toList =
        (toString first).toList ++ '-' :: (toString last).toList := by
      rw [written, String.toList_append, String.toList_append, List.append_assoc]
      rfl
    rw [dash]
    exact .range (spells_toString first) (spells_toString last) ascending has

end Token

theorem Spans.comma_notMem {low high : Nat} (h : Spans piece low high) : ',' ∉ piece := by
  have number {text : List Char} {link : Nat} (names : Names text link) : ',' ∉ text :=
    Spells.notMem names (by decide) (by decide) (by decide)
  cases h with
  | single names => exact number names
  | range names_low names_high =>
    simp [number names_low, number names_high]

/-- A mask that was written as numbers and ranges, in any order, is read again. -/
theorem parse_tokens {m : LinkMask} {tokens : List Token} (some : ∃ link, link ∈ m)
    (small : ∀ link ∈ m, link ≤ maxLink) (ascending : ∀ token ∈ tokens, token.first ≤ token.last)
    (same : ∀ link, link ∈ m ↔ ∃ token ∈ tokens, token.Holds link) :
    parse (",".intercalate (tokens.map Token.written)) = .ok m := by
  have spans : ∀ token ∈ tokens, Spans token.written.toList token.first token.last := by
    intro token mem
    have up := ascending token mem
    have last_mem := (same token.last).2 ⟨token, mem, up, Nat.le_refl _⟩
    exact Token.spans_written up (small _ last_mem)
  have nonempty : tokens.map Token.written ≠ [] := by
    obtain ⟨link, mem⟩ := some
    obtain ⟨token, mem, -⟩ := (same link).1 mem
    exact List.ne_nil_of_mem (List.mem_map_of_mem mem)
  have texts (piece : List Char) :
      piece ∈ pieces ',' (",".intercalate (tokens.map Token.written)).toList ↔
        ∃ token ∈ tokens, piece = token.written.toList := by
    rw [pieces_intercalate nonempty, List.flatMap_map, List.mem_flatMap]
    apply exists_congr
    intro token
    apply and_congr_right
    intro mem
    rw [pieces_of_notMem (spans token mem).comma_notMem, List.mem_singleton]
  rw [parse_eq_ok_iff]
  constructor
  · intro piece mem
    obtain ⟨token, here, rfl⟩ := (texts piece).1 mem
    exact ⟨_, _, spans token here⟩
  · intro link
    rw [same]
    constructor
    · rintro ⟨token, mem, holds⟩
      exact ⟨_, (texts _).2 ⟨token, mem, rfl⟩, (spans token mem).covers_iff.2 holds⟩
    · rintro ⟨piece, mem, covers⟩
      obtain ⟨token, here, rfl⟩ := (texts piece).1 mem
      exact ⟨token, here, (spans token here).covers_iff.1 covers⟩

/-- **The grammar of masks.** A text is read as a mask exactly if each of its pieces between commas
is the number of a link up to 31, or two such numbers that do not descend around a dash; the mask
holds the links that some piece covers. Every other text is reported as it was given. A comma
between two texts unites their masks, so that neither order nor repetitions matter, and a mask that
was written as numbers and ranges is read again. -/
theorem grammar_of_masks :
    (∀ input m, parse input = .ok m ↔
      (∀ piece ∈ pieces ',' input.toList, ∃ low high, Spans piece low high) ∧
        ∀ link, link ∈ m ↔ Covers input link) ∧
    (∀ input, (¬ ∀ piece ∈ pieces ',' input.toList, ∃ low high, Spans piece low high) →
      ∃ reason, parse input = .error (.parse input reason)) ∧
    (∀ a b, (∃ m, parse (a ++ "," ++ b) = .ok m) ↔
      (∃ m, parse a = .ok m) ∧ ∃ m, parse b = .ok m) ∧
    (∀ a b m, parse (a ++ "," ++ b) = .ok m ↔
      ∃ ma mb, parse a = .ok ma ∧ parse b = .ok mb ∧
        ∀ link, link ∈ m ↔ link ∈ ma ∨ link ∈ mb) ∧
    (∀ texts others m, (∀ text, text ∈ texts ↔ text ∈ others) →
      (parse (",".intercalate texts) = .ok m ↔ parse (",".intercalate others) = .ok m)) ∧
    ∀ (m : LinkMask) (tokens : List Token), (∃ link, link ∈ m) → (∀ link ∈ m, link ≤ 31) →
      (∀ token ∈ tokens, token.first ≤ token.last) →
      (∀ link, link ∈ m ↔ ∃ token ∈ tokens, token.Holds link) →
      parse (",".intercalate (tokens.map Token.written)) = .ok m := by
  refine ⟨fun input m => parse_eq_ok_iff, ?_, ?_, fun a b m => parse_comma,
    fun texts others m => parse_intercalate_congr, fun m tokens => parse_tokens⟩
  · intro input other
    rw [← exists_parse_iff] at other
    exact parse_malformed other
  · intro a b
    rw [exists_parse_iff, pieces_comma, List.forall_mem_append, exists_parse_iff, exists_parse_iff]

example : ",".intercalate ([Token.range 8 10, .single 0, .single 9].map Token.written) = "8-10,0,9" ∧
    parse "8-10,0,9" = .ok (ofList [0, 8, 9, 10]) := by
  constructor
  · decide
  · cbv

end ReadoutCard.LinkMask
