import Mathlib.Data.List.Sort
import ReadoutCard.Cru.Accessors
import ReadoutCard.Proofs.Bits
import ReadoutCard.Proofs.Text.Spelling
import ReadoutCard.Proofs.Traces
import ReadoutCard.Window.Memory

/-!
# Masks, their enable words and the texts they are read from

Setting the bits of a list of links adds exactly these bits to a word
(`testBit_of_setBits`, by induction on the list), and fails at the first link of
the list that has no bit; the list ascends, so this is the smallest one
(`setBits_eq_error`). A piece of a text is read if it spans links that have a bit
(`spans_of_parsePiece`, `Spans.parsePiece`), so a mask that was read holds the
links that its text covers (`mem_iff_covers`), and all of these have a bit.
-/

namespace ReadoutCard.LinkMask

open Text Text.Numeral

variable {input : String} {text piece : List Char} {links : List Nat} {link : Nat}

/-! ### Enable words -/

theorem le_maxLink_iff : link ≤ maxLink ↔ link < 32 := by
  show link ≤ 31 ↔ _
  omega

/-- The bit of a link has a one in the link's place and zeros elsewhere. -/
theorem testBit_one_shiftLeft (has : link ≤ maxLink) {i : Nat} (hi : i < 32) :
    ((1 : UInt32) <<< UInt32.ofNat link).toNat.testBit i = decide (i = link) := by
  rw [Bits.testBit_shiftLeft _ (le_maxLink_iff.1 has), UInt32.toNat_one]
  apply Bool.eq_iff_iff.2
  simp only [Bool.and_eq_true, decide_eq_true_eq, Nat.testBit_one_eq_true_iff_self_eq_zero]
  omega

/-- What was set is what the word had, and one bit for each link. -/
theorem testBit_of_setBits {word result : UInt32} (h : setBits word links = .ok result) {i : Nat}
    (hi : i < 32) : result.toNat.testBit i = true ↔ word.toNat.testBit i = true ∨ i ∈ links := by
  induction links generalizing word with
  | nil =>
    cases h
    simp
  | cons link rest ih =>
    unfold setBits at h
    split at h
    case isTrue has =>
      rw [ih h, UInt32.toNat_or, Nat.testBit_or, testBit_one_shiftLeft has hi, Bool.or_eq_true,
        decide_eq_true_eq, List.mem_cons, or_assoc]
    case isFalse => cases h

theorem exists_setBits_iff {word : UInt32} :
    (∃ result, setBits word links = .ok result) ↔ ∀ link ∈ links, link ≤ maxLink := by
  induction links generalizing word with
  | nil => simp [setBits]
  | cons link rest ih =>
    rw [List.forall_mem_cons]
    by_cases has : link ≤ maxLink
    · rw [setBits, if_pos has, ih]
      exact ⟨fun h => ⟨has, h⟩, And.right⟩
    · rw [setBits, if_neg has]
      constructor
      · rintro ⟨result, absurd⟩
        cases absurd
      · intro h
        exact absurd h.1 has

theorem outOfRange_eq (link : Nat) :
    outOfRange link = "link " ++ toString link ++ " out of range (max 31)" := by
  have limit : " out of range (max " ++ toString maxLink ++ ")" = " out of range (max 31)" := rfl
  rw [← limit, outOfRange]
  simp only [String.append_assoc]

/-- The smallest link without a bit is reported: in an ascending list it is the first one. -/
theorem setBits_eq_error (ascending : links.Pairwise (· < ·)) (mem : link ∈ links)
    (beyond : maxLink < link) (least : ∀ other ∈ links, maxLink < other → link ≤ other)
    (word : UInt32) :
    setBits word links = .error (.configuration "LinkMask"
      ("link " ++ toString link ++ " out of range (max 31)")) := by
  induction links generalizing word with
  | nil => cases mem
  | cons first rest ih =>
    rw [List.pairwise_cons] at ascending
    rw [List.forall_mem_cons] at least
    unfold setBits
    by_cases has : first ≤ maxLink
    · have other : link ≠ first := by omega
      rw [if_pos has]
      exact ih ascending.2 (List.mem_of_ne_of_mem other mem) least.2 _
    · have same : link = first := by
        have below := least.1 (Nat.lt_of_not_le has)
        rcases List.mem_cons.1 mem with same | later
        · exact same
        · have above := ascending.1 link later
          omega
      rw [if_neg has, same, outOfRange_eq]

theorem mem_links {m : LinkMask} : link ∈ m.links ↔ link ∈ m := Iff.rfl

theorem ext_of_mem_iff {m m' : LinkMask} (h : ∀ link, link ∈ m ↔ link ∈ m') : m = m' := by
  have same : m.links = m'.links := m.ascending.eq_of_mem_iff m'.ascending h
  cases m
  cases m'
  cases same
  rfl

theorem exists_enableWord_iff {m : LinkMask} :
    (∃ word, m.enableWord = .ok word) ↔ ∀ link ∈ m, link ≤ maxLink :=
  exists_setBits_iff

/-- A word has the bit of a link set if the link is in the mask. -/
theorem testBit_enableWord {m : LinkMask} {word : UInt32} (h : m.enableWord = .ok word) {i : Nat}
    (hi : i < 32) : word.toNat.testBit i = true ↔ i ∈ m := by
  rw [testBit_of_setBits h hi, UInt32.toNat_zero, Nat.zero_testBit, mem_links]
  simp

/-- Masks with the same word are the same. -/
theorem enableWord_injective {m m' : LinkMask} {word : UInt32} (h : m.enableWord = .ok word)
    (h' : m'.enableWord = .ok word) : m' = m := by
  have has : ∀ {m : LinkMask}, m.enableWord = .ok word → ∀ link ∈ m, link < 32 :=
    fun h link mem => le_maxLink_iff.1 (exists_enableWord_iff.1 ⟨word, h⟩ link mem)
  apply ext_of_mem_iff
  intro link
  constructor
  · intro mem
    have small := has h' link mem
    exact (testBit_enableWord h small).1 ((testBit_enableWord h' small).2 mem)
  · intro mem
    have small := has h link mem
    exact (testBit_enableWord h' small).1 ((testBit_enableWord h small).2 mem)

/-- A mask that has no word is reported by its smallest link without a bit. -/
theorem exists_least {m : LinkMask} (h : ¬ ∀ link ∈ m, link ≤ maxLink) :
    ∃ link ∈ m, maxLink < link ∧ (∀ other ∈ m, maxLink < other → link ≤ other) ∧
      m.enableWord = .error (.configuration "LinkMask"
        ("link " ++ toString link ++ " out of range (max 31)")) := by
  have some : ∃ link, link ∈ m.links ∧ maxLink < link := by
    simpa only [not_forall, Nat.not_le, exists_prop, mem_links] using h
  obtain ⟨mem, beyond⟩ := Nat.find_spec some
  have least : ∀ other ∈ m.links, maxLink < other → Nat.find some ≤ other :=
    fun other mem beyond => Nat.find_min' some ⟨mem, beyond⟩
  exact ⟨Nat.find some, mem, beyond, least, setBits_eq_error m.ascending mem beyond least 0⟩

/-! ### What a text covers -/

/-- The text is a decimal number: digits, perhaps after a sign, with white space around. -/
def Names (text : List Char) (link : Nat) : Prop :=
  ∃ digits, (trim text = digits ∨ trim text = '+' :: digits) ∧ digits ≠ [] ∧
    (∀ c ∈ digits, ∃ d, digit? 10 c = some d) ∧ value 10 digits = link

/-- The piece is the link's number, or a range that the link lies in. -/
inductive PieceCovers : List Char → Nat → Prop
  | single {text : List Char} {link : Nat} (names : Names text link) : PieceCovers text link
  | range {first last : List Char} {low high link : Nat} (names_low : Names first low)
      (names_high : Names last high) (above : low ≤ link) (below : link ≤ high) :
      PieceCovers (first ++ '-' :: last) link

/-- Some piece between commas covers the link. -/
def Covers (input : String) (link : Nat) : Prop :=
  ∃ piece ∈ pieces ',' input.toList, PieceCovers piece link

/-- A numeral is read by any type that its value fits. -/
theorem Names.natural {limit : Nat} (h : Names text link) (fits : link ≤ limit) :
    natural 10 limit (trim text) = .ok link :=
  (natural_trim_eq_ok_iff (by decide)).2 ⟨h, fits⟩

theorem names_of_natural {limit : Nat} (h : Numeral.natural 10 limit (trim text) = .ok link) :
    Names text link :=
  spells_of_natural (by decide) h

/-- A text is the number of one link at most. -/
theorem Names.unique {other : Nat} (h : Names text link) (h' : Names text other) :
    link = other :=
  Spells.unique (by decide) h h'

/-- A number holds no dash. -/
theorem Names.dash_notMem (h : Names text link) : '-' ∉ text :=
  Spells.notMem h (by decide) (by decide) (by decide)

theorem parseLink_eq_ok_iff :
    parseLink input text = .ok link ↔ Names text link ∧ link ≤ maxLink := by
  unfold parseLink
  constructor
  · intro h
    split at h
    · cases h
    case h_2 number known =>
      split at h
      · cases h
        exact ⟨names_of_natural known, by assumption⟩
      · cases h
  · rintro ⟨names, has⟩
    rw [names.natural (Nat.le_trans has (by decide))]
    exact if_pos has

/-- A piece with a dash is cut at the first one, as neither number holds any. -/
theorem pieceCovers_dash_iff {first last : List Char} (dash : '-' ∉ first) :
    PieceCovers (first ++ '-' :: last) link ↔
      ∃ low high, Names first low ∧ Names last high ∧ low ≤ link ∧ link ≤ high := by
  constructor
  · intro covers
    generalize same : first ++ '-' :: last = piece at covers
    cases covers with
    | single names =>
      rw [← same] at names
      exact absurd (by simp) names.dash_notMem
    | range names_low names_high above below =>
      have cut := splitOnce_append last dash
      rw [same, splitOnce_append _ names_low.dash_notMem] at cut
      cases cut
      exact ⟨_, _, names_low, names_high, above, below⟩
  · rintro ⟨low, high, names_low, names_high, above, below⟩
    exact .range names_low names_high above below

/-- The piece is the number of a link that has a bit, or an ascending range of such links. -/
inductive Spans : List Char → Nat → Nat → Prop
  | single {text : List Char} {link : Nat} (names : Names text link) (has : link ≤ maxLink) :
      Spans text link link
  | range {first last : List Char} {low high : Nat} (names_low : Names first low)
      (names_high : Names last high) (ascending : low ≤ high) (has : high ≤ maxLink) :
      Spans (first ++ '-' :: last) low high

theorem Spans.has {low high : Nat} (h : Spans piece low high) : high ≤ maxLink := by
  cases h <;> assumption

theorem Spans.mem_links {low high : Nat} (h : Spans piece low high) :
    link ∈ List.range' low (high - low + 1) ↔ low ≤ link ∧ link ≤ high := by
  have ascending : low ≤ high := by
    cases h with
    | single => exact Nat.le_refl _
    | range _ _ ascending => exact ascending
  rw [List.mem_range'_1]
  omega

theorem Spans.covers_iff {low high : Nat} (h : Spans piece low high) :
    PieceCovers piece link ↔ low ≤ link ∧ link ≤ high := by
  cases h with
  | single names =>
    constructor
    · rintro (names' | _)
      · obtain rfl := names.unique names'
        exact ⟨Nat.le_refl _, Nat.le_refl _⟩
      · exact absurd (by simp) names.dash_notMem
    · rintro ⟨above, below⟩
      obtain rfl := Nat.le_antisymm below above
      exact .single names
  | range names_low names_high =>
    rw [pieceCovers_dash_iff names_low.dash_notMem]
    constructor
    · rintro ⟨low', high', names_low', names_high', within⟩
      obtain rfl := names_low.unique names_low'
      obtain rfl := names_high.unique names_high'
      exact within
    · intro within
      exact ⟨_, _, names_low, names_high, within⟩

theorem spans_of_parsePiece (h : parsePiece input piece = .ok links) :
    ∃ low high, Spans piece low high ∧ links = List.range' low (high - low + 1) := by
  unfold parsePiece at h
  cases cut : splitOnce '-' piece with
  | none =>
    rw [cut] at h
    obtain ⟨link, named, rfl⟩ := except_map_eq_ok.1 h
    obtain ⟨names, has⟩ := parseLink_eq_ok_iff.1 named
    exact ⟨link, link, .single names has, by simp⟩
  | some parts =>
    obtain ⟨rfl, -⟩ := splitOnce_eq_some cut
    rw [cut] at h
    obtain ⟨low, named, h⟩ := except_bind_eq_ok.1 h
    obtain ⟨high, named', h⟩ := except_bind_eq_ok.1 h
    obtain ⟨names, -⟩ := parseLink_eq_ok_iff.1 named
    obtain ⟨names', has⟩ := parseLink_eq_ok_iff.1 named'
    split at h
    case isFalse => cases h
    case isTrue ascending =>
      cases h
      exact ⟨low, high, .range names names' ascending has, rfl⟩

theorem Spans.parsePiece {low high : Nat} (h : Spans piece low high) (input : String) :
    parsePiece input piece = .ok (List.range' low (high - low + 1)) := by
  cases h with
  | single names has =>
    have whole := splitOnce_eq_none.2 names.dash_notMem
    rw [LinkMask.parsePiece, whole, Nat.sub_self]
    exact except_map_eq_ok.2 ⟨_, parseLink_eq_ok_iff.2 ⟨names, has⟩, rfl⟩
  | @range first last _ _ names_low names_high ascending has =>
    have cut := splitOnce_append last names_low.dash_notMem
    have read : parseLink input first = .ok low :=
      parseLink_eq_ok_iff.2 ⟨names_low, Nat.le_trans ascending has⟩
    have read' : parseLink input last = .ok high := parseLink_eq_ok_iff.2 ⟨names_high, has⟩
    rw [LinkMask.parsePiece, cut]
    refine except_bind_eq_ok.2 ⟨low, read, except_bind_eq_ok.2 ⟨high, read', ?_⟩⟩
    exact if_pos ascending

/-- The links of a piece are those that it covers, and each has a bit. -/
theorem links_of_parsePiece (h : parsePiece input piece = .ok links) (link : Nat) :
    (link ∈ links ↔ PieceCovers piece link) ∧ (link ∈ links → link ≤ maxLink) := by
  obtain ⟨low, high, spans, rfl⟩ := spans_of_parsePiece h
  rw [spans.covers_iff, spans.mem_links]
  exact ⟨Iff.rfl, fun within => Nat.le_trans within.2 spans.has⟩

/-- Reading further pieces adds the links that they cover. -/
theorem mem_parsePieces {m result : LinkMask} {pieces : List (List Char)}
    (h : parsePieces input m pieces = .ok result) (link : Nat) :
    (link ∈ result ↔ link ∈ m ∨ ∃ piece ∈ pieces, PieceCovers piece link) ∧
      (link ∈ result → link ∈ m ∨ link ≤ maxLink) := by
  induction pieces generalizing m with
  | nil =>
    cases h
    simpa using fun mem => .inl mem
  | cons piece more ih =>
    obtain ⟨links, read, h⟩ := except_bind_eq_ok.1 h
    obtain ⟨covers, has⟩ := links_of_parsePiece read link
    obtain ⟨added, small⟩ := ih h
    rw [mem_insertAll] at added small
    constructor
    · rw [added, List.exists_mem_cons_iff, ← covers, or_comm (a := link ∈ links), or_assoc]
    · intro mem
      rcases small mem with (new | old) | below
      · exact .inr (has new)
      · exact .inl old
      · exact .inr below

theorem notMem_empty : link ∉ empty := List.not_mem_nil

/-- A mask that was read holds the links that its text covers. -/
theorem mem_iff_covers {m : LinkMask} (h : parse input = .ok m) (link : Nat) :
    link ∈ m ↔ Covers input link := by
  rw [(mem_parsePieces h link).1, or_iff_right notMem_empty]
  rfl

/-- A mask that was read has an enable word. -/
theorem exists_enableWord_of_parse {m : LinkMask} (h : parse input = .ok m) :
    ∃ word, m.enableWord = .ok word := by
  apply exists_enableWord_iff.2
  intro link mem
  exact ((mem_parsePieces h link).2 mem).resolve_left notMem_empty

/-! ### Enabling links -/

section Enabling

variable {σ : Type} (w : Window σ) (b : Binding) (s : σ)

theorem setLinks_of_error {m : LinkMask} {e : Error} (h : m.enableWord = .error e) :
    w.run (Cru.setLinks b m) s = (.error e, s) ∧ w.transcript (Cru.setLinks b m) s = [] := by
  rw [Cru.setLinks, h]
  exact ⟨rfl, rfl⟩

theorem setLinks_of_ok {m : LinkMask} {word : UInt32} (h : m.enableWord = .ok word) :
    w.run (Cru.setLinks b m) s = w.write Cru.linkEnable.index word s ∧
      w.transcript (Cru.setLinks b m) s =
        [⟨.write Cru.linkEnable.index word, (w.write Cru.linkEnable.index word s).1⟩] := by
  have only : Cru.setLinks b m = Access.write Cru.linkEnable.index word := by
    rw [Cru.setLinks, h]
    exact Binding.write_eq b _ _
  rw [only]
  exact ⟨rfl, rfl⟩

/-- **Masks and enable words.** A mask has a word exactly if every link has a bit; the word has the
bits of the mask's links set, so that it tells the mask. Otherwise the smallest link without a bit
is reported, and enabling the links makes no access. A mask that was read always has a word:
enabling its links is one write, of the word with the bits of the links that the text covers. -/
theorem enable_word (m : LinkMask) :
    ((∃ word, m.enableWord = .ok word) ↔ ∀ link ∈ m, link ≤ 31) ∧
      (∀ word, m.enableWord = .ok word →
        (∀ i < 32, word.toNat.testBit i = true ↔ i ∈ m) ∧
          ∀ m', m'.enableWord = .ok word → m' = m) ∧
      ((¬ ∀ link ∈ m, link ≤ 31) → ∃ link ∈ m, 31 < link ∧
        (∀ other ∈ m, 31 < other → link ≤ other) ∧
        let e := Error.configuration "LinkMask"
          ("link " ++ toString link ++ " out of range (max 31)")
        m.enableWord = .error e ∧ w.run (Cru.setLinks b m) s = (.error e, s) ∧
          w.transcript (Cru.setLinks b m) s = []) ∧
      ∀ input, parse input = .ok m → ∃ word, m.enableWord = .ok word ∧
        (∀ i < 32, word.toNat.testBit i = true ↔ Covers input i) ∧
        w.run (Cru.setLinks b m) s = w.write Cru.linkEnable.index word s ∧
        w.transcript (Cru.setLinks b m) s =
          [⟨.write Cru.linkEnable.index word, (w.write Cru.linkEnable.index word s).1⟩] := by
  refine ⟨exists_enableWord_iff, ?_, ?_, ?_⟩
  · intro word h
    exact ⟨fun i hi => testBit_enableWord h hi, fun m' h' => enableWord_injective h h'⟩
  · intro h
    obtain ⟨link, mem, beyond, least, failed⟩ := exists_least h
    exact ⟨link, mem, beyond, least, failed, setLinks_of_error w b s failed⟩
  · intro input h
    obtain ⟨word, made⟩ := exists_enableWord_of_parse h
    have bits : ∀ i < 32, word.toNat.testBit i = true ↔ Covers input i := by
      intro i hi
      rw [testBit_enableWord made hi, mem_iff_covers h]
    exact ⟨word, made, bits, setLinks_of_ok w b s made⟩

end Enabling

/-- A text that covers four links, over a window that is too short: one write is attempted. Of two
links without a bit the smaller one is reported. -/
theorem enable_word_samples :
    parse "0-2, +8" = .ok (ofList [8, 2, 1, 0]) ∧
      (∃ answer, (Memory.window 2).transcript
        (Cru.setLinks ⟨.cru, 2⟩ (ofList [8, 2, 1, 0])) #[] =
          [⟨.write Cru.linkEnable.index 0x107, answer⟩]) ∧
      (ofList [40, 3, 33]).enableWord =
        .error (.configuration "LinkMask" "link 33 out of range (max 31)") := by
  have accepted : parse "0-2, +8" = .ok (ofList [8, 2, 1, 0]) := by cbv
  refine ⟨accepted, ?_, ?_⟩
  · obtain ⟨-, -, -, read⟩ :=
      enable_word (Memory.window 2) ⟨.cru, 2⟩ #[] (ofList [8, 2, 1, 0])
    obtain ⟨word, made, -, -, once⟩ := read _ accepted
    have known : (ofList [8, 2, 1, 0]).enableWord = .ok 0x107 := by decide
    cases known.symm.trans made
    exact ⟨_, once⟩
  · obtain ⟨-, -, reported, -⟩ :=
      enable_word (Memory.window 2) ⟨.cru, 2⟩ #[] (ofList [40, 3, 33])
    have holds : 33 ∈ ofList [40, 3, 33] := mem_insertAll.2 (.inl (by decide))
    obtain ⟨link, mem, beyond, least, failed, -⟩ :=
      reported fun all => absurd (all 33 holds) (by decide)
    have above : ∀ n ∈ (ofList [40, 3, 33]).links, 31 < n → 33 ≤ n := by decide
    have same : link = 33 := Nat.le_antisymm (least 33 holds (by decide)) (above link mem beyond)
    rw [failed, same]
    rfl

end ReadoutCard.LinkMask
