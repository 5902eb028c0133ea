import ReadoutCard.Proofs.PciAddress

/-!
# Identifiers that are written and read

Addresses, directory names and card identifiers are read as what was written
(`parse_written`, `CardId.parse_text`). In the other direction, a text that is
read as an address has one colon and one dot (`count_of_parse`), so that it is no
directory name; and a card identifier is an address exactly if a colon is in it
(`CardId.eq_address_iff`), whatever white space is around
(`CardId.parse_around`).
-/

namespace ReadoutCard.PciAddress

open Text Text.Numeral

/-- The name of the directory of an address is read as the address. -/
theorem parseDirectoryName_written (a : PciAddress) :
    parseDirectoryName a.directoryName = .ok a := by
  have domain : natural 16 (unsignedLimit 16) ['0', '0', '0', '0'] = .ok 0 := by decide
  have first : "0000:" = String.ofList (['0', '0', '0', '0'] ++ [':']) := rfl
  have name : a.directoryName = String.ofList (['0', '0', '0', '0'] ++ ':' :: a.text.toList) := by
    rw [directoryName, first, ← String.toList_inj, String.toList_append, String.toList_ofList,
      String.toList_ofList, List.append_assoc, List.singleton_append]
  rw [name, parseDirectoryName_of_domain domain, String.ofList_toList, parse_written]

theorem count_of_spells {text : List Char} {n : Nat} (h : Spells 16 text n) :
    text.count ':' = 0 ∧ text.count '.' = 0 :=
  ⟨List.count_eq_zero.2 (colon_notMem h), List.count_eq_zero.2 (dot_notMem h)⟩

/-- A text that is read as an address has one colon and one dot, for its components have none. -/
theorem count_of_parse {input : String} {a : PciAddress} (h : parse input = .ok a) :
    input.toList.count ':' = 1 ∧ input.toList.count '.' = 1 := by
  obtain ⟨bus, device, function, written, hb, hd, hf⟩ := parse_eq_ok_iff.1 h
  rw [written]
  simp [List.count_append, count_of_spells hb, count_of_spells hd, count_of_spells hf]

/-- A directory name has a second colon behind its domain, an address has not. -/
theorem not_parse_of_parseDirectoryName {input : String} {a a' : PciAddress}
    (h : parseDirectoryName input = .ok a) : parse input ≠ .ok a' := by
  intro address
  obtain ⟨domain, rest, written, behind⟩ := parse_of_parseDirectoryName h
  have one := (count_of_parse address).1
  have another := (count_of_parse behind).1
  rw [written, List.count_append, List.count_cons_self] at one
  rw [String.toList_ofList] at another
  omega

end ReadoutCard.PciAddress

namespace ReadoutCard.CardId

open Text Text.Numeral

/-- The serial number, if there is one, is a number of 32 bits with a sign. -/
def Fits : CardId → Prop
  | serial number => -2147483648 ≤ number ∧ number ≤ 2147483647
  | address _ => True

/-- A written card identifier is read as what it was. -/
theorem parse_text {id : CardId} (h : id.Fits) : parse id.text = .ok id := by
  cases id with
  | address a => exact parse_written a
  | serial n =>
    have digits {c : Char} (mem : c ∈ (toString n).toList) := digit_of_mem_toString mem
    have not_blank : ∀ c ∈ (toString n).toList, isBlank c = false := by
      intro c mem
      rcases digits mem with rfl | ⟨d, digit⟩
      · decide
      · exact not_blank_of_digit (Option.isSome_of_eq_some digit)
    have colon : ':' ∉ (toString n).toList := by
      intro mem
      rcases digits mem with same | ⟨d, digit⟩
      · cases same
      · have other : digit? 10 ':' = none := by decide
        rw [other] at digit
        cases digit
    have limit : (signedLimit 32 : Int) = 2147483647 := by decide
    have read : integer 10 (signedLimit 32) (toString n).toList = .ok n :=
      integer_toString (by rw [limit]; exact h.1) (by rw [limit]; exact h.2)
    rw [text, parse, trim_of_no_blank not_blank, if_neg colon, read]

/-- What is read as a card identifier is an address where there is a colon, else a number. -/
theorem parse_eq_ok_iff {input : String} {id : CardId} : parse input = .ok id ↔
    (':' ∈ input.toList ∧ ∃ a, id = .address a ∧
      PciAddress.parse (String.ofList (trim input.toList)) = .ok a) ∨
    (':' ∉ input.toList ∧ ∃ n, id = .serial n ∧
      integer 10 (signedLimit 32) (trim input.toList) = .ok n) := by
  have colon : isBlank ':' = false := by decide
  rw [parse]
  by_cases mem : ':' ∈ trim input.toList
  · have here := (mem_trim_iff colon).1 mem
    simp only [if_pos mem, except_map_eq_ok, here, true_and, not_true, false_and, or_false]
    constructor
    · rintro ⟨a, read, same⟩
      exact ⟨a, same.symm, read⟩
    · rintro ⟨a, same, read⟩
      exact ⟨a, read, same.symm⟩
  · have nowhere : ':' ∉ input.toList := fun here => mem ((mem_trim_iff colon).2 here)
    simp only [if_neg mem, nowhere, false_and, not_false_iff, true_and, false_or]
    cases integer 10 (signedLimit 32) (trim input.toList) with
    | ok n => simp [eq_comm]
    | error e => simp

theorem eq_address_iff {input : String} {id : CardId} (h : parse input = .ok id) :
    (∃ a, id = .address a) ↔ ':' ∈ input.toList := by
  rcases parse_eq_ok_iff.1 h with ⟨colon, a, rfl, -⟩ | ⟨colon, n, rfl, -⟩
  · exact ⟨fun _ => colon, fun _ => ⟨a, rfl⟩⟩
  · exact ⟨nofun, fun mem => absurd mem colon⟩

/-- White space around it does not change what is read. -/
theorem parse_around {input : String} {id : CardId} {before after : List Char}
    (hb : ∀ c ∈ before, isBlank c = true) (ha : ∀ c ∈ after, isBlank c = true) :
    parse (String.ofList (before ++ input.toList ++ after)) = .ok id ↔ parse input = .ok id := by
  have colon : isBlank ':' = false := by decide
  have same := trim_around hb ha input.toList
  rw [parse_eq_ok_iff, parse_eq_ok_iff, String.toList_ofList, same, ← mem_trim_iff colon, same,
    mem_trim_iff colon]

/-- **Written identifiers and identifiers read.** Addresses, directory names and card identifiers
are read as what was written. A text that is read as a card identifier is an address exactly if a
colon is in it, and white space around makes no difference. It is read as an address exactly if it
has the components of the address, in hexadecimal, around a colon and a dot; there is no other colon
or dot in it then, and it is not the name of a directory. -/
theorem identifiers_read :
    (∀ a : PciAddress, PciAddress.parse a.text = .ok a ∧
      PciAddress.parseDirectoryName a.directoryName = .ok a) ∧
    (∀ id : CardId, id.Fits → parse id.text = .ok id) ∧
    (∀ input id, parse input = .ok id →
      ((∃ a, id = .address a) ↔ ':' ∈ input.toList) ∧
      (∀ before after, (∀ c ∈ before, isBlank c = true) → (∀ c ∈ after, isBlank c = true) →
        parse (String.ofList (before ++ input.toList ++ after)) = .ok id) ∧
      ∀ a, id = .address a → (a.device : Nat) ≤ 0x1f ∧ (a.function : Nat) ≤ 7) ∧
    (∀ (input : String) (a : PciAddress), PciAddress.parse input = .ok a ↔
      ∃ bus device function, input.toList = bus ++ ':' :: (device ++ '.' :: function) ∧
        Spells 16 bus a.bus ∧ Spells 16 device a.device ∧ Spells 16 function a.function) ∧
    (∀ (input : String) (a : PciAddress), PciAddress.parse input = .ok a →
      input.toList.count ':' = 1 ∧ input.toList.count '.' = 1) ∧
    ∀ (input : String) (a a' : PciAddress),
      ¬ (PciAddress.parse input = .ok a ∧ PciAddress.parseDirectoryName input = .ok a') := by
  refine ⟨fun a => ⟨PciAddress.parse_written a, PciAddress.parseDirectoryName_written a⟩,
    fun id => parse_text, fun input id h => ⟨eq_address_iff h, ?_, ?_⟩,
    fun input a => PciAddress.parse_eq_ok_iff, fun input a => PciAddress.count_of_parse, ?_⟩
  · intro before after hb ha
    exact (parse_around hb ha).2 h
  · intro a _
    exact ⟨Nat.le_of_lt_succ a.device.isLt, Nat.le_of_lt_succ a.function.isLt⟩
  · rintro input a a' ⟨address, name⟩
    exact PciAddress.not_parse_of_parseDirectoryName name address

example : PciAddress.parse "+3B :00. 7" = .ok ⟨0x3b, 0, 7⟩ ∧ parse " -12\n" = .ok (.serial (-12)) := by
  constructor
  · cbv
  · cbv

end ReadoutCard.CardId
