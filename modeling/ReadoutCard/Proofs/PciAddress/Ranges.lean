import ReadoutCard.Proofs.PciAddress

/-!
# Addresses with components out of range

A text may be an address by its syntax and name no card, because a component
does not fit its field (`Spelled`). As long as 32 bits hold the components, the
first one beyond its field is reported (`Spelled.parse_of_fits`); a component
that 32 bits do not hold makes the text a malformed one
(`Spelled.parse_of_wide`). Card identifiers and directory names are read in the
same way, which is the main statement, at the end.
-/

namespace ReadoutCard.PciAddress

open Text Text.Numeral

/-- The failure names the component and gives its value and the greatest that there is. -/
theorem outOfRange_eq (name : String) (value most : Nat) :
    outOfRange name value most = .configuration "PciAddress"
      (name ++ " 0x" ++ String.ofList (Nat.toDigits 16 value) ++ " out of range (max 0x" ++
        String.ofList (Nat.toDigits 16 most) ++ ")") := by
  have value_mark : " 0x" = " " ++ "0x" := rfl
  have most_mark : " out of range (max 0x" = " out of range (max " ++ "0x" := rfl
  rw [outOfRange, hexMarked, hexMarked, hex, hex, value_mark, most_mark]
  simp only [String.append_assoc]

/-- A text that is `bus:device.function` by its syntax: three hexadecimal numbers with any number of
digits, each with white space around. -/
structure Spelled where
  bus : List Char
  device : List Char
  function : List Char
  busValue : Nat
  deviceValue : Nat
  functionValue : Nat
  spells_bus : Spells 16 bus busValue
  spells_device : Spells 16 device deviceValue
  spells_function : Spells 16 function functionValue

namespace Spelled

variable (s : Spelled)

/-- The characters of the text. -/
def text : List Char := s.bus ++ ':' :: (s.device ++ '.' :: s.function)

/-- The components in order: their names, their values, and the greatest values that their fields
hold. -/
def fields : List (String × Nat × Nat) :=
  [("bus", s.busValue, 0xff), ("device", s.deviceValue, 0x1f), ("function", s.functionValue, 7)]

/-- The outcome that the fields decide: the address, or the failure of the first component that is
beyond its field. -/
inductive Decided : Except Error CardId → Prop
  | within (a : PciAddress) (bus : s.busValue = a.bus) (device : s.deviceValue = a.device)
      (function : s.functionValue = a.function) : Decided (.ok (.address a))
  | beyond {name : String} {value most : Nat}
      (first : s.fields.find? (fun field => field.2.2 < field.2.1) = some (name, value, most)) :
      Decided (.error (.configuration "PciAddress"
        (name ++ " 0x" ++ String.ofList (Nat.toDigits 16 value) ++ " out of range (max 0x" ++
          String.ofList (Nat.toDigits 16 most) ++ ")")))

/-- All components have values of 32 bits. -/
def Fits : Prop :=
  s.busValue ≤ 0xffffffff ∧ s.deviceValue ≤ 0xffffffff ∧ s.functionValue ≤ 0xffffffff

/-- What becomes of the text as an address, as a card identifier, and after a domain as the name of
a directory. -/
def readings (domain : List Char) : List (Except Error CardId) :=
  [(parse (String.ofList s.text)).map .address, CardId.parse (String.ofList s.text),
    (parseDirectoryName (String.ofList (domain ++ ':' :: s.text))).map .address]

/-! ### As an address -/

/-- The first component beyond its field is reported. -/
theorem decided_ofComponents :
    s.Decided ((ofComponents s.busValue s.deviceValue s.functionValue).map .address) := by
  have reported {name : String} {value most : Nat}
      (first : s.fields.find? (fun field => field.2.2 < field.2.1) = some (name, value, most)) :
      s.Decided (.error (outOfRange name value most)) := by
    rw [outOfRange_eq]
    exact .beyond first
  unfold ofComponents
  split
  case isFalse bus =>
    have first : 0xff < s.busValue := by omega
    exact reported (by simp [fields, first])
  case isTrue bus =>
    have within_bus : ¬ 0xff < s.busValue := by omega
    split
    case isFalse device =>
      have first : 0x1f < s.deviceValue := by omega
      exact reported (by simp [fields, within_bus, first])
    case isTrue device =>
      have within_device : ¬ 0x1f < s.deviceValue := by omega
      split
      case isFalse function =>
        have first : 7 < s.functionValue := by omega
        exact reported (by simp [fields, within_bus, within_device, first])
      case isTrue function => exact .within _ rfl rfl rfl

theorem parse_of_fits (fits : s.Fits) {input : String} (written : input.toList = s.text) :
    s.Decided ((parse input).map .address) := by
  rw [parse_spelled s.spells_bus s.spells_device s.spells_function fits.1 fits.2.1 fits.2.2 written]
  exact s.decided_ofComponents

/-- The first component that 32 bits do not hold makes the text malformed. -/
theorem parse_of_wide {name : String} {value most : Nat}
    (first : s.fields.find? (fun field => 0xffffffff < field.2.1) = some (name, value, most))
    {input : String} (written : input.toList = s.text) :
    ∃ text, Spells 16 text value ∧ parse input = .error (tooLarge input name text) := by
  rw [parse_cut (colon_notMem s.spells_bus) (dot_notMem s.spells_device) written]
  simp only [parseComponent_of_spells input _ s.spells_bus,
    parseComponent_of_spells input _ s.spells_device,
    parseComponent_of_spells input _ s.spells_function]
  simp only [fields, List.find?_cons, List.find?_nil] at first
  by_cases bus : 0xffffffff < s.busValue
  · simp only [bus, decide_true] at first
    cases first
    exact ⟨s.bus, s.spells_bus, by rw [if_pos bus]; rfl⟩
  by_cases device : 0xffffffff < s.deviceValue
  · simp only [bus, device, decide_true, decide_false] at first
    cases first
    exact ⟨s.device, s.spells_device, by rw [if_neg bus, if_pos device]; rfl⟩
  by_cases function : 0xffffffff < s.functionValue
  · simp only [bus, device, function, decide_true, decide_false] at first
    cases first
    exact ⟨s.function, s.spells_function, by rw [if_neg bus, if_neg device, if_pos function]; rfl⟩
  · simp [bus, device, function] at first

/-- Either all components have values of 32 bits, or there is a first one that has not. -/
theorem exists_wide (h : ¬ s.Fits) : ∃ name value most,
    s.fields.find? (fun field => 0xffffffff < field.2.1) = some (name, value, most) := by
  cases first : s.fields.find? (fun field => 0xffffffff < field.2.1) with
  | some field => exact ⟨_, _, _, rfl⟩
  | none =>
    have all := List.find?_eq_none.1 first
    simp [fields] at all
    exact absurd all h

/-- A text with a component that 32 bits do not hold is not read as the fields decide. -/
theorem not_decided_tooLarge (input name : String) (text : List Char) :
    ¬ s.Decided (.error (tooLarge input name text)) := by
  intro decided
  cases decided

/-! ### As a card identifier -/

/-- The text without white space around it: that of its first and of its last component goes. -/
def trimmed : Spelled :=
  { s with
    bus := trimStart s.bus
    function := trimEnd s.function
    spells_bus := by
      unfold Spells
      rw [trim_trimStart]
      exact s.spells_bus
    spells_function := by
      unfold Spells
      rw [trim_trimEnd]
      exact s.spells_function }

theorem trim_text : trim s.text = s.trimmed.text := by
  have colon : isBlank ':' = false := by decide
  have dot : isBlank '.' = false := by decide
  rw [text, trim_append_cons colon, trimEnd_append_cons dot]
  rfl

theorem decided_of_trimmed {r : Except Error CardId} (h : s.trimmed.Decided r) : s.Decided r := by
  cases h with
  | within a bus device function => exact .within a bus device function
  | beyond first => exact .beyond first

theorem parse_cardId : CardId.parse (String.ofList s.text) =
    (parse (String.ofList s.trimmed.text)).map .address := by
  have colon : ':' ∈ s.trimmed.text := List.mem_append_right _ List.mem_cons_self
  rw [CardId.parse, String.toList_ofList, trim_text, if_pos colon]

/-! ### All readings -/

/-- What becomes of the text is what becomes of it as an address, perhaps without white space. -/
theorem exists_input {domain : List Char} {n : Nat}
    (domain_read : natural 16 (unsignedLimit 16) domain = .ok n) {r : Except Error CardId}
    (h : r ∈ s.readings domain) : ∃ t : Spelled, (t = s ∨ t = s.trimmed) ∧
      r = (parse (String.ofList t.text)).map .address := by
  simp only [readings, List.mem_cons, List.not_mem_nil, or_false] at h
  rcases h with rfl | rfl | rfl
  · exact ⟨s, .inl rfl, rfl⟩
  · exact ⟨s.trimmed, .inr rfl, s.parse_cardId⟩
  · exact ⟨s, .inl rfl, by rw [parseDirectoryName_of_domain domain_read]⟩

/-- **Components out of range.** A text that is an address by its syntax is read as its fields
decide exactly if 32 bits hold all its components: as the address of these, or with the failure of
the first component beyond its field. Otherwise the first component that 32 bits do not hold makes
it a malformed text. This holds of addresses, of card identifiers, and of directory names in any
domain. -/
theorem readings_decided {domain : List Char} {n : Nat}
    (domain_read : natural 16 (unsignedLimit 16) domain = .ok n) :
    ∀ r ∈ s.readings domain, (s.Decided r ↔ s.Fits) ∧
      ∀ name value most,
        s.fields.find? (fun field => 0xffffffff < field.2.1) = some (name, value, most) →
        ∃ input text, Spells 16 text value ∧ r = .error (tooLarge input name text) := by
  intro r reading
  obtain ⟨t, same, rfl⟩ := s.exists_input domain_read reading
  have malformed : ∀ name value most,
      s.fields.find? (fun field => 0xffffffff < field.2.1) = some (name, value, most) →
      ∃ input text, Spells 16 text value ∧
        (parse (String.ofList t.text)).map CardId.address = .error (tooLarge input name text) := by
    intro name value most first
    have first : t.fields.find? (fun field => 0xffffffff < field.2.1) =
        some (name, value, most) := by rcases same with rfl | rfl <;> exact first
    obtain ⟨text, spells, failed⟩ := t.parse_of_wide first String.toList_ofList
    exact ⟨_, text, spells, by rw [failed]; rfl⟩
  refine ⟨⟨fun decided => ?_, fun fits => ?_⟩, malformed⟩
  · by_contra wide
    obtain ⟨name, value, most, first⟩ := s.exists_wide wide
    obtain ⟨input, text, -, failed⟩ := malformed name value most first
    rw [failed] at decided
    exact s.not_decided_tooLarge input name text decided
  · rcases same with rfl | rfl
    · exact t.parse_of_fits fits String.toList_ofList
    · exact s.decided_of_trimmed (s.trimmed.parse_of_fits fits String.toList_ofList)

end Spelled

/-- With white space, leading zeros and both cases of letters: the device is beyond its field. -/
theorem device_beyond_field :
    let s : Spelled :=
      { bus := [' ', 'F', 'f']
        device := ['0', '2', '0', ' ']
        function := ['\t', '9']
        busValue := 0xff
        deviceValue := 0x20
        functionValue := 9
        spells_bus := spells_of_natural (by decide) (show natural 16 255 _ = .ok 0xff by decide)
        spells_device := spells_of_natural (by decide) (show natural 16 255 _ = .ok 0x20 by decide)
        spells_function := spells_of_natural (by decide) (show natural 16 255 _ = .ok 9 by decide) }
    String.ofList s.text = " Ff:020 .\t9" ∧
      natural 16 (unsignedLimit 16) ['f', 'F'] = .ok 0xff ∧
      ∀ r ∈ s.readings ['f', 'F'],
        r = .error (.configuration "PciAddress" "device 0x20 out of range (max 0x1f)") := by
  intro s
  have domain_read : natural 16 (unsignedLimit 16) ['f', 'F'] = .ok 0xff := by decide
  have fits : s.Fits := ⟨by decide, by decide, by decide⟩
  refine ⟨rfl, domain_read, fun r reading => ?_⟩
  have decided := ((s.readings_decided domain_read r reading).1).2 fits
  cases decided with
  | within a bus device function =>
    have device : 0x20 = (a.device : Nat) := device
    omega
  | beyond first =>
    cases first
    show Except.error (Error.configuration "PciAddress" ("device" ++ " 0x" ++
      String.ofList (Nat.toDigits 16 0x20) ++ " out of range (max 0x" ++
        String.ofList (Nat.toDigits 16 0x1f) ++ ")")) = _
    cbv

/-- A bus of 33 bits is beyond its field, and yet the text is said to be malformed. -/
theorem wide_bus_malformed :
    let bus := ['1', '0', '0', '0', '0', '0', '0', '0', '0']
    let malformed := tooLarge "100000000:0.0" "bus" bus
    Spells 16 bus 0x100000000 ∧ Spells 16 ['0'] 0 ∧
      (∃ reason, malformed = .parse "100000000:0.0" reason) ∧
      parse "100000000:0.0" = .error malformed ∧
      CardId.parse "100000000:0.0" = .error malformed ∧
      parseDirectoryName "0000:100000000:0.0" = .error malformed := by
  intro bus malformed
  have read : natural 16 (unsignedLimit 64) (trim bus) = .ok 0x100000000 := by decide
  have zero : natural 16 (unsignedLimit 64) (trim ['0']) = .ok 0 := by decide
  exact ⟨spells_of_natural (by decide) read, spells_of_natural (by decide) zero, ⟨_, rfl⟩, rfl, rfl,
    rfl⟩

end ReadoutCard.PciAddress
