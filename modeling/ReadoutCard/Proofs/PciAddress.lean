import ReadoutCard.PciAddress.Parser
import ReadoutCard.Proofs.Text.Spelling

/-!
# Names of device directories

A text with a colon and a dot is cut there (`parse_cut`), and components that
spell numbers are read as these (`parse_spelled`), so a written address is read
as what it was (`parse_written`). A name as the system
writes it has a component for the domain, which is read and not kept: such a
name is accepted exactly if it is the one that its address has in its domain
(`CanonicalName.parse_eq_ok_iff`).
-/

namespace ReadoutCard.PciAddress

open Text Text.Numeral

/-- A name as the system writes it: `dddd:bb:dd.f`, in lowercase hexadecimal digits. -/
structure CanonicalName where
  domain : List Char
  bus : List Char
  device : List Char
  function : Char
  domain_length : domain.length = 4
  bus_length : bus.length = 2
  device_length : device.length = 2
  digits : ∀ c ∈ domain ++ bus ++ device ++ [function], IsHexDigit c

/-- The written form. -/
def CanonicalName.text (name : CanonicalName) : String :=
  String.ofList
    (name.domain ++ ':' :: (name.bus ++ ':' :: (name.device ++ '.' :: [name.function])))

/-- The name of the device directory in a PCI domain. -/
def nameIn (domain : List Char) (a : PciAddress) : String := String.ofList domain ++ ":" ++ a.text

theorem directoryName_eq (a : PciAddress) : a.directoryName = a.nameIn ['0', '0', '0', '0'] := rfl

/-! ### Reading components -/

section Components

variable {digits domain bus device function text : List Char} {b d f n : Nat}

theorem isBlank_of_isHexDigit {c : Char} (h : IsHexDigit c) : isBlank c = false := by
  obtain ⟨d, small, rfl⟩ := exists_digitChar h
  have all : ∀ d < 16, isBlank (Nat.digitChar d) = false := by decide
  exact all d small

theorem spells_digits (h : ∀ c ∈ digits, IsHexDigit c) (nonempty : digits ≠ []) :
    Spells 16 digits (value 16 digits) := by
  refine ⟨digits, .inl ?_, nonempty, ?_, rfl⟩
  · exact trim_of_no_blank fun c hc => isBlank_of_isHexDigit (h c hc)
  · intro c hc
    obtain ⟨d, small, rfl⟩ := exists_digitChar (h c hc)
    exact ⟨d, digit?_digitChar (by decide) small⟩

/-- Up to eight digits have a value of 32 bits. -/
theorem value_le_of_few (h : ∀ c ∈ digits, IsHexDigit c) (few : digits.length ≤ 8) :
    value 16 digits ≤ unsignedLimit 32 := by
  have below := value_lt h
  have : 16 ^ digits.length ≤ 16 ^ 8 := Nat.pow_le_pow_right (by decide) few
  have limit : unsignedLimit 32 + 1 = 16 ^ 8 := by decide
  omega

theorem parseComponent_eq_ok_iff {input name : String} :
    parseComponent input name text = .ok n ↔ Spells 16 text n ∧ n ≤ unsignedLimit 32 := by
  rw [← natural_trim_eq_ok_iff (by decide), parseComponent]
  cases natural 16 (unsignedLimit 32) (trim text) <;> simp

/-- The failure of a component that 32 bits do not hold. -/
def tooLarge (input name : String) (text : List Char) : Error :=
  .parse input ("invalid " ++ name ++ " " ++ Quoted.quote (String.ofList text) ++ ": " ++
    NumeralError.tooLarge.message)

/-- A component that spells a number is read as the number if 32 bits hold it. -/
theorem parseComponent_of_spells (input name : String) (h : Spells 16 text n) :
    parseComponent input name text =
      if 0xffffffff < n then .error (tooLarge input name text) else .ok n := by
  have limit : unsignedLimit 32 = 0xffffffff := by decide
  split
  case isTrue beyond =>
    have wide : unsignedLimit 32 < n := by omega
    rw [parseComponent, h.natural_of_lt wide]
    rfl
  case isFalse within => exact parseComponent_eq_ok_iff.2 ⟨h, by omega⟩

theorem colon_notMem (h : Spells 16 text n) : ':' ∉ text :=
  h.notMem (by decide) (by decide) (by decide)

theorem dot_notMem (h : Spells 16 text n) : '.' ∉ text :=
  h.notMem (by decide) (by decide) (by decide)

/-- A text is cut at its first colon and the first dot after it, and its components are read in
order. -/
theorem parse_cut (colon : ':' ∉ bus) (dot : '.' ∉ device) {input : String}
    (written : input.toList = bus ++ ':' :: (device ++ '.' :: function)) :
    parse input = parseComponent input "bus" bus >>= fun bus =>
      parseComponent input "device" device >>= fun device =>
        parseComponent input "function" function >>= fun function =>
          ofComponents bus device function := by
  have first := splitOnce_append (device ++ '.' :: function) colon
  have second := splitOnce_append function dot
  have pieces : cut (bus ++ ':' :: (device ++ '.' :: function)) = some (bus, device, function) := by
    rw [cut, first]
    show (splitOnce '.' (device ++ '.' :: function)).bind _ = _
    rw [second]
    rfl
  unfold parse
  rw [written, pieces]

/-- Components that spell numbers of 32 bits are read as these. -/
theorem parse_spelled (hb : Spells 16 bus b) (hd : Spells 16 device d) (hf : Spells 16 function f)
    (fitsBus : b ≤ unsignedLimit 32) (fitsDevice : d ≤ unsignedLimit 32)
    (fitsFunction : f ≤ unsignedLimit 32) {input : String}
    (written : input.toList = bus ++ ':' :: (device ++ '.' :: function)) :
    parse input = ofComponents b d f := by
  rw [parse_cut (colon_notMem hb) (dot_notMem hd) written,
    parseComponent_eq_ok_iff.2 ⟨hb, fitsBus⟩, parseComponent_eq_ok_iff.2 ⟨hd, fitsDevice⟩,
    parseComponent_eq_ok_iff.2 ⟨hf, fitsFunction⟩]
  rfl

end Components

/-- An address is made of the components that it has. -/
theorem ofComponents_eq_ok_iff {bus device function : Nat} {a : PciAddress} :
    ofComponents bus device function = .ok a ↔
      bus = a.bus ∧ device = a.device ∧ function = a.function := by
  obtain ⟨b, d, f⟩ := a
  constructor
  · intro made
    unfold ofComponents at made
    split at made
    · split at made
      · split at made
        · cases made
          exact ⟨rfl, rfl, rfl⟩
        · cases made
      · cases made
    · cases made
  · rintro ⟨rfl, rfl, rfl⟩
    rw [ofComponents, dif_pos b.isLt, dif_pos d.isLt, dif_pos f.isLt]

/-- A text that is cut has a colon and a dot where it is cut, and none before. -/
theorem cut_eq_some {text bus device function : List Char}
    (h : cut text = some (bus, device, function)) :
    text = bus ++ ':' :: (device ++ '.' :: function) ∧ ':' ∉ bus ∧ '.' ∉ device := by
  obtain ⟨⟨bus, rest⟩, first, h⟩ := Option.bind_eq_some_iff.1 h
  obtain ⟨⟨device, function⟩, second, h⟩ := Option.bind_eq_some_iff.1 h
  cases h
  obtain ⟨rfl, colon⟩ := splitOnce_eq_some first
  obtain ⟨rfl, dot⟩ := splitOnce_eq_some second
  exact ⟨rfl, colon, dot⟩

/-- Exactly the texts whose components spell those of an address are read as the address. -/
theorem parse_eq_ok_iff {input : String} {a : PciAddress} :
    parse input = .ok a ↔ ∃ bus device function,
      input.toList = bus ++ ':' :: (device ++ '.' :: function) ∧
      Spells 16 bus a.bus ∧ Spells 16 device a.device ∧ Spells 16 function a.function := by
  have limit : unsignedLimit 32 = 4294967295 := by decide
  constructor
  · intro h
    cases parts : cut input.toList with
    | none =>
      rw [parse, parts] at h
      cases h
    | some parts' =>
      obtain ⟨bus, device, function⟩ := parts'
      obtain ⟨written, colon, dot⟩ := cut_eq_some parts
      rw [parse_cut colon dot written] at h
      obtain ⟨b, readBus, h⟩ := except_bind_eq_ok.1 h
      obtain ⟨d, readDevice, h⟩ := except_bind_eq_ok.1 h
      obtain ⟨f, readFunction, h⟩ := except_bind_eq_ok.1 h
      obtain ⟨rfl, rfl, rfl⟩ := ofComponents_eq_ok_iff.1 h
      exact ⟨bus, device, function, written, (parseComponent_eq_ok_iff.1 readBus).1,
        (parseComponent_eq_ok_iff.1 readDevice).1, (parseComponent_eq_ok_iff.1 readFunction).1⟩
  · rintro ⟨bus, device, function, written, hb, hd, hf⟩
    rw [parse_spelled hb hd hf (by omega) (by omega) (by omega) written]
    exact ofComponents_eq_ok_iff.2 ⟨rfl, rfl, rfl⟩

/-! ### Domains -/

/-- A domain that is read is not kept. -/
theorem parseDirectoryName_of_domain {domain : List Char} {n : Nat}
    (read : natural 16 (unsignedLimit 16) domain = .ok n) (rest : List Char) :
    parseDirectoryName (String.ofList (domain ++ ':' :: rest)) = parse (String.ofList rest) := by
  have colon : ':' ∉ domain := by
    intro mem
    rcases digit_of_natural read ':' mem with same | digit
    · exact absurd same (by decide)
    · exact absurd digit (by decide)
  rw [parseDirectoryName, String.toList_ofList, splitOnce_append rest colon]
  simp only [read]

/-- What is read as the name of a directory has a domain, and an address behind it. -/
theorem parse_of_parseDirectoryName {name : String} {a : PciAddress}
    (h : parseDirectoryName name = .ok a) : ∃ domain rest,
      name.toList = domain ++ ':' :: rest ∧ parse (String.ofList rest) = .ok a := by
  unfold parseDirectoryName at h
  split at h
  · cases h
  case h_2 domain rest pieces =>
    split at h
    · cases h
    · exact ⟨domain, rest, (splitOnce_eq_some pieces).1, h⟩

/-! ### Written addresses -/

/-- The characters of the written form. -/
theorem toList_text (a : PciAddress) : a.text.toList =
    (hexPadded 2 a.bus).toList ++
      ':' :: ((hexPadded 2 a.device).toList ++ '.' :: [Nat.digitChar a.function]) := by
  have last : hex a.function = String.ofList [Nat.digitChar a.function] := by
    rw [hex, Nat.toDigits_of_lt_base (Nat.lt_trans a.function.isLt (by decide))]
  rw [text, last]
  simp

/-- A written address has digits and separators only. -/
theorem isHexDigit_of_mem_text {a : PciAddress} {c : Char} (h : c ∈ a.text.toList) :
    IsHexDigit c ∨ c = ':' ∨ c = '.' := by
  have last : IsHexDigit (Nat.digitChar a.function) :=
    isHexDigit_digitChar (Nat.lt_trans a.function.isLt (by decide))
  rw [toList_text] at h
  simp only [List.mem_append, List.mem_cons, List.not_mem_nil, or_false] at h
  rcases h with bus | rfl | device | rfl | rfl
  · exact .inl (isHexDigit_of_mem_hexPadded bus)
  · exact .inr (.inl rfl)
  · exact .inl (isHexDigit_of_mem_hexPadded device)
  · exact .inr (.inr rfl)
  · exact .inl last

/-- A written address is read as what it was. -/
theorem parse_written (a : PciAddress) : parse a.text = .ok a := by
  have small : (a.function : Nat) < 16 := Nat.lt_trans a.function.isLt (by decide)
  have spelled {n : Nat} (fits : n < 16 ^ 2) : Spells 16 (hexPadded 2 n).toList n := by
    have length := length_toList_hexPadded (by decide) fits
    have nonempty : (hexPadded 2 n).toList ≠ [] := by
      intro none_there
      rw [none_there] at length
      cases length
    have spells := spells_digits (fun _ => isHexDigit_of_mem_hexPadded) nonempty
    rwa [value_toList_hexPadded] at spells
  have last : Spells 16 [Nat.digitChar a.function] a.function := by
    have digit : ∀ c ∈ [Nat.digitChar a.function], IsHexDigit c :=
      List.forall_mem_singleton.2 (isHexDigit_digitChar small)
    have spells := spells_digits digit (by simp)
    rwa [value_singleton, digitOf_digitChar small] at spells
  have device : (a.device : Nat) < 16 ^ 2 := Nat.lt_trans a.device.isLt (by decide)
  exact parse_eq_ok_iff.2 ⟨_, _, _, a.toList_text, spelled a.bus.isLt, spelled device, last⟩

/-! ### Canonical names -/

namespace CanonicalName

variable (name : CanonicalName)

theorem isHexDigit_domain : ∀ c ∈ name.domain, IsHexDigit c :=
  fun c hc => name.digits c (by simp [hc])

theorem isHexDigit_bus : ∀ c ∈ name.bus, IsHexDigit c :=
  fun c hc => name.digits c (by simp [hc])

theorem isHexDigit_device : ∀ c ∈ name.device, IsHexDigit c :=
  fun c hc => name.digits c (by simp [hc])

theorem isHexDigit_function : ∀ c ∈ [name.function], IsHexDigit c :=
  fun c hc => name.digits c (List.mem_append_right _ hc)

/-- The domain of a name is read, and the address is made of the other components. -/
theorem parse_text : parseDirectoryName name.text =
    ofComponents (value 16 name.bus) (value 16 name.device) (value 16 [name.function]) := by
  have nonempty {digits : List Char} {n : Nat} (h : digits.length = n + 1) : digits ≠ [] := by
    rintro rfl
    cases h
  have fits : value 16 name.domain ≤ unsignedLimit 16 := by
    have below := value_lt name.isHexDigit_domain
    rw [name.domain_length] at below
    exact Nat.le_of_lt_succ below
  rw [text, parseDirectoryName_of_domain
    (natural_digits name.isHexDigit_domain (nonempty name.domain_length) fits)]
  exact parse_spelled (spells_digits name.isHexDigit_bus (nonempty name.bus_length))
    (spells_digits name.isHexDigit_device (nonempty name.device_length))
    (spells_digits name.isHexDigit_function (by simp))
    (value_le_of_few name.isHexDigit_bus (by simp [name.bus_length]))
    (value_le_of_few name.isHexDigit_device (by simp [name.device_length]))
    (value_le_of_few name.isHexDigit_function (by simp)) String.toList_ofList

/-- A canonical name is accepted exactly if it is that of its address in its domain. -/
theorem parse_eq_ok_iff {a : PciAddress} :
    parseDirectoryName name.text = .ok a ↔ name.text = a.nameIn name.domain := by
  have fitsBus : (a.bus : Nat) < 16 ^ 2 := a.bus.isLt
  have fitsDevice : (a.device : Nat) < 16 ^ 2 := Nat.lt_trans a.device.isLt (by decide)
  have fitsFunction : (a.function : Nat) < 16 := Nat.lt_trans a.function.isLt (by decide)
  have isFunction : IsHexDigit name.function := name.isHexDigit_function _ List.mem_cons_self
  have inDomain : (a.nameIn name.domain).toList = name.domain ++ ':' :: a.text.toList := by
    simp [nameIn]
  rw [parse_text, ofComponents_eq_ok_iff,
    ← eq_toList_hexPadded_iff name.isHexDigit_bus name.bus_length (by decide) fitsBus,
    ← eq_toList_hexPadded_iff name.isHexDigit_device name.device_length (by decide) fitsDevice,
    ← eq_digitChar_iff isFunction fitsFunction, ← String.toList_inj, inDomain, toList_text, text,
    String.toList_ofList]
  constructor
  · rintro ⟨bus, device, function⟩
    rw [bus, device, function]
  · intro same
    have address := (List.cons.inj (List.append_cancel_left same)).2
    have bus := List.append_inj address
      (name.bus_length.trans (length_toList_hexPadded (by decide) fitsBus).symm)
    have device := List.append_inj (List.cons.inj bus.2).2
      (name.device_length.trans (length_toList_hexPadded (by decide) fitsDevice).symm)
    have function := List.cons.inj (List.cons.inj device.2).2
    exact ⟨bus.1, device.1, function.1⟩

end CanonicalName

end ReadoutCard.PciAddress

namespace ReadoutCard

/-- A written address names the card at the address. -/
theorem CardId.parse_written (a : PciAddress) : CardId.parse a.text = .ok (.address a) := by
  have not_blank {c : Char} (h : c ∈ a.text.toList) : Text.isBlank c = false := by
    rcases PciAddress.isHexDigit_of_mem_text h with digit | rfl | rfl
    · exact PciAddress.isBlank_of_isHexDigit digit
    · decide
    · decide
  have whole : Text.trim a.text.toList = a.text.toList :=
    Text.trim_of_no_blank fun c => not_blank
  have colon : ':' ∈ a.text.toList := by
    rw [PciAddress.toList_text]
    exact List.mem_append_right _ List.mem_cons_self
  rw [CardId.parse, whole, if_pos colon, String.ofList_toList, PciAddress.parse_written]
  rfl

end ReadoutCard
