import Mathlib.Data.List.Induction
import Mathlib.Data.Nat.Digits.Defs
import ReadoutCard.Proofs.Traces
import ReadoutCard.Window.FlashController

/-!
# The record read from an honest flash

`Honest` says what a flash controller promises, as a relation between the states
of a window and what is selected and how often it was polled; bits that do not
matter are left open. A word is asked for and polled until it is there
(`run_awaitWord`, by induction on the polls that are left), and the record is
its words one after the other (`run_readWords`, by induction on those still to
be read). What the bytes of the record say is then a matter of lists: the value
of decimal digits (`digitsValue?_eq_some_iff`), and that no word of a well-formed
record looks erased (`erased_notMem`).
-/

namespace ReadoutCard.Crorc

/-- A window behaves like a flash controller with the words `flash`, whose first `delay` polls for
a word are answered by not yet. In `state address polls s` the word at the address is selected, and
the status was polled so often since. -/
structure Honest {σ : Type} (w : Window σ) (flash : Nat → UInt16) (delay : Nat)
    (state : (address polls : Nat) → σ → Prop) : Prop where
  write_address : ∀ {address polls s}, state address polls s → ∀ value, ∃ s',
    w.write flashAddress.index value s = (.ok (), s') ∧ state (value &&& 0x7fffffff).toNat 0 s'
  read_status : ∀ {address polls s}, state address polls s → ∃ status s',
    w.read flashStatus.index s = (.ok status, s') ∧
      (Bits.bit status 0 = true ↔ delay < polls + 1) ∧ state address (polls + 1) s'
  read_data : ∀ {address polls s}, state address polls s → ∃ data s',
    w.read flashData.index s = (.ok data, s') ∧ data.toUInt16 = flash address ∧
      state address polls s'

/-- The failure of a flash that is not ready in time. -/
def tooSlow : Error := .timeout "C-RORC flash read" 10000

/-- The words of the record. -/
def recordWords (flash : Nat → UInt16) : List UInt16 :=
  (List.range 19).map fun k => flash (0x01470000 + k)

/-! ### Reading words -/

section Reading

variable {σ : Type} {w : Window σ} {flash : Nat → UInt16} {delay : Nat}
  {state : (address polls : Nat) → σ → Prop} {s : σ}

/-- The command bit is not part of the address. -/
theorem toNat_selected {address : UInt32} (h : address.toNat < 2 ^ 31) :
    ((readCommand ||| address) &&& 0x7fffffff).toNat = address.toNat := by
  have low : address.toNat &&& (2 ^ 31 - 1) = address.toNat := by
    rw [Nat.and_two_pow_sub_one_eq_mod, Nat.mod_eq_of_lt h]
  have command : readCommand.toNat &&& (2 ^ 31 - 1) = 0 := by decide
  calc ((readCommand ||| address) &&& 0x7fffffff).toNat
      = (readCommand.toNat ||| address.toNat) &&& (2 ^ 31 - 1) := by
        rw [UInt32.toNat_and, UInt32.toNat_or]
        rfl
    _ = address.toNat := by
        rw [Nat.and_or_distrib_right, command, low, Nat.zero_or]

/-- While the flash was not ready yet, the word is there if it gets ready within the polls left. -/
theorem run_awaitWord (h : Honest w flash delay state) (b : Binding) (left : Nat)
    {address polls : Nat} (waiting : polls ≤ delay) (hs : state address polls s) : ∃ s' polls',
    w.run (awaitWord b left) s =
      (if delay < polls + left then .ok (flash address) else .error tooSlow, s') ∧
      state address polls' s' := by
  induction left generalizing polls s with
  | zero =>
    refine ⟨s, polls, ?_, hs⟩
    rw [if_neg (by omega)]
    rfl
  | succ left ih =>
    obtain ⟨status, polled, read, ready, hp⟩ := h.read_status hs
    -- The poll after as many as the delay is the first to be answered by yes.
    by_cases there : polls = delay
    · obtain ⟨data, taken, readData, low, ht⟩ := h.read_data hp
      have set : Bits.bit status statusReadyBit = true := ready.2 (by omega)
      refine ⟨taken, polls + 1, ?_, ht⟩
      rw [if_pos (by omega), awaitWord, Binding.read_eq, Window.run_bind, Window.run_read, read]
      show w.run (if Bits.bit status statusReadyBit then _ else _) polled = _
      rw [if_pos set, Binding.read_eq, Window.run_bind, Window.run_read, readData]
      show (Except.ok data.toUInt16, taken) = _
      rw [low]
    · have clear : ¬ Bits.bit status statusReadyBit = true := fun set => by
        have := ready.1 set
        omega
      obtain ⟨s', polls', later, hs'⟩ := ih (by omega : polls + 1 ≤ delay) hp
      refine ⟨s', polls', ?_, hs'⟩
      rw [awaitWord, Binding.read_eq, Window.run_bind, Window.run_read, read]
      show w.run (if Bits.bit status statusReadyBit then _ else _) polled = _
      rw [if_neg clear, later, Nat.add_right_comm, Nat.add_assoc]

/-- A word is read if the flash is ready within all polls. -/
theorem run_readWord (h : Honest w flash delay state) (b : Binding) {address : UInt32}
    (inside : address.toNat < 2 ^ 31) {before polls : Nat} (hs : state before polls s) :
    ∃ s' polls', w.run (readWord b address) s =
      (if delay < 10000 then .ok (flash address.toNat) else .error tooSlow, s') ∧
      state address.toNat polls' s' := by
  obtain ⟨asked, wrote, ha⟩ := h.write_address hs (readCommand ||| address)
  rw [toNat_selected inside] at ha
  obtain ⟨s', polls', awaited, hs'⟩ := run_awaitWord h b maxFlashPolls (Nat.zero_le delay) ha
  refine ⟨s', polls', ?_, hs'⟩
  rw [readWord, Binding.write_eq, Window.run_bind, Window.run_write, wrote]
  show w.run (awaitWord b maxFlashPolls) asked = _
  rw [awaited, Nat.zero_add]
  rfl

/-- The words from an address on, added to those read before, unless one of them is erased. -/
theorem run_readWords (h : Honest w flash delay state) (fast : delay < 10000) (b : Binding)
    (count : Nat) {address : UInt32} (inside : address.toNat + count < 2 ^ 31) (read : List UInt16)
    {before polls : Nat} (hs : state before polls s) :
    (w.run (readWords b address read count) s).1 = .ok
      (if erased ∈ (List.range count).map fun k => flash (address.toNat + k) then none
      else some (read.reverse ++ (List.range count).map fun k => flash (address.toNat + k))) := by
  induction count generalizing address read before polls s with
  | zero => simp [readWords]
  | succ count ih =>
    obtain ⟨s', polls', word, hs'⟩ := run_readWord h b (by omega : address.toNat < 2 ^ 31) hs
    have next : (address + 1).toNat = address.toNat + 1 := by
      rw [UInt32.toNat_add, UInt32.toNat_one]
      omega
    have rest : (List.range (count + 1)).map (fun k => flash (address.toNat + k)) =
        flash address.toNat :: (List.range count).map fun k => flash ((address + 1).toNat + k) := by
      rw [List.range_succ_eq_map, List.map_cons, List.map_map, next]
      congr 2
      funext k
      show flash (address.toNat + (k + 1)) = _
      rw [Nat.add_assoc, Nat.add_comm 1]
    rw [readWords, Window.run_bind, word, if_pos fast, rest]
    show (w.run (if flash address.toNat = erased then pure none
      else readWords b (address + 1) (flash address.toNat :: read) count) s').1 = _
    by_cases gone : flash address.toNat = erased
    · rw [if_pos gone, if_pos (gone ▸ List.mem_cons_self)]
      rfl
    · rw [if_neg gone, ih (by omega) _ hs']
      simp [Ne.symm gone]

/-- A flash that is too slow for one word is too slow for any. -/
theorem run_readWords_slow (h : Honest w flash delay state) (slow : 10000 ≤ delay) (b : Binding)
    (count : Nat) {address : UInt32} (inside : address.toNat < 2 ^ 31) (read : List UInt16)
    {before polls : Nat} (hs : state before polls s) :
    (w.run (readWords b address read (count + 1)) s).1 = .error tooSlow := by
  obtain ⟨s', polls', word, -⟩ := run_readWord h b inside hs
  rw [readWords, Window.run_bind, word, if_neg (by omega)]

/-- The bytes of the record. -/
theorem run_recordBytes (h : Honest w flash delay state) (b : Binding) {address polls : Nat}
    (hs : state address polls s) :
    (w.run (recordBytes b) s).1 =
      if delay < 10000 then
        .ok (if 0xffff ∈ recordWords flash then none
          else some ((recordWords flash).flatMap wordBytes))
      else .error tooSlow := by
  have first {x : Except Error (Option (List UInt16))}
      (hx : (w.run (readWords b recordAddress [] 19) s).1 = x) :
      (w.run (recordBytes b) s).1 = x.map (Option.map (·.flatMap wordBytes)) := by
    subst hx
    show (w.run (readWords b recordAddress [] 19 >>= _) s).1 = _
    rw [Window.run_bind]
    cases w.run (readWords b recordAddress [] 19) s with
    | mk result s' => cases result <;> rfl
  by_cases fast : delay < 10000
  · rw [if_pos fast, first (run_readWords h fast b 19 (by decide) [] hs)]
    show Except.ok (Option.map _ (if 0xffff ∈ recordWords flash then none
      else some (recordWords flash))) = _
    split
    · rfl
    · rfl
  · rw [if_neg fast, first (run_readWords_slow h (by omega) b 18 (by decide) [] hs)]
    rfl

end Reading

/-! ### Decimal digits -/

/-- A byte is a decimal digit in ASCII. -/
def IsDigit (c : UInt8) : Prop := 0x30 ≤ c ∧ c ≤ 0x39

instance : DecidablePred IsDigit := fun c => inferInstanceAs (Decidable (0x30 ≤ c ∧ c ≤ 0x39))

/-- The value of decimal digits, the first one the highest. -/
def decimal (digits : List UInt8) : Nat :=
  Nat.ofDigits 10 (digits.reverse.map fun c => c.toNat - 0x30)

theorem decimal_concat (digits : List UInt8) (c : UInt8) :
    decimal (digits ++ [c]) = decimal digits * 10 + (c.toNat - 0x30) := by
  rw [decimal, List.reverse_concat, List.map_cons, Nat.ofDigits_cons, decimal]
  omega

/-- The fold over digits gives their value; the induction is on the digits from the end. -/
theorem foldl_digits {digits : List UInt8} (h : ∀ c ∈ digits, IsDigit c) :
    digits.foldl (fun n c => n * 10 + (c - 0x30).toNat) 0 = decimal digits := by
  induction digits using List.reverseRecOn with
  | nil => rfl
  | append_singleton digits c ih =>
    have low : 0x30 ≤ c := (h c (by simp)).1
    have earlier := ih fun c hc => h c (List.mem_append_left _ hc)
    rw [List.foldl_append, earlier, decimal_concat]
    show decimal digits * 10 + (c - 0x30).toNat = _
    rw [UInt8.toNat_sub_of_le _ _ low]
    rfl

theorem digitsValue?_eq_some_iff (digits : List UInt8) (n : Nat) :
    digitsValue? digits = some n ↔ (∀ c ∈ digits, IsDigit c) ∧ n = decimal digits := by
  have test : (digits.all fun c => 0x30 ≤ c && c ≤ 0x39) = true ↔ ∀ c ∈ digits, IsDigit c := by
    simp [IsDigit]
  rw [digitsValue?]
  split
  case isTrue all =>
    have digit := test.1 all
    rw [foldl_digits digit]
    constructor
    · intro same
      exact ⟨digit, (Option.some.inj same).symm⟩
    · rintro ⟨-, rfl⟩
      rfl
  case isFalse other =>
    constructor
    · intro absurd
      cases absurd
    · rintro ⟨digit, -⟩
      exact absurd (test.2 digit) other

/-- The last `width` decimal digits of a number, zeros in front. -/
def decimalDigits : (width : Nat) → Nat → List UInt8
  | 0, _ => []
  | width + 1, n => decimalDigits width (n / 10) ++ [UInt8.ofNat (0x30 + n % 10)]

theorem length_decimalDigits (width n : Nat) : (decimalDigits width n).length = width := by
  induction width generalizing n with
  | zero => rfl
  | succ width ih => rw [decimalDigits, List.length_append, ih, List.length_singleton]

/-- A digit's byte. -/
theorem toNat_digit {d : Nat} (h : d < 10) : (UInt8.ofNat (0x30 + d)).toNat = 0x30 + d := by
  rw [UInt8.toNat_ofNat']
  omega

theorem isDigit_of_mem_decimalDigits {width n : Nat} {c : UInt8}
    (h : c ∈ decimalDigits width n) : IsDigit c := by
  induction width generalizing n with
  | zero => cases h
  | succ width ih =>
    rcases List.mem_append.1 h with earlier | last
    · exact ih earlier
    · have value := toNat_digit (Nat.mod_lt n (by decide : 0 < 10))
      have := Nat.mod_lt n (by decide : 0 < 10)
      rw [← List.mem_singleton.1 last] at value
      constructor
      · rw [UInt8.le_iff_toNat_le, value]
        exact Nat.le_add_right _ _
      · rw [UInt8.le_iff_toNat_le, value]
        show 0x30 + n % 10 ≤ 0x39
        omega

theorem decimal_decimalDigits {width n : Nat} (h : n < 10 ^ width) :
    decimal (decimalDigits width n) = n := by
  induction width generalizing n with
  | zero =>
    rw [pow_zero] at h
    obtain rfl : n = 0 := by omega
    rfl
  | succ width ih =>
    have value := toNat_digit (Nat.mod_lt n (by decide : 0 < 10))
    have front : n / 10 < 10 ^ width := Nat.div_lt_of_lt_mul (by rwa [← Nat.pow_succ'])
    rw [decimalDigits, decimal_concat, ih front, value]
    omega

/-! ### The bytes of the record -/

/-- The bytes of a record that are to be the digits of the serial number. -/
def serialField (record : List UInt8) : List UInt8 := (record.drop 33).take 5

theorem serialOfRecord_eq_some_iff (record : List UInt8) (n : Int) :
    serialOfRecord record = some n ↔
      (∀ c ∈ serialField record, IsDigit c) ∧ n = decimal (serialField record) := by
  have value := digitsValue?_eq_some_iff (serialField record)
  show (digitsValue? (serialField record)).map Int.ofNat = some n ↔ _
  rw [Option.map_eq_some_iff]
  constructor
  · rintro ⟨m, found, rfl⟩
    obtain ⟨digits, rfl⟩ := (value m).1 found
    exact ⟨digits, rfl⟩
  · rintro ⟨digits, rfl⟩
    exact ⟨_, (value _).2 ⟨digits, rfl⟩, rfl⟩

/-- A word that is erased shows as two bytes with all bits set at an even place. -/
theorem getElem?_of_erased_mem {words : List UInt16} (h : 0xffff ∈ words) :
    ∃ k < words.length, (words.flatMap wordBytes)[2 * k]? = some 0xff ∧
      (words.flatMap wordBytes)[2 * k + 1]? = some 0xff := by
  induction words with
  | nil => cases h
  | cons word rest ih =>
    by_cases here : word = 0xffff
    · subst here
      exact ⟨0, Nat.succ_pos _, rfl, rfl⟩
    · obtain ⟨k, hk, high, low⟩ := ih ((List.mem_cons.1 h).resolve_left (Ne.symm here))
      exact ⟨k + 1, Nat.succ_lt_succ hk, high, low⟩

/-- No word of a record is erased that ends in digits and has no such pair before them. -/
theorem erased_notMem {words : List UInt16} {description digits : List UInt8}
    (length : description.length = 33) (digit : ∀ c ∈ digits, IsDigit c)
    (bytes : words.flatMap wordBytes = description ++ digits)
    (unpaired : ∀ k, ¬ (description[2 * k]? = some 0xff ∧ description[2 * k + 1]? = some 0xff)) :
    0xffff ∉ words := by
  intro gone
  obtain ⟨k, -, high, low⟩ := getElem?_of_erased_mem gone
  rw [bytes] at high low
  by_cases before : 2 * k + 1 < 33
  · rw [List.getElem?_append_left (by omega)] at high low
    exact unpaired k ⟨high, low⟩
  · rw [List.getElem?_append_right (by omega)] at low
    have last := (digit _ (List.mem_of_getElem? low)).2
    exact absurd last (by decide)

/-! ### The serial number and the text -/

variable {σ : Type} {w : Window σ} {flash : Nat → UInt16} {delay : Nat}
  {state : (address polls : Nat) → σ → Prop} {s : σ}

theorem run_recordText (w : Window σ) (b : Binding) (s : σ) :
    (w.run (recordText b) s).1 =
      (w.run (recordBytes b) s).1.map (Option.map Text.Utf8.readable) := by
  rw [recordText, Window.run_bind]
  cases w.run (recordBytes b) s with
  | mk result s' => cases result <;> rfl

theorem run_serial (w : Window σ) (type : CardType) (s : σ) :
    (w.run (serial ⟨type, crorcFlashBar⟩) s).1 =
      (w.run (recordBytes ⟨type, crorcFlashBar⟩) s).1.map (·.bind serialOfRecord) := by
  show (w.run (recordBytes ⟨type, crorcFlashBar⟩ >>= _) s).1 = _
  rw [Window.run_bind]
  cases w.run (recordBytes ⟨type, crorcFlashBar⟩) s with
  | mk result s' => cases result <;> rfl

/-- **The record of a C-RORC.** Behind an honest controller the serial number and the text fail if
the flash takes 10000 polls or more, and nothing but the delay decides that. Else there is neither
if a word is erased; and if none is, the text is that of all bytes, and the serial number is the
value of bytes 33 to 37 if these are digits. So a number of five digits after any 33 bytes that
have no word erased reads back. -/
theorem record_of_honest (h : Honest w flash delay state) {address polls : Nat}
    (hs : state address polls s) (type : CardType) :
    (10000 ≤ delay →
      (w.run (serial ⟨type, 0⟩) s).1 = .error (.timeout "C-RORC flash read" 10000) ∧
      (w.run (recordText ⟨type, 0⟩) s).1 = .error (.timeout "C-RORC flash read" 10000)) ∧
    (delay < 10000 → 0xffff ∈ recordWords flash →
      (w.run (serial ⟨type, 0⟩) s).1 = .ok none ∧
      (w.run (recordText ⟨type, 0⟩) s).1 = .ok none) ∧
    (delay < 10000 → 0xffff ∉ recordWords flash →
      (w.run (recordText ⟨type, 0⟩) s).1 =
        .ok (some (Text.Utf8.readable ((recordWords flash).flatMap wordBytes))) ∧
      ∃ found, (w.run (serial ⟨type, 0⟩) s).1 = .ok found ∧ ∀ n, found = some n ↔
        (∀ c ∈ serialField ((recordWords flash).flatMap wordBytes), IsDigit c) ∧
        n = decimal (serialField ((recordWords flash).flatMap wordBytes))) ∧
    ∀ n ≤ 99999, ∀ description : List UInt8, description.length = 33 →
      (∀ k, ¬ (description[2 * k]? = some 0xff ∧ description[2 * k + 1]? = some 0xff)) →
      (recordWords flash).flatMap wordBytes = description ++ decimalDigits 5 n → delay < 10000 →
      (w.run (serial ⟨type, 0⟩) s).1 = .ok (some (n : Int)) := by
  have bytes := run_recordBytes h ⟨type, crorcFlashBar⟩ hs
  have text := run_recordText w ⟨type, crorcFlashBar⟩ s
  have number := run_serial w type s
  rw [bytes] at text number
  refine ⟨fun slow => ?_, fun fast gone => ?_, fun fast whole => ⟨?_, ?_⟩, ?_⟩
  · rw [if_neg (by omega)] at text number
    exact ⟨number, text⟩
  · rw [if_pos fast, if_pos gone] at text number
    exact ⟨number, text⟩
  · rw [if_pos fast, if_neg whole] at text
    exact text
  · rw [if_pos fast, if_neg whole] at number
    exact ⟨_, number, fun n => serialOfRecord_eq_some_iff _ n⟩
  · intro n small description length unpaired record fast
    have digits : ∀ c ∈ decimalDigits 5 n, IsDigit c := fun c => isDigit_of_mem_decimalDigits
    have whole := erased_notMem length digits record unpaired
    have field : serialField ((recordWords flash).flatMap wordBytes) = decimalDigits 5 n := by
      rw [serialField, record, ← length, List.drop_left]
      exact List.take_of_length_le (length_decimalDigits 5 n).le
    have value : decimal (decimalDigits 5 n) = n := decimal_decimalDigits (by omega)
    rw [if_pos fast, if_neg whole] at number
    show (w.run (serial ⟨type, crorcFlashBar⟩) s).1 = _
    rw [number]
    refine congrArg Except.ok ((serialOfRecord_eq_some_iff _ _).2 ?_)
    rw [field, value]
    exact ⟨digits, rfl⟩

end ReadoutCard.Crorc

namespace ReadoutCard.FlashController

open Crorc

/-- The controller is honest if its status words differ in the bit that counts and nothing stands
over the word in the data register. -/
theorem honest (f : FlashController) (ready : Bits.bit f.ready 0 = true)
    (waiting : Bits.bit f.waiting 0 = false) (high : f.high.toNat % 2 ^ 16 = 0) :
    Honest window f.wordAt f.delay
      fun address polls g => g = { f with selected := address, polls := polls } where
  write_address := by
    rintro address polls _ rfl value
    exact ⟨_, rfl, rfl⟩
  read_status := by
    rintro address polls _ rfl
    refine ⟨_, _, rfl, ?_, rfl⟩
    show Bits.bit (if f.delay < polls + 1 then f.ready else f.waiting) 0 = true ↔ _
    split
    case isTrue late => exact iff_of_true ready late
    case isFalse early => exact iff_of_false (by rw [waiting]; decide) early
  read_data := by
    rintro address polls _ rfl
    refine ⟨_, _, rfl, ?_, rfl⟩
    show (f.high ||| (f.wordAt address).toUInt32).toUInt16 = f.wordAt address
    apply UInt16.toNat_inj.1
    rw [UInt32.toNat_toUInt16, UInt32.toNat_or, Nat.or_mod_two_pow, high, Nat.zero_or,
      UInt16.toNat_toUInt32]
    exact Nat.mod_eq_of_lt (f.wordAt address).toNat_lt

/-- The slowest flash that is read: serial number 42 after bytes that are no text. -/
def slowest : FlashController where
  words := Array.replicate 16 0xc3c3 ++ #[0xc330, 0x3030, 0x3432]
  delay := 9999
  ready := 0xffffffff
  waiting := 0xfffffffe
  high := 0xabcd0000
  selected := 0
  polls := 0

theorem slowest_serial :
    (window.run (serial ⟨.crorc, 0⟩) slowest).1 = .ok (some 42) := by
  have honest := slowest.honest (by decide) (by decide) (by decide)
  have fresh : slowest = { slowest with selected := 0, polls := 0 } := rfl
  obtain ⟨-, -, -, reads⟩ := record_of_honest honest fresh .crorc
  refine reads 42 (by decide) (List.replicate 33 0xc3) (by decide) ?_ (by decide) (by decide)
  rintro k ⟨first, -⟩
  have := List.eq_of_mem_replicate (List.mem_of_getElem? first)
  exact absurd this (by decide)

end ReadoutCard.FlashController
