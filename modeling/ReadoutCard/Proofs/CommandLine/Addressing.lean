import ReadoutCard.Proofs.CommandLine.Registers

/-!
# Ranges of registers in 64-bit arithmetic

Indices and byte addresses are 64-bit numbers, so their sums and products may
overflow. The end of a range is computed with both checked (`rangeEnd?`), and a
range is accepted exactly if that gives a number (`ofAddress_eq`). An index that
is not beyond the end has a byte address, so what is computed from it later
needs no check (`toNat_mul_four`), and is the address that is printed
(`run_printWords_range`).
-/

namespace ReadoutCard.CommandLine

/-! ### Checked sums and products -/

/-- The sum of two 64-bit numbers, unless it overflows. -/
def sum? (a b : UInt64) : Option UInt64 :=
  if a.toNat + b.toNat < 2 ^ 64 then some (a + b) else none

/-- The product of two 64-bit numbers, unless it overflows. -/
def product? (a b : UInt64) : Option UInt64 :=
  if a.toNat * b.toNat < 2 ^ 64 then some (a * b) else none

/-- The index after the last one of a range; it too has to have a byte address. -/
def rangeEnd? (first count : UInt64) : Option UInt64 := do
  let last ← sum? first count
  let _ ← product? last 4
  return last

theorem toNat_sum {a b : UInt64} (fits : a.toNat + b.toNat < 2 ^ 64) :
    (a + b).toNat = a.toNat + b.toNat := by
  rw [UInt64.toNat_add]
  exact Nat.mod_eq_of_lt fits

/-- An index below a quarter of the bound has a byte address. -/
theorem toNat_mul_four {index : UInt64} (fits : index.toNat * 4 < 2 ^ 64) :
    (index * 4).toNat = index.toNat * 4 := by
  rw [UInt64.toNat_mul]
  exact Nat.mod_eq_of_lt fits

theorem rangeEnd?_eq_some_iff {first count last : UInt64} :
    rangeEnd? first count = some last ↔
      (first.toNat + count.toNat) * 4 < 2 ^ 64 ∧ last = first + count := by
  have four : (4 : UInt64).toNat = 4 := rfl
  unfold rangeEnd?
  rw [Option.bind_eq_bind, Option.bind_eq_some_iff]
  constructor
  · rintro ⟨sum, added, multiplied⟩
    obtain ⟨fits, total⟩ := Option.ite_none_right_eq_some.1 added
    obtain rfl := Option.some.inj total
    obtain ⟨_, checked, same⟩ := Option.bind_eq_some_iff.1 multiplied
    obtain ⟨room, -⟩ := Option.ite_none_right_eq_some.1 checked
    rw [toNat_sum fits, four] at room
    exact ⟨room, (Option.some.inj same).symm⟩
  · rintro ⟨room, rfl⟩
    have fits : first.toNat + count.toNat < 2 ^ 64 := by omega
    have product : (first + count).toNat * (4 : UInt64).toNat < 2 ^ 64 := by
      rw [toNat_sum fits, four]
      exact room
    exact ⟨_, if_pos fits, Option.bind_eq_some_iff.2 ⟨_, if_pos product, rfl⟩⟩

theorem isSome_rangeEnd?_iff {first count : UInt64} :
    (rangeEnd? first count).isSome ↔ (first.toNat + count.toNat) * 4 < 2 ^ 64 := by
  simp only [Option.isSome_iff_exists, rangeEnd?_eq_some_iff, exists_and_left, exists_eq,
    and_true]

/-! ### Which ranges are accepted -/

section Ranges

variable {address : UInt32} {count : UInt64}

/-- The index of the register at a byte address. -/
def firstIndex (address : UInt32) : UInt64 := (address / 4).toUInt64

theorem toNat_firstIndex (address : UInt32) : (firstIndex address).toNat = address.toNat / 4 := by
  simp [firstIndex]

/-- A range is accepted if its address is a multiple of four and its end does not overflow. -/
theorem ofAddress_eq (address : UInt32) (count : UInt64) :
    IndexRange.ofAddress address.toNat count.toNat =
      if address.toNat % 4 = 0 then
        if (rangeEnd? (firstIndex address) count).isSome then
          .ok ⟨address.toNat / 4, count.toNat⟩
        else .error ⟨toString count.toNat ++ " registers from " ++ Text.hexMarked address.toNat ++
          " overflow the address space", none⟩
      else
        .error ⟨"address " ++ Text.hexMarked address.toNat ++ " is not 32-bit aligned", none⟩ := by
  unfold IndexRange.ofAddress alignedIndex Register.wordIndex
  split
  case isFalse => rfl
  case isTrue =>
    show (if (address.toNat / 4 + count.toNat) * 4 < addressSpace then _ else _) = _
    have checked : (rangeEnd? (firstIndex address) count).isSome ↔
        (address.toNat / 4 + count.toNat) * 4 < 2 ^ 64 := by
      rw [isSome_rangeEnd?_iff, toNat_firstIndex]
    by_cases fits : (address.toNat / 4 + count.toNat) * 4 < 2 ^ 64
    · rw [if_pos (checked.2 fits)]
      exact if_pos fits
    · rw [if_neg fun some => fits (checked.1 some)]
      exact if_neg fits

/-- What is accepted is the range of the address, and it ends within a quarter of the bound. -/
theorem ofAddress_eq_ok_iff {r : IndexRange} :
    IndexRange.ofAddress address.toNat count.toNat = .ok r ↔
      address.toNat % 4 = 0 ∧ (address.toNat / 4 + count.toNat) * 4 < 2 ^ 64 ∧
        r = ⟨address.toNat / 4, count.toNat⟩ := by
  simp only [ofAddress_eq, isSome_rangeEnd?_iff, toNat_firstIndex]
  split
  case isFalse unaligned => simp [unaligned]
  case isTrue aligned =>
    split
    case isFalse beyond => simp only [beyond, false_and, and_false, reduceCtorEq]
    case isTrue fits =>
      simp only [aligned, fits, true_and, Except.ok.injEq]
      exact eq_comm

/-! ### What is computed from the indices -/

theorem getElem_toList (r : IndexRange) {k : Nat} (inside : k < r.toList.length) :
    r.toList[k] = r.first + k := by simp [IndexRange.toList]

/-- An index with a byte address is a 64-bit number, and so is the address. -/
theorem toNat_ofNat_mul_four {index : Nat} (fits : index * 4 < 2 ^ 64) :
    (UInt64.ofNat index).toNat = index ∧ (UInt64.ofNat index * 4).toNat = index * 4 := by
  have small : index < UInt64.size := by
    show index < 2 ^ 64
    omega
  have same := UInt64.toNat_ofNat_of_lt' small
  refine ⟨same, ?_⟩
  rw [toNat_mul_four (by rwa [same]), same]

/-- The indices of an accepted range have byte addresses. -/
theorem fits_of_mem {r : IndexRange} (fits : (r.first + r.count) * 4 < 2 ^ 64) {index : Nat}
    (mem : index ∈ r.toList) : index * 4 < 2 ^ 64 := by
  obtain ⟨k, inside, rfl⟩ := List.mem_range'.1 mem
  omega

/-- A range that is read prints for each index its word and its byte address, which is computed in
64 bits. -/
theorem exists_prints (card : CardArguments) {h : Host} {address count : Nat}
    (success : ((Command.readRegisters card address count none).outcome h).1.exitCode = 0) :
    ∃ words : List UInt32, words.length = count ∧
      Prints (.readRegisters card address count none) h (List.zipWith
        (fun index word => registerLine (UInt64.ofNat index * 4).toNat word)
        (IndexRange.toList ⟨address / 4, count⟩) words) := by
  obtain fails | ⟨words, length, fits, ⟨aligned, -⟩, -, -, -, prints⟩ :=
    @readRegisters_delivers h card address count none nofun
  · rw [fails.exit] at success
    cases success
  · refine ⟨words, length, ?_⟩
    have same : words.mapIdx (fun k word => registerLine (address + 4 * k) word) =
        List.zipWith (fun index word => registerLine (UInt64.ofNat index * 4).toNat word)
          (IndexRange.toList ⟨address / 4, count⟩) words := by
      apply List.ext_getElem
      · simp [IndexRange.toList, length]
      · intro k inside _
        rw [List.length_mapIdx] at inside
        have room : (address / 4 + k) * 4 < 2 ^ 64 := by
          have bound : (address / 4 + count) * 4 < 2 ^ 64 := fits
          omega
        rw [List.getElem_mapIdx, List.getElem_zipWith, getElem_toList,
          (toNat_ofNat_mul_four room).2]
        congr 1
        omega
    rwa [same] at prints

end Ranges

/-- **Ranges of registers in 64-bit arithmetic.** A range is accepted exactly if its address is a
multiple of four and its end is at most a quarter of the largest 64-bit number, and what is computed
with checked sums and products decides the same. Then it holds as many indices as were asked for,
one after the other, and their byte addresses go up by four. Neither the end nor its byte address
nor the byte address of any index overflows: computed in 64 bits they are what they are as numbers,
and a range that is read prints just these. -/
theorem ranges_in_words (address : UInt32) (count : UInt64) :
    let range := IndexRange.ofAddress address.toNat count.toNat
    let first := firstIndex address
    ((∃ r, range = .ok r) ↔ address.toNat % 4 = 0 ∧
      address.toNat / 4 + count.toNat ≤ (2 ^ 64 - 1) / 4) ∧
    (range = if address.toNat % 4 = 0 then
        if (rangeEnd? first count).isSome then .ok ⟨first.toNat, count.toNat⟩
        else .error ⟨toString count.toNat ++ " registers from " ++ Text.hexMarked address.toNat ++
          " overflow the address space", none⟩
      else .error ⟨"address " ++ Text.hexMarked address.toNat ++ " is not 32-bit aligned", none⟩) ∧
    ∀ r, range = .ok r → r.toList.length = count.toNat ∧
      (∀ k (inside : k < r.toList.length), r.toList[k] = address.toNat / 4 + k ∧
        r.toList[k] * 4 = address.toNat + 4 * k) ∧
      (first + count).toNat = address.toNat / 4 + count.toNat ∧
      ((first + count) * 4).toNat = (first + count).toNat * 4 ∧
      (∀ index ∈ r.toList, (UInt64.ofNat index).toNat = index ∧
        (UInt64.ofNat index * 4).toNat = index * 4) ∧
      ∀ (card : CardArguments) (h : Host),
        let read := Command.readRegisters card address.toNat count.toNat none
        (read.outcome h).1.exitCode = 0 →
        ∃ words : List UInt32, words.length = count.toNat ∧
          Prints read h (List.zipWith
            (fun index word => registerLine (UInt64.ofNat index * 4).toNat word)
            r.toList words) := by
  intro range first
  have start : first.toNat = address.toNat / 4 := toNat_firstIndex address
  refine ⟨?_, ?_, ?_⟩
  · simp only [range, ofAddress_eq_ok_iff, exists_and_left, exists_eq, and_true]
    omega
  · rw [start]
    exact ofAddress_eq address count
  · intro r accepted
    obtain ⟨aligned, fits, rfl⟩ := ofAddress_eq_ok_iff.1 accepted
    have sum : (first + count).toNat = address.toNat / 4 + count.toNat := by
      rw [toNat_sum (by omega), start]
    refine ⟨List.length_range', fun k inside => ?_, sum, toNat_mul_four (by omega), ?_, ?_⟩
    · rw [getElem_toList]
      refine ⟨rfl, ?_⟩
      show (address.toNat / 4 + k) * 4 = _
      omega
    · intro index mem
      exact toNat_ofNat_mul_four (fits_of_mem fits mem)
    · intro card h read success
      exact exists_prints card success

example : IndexRange.ofAddress 0x10 (2 ^ 62 - 5) = .ok ⟨4, 2 ^ 62 - 5⟩ ∧
    (IndexRange.ofAddress 0x10 (2 ^ 62 - 4)).isOk = false := by decide

end ReadoutCard.CommandLine
