import ReadoutCard.Proofs.Window.Words
import ReadoutCard.Window.Mapped

/-!
# Windows onto mapped files

An access that does not end inside the content is refused, however large its
index (`read_of_beyond`, `write_of_beyond`); any other finds the word at four
times its index (`read_of_inside`, `write_of_inside`). Whether an access
succeeds hangs on the size alone, and what is read on the size and the four
bytes (`write_fst_congr`, `read_congr`).
-/

namespace ReadoutCard

variable {α : Type}

/-- The access was refused by a window of BAR `bar`, whatever the message. -/
def Refused (bar : Nat) (r : Except Error α) : Prop :=
  ∃ message, r = .error (.invalidAccess bar bar message)

namespace Mapped

variable {bar index : Nat} {content content' : ByteArray}

/-! ### Requests that are refused -/

theorem offsetOf_cases (bar size index : Nat) :
    offsetOf bar size index = .ok (index * 4) ∨ Refused bar (offsetOf bar size index) := by
  unfold offsetOf
  split
  · exact .inl rfl
  · exact .inr ⟨_, rfl⟩

/-- A read that does not end inside the content is refused, however large the index. -/
theorem read_of_beyond (h : content.size < index * 4 + 4) :
    Refused bar (read bar content index) := by
  have beyond : inBounds content.size (index * 4) = false := by simp [inBounds, h]
  obtain ok | ⟨message, refused⟩ := offsetOf_cases bar content.size index
  · simp only [read, ok, bind, Except.bind, readAt, beyond]
    exact ⟨_, rfl⟩
  · simp only [read, refused, bind, Except.bind]
    exact ⟨message, rfl⟩

/-- A write that does not end inside the content is refused and changes nothing. -/
theorem write_of_beyond (h : content.size < index * 4 + 4) (value : UInt32) :
    Refused bar (write bar content index value).1 ∧
      (write bar content index value).2 = content := by
  have beyond : inBounds content.size (index * 4) = false := by simp [inBounds, h]
  obtain ok | ⟨message, refused⟩ := offsetOf_cases bar content.size index
  · simp only [write, ok, writeAt, beyond]
    exact ⟨⟨_, rfl⟩, rfl⟩
  · simp only [write, refused]
    exact ⟨⟨message, rfl⟩, trivial⟩

/-! ### Requests that succeed -/

theorem inBounds_of_inside (h : index * 4 + 4 ≤ content.size) :
    inBounds content.size (index * 4) = true := by
  simp [inBounds, h]

theorem read_of_inside (h : index * 4 + 4 ≤ content.size) (fits : index * 4 < addressSpace)
    {w : UInt32} (word : LittleEndian.wordAt? content (index * 4) = some w) :
    read bar content index = .ok w := by
  rw [read, offsetOf, if_pos fits]
  simp only [bind, Except.bind, readAt, inBounds_of_inside h, if_true, word]

/-- A read that succeeds gives the word inside the content. -/
theorem read_eq_ok_iff {w : UInt32} : read bar content index = .ok w ↔
    index * 4 < addressSpace ∧ index * 4 + 4 ≤ content.size ∧
      LittleEndian.wordAt? content (index * 4) = some w := by
  constructor
  · rw [read, offsetOf]
    intro given
    by_cases fits : index * 4 < addressSpace
    case neg =>
      rw [if_neg fits] at given
      cases given
    rw [if_pos fits] at given
    simp only [bind, Except.bind, readAt] at given
    split at given
    case h_1 word found =>
      cases given
      obtain ⟨inside, word⟩ := Option.ite_none_right_eq_some.1 found
      exact ⟨fits, by simpa [inBounds] using inside, word⟩
    case h_2 => cases given
  · rintro ⟨fits, inside, word⟩
    exact read_of_inside inside fits word

theorem write_of_inside (h : index * 4 + 4 ≤ content.size) (fits : index * 4 < addressSpace)
    (value : UInt32) : write bar content index value =
      (.ok (), LittleEndian.setWordAt content (index * 4) value) := by
  rw [write, offsetOf, if_pos fits]
  simp only [writeAt, inBounds_of_inside h, if_true]

/-- A register that has no word in the content, or no byte address, cannot be written. -/
theorem write_of_not_inside (h : ¬ (index * 4 < addressSpace ∧ index * 4 + 4 ≤ content.size))
    (value : UInt32) : ∃ e, write bar content index value = (.error e, content) := by
  rw [write, offsetOf]
  by_cases fits : index * 4 < addressSpace
  · have beyond : ¬ index * 4 + 4 ≤ content.size := fun room => h ⟨fits, room⟩
    have beyond : inBounds content.size (index * 4) = false := by simpa [inBounds] using beyond
    rw [if_pos fits]
    simp only [writeAt, beyond]
    exact ⟨_, rfl⟩
  · rw [if_neg fits]
    exact ⟨_, rfl⟩

/-! ### Requests by the size and the bytes of the content -/

theorem read_congr (size : content.size = content'.size)
    (bytes : ∀ i, index * 4 ≤ i → i < index * 4 + 4 → content.data[i]? = content'.data[i]?) :
    read bar content index = read bar content' index := by
  rw [read, read, size]
  obtain ok | ⟨message, refused⟩ := offsetOf_cases bar content'.size index
  · rw [ok]
    simp only [bind, Except.bind, readAt, size, LittleEndian.wordAt?_congr bytes]
  · rw [refused]
    rfl

theorem write_fst_congr (size : content.size = content'.size) (value : UInt32) :
    (write bar content index value).1 = (write bar content' index value).1 := by
  rw [write, write, size]
  obtain ok | ⟨message, refused⟩ := offsetOf_cases bar content'.size index
  · rw [ok]
    simp only [writeAt, size]
    split <;> rfl
  · rw [refused]

/-- A write replaces one word inside the content, or nothing. -/
theorem write_snd (bar : Nat) (content : ByteArray) (index : Nat) (value : UInt32) :
    (write bar content index value).2 = content ∨ index * 4 + 4 ≤ content.size ∧
      (write bar content index value).2 = LittleEndian.setWordAt content (index * 4) value := by
  rw [write]
  obtain ok | ⟨message, refused⟩ := offsetOf_cases bar content.size index
  · rw [ok]
    simp only [writeAt]
    split
    case isTrue inside => exact .inr ⟨by simpa [inBounds] using inside, rfl⟩
    case isFalse => exact .inl rfl
  · rw [refused]
    exact .inl rfl

end Mapped

end ReadoutCard
