import ReadoutCard.Proofs.Sca.Flags
import ReadoutCard.Proofs.Traces
import ReadoutCard.Sca.Engine

/-!
# The two polling loops of the slow control

`Wait` says everything that a wait on the busy register can do, `Fetch`
everything that reading a response can do: the accesses in order, and the
result that they lead to. `traces_awaitIdle` and `traces_fetch` fold the loops,
each by induction on the polls left.
-/

namespace ReadoutCard.Sca

open Register (Trace readOk readFailed)

/-- A wait of at most `polls` reads of the busy register: its accesses and its result. -/
inductive Wait (polls : Nat) : Trace → Except Error Unit → Prop where
  /-- The last read, and no other, gives zero. -/
  | cleared (waits : List UInt32) (nonzero : ∀ v ∈ waits, v ≠ 0) (bound : waits.length < polls) :
    Wait polls (waits.map (readOk busy) ++ [readOk busy 0]) (.ok ())
  | failed (waits : List UInt32) (nonzero : ∀ v ∈ waits, v ≠ 0) (bound : waits.length < polls)
    (e : Error) : Wait polls (waits.map (readOk busy) ++ [readFailed busy e]) (.error e)
  | exhausted (waits : List UInt32) (nonzero : ∀ v ∈ waits, v ≠ 0) (bound : waits.length = polls) :
    Wait polls (waits.map (readOk busy)) (.error (.timeout "SCA busy wait" maxBusyPolls))

/-- One more read that does not give zero, before a wait. -/
theorem Wait.cons {polls : Nat} {t : Trace} {r : Except Error Unit} {v : UInt32} (hv : v ≠ 0)
    (h : Wait polls t r) : Wait (polls + 1) (readOk busy v :: t) r := by
  have more : ∀ waits : List UInt32, (∀ x ∈ waits, x ≠ 0) → ∀ x ∈ v :: waits, x ≠ 0 := by
    intro waits nonzero x hx
    rcases List.mem_cons.1 hx with rfl | hx
    · exact hv
    · exact nonzero x hx
  cases h with
  | cleared waits nonzero bound =>
    exact .cleared (v :: waits) (more waits nonzero) (by simp only [List.length_cons]; omega)
  | failed waits nonzero bound e =>
    exact .failed (v :: waits) (more waits nonzero) (by simp only [List.length_cons]; omega) e
  | exhausted waits nonzero bound =>
    exact .exhausted (v :: waits) (more waits nonzero) (by simp only [List.length_cons]; omega)

theorem traces_awaitIdle {b : Binding} {polls : Nat} {t : Trace} {r : Except Error Unit}
    (h : (awaitIdle b polls).Traces t r) : Wait polls t r := by
  induction polls generalizing t with
  | zero =>
    obtain ⟨rfl, rfl⟩ := h
    exact .exhausted [] (by simp) rfl
  | succ polls ih =>
    rw [awaitIdle, Binding.read_eq, Access.traces_bind] at h
    obtain ⟨e, h, rfl⟩ | ⟨t₁, v, t₂, rfl, h₁, h₂⟩ := h
    · rw [Access.traces_read.1 h]
      exact .failed [] (by simp) (by simp) e
    · rw [Access.traces_read.1 h₁]
      by_cases hv : v = 0
      · rw [if_pos hv] at h₂
        obtain ⟨rfl, rfl⟩ := h₂
        subst hv
        exact .cleared [] (by simp) (by simp)
      · rw [if_neg hv] at h₂
        exact (ih h₂).cons hv

/-- A response is being read: the data word once, then the command word until the response does
more than tell that its channel is busy. -/
inductive Fetch : Trace → Except Error Response → Prop where
  | noData (e : Error) : Fetch [readFailed readData e] (.error e)
  | lost (data : UInt32) (waits : List UInt32) (pending : ∀ c ∈ waits, c &&& 0xff = 0x40)
    (bound : waits.length ≤ maxBusyPolls) (e : Error) :
    Fetch (readOk readData data :: (waits.map (readOk readCommand) ++ [readFailed readCommand e]))
      (.error e)
  /-- The last command word has flags; it may still tell that the channel is busy. -/
  | refused (data : UInt32) (waits : List UInt32) (pending : ∀ c ∈ waits, c &&& 0xff = 0x40)
    (bound : waits.length ≤ maxBusyPolls) (command : UInt32) (e : Error)
    (final : command &&& 0xff = 0x40 → waits.length = maxBusyPolls)
    (flagged : check command = .error e) :
    Fetch (readOk readData data :: (waits ++ [command]).map (readOk readCommand)) (.error e)
  /-- The last command word has none of bits 0 to 6 set. -/
  | passed (data : UInt32) (waits : List UInt32) (pending : ∀ c ∈ waits, c &&& 0xff = 0x40)
    (bound : waits.length ≤ maxBusyPolls) (command : UInt32) (clear : command &&& 0x7f = 0) :
    Fetch (readOk readData data :: (waits ++ [command]).map (readOk readCommand))
      (.ok ⟨command, data⟩)

theorem isBusy_iff {command : UInt32} : isBusy command = true ↔ command &&& 0xff = 0x40 := by
  simp [isBusy, code]

/-- From the first command word on: words that only tell of a busy channel, and then the word
gone on with, or a failure. -/
theorem traces_settleCommand {b : Binding} {polls : Nat} {command : UInt32} {t : Trace}
    {r : Except Error UInt32} (h : (settleCommand b command polls).Traces t r) :
    ∃ waits : List UInt32, (∀ c ∈ waits, c &&& 0xff = 0x40) ∧ waits.length ≤ polls ∧
      ((∃ last, (last &&& 0xff = 0x40 → waits.length = polls) ∧ r = .ok last ∧
          readOk readCommand command :: t = (waits ++ [last]).map (readOk readCommand)) ∨
        ∃ e, r = .error e ∧ readOk readCommand command :: t =
          waits.map (readOk readCommand) ++ [readFailed readCommand e]) := by
  induction polls generalizing command t with
  | zero =>
    obtain ⟨rfl, rfl⟩ := h
    exact ⟨[], by simp, by simp, .inl ⟨command, fun _ => rfl, rfl, rfl⟩⟩
  | succ polls ih =>
    rw [settleCommand] at h
    by_cases pending : isBusy command = true
    · rw [if_pos pending, Binding.read_eq, Access.traces_bind] at h
      have here := isBusy_iff.1 pending
      obtain ⟨e, h, rfl⟩ | ⟨t₁, next, t₂, rfl, h₁, h₂⟩ := h
      · rw [Access.traces_read.1 h]
        exact ⟨[command], by simpa using here, by simp, .inr ⟨e, rfl, rfl⟩⟩
      · rw [Access.traces_read.1 h₁]
        obtain ⟨waits, later, bound, outcome⟩ := ih h₂
        refine ⟨command :: waits, ?_, by simpa using bound, ?_⟩
        · intro c hc
          rcases List.mem_cons.1 hc with rfl | hc
          · exact here
          · exact later c hc
        · obtain ⟨last, final, rfl, eq⟩ | ⟨e, rfl, eq⟩ := outcome
          · exact .inl ⟨last, fun hl => by simpa using final hl, rfl,
              congrArg (readOk readCommand command :: ·) eq⟩
          · exact .inr ⟨e, rfl, congrArg (readOk readCommand command :: ·) eq⟩
    · rw [if_neg pending] at h
      obtain ⟨rfl, rfl⟩ := h
      refine ⟨[], by simp, by simp, .inl ⟨command, fun hc => ?_, rfl, rfl⟩⟩
      exact absurd (isBusy_iff.2 hc) pending

theorem traces_fetch {b : Binding} {t : Trace} {r : Except Error Response}
    (h : (fetch b).Traces t r) : Fetch t r := by
  rw [fetch, Binding.read_eq, Binding.read_eq, Access.traces_bind] at h
  obtain ⟨e, h, rfl⟩ | ⟨t₁, data, t₂, rfl, h₁, h⟩ := h
  · rw [Access.traces_read.1 h]
    exact .noData e
  rw [Access.traces_read.1 h₁]
  rw [Access.traces_bind] at h
  obtain ⟨e, h, rfl⟩ | ⟨t₃, first, t₄, rfl, h₂, h⟩ := h
  · rw [Access.traces_read.1 h]
    exact .lost data [] (by simp) (by simp) e
  rw [Access.traces_read.1 h₂]
  rw [Access.traces_bind] at h
  obtain ⟨e, h, rfl⟩ | ⟨t₅, command, t₆, rfl, h₃, h⟩ := h
  · obtain ⟨waits, pending, bound, ⟨last, -, eq, -⟩ | ⟨e', eq, run⟩⟩ := traces_settleCommand h
    · cases eq
    · cases eq
      show Fetch (readOk readData data :: readOk readCommand first :: t₄) _
      rw [run]
      exact .lost data waits pending bound e
  obtain ⟨waits, pending, bound, ⟨last, final, eq, run⟩ | ⟨e', eq, -⟩⟩ := traces_settleCommand h₃
  · cases eq
    rw [Access.traces_bind] at h
    obtain ⟨e, ⟨rfl, flagged⟩, rfl⟩ | ⟨t₇, _, t₈, rfl, ⟨rfl, passed⟩, ⟨rfl, rfl⟩⟩ := h
    all_goals simp only [List.append_nil]
    · show Fetch (readOk readData data :: readOk readCommand first :: t₅) _
      rw [run]
      exact .refused data waits pending bound command e final flagged.symm
    · show Fetch (readOk readData data :: readOk readCommand first :: t₅) _
      rw [run]
      exact .passed data waits pending bound command (check_eq_ok_iff.1 passed.symm)
  · cases eq

end ReadoutCard.Sca
