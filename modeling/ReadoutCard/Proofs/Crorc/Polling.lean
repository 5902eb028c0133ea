import ReadoutCard.Proofs.Inquiries
import ReadoutCard.Proofs.SerialAccesses

/-!
# How the record of a C-RORC is read

`Polled` says everything that the polling for one flash word can do, `WordRead`
adds the command before it, and `RecordRead` goes through the words of the
record: accesses in order, and the result that they lead to. `traces_awaitWord`
is an induction on the polls left and `traces_readWords` one on the words left;
every word starts with all its polls. What is written and how often the window
is accessed is then read off `RecordRead`, and `record_accesses` says it of the
serial number and the text over any window.
-/

namespace ReadoutCard.Crorc

open Register (Trace readOk readFailed writes)

variable {α σ : Type} {t : Trace}

/-- The status word shows that the flash word is there. -/
def Ready (status : UInt32) : Prop := status &&& 1 = 1

theorem bit_statusReadyBit_iff (status : UInt32) :
    Bits.bit status statusReadyBit = true ↔ Ready status := by
  rw [Bits.bit, beq_iff_eq, statusReadyBit]
  simp [Ready]

/-- Polling for a flash word, at most `polls` times: the accesses and the result. -/
inductive Polled (polls : Nat) : Trace → Except Error UInt16 → Prop where
  /-- The last status word, and no other, shows the word there; then it is read once. -/
  | there (waits : List UInt32) (waiting : ∀ v ∈ waits, ¬ Ready v) (bound : waits.length < polls)
    (status : UInt32) (ready : Ready status) (data : UInt32) :
    Polled polls
      (waits.map (readOk flashStatus) ++ [readOk flashStatus status, readOk flashData data])
      (.ok data.toUInt16)
  | noData (waits : List UInt32) (waiting : ∀ v ∈ waits, ¬ Ready v) (bound : waits.length < polls)
    (status : UInt32) (ready : Ready status) (e : Error) :
    Polled polls
      (waits.map (readOk flashStatus) ++ [readOk flashStatus status, readFailed flashData e])
      (.error e)
  | noStatus (waits : List UInt32) (waiting : ∀ v ∈ waits, ¬ Ready v)
    (bound : waits.length < polls) (e : Error) :
    Polled polls (waits.map (readOk flashStatus) ++ [readFailed flashStatus e]) (.error e)
  | exhausted (waits : List UInt32) (waiting : ∀ v ∈ waits, ¬ Ready v)
    (bound : waits.length = polls) :
    Polled polls (waits.map (readOk flashStatus)) (.error (.timeout "C-RORC flash read" 10000))

/-- One more poll that does not find the word there, before the others. -/
theorem Polled.cons {polls : Nat} {r : Except Error UInt16} {v : UInt32} (hv : ¬ Ready v)
    (h : Polled polls t r) : Polled (polls + 1) (readOk flashStatus v :: t) r := by
  have more {waits : List UInt32} (waiting : ∀ x ∈ waits, ¬ Ready x) :
      ∀ x ∈ v :: waits, ¬ Ready x := List.forall_mem_cons.2 ⟨hv, waiting⟩
  cases h with
  | there waits waiting bound status ready data =>
    exact .there (v :: waits) (more waiting) (Nat.succ_lt_succ bound) status ready data
  | noData waits waiting bound status ready e =>
    exact .noData (v :: waits) (more waiting) (Nat.succ_lt_succ bound) status ready e
  | noStatus waits waiting bound e =>
    exact .noStatus (v :: waits) (more waiting) (Nat.succ_lt_succ bound) e
  | exhausted waits waiting bound =>
    exact .exhausted (v :: waits) (more waiting) (congrArg Nat.succ bound)

theorem traces_awaitWord {b : Binding} {polls : Nat} {r : Except Error UInt16}
    (h : (awaitWord b polls).Traces t r) : Polled polls t r := by
  have none_yet : ∀ v ∈ ([] : List UInt32), ¬ Ready v := by simp
  induction polls generalizing t with
  | zero =>
    obtain ⟨rfl, rfl⟩ := h
    exact .exhausted [] none_yet rfl
  | succ polls ih =>
    rw [awaitWord, Binding.read_eq, Binding.read_eq] at h
    obtain ⟨e, failed, rfl⟩ | ⟨t₁, status, t₂, rfl, polled, later⟩ := Access.traces_bind.1 h
    · rw [Access.traces_read.1 failed]
      exact .noStatus [] none_yet (Nat.succ_pos polls) e
    rw [Access.traces_read.1 polled]
    split at later
    case isTrue set =>
      have ready := (bit_statusReadyBit_iff status).1 set
      obtain ⟨e, failed, rfl⟩ | ⟨t₃, data, t₄, rfl, given, rfl, rfl⟩ := Access.traces_bind.1 later
      · rw [Access.traces_read.1 failed]
        exact .noData [] none_yet (Nat.succ_pos polls) status ready e
      · rw [Access.traces_read.1 given]
        exact .there [] none_yet (Nat.succ_pos polls) status ready data
    case isFalse clear =>
      exact (ih later).cons fun ready => clear ((bit_statusReadyBit_iff status).2 ready)

/-- The reading of the record's word at position `k`: its command is written, then it is polled
for. -/
inductive WordRead (k : Nat) : Trace → Except Error UInt16 → Prop where
  | refused (e : Error) : WordRead k [⟨.write flashAddress.index (recordCommand k), .error e⟩]
      (.error e)
  | asked {t : Trace} {r : Except Error UInt16} (polled : Polled 10000 t r) :
    WordRead k (⟨.write flashAddress.index (recordCommand k), .ok ()⟩ :: t) r

theorem traces_readWord {b : Binding} {k : Nat} {r : Except Error UInt16}
    (h : (readWord b (recordAddress + UInt32.ofNat k)).Traces t r) : WordRead k t r := by
  rw [readWord, Binding.write_eq] at h
  obtain ⟨e, failed, rfl⟩ | ⟨t₁, ⟨⟩, t₂, rfl, asked, later⟩ := Access.traces_bind.1 h
  · rw [Access.traces_write.1 failed]
    exact .refused e
  · rw [Access.traces_write.1 asked]
    exact .asked (traces_awaitWord later)

/-- The reading of the record's 19 words from position `k` on. A word that cannot be read or is
erased ends it. -/
inductive RecordRead : (k : Nat) → Trace → Except Error (Option (List UInt16)) → Prop where
  | whole : RecordRead 19 [] (.ok (some []))
  | failed {k : Nat} {t : Trace} {e : Error} (more : k < 19) (word : WordRead k t (.error e)) :
    RecordRead k t (.error e)
  | erased {k : Nat} {t : Trace} (more : k < 19) (word : WordRead k t (.ok 0xffff)) :
    RecordRead k t (.ok none)
  | next {k : Nat} {t t' : Trace} {word : UInt16} {r : Except Error (Option (List UInt16))}
    (more : k < 19) (here : WordRead k t (.ok word)) (whole : word ≠ 0xffff)
    (later : RecordRead (k + 1) t' r) :
    RecordRead k (t ++ t') (r.map (Option.map (word :: ·)))

/-- The words that are read come after those read before. -/
theorem traces_readWords {b : Binding} {count : Nat} {words : List UInt16} {k : Nat}
    (left : k + count = 19) {r : Except Error (Option (List UInt16))}
    (h : (readWords b (recordAddress + UInt32.ofNat k) words count).Traces t r) :
    ∃ r', RecordRead k t r' ∧ r = r'.map (Option.map (words.reverse ++ ·)) := by
  induction count generalizing t words k r with
  | zero =>
    obtain ⟨rfl, rfl⟩ := h
    obtain rfl : k = 19 := left
    exact ⟨_, .whole, by simp [Except.map]⟩
  | succ count ih =>
    have more : k < 19 := by omega
    rw [readWords] at h
    obtain ⟨e, failed, rfl⟩ | ⟨t₁, word, t₂, rfl, read, later⟩ := Access.traces_bind.1 h
    · exact ⟨_, .failed more (traces_readWord failed), rfl⟩
    have here := traces_readWord read
    split at later
    case isTrue gone =>
      obtain ⟨rfl, rfl⟩ := later
      subst gone
      rw [List.append_nil]
      exact ⟨_, .erased more here, rfl⟩
    case isFalse whole =>
      rw [recordAddress_next] at later
      obtain ⟨r', rest, rfl⟩ := ih (by omega) later
      refine ⟨_, .next more here whole rest, ?_⟩
      cases r' with
      | error e => rfl
      | ok found => cases found <;> simp [Except.map]

theorem traces_recordBytes {b : Binding} {r : Except Error (Option (List UInt8))}
    (h : (recordBytes b).Traces t r) :
    ∃ r', RecordRead 0 t r' ∧ r = r'.map (Option.map (·.flatMap wordBytes)) := by
  have start : recordAddress = recordAddress + UInt32.ofNat 0 := rfl
  rw [recordBytes, start] at h
  obtain ⟨e, failed, rfl⟩ | ⟨t₁, words, t₂, rfl, read, rfl, rfl⟩ := Access.traces_bind.1 h
  · obtain ⟨r', record, same⟩ := traces_readWords (Nat.zero_add 19) failed
    cases r' with
    | ok _ => cases same
    | error e' =>
      cases same
      exact ⟨_, record, rfl⟩
  · obtain ⟨r', record, same⟩ := traces_readWords (Nat.zero_add 19) read
    rw [List.append_nil]
    refine ⟨r', record, ?_⟩
    cases r' with
    | error e => cases same
    | ok found =>
      cases same
      cases found <;> rfl

/-! ### What is written, and how much is accessed -/

theorem Polled.writes_eq {polls : Nat} {r : Except Error UInt16} (h : Polled polls t r) :
    writes t = [] := by
  cases h with
  | there waits waiting bound status ready data =>
    rw [Register.writes_append, Register.writes_reads]
    rfl
  | noData waits waiting bound status ready e =>
    rw [Register.writes_append, Register.writes_reads]
    rfl
  | noStatus waits waiting bound e =>
    rw [Register.writes_append, Register.writes_reads]
    rfl
  | exhausted waits waiting bound => exact Register.writes_reads flashStatus waits

theorem Polled.length_le {polls : Nat} {r : Except Error UInt16} (h : Polled polls t r) :
    t.length ≤ polls + 1 := by
  cases h with
  | there waits waiting bound status ready data => simpa using Nat.succ_le_of_lt bound
  | noData waits waiting bound status ready e => simpa using Nat.succ_le_of_lt bound
  | noStatus waits waiting bound e => simpa using Nat.le_of_lt bound
  | exhausted waits waiting bound => simp [bound]

theorem WordRead.writes_eq {k : Nat} {r : Except Error UInt16} (h : WordRead k t r) :
    writes t = [(flashAddress.index, recordCommand k)] := by
  cases h with
  | refused e => rfl
  | asked polled => exact congrArg ((flashAddress.index, recordCommand k) :: ·) polled.writes_eq

theorem WordRead.length_le {k : Nat} {r : Except Error UInt16} (h : WordRead k t r) :
    t.length ≤ 10002 := by
  cases h with
  | refused e => simp
  | asked polled => exact Nat.succ_le_succ polled.length_le

/-- The commands for the words from position `k` on, as many as `count`. -/
def commands (k count : Nat) : List (Nat × UInt32) :=
  (List.range' k count).map fun i => (flashAddress.index, recordCommand i)

theorem commands_succ (k count : Nat) :
    commands k (count + 1) = (flashAddress.index, recordCommand k) :: commands (k + 1) count := rfl

theorem RecordRead.writes_prefix {k : Nat} {r : Except Error (Option (List UInt16))}
    (h : RecordRead k t r) : writes t <+: commands k (19 - k) := by
  have first {k : Nat} (more : k < 19) : commands k (19 - k) =
      [(flashAddress.index, recordCommand k)] ++ commands (k + 1) (19 - (k + 1)) := by
    rw [show 19 - k = 19 - (k + 1) + 1 by omega, commands_succ]
    rfl
  induction h with
  | whole => exact List.prefix_refl []
  | failed more word =>
    rw [word.writes_eq, first more]
    exact List.prefix_append _ _
  | erased more word =>
    rw [word.writes_eq, first more]
    exact List.prefix_append _ _
  | next more here whole later ih =>
    rw [Register.writes_append, here.writes_eq, first more]
    exact (List.prefix_append_right_inj _).2 ih

theorem RecordRead.length_le {k : Nat} {r : Except Error (Option (List UInt16))}
    (h : RecordRead k t r) : t.length ≤ (19 - k) * 10002 := by
  induction h with
  | whole => exact Nat.le_refl 0
  | failed more word =>
    have := word.length_le
    omega
  | erased more word =>
    have := word.length_le
    omega
  | next more here whole later ih =>
    have := here.length_le
    rw [List.length_append]
    omega

/-! ### Over a window -/

/-- What reads the record, and what it makes of the words of one that is whole: its text, or the
serial number over a window of the right BAR. -/
inductive RecordCall : {α : Type} → Access (Option α) → (List UInt16 → Option α) → Prop where
  | text (type : CardType) (bar : Nat) : RecordCall (recordText ⟨type, bar⟩)
      fun words => some (Text.Utf8.readable (words.flatMap wordBytes))
  | serial (type : CardType) : RecordCall (serial ⟨type, 0⟩)
      fun words => serialOfRecord (words.flatMap wordBytes)

theorem serial_of_eq {b : Binding} (right : b.bar = crorcFlashBar) :
    serial b = recordBytes b >>= fun record => pure (record.bind serialOfRecord) := by
  rw [serial, Binding.requireBar_of_eq right]
  rfl

theorem traces_recordCall {p : Access (Option α)} {meaning : List UInt16 → Option α}
    (call : RecordCall p meaning) {r : Except Error (Option α)} (h : p.Traces t r) :
    ∃ r', RecordRead 0 t r' ∧ r = r'.map (·.bind meaning) := by
  obtain ⟨b, f, rfl, same⟩ : ∃ (b : Binding) (f : Option (List UInt8) → Option α),
      p = (recordBytes b >>= fun record => pure (f record)) ∧
      ∀ words : Option (List UInt16),
        f (words.map (·.flatMap wordBytes)) = words.bind meaning := by
    cases call with
    | text type bar => exact ⟨_, _, rfl, fun words => by cases words <;> rfl⟩
    | serial type => exact ⟨_, _, serial_of_eq rfl, fun words => by cases words <;> rfl⟩
  obtain ⟨e, failed, rfl⟩ | ⟨t₁, record, t₂, rfl, read, rfl, rfl⟩ := Access.traces_bind.1 h
  · obtain ⟨r', record, absurd⟩ := traces_recordBytes failed
    cases r' with
    | ok words => cases absurd
    | error e' =>
      cases absurd
      exact ⟨_, record, rfl⟩
  · obtain ⟨r', record, given⟩ := traces_recordBytes read
    cases r' with
    | error e => cases given
    | ok words =>
      cases given
      rw [List.append_nil]
      exact ⟨_, record, congrArg Except.ok (same words)⟩

/-- **Accesses for the record.** Over any window and whatever the type of the card, the text of the
record and, over BAR 0, the serial number come of reading its words in order. Each starts with its
command in the address register; the status is polled up to the first word that is ready, at most
10000 times, and the data register is read once. A word that is erased gives nothing, one that is
not ready in time fails with a timeout, and neither is followed by an access. So nothing is written
but the commands for the words 0 to 18, in order and up to where the reading ends, and no call
makes more than 19 * 10002 accesses. -/
theorem record_accesses (w : Window σ) (s : σ) :
    (∀ (α : Type) (p : Access (Option α)) (meaning : List UInt16 → Option α),
      RecordCall p meaning →
      (∃ r, RecordRead 0 (w.transcript p s) r ∧ (w.run p s).1 = r.map (·.bind meaning)) ∧
      writes (w.transcript p s) <+: (List.range 19).map (fun k =>
        (flashAddress.index, 0x80000000 ||| (0x01470000 + UInt32.ofNat k))) ∧
      (w.transcript p s).length ≤ 19 * 10002) ∧
    ∀ b : Binding, b.bar ≠ 0 → w.transcript (serial b) s = [] := by
  constructor
  · intro α p meaning call
    obtain ⟨r, record, result⟩ := traces_recordCall call (w.traces_transcript p s)
    refine ⟨⟨r, record, result⟩, ?_, record.length_le⟩
    rw [List.range_eq_range']
    exact record.writes_prefix
  · intro b other
    rw [serial_of_ne other]
    exact w.transcript_throw _ s

end ReadoutCard.Crorc
