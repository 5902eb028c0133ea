import ReadoutCard.Proofs.Sca.Sequence
import ReadoutCard.Window.ScaResponder

/-!
# Where the two words of a response are read

The data word of a response is read before its command words. So in the
accesses of a sequence a read of the data word begins a response
(`Performed.at_readData`), and what follows it is the rest of that response.
Responses are read where a wait has ended, unless a response is all that is
asked for (`Awaited`). What a call gives is the response read last
(`Call.ends_with_response`).
-/

namespace ReadoutCard.Sca

open Engine
open Register (Trace readOk readFailed)

variable {σ : Type} {steps : List Step} {t before after : Trace} {data : UInt32}

/-! ### The accesses of a step -/

theorem request_of_mem_reads {register : Register} {values : List UInt32} :
    ∀ x ∈ values.map (readOk register), x.request = .read register.index := by
  intro x mem
  obtain ⟨value, -, rfl⟩ := List.mem_map.1 mem
  rfl

theorem request_of_mem_reads_then {register : Register} {values : List UInt32}
    {last : Exchange Register.Request Register.Answer}
    (same : last.request = .read register.index) :
    ∀ x ∈ values.map (readOk register) ++ [last], x.request = .read register.index := by
  rw [List.forall_mem_append, List.forall_mem_singleton]
  exact ⟨request_of_mem_reads, same⟩

theorem Wait.request_eq {polls : Nat} {r : Except Error Unit} (h : Wait polls t r) :
    ∀ x ∈ t, x.request = .read busy.index := by
  cases h with
  | cleared => exact request_of_mem_reads_then rfl
  | failed => exact request_of_mem_reads_then rfl
  | exhausted => exact request_of_mem_reads

/-- Behind its first access, a response is read from the register of the command word. -/
theorem Fetch.request_eq {r : Except Error Response} (h : Fetch t r) :
    ∀ x ∈ t.tail, x.request = .read readCommand.index := by
  cases h with
  | noData => nofun
  | lost => exact request_of_mem_reads_then rfl
  | refused => exact request_of_mem_reads
  | passed => exact request_of_mem_reads

/-- The data word is read by the step of a response, and nothing of the response before it. -/
theorem Step.Carried.at_readData {step : Step} {r : Except Error Unit} (h : step.Carried t r)
    (split : t = before ++ readOk readData data :: after) :
    step = .response ∧ before = [] ∧
      ∃ answer, Fetch (readOk readData data :: after) answer ∧ r = answer.map fun _ => () := by
  have mem : readOk readData data ∈ t := by simp [split]
  cases step with
  | write register value =>
    rw [h, List.mem_singleton] at mem
    cases mem
  | wait =>
    have other := Wait.request_eq h _ mem
    cases other
  | response =>
    obtain ⟨answer, fetch, same⟩ := h
    cases before with
    | nil =>
      rw [split] at fetch
      exact ⟨rfl, rfl, answer, fetch, same⟩
    | cons x before =>
      have other := fetch.request_eq (readOk readData data) (by simp [split])
      cases other

/-- A step does not begin with the command word of a response. -/
theorem Step.Carried.head_request_ne {step : Step} {r : Except Error Unit}
    (h : step.Carried t r) : ∀ x ∈ t.head?, x.request ≠ .read readCommand.index := by
  intro x head same
  cases step with
  | write register value =>
    rw [h] at head
    cases head
    cases same
  | wait =>
    rw [Wait.request_eq h x (List.mem_of_mem_head? head)] at same
    cases same
  | response =>
    obtain ⟨answer, fetch, -⟩ := h
    cases fetch <;>
    · cases head
      cases same

/-! ### The accesses of a sequence -/

/-- Where a sequence reads a data word it begins a response. The accesses before it carry out the
steps before, and those behind it are the rest of the response and, if it is good, of the steps. -/
theorem Performed.at_readData {r : Except Error Unit} (h : Performed steps t r)
    (split : t = before ++ readOk readData data :: after) :
    ∃ first rest, steps = first ++ .response :: rest ∧ Performed first before (.ok ()) ∧
      ((∃ e, Fetch (readOk readData data :: after) (.error e) ∧ r = .error e) ∨
        ∃ answers later response, after = answers ++ later ∧
          Fetch (readOk readData data :: answers) (.ok response) ∧ Performed rest later r) := by
  induction h generalizing before with
  | done => simp at split
  | @step first rest t₁ t₂ r here later ih =>
    rcases append_eq_append_cons split with ⟨middle, rfl, behind⟩ | ⟨middle, ahead, rfl⟩
    · obtain ⟨first', rest', rfl, prior, outcome⟩ := ih behind
      exact ⟨first :: first', rest', rfl, .step here prior, outcome⟩
    · obtain ⟨rfl, rfl, answer, fetch, good⟩ := here.at_readData ahead
      cases answer with
      | error e => cases good
      | ok response => exact ⟨[], rest, rfl, .done, .inr ⟨middle, t₂, response, rfl, fetch, later⟩⟩
  | @failed first rest t e here =>
    obtain ⟨rfl, rfl, answer, fetch, failed⟩ := here.at_readData split
    cases answer with
    | ok response => cases failed
    | error e' =>
      cases failed
      exact ⟨[], rest, rfl, .done, .inl ⟨e, fetch, rfl⟩⟩

theorem Performed.head_request_ne {r : Except Error Unit} (h : Performed steps t r) :
    ∀ x ∈ t.head?, x.request ≠ .read readCommand.index := by
  induction h with
  | done => nofun
  | @step first rest t₁ t₂ r here later ih =>
    cases t₁ with
    | nil => exact ih
    | cons x t₁ => exact here.head_request_ne
  | failed here => exact here.head_request_ne

/-! ### Responses behind waits -/

/-- Every response of the sequence comes right after a wait. -/
inductive Awaited : List Step → Prop
  | done : Awaited []
  | write {rest : List Step} (register : Register) (value : UInt32) (later : Awaited rest) :
    Awaited (.write register value :: rest)
  | wait {rest : List Step} (later : Awaited rest) : Awaited (.wait :: rest)
  | response {rest : List Step} (later : Awaited rest) : Awaited (.wait :: .response :: rest)

theorem Awaited.ends_with_wait {first rest : List Step}
    (h : Awaited (first ++ .response :: rest)) : ∃ prior, first = prior ++ [.wait] := by
  generalize all : first ++ .response :: rest = steps at h
  induction h generalizing first with
  | done => simp at all
  | write register value later ih =>
    cases first with
    | nil => cases all
    | cons step first =>
      cases all
      obtain ⟨prior, rfl⟩ := ih rfl
      exact ⟨.write register value :: prior, rfl⟩
  | wait later ih =>
    cases first with
    | nil => cases all
    | cons step first =>
      cases all
      obtain ⟨prior, rfl⟩ := ih rfl
      exact ⟨.wait :: prior, rfl⟩
  | response later ih =>
    cases first with
    | nil => cases all
    | cons step first =>
      cases first with
      | nil =>
        cases all
        exact ⟨[], rfl⟩
      | cons step first =>
        cases all
        obtain ⟨prior, rfl⟩ := ih rfl
        exact ⟨.wait :: .response :: prior, rfl⟩

/-- A wait that succeeds ends with a read that gives zero. -/
theorem Performed.ends_with_zero {prior : List Step} (h : Performed (prior ++ [.wait]) t (.ok ())) :
    ∃ start, t = start ++ [readOk busy 0] := by
  generalize all : prior ++ [.wait] = steps at h
  generalize good : (.ok () : Except Error Unit) = r at h
  induction h generalizing prior with
  | done => simp at all
  | @step first rest t₁ t₂ r here later ih =>
    cases prior with
    | nil =>
      cases all
      cases later
      cases here with
      | cleared waits => exact ⟨waits.map (readOk busy), List.append_nil _⟩
    | cons step prior =>
      cases all
      obtain ⟨start, rfl⟩ := ih rfl good
      exact ⟨t₁ ++ start, (List.append_assoc _ _ _).symm⟩
  | failed => cases good

theorem awaited_requests (requests : List Request) : Awaited (requests.flatMap requestSteps) := by
  induction requests with
  | nil => exact .done
  | cons request rest ih =>
    exact .write _ _ (.write _ _ (.write _ _ (.write _ _ (.response ih))))

theorem awaited_after_handshake (requests : List Request) :
    Awaited (handshakeSteps ++ requests.flatMap requestSteps) :=
  .write _ _ (.wait (.write _ _ (.wait (.write _ _ (.wait (.write _ _
    (awaited_requests requests)))))))

namespace Call

/-- The steps of a call; the one for the duration is a read of another register. -/
def sequence : Call → List Step
  | setUp => setUpSteps
  | send request => (requestSteps request).dropLast
  | fetch => [.response]
  | setOutputs word => outputSteps word
  | outputs => requestSteps readOutputs
  | duration => []

theorem awaited_sequence {c : Call} (h : c ≠ fetch) : Awaited c.sequence := by
  cases c with
  | setUp => exact awaited_after_handshake enableSequence
  | send request => exact .write _ _ (.write _ _ (.write _ _ (.write _ _ (.wait .done))))
  | fetch => exact absurd rfl h
  | setOutputs word => exact awaited_after_handshake (outputRequests word)
  | outputs => exact awaited_requests [readOutputs]
  | duration => exact .done

theorem performs_sequence (b : Binding) {c : Call} (h : c ≠ duration) :
    Performs (c.program b).bus c.sequence := by
  cases c with
  | setUp => exact performs_setUp b
  | send request =>
    have same : ((send request).program b).bus = (Sca.send b request).bus := bus_sendRequest b request
    rw [same]
    exact performs_send b request
  | fetch =>
    have same : (fetch.program b).bus = Sca.fetch b := bus_fetchResponse b
    rw [same]
    exact performs_fetch b
  | setOutputs word => exact performs_setOutputs b word
  | outputs => exact performs_perform b readOutputs
  | duration => exact absurd rfl h

/-- The response that a call gives, if it gives one. -/
def response? : (c : Call) → c.Value → Option Response
  | setUp, _ => none
  | send _, _ => none
  | fetch, response => some response
  | setOutputs _, response => some response
  | outputs, response => some response
  | duration, _ => none

/-- For the duration a register of its own is read. -/
theorem ne_duration_of_readData {b : Binding} {c : Call} {result : Except Error c.Value}
    (h : (c.program b).bus.Traces t result) (mem : readOk readData data ∈ t) : c ≠ duration := by
  rintro rfl
  have same : (duration.program b).bus = (do
      return (← b.read time.index).toNat * tickNanoseconds : Access Nat) := bus_ofAccess _
  rw [same, Binding.read_eq, Access.traces_bind] at h
  obtain ⟨e, h, -⟩ | ⟨t₁, value, t₂, rfl, h, rfl, -⟩ := h
  all_goals
    rw [Access.traces_read.1 h] at mem
    simp only [List.append_nil, List.mem_singleton] at mem
    cases mem

/-- What a call gives is the response that it reads last. -/
theorem ends_with_response (b : Binding) {c : Call} {value : c.Value} {response : Response}
    (h : (c.program b).bus.Traces t (.ok value)) (given : c.response? value = some response) :
    ∃ before last, t = before ++ last ∧ Fetch last (.ok response) := by
  have behind {p : Access Unit} (h : (p >>= fun _ => Sca.fetch b).Traces t (.ok response)) :
      ∃ before last, t = before ++ last ∧ Fetch last (.ok response) := by
    obtain ⟨before, _, last, split, -, read⟩ := Access.traces_bind_ok.1 h
    exact ⟨before, last, split, traces_fetch read⟩
  cases c with
  | setUp => cases given
  | send request => cases given
  | fetch =>
    cases given
    have same : (fetch.program b).bus = Sca.fetch b := bus_fetchResponse b
    rw [same] at h
    exact ⟨[], t, rfl, traces_fetch h⟩
  | setOutputs word =>
    cases given
    have same : ((setOutputs word).program b).bus = _ := bus_setOutputs_eq b word
    rw [same] at h
    exact behind h
  | outputs =>
    cases given
    have same : (outputs.program b).bus = _ := bus_perform b readOutputs
    rw [same] at h
    exact behind h
  | duration => cases given

end Call

/-! ### Over a window -/

/-- Command words that are read for a response which is good: the channel is busy up to the last
word, and that one has none of bits 0 to 6 set. -/
def Settled (answers : List UInt32) : Prop :=
  ∃ waits last, answers = waits ++ [last] ∧ waits.length ≤ 10000 ∧
    (∀ command ∈ waits, command &&& 0xff = 0x40) ∧ last &&& 0x7f = 0

theorem Fetch.settled {response : Response} (h : Fetch t (.ok response)) :
    ∃ answers, t = readOk readData response.data :: answers.map (readOk readCommand) ∧
      Settled answers ∧ answers.getLast? = some response.command := by
  cases h with
  | passed data waits pending bound command clear =>
    exact ⟨waits ++ [command], rfl, ⟨waits, command, rfl, bound, pending, clear⟩, by simp⟩

theorem busy_of_clear {command : UInt32} (clear : command &&& 0x7f = 0) :
    command &&& 0xff ≠ 0x40 := by
  intro pending
  have narrowed : command &&& 0x7f = (command &&& 0xff) &&& 0x7f := by
    rw [UInt32.and_assoc]
    rfl
  rw [narrowed, pending] at clear
  exact absurd clear (by decide)

/-- A busy channel is seen exactly if it is seen first. -/
theorem Settled.busy_iff {answers : List UInt32} (h : Settled answers) :
    (∃ command ∈ answers, command &&& 0xff = 0x40) ↔
      ∃ first ∈ answers.head?, first &&& 0xff = 0x40 := by
  constructor
  · rintro ⟨command, mem, busy⟩
    obtain ⟨waits, last, rfl, -, pending, clear⟩ := h
    cases waits with
    | nil =>
      obtain rfl := List.mem_singleton.1 mem
      exact absurd busy (busy_of_clear clear)
    | cons first rest => exact ⟨first, rfl, pending first List.mem_cons_self⟩
  · rintro ⟨first, head, busy⟩
    exact ⟨first, List.mem_of_mem_head? head, busy⟩

/-- **When the data word of a response is read.** Where a call reads a data word, it reads the
command words of the response after it, and no others: either the call fails there, or the channel
is busy up to the last command word, of at most 10001, and that one has no flags. One of these
words tells of a busy channel exactly if the first one does. Unless only a response was asked for,
the data word is read right after the busy register gave zero. If a call gives a response, the
accesses end with those of this response. -/
theorem data_word_first (w : Window σ) (b : Binding) (st : State) (s : σ) (c : Call) :
    let t := (c.program b).transcript w st s
    let result := ((c.program b).run w st s).1.1
    (∀ before data after, t = before ++ readOk readData data :: after →
      (c ≠ .fetch → ∃ start, before = start ++ [readOk busy 0]) ∧
      ((∃ e, result = .error e ∧ Fetch (readOk readData data :: after) (.error e)) ∨
        ∃ answers later, after = answers.map (readOk readCommand) ++ later ∧ Settled answers ∧
          ∀ x ∈ later.head?, x.request ≠ .read readCommand.index)) ∧
    (∀ value response, result = .ok value → c.response? value = some response →
      ∃ before answers,
        t = before ++ readOk readData response.data :: answers.map (readOk readCommand) ∧
        Settled answers ∧ answers.getLast? = some response.command) ∧
    ∀ answers, Settled answers → ((∃ command ∈ answers, command &&& 0xff = 0x40) ↔
      ∃ first ∈ answers.head?, first &&& 0xff = 0x40) := by
  intro t result
  have traces : (c.program b).bus.Traces t result :=
    (Call.blind_program b c).traces_transcript w st s
  refine ⟨?_, ?_, fun answers => Settled.busy_iff⟩
  · intro before data after split
    have mem : readOk readData data ∈ t := by simp [split]
    have fetching : c ≠ .duration := Call.ne_duration_of_readData traces mem
    obtain ⟨first, rest, all, prior, outcome⟩ :=
      (Call.performs_sequence b fetching t result traces).at_readData split
    constructor
    · intro more
      have awaited := Call.awaited_sequence more
      rw [all] at awaited
      obtain ⟨steps, rfl⟩ := awaited.ends_with_wait
      exact prior.ends_with_zero
    · rcases outcome with ⟨e, fetch, failed⟩ | ⟨answers, later, response, rfl, fetch, behind⟩
      · left
        cases known : result with
        | ok value =>
          rw [known] at failed
          cases failed
        | error e' =>
          rw [known] at failed
          cases failed
          exact ⟨e, rfl, fetch⟩
      · obtain ⟨words, same, settled, -⟩ := fetch.settled
        cases same
        exact .inr ⟨words, later, rfl, settled, behind.head_request_ne⟩
  · intro value response good given
    rw [good] at traces
    obtain ⟨before, last, split, fetch⟩ := Call.ends_with_response b traces given
    obtain ⟨answers, rfl, settled, ends⟩ := fetch.settled
    exact ⟨before, answers, split, settled, ends⟩

/-- A partner that tells once that the channel is busy, and then would have another data word. The
outputs are read, with the data word from before: a busy answer comes after it. -/
theorem busy_after_data_word :
    let partner : ScaResponder :=
      ⟨.ofList 0 [], 1, .ofList 0 [0x40, 0], false, .ofList 0 [1, 2], 0, 0, 0⟩
    let b : Binding := ⟨.cru, 2⟩
    ((outputs b).run ScaResponder.window .idle partner).1.1 = .ok ⟨0x02050000, 1⟩ ∧
      ¬ ∀ before after, (outputs b).transcript ScaResponder.window .idle partner =
          before ++ readOk readData 1 :: after →
        ∀ command, readOk readCommand command ∈ after → command &&& 0xff ≠ 0x40 := by
  refine ⟨rfl, fun settled => ?_⟩
  -- The four writes of the request and one read of the busy register come before.
  let prior : Trace := [⟨.write writeData.index 0, .ok ()⟩,
    ⟨.write writeCommand.index 0x02050011, .ok ()⟩, ⟨.write control.index 4, .ok ()⟩,
    ⟨.write control.index 0, .ok ()⟩, readOk busy 0]
  exact settled prior [readOk readCommand 0x02050040, readOk readCommand 0x02050000] rfl
    0x02050040 List.mem_cons_self rfl

end ReadoutCard.Sca
