import ReadoutCard.Proofs.Sca.Calls
import ReadoutCard.Proofs.Sca.Steps

/-!
# The accesses that set the outputs

Setting the outputs sets the engine up first: a handshake of four writes to the
control register, then the four requests that enable the pins. Three more
requests follow, and the response to the last one is the result. The main
statement, at the end, is that a run over any window makes exactly these
accesses in order, up to the first step that fails.
-/

namespace ReadoutCard.Sca

open Engine

variable {α β σ : Type}

/-- The handshake: a wait after each of the first three writes. -/
def handshakeSteps : List Step :=
  [.write control 1, .wait, .write control 2, .wait, .write control 1, .wait, .write control 0]

/-- A request with its response. -/
def requestSteps (request : Request) : List Step :=
  [.write writeData request.data, .write writeCommand request.command,
    .write control 4, .write control 0, .wait, .response]

/-- Setting the engine up. -/
def setUpSteps : List Step := handshakeSteps ++ enableSequence.flatMap requestSteps

/-- The requests made to set the outputs, from the enabling of the pins on. -/
def outputRequests (word : UInt32) : List Request :=
  enableSequence ++ [⟨writeOutputs, word⟩, readOutputs, readInputs]

/-- Setting the outputs. -/
def outputSteps (word : UInt32) : List Step :=
  handshakeSteps ++ (outputRequests word).flatMap requestSteps

/-- The writes that set the outputs, by index and value: four for the handshake, then four for
each request. -/
def outputWrites (word : UInt32) : List (Nat × UInt32) :=
  [(control.index, 1), (control.index, 2), (control.index, 1), (control.index, 0)] ++
    (outputRequests word).flatMap fun request =>
      [(writeData.index, request.data), (writeCommand.index, request.command),
        (control.index, 4), (control.index, 0)]

theorem writes_requestSteps (requests : List Request) :
    (requests.flatMap requestSteps).flatMap Step.writes =
      requests.flatMap fun request =>
        [(writeData.index, request.data), (writeCommand.index, request.command),
          (control.index, 4), (control.index, 0)] := by
  rw [List.flatMap_assoc]
  rfl

theorem writes_outputSteps (word : UInt32) :
    (outputSteps word).flatMap Step.writes = outputWrites word := by
  rw [outputSteps, List.flatMap_append, writes_requestSteps]
  rfl

theorem writes_setUpSteps (word : UInt32) :
    setUpSteps.flatMap Step.writes = (outputWrites word).take 20 := by
  rw [setUpSteps, List.flatMap_append, writes_requestSteps]
  rfl

/-! ### The programs perform them -/

theorem performs_handshake (b : Binding) : Performs (handshake b) handshakeSteps := by
  have write := fun value => performs_write b control value
  have wait := performs_awaitBusyClear b
  exact (write 1).bind fun _ => wait.bind fun _ => (write 2).bind fun _ => wait.bind fun _ =>
    (write 1).bind fun _ => wait.bind fun _ => write 0

/-- Sending carries out all steps of a request but the response. -/
theorem performs_send (b : Binding) (request : Request) :
    Performs (send b request).bus (requestSteps request).dropLast := by
  have words : Performs (do
      b.write writeData.index request.data
      b.write writeCommand.index request.command)
      [.write writeData request.data, .write writeCommand request.command] :=
    (performs_write b _ _).bind fun _ => performs_write b _ _
  have pulse : Performs (do
      b.write control.index controlExecute
      b.write control.index controlIdle
      awaitBusyClear b) [.write control 4, .write control 0, .wait] :=
    (performs_write b _ _).bind fun _ => (performs_write b _ _).bind fun _ =>
      performs_awaitBusyClear b
  rw [bus_send]
  exact words.bind fun _ => pulse

theorem performs_perform (b : Binding) (request : Request) :
    Performs (perform b request).bus (requestSteps request) := by
  rw [bus_perform]
  exact (performs_send b request).bind fun _ => performs_fetch b

theorem performs_sendAll (b : Binding) (requests : List Request) :
    Performs (sendAll b requests).bus (requests.flatMap requestSteps) := by
  induction requests with
  | nil => exact performs_pure ()
  | cons request rest ih =>
    rw [bus_sendAll_cons, List.flatMap_cons]
    have one : Performs ((send b request).bus >>= fun _ => fetch b) (requestSteps request) :=
      (performs_send b request).bind fun _ => performs_fetch b
    rw [← bind_assoc]
    exact one.bind fun _ => ih

theorem performs_setUp (b : Binding) : Performs (setUp b).bus setUpSteps := by
  rw [bus_setUp]
  exact (performs_handshake b).bind fun _ => performs_sendAll b enableSequence

/-- All of setting the outputs but reading the last response. -/
def untilInputs (b : Binding) (word : UInt32) : Access Unit := do
  let _ ← (setUp b).bus
  let _ ← (perform b ⟨writeOutputs, word⟩).bus
  let _ ← (perform b readOutputs).bus
  (send b readInputs).bus

theorem bus_setOutputs_eq (b : Binding) (word : UInt32) :
    (setOutputs b word).bus = untilInputs b word >>= fun _ => fetch b := by
  simp only [bus_setOutputs, bus_perform b readInputs, untilInputs, bind_assoc]

theorem performs_untilInputs (b : Binding) (word : UInt32) :
    Performs (untilInputs b word) (outputSteps word).dropLast := by
  have parts := (performs_setUp b).bind fun _ => (performs_perform b ⟨writeOutputs, word⟩).bind
    fun _ => (performs_perform b readOutputs).bind fun _ => performs_send b readInputs
  exact parts

theorem performs_setOutputs (b : Binding) (word : UInt32) :
    Performs (setOutputs b word).bus (outputSteps word) := by
  rw [bus_setOutputs_eq]
  exact (performs_untilInputs b word).bind fun _ => performs_fetch b

/-- **Setting the outputs.** Over any window and from any state of the engine, a run carries out
the steps of the sequence in order up to the first that fails. So what it writes is the beginning
of the sequence's writes, for setting up of their first twenty. After a success all of them are
written, and the result is the response read last, to the seventh request. -/
theorem setOutputs_sequence (w : Window σ) (b : Binding) (st : State) (word : UInt32) (s : σ) :
    let t := (setOutputs b word).transcript w st s
    let result := ((setOutputs b word).run w st s).1.1
    let setUpTrace := (setUp b).transcript w st s
    let setUpResult := ((setUp b).run w st s).1.1
    Register.writes t <+: outputWrites word ∧
      Performed (outputSteps word) t (result.map fun _ => ()) ∧
      (∀ response, result = .ok response → Register.writes t = outputWrites word ∧
        ∃ before last, t = before ++ last ∧
          Performed (outputSteps word).dropLast before (.ok ()) ∧ Fetch last (.ok response)) ∧
      Register.writes setUpTrace <+: (outputWrites word).take 20 ∧
      Performed setUpSteps setUpTrace setUpResult ∧
      (setUpResult = .ok () → Register.writes setUpTrace = (outputWrites word).take 20) := by
  intro t result setUpTrace setUpResult
  have traces := (blind_setOutputs b word).traces_transcript w st s
  have performed := performs_setOutputs b word t result traces
  have setUpPerformed : Performed setUpSteps setUpTrace setUpResult := by
    rw [← map_unit setUpResult]
    exact performs_setUp b _ _ ((blind_setUp b).traces_transcript w st s)
  refine ⟨?_, performed, ?_, ?_, setUpPerformed, ?_⟩
  · rw [← writes_outputSteps]
    exact performed.writes_prefix
  · intro response ok
    have performed : Performed (outputSteps word) t (.ok ()) := by rwa [ok] at performed
    have traces : (setOutputs b word).bus.Traces t (.ok response) := ok ▸ traces
    rw [bus_setOutputs_eq, Access.traces_bind_ok] at traces
    obtain ⟨before, _, last, split, first, final⟩ := traces
    refine ⟨?_, before, last, split, performs_untilInputs b word _ _ first, traces_fetch final⟩
    rw [← writes_outputSteps]
    exact performed.writes_eq
  · rw [← writes_setUpSteps]
    exact setUpPerformed.writes_prefix
  · intro ok
    rw [← writes_setUpSteps]
    exact (ok ▸ setUpPerformed).writes_eq

/-- A window that answers every read with zero lets a busy engine end the sequence. -/
example (b : Binding) (word : UInt32) :
    let zeros : Window Unit := ⟨fun _ s => (.ok 0, s), fun _ _ s => (.ok (), s)⟩
    ((setOutputs b word).run zeros .busy ()).1 = (.ok ⟨0, 0⟩, .idle) := by rfl

end ReadoutCard.Sca
