import ReadoutCard.Proofs.Sca.Engine

/-!
# The calls of the slow-control engine

`Call` lists what can be asked of an engine. Every call is blind to the state
(`blind_program`): two engines that differ in nothing but their state make the
same accesses over the same window and get the same results. Every call but
the one for the duration settles the state (`settles_program`), and that one
leaves the state alone (`duration_state`).
-/

namespace ReadoutCard.Sca

open Engine

variable {σ : Type}

/-! ### Blindness of the operations -/

theorem blind_send (b : Binding) (request : Request) : (send b request).Blind :=
  (blind_ofAccess _).bind fun _ => blind_markBusy.bind fun _ => blind_ofAccess _

theorem blind_sendAll (b : Binding) (requests : List Request) : (sendAll b requests).Blind := by
  induction requests with
  | nil => exact blind_pure ()
  | cons request rest ih =>
    exact (blind_send b request).bind fun _ => (blind_ofAccess _).bind fun _ => ih

theorem blind_setUp (b : Binding) : (setUp b).Blind := by
  refine (blind_set _).bind fun _ => Blind.concluding ?_
  exact (blind_ofAccess _).bind fun _ => blind_sendAll b _

theorem blind_sendRequest (b : Binding) (request : Request) : (sendRequest b request).Blind :=
  (blind_send b request).concluding

theorem blind_fetchResponse (b : Binding) : (fetchResponse b).Blind :=
  (blind_ofAccess _).concluding

theorem blind_perform (b : Binding) (request : Request) : (perform b request).Blind :=
  (blind_sendRequest b request).bind fun _ => blind_fetchResponse b

theorem blind_setOutputs (b : Binding) (word : UInt32) : (setOutputs b word).Blind :=
  (blind_setUp b).bind fun _ => (blind_perform b _).bind fun _ =>
    (blind_perform b _).bind fun _ => blind_perform b _

/-! ### The access programs of the operations -/

/-- Marking the engine busy between the words of a request and the pulse adds no access. -/
theorem bus_send (b : Binding) (request : Request) :
    (send b request).bus = (do
      b.write writeData.index request.data
      b.write writeCommand.index request.command) >>= fun _ => (do
      b.write control.index controlExecute
      b.write control.index controlIdle
      awaitBusyClear b) := by
  unfold send
  rw [bus_bind fun _ => blind_markBusy.bind fun _ => blind_ofAccess _, bus_ofAccess]
  congr 1
  funext _
  rw [bus_bind fun _ => blind_ofAccess _, bus_markBusy, pure_bind, bus_ofAccess]

theorem bus_sendAll_cons (b : Binding) (request : Request) (rest : List Request) :
    (sendAll b (request :: rest)).bus =
      (send b request).bus >>= fun _ => fetch b >>= fun _ => (sendAll b rest).bus := by
  rw [sendAll, bus_bind fun _ => (blind_ofAccess _).bind fun _ => blind_sendAll b rest]
  congr 1
  funext _
  rw [bus_bind fun _ => blind_sendAll b rest, bus_ofAccess]

theorem bus_setUp (b : Binding) :
    (setUp b).bus = handshake b >>= fun _ => (sendAll b enableSequence).bus := by
  have inner : (ofAccess (handshake b) >>= fun _ => sendAll b enableSequence).Blind :=
    (blind_ofAccess _).bind fun _ => blind_sendAll b _
  unfold setUp
  rw [bus_bind fun _ => inner.concluding, bus_set, pure_bind, bus_concluding,
    bus_bind fun _ => blind_sendAll b _, bus_ofAccess]

theorem bus_sendRequest (b : Binding) (request : Request) :
    (sendRequest b request).bus = (send b request).bus := bus_concluding _

theorem bus_fetchResponse (b : Binding) : (fetchResponse b).bus = fetch b := by
  rw [fetchResponse, bus_concluding, bus_ofAccess]

theorem bus_perform (b : Binding) (request : Request) :
    (perform b request).bus = (send b request).bus >>= fun _ => fetch b := by
  rw [perform, bus_bind fun _ => blind_fetchResponse b, bus_sendRequest, bus_fetchResponse]

theorem bus_setOutputs (b : Binding) (word : UInt32) :
    (setOutputs b word).bus = (setUp b).bus >>= fun _ =>
      (perform b ⟨writeOutputs, word⟩).bus >>= fun _ =>
        (perform b readOutputs).bus >>= fun _ => (perform b readInputs).bus := by
  have last : ∀ _ : Response, (perform b readInputs).Blind := fun _ => blind_perform b _
  have later : ∀ _ : Response, (perform b readOutputs >>= fun _ => perform b readInputs).Blind :=
    fun _ => (blind_perform b _).bind last
  rw [setOutputs, bus_bind fun _ => (blind_perform b _).bind later]
  congr 1
  funext _
  rw [bus_bind later]
  congr 1
  funext _
  rw [bus_bind last]

/-! ### Settling -/

theorem settles_perform (b : Binding) (request : Request) : (perform b request).Settles :=
  (settles_concluding _).bind fun _ => settles_concluding _

/-- Setting up first makes the engine initializing, whatever it was. -/
theorem settles_setUp (b : Binding) : (setUp b).Settles := by
  intro st t x h
  rw [setUp, start_bind, start_set] at h
  exact settles_concluding _ _ t x h

theorem settles_setOutputs (b : Binding) (word : UInt32) : (setOutputs b word).Settles :=
  (settles_setUp b).bind fun _ => (settles_perform b _).bind fun _ =>
    (settles_perform b _).bind fun _ => settles_perform b _

/-! ### Calls -/

/-- What can be asked of an engine. -/
inductive Call where
  | setUp
  | send (request : Request)
  | fetch
  | setOutputs (word : UInt32)
  | outputs
  | duration
  deriving DecidableEq, Repr

namespace Call

/-- What a call gives if it succeeds. -/
abbrev Value : Call → Type
  | setUp => Unit
  | send _ => Unit
  | fetch => Response
  | setOutputs _ => Response
  | outputs => Response
  | duration => Nat

/-- The program of a call. -/
def program (b : Binding) : (c : Call) → Engine c.Value
  | setUp => Sca.setUp b
  | send request => sendRequest b request
  | fetch => fetchResponse b
  | setOutputs word => Sca.setOutputs b word
  | outputs => Sca.outputs b
  | duration => Sca.duration b

/-- No call lets the state show on the bus. -/
theorem blind_program (b : Binding) (c : Call) : (c.program b).Blind := by
  cases c with
  | setUp => exact blind_setUp b
  | send request => exact blind_sendRequest b request
  | fetch => exact blind_fetchResponse b
  | setOutputs word => exact blind_setOutputs b word
  | outputs => exact blind_perform b readOutputs
  | duration => exact blind_ofAccess _

/-- Every call but the one for the duration leaves the state of its result. -/
theorem settles_program (b : Binding) {c : Call} (h : c ≠ duration) : (c.program b).Settles := by
  cases c with
  | setUp => exact settles_setUp b
  | send request => exact settles_concluding _
  | fetch => exact settles_concluding _
  | setOutputs word => exact settles_setOutputs b word
  | outputs => exact settles_perform b readOutputs
  | duration => exact absurd rfl h

/-- Asking for the duration leaves the state alone, also when it fails. -/
theorem duration_state (b : Binding) (w : Window σ) (st : State) (s : σ) :
    ((duration.program b).run w st s).1.2 = st := by
  show (Dialogue.run w.answer (Engine.start (ofAccess _) st) s).1.2 = st
  rw [start_ofAccess, Dialogue.run_map]

end Call

end ReadoutCard.Sca
