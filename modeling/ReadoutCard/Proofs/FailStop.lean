import ReadoutCard.Proofs.Operation

/-!
# A failed access ends everything

A program is `FailStop` if an access that fails is its last one and its very
failure is the result. Single accesses are, checks without access are, and
`FailStop.bind` carries it through `>>=`: the second part is begun only after
the first has succeeded, and then no access of the first has failed. The
loops follow by induction on the polls or words left, and the statement at the
end is of every operation over every window.
-/

namespace ReadoutCard

open Register (Trace)

/-- How an access failed, if it did. -/
def Register.failure? : Exchange Register.Request Register.Answer → Option Error
  | ⟨.read _, .ok _⟩ => none
  | ⟨.read _, .error e⟩ => some e
  | ⟨.write _ _, .ok _⟩ => none
  | ⟨.write _ _, .error e⟩ => some e

open Register (failure?)

namespace Access

variable {α β σ : Type}

/-- An access that fails is the last one, and its failure is the result. -/
def FailStop (p : Access α) : Prop :=
  ∀ t r, p.Traces t r → ∀ before x after e, t = before ++ x :: after → failure? x = some e →
    after = [] ∧ r = .error e

/-- A program that succeeds has made no access that failed. -/
theorem FailStop.failure?_eq_none {p : Access α} (h : p.FailStop) {t : Trace} {a : α}
    (traces : p.Traces t (.ok a)) : ∀ x ∈ t, failure? x = none := by
  intro x hx
  obtain ⟨before, after, split⟩ := List.append_of_mem hx
  cases failed : failure? x with
  | none => rfl
  | some e => cases (h t _ traces before x after e split failed).2

/-- A program without accesses. -/
theorem failStop_of_nil {p : Access α} (h : ∀ t r, p.Traces t r → t = []) : p.FailStop := by
  intro t r traces before x after e split
  rw [h t r traces] at split
  simp at split

theorem failStop_pure (a : α) : FailStop (pure a) :=
  failStop_of_nil fun _ _ h => h.1

theorem failStop_throw (e : Error) : FailStop (throw e : Access α) :=
  failStop_of_nil fun _ _ h => h.1

theorem failStop_ofExcept (x : Except Error α) : (ofExcept x).FailStop :=
  failStop_of_nil fun _ _ h => h.1

/-- A program of one access whose failure is the result. -/
theorem failStop_of_single {p : Access α}
    (h : ∀ t r, p.Traces t r → ∃ x, t = [x] ∧ ∀ e, failure? x = some e → r = .error e) :
    p.FailStop := by
  intro t r traces before x after e split failed
  obtain ⟨y, rfl, only⟩ := h t r traces
  obtain ⟨rfl, rfl, rfl⟩ : before = [] ∧ y = x ∧ after = [] := by
    cases before <;> simp_all
  exact ⟨rfl, only e failed⟩

theorem failStop_read (index : Nat) : (read index).FailStop := by
  refine failStop_of_single fun t r traces => ⟨_, traces_read.1 traces, fun e failed => ?_⟩
  cases r with
  | ok value => cases failed
  | error cause =>
    cases failed
    rfl

theorem failStop_write (index : Nat) (value : UInt32) : (write index value).FailStop := by
  refine failStop_of_single fun t r traces => ⟨_, traces_write.1 traces, fun e failed => ?_⟩
  cases r with
  | ok _ => cases failed
  | error cause =>
    cases failed
    rfl

theorem FailStop.bind {p : Access α} {f : α → Access β} (hp : p.FailStop)
    (hf : ∀ a, (f a).FailStop) : (p >>= f).FailStop := by
  intro t r traces before x after e split failed
  obtain ⟨cause, first, rfl⟩ | ⟨t₁, a, t₂, rfl, first, later⟩ := traces_bind.1 traces
  · obtain ⟨last, same⟩ := hp t _ first before x after e split failed
    cases same
    exact ⟨last, rfl⟩
  · -- The failed access is one of the second part: the first part has succeeded.
    rcases append_eq_append_cons split with ⟨middle, -, inside⟩ | ⟨middle, inside, -⟩
    · exact hf a t₂ r later middle x after e inside failed
    · have member : x ∈ t₁ := by simp [inside]
      rw [hp.failure?_eq_none first x member] at failed
      cases failed

theorem failStop_ite {c : Prop} [Decidable c] {p q : Access α} (hp : p.FailStop)
    (hq : q.FailStop) : (if c then p else q).FailStop := by
  split
  · exact hp
  · exact hq

end Access

open Access

variable {α σ : Type}

/-! ### Bindings -/

theorem failStop_bindingRead (b : Binding) (index : Nat) : (b.read index).FailStop :=
  failStop_read _

theorem failStop_bindingWrite (b : Binding) (index : Nat) (value : UInt32) :
    (b.write index value).FailStop := failStop_write _ value

theorem failStop_modify (b : Binding) (index : Nat) (f : UInt32 → UInt32) :
    (b.modify index f).FailStop :=
  (failStop_bindingRead b index).bind fun _ =>
    (failStop_bindingWrite b index _).bind fun _ => failStop_pure _

theorem failStop_requireBar (b : Binding) (expected : Nat) (message : String) :
    (b.requireBar expected message).FailStop :=
  failStop_ite (failStop_pure ()) (failStop_throw _)

/-! ### The flash of a C-RORC -/

theorem failStop_awaitWord (b : Binding) (polls : Nat) : (Crorc.awaitWord b polls).FailStop := by
  induction polls with
  | zero => exact failStop_throw _
  | succ polls ih =>
    refine (failStop_bindingRead b _).bind fun _ => failStop_ite ?_ ih
    exact (failStop_bindingRead b _).bind fun _ => failStop_pure _

theorem failStop_readWord (b : Binding) (address : UInt32) :
    (Crorc.readWord b address).FailStop :=
  (failStop_bindingWrite b _ _).bind fun _ => failStop_awaitWord b _

theorem failStop_readWords (b : Binding) (address : UInt32) (words : List UInt16) (count : Nat) :
    (Crorc.readWords b address words count).FailStop := by
  induction count generalizing address words with
  | zero => exact failStop_pure _
  | succ count ih =>
    exact (failStop_readWord b address).bind fun _ => failStop_ite (failStop_pure _) (ih _ _)

theorem failStop_recordBytes (b : Binding) : (Crorc.recordBytes b).FailStop :=
  (failStop_readWords b _ _ _).bind fun _ => failStop_pure _

theorem failStop_crorcSerial (b : Binding) : (Crorc.serial b).FailStop :=
  (failStop_requireBar b _ _).bind fun _ => (failStop_recordBytes b).bind fun _ => failStop_pure _

theorem failStop_recordText (b : Binding) : (Crorc.recordText b).FailStop :=
  (failStop_recordBytes b).bind fun _ => failStop_pure _

/-! ### The registers of a CRU -/

theorem failStop_features (b : Binding) : (Cru.features b).FailStop :=
  (failStop_bindingRead b _).bind fun _ => failStop_pure _

theorem failStop_gated (b : Binding) (what : String) (present : Cru.Features → Bool)
    {value : Access (Option α)} (h : value.FailStop) : (Cru.gated b what present value).FailStop :=
  (failStop_requireBar b _ _).bind fun _ => (failStop_features b).bind fun _ =>
    failStop_ite h (failStop_pure _)

theorem failStop_wrapperLinks (b : Binding) (wrapper : Nat) :
    (Cru.wrapperLinks b wrapper).FailStop := by
  unfold Cru.wrapperLinks
  cases Cru.wrapperBase? wrapper with
  | none => exact failStop_throw _
  | some base => exact (failStop_bindingRead b _).bind fun _ => failStop_pure _

theorem failStop_cru (b : Binding) (o : Cru.Operation) : (o.program b).FailStop := by
  have read := fun register : Register => failStop_bindingRead b register.index
  have write := fun register : Register => failStop_bindingWrite b register.index
  cases o with
  | serial => exact failStop_gated b _ _ ((read _).bind fun _ => failStop_pure _)
  | temperature => exact failStop_gated b _ _ ((read _).bind fun _ => failStop_pure _)
  | firmwareInfo =>
    refine failStop_gated b _ _ ((read _).bind fun _ => ?_)
    exact (read _).bind fun _ => (read _).bind fun _ => failStop_pure _
  | chipId =>
    exact failStop_gated b _ _ ((read _).bind fun _ => (read _).bind fun _ => failStop_pure _)
  | features => exact failStop_features b
  | packetsDropped => exact read _
  | ctpFrequency => exact read _
  | localFrequency => exact read _
  | wrapperLinks wrapper => exact failStop_wrapperLinks b wrapper
  | links =>
    refine (failStop_wrapperLinks b 0).bind fun _ => ?_
    exact (failStop_wrapperLinks b 1).bind fun _ => failStop_pure _
  | setPattern pattern size randomSize =>
    exact (read _).bind fun _ => (failStop_ofExcept _).bind fun _ => write _ _
  | setEnabled on => exact (failStop_modify b _ _).bind fun _ => failStop_pure _
  | resetCounter => exact write _ _
  | injectError => exact write _ _
  | setSource source =>
    exact (failStop_features b).bind fun _ => failStop_ite (write _ _) (failStop_throw _)
  | setLinks mask => exact (failStop_ofExcept _).bind fun _ => write _ _
  | resetCard => exact write _ _

/-! ### Both families -/

/-- What a C-RORC has no register for is answered without any access. -/
theorem failStop_card (a : Accessors) (o : Accessors.Operation) : (o.program a).FailStop := by
  cases a with
  | crorc b =>
    cases o with
    | serial => exact failStop_crorcSerial b
    | temperature => exact failStop_pure _
    | firmwareInfo => exact failStop_pure _
    | chipId => exact failStop_pure _
    | packetsDropped => exact failStop_pure _
    | links => exact failStop_pure _
  | cru b =>
    cases o with
    | serial => exact failStop_cru b .serial
    | temperature => exact failStop_cru b .temperature
    | firmwareInfo => exact failStop_cru b .firmwareInfo
    | chipId => exact failStop_cru b .chipId
    | packetsDropped => exact (failStop_cru b .packetsDropped).bind fun _ => failStop_pure _
    | links => exact (failStop_cru b .links).bind fun _ => failStop_pure _

theorem failStop_serialStore (source : SerialStore) (bar : Nat) : (source.read bar).FailStop := by
  cases source with
  | crorcFlash => exact failStop_crorcSerial _
  | cruRegister => exact failStop_cru _ .serial

/-! ### The slow control -/

theorem failStop_awaitIdle (b : Binding) (polls : Nat) : (Sca.awaitIdle b polls).FailStop := by
  induction polls with
  | zero => exact failStop_throw _
  | succ polls ih =>
    exact (failStop_bindingRead b _).bind fun _ => failStop_ite (failStop_pure ()) ih

theorem failStop_settleCommand (b : Binding) (command : UInt32) (polls : Nat) :
    (Sca.settleCommand b command polls).FailStop := by
  induction polls generalizing command with
  | zero => exact failStop_pure _
  | succ polls ih =>
    exact failStop_ite ((failStop_bindingRead b _).bind fun _ => ih _) (failStop_pure _)

theorem failStop_fetch (b : Binding) : (Sca.fetch b).FailStop := by
  refine (failStop_bindingRead b _).bind fun _ => (failStop_bindingRead b _).bind fun _ => ?_
  refine (failStop_settleCommand b _ _).bind fun _ => ?_
  exact (failStop_ofExcept _).bind fun _ => failStop_pure _

theorem failStop_handshake (b : Binding) : (Sca.handshake b).FailStop := by
  have write := failStop_bindingWrite b Sca.control.index
  have wait := failStop_awaitIdle b Sca.maxBusyPolls
  exact (write _).bind fun _ => wait.bind fun _ => (write _).bind fun _ => wait.bind fun _ =>
    (write _).bind fun _ => wait.bind fun _ => write _

theorem failStop_send (b : Binding) (request : Sca.Request) :
    (Sca.send b request).bus.FailStop := by
  rw [Sca.bus_send]
  have write := fun register : Register => failStop_bindingWrite b register.index
  have words := (write Sca.writeData request.data).bind fun _ =>
    write Sca.writeCommand request.command
  have pulse := (write Sca.control Sca.controlExecute).bind fun _ =>
    (write Sca.control Sca.controlIdle).bind fun _ => failStop_awaitIdle b Sca.maxBusyPolls
  exact words.bind fun _ => pulse

theorem failStop_sendAll (b : Binding) (requests : List Sca.Request) :
    (Sca.sendAll b requests).bus.FailStop := by
  induction requests with
  | nil => exact failStop_pure ()
  | cons request rest ih =>
    rw [Sca.bus_sendAll_cons]
    exact (failStop_send b request).bind fun _ => (failStop_fetch b).bind fun _ => ih

theorem failStop_setUp (b : Binding) : (Sca.setUp b).bus.FailStop := by
  rw [Sca.bus_setUp]
  exact (failStop_handshake b).bind fun _ => failStop_sendAll b _

theorem failStop_perform (b : Binding) (request : Sca.Request) :
    (Sca.perform b request).bus.FailStop := by
  rw [Sca.bus_perform]
  exact (failStop_send b request).bind fun _ => failStop_fetch b

theorem failStop_setOutputs (b : Binding) (word : UInt32) :
    (Sca.setOutputs b word).bus.FailStop := by
  rw [Sca.bus_setOutputs]
  exact (failStop_setUp b).bind fun _ => (failStop_perform b _).bind fun _ =>
    (failStop_perform b _).bind fun _ => failStop_perform b _

theorem failStop_call (b : Binding) (call : Sca.Call) : (call.program b).bus.FailStop := by
  cases call with
  | setUp => exact failStop_setUp b
  | send request => exact (Sca.bus_sendRequest b request).symm ▸ failStop_send b request
  | fetch => exact (Sca.bus_fetchResponse b).symm ▸ failStop_fetch b
  | setOutputs word => exact failStop_setOutputs b word
  | outputs => exact failStop_perform b _
  | duration =>
    have read := (failStop_bindingRead b Sca.time.index).bind fun ticks =>
      failStop_pure (ticks.toNat * Sca.tickNanoseconds)
    exact (Sca.Engine.bus_ofAccess _).symm ▸ read

/-! ### Every operation -/

theorem failStop_operation (o : Operation) : o.program.FailStop := by
  cases o with
  | read b index => exact failStop_bindingRead b index
  | write b index value => exact failStop_bindingWrite b index value
  | modify b index f => exact failStop_modify b index f
  | cru b operation => exact failStop_cru b operation
  | crorcSerial b => exact failStop_crorcSerial b
  | crorcRecord b => exact failStop_recordText b
  | card a operation => exact failStop_card a operation
  | serialStore source bar => exact failStop_serialStore source bar
  | sca b st call =>
    show ((call.program b).accesses st).FailStop
    rw [(call.blind_program b).accesses_eq st]
    exact failStop_call b call

/-- **Fail-stop.** Whatever the operation, its arguments and the window: if an access fails, it is
the last one, and the result is its failure as it was. So every access before the last one
succeeded. -/
theorem operation_failStop (w : Window σ) (o : Operation) (s : σ) :
    (∀ before x after e, w.transcript o.program s = before ++ x :: after →
      failure? x = some e → after = [] ∧ (w.run o.program s).1 = .error e) ∧
      ∀ x ∈ (w.transcript o.program s).dropLast, failure? x = none := by
  have stops := failStop_operation o _ _ (w.traces_transcript o.program s)
  refine ⟨stops, fun x hx => ?_⟩
  have nonempty : w.transcript o.program s ≠ [] := by
    intro silent
    simp [silent] at hx
  obtain ⟨before, after, split⟩ := List.append_of_mem hx
  cases failed : failure? x with
  | none => rfl
  | some e =>
    have whole := List.dropLast_concat_getLast nonempty
    rw [split, List.append_assoc, List.cons_append] at whole
    have ends := (stops before x _ e whole.symm failed).1
    simp at ends

end ReadoutCard
