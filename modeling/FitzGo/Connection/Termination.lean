import FitzGo.Connection.Sending

/-!
# Requests on a terminated connection

When a request is made after `done` was closed, the first select of its
admission finds `done` ready. If a slot is free it may choose that one; the
closed multiplexer then refuses to register the request, with an error that says
nothing about the connection.
-/

namespace FitzGo.Connection.Sending

open StepMachine Protocol Handshake

/-- A request that was made after the loop of the connection had ended. -/
def Call.LateRequest (call : Call) : Prop :=
  call.late = true ∧ isRequest call.kind = true

instance (call : Call) : Decidable call.LateRequest :=
  inferInstanceAs (Decidable (_ ∧ _))

/-- The outcome is an error that the connection has recorded, or that the
connection is closed. -/
def State.Terminal (state : State) : Outcome → Prop
  | .failed (.terminal error) => error ∈ state.recorded
  | .failed .connectionClosed => True
  | _ => False

/-- What is claimed of a request on a terminated connection. It is back, or
its select has a case to choose and comes back with it. -/
structure EndsWithTermination (configured : Int) (state : State) (index : Nat) : Prop where
  silent : ∀ sent ∈ state.wire, sent.call ≠ index
  answers : ∀ outcome, (state.calls index).phase = .returned outcome →
    (state.calls index).alive = true → state.Terminal outcome
  returns : (∃ outcome, (state.calls index).phase = .returned outcome) ∨ ∃ after outcome,
    step configured state (.refuse index) = some after ∧
    (after.calls index).phase = .returned outcome

def NoSlotFree (state : State) : Event → Prop
  | .take index | .refuse index | .cancel index =>
    (state.calls index).LateRequest → state.free index = false
  | _ => True

instance (state : State) (event : Event) : Decidable (NoSlotFree state event) := by
  rcases event with ⟨⟩ <;> dsimp only [NoSlotFree] <;> infer_instance

/-! ## No late request writes -/

def Phase.beforeWrite : Phase → Bool
  | .admitting | .holding | .numbered _ | .framed _
  | .leaving (.failed _) | .returned (.failed _) => true
  | .idle | .queued | .writing _ _ | .awaiting _
  | .leaving .response | .leaving .sent
  | .returned .response | .returned .sent => false

structure Inv (state : State) : Prop where
  errors : ∀ error, state.connError = some error → error ∈ state.recorded
  issued : ∀ index, (state.calls index).phase ≠ .idle → index < state.issued
  wire : ∀ sent ∈ state.wire, sent.call < state.issued
  ended : ∀ index, (state.calls index).late = true → state.loop = .done
  unwritten : ∀ index, (state.calls index).LateRequest →
    (state.calls index).phase.beforeWrite = true
  silent : ∀ sent ∈ state.wire, ¬ (state.calls sent.call).LateRequest

theorem initial_inv (maxInFlightRequests frameSizeLimit : Nat) :
    Inv (initial maxInFlightRequests frameSizeLimit) where
  errors _ hyp := nomatch hyp
  issued _ hyp := absurd rfl hyp
  wire _ hyp := nomatch hyp
  ended _ hyp := nomatch hyp
  unwritten _ hyp := nomatch hyp.1
  silent _ hyp := nomatch hyp

section Rules

variable {state : State} {index : Nat}

variable (inv : Inv state)
include inv

theorem Inv.withOthers (session : Session) (authConfirmed : Bool)
    (slotFree : Bool → Bool) (writer : Option Nat) (finals : List UInt64) :
    Inv { state with session, authConfirmed, slotFree, writer, finals } :=
  ⟨inv.errors, inv.issued, inv.wire, inv.ended, inv.unwritten, inv.silent⟩

theorem Inv.setConnError (error : ConnError) : Inv (state.setConnError error) where
  errors _ recorded := Option.some.inj recorded ▸ List.mem_cons_self
  issued := inv.issued
  wire := inv.wire
  ended := inv.ended
  unwritten := inv.unwritten
  silent := inv.silent

theorem Inv.setLoop (running : state.loop ≠ .done) (loop : Loop) : Inv { state with loop } :=
  { inv with
    ended other late := absurd (inv.ended other late) running }

theorem Inv.setCall (known : index < state.issued) {call : Call}
    (late : call.late = (state.calls index).late) (kind : call.kind = (state.calls index).kind)
    (unwritten : call.LateRequest → call.phase.beforeWrite = true) :
    Inv (state.setCall index call) := by
  have same : call.LateRequest ↔ (state.calls index).LateRequest := by
    unfold Call.LateRequest
    rw [late, kind]
  have lookup := state.calls_setCall index call
  refine ⟨inv.errors, ?_, inv.wire, ?_, ?_, ?_⟩
  · intro other begun
    rcases lookup other with ⟨rfl, _⟩ | unchanged
    · exact known
    · rw [unchanged] at begun
      exact inv.issued other begun
  · intro other isLate
    rcases lookup other with ⟨rfl, changed⟩ | unchanged
    · rw [changed, late] at isLate
      exact inv.ended other isLate
    · rw [unchanged] at isLate
      exact inv.ended other isLate
  · intro other isLate
    rcases lookup other with ⟨rfl, changed⟩ | unchanged
    · rw [changed] at isLate ⊢
      exact unwritten isLate
    · rw [unchanged] at isLate ⊢
      exact inv.unwritten other isLate
  · intro sent member isLate
    rcases lookup sent.call with ⟨equal, changed⟩ | unchanged
    · rw [changed, same, ← equal] at isLate
      exact inv.silent sent member isLate
    · rw [unchanged] at isLate
      exact inv.silent sent member isLate

variable {phase : Phase}

theorem Inv.known
    (here : (state.calls index).phase = phase) (begun : phase ≠ .idle) : index < state.issued :=
  inv.issued index (here ▸ begun)

theorem Inv.setPhase (known : index < state.issued)
    (unwritten : (state.calls index).LateRequest → phase.beforeWrite = true) :
    Inv (state.setPhase index phase) :=
  inv.setCall known rfl rfl unwritten

theorem Inv.not_late
    (here : (state.calls index).phase = phase) (wrote : phase.beforeWrite = false) :
    ¬ (state.calls index).LateRequest := by
  intro late
  have unwritten := inv.unwritten index late
  rw [here, wrote] at unwritten
  exact Bool.false_ne_true unwritten

end Rules

section Events

variable {configured : Int} {state : State} {index : Nat}

theorem Inv.dispatch (inv : Inv state) (running : state.loop = .running) (data : Bytes) :
    Inv (state.dispatch configured data) := by
  have notDone : state.loop ≠ .done := fun done => nomatch running ▸ done
  unfold State.dispatch
  split
  · exact (inv.setConnError _).setLoop notDone _
  · exact inv.withOthers _ _ _ _ _

section

variable (inv : Inv state)
include inv

theorem Inv.handleReadError (running : state.loop = .running)
    (error : Option Nat) : Inv (state.handleReadError error) := by
  have notDone : state.loop ≠ .done := fun done => nomatch running ▸ done
  cases error with
  | none => exact inv.setLoop notDone _
  | some error => exact (inv.setConnError _).setLoop notDone _

theorem Inv.newCall {call : Call} (ended : call.late = true → state.loop = .done)
    (unwritten : call.phase.beforeWrite = true) : Inv (state.newCall call) := by
  have lookup := state.calls_newCall call
  refine ⟨inv.errors, ?_, ?_, ?_, ?_, ?_⟩
  · intro other begun
    rcases lookup other with ⟨rfl, _⟩ | unchanged
    · exact Nat.lt_succ_self _
    · rw [unchanged] at begun
      exact Nat.lt_succ_of_lt (inv.issued other begun)
  · exact fun sent member => Nat.lt_succ_of_lt (inv.wire sent member)
  · intro other late
    rcases lookup other with ⟨rfl, changed⟩ | unchanged
    · rw [changed] at late
      exact ended late
    · rw [unchanged] at late
      exact inv.ended other late
  · intro other late
    rcases lookup other with ⟨rfl, changed⟩ | unchanged
    · rw [changed]
      exact unwritten
    · rw [unchanged] at late ⊢
      exact inv.unwritten other late
  · intro sent member late
    rcases lookup sent.call with ⟨equal, _⟩ | unchanged
    · exact absurd equal (inv.wire sent member).ne
    · rw [unchanged] at late
      exact inv.silent sent member late

theorem Inv.nextCorrelationID (here : (state.calls index).phase = .holding) :
    Inv (state.nextCorrelationID index) := by
  have known := inv.known here nofun
  unfold State.nextCorrelationID
  split
  · split
    · exact inv.setPhase known fun _ => rfl
    · exact (inv.setPhase known fun _ => rfl).withOthers _ state.authConfirmed
          state.slotFree state.writer state.finals
  · exact inv.setPhase known fun _ => rfl

variable {id : UInt64}

theorem Inv.encode
    (here : (state.calls index).phase = .numbered id) : Inv (state.encode index id) := by
  have known := inv.known here nofun
  unfold State.encode
  dsimp only
  split <;> exact inv.setPhase known fun _ => rfl

theorem Inv.lockWriter
    (here : (state.calls index).phase = .framed id) : Inv (state.lockWriter index id) := by
  have known := inv.known here nofun
  unfold State.lockWriter
  split
  · split
    · exact inv.setPhase known fun _ => rfl
    · rename_i registers
      refine (inv.setPhase known fun late => ?_).withOthers _
          state.authConfirmed state.slotFree _ state.finals
      exact absurd (.inl (.inr (inv.ended index late.1))) registers
  · rename_i oneWay
    exact (inv.setPhase known fun late => absurd late.2 oneWay).withOthers
        state.session state.authConfirmed state.slotFree _ state.finals

theorem Inv.emit
    (here : (state.calls index).phase = .writing id false) : Inv (state.emit index id) := by
  have known := inv.known here nofun
  have notLate := inv.not_late here rfl
  have moved : Inv (state.setPhase index (.writing id true)) :=
    inv.setPhase known fun late => absurd late notLate
  refine ⟨moved.errors, moved.issued, ?_, moved.ended, moved.unwritten, ?_⟩
  · intro sent member
    rcases List.mem_cons.mp member with rfl | earlier
    · exact known
    · exact moved.wire sent earlier
  · intro sent member
    rcases List.mem_cons.mp member with rfl | earlier
    · exact moved.not_late (state.phase_setPhase index _) rfl
    · exact moved.silent sent earlier

theorem Inv.writeReturns {emitted : Bool} (here : (state.calls index).phase = .writing id emitted)
    (ok : Bool) : Inv (state.writeReturns index id ok) :=
  (inv.setPhase (inv.known here nofun) fun late =>
    absurd late (inv.not_late here rfl)).withOthers state.session
      state.authConfirmed state.slotFree _ state.finals

end

theorem Inv.leave (inv : Inv state) {outcome : Outcome}
    (here : (state.calls index).phase = .leaving outcome) :
    Inv (state.setPhase index (.returned outcome)) := by
  refine inv.setPhase (inv.known here nofun) fun late => ?_
  have unwritten := inv.unwritten index late
  rw [here] at unwritten
  cases outcome with
  | response | sent => exact unwritten
  | failed error => rfl

end Events

theorem State.Selecting.phase {state : State} {index : Nat} (selecting : state.Selecting index) :
    (state.calls index).phase ≠ .idle := by
  rcases selecting with here | here
  · rw [here]
    exact nofun
  · rw [here]
    exact nofun

theorem step_inv {configured : Int} {state after : State} {event : Event}
    (inv : Inv state) (stepped : step configured state event = some after) : Inv after := by
  obtain ⟨enabled, rfl⟩ := guarded_eq_some_iff.mp stepped
  cases event with
  | frame data => exact inv.dispatch enabled data
  | readError error => exact inv.handleReadError enabled error
  | closeMultiplexer =>
    exact (inv.setLoop (fun done => nomatch enabled ▸ done) _).withOthers _
        state.authConfirmed state.slotFree state.writer state.finals
  | closeDone => exact inv.setLoop (fun done => nomatch enabled ▸ done) _
  | confirmAuthentication => exact inv.withOthers state.session _ state.slotFree _ _
  | heartbeatFailed error => exact inv.setConnError _
  | slots request free => exact inv.withOthers state.session _ _ _ _
  | expire index => exact inv.setCall (inv.issued index enabled) rfl rfl (inv.unwritten index)
  | call kind messageType flags payload =>
    refine inv.newCall (fun late => ?_) ?_
    · exact of_decide_eq_true late
    · dsimp only [State.startCall]
      split <;> rfl
  | take index =>
    refine inv.setPhase (inv.issued index ?_) fun _ => rfl
    exact State.Selecting.phase (enabled.imp And.left id)
  | refuse index | cancel index =>
    exact inv.setPhase (inv.issued index enabled.1.phase) fun _ => rfl
  | pass index =>
    obtain ⟨here, _, notDone, _⟩ := enabled
    exact inv.setPhase (inv.known here nofun) fun late => absurd (inv.ended index late.1) notDone
  | queueFull index => exact inv.setPhase (inv.known enabled nofun) fun _ => rfl
  | nextCorrelationID index => exact inv.nextCorrelationID enabled
  | encode index id => exact inv.encode enabled
  | lockWriter index id => exact inv.lockWriter enabled.1
  | emit index id => exact inv.emit enabled
  | writeReturns index id emitted ok => exact inv.writeReturns enabled.1 ok
  | finish index id outcome =>
    exact inv.setPhase (inv.known enabled.1 nofun) fun late =>
        absurd late (inv.not_late enabled.1 rfl)
  | leave index outcome => exact inv.leave enabled

/-! ## Late requests that find no free slot -/

/-- The late requests are at their first select, or have returned. -/
def Refused (state : State) : Prop :=
  ∀ index, (state.calls index).LateRequest →
      (state.calls index).phase = .admitting ∨
        ∃ outcome, (state.calls index).phase = .returned outcome ∧
            ((state.calls index).alive = true → (state.calls index).authenticated = true →
              state.Terminal outcome)

theorem State.Terminal.mono {state after : State} {outcome : Outcome}
    (terminal : state.Terminal outcome)
    (recorded : ∀ error ∈ state.recorded, error ∈ after.recorded) : after.Terminal outcome := by
  match outcome, terminal with
  | .failed (.terminal error), member => exact recorded error member
  | .failed .connectionClosed, _ => trivial

section Refused

variable {configured : Int} {state after : State} {index : Nat}

section

variable (refused : Refused state)
include refused

theorem Refused.of_calls (calls : after.calls = state.calls)
    (recorded : ∀ error ∈ state.recorded, error ∈ after.recorded) : Refused after := by
  intro index late
  rw [calls] at late ⊢
  refine (refused index late).imp_right ?_
  rintro ⟨outcome, here, terminal⟩
  exact ⟨outcome, here, fun alive found => (terminal alive found).mono recorded⟩

theorem Refused.not_late {phase : Phase}
    (here : (state.calls index).phase = phase) (notAdmitting : phase ≠ .admitting)
    (notReturned : ∀ outcome, phase ≠ .returned outcome) : ¬ (state.calls index).LateRequest := by
  intro late
  rcases refused index late with admitting | ⟨outcome, returned, _⟩
  · exact notAdmitting (here.symm.trans admitting)
  · exact notReturned outcome (here.symm.trans returned)

theorem Refused.setPhase (notLate : ¬ (state.calls index).LateRequest)
    (phase : Phase) : Refused (state.setPhase index phase) := by
  intro other late
  rcases state.calls_setPhase index phase other with ⟨rfl, changed⟩ | unchanged
  · rw [changed] at late
    exact absurd late notLate
  · rw [unchanged] at late ⊢
    exact refused other late

theorem Refused.return {outcome : Outcome}
    (terminal : (state.calls index).alive = true → state.Terminal outcome) :
    Refused (state.setPhase index (.returned outcome)) := by
  intro other late
  rcases state.calls_setPhase index (.returned outcome) other with ⟨rfl, changed⟩ | unchanged
  · rw [changed]
    exact .inr ⟨outcome, rfl, fun alive _ => terminal alive⟩
  · rw [unchanged] at late ⊢
    exact refused other late

theorem Refused.startCall (kind : SendKind) (messageType : UInt16) (flags : UInt8)
    (payload : Bytes) :
    Refused (state.newCall (state.startCall kind messageType flags payload)) := by
  intro other late
  rcases state.calls_newCall _ other with ⟨rfl, changed⟩ | unchanged
  · rw [changed]
    dsimp only [State.startCall]
    split
    · exact .inl rfl
    · rename_i unconfirmed
      exact .inr ⟨_, rfl, fun _ found => absurd found unconfirmed⟩
  · rw [unchanged] at late ⊢
    exact refused other late

theorem Refused.expire : Refused
      (state.setCall index { state.calls index with alive := false }) := by
  intro other late
  rcases state.calls_setCall index { state.calls index with alive := false } other
    with ⟨rfl, changed⟩ | unchanged
  · rw [changed] at late ⊢
    refine (refused other late).imp_right ?_
    rintro ⟨outcome, here, _⟩
    exact ⟨outcome, here, nofun⟩
  · rw [unchanged] at late ⊢
    exact refused other late

end

private theorem terminal_outboundAdmissionError
    (inv : Inv state) (alive : (state.calls index).alive = true) :
    state.Terminal (.failed (state.outboundAdmissionError index)) := by
  unfold State.outboundAdmissionError
  cases recorded : state.connError with
  | none =>
    simp only [alive]
    trivial
  | some error => exact inv.errors error recorded

end Refused

private theorem step_refused {configured : Int} {state after : State} {event : Event}
    (inv : Inv state) (refused : Refused state) (noSlot : NoSlotFree state event)
    (stepped : step configured state event = some after) : Refused after := by
  obtain ⟨enabled, rfl⟩ := guarded_eq_some_iff.mp stepped
  cases event with
  | frame data =>
    dsimp only [next, State.dispatch]
    split
    · exact refused.of_calls rfl fun _ member => List.mem_cons_of_mem _ member
    · exact refused
  | readError error =>
    cases error with
    | none => exact refused
    | some error => exact refused.of_calls rfl fun _ member => List.mem_cons_of_mem _ member
  | heartbeatFailed error =>
    exact refused.of_calls rfl fun _ member => List.mem_cons_of_mem _ member
  | closeMultiplexer | closeDone | confirmAuthentication
  | slots request free => exact refused
  | expire index => exact refused.expire
  | call kind messageType flags payload =>
    exact refused.startCall kind messageType flags payload
  | take index =>
    refine refused.setPhase (fun late => ?_) _
    rcases enabled with ⟨_, free⟩ | here
    · exact Bool.false_ne_true ((noSlot late).symm.trans free)
    · exact refused.not_late here nofun nofun late
  | refuse index => exact refused.return (terminal_outboundAdmissionError inv)
  | cancel index =>
    exact refused.return fun alive => absurd (enabled.2.symm.trans alive) Bool.false_ne_true
  | pass index =>
    obtain ⟨_, _, notDone, _⟩ := enabled
    exact refused.setPhase (fun late => notDone (inv.ended index late.1)) _
  | queueFull | emit | leave => exact refused.setPhase (refused.not_late enabled nofun nofun) _
  | nextCorrelationID index =>
    have notLate := refused.not_late enabled nofun nofun
    dsimp only [next, State.nextCorrelationID]
    split
    · split
      · exact refused.setPhase notLate _
      · exact refused.setPhase notLate _
    · exact refused.setPhase notLate _
  | encode index id =>
    have notLate := refused.not_late enabled nofun nofun
    dsimp only [next, State.encode]
    split <;> exact refused.setPhase notLate _
  | lockWriter index id =>
    have notLate := refused.not_late enabled.1 nofun nofun
    dsimp only [next, State.lockWriter]
    split
    · split <;> exact refused.setPhase notLate _
    · exact refused.setPhase notLate _
  | writeReturns | finish => exact refused.setPhase (refused.not_late enabled.1 nofun nofun) _

/-! ## The theorem -/

private theorem initial_refused (maxInFlightRequests frameSizeLimit : Nat) :
    Refused (initial maxInFlightRequests frameSizeLimit) :=
  fun _ late => nomatch late.1

/-- In every run, no request that is made after the end of the connection puts
anything on the wire. -/
theorem late_requests_write_nothing {configured : Int} {maxInFlightRequests frameSizeLimit : Nat}
    {events : List Event} {final : State}
    (ran : run (step configured) (initial maxInFlightRequests frameSizeLimit)
      events = some final) : ∀ sent ∈ final.wire, ¬ (final.calls sent.call).LateRequest :=
  (invariant_of_run Inv step_inv (initial_inv _ _) ran).silent

def terminatedRun : List Event :=
  [.frame (sampleHello 1024), .confirmAuthentication, .readError (some 7),
    .closeMultiplexer, .closeDone, .call .request 100 0 []]

theorem terminatedRun_writes_nothing : ∃ final,
      run (step 0) (initial 4 transportMaxFrameSize)
          (terminatedRun.take 2 ++ [.call .request 100 0 [], .take 0, .nextCorrelationID 0,
            .encode 0 1, .lockWriter 0 1, .emit 0 1] ++ terminatedRun.drop 2) =
        some final ∧
      (∀ sent ∈ final.wire, ¬ (final.calls sent.call).LateRequest) ∧
        final.wire.map Sent.call = [0] ∧ (final.calls 1).LateRequest := by
  apply exists_kept_and
  · decide +kernel
  · exact fun _ => late_requests_write_nothing

theorem late_requests_end_with_termination {configured : Int}
    {maxInFlightRequests frameSizeLimit : Nat} {events : List Event} {final : State}
    (noSlot :
      Along (step configured) NoSlotFree (initial maxInFlightRequests frameSizeLimit) events)
    (ran : run (step configured) (initial maxInFlightRequests frameSizeLimit) events = some final)
    {index : Nat} (late : (final.calls index).LateRequest)
    (authenticated : (final.calls index).authenticated = true) :
    EndsWithTermination configured final index := by
  obtain ⟨inv, refused⟩ := invariant_along (fun state => Inv state ∧ Refused state)
      (fun both condition stepped =>
        ⟨step_inv both.1 stepped, step_refused both.1 both.2 condition stepped⟩)
      ⟨initial_inv _ _, initial_refused _ _⟩ noSlot ran
  refine ⟨?_, ?_, ?_⟩
  · intro sent member same
    exact inv.silent sent member (same ▸ late)
  · intro outcome here alive
    rcases refused index late with admitting | ⟨other, returned, terminal⟩
    · exact nomatch admitting.symm.trans here
    · cases returned.symm.trans here
      exact terminal alive authenticated
  · rcases refused index late with admitting | ⟨outcome, returned, _⟩
    · right
      refine ⟨_, .failed (final.outboundAdmissionError index),
          guarded_eq_some_iff.mpr ⟨⟨.inl admitting, ?_⟩, rfl⟩, ?_⟩
      · exact inv.ended index late.1
      · exact State.phase_setPhase _ _ _
    · exact .inl ⟨outcome, returned⟩

theorem saturated_late_request_ends_with_termination : ∃ final,
      run (step 0) (initial 4 transportMaxFrameSize)
          (terminatedRun.dropLast ++ [.slots true false, .call .request 100 0 [], .refuse 0]) =
        some final ∧
      (final.calls 0).LateRequest ∧ (final.calls 0).authenticated = true ∧
      (final.calls 0).phase = .returned (.failed (.terminal (.read 7))) ∧
      EndsWithTermination 0 final 0 := by
  simp only [← and_assoc]
  apply exists_and_kept
  · simp only [and_assoc]
    decide +kernel
  · rintro final ⟨⟨⟨ran, late⟩, authenticated⟩, -⟩
    exact late_requests_end_with_termination (by decide +kernel) ran late authenticated

/-- The select chooses the free slot, and the closed multiplexer refuses the
request. -/
theorem late_request_is_not_told_of_termination : ∃ final,
      run (step 0) (initial 4 transportMaxFrameSize) (terminatedRun ++
            [.take 0, .nextCorrelationID 0, .encode 0 1, .lockWriter 0 1,
              .leave 0 (.failed .registerCorrelatedRequest)]) =
        some final ∧
      (final.calls 0).LateRequest ∧ (final.calls 0).authenticated = true ∧
      (final.calls 0).alive = true ∧
      (final.calls 0).phase = .returned (.failed .registerCorrelatedRequest) ∧
      ¬ EndsWithTermination 0 final 0 := by
  simp only [← and_assoc]
  apply exists_and_kept
  · simp only [and_assoc]
    decide +kernel
  · rintro final ⟨⟨-, alive⟩, phase⟩ ends
    exact ends.answers _ phase alive

end FitzGo.Connection.Sending
