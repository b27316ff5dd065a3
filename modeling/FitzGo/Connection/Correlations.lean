import FitzGo.Connection.Sending

/-!
# Which correlated frames end a connection

An inbound frame with a correlation id that the multiplexer does not know ends
the connection. A request enters its id before its frame goes out, and only a
final frame with that id takes it out again. The id of a one-way frame is
entered nowhere.
-/

namespace FitzGo.Connection.Sending

open StepMachine Protocol Handshake

def correlationOf (data : Bytes) : Option UInt64 :=
  match decodeFrame data with
  | .error _ => none
  | .ok (frame, _, _) =>
    if frame.correlationID ≠ 0 then some frame.correlationID else none

/-- The frame is rejected as unexpected only if its id has not gone out, or a
final frame with it has been dispatched. -/
def RejectsOnlyUnknown (configured : Int) (state : State) : Event → Prop
  | .frame data =>
    ∀ id, dispatchTransportFrame configured state.session data =
          .error (.unexpectedCorrelation id) →
        (∀ sent ∈ state.wire, sent.id ≠ id) ∨ id ∈ state.finals
  | _ => True

/-- No inbound frame carries the id of a one-way frame that has gone out. -/
def AnswersNoOneWay (state : State) : Event → Prop
  | .frame data =>
    ∀ sent ∈ state.wire, isRequest sent.kind = false → correlationOf data ≠ some sent.id
  | _ => True

instance (state : State) (event : Event) : Decidable (AnswersNoOneWay state event) := by
  rcases event with ⟨⟩ <;> dsimp only [AnswersNoOneWay] <;> infer_instance

/-! ## What dispatching does to the map -/

section Dispatch

variable {configured : Int} {session after : Session} {data : Bytes} {response : Bool} {id : UInt64}
  {core : Bytes} {frame : Frame}

theorem checkHello_ne_unexpected : checkHello frame core ≠ .error (.unexpectedCorrelation id) := by
  intro rejected
  simp only [checkHello] at rejected
  repeat' split at rejected
  all_goals cases rejected

private theorem dispatchRejection_ne_unexpected :
    Session.dispatchRejection frame core ≠ .unexpectedCorrelation id := by
  unfold Session.dispatchRejection
  repeat' split
  all_goals exact nofun

private theorem dispatchGoAway_ne_unexpected :
    session.dispatchGoAway frame core ≠ .error (.unexpectedCorrelation id) := by
  unfold Session.dispatchGoAway
  repeat' split
  all_goals exact nofun

theorem decodeFrame_ne_unexpected : decodeFrame data ≠ .error (.unexpectedCorrelation id) := by
  unfold decodeFrame
  repeat' split
  all_goals exact nofun

private theorem dispatchHello_ne_unexpected {ids : List Nat} :
    session.dispatchHello configured frame core ids ≠ .error (.unexpectedCorrelation id) := by
  intro rejected
  unfold Session.dispatchHello at rejected
  split at rejected
  · exact nomatch rejected
  · split at rejected
    · rename_i error checked
      cases rejected
      exact checkHello_ne_unexpected checked
    · exact nomatch rejected

private theorem unknown_of_dispatchCorrelated {other : UInt64} {final : Bool}
    (rejected : session.dispatchCorrelated other final =
      .error (.unexpectedCorrelation id)) : other = id ∧ id ∉ session.correlated := by
  unfold Session.dispatchCorrelated at rejected
  split at rejected
  · split at rejected <;> exact nomatch rejected
  · rename_i unknown
    cases rejected
    exact ⟨rfl, unknown⟩

theorem unexpected_of_rejected (rejected : dispatchTransportFrame configured session data =
      .error (.unexpectedCorrelation id)) :
    correlationOf data = some id ∧ id ∉ session.correlated := by
  unfold dispatchTransportFrame at rejected
  split at rejected
  · exact nomatch rejected
  · split at rejected
    · rename_i error undecoded
      cases rejected
      exact absurd undecoded decodeFrame_ne_unexpected
    · rename_i frame core ids decoded
      unfold dispatchDecoded at rejected
      split at rejected
      · exact absurd rejected dispatchHello_ne_unexpected
      · split at rejected
        · exact absurd (Except.error.inj rejected) dispatchRejection_ne_unexpected
        · split at rejected
          · exact absurd rejected dispatchGoAway_ne_unexpected
          · split at rejected
            · rename_i correlated
              obtain ⟨rfl, unknown⟩ := unknown_of_dispatchCorrelated rejected
              refine ⟨?_, unknown⟩
              simp only [correlationOf, decoded, if_pos correlated]
            · exact nomatch rejected

private theorem kept_of_dispatchCorrelated {other : UInt64} {final : Bool}
    (dispatched : session.dispatchCorrelated other final = .ok (after, response))
    (known : id ∈ session.correlated) : id ∈ after.correlated ∨ final = true ∧ other = id := by
  unfold Session.dispatchCorrelated at dispatched
  split at dispatched
  · split at dispatched
    · rename_i isFinal
      obtain ⟨rfl, rfl⟩ := Prod.mk.inj (Except.ok.inj dispatched)
      by_cases same : id = other
      · exact .inr ⟨isFinal, same.symm⟩
      · exact .inl ((List.mem_erase_of_ne same).mpr known)
    · obtain ⟨rfl, rfl⟩ := Prod.mk.inj (Except.ok.inj dispatched)
      exact .inl known
  · exact nomatch dispatched

private theorem kept_of_dispatched
    (dispatched : dispatchTransportFrame configured session data = .ok (after, response))
    (known : id ∈ session.correlated) : id ∈ after.correlated ∨ finalID data = some id := by
  unfold dispatchTransportFrame at dispatched
  split at dispatched
  · exact nomatch dispatched
  · split at dispatched
    · exact nomatch dispatched
    · rename_i frame core ids decoded
      unfold dispatchDecoded at dispatched
      split at dispatched
      · obtain ⟨hello, _, _, rfl, _⟩ := dispatchHello_eq_ok dispatched
        exact .inl known
      · split at dispatched
        · exact nomatch dispatched
        · split at dispatched
          · unfold Session.dispatchGoAway at dispatched
            repeat' split at dispatched
            all_goals first
              | contradiction
              | obtain ⟨rfl, rfl⟩ := Prod.mk.inj (Except.ok.inj dispatched)
                exact .inl known
          · split at dispatched
            · rename_i correlated
              refine (kept_of_dispatchCorrelated dispatched known).imp_right ?_
              rintro ⟨isFinal, rfl⟩
              have flagged := of_decide_eq_true isFinal
              simp only [finalID, decoded, if_pos (And.intro correlated flagged)]
            · obtain ⟨rfl, rfl⟩ := Prod.mk.inj (Except.ok.inj dispatched)
              exact .inl known

end Dispatch

/-! ## The ids of requests -/

/-- The id is in the map, or a final frame with it has been dispatched. -/
def State.Knows (state : State) (id : UInt64) : Prop :=
  id ∈ state.session.correlated ∨ id ∈ state.finals

structure Registered (state : State) : Prop where
  writing : ¬ state.Closed → ∀ index id emitted, (state.calls index).phase = .writing id emitted →
    isRequest (state.calls index).kind = true → state.Knows id
  wire : ¬ state.Closed → ∀ sent ∈ state.wire, isRequest sent.kind = true → state.Knows sent.id

theorem initial_registered (maxInFlightRequests frameSizeLimit : Nat) :
    Registered (initial maxInFlightRequests frameSizeLimit) where
  writing _ _ _ _ here := nomatch here
  wire _ _ member := nomatch member

section Rules

variable {configured : Int} {state after : State} {index : Nat}

variable (registered : Registered state)
include registered

theorem Registered.of_knows (calls : after.calls = state.calls) (wire : after.wire = state.wire)
    (closed : state.Closed → after.Closed)
    (knows : ¬ after.Closed → ∀ id, state.Knows id → after.Knows id) : Registered after where
  writing opened other id emitted here request := by
    rw [calls] at here request
    exact knows opened id (registered.writing (mt closed opened) other id emitted here request)
  wire opened sent member request := by
    rw [wire] at member
    exact knows opened sent.id (registered.wire (mt closed opened) sent member request)

theorem Registered.setCall {call : Call}
    (writing : ¬ state.Closed → ∀ id emitted, call.phase = .writing id emitted →
      isRequest call.kind = true → state.Knows id) : Registered (state.setCall index call) where
  writing opened other id emitted here request := by
    rcases state.calls_setCall index call other with ⟨rfl, changed⟩ | unchanged
    · rw [changed] at here request
      exact writing opened id emitted here request
    · rw [unchanged] at here request
      exact registered.writing opened other id emitted here request
  wire := registered.wire

theorem Registered.setPhase {phase : Phase}
    (quiet : ∀ id emitted, phase ≠ .writing id emitted) : Registered (state.setPhase index phase) :=
  registered.setCall fun _ id emitted here _ => absurd here (quiet id emitted)

end Rules

section Events

variable {configured : Int} {state : State} {index : Nat} {id : UInt64}

theorem Registered.dispatch (registered : Registered state) (running : state.loop = .running)
    (data : Bytes) : Registered (state.dispatch configured data) := by
  have opened := State.not_closed_of_running running
  unfold State.dispatch
  split
  · exact registered.of_knows rfl rfl (fun closed => absurd closed opened) fun _ _ known => known
  · rename_i session response dispatched
    refine registered.of_knows rfl rfl (fun closed => absurd closed opened) fun _ id known => ?_
    rcases known with known | settled
    · rcases kept_of_dispatched dispatched known with kept | final
      · exact .inl kept
      · refine .inr (List.mem_append_left _ ?_)
        rw [final]
        exact List.mem_singleton_self id
    · exact .inr (List.mem_append_right _ settled)

variable (registered : Registered state)
include registered

theorem Registered.nextCorrelationID : Registered (state.nextCorrelationID index) := by
  unfold State.nextCorrelationID
  split
  · split
    · exact registered.setPhase nofun
    · have moved : Registered (state.setPhase index
              (.numbered (UInt64.ofNat (state.session.nextCorrelationID + 1)))) :=
        registered.setPhase nofun
      exact moved.of_knows rfl rfl id fun _ _ known => known
  · exact registered.setPhase nofun

theorem Registered.lockWriter : Registered (state.lockWriter index id) := by
  unfold State.lockWriter
  split
  · split
    · exact registered.setPhase nofun
    · let entered : State := { state with
          session := { state.session with correlated := id :: state.session.correlated } }
      have kept : Registered entered := registered.of_knows rfl rfl (fun closed => closed)
          fun _ _ known => known.imp_left (List.mem_cons_of_mem _)
      have moved : Registered (entered.setPhase index (.writing id false)) := by
        refine kept.setCall fun _ other emitted here _ => ?_
        cases here
        exact .inl List.mem_cons_self
      exact moved.of_knows rfl rfl (fun closed => closed) fun _ _ known => known
  · rename_i oneWay
    have moved : Registered (state.setPhase index (.writing id false)) :=
      registered.setCall fun _ _ _ _ request => absurd request oneWay
    exact moved.of_knows rfl rfl (fun closed => closed) fun _ _ known => known

theorem Registered.emit
    (here : (state.calls index).phase = .writing id false) : Registered (state.emit index id) := by
  have moved : Registered (state.setPhase index (.writing id true)) := by
    refine registered.setCall fun opened other emitted now request => ?_
    cases now
    exact registered.writing opened index id false here request
  refine ⟨moved.writing, ?_⟩
  intro opened sent member request
  rcases List.mem_cons.mp member with rfl | earlier
  · exact registered.writing opened index id false here request
  · exact moved.wire opened sent earlier request

end Events

theorem step_registered {configured : Int} {state after : State} {event : Event}
    (registered : Registered state) (stepped : step configured state event = some after) :
    Registered after := by
  obtain ⟨enabled, rfl⟩ := guarded_eq_some_iff.mp stepped
  cases event with
  | frame data => exact registered.dispatch enabled data
  | readError error =>
    have opened := State.not_closed_of_running enabled
    cases error <;>
      exact registered.of_knows rfl rfl (fun closed => absurd closed opened) fun _ _ known => known
  | closeMultiplexer =>
    exact registered.of_knows rfl rfl (fun _ => .inl rfl) fun opened => absurd (.inl rfl) opened
  | closeDone =>
    exact registered.of_knows rfl rfl (fun _ => .inr rfl) fun opened => absurd (.inr rfl) opened
  | confirmAuthentication | heartbeatFailed error | slots request free =>
    exact registered.of_knows rfl rfl (fun closed => closed) fun _ _ known => known
  | expire index =>
    exact registered.setCall fun opened id emitted here request =>
        registered.writing opened index id emitted here request
  | call kind messageType flags payload =>
    have moved : Registered
          (state.setCall state.issued (state.startCall kind messageType flags payload)) := by
      refine registered.setCall fun _ id emitted here _ => ?_
      dsimp only [State.startCall] at here
      split at here <;> exact nomatch here
    exact moved.of_knows rfl rfl (fun closed => closed) fun _ _ known => known
  | take index | refuse index | cancel index | pass index
  | queueFull index | finish index id outcome | leave index outcome =>
    exact registered.setPhase nofun
  | nextCorrelationID index => exact registered.nextCorrelationID
  | encode index id =>
    dsimp only [next, State.encode]
    split <;> exact registered.setPhase nofun
  | lockWriter index id => exact registered.lockWriter
  | emit index id => exact registered.emit enabled
  | writeReturns index id emitted ok =>
    have moved : Registered (state.setPhase index (if ok then
              if isRequest (state.calls index).kind then .awaiting id
              else .leaving .sent
            else .leaving (.failed .write))) := by
      refine registered.setPhase fun other emitted here => ?_
      split at here
      · split at here <;> exact nomatch here
      · exact nomatch here
    exact moved.of_knows rfl rfl (fun closed => closed) fun _ _ known => known

/-! ## The theorem -/

theorem Registered.rejects {configured : Int} {state : State} {data : Bytes} {id : UInt64}
    (registered : Registered state) (running : state.loop = .running)
    (rejected : dispatchTransportFrame configured state.session data =
      .error (.unexpectedCorrelation id)) :
    (∀ sent ∈ state.wire, isRequest sent.kind = true → sent.id ≠ id) ∨ id ∈ state.finals := by
  have opened := State.not_closed_of_running running
  obtain ⟨_, unknown⟩ := unexpected_of_rejected rejected
  by_cases settled : id ∈ state.finals
  · exact .inr settled
  · left
    intro sent member request same
    subst same
    rcases registered.wire opened sent member request with known | final
    · exact unknown known
    · exact settled final

theorem rejections_are_of_unknown_correlations {configured : Int}
    {maxInFlightRequests frameSizeLimit : Nat} {events : List Event} {final : State}
    (answers :
      Along (step configured) AnswersNoOneWay (initial maxInFlightRequests frameSizeLimit) events)
    (ran : run (step configured) (initial maxInFlightRequests frameSizeLimit) events = some final) :
    Along (step configured) (RejectsOnlyUnknown configured)
      (initial maxInFlightRequests frameSizeLimit) events := by
  refine
    along_of_invariant Registered (fun registered _ stepped => step_registered registered stepped)
      ?_ (initial_registered _ _) answers ran
  intro state after event registered answered stepped
  cases event with
  | frame data =>
    intro id rejected
    have ⟨running, _⟩ := guarded_eq_some_iff.mp stepped
    obtain ⟨carried, _⟩ := unexpected_of_rejected rejected
    refine (registered.rejects running rejected).imp_left ?_
    intro requests sent member same
    cases kind : isRequest sent.kind with
    | true => exact requests sent member kind same
    | false => exact answered sent member kind (same ▸ carried)
  | _ => trivial

/-- A negotiated connection on which the call given has put its frame on the
wire with id 1. -/
def sendingRun (kind : SendKind) (messageType : UInt16) : List Event :=
  [.frame (sampleHello 1024), .confirmAuthentication,
    .call kind messageType 0 [], .take 0, .nextCorrelationID 0,
    .encode 0 1, .lockWriter 0 1, .emit 0 1, .writeReturns 0 1 true true]

def finalReply (typeHigh typeLow id : UInt8) : Bytes :=
  [typeHigh, typeLow, 2, 0, 0, 0, 0, 0, 0, 0, id, 0, 0, 0, 0]

/-- The request is cancelled; its response is consumed by the tombstone, and a
second response to it is rejected. -/
def cancelledRun : List Event :=
  sendingRun .request 100 ++
    [.expire 0, .finish 0 1 (.failed .context), .frame (finalReply 0 100 1),
      .frame (finalReply 0 100 1)]

theorem cancelledRun_rejects_only_unknown : ∃ final,
      run (step 0) (initial 4 transportMaxFrameSize) cancelledRun = some final ∧
      Along (step 0) AnswersNoOneWay (initial 4 transportMaxFrameSize) cancelledRun ∧
      final.connError = some (.decodeFrame (.unexpectedCorrelation 1)) ∧
      Along (step 0) (RejectsOnlyUnknown 0) (initial 4 transportMaxFrameSize) cancelledRun := by
  obtain ⟨final, ran, seen⟩ :
      ∃ final, run (step 0) (initial 4 transportMaxFrameSize) cancelledRun = some final ∧
        final.connError = some (.decodeFrame (.unexpectedCorrelation 1)) := by
    decide +kernel
  have answers : Along (step 0) AnswersNoOneWay (initial 4 transportMaxFrameSize)
      cancelledRun := by
    decide +kernel
  exact ⟨final, ran, answers, seen, rejections_are_of_unknown_correlations answers ran⟩

/-- An RPC REQUEST is sent one-way with id 1, and the broker's reply to it ends
the connection. -/
theorem reply_to_one_way_request_is_rejected : ∃ state after,
      run (step 0) (initial 4 transportMaxFrameSize) (sendingRun .fireAndForget 302) = some state ∧
      step 0 state (.frame (finalReply 1 46 1)) = some after ∧
      after.loop = .exiting ∧
      ¬ RejectsOnlyUnknown 0 state (.frame (finalReply 1 46 1)) := by
  have observed :
      (run (step 0) (initial 4 transportMaxFrameSize) (sendingRun .fireAndForget 302)).map
          (fun state =>
            ((step 0 state (.frame (finalReply 1 46 1))).map State.loop,
              (dispatchTransportFrame 0 state.session (finalReply 1 46 1)).map fun _ => (),
              state.wire, state.finals)) =
        some (some .exiting, .error (.unexpectedCorrelation 1), [⟨0, .fireAndForget, 1⟩], []) := by
    decide +kernel
  obtain ⟨state, ran, seen⟩ := Option.map_eq_some_iff.mp observed
  simp only [Prod.mk.injEq] at seen
  obtain ⟨exits, rejected, wire, finals⟩ := seen
  obtain ⟨after, stepped, exiting⟩ := Option.map_eq_some_iff.mp exits
  refine ⟨state, after, ran, stepped, exiting, ?_⟩
  intro claim
  have unexpected : dispatchTransportFrame 0 state.session (finalReply 1 46 1) =
        .error (.unexpectedCorrelation 1) := by
    cases result : dispatchTransportFrame 0 state.session (finalReply 1 46 1) with
    | error error => simpa [result, Except.map] using rejected
    | ok _ => simp [result, Except.map] at rejected
  rcases claim 1 unexpected with unsent | settled
  · rw [wire] at unsent
    exact unsent _ List.mem_cons_self rfl
  · rw [finals] at settled
    cases settled

end FitzGo.Connection.Sending
