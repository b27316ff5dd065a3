import FitzGo.Connection.Handshake
import FitzGo.Library.StepMachine

/-!
# Becoming authenticated

`confirmAuthentication` is called by `Start` after the HELLO, and by the
dispatch loop for the first frame that counts as a response.
-/

namespace FitzGo.Connection.Authentication

open StepMachine Protocol Handshake

inductive ConnState
  | disconnected
  | authenticating
  | authenticated
  | closed
  deriving DecidableEq

/-- `responding` is the loop between `dispatchTransportFrame` and its check for
the first response; `closing` has set the state and not yet closed the
multiplexer. -/
inductive Loop
  | notStarted
  | reading
  | responding (response : Bool)
  | exiting
  | closing
  | exited
  deriving DecidableEq

/-- `Start` waits in its select, or has taken the HELLO and found the
connection open. -/
inductive Starter
  | idle
  | waiting
  | confirming
  | returned
  deriving DecidableEq

/-- `dispatched` records the frames that the loop has dispatched. -/
structure State where
  session : Session
  connState : ConnState
  authConfirmed : Bool
  firstResponse : Bool
  closed : Bool
  cancelled : Bool
  loop : Loop
  starter : Starter
  dispatched : List Bytes

def initial (maxInFlightRequests frameSizeLimit : Nat) : State where
  session := Session.new maxInFlightRequests frameSizeLimit
  connState := .disconnected
  authConfirmed := false
  firstResponse := true
  closed := false
  cancelled := false
  loop := .notStarted
  starter := .idle
  dispatched := []

inductive Event
  | start
  | frame (data : Bytes)
  | respond (response : Bool)
  | stopReading
  | exitClosed
  | exitMux
  | takeHello
  | confirm
  | giveUp
  | close
  | closeState
  | cancel
  | register (id : UInt64)

def Enabled (state : State) : Event → Prop
  | .start => state.closed = false ∧ state.loop = .notStarted
  | .frame _ => state.loop = .reading
  | .respond response => state.loop = .responding response
  | .stopReading => state.loop = .reading
  | .exitClosed => state.loop = .exiting
  | .exitMux => state.loop = .closing
  | .takeHello =>
    state.starter = .waiting ∧ state.session.serverHello = true ∧
      state.closed = false ∧ state.cancelled = false
  | .confirm => state.starter = .confirming
  | .giveUp => state.starter = .waiting
  | .close => state.closed = false
  | .closeState => state.closed = true ∧ (state.loop = .notStarted ∨ state.loop = .exited)
  | .cancel => True
  | .register id => state.authConfirmed = true ∧ id ∉ state.session.correlated

instance (state : State) (event : Event) : Decidable (Enabled state event) := by
  cases event <;> dsimp only [Enabled] <;> infer_instance

def State.confirmAuthentication (state : State) : State :=
  if state.authConfirmed then state
  else { state with connState := .authenticated, authConfirmed := true }

def next (configured : Int) (state : State) : Event → State
  | .start =>
    { state with
      connState := .authenticating
      loop := .reading
      starter := .waiting }
  | .frame data =>
    match dispatchTransportFrame configured state.session data with
    | .error _ =>
      { state with
        loop := .exiting
        dispatched := data :: state.dispatched }
    | .ok (session, response) =>
      { state with
        session
        loop := .responding response
        dispatched := data :: state.dispatched }
  | .respond response =>
    if state.firstResponse && response then
      { state.confirmAuthentication with
        firstResponse := false
        loop := .reading }
    else { state with loop := .reading }
  | .stopReading => { state with loop := .exiting }
  | .exitClosed => { state with connState := .closed, loop := .closing }
  | .exitMux =>
    { state with
      session := { state.session with
          protocolVersion := 0
          capabilities := 0
          correlated := [] }
      loop := .exited }
  | .takeHello => { state with starter := .confirming }
  | .confirm => { state.confirmAuthentication with starter := .returned }
  | .giveUp => { state with starter := .returned }
  | .close => { state with closed := true, cancelled := true }
  | .closeState => { state with connState := .closed }
  | .cancel => { state with cancelled := true }
  | .register id =>
    { state with
      session := { state.session with correlated := id :: state.session.correlated } }

def step (configured : Int) : State → Event → Option State :=
  guarded Enabled (next configured)

/-! ## The property and its condition -/

def HelloSeen (state : State) : Prop :=
  ∃ data ∈ state.dispatched, ∃ hello, WellFormedHello data hello

def IsAuthenticated (state : State) : Prop :=
  state.connState = .authenticated ∨ state.authConfirmed = true

/-- The condition on one step, read in the state before it: an uncorrelated
message that is neither HELLO, CONNECT_REJECTED nor GOAWAY comes only after
the HELLO. -/
def HelloFirst (state : State) : Event → Prop
  | .frame data => state.session.serverHello = true ∨ isPush data = false
  | _ => True

instance (state : State) (event : Event) : Decidable (HelloFirst state event) := by
  cases event <;> dsimp only [HelloFirst] <;> infer_instance

/-! ## The invariant -/

/-- Everything that leads to the confirmation comes after the HELLO, and the
multiplexer expects no correlation before it. -/
structure Inv (state : State) : Prop where
  confirmed : IsAuthenticated state → HelloSeen state
  negotiated : state.session.serverHello = true → HelloSeen state
  starting : state.starter = .confirming → HelloSeen state
  responding : state.loop = .responding true → HelloSeen state
  unexpected : ∀ id ∈ state.session.correlated, HelloSeen state

theorem initial_inv (maxInFlightRequests frameSizeLimit : Nat) :
    Inv (initial maxInFlightRequests frameSizeLimit) where
  confirmed := by rintro (impossible | impossible) <;> contradiction
  negotiated impossible := nomatch impossible
  starting impossible := nomatch impossible
  responding impossible := nomatch impossible
  unexpected _ member := nomatch member

theorem Inv.of_seen {state : State} (seen : HelloSeen state) : Inv state where
  confirmed _ := seen
  negotiated _ := seen
  starting _ := seen
  responding _ := seen
  unexpected _ _ := seen

theorem isAuthenticated_confirm (state : State) :
    state.confirmAuthentication.dispatched = state.dispatched ∧
      state.confirmAuthentication.session = state.session := by
  unfold State.confirmAuthentication
  split <;> exact ⟨rfl, rfl⟩

section Steps

variable {state : State} {configured : Int} {final : State}

theorem Inv.quiet (inv : Inv state) (dispatched : final.dispatched = state.dispatched)
    (authenticated : IsAuthenticated final → IsAuthenticated state)
    (serverHello : final.session.serverHello = true → state.session.serverHello = true)
    (starter : final.starter = .confirming → state.starter = .confirming)
    (loop : final.loop = .responding true → state.loop = .responding true)
    (correlated : ∀ id ∈ final.session.correlated, id ∈ state.session.correlated) : Inv final := by
  have seen : HelloSeen state → HelloSeen final := by
    unfold HelloSeen
    rw [dispatched]
    exact id
  exact
    { confirmed := fun holds => seen (inv.confirmed (authenticated holds))
      negotiated := fun holds => seen (inv.negotiated (serverHello holds))
      starting := fun holds => seen (inv.starting (starter holds))
      responding := fun holds => seen (inv.responding (loop holds))
      unexpected := fun id member => seen (inv.unexpected id (correlated id member)) }

variable {data : Bytes}

theorem HelloSeen.cons (seen : HelloSeen state)
    (dispatched : final.dispatched = data :: state.dispatched) : HelloSeen final := by
  obtain ⟨hello, member, wellFormed⟩ := seen
  refine ⟨hello, ?_, wellFormed⟩
  rw [dispatched]
  exact List.mem_cons_of_mem _ member

theorem Inv.dispatchesQuietly (inv : Inv state) {loop : Loop}
    (notResponding : loop ≠ .responding true) :
    Inv { state with loop, dispatched := data :: state.dispatched } where
  confirmed holds := (inv.confirmed holds).cons rfl
  negotiated holds := (inv.negotiated holds).cons rfl
  starting holds := (inv.starting holds).cons rfl
  responding holds := absurd holds notResponding
  unexpected id member := (inv.unexpected id member).cons rfl

theorem frame_inv (inv : Inv state) (first : HelloFirst state (.frame data)) :
    Inv (next configured state (.frame data)) := by
  simp only [next]
  split
  case h_1 error failed => exact inv.dispatchesQuietly Loop.noConfusion
  case h_2 session response succeeded =>
    cases dispatched_of_ok succeeded with
    | hello capabilityIDs wellFormed _ => exact .of_seen ⟨data, List.mem_cons_self, _, wellFormed⟩
    | goAway => exact inv.dispatchesQuietly (by decide)
    | phase expected | final expected => exact .of_seen ((inv.unexpected _ expected).cons rfl)
    | push isPush =>
      rcases first with negotiated | notPush
      · exact .of_seen ((inv.negotiated negotiated).cons rfl)
      · rw [isPush] at notPush
        contradiction

theorem respond_inv (inv : Inv state) {response : Bool}
    (responding : state.loop = .responding response) :
    Inv (next configured state (.respond response)) := by
  simp only [next]
  split
  · rename_i counts
    have isResponse : response = true := (Bool.and_eq_true_iff.mp counts).2
    have seen : HelloSeen state := inv.responding (responding.trans (by rw [isResponse]))
    refine .of_seen ?_
    unfold HelloSeen
    rw [(isAuthenticated_confirm state).1]
    exact seen
  · exact inv.quiet rfl id id id (fun impossible => nomatch impossible) fun _ member => member

theorem step_inv {event : Event} (inv : Inv state) (first : HelloFirst state event)
    (stepped : step configured state event = some final) : Inv final := by
  obtain ⟨enabled, rfl⟩ := guarded_eq_some_iff.mp stepped
  cases event with
  | start =>
    refine inv.quiet rfl ?_ id (fun impossible => nomatch impossible)
      (fun impossible => nomatch impossible) fun _ member => member
    rintro (impossible | confirmed)
    · contradiction
    · exact Or.inr confirmed
  | frame => exact frame_inv inv first
  | respond => exact respond_inv inv enabled
  | stopReading =>
    exact inv.quiet rfl id id id (fun impossible => nomatch impossible) fun _ member => member
  | exitClosed =>
    refine inv.quiet rfl ?_ id id (fun impossible => nomatch impossible) fun _ member => member
    rintro (impossible | confirmed)
    · contradiction
    · exact Or.inr confirmed
  | closeState =>
    refine inv.quiet rfl ?_ id id id fun _ member => member
    rintro (impossible | confirmed)
    · contradiction
    · exact Or.inr confirmed
  | exitMux =>
    exact inv.quiet rfl id id id (fun impossible => nomatch impossible)
      fun _ member => nomatch member
  | takeHello => exact .of_seen (inv.negotiated enabled.2.1)
  | confirm =>
    refine .of_seen ?_
    unfold HelloSeen
    simp only [next]
    rw [(isAuthenticated_confirm state).1]
    exact inv.starting enabled
  | giveUp =>
    exact inv.quiet rfl id id (fun impossible => nomatch impossible) id fun _ member => member
  | close | cancel => exact inv.quiet rfl id id id id fun _ member => member
  | register => exact .of_seen (inv.confirmed (Or.inr enabled.1))

end Steps

/-- In every run in which no uncorrelated message of another kind comes before
the HELLO, an authenticated connection has dispatched a well-formed HELLO. -/
theorem authenticated_only_by_hello (configured : Int) (maxInFlightRequests frameSizeLimit : Nat)
    {events : List Event} {final : State}
    (first : Along (step configured) HelloFirst (initial maxInFlightRequests frameSizeLimit) events)
    (ran : run (step configured) (initial maxInFlightRequests frameSizeLimit) events = some final)
    (authenticated : IsAuthenticated final) : HelloSeen final :=
  (invariant_along Inv step_inv
    (initial_inv maxInFlightRequests frameSizeLimit) first ran).confirmed
    authenticated

def helloRun : List Event :=
  [.start, .frame (sampleHello maxMessageSize), .respond true, .takeHello,
    .confirm, .frame (sampleNotify 0), .respond true]

theorem helloRun_is_authenticated : ∃ final,
      run (step 0) (initial 256 transportMaxFrameSize) helloRun = some final ∧
      IsAuthenticated final ∧ HelloSeen final := by
  obtain ⟨final, ran, authenticated⟩ :
      ∃ final, run (step 0) (initial 256 transportMaxFrameSize) helloRun = some final ∧
        final.connState = .authenticated := by
    decide +kernel
  exact ⟨final, ran, Or.inl authenticated,
    authenticated_only_by_hello 0 256 transportMaxFrameSize (by decide +kernel) ran
      (Or.inl authenticated)⟩

private theorem not_wellFormedHello_of_messageType {data : Bytes} {frame : Frame}
    (decoded : decodeMessage data = .ok frame) (notHello : frame.messageType ≠ messageTypeHello)
    (hello : Hello) : ¬ WellFormedHello data hello := by
  intro wellFormed
  obtain ⟨other, _, _, decodedOther, _, isHello, _⟩ := wellFormed.decodes
  rw [decoded] at decodedOther
  obtain rfl := Except.ok.inj decodedOther
  exact notHello isHello

def notifyFirstRun : List Event :=
  [.start, .frame (sampleNotify 0), .respond true]

/-- A notification before the HELLO confirms the authentication. -/
theorem notification_authenticates_without_hello : ∃ final,
      run (step 0) (initial 256 transportMaxFrameSize) notifyFirstRun = some final ∧
      final.connState = .authenticated ∧ final.authConfirmed = true ∧
      ¬ HelloSeen final := by
  obtain ⟨final, ran, connState, authConfirmed, dispatched⟩ :
      ∃ final, run (step 0) (initial 256 transportMaxFrameSize) notifyFirstRun = some final ∧
        final.connState = .authenticated ∧ final.authConfirmed = true ∧
        final.dispatched = [sampleNotify 0] := by
    decide +kernel
  refine ⟨final, ran, connState, authConfirmed, ?_⟩
  rintro ⟨data, member, hello, wellFormed⟩
  rw [dispatched, List.mem_singleton] at member
  subst member
  have decoded : decodeMessage (sampleNotify 0) = .ok ⟨504, 0, 0, []⟩ := by
    decide +kernel
  exact not_wellFormedHello_of_messageType decoded (by decide) hello wellFormed

end FitzGo.Connection.Authentication
