import FitzGo.Connection.MessageLimit
import FitzGo.Library.StepMachine

/-!
# The send functions of a connection

A send checks that the connection is authenticated, takes a slot, draws a
correlation id, encodes its frame, and writes it under `writeMu`. Only a
request registers its id in the multiplexer, before it writes.

A `select` may choose any ready case. Histories keep the frames written, the ids
of the final frames dispatched, and the errors recorded.
-/

namespace FitzGo.Connection.Sending

open StepMachine Protocol Handshake

/-! ## Calls -/

inductive ConnError
  | decodeFrame (error : DispatchError)
  | read (error : Nat)
  | heartbeatFailed (error : Nat)
  deriving DecidableEq

inductive CallError
  | notAuthenticated
  | context
  | terminal (error : ConnError)
  | connectionClosed
  | requestQueueFull
  | correlationIDsExhausted
  | send (error : SendError)
  | registerCorrelatedRequest
  | write
  deriving DecidableEq

inductive Outcome
  | response
  | sent
  | failed (error : CallError)
  deriving DecidableEq

/-- Where a call is: at the first select of the admission, past its default
case, with a slot, with an id, with a frame, holding `writeMu`, waiting for its
response, with its result and the slot still held, or back. -/
inductive Phase
  | idle
  | admitting
  | queued
  | holding
  | numbered (id : UInt64)
  | framed (id : UInt64)
  | writing (id : UInt64) (emitted : Bool)
  | awaiting (id : UInt64)
  | leaving (outcome : Outcome)
  | returned (outcome : Outcome)
  deriving DecidableEq

def isRequest : SendKind → Bool
  | .request | .requestWithWriter => true
  | .fireAndForget | .fireAndForgetWithWriter => false

def fireAndForgetNeedsCorrelation (messageType : UInt16) (payload : Bytes) : Bool :=
  if messageType < messageTypeRpcSubscribeWorker ∨ messageTypeRpcLifecycle < messageType then false
  else if messageType = messageTypeRpcResponse ∨ messageType = messageTypeRpcLifecycle then false
  else if messageType = messageTypeRpcCancellation then payload.head? = some 1
  else true

/-- The arguments of a call with its local state. `alive` says that its context
has not ended; `authenticated` and `late` that the call found the connection
authenticated, and its loop ended. -/
structure Call where
  kind : SendKind
  messageType : UInt16
  flags : UInt8
  payload : Bytes
  alive : Bool
  authenticated : Bool
  late : Bool
  phase : Phase

def Call.unused : Call := ⟨.request, 0, 0, [], true, false, false, .idle⟩

def Call.correlates (call : Call) : Bool :=
  isRequest call.kind || fireAndForgetNeedsCorrelation call.messageType call.payload

/-! ## The connection -/

inductive Loop
  | running
  | exiting
  | muxClosed
  | done
  deriving DecidableEq

structure Sent where
  call : Nat
  kind : SendKind
  id : UInt64
  deriving DecidableEq

structure State where
  session : Session
  loop : Loop
  authConfirmed : Bool
  connError : Option ConnError
  -- a request slot, and a write slot, is free
  slotFree : Bool → Bool
  writer : Option Nat
  issued : Nat
  calls : Nat → Call
  wire : List Sent
  finals : List UInt64
  recorded : List ConnError

def initial (maxInFlightRequests frameSizeLimit : Nat) : State where
  session := Session.new maxInFlightRequests frameSizeLimit
  loop := .running
  authConfirmed := false
  connError := none
  slotFree _ := true
  writer := none
  issued := 0
  calls _ := .unused
  wire := []
  finals := []
  recorded := []

/-- A frame that would take its id out of the correlated map. -/
def finalID (data : Bytes) : Option UInt64 :=
  match decodeFrame data with
  | .error _ => none
  | .ok (frame, _, _) =>
    if frame.correlationID ≠ 0 ∧ frame.flags &&& flagResponseFinal ≠ 0 then some frame.correlationID
    else none

inductive Event
  | frame (data : Bytes)
  | readError (error : Option Nat)
  | closeMultiplexer
  | closeDone
  | confirmAuthentication
  | heartbeatFailed (error : Nat)
  | slots (request free : Bool)
  | expire (index : Nat)
  | call (kind : SendKind) (messageType : UInt16) (flags : UInt8) (payload : Bytes)
  | take (index : Nat)
  | refuse (index : Nat)
  | cancel (index : Nat)
  | pass (index : Nat)
  | queueFull (index : Nat)
  | nextCorrelationID (index : Nat)
  | encode (index : Nat) (id : UInt64)
  | lockWriter (index : Nat) (id : UInt64)
  | emit (index : Nat) (id : UInt64)
  | writeReturns (index : Nat) (id : UInt64) (emitted ok : Bool)
  | finish (index : Nat) (id : UInt64) (outcome : Outcome)
  | leave (index : Nat) (outcome : Outcome)

namespace State

def setCall (state : State) (index : Nat) (call : Call) : State :=
  { state with calls := Function.update state.calls index call }

def setPhase (state : State) (index : Nat) (phase : Phase) : State :=
  state.setCall index { state.calls index with phase }

theorem calls_setCall (state : State) (index : Nat) (call : Call) (other : Nat) :
    other = index ∧ (state.setCall index call).calls other = call ∨
      (state.setCall index call).calls other = state.calls other := by
  by_cases equal : other = index
  · subst equal
    exact .inl ⟨rfl, Function.update_self _ _ _⟩
  · exact .inr (Function.update_of_ne equal _ _)

theorem calls_setPhase (state : State) (index : Nat) (phase : Phase) (other : Nat) :
    other = index ∧ (state.setPhase index phase).calls other = { state.calls index with phase } ∨
      (state.setPhase index phase).calls other = state.calls other :=
  state.calls_setCall index _ other

@[simp]
theorem phase_setPhase (state : State) (index : Nat) (phase : Phase) :
    ((state.setPhase index phase).calls index).phase = phase := by
  have changed : (state.setPhase index phase).calls index = { state.calls index with phase } :=
    Function.update_self _ _ _
  rw [changed]

def setConnError (state : State) (error : ConnError) : State :=
  { state with
    connError := some error
    recorded := error :: state.recorded }

def Closed (state : State) : Prop :=
  state.loop = .muxClosed ∨ state.loop = .done

instance (state : State) : Decidable state.Closed :=
  inferInstanceAs (Decidable (_ ∨ _))

theorem not_closed_of_running
    {state : State} (running : state.loop = .running) : ¬ state.Closed := by
  unfold Closed
  rw [running]
  exact nofun

def free (state : State) (index : Nat) : Bool :=
  state.slotFree (isRequest (state.calls index).kind)

/-- The call is at one of the two selects of the admission. -/
def Selecting (state : State) (index : Nat) : Prop :=
  (state.calls index).phase = .admitting ∨ (state.calls index).phase = .queued

instance (state : State) (index : Nat) : Decidable (state.Selecting index) :=
  inferInstanceAs (Decidable (_ ∨ _))

def outboundAdmissionError (state : State) (index : Nat) : CallError :=
  match state.connError with
  | some error => .terminal error
  | none =>
    if (state.calls index).alive then .connectionClosed else .context

def dispatch (configured : Int) (state : State) (data : Bytes) : State :=
  match dispatchTransportFrame configured state.session data with
  | .error error => { state.setConnError (.decodeFrame error) with loop := .exiting }
  | .ok (session, response) =>
    { state with
      session
      authConfirmed := state.authConfirmed || response
      finals := (finalID data).toList ++ state.finals }

def handleReadError (state : State) (error : Option Nat) : State :=
  match error with
  | none => { state with loop := .exiting }
  | some error => { state.setConnError (.read error) with loop := .exiting }

def closeMultiplexer (state : State) : State :=
  { state with
    loop := .muxClosed
    session := { state.session with
        protocolVersion := 0
        capabilities := 0
        activeCapabilityIDs := 0
        correlated := [] } }

def startCall (state : State) (kind : SendKind) (messageType : UInt16)
    (flags : UInt8) (payload : Bytes) : Call where
  kind
  messageType
  flags
  payload
  alive := true
  authenticated := state.authConfirmed
  late := decide (state.loop = .done)
  phase :=
    if state.authConfirmed then .admitting
    else .returned (.failed .notAuthenticated)

def newCall (state : State) (call : Call) : State :=
  { state.setCall state.issued call with issued := state.issued + 1 }

theorem calls_newCall (state : State) (call : Call) (other : Nat) :
    other = state.issued ∧ (state.newCall call).calls other = call ∨
      (state.newCall call).calls other = state.calls other :=
  state.calls_setCall state.issued call other

def nextCorrelationID (state : State) (index : Nat) : State :=
  if (state.calls index).correlates then
    if state.session.nextCorrelationID = 2 ^ 64 - 1 then
      state.setPhase index (.leaving (.failed .correlationIDsExhausted))
    else
      let id := state.session.nextCorrelationID + 1
      { state.setPhase index (.numbered (UInt64.ofNat id)) with
        session := { state.session with nextCorrelationID := id } }
  else state.setPhase index (.numbered 0)

def encode (state : State) (index : Nat) (id : UInt64) : State :=
  let call := state.calls index
  match
    outboundFrame state.session call.kind call.messageType call.flags id call.payload
  with
  | .error error => state.setPhase index (.leaving (.failed (.send error)))
  | .ok _ => state.setPhase index (.framed id)

/-- The call gets `writeMu`; a request registers its id first thing, and gives
the mutex back if it cannot. -/
def lockWriter (state : State) (index : Nat) (id : UInt64) : State :=
  if isRequest (state.calls index).kind then
    if state.Closed ∨ id ∈ state.session.correlated then
      state.setPhase index (.leaving (.failed .registerCorrelatedRequest))
    else
      { state.setPhase index (.writing id false) with
        writer := some index
        session := { state.session with correlated := id :: state.session.correlated } }
  else { state.setPhase index (.writing id false) with writer := some index }

def emit (state : State) (index : Nat) (id : UInt64) : State :=
  { state.setPhase index (.writing id true) with
    wire := ⟨index, (state.calls index).kind, id⟩ :: state.wire }

/-- The write is over. A request that failed to write leaves its id behind as
a tombstone. -/
def writeReturns (state : State) (index : Nat) (id : UInt64) (ok : Bool) : State :=
  let phase :=
    if ok then
      if isRequest (state.calls index).kind then .awaiting id
      else .leaving .sent
    else .leaving (.failed .write)
  { state.setPhase index phase with writer := none }

/-- What a waiting request may end with; a cancelled one leaves a tombstone
too. -/
def MayFinish (state : State) (index : Nat) : Outcome → Prop
  | .response => True
  | .failed .context => (state.calls index).alive = false
  | .failed (.terminal error) => state.connError = some error
  | .failed .connectionClosed => state.connError = none ∧ state.Closed
  | _ => False

instance (state : State) (index : Nat) (outcome : Outcome) :
    Decidable (state.MayFinish index outcome) := by
  unfold MayFinish
  split <;> infer_instance

end State

def Enabled (state : State) : Event → Prop
  | .frame _ => state.loop = .running
  | .readError _ => state.loop = .running
  | .closeMultiplexer => state.loop = .exiting
  | .closeDone => state.loop = .muxClosed
  | .confirmAuthentication => state.session.serverHello = true
  | .heartbeatFailed _ => True
  | .slots _ _ => True
  | .expire index => (state.calls index).phase ≠ .idle
  | .call _ _ _ _ => True
  | .take index =>
    (state.calls index).phase = .admitting ∧ state.free index = true ∨
      (state.calls index).phase = .queued
  | .refuse index => state.Selecting index ∧ state.loop = .done
  | .cancel index => state.Selecting index ∧ (state.calls index).alive = false
  | .pass index =>
    (state.calls index).phase = .admitting ∧ state.free index = false ∧
      state.loop ≠ .done ∧ (state.calls index).alive = true
  | .queueFull index => (state.calls index).phase = .queued
  | .nextCorrelationID index => (state.calls index).phase = .holding
  | .encode index id => (state.calls index).phase = .numbered id
  | .lockWriter index id => (state.calls index).phase = .framed id ∧ state.writer = none
  | .emit index id => (state.calls index).phase = .writing id false
  | .writeReturns index id emitted ok =>
    (state.calls index).phase = .writing id emitted ∧ (ok = true → emitted = true)
  | .finish index id outcome =>
    (state.calls index).phase = .awaiting id ∧ state.MayFinish index outcome
  | .leave index outcome => (state.calls index).phase = .leaving outcome

instance (state : State) (event : Event) : Decidable (Enabled state event) := by
  cases event <;> dsimp only [Enabled] <;> infer_instance

def next (configured : Int) (state : State) : Event → State
  | .frame data => state.dispatch configured data
  | .readError error => state.handleReadError error
  | .closeMultiplexer => state.closeMultiplexer
  | .closeDone => { state with loop := .done }
  | .confirmAuthentication => { state with authConfirmed := true }
  | .heartbeatFailed error => state.setConnError (.heartbeatFailed error)
  | .slots request free => { state with slotFree := Function.update state.slotFree request free }
  | .expire index => state.setCall index { state.calls index with alive := false }
  | .call kind messageType flags payload =>
    state.newCall (state.startCall kind messageType flags payload)
  | .take index => state.setPhase index .holding
  | .refuse index => state.setPhase index (.returned (.failed (state.outboundAdmissionError index)))
  | .cancel index => state.setPhase index (.returned (.failed .context))
  | .pass index => state.setPhase index .queued
  | .queueFull index => state.setPhase index (.returned (.failed .requestQueueFull))
  | .nextCorrelationID index => state.nextCorrelationID index
  | .encode index id => state.encode index id
  | .lockWriter index id => state.lockWriter index id
  | .emit index id => state.emit index id
  | .writeReturns index id _ ok => state.writeReturns index id ok
  | .finish index _ outcome => state.setPhase index (.leaving outcome)
  | .leave index outcome => state.setPhase index (.returned outcome)

/-- `configured` is the `MaxMessageBytes` of the configuration. -/
def step (configured : Int) : State → Event → Option State :=
  guarded Enabled (next configured)

end FitzGo.Connection.Sending
