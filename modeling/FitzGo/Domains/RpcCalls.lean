import FitzGo.Domains.RpcResponses
import FitzGo.Library.Table
import FitzGo.Library.Threads

/-!
# The calls of the RPC client

Whoever takes a call out of the maps of the client sends one outcome to its
cancellation channel. A cancellation leaves the call registered while the
broker, a timer or the loss of the connection decides its outcome.
-/

namespace FitzGo.Domains.RpcCalls

open StepMachine Threads

inductive CancellationOutcome
  | notRequested
  | requestNotSent
  | unsupported
  | queuedRemoved
  | forwarded
  | workerUnsupported
  | alreadyTerminal
  | unknown
  | forwardingFailed
  | unconfirmed
  | connectionClosed
  deriving DecidableEq

def lifecycleOutcome (value : UInt8) : Option CancellationOutcome :=
  if value = 1 then some .queuedRemoved
  else if value = 2 then some .forwarded
  else if value = 3 then some .workerUnsupported
  else if value = 4 then some .alreadyTerminal
  else if value = 5 then some .unknown
  else if value = 6 then some .forwardingFailed
  else none

variable {Id : Type}

/-- An `rpcIterator` with its stream and what its cancellation channel received.
The last four fields are about the run: the thread that took the call out of
`calls`, whether `Call` returned the iterator or an error, and whether a
response that ends the call or a cancellation has reached it. -/
structure Call (Id : Type) where
  correlationID : Id
  stream : ResponseStream
  iterator : Iterator
  completed : Bool
  cancellation : List CancellationOutcome
  cancellationClosed : Bool
  leftBy : Option Nat
  returned : Bool
  refused : Bool
  ended : Bool

def newCall (correlationID : Id) : Call Id where
  correlationID := correlationID
  stream := newResponseStream
  iterator := newIterator
  completed := false
  cancellation := []
  cancellationClosed := false
  leftBy := none
  returned := false
  refused := false
  ended := false

/-- The maps of the client. A call and its stream have one number, a timer has
its own. -/
structure Maps (Id : Type) where
  pendingRPCs : AList fun _ : Id => Nat
  calls : AList fun _ : Id => Nat
  cancelRequested : AList fun _ : Id => Bool
  cancelTimers : AList fun _ : Id => Nat

/-- The maps, what every timer that is running will finish, and every call there
ever was. -/
structure Client (Id : Type) where
  maps : Maps Id
  timers : List (Option Id)
  objects : List (Call Id)

def Maps.empty : Maps Id where
  pendingRPCs := ∅
  calls := ∅
  cancelRequested := ∅
  cancelTimers := ∅

def newClient : Client Id where
  maps := Maps.empty
  timers := []
  objects := []

/-- The sections. `finishCall` is always followed by the close of the stream
that its caller holds, and so it carries that stream and its error. -/
inductive Action (Id : Type)
  | register (id : Id)
  | submit (call : Nat)
  | setStopContext (call : Nat)
  | handleRPCResponse (id : Id) (payload : Bytes)
  | enqueue (call : Nat) (frame : ResponseFrame)
  | closeStream (call : Nat) (error : Option StreamError)
  | finishCall (id : Id) (outcome : CancellationOutcome) (stream : Nat) (error : Option StreamError)
  | complete (call : Nat) (outcome : CancellationOutcome)
  | send (call : Nat) (outcome : CancellationOutcome)
  | closeCancellation (call : Nat)
  | next (call : Nat)
  | cancelPendingRPC (id : Id)
  | startTimer (id : Id) (call : Nat) (stream : Option Nat)
  | storeTimer (id : Id) (call timer : Nat) (stream : Option Nat)
  | sendCancellation (id : Id) (stream : Option Nat)
  | finishCancellation (id : Id) (outcome : CancellationOutcome)
  | stopTimer (timer : Nat)
  | closePendingRPCs
  deriving DecidableEq

inductive SendResult
  | ok
  | connectionClosed
  | failed

/-- What the environment decides during a section: how a write ends, whether the
connection supports cancellation, how the caller's context stands, whether there
are invocations of workers, and in which order the ranges over the maps go. -/
structure Choice where
  sent : SendResult := .ok
  supportsRPCCancellation : Bool := true
  context : Option ContextError := none
  activeInvocations : Bool := false
  timers : List Nat := []
  calls : List Nat := []
  pending : List Nat := []

/-- A response is what the dispatch loop hands on. `contextDone` is the end of
the caller's context, and may reach the client at any time. -/
inductive Operation (Id : Type)
  | call (id : Id)
  | response (id : Id) (payload : Bytes)
  | lifecycle (kind : UInt8) (id : Id) (value : UInt8)
  | next (call : Nat)
  | close (call : Nat)
  | contextDone (call : Nat)
  | timer (timer : Nat)
  | connectionLost

def Client.adjust (client : Client Id) (which : List Nat)
    (change : Call Id → Call Id) : Client Id :=
  { client with
    objects := client.objects.mapIdx fun number call =>
      if number ∈ which then change call else call }

def Client.ids (client : Client Id) : List Id :=
  client.objects.map Call.correlationID

theorem Client.ids_getElem? {client : Client Id} {number : Nat} {call : Call Id}
    (here : client.objects[number]? = some call) :
    client.ids[number]? = some call.correlationID := by
  unfold Client.ids
  rw [List.getElem?_map, here]
  rfl

@[simp]
theorem Client.objects_adjust (client : Client Id) (which : List Nat)
    (change : Call Id → Call Id) (number : Nat) :
    (client.adjust which change).objects[number]? = client.objects[number]?.map fun call =>
        if number ∈ which then change call else call := by
  unfold Client.adjust
  exact List.getElem?_mapIdx

@[simp]
theorem Client.maps_adjust (client : Client Id) (which : List Nat)
    (change : Call Id → Call Id) : (client.adjust which change).maps = client.maps :=
  rfl

theorem Client.ids_adjust (client : Client Id) (which : List Nat) {change : Call Id → Call Id}
    (same : ∀ call, (change call).correlationID = call.correlationID) :
    (client.adjust which change).ids = client.ids := by
  refine List.ext_getElem? fun number => ?_
  unfold Client.ids
  rw [List.getElem?_map, List.getElem?_map, Client.objects_adjust, Option.map_map]
  congr 1
  funext call
  rw [Function.comp_apply]
  split
  · exact same call
  · rfl

def Call.leave (thread : Nat) (call : Call Id) : Call Id :=
  { call with leftBy := some thread }

def Call.finish (call : Call Id) : Call Id :=
  { call with ended := true }

def Call.refuse (call : Call Id) : Call Id :=
  { call with refused := true }

def Call.shut (call : Call Id) : Call Id :=
  { call with
    iterator := { call.iterator with done := true }
    ended := true }

/-- The frame and the end of the stream that a valid payload brings; whether the
call ends with it. -/
def reactTo (id : Id) (stream : Nat) (payload : Bytes) : Bool × List (Action Id) :=
  match decodeRPCResponsePayload payload with
  | .error error => (true, [.finishCall id .notRequested stream (some (.malformed error))])
  | .ok response =>
    match response.terminalErr with
    | some error => (true, [.finishCall id .notRequested stream (some (mapRPCError error))])
    | none =>
      (response.streamEnd, (if ¬ response.streamEnd ∨ response.body ≠ [] then
          [.enqueue stream { body := response.body, sequence := response.sequence }]
        else []) ++
        (if response.streamEnd then [.finishCall id .notRequested stream none]
        else []))

theorem mem_reactTo {id : Id} {stream : Nat} {payload : Bytes}
    {other : Action Id} (member : other ∈ (reactTo id stream payload).2) :
    (∃ frame, other = .enqueue stream frame) ∨
      ∃ error, other = .finishCall id .notRequested stream error ∧
      (reactTo id stream payload).1 = true := by
  unfold reactTo at member ⊢
  cases decoded : decodeRPCResponsePayload payload with
  | error error =>
    simp only [decoded] at member ⊢
    exact Or.inr ⟨_, List.mem_singleton.mp member, trivial⟩
  | ok response =>
    simp only [decoded] at member ⊢
    cases terminal : response.terminalErr with
    | some error =>
      simp only [terminal] at member ⊢
      exact Or.inr ⟨_, List.mem_singleton.mp member, trivial⟩
    | none =>
      simp only [terminal] at member ⊢
      rcases List.mem_append.mp member with frame | last
      · split at frame
        · exact Or.inl ⟨_, List.mem_singleton.mp frame⟩
        · cases frame
      · split at last
        next ends => exact Or.inr ⟨none, List.mem_singleton.mp last, ends⟩
        · cases last

variable [DecidableEq Id]

/-! ## The sections of the client's lock -/

def Maps.register (maps : Maps Id) (id : Id) (call : Nat) : Maps Id :=
  { maps with
    pendingRPCs := maps.pendingRPCs.insert id call
    calls := maps.calls.insert id call }

def Maps.dropPending (maps : Maps Id) (id : Id) : Maps Id :=
  { maps with pendingRPCs := maps.pendingRPCs.erase id }

def Maps.drop (maps : Maps Id) (id : Id) : Maps Id where
  pendingRPCs := maps.pendingRPCs.erase id
  calls := maps.calls.erase id
  cancelRequested := maps.cancelRequested.erase id
  cancelTimers := maps.cancelTimers.erase id

def Maps.request (maps : Maps Id) (id : Id) : Maps Id :=
  { maps with cancelRequested := maps.cancelRequested.insert id true }

def Maps.storeTimer (maps : Maps Id) (id : Id) (timer : Nat) : Maps Id :=
  { maps with cancelTimers := maps.cancelTimers.insert id timer }

def Maps.requested (maps : Maps Id) (id : Id) : Bool :=
  (maps.cancelRequested.lookup id).getD false

def Client.register (client : Client Id) (id : Id) : Client Id × List (Action Id) :=
  ({ client with
      maps := client.maps.register id client.objects.length
      objects := client.objects ++ [newCall id] },
    [.submit client.objects.length])

def Client.handleRPCResponse (client : Client Id) (id : Id)
    (payload : Bytes) : Client Id × List (Action Id) :=
  if payload = [] then (client, [])
  else
    match client.maps.pendingRPCs.lookup id with
    | none => (client, [])
    | some stream =>
      let reaction := reactTo id stream payload
      (if reaction.1 then client.adjust [stream] Call.finish else client, reaction.2)

/-- A call whose cancellation is under way stays registered. -/
def Client.finishCall (client : Client Id) (thread : Nat) (id : Id) (outcome : CancellationOutcome)
    (stream : Nat) (error : Option StreamError) : Client Id × List (Action Id) :=
  if client.maps.requested id then
    ({ client with maps := client.maps.dropPending id }, [.closeStream stream error])
  else
    let call := (client.maps.calls.lookup id).toList
    let timer := (client.maps.cancelTimers.lookup id).toList
    (({ client with maps := client.maps.drop id }).adjust call (Call.leave thread),
      timer.map .stopTimer ++ call.map (.complete · outcome) ++ [.closeStream stream error])

def Client.finishCancellation (client : Client Id) (thread : Nat) (id : Id)
    (outcome : CancellationOutcome) : Client Id × List (Action Id) :=
  let call := (client.maps.calls.lookup id).toList
  let stream := (client.maps.pendingRPCs.lookup id).toList
  let timer := (client.maps.cancelTimers.lookup id).toList
  ((({ client with maps := client.maps.drop id }).adjust call
      (Call.leave thread)).adjust stream Call.finish,
    timer.map .stopTimer ++ stream.map (.closeStream · none) ++ call.map (.complete · outcome))

def Client.cancelPendingRPC (client : Client Id) (id : Id) : Client Id × List (Action Id) :=
  match client.maps.calls.lookup id with
  | none =>
    let stream := (client.maps.pendingRPCs.lookup id).toList
    (({ client with maps := client.maps.dropPending id }).adjust stream Call.finish,
      stream.map (.closeStream · none))
  | some call =>
    if client.maps.requested id then (client, [])
    else
      (({ client with maps := client.maps.request id }).adjust [call] Call.finish,
        [.startTimer id call (client.maps.pendingRPCs.lookup id)])

/-- The second section of `cancelPendingRPC`: the call may have left in the
meantime. -/
def Client.storeTimer (client : Client Id) (id : Id) (call timer : Nat)
    (stream : Option Nat) : Client Id × List (Action Id) :=
  if client.maps.calls.lookup id ≠ some call then (client, [.stopTimer timer])
  else ({ client with maps := client.maps.storeTimer id timer }, [.sendCancellation id stream])

def Client.sendCancellation (client : Client Id) (id : Id)
    (stream : Option Nat) : SendResult → Client Id × List (Action Id)
  | .ok => (client, stream.toList.map (.closeStream · none))
  | .connectionClosed => (client, [.finishCancellation id .connectionClosed])
  | .failed => (client, [.finishCancellation id .unconfirmed])

def Ranges (order : List Nat) (table : AList fun _ : Id => Nat) : Prop :=
  order.Perm (Table.values table)

instance (order : List Nat) (table : AList fun _ : Id => Nat) : Decidable (Ranges order table) := by
  unfold Ranges
  infer_instance

def Client.closePendingRPCs (client : Client Id) (thread : Nat)
    (choice : Choice) : Option (Client Id × List (Action Id)) :=
  if client.maps.pendingRPCs.entries = [] ∧ client.maps.calls.entries = [] ∧
      ¬ choice.activeInvocations then
    some (client, [])
  else if Ranges choice.timers client.maps.cancelTimers ∧
      Ranges choice.calls client.maps.calls ∧
      Ranges choice.pending client.maps.pendingRPCs then
    some
      (({ client with maps := Maps.empty }).adjust choice.calls (Call.leave thread),
        choice.timers.map .stopTimer ++ choice.calls.map (.complete · .connectionClosed) ++
          choice.pending.map (.closeStream · (some .connectionClosed)))
  else none

/-! ## The machine -/

/-- A section is not enabled while `Next` waits, for a correlation id that was
used before and for an order that is not one of the map's. -/
def perform (client : Client Id) (thread : Nat) (action : Action Id)
    (choice : Choice) : Option (Client Id × List (Action Id)) :=
  match action with
  | .register id =>
    if id ∈ client.ids then none
    else some (client.register id)
  | .submit number =>
    match client.objects[number]?, choice.sent with
    | none, _ => none
    | some _, .ok => some (client, [.setStopContext number])
    | some call, _ =>
      some
        (client.adjust [number] Call.refuse,
          [.finishCall call.correlationID .requestNotSent number none])
  | .setStopContext number =>
    some (client.adjust [number] fun call => { call with returned := true }, [])
  | .handleRPCResponse id payload => some (client.handleRPCResponse id payload)
  | .enqueue number frame =>
    some (client.adjust [number] fun call => { call with stream := call.stream.enqueue frame }, [])
  | .closeStream number error =>
    some (client.adjust [number] fun call =>
      { call with stream := call.stream.closeWithError error }, [])
  | .finishCall id outcome stream error => some (client.finishCall thread id outcome stream error)
  | .complete number outcome =>
    match client.objects[number]? with
    | none => none
    | some call =>
      if call.completed then some (client, [])
      else
        some
          (client.adjust [number] fun call =>
            { call with completed := true },
            [.send number outcome])
  | .send number outcome =>
    some
      (client.adjust [number] fun call =>
        { call with cancellation := call.cancellation ++ [outcome] },
        [.closeCancellation number])
  | .closeCancellation number =>
    some (client.adjust [number] fun call => { call with cancellationClosed := true }, [])
  | .next number =>
    match client.objects[number]? with
    | none => none
    | some call =>
      match call.iterator.next choice.context call.stream with
      | none => none
      | some (_, stream, iterator) =>
        some
          (client.adjust [number] fun call =>
            { call with stream := stream, iterator := iterator },
            if choice.context = none then []
            else [.cancelPendingRPC call.correlationID])
  | .cancelPendingRPC id => some (client.cancelPendingRPC id)
  | .startTimer id call stream =>
    if choice.supportsRPCCancellation then
      some ({ client with timers := client.timers ++ [some id] },
        [.storeTimer id call client.timers.length stream])
    else some (client, [.finishCancellation id .unsupported])
  | .storeTimer id call timer stream => some (client.storeTimer id call timer stream)
  | .sendCancellation id stream => some (client.sendCancellation id stream choice.sent)
  | .finishCancellation id outcome => some (client.finishCancellation thread id outcome)
  | .stopTimer timer => some ({ client with timers := client.timers.set timer none }, [])
  | .closePendingRPCs => client.closePendingRPCs thread choice

/-- Only an iterator that `Call` returned can be used. `Close` sets `done` as
it starts. -/
def start (client : Client Id) : Operation Id → Option (Client Id × List (Action Id))
  | .call id => some (client, [.register id])
  | .response id payload => some (client, [.handleRPCResponse id payload])
  | .lifecycle kind id value =>
    if kind ≠ 4 then some (client, [])
    else
      match lifecycleOutcome value with
      | none => some (client, [])
      | some outcome => some (client, [.finishCancellation id outcome])
  | .next number =>
    match client.objects[number]? with
    | none => none
    | some call => if call.returned then some (client, [.next number]) else none
  | .close number =>
    match client.objects[number]? with
    | none => none
    | some call =>
      if call.returned then
        some
          (client.adjust [number] Call.shut,
            [.closeStream number none, .cancelPendingRPC call.correlationID])
      else none
  | .contextDone number =>
    match client.objects[number]? with
    | none => none
    | some call => some (client, [.cancelPendingRPC call.correlationID])
  | .timer timer =>
    match client.timers[timer]? with
    | some (some id) =>
      some ({ client with timers := client.timers.set timer none },
        [.finishCancellation id .unconfirmed])
    | _ => none
  | .connectionLost => some (client, [.closePendingRPCs])

def machine : Machine (Client Id) (Operation Id) (Action Id) Choice where
  start := start
  perform := perform

abbrev State (Id : Type) := System (Client Id) (Action Id)

def initial : State Id := System.idle newClient

end FitzGo.Domains.RpcCalls
