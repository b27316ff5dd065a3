import FitzGo.Library.Table
import FitzGo.Library.Threads

/-!
# The invocations of an RPC worker

The callback of a REQUEST stores its cancel function and reads in the same
section whether a cancellation was requested before. After the handler it
writes the terminal RESPONSE and a cleanup acknowledgement. The pool drops a
job without running its closure when the job's context has expired.
-/

namespace FitzGo.Domains.RpcInvocations

open StepMachine Threads

inductive Handler
  | notStarted
  | running
  | returned
  deriving DecidableEq

/-- The async job of an invocation. A job that was rejected or run has the
thread of the request or of the pool. -/
inductive Job
  | unlaunched
  | queued
  | rejected (thread : Nat)
  | taken
  | running (thread : Nat)
  | dropped
  deriving DecidableEq

variable {Id : Type}

/-- An `activeRPCInvocation` with its correlation id, the state of the contexts
of its job and of its request, its job and its handler. -/
structure Invocation (Id : Type) where
  correlationID : Id
  cancelStored : Bool
  cancellationRequested : Bool
  canceled : Bool
  timedOut : Bool
  budgetExpired : Bool
  job : Job
  handler : Handler
  deriving DecidableEq

def newInvocation (correlationID : Id) : Invocation Id where
  correlationID := correlationID
  cancelStored := false
  cancellationRequested := false
  canceled := false
  timedOut := false
  budgetExpired := false
  job := .unlaunched
  handler := .notStarted

def Invocation.contextDone (invocation : Invocation Id) : Bool :=
  invocation.canceled || invocation.timedOut || invocation.budgetExpired

inductive Frame (Id : Type)
  | terminalResponse (id : Id)
  | cleanupAck (id : Id)
  deriving DecidableEq

structure Client (Id : Type) where
  activeInvocations : AList fun _ : Id => Nat
  invocations : List (Invocation Id)
  written : List (Frame Id)

def newClient : Client Id where
  activeInvocations := ∅
  invocations := []
  written := []

inductive Part
  | launch
  | storeCancel
  | checkContext
  | callHandler
  | handlerReturn
  | checkCancellation
  | finishCanceled
  | finishWorkerInvocation
  deriving DecidableEq

inductive Action (Id : Type)
  | activate (id : Id)
  | work (number : Nat) (part : Part)
  | sendTerminal (id : Id)
  | sendWorkerCleanupAck (id : Id)
  | cancelNotice (id : Id)
  | cancel (number : Nat)
  | closePendingRPCs
  deriving DecidableEq

/-- What the environment decides during a section: whether the pool accepts the
job, whether the connection supports cancellation, whether a write succeeds, and
the order of the range over the active invocations. -/
structure Choice where
  accepted : Bool := true
  supportsRPCCancellation : Bool := true
  sent : Bool := true
  order : List Nat := []

/-- `request` is a REQUEST that parses and matches a worker. `takeJob` and
`dropJob` are the pool's, and `timeOut` and `expireBudget` the passing of the
handler timeout and of the budget. -/
inductive Operation (Id : Type)
  | request (id : Id)
  | takeJob (number : Nat)
  | dropJob (number : Nat)
  | timeOut (number : Nat)
  | expireBudget (number : Nat)
  | lifecycle (kind : UInt8) (id : Id) (value : UInt8)
  | connectionLost

def Client.adjust (client : Client Id) (which : List Nat)
    (change : Invocation Id → Invocation Id) : Client Id :=
  { client with
    invocations := client.invocations.mapIdx fun number invocation =>
      if number ∈ which then change invocation else invocation }

@[simp]
theorem Client.invocations_adjust (client : Client Id) (which : List Nat)
    (change : Invocation Id → Invocation Id) (number : Nat) :
    (client.adjust which change).invocations[number]? =
      client.invocations[number]?.map fun invocation =>
        if number ∈ which then change invocation else invocation := by
  unfold Client.adjust
  exact List.getElem?_mapIdx

theorem Client.invocations_adjust_of_ne (client : Client Id) {number other : Nat}
    (different : number ≠ other) (change : Invocation Id → Invocation Id) :
    (client.adjust [other] change).invocations[number]? = client.invocations[number]? := by
  rw [Client.invocations_adjust]
  simp only [List.mem_singleton, if_neg different, Option.map_id']

variable {client : Client Id} {number : Nat}

theorem Client.invocations_adjust_self
    {invocation : Invocation Id} (present : client.invocations[number]? = some invocation)
    (change : Invocation Id → Invocation Id) :
    (client.adjust [number] change).invocations[number]? = some (change invocation) := by
  rw [Client.invocations_adjust, present, Option.map_some, if_pos List.mem_cons_self]

def Client.ids (client : Client Id) : List Id :=
  client.invocations.map Invocation.correlationID

theorem Client.ids_getElem? {invocation : Invocation Id}
    (present : client.invocations[number]? = some invocation) :
    client.ids[number]? = some invocation.correlationID := by
  unfold Client.ids
  rw [List.getElem?_map, present]
  rfl

theorem Client.ids_eq_none_iff :
    client.ids[number]? = none ↔ client.invocations[number]? = none := by
  unfold Client.ids
  rw [List.getElem?_map, Option.map_eq_none_iff]

theorem Client.ids_adjust (client : Client Id) {which : List Nat}
    {change : Invocation Id → Invocation Id}
    (same : ∀ {number invocation}, number ∈ which → client.invocations[number]? = some invocation →
      (change invocation).correlationID = invocation.correlationID) :
    (client.adjust which change).ids = client.ids := by
  refine List.ext_getElem? fun number => ?_
  unfold Client.ids
  rw [List.getElem?_map, List.getElem?_map, Client.invocations_adjust]
  cases present : client.invocations[number]? with
  | none => rfl
  | some invocation =>
    rw [Option.map_some, Option.map_some, Option.map_some]
    split
    next member => rw [same member present]
    · rfl

def Invocation.setJob (job : Job) (invocation : Invocation Id) : Invocation Id :=
  { invocation with job }

def Invocation.setHandler (handler : Handler) (invocation : Invocation Id) : Invocation Id :=
  { invocation with handler }

/-- The callback stores its cancel function, and calls it when a cancellation
was requested before. -/
def Invocation.store (thread : Nat) (invocation : Invocation Id) : Invocation Id :=
  { invocation with
    job := .running thread
    cancelStored := true
    canceled := invocation.canceled || invocation.cancellationRequested }

/-- A cancel notice or `ClosePendingRPCs` marks an active invocation. -/
def Invocation.requestCancellation (invocation : Invocation Id) : Invocation Id :=
  { invocation with cancellationRequested := true }

def Invocation.settle (invocation : Invocation Id) (number : Nat) : List (Action Id) :=
  [.sendTerminal invocation.correlationID, .work number .finishWorkerInvocation,
    .sendWorkerCleanupAck invocation.correlationID]

/-- What `handleWorkerRequest` and its callback do with their invocation, section
by section: whether it is still active is read under the lock. -/
def Invocation.work (invocation : Invocation Id) (number thread : Nat)
    (active accepted : Bool) : Part → Invocation Id × List (Action Id)
  | .launch =>
    if accepted then (invocation.setJob .queued, [])
    else
      (invocation.setJob (.rejected thread), [.work number .finishWorkerInvocation,
          .sendTerminal invocation.correlationID,
          .sendWorkerCleanupAck invocation.correlationID])
  | .storeCancel =>
    (invocation.store thread,
      if invocation.cancellationRequested then
        [.work number .finishWorkerInvocation, .sendWorkerCleanupAck invocation.correlationID]
      else [.work number .checkContext])
  | .checkContext =>
    (invocation,
      if invocation.contextDone then invocation.settle number
      else [.work number .callHandler])
  | .callHandler => (invocation.setHandler .running, [.work number .handlerReturn])
  | .handlerReturn => (invocation.setHandler .returned, [.work number .checkCancellation])
  | .checkCancellation =>
    (invocation,
      if active ∧ invocation.cancellationRequested then [.work number .finishCanceled]
      else
        -- the error of the handler, or the end of the stream
        invocation.settle number)
  | .finishCanceled =>
    (invocation,
      if invocation.cancellationRequested then [.sendWorkerCleanupAck invocation.correlationID]
      else [])
  | .finishWorkerInvocation => (invocation, [])

def Part.finishes : Part → Bool
  | .finishCanceled | .finishWorkerInvocation => true
  | _ => false

variable [DecidableEq Id]

def Client.work (client : Client Id) (invocation : Invocation Id) (number thread : Nat)
    (accepted : Bool) (part : Part) : Client Id × List (Action Id) :=
  let active : Bool := client.activeInvocations.lookup invocation.correlationID = some number
  let done := invocation.work number thread active accepted part
  ({ client.adjust [number] fun _ => done.1 with
      activeInvocations :=
        if active ∧ part.finishes then client.activeInvocations.erase invocation.correlationID
        else client.activeInvocations },
    done.2)

def Client.cancelNotice (client : Client Id) (id : Id) : Client Id × List (Action Id) :=
  match client.activeInvocations.lookup id with
  | none => (client, [])
  | some number =>
    let marked := client.adjust [number] Invocation.requestCancellation
    if client.invocations[number]?.map Invocation.cancelStored = some true
    then (marked, [.cancel number])
    else
      ({ marked with activeInvocations := marked.activeInvocations.erase id },
        [.sendWorkerCleanupAck id])

def Client.cancels (client : Client Id) : List Nat :=
  (Table.values client.activeInvocations).filter fun number =>
    client.invocations[number]?.map Invocation.cancelStored = some true

def Client.closePendingRPCs (client : Client Id) (order : List Nat) :
    Option (Client Id × List (Action Id)) :=
  if order.Perm client.cancels then
    some
      ({ client.adjust (Table.values client.activeInvocations) Invocation.requestCancellation with
          activeInvocations := ∅ },
        order.map .cancel)
  else none

def perform (client : Client Id) (thread : Nat) (action : Action Id)
    (choice : Choice) : Option (Client Id × List (Action Id)) :=
  match action with
  | .activate id =>
    if id ∈ client.ids then none
    else
      some
        ({ client with
            activeInvocations := client.activeInvocations.insert id client.invocations.length
            invocations := client.invocations ++ [newInvocation id] },
          [.work client.invocations.length .launch])
  | .work number part =>
    client.invocations[number]?.map fun invocation =>
      client.work invocation number thread choice.accepted part
  | .sendTerminal id =>
    some
      (if choice.sent then { client with written := client.written ++ [.terminalResponse id] }
        else client,
        [])
  | .sendWorkerCleanupAck id =>
    some
      (if choice.supportsRPCCancellation ∧ choice.sent then
          { client with written := client.written ++ [.cleanupAck id] }
        else client,
        [])
  | .cancelNotice id => some (client.cancelNotice id)
  | .cancel number =>
    some (client.adjust [number] fun invocation => { invocation with canceled := true }, [])
  | .closePendingRPCs => client.closePendingRPCs choice.order

/-- An expired job that was queued is dropped: its closure is not run. -/
def start (client : Client Id) : Operation Id → Option (Client Id × List (Action Id))
  | .request id => some (client, [.activate id])
  | .takeJob number =>
    match client.invocations[number]? with
    | none => none
    | some invocation =>
      if invocation.job = .queued then
        some (client.adjust [number] (Invocation.setJob .taken), [.work number .storeCancel])
      else none
  | .dropJob number =>
    match client.invocations[number]? with
    | none => none
    | some invocation =>
      if invocation.job = .queued ∧ invocation.timedOut then
        some (client.adjust [number] (Invocation.setJob .dropped), [])
      else none
  | .timeOut number =>
    some (client.adjust [number] fun invocation => { invocation with timedOut := true }, [])
  | .expireBudget number =>
    some (client.adjust [number] fun invocation => { invocation with budgetExpired := true }, [])
  | .lifecycle kind id value =>
    if kind = 2 ∧ 1 ≤ value ∧ value ≤ 4 then some (client, [.cancelNotice id])
    else some (client, [])
  | .connectionLost => some (client, [.closePendingRPCs])

def machine : Machine (Client Id) (Operation Id) (Action Id) Choice where
  start := start
  perform := perform

abbrev State (Id : Type) := System (Client Id) (Action Id)

def initial : State Id := System.idle newClient

end FitzGo.Domains.RpcInvocations
