import Mathlib.Logic.Function.Basic
import FitzGo.Library.StepMachine

/-!
# Stateful handles and the connection they keep

Each operation of a handle first calls `CheckLiveHandle` on the connection it
keeps.

The KV client reads its connection field once for a `Begin`. The others read it
for the request and again for the handle, and `ReplaceConnection` may run in
between. A lease may also be granted by an uncorrelated ACQUIRE frame.
-/

namespace FitzGo.Domains.Handles

open StepMachine

inductive Granter
  | queue
  | lease
  | stream
  | kv
  deriving DecidableEq

/-! ## The connection's answer -/

/-- `connError` is the terminal error that the dispatch loop recorded, by
number. -/
structure Conn where
  closed : Bool
  done : Bool
  connError : Option Nat
  supportsNack : Bool

inductive Cause
  | connectionClosed
  | terminal (error : Nat)
  deriving DecidableEq

/-- The errors that an operation on a handle returns before it sends anything.
`staleHandle` is `ErrStaleHandle`, alone or wrapped together with its cause. -/
inductive Failure
  | staleHandle (cause : Option Cause)
  | nackNotNegotiated
  | invalidPersistence (durability : Nat)
  | alreadyCommitted
  | alreadyRolledBack
  | readOnlyTransaction
  | invalidArguments
  deriving DecidableEq

def Failure.isStaleHandle : Failure → Bool
  | .staleHandle _ => true
  | _ => false

def Conn.checkLiveHandle (conn : Conn) : Except Failure Unit :=
  if conn.closed then .error (.staleHandle (some .connectionClosed))
  else if conn.done then
    match conn.connError with
    | some error => .error (.staleHandle (some (.terminal error)))
    | none => .error (.staleHandle (some .connectionClosed))
  else .ok ()

def Conn.hasClosed (conn : Conn) : Bool :=
  conn.closed || conn.done

theorem Conn.checkLiveHandle_of_hasClosed {conn : Conn} (hasClosed : conn.hasClosed = true) :
    ∃ cause, conn.checkLiveHandle = .error (.staleHandle cause) := by
  unfold Conn.checkLiveHandle
  by_cases closed : conn.closed = true
  · exact ⟨_, if_pos closed⟩
  · have done : conn.done = true := by
      simpa [Conn.hasClosed, closed] using hasClosed
    rw [if_neg closed, if_pos done]
    cases conn.connError with
    | _ => exact ⟨_, rfl⟩

/-! ## Operations on a handle -/

/-- What an operation has done when it stops to wait, or returns: it failed
without sending, it returned `nil` without sending, or it has sent one request
of the given message type on the connection of the handle. -/
inductive Outcome
  | failed (failure : Failure)
  | finished
  | sent (messageType : Nat)
  deriving DecidableEq

def Outcome.isStaleHandle : Outcome → Bool
  | .failed failure => failure.isStaleHandle
  | _ => false

/-- The atomic `state` of a `QueueItem`. -/
inductive ItemState
  | open
  | settling
  | settled
  deriving DecidableEq

inductive ItemOperation
  | extend
  | complete
  | nack
  deriving DecidableEq

def ItemOperation.attempt (conn : Conn) (item : ItemState) : ItemOperation → Outcome × ItemState
  | .extend =>
    match conn.checkLiveHandle with
    | .error failure => (.failed failure, item)
    | .ok () =>
      if item ≠ .open then (.failed (.staleHandle none), item)
      else (.sent 203, item)
  | .complete =>
    match conn.checkLiveHandle with
    | .error failure => (.failed failure, item)
    | .ok () =>
      if item ≠ .open then (.failed (.staleHandle none), item)
      else (.sent 204, .settling)
  | .nack =>
    match conn.checkLiveHandle with
    | .error failure => (.failed failure, item)
    | .ok () =>
      if conn.supportsNack = false then (.failed .nackNotNegotiated, item)
      else if item ≠ .open then (.failed (.staleHandle none), item)
      else (.sent 210, .settling)

/-- `Complete` and `Nack` store 2 after an acknowledgement; their deferred
`CompareAndSwap(1, 0)` opens the item again otherwise. -/
def ItemOperation.settle (item : ItemState) (acknowledged : Bool) : ItemOperation → ItemState
  | .extend => item
  | .complete | .nack =>
    if acknowledged then .settled
    else if item = .settling then .open
    else item

/-- `busy` is `opMu`, which an operation holds until it returns. -/
structure LeaseState where
  closed : Bool
  busy : Bool
  deriving DecidableEq

inductive LeaseOperation
  | extend
  | release
  deriving DecidableEq

def LeaseOperation.attempt (conn : Conn) (lease : LeaseState) :
    LeaseOperation → Outcome × LeaseState
  | .extend =>
    if lease.closed then (.failed (.staleHandle none), lease)
    else
      match conn.checkLiveHandle with
      | .error failure => (.failed failure, { lease with closed := true })
      | .ok () => (.sent 401, { lease with busy := true })
  | .release =>
    if lease.closed then (.failed (.staleHandle none), lease)
    else
      match conn.checkLiveHandle with
      | .error failure => (.failed failure, { lease with closed := true })
      | .ok () => (.sent 402, { closed := true, busy := true })

/-- A failed `Extend` closes the lease; `Release` has closed it already. -/
def LeaseOperation.settle (lease : LeaseState) (acknowledged : Bool) : LeaseOperation → LeaseState
  | .extend => { closed := lease.closed || !acknowledged, busy := false }
  | .release => { lease with busy := false }

inductive SessionOperation
  | append
  | commit
  | rollback
  deriving DecidableEq

def SessionOperation.messageType : SessionOperation → Nat
  | .append => 601
  | .commit => 602
  | .rollback => 603

def SessionOperation.attempt (conn : Conn) (operation : SessionOperation) : Outcome :=
  match conn.checkLiveHandle with
  | .error failure => .failed failure
  | .ok () => .sent operation.messageType

structure TransactionState where
  readOnly : Bool
  committed : Bool
  rolledback : Bool
  deriving DecidableEq

/-- `valid` says that the arguments pass the size checks and the encoder. -/
inductive TransactionOperation
  | get (valid : Bool)
  | put (valid : Bool)
  | insert (valid : Bool)
  | delete (valid : Bool)
  | deleteRange (valid : Bool)
  | scan (valid : Bool)
  | commit (durability : Nat)
  | rollback
  deriving DecidableEq

def durabilitySync : Nat := 1

namespace TransactionState

def checkState (conn : Conn) (transaction : TransactionState) : Except Failure Unit :=
  match conn.checkLiveHandle with
  | .error failure => .error failure
  | .ok () =>
    if transaction.committed then .error .alreadyCommitted
    else if transaction.rolledback then .error .alreadyRolledBack
    else .ok ()

def checkWritable (transaction : TransactionState) : Except Failure Unit :=
  if transaction.readOnly then .error .readOnlyTransaction else .ok ()

/-- `Get`, `Put` and `Scan` check the state and the arguments. -/
def request (conn : Conn) (transaction : TransactionState)
    (valid : Bool) (messageType : Nat) : Outcome :=
  match transaction.checkState conn with
  | .error failure => .failed failure
  | .ok () =>
    if valid then .sent messageType else .failed .invalidArguments

/-- `Insert`, `Delete` and `DeleteRange` also check that the transaction is
writable. -/
def writableRequest (conn : Conn) (transaction : TransactionState)
    (valid : Bool) (messageType : Nat) : Outcome :=
  match transaction.checkState conn with
  | .error failure => .failed failure
  | .ok () =>
    match transaction.checkWritable with
    | .error failure => .failed failure
    | .ok () =>
      if valid then .sent messageType else .failed .invalidArguments

end TransactionState

def TransactionOperation.attempt (conn : Conn) (transaction : TransactionState) :
    TransactionOperation → Outcome × TransactionState
  | .get valid => (transaction.request conn valid 103, transaction)
  | .put valid => (transaction.request conn valid 104, transaction)
  | .insert valid => (transaction.writableRequest conn valid 105, transaction)
  | .delete valid => (transaction.writableRequest conn valid 106, transaction)
  | .deleteRange valid => (transaction.writableRequest conn valid 107, transaction)
  | .scan valid => (transaction.request conn valid 108, transaction)
  | .commit durability =>
    -- the durability is checked before the state of the transaction
    if durability > durabilitySync then (.failed (.invalidPersistence durability), transaction)
    else
      match transaction.checkState conn with
      | .error failure => (.failed failure, transaction)
      | .ok () =>
        match transaction.checkWritable with
        | .error failure => (.failed failure, transaction)
        | .ok () => (.sent 101, { transaction with committed := true })
  | .rollback =>
    match conn.checkLiveHandle with
    | .error failure => (.failed failure, transaction)
    | .ok () =>
      if transaction.committed || transaction.rolledback then (.finished, transaction)
      else (.sent 102, { transaction with rolledback := true })

inductive Body
  | item (item : ItemState)
  | lease (lease : LeaseState)
  | session
  | transaction (transaction : TransactionState)
  deriving DecidableEq

inductive Operation
  | item (operation : ItemOperation)
  | lease (operation : LeaseOperation)
  | session (operation : SessionOperation)
  | transaction (operation : TransactionOperation)
  deriving DecidableEq

def Body.admits : Body → Operation → Bool
  | .item _, .item _ => true
  | .lease current, .lease _ => !current.busy
  | .session, .session _ => true
  | .transaction _, .transaction _ => true
  | _, _ => false

def Body.attempt (conn : Conn) : Body → Operation → Outcome × Body
  | .item current, .item operation => (operation.attempt conn current).map id .item
  | .lease current, .lease operation => (operation.attempt conn current).map id .lease
  | .session, .session operation => (operation.attempt conn, .session)
  | .transaction current, .transaction operation =>
    (operation.attempt conn current).map id .transaction
  | body, _ => (.finished, body)

def Body.settle (acknowledged : Bool) : Body → Operation → Body
  | .item current, .item operation => .item (operation.settle current acknowledged)
  | .lease current, .lease operation => .lease (operation.settle current acknowledged)
  | body, _ => body

/-! ## The machine -/

/-- A granting response as its parser reads it. `count` is the number of items
of a RESERVE response, `queued` the ACQUIRE response type 2. -/
inductive Reply
  | granted (count : Nat)
  | queued
  | refused
  deriving DecidableEq

/-- Where a granting call is. `registered` holds the acquire gate, has run
`acquireOnce` and has put its waiter into the list; `holding` is a KV `Begin`
that has read its connection. -/
inductive Place
  | idle
  | started
  | gated
  | registered
  | holding (conn : Nat)
  | sent (conn : Nat)
  | queued
  | granted (conn count : Nat)
  | returned
  deriving DecidableEq

structure Call where
  granter : Granter
  waits : Bool
  readOnly : Bool
  place : Place

structure Waiter where
  call : Nat
  done : Bool

/-- `grantedOn` records the connection on which the granting response was
received. -/
structure Handle where
  conn : Nat
  grantedOn : Nat
  body : Body
  deriving DecidableEq

/-- The record of one operation: whether the granting connection had closed
when it was called, what became of it, and where it sent its request. -/
structure Report where
  grantedOn : Nat
  closedBefore : Bool
  outcome : Outcome
  sentOn : Option Nat
  deriving DecidableEq

structure State where
  conns : Nat → Conn
  fields : Granter → Nat
  calls : Nat → Call
  begun : List Nat
  acquireGate : Option Nat
  acquireHandler : Option Nat
  acquireWaiters : List Waiter
  deferred : Nat → Option (Nat × Bool)
  handles : List Handle
  outstanding : List (Nat × Operation)
  reports : List Report

def initial : State where
  conns _ := ⟨false, false, none, true⟩
  fields _ := 0
  calls _ := ⟨.queue, false, false, .idle⟩
  begun := []
  acquireGate := none
  acquireHandler := none
  acquireWaiters := []
  deferred _ := none
  handles := []
  outstanding := []
  reports := []

inductive Event
  | start (call : Nat) (granter : Granter) (waits readOnly : Bool)
  | enterGate (call : Nat)
  | register (call : Nat)
  | readConn (call : Nat)
  | send (call : Nat)
  | respond (call conn : Nat) (reply : Reply)
  | deferredAcquire (conn : Nat) (grants : Bool)
  | takeDeferred (call conn : Nat) (grants : Bool)
  | build (call conn count : Nat)
  | fail (call : Nat)
  | replaceConnection (granter : Granter) (conn : Nat)
  | close (conn : Nat)
  | terminate (conn : Nat) (connError : Option Nat)
  | operate (index : Nat) (handle : Handle) (operation : Operation)
  | answer (index : Nat) (handle : Handle) (operation : Operation) (acknowledged : Bool)

/-- `handleDeferredAcquire` drops the waiters that are done and takes the first
other one. -/
def takeWaiter : List Waiter → Option Nat × List Waiter
  | [] => (none, [])
  | waiter :: rest =>
    if waiter.done then takeWaiter rest else (some waiter.call, rest)

namespace State

def setPlace (state : State) (call : Nat) (place : Place) : State :=
  { state with
    calls := Function.update state.calls call { state.calls call with place } }

/-- The call returns. The deferred functions of an `Acquire` remove its waiter
and give the gate back. -/
def finish (state : State) (call : Nat) : State :=
  { state.setPlace call .returned with
    acquireGate :=
      if state.acquireGate = some call then none else state.acquireGate
    acquireWaiters := state.acquireWaiters.filter fun waiter => waiter.call ≠ call }

/-- The connection that a request goes to: the one that `Begin` of the KV
client has read, the current one for the others. -/
def sendConn (state : State) (call : Nat) : Nat :=
  match (state.calls call).place with
  | .holding conn => conn
  | _ => state.fields (state.calls call).granter

def handleConn (state : State) (call conn : Nat) : Nat :=
  match (state.calls call).granter with
  | .kv => conn
  | granter => state.fields granter

def newBodies (call : Call) (count : Nat) : List Body :=
  match call.granter with
  | .queue => List.replicate count (.item .open)
  | .lease => [.lease ⟨false, false⟩]
  | .stream => [.session]
  | .kv => [.transaction ⟨call.readOnly, false, false⟩]

def afterReply (state : State) (call conn : Nat) : Reply → State
  | .granted count => state.setPlace call (.granted conn count)
  | .queued =>
    if (state.calls call).waits then state.setPlace call .queued
    else state.finish call
  | .refused => state.finish call

def deliverDeferred (state : State) (conn : Nat) (grants : Bool) : State :=
  match takeWaiter state.acquireWaiters with
  | (none, rest) => { state with acquireWaiters := rest }
  | (some call, rest) =>
    { state with
      acquireWaiters := rest
      deferred := Function.update state.deferred call (some (conn, grants)) }

def report (state : State) (handle : Handle) (outcome : Outcome) : Report where
  grantedOn := handle.grantedOn
  closedBefore := (state.conns handle.grantedOn).hasClosed
  outcome := outcome
  sentOn :=
    match outcome with
    | .sent _ => some handle.conn
    | _ => none

def attempt (state : State) (handle : Handle) (operation : Operation) : Outcome × Body :=
  handle.body.attempt (state.conns handle.conn) operation

end State

/-- A call can still be given up with an error: the arguments are invalid, the
context is cancelled, the request fails. -/
def Place.mayFail : Place → Bool
  | .started | .gated | .registered | .holding _ | .sent _ | .queued => true
  | .idle | .granted _ _ | .returned => false

def Enabled (state : State) : Event → Prop
  | .start call _ _ _ => call ∉ state.begun
  | .enterGate call =>
    (state.calls call).granter = .lease ∧
      (state.calls call).place = .started ∧ state.acquireGate = none
  | .register call => (state.calls call).place = .gated
  | .readConn call => (state.calls call).granter = .kv ∧ (state.calls call).place = .started
  | .send call =>
    match (state.calls call).place with
    | .started => (state.calls call).granter = .queue ∨ (state.calls call).granter = .stream
    | .registered => True
    | .holding _ => True
    | _ => False
  | .respond call conn reply =>
    (state.calls call).place = .sent conn ∧
      (state.conns conn).done = false ∧ (reply = .queued → (state.calls call).granter = .lease)
  | .deferredAcquire conn _ => state.acquireHandler = some conn ∧ (state.conns conn).done = false
  | .takeDeferred call conn grants =>
    (state.calls call).place = .queued ∧ state.deferred call = some (conn, grants)
  | .build call conn count => (state.calls call).place = .granted conn count
  | .fail call => (state.calls call).place.mayFail = true
  | .replaceConnection _ _ => True
  | .close _ => True
  | .terminate conn _ => (state.conns conn).done = false
  | .operate index handle operation =>
    state.handles[index]? = some handle ∧ handle.body.admits operation = true
  | .answer index handle operation _ =>
    state.handles[index]? = some handle ∧ (index, operation) ∈ state.outstanding

instance (state : State) (event : Event) : Decidable (Enabled state event) := by
  cases event with
  | send call =>
    dsimp only [Enabled]
    split <;> infer_instance
  | _ => dsimp only [Enabled]; infer_instance

def next (state : State) : Event → State
  | .start call granter waits readOnly =>
    { state with
      begun := call :: state.begun
      calls := Function.update state.calls call ⟨granter, waits, readOnly, .started⟩ }
  | .enterGate call => { state.setPlace call .gated with acquireGate := some call }
  | .register call =>
    { state.setPlace call .registered with
      acquireHandler := some (state.acquireHandler.getD (state.fields .lease))
      acquireWaiters :=
        if (state.calls call).waits then state.acquireWaiters ++ [⟨call, false⟩]
        else state.acquireWaiters }
  | .readConn call => state.setPlace call (.holding (state.fields .kv))
  | .send call => state.setPlace call (.sent (state.sendConn call))
  | .respond call conn reply => state.afterReply call conn reply
  | .deferredAcquire conn grants => state.deliverDeferred conn grants
  | .takeDeferred call conn grants =>
    if grants then state.setPlace call (.granted conn 1)
    else state.finish call
  | .build call conn count =>
    { state.finish call with
      handles := state.handles ++
          (State.newBodies (state.calls call) count).map (⟨state.handleConn call conn, conn, ·⟩) }
  | .fail call => state.finish call
  | .replaceConnection granter conn =>
    { state with fields := Function.update state.fields granter conn }
  | .close conn =>
    { state with
      conns := Function.update state.conns conn { state.conns conn with closed := true } }
  | .terminate conn connError =>
    { state with
      conns := Function.update state.conns conn { state.conns conn with done := true, connError } }
  | .operate index handle operation =>
    let result := state.attempt handle operation
    { state with
      handles := state.handles.set index { handle with body := result.2 }
      reports := state.report handle result.1 :: state.reports
      outstanding :=
        match result.1 with
        | .sent _ => (index, operation) :: state.outstanding
        | _ => state.outstanding }
  | .answer index handle operation acknowledged =>
    { state with
      handles := state.handles.set index
        { handle with body := handle.body.settle acknowledged operation }
      outstanding := state.outstanding.erase (index, operation) }

def step : State → Event → Option State :=
  guarded Enabled next

end FitzGo.Domains.Handles
