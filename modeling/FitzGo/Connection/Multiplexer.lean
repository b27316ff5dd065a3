import Mathlib.Algebra.Group.Nat.Defs
import Mathlib.Data.List.AList
import FitzGo.Library.BufferedReader
import FitzGo.Library.StepMachine

/-!
# Correlated requests on one connection

The goroutines inside `SendRequest`, the dispatch loop and `Multiplexer.Close`
share the `correlated` map and the pooled `requestWaiter`s.
Every critical section of `mu` is one event, except that of `Close`, which
fails the waiters one by one.
-/

namespace FitzGo.Connection.Multiplexer

open StepMachine

structure Response where
  frame : Nat
  payload : Bytes
  deriving DecidableEq

/-- What `SendRequest` returns: the waiter's `response` field, or an error. -/
inductive Result
  | ok (response : Option Response)
  | error
  deriving DecidableEq

/-- Where a call of `SendRequest` is. `leaving` has its result and runs the
deferred functions; `release` is the local variable `releaseWaiter`. -/
inductive Phase
  | idle
  | issued
  | holding
  | registered
  | waiting
  | woken
  | leaving (release : Bool) (result : Result)
  | releasing (result : Result)
  | finished (result : Result)
  deriving DecidableEq

/-- The local variables of a call: `correlationID` and `waiter`. -/
structure Request where
  phase : Phase
  id : Nat
  waiter : Nat

/-- A `requestWaiter`. `ready` is the token in its channel; `owner` is the
call that took it from the pool, and `none` in the pool. -/
structure Waiter where
  ready : Bool
  response : Option Response
  closed : Bool
  owner : Option Nat

/-- A `pendingRequest` of the correlated map. -/
structure Entry where
  waiter : Option Nat
  discard : Bool

structure Frame where
  id : Nat
  payload : Bytes
  final : Bool
  recipient : Option Nat

/-- `DispatchCorrelated` outside the mutex: `deliver` stores the response and
then sends the token. -/
inductive Dispatcher
  | idle
  | storing (waiter frame : Nat)
  | signalling (waiter frame : Nat)
  deriving DecidableEq

/-- `Multiplexer.Close`: the flag, then under the mutex `fail` for the entries
whose ids are left. -/
inductive Closer
  | idle
  | flagged
  | failing (left : List Nat)
  | signalling (waiter : Nat) (left : List Nat)
  | finished
  deriving DecidableEq

abbrev Correlated := AList fun _ : Nat => Entry

structure State where
  nextCorrelationID : Nat
  closed : Bool
  correlated : Correlated
  waiters : Nat → Waiter
  requests : Nat → Request
  dispatcher : Dispatcher
  closer : Closer
  done : Bool
  frames : List Frame

def cleanWaiter (owner : Option Nat) : Waiter :=
  ⟨false, none, false, owner⟩

def initial : State where
  nextCorrelationID := 0
  closed := false
  correlated := ∅
  waiters _ := cleanWaiter none
  requests _ := ⟨.idle, 0, 0⟩
  dispatcher := .idle
  closer := .idle
  done := false
  frames := []

/-- What can happen. An event that continues a party's phase names the data
of that phase. -/
inductive Event
  | issue (request : Nat)
  | issueOneWay
  | setCapabilities
  | abort (request : Nat)
  | acquire (request waiter : Nat)
  | register (request : Nat)
  | writeOk (request : Nat)
  | writeFail (request : Nat)
  | wake (request : Nat)
  | inspect (request : Nat)
  | cancel (request : Nat)
  | giveUp (request : Nat)
  | unregister (request : Nat) (release : Bool) (result : Result)
  | release (request : Nat) (result : Result)
  | dispatch (id : Nat) (payload : Bytes) (final : Bool)
  | store (waiter frame : Nat)
  | signal (waiter frame : Nat)
  | closeFlag
  | closeLock
  | failEntry (id : Nat) (left : List Nat)
  | closeSignal (waiter : Nat) (left : List Nat)
  | closeClear
  | closeDone

def maxCorrelationID : Nat :=
  2 ^ 64 - 1

def Closer.holdsMutex : Closer → Bool
  | .failing _ | .signalling _ _ => true
  | _ => false

namespace State

def muFree (state : State) : Prop :=
  state.closer.holdsMutex = false

instance (state : State) : Decidable state.muFree :=
  inferInstanceAs (Decidable (_ = _))

def phase (state : State) (request : Nat) : Phase :=
  (state.requests request).phase

def waiterOf (state : State) (request : Nat) : Waiter :=
  state.waiters (state.requests request).waiter

def setRequest (state : State) (request : Nat) (record : Request) : State :=
  { state with requests := Function.update state.requests request record }

def setPhase (state : State) (request : Nat) (phase : Phase) : State :=
  state.setRequest request { state.requests request with phase }

def setWaiter (state : State) (waiter : Nat) (record : Waiter) : State :=
  { state with waiters := Function.update state.waiters waiter record }

/-- `UnregisterCorrelatedRequest` would find the call's own waiter. -/
def registration (state : State) (request : Nat) : Bool :=
  match state.correlated.lookup (state.requests request).id with
  | none => false
  | some entry => entry.waiter = some (state.requests request).waiter

/-- `UnregisterCorrelatedRequest`: keep the entry, without its waiter, so that
a late response is discarded. -/
def unregister (state : State) (request : Nat) : State :=
  { state with
    correlated :=
      if state.registration request then
        state.correlated.insert (state.requests request).id ⟨none, true⟩
      else state.correlated }

end State

def Enabled (state : State) : Event → Prop
  | .issue request => state.phase request = .idle
  | .issueOneWay => True
  | .setCapabilities => True
  | .abort request => state.phase request = .issued
  | .acquire request waiter => state.phase request = .issued ∧ (state.waiters waiter).owner = none
  | .register request => state.phase request = .holding ∧ state.muFree
  | .writeOk request => state.phase request = .registered
  | .writeFail request => state.phase request = .registered
  | .wake request => state.phase request = .waiting ∧ (state.waiterOf request).ready = true
  | .inspect request => state.phase request = .woken
  | .cancel request => state.phase request = .waiting ∧ state.muFree
  | .giveUp request =>
    state.phase request = .waiting ∧ state.done = true ∧ (state.waiterOf request).ready = false
  | .unregister request release result =>
    state.phase request = .leaving release result ∧ state.muFree
  | .release request result => state.phase request = .releasing result
  | .dispatch _ _ _ => state.dispatcher = .idle ∧ state.muFree
  | .store waiter frame => state.dispatcher = .storing waiter frame
  | .signal waiter frame => state.dispatcher = .signalling waiter frame
  | .closeFlag => state.closed = false ∧ state.closer = .idle
  | .closeLock => state.closer = .flagged
  | .failEntry id left => state.closer = .failing left ∧ id ∈ left
  | .closeSignal waiter left => state.closer = .signalling waiter left
  | .closeClear => state.closer = .failing []
  | .closeDone => state.closed = true

instance (state : State) (event : Event) : Decidable (Enabled state event) := by
  cases event <;> dsimp only [Enabled] <;> infer_instance

/-- `RegisterCorrelatedRequest`. A call that cannot register returns an error
and keeps its waiter from the pool. -/
def register (state : State) (request : Nat) : State :=
  let record := state.requests request
  if state.closed then
    (state.setPhase request (.finished .error)).setWaiter record.waiter
      { state.waiters record.waiter with closed := true, ready := true }
  else if (state.correlated.lookup record.id).isSome then state.setPhase request (.finished .error)
  else
    { state.setPhase request .registered with
      correlated := state.correlated.insert record.id ⟨some record.waiter, false⟩ }

def inspected (waiter : Waiter) : Result :=
  if waiter.closed then .error else .ok waiter.response

def deliverTo (entry : Entry) (final : Bool) : Option Nat :=
  if final && !entry.discard then entry.waiter else none

def dispatch (state : State) (id : Nat) (payload : Bytes) (final : Bool) : State :=
  match state.correlated.lookup id with
  | none => { state with frames := state.frames ++ [⟨id, payload, final, none⟩] }
  | some entry =>
    let target := deliverTo entry final
    { state with
      correlated :=
        if final then state.correlated.erase id else state.correlated
      dispatcher :=
        match target with
        | none => .idle
        | some waiter => .storing waiter state.frames.length
      frames := state.frames ++
          [⟨id, payload, final, target.bind fun waiter => (state.waiters waiter).owner⟩] }

def framePayload (state : State) (frame : Nat) : Bytes :=
  match state.frames[frame]? with
  | some record => record.payload
  | none => []

/-- One iteration over the map in `Close`; `fail` marks the waiter first. -/
def failEntry (state : State) (id : Nat) (left : List Nat) : State :=
  match (state.correlated.lookup id).bind Entry.waiter with
  | none => { state with closer := .failing (left.erase id) }
  | some waiter =>
    { state.setWaiter waiter { state.waiters waiter with closed := true } with
      closer := .signalling waiter (left.erase id) }

def next (state : State) : Event → State
  | .issue request =>
    if state.nextCorrelationID < maxCorrelationID then
      { state.setRequest request ⟨.issued, state.nextCorrelationID + 1, 0⟩ with
        nextCorrelationID := state.nextCorrelationID + 1 }
    else state.setPhase request (.finished .error)
  | .issueOneWay =>
    if state.nextCorrelationID < maxCorrelationID then
      { state with nextCorrelationID := state.nextCorrelationID + 1 }
    else state
  | .setCapabilities => { state with nextCorrelationID := 0 }
  | .abort request => state.setPhase request (.finished .error)
  | .acquire request waiter =>
    (state.setRequest request
      ⟨.holding, (state.requests request).id, waiter⟩).setWaiter waiter (cleanWaiter (some request))
  | .register request => register state request
  | .writeOk request => state.setPhase request .waiting
  | .writeFail request => state.setPhase request (.leaving false .error)
  | .wake request =>
    (state.setPhase request .woken).setWaiter (state.requests request).waiter
      { state.waiterOf request with ready := false }
  | .inspect request => state.setPhase request (.leaving true (inspected (state.waiterOf request)))
  | .cancel request =>
    (state.unregister request).setPhase request (.leaving (state.registration request) .error)
  | .giveUp request => state.setPhase request (.leaving false .error)
  | .unregister request release result =>
    (state.unregister request).setPhase request
      (if release || state.registration request then .releasing result
        else .finished result)
  | .release request result =>
    (state.setPhase request (.finished result)).setWaiter
      (state.requests request).waiter (cleanWaiter none)
  | .dispatch id payload final => dispatch state id payload final
  | .store waiter frame =>
    { state.setWaiter waiter
        { state.waiters waiter with
          response := some ⟨frame, framePayload state frame⟩ } with
      dispatcher := .signalling waiter frame }
  | .signal waiter _ =>
    { state.setWaiter waiter { state.waiters waiter with ready := true } with
      dispatcher := .idle }
  | .closeFlag => { state with closed := true, closer := .flagged }
  | .closeLock => { state with closer := .failing state.correlated.keys }
  | .failEntry id left => failEntry state id left
  | .closeSignal waiter left =>
    { state.setWaiter waiter { state.waiters waiter with ready := true } with
      closer := .failing left }
  | .closeClear => { state with correlated := ∅, closer := .finished }
  | .closeDone => { state with done := true }

def step : State → Event → Option State :=
  guarded Enabled next

end FitzGo.Connection.Multiplexer
