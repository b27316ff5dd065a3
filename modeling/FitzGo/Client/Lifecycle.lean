import Mathlib.Logic.Function.Basic
import FitzGo.Library.StepMachine

/-!
# The lifecycle of a client

The machine has one event for each operation on the current connection, the
`closed` flag, the mutex `c.mu` and the `reconnecting` flag.
-/

namespace FitzGo.Client.Lifecycle

open StepMachine

structure Config where
  reconnectEnabled : Bool
  maxReconnects : Int
  reconnectTimeout : Int

/-- A connection is open from a successful start until it is lost or closed. -/
inductive ConnStatus
  | unused
  | open
  | ended
  deriving DecidableEq

/-- The two callers of `attachConnection`; the loop passes `replace`. -/
inductive Caller
  | connect
  | loop
  deriving DecidableEq

/-- `attachConnection`: `admitted` has found the client not closed, `vacant`
has also found no current connection, `unlocked` has released the mutex and
is about to start the monitor, `refused` is about to close the connection. -/
inductive Attach
  | entering
  | locked
  | admitted
  | vacant
  | stored
  | unlocked
  | refused
  deriving DecidableEq

inductive Connect
  | idle
  | entered
  | dialing
  | attaching (conn : Nat) (phase : Attach)
  deriving DecidableEq

inductive Loop
  | idle
  | attempting
  | dialing
  | attaching (conn : Nat) (phase : Attach)
  | restoring (conn : Nat)
  | backoff
  | leaving (success : Bool)
  deriving DecidableEq

/-- `monitorConnection`: `matched` has found its connection current, `swapped`
has done the compare-and-swap, `entering` calls `beginReconnect`. -/
inductive Monitor
  | absent
  | waiting
  | matched
  | swapped
  | entering
  | finished
  deriving DecidableEq

inductive Close
  | idle
  | flagged
  | cancelled
  | loaded (conn? : Option Nat)
  | finished
  deriving DecidableEq

/-- `connected` and `mismatched` are history: a `Connect` has returned nil, the
loop has met a version mismatch. `started` lists the monitors. -/
structure State where
  conns : Nat → ConnStatus
  current : Option Nat
  closed : Bool
  lifecycleDone : Bool
  timedOut : Bool
  attempt : Nat
  connect : Connect
  loop : Loop
  monitors : Nat → Monitor
  started : List Nat
  close : Close
  connected : Bool
  mismatched : Bool

def initial : State where
  conns _ := .unused
  current := none
  closed := false
  lifecycleDone := false
  timedOut := false
  attempt := 0
  connect := .idle
  loop := .idle
  monitors _ := .absent
  started := []
  close := .idle
  connected := false
  mismatched := false

inductive Event
  | lose (conn : Nat)
  | connectEnter
  | connectLook
  | connectDial (conn : Nat)
  | connectDialFail
  | attachLock (caller : Caller) (conn : Nat)
  | attachCheckClosed (caller : Caller) (conn : Nat)
  | attachCheckCurrent (conn : Nat)
  | attachStore (caller : Caller) (conn : Nat)
  | attachUnlock (caller : Caller) (conn : Nat)
  | attachMonitor (caller : Caller) (conn : Nat)
  | attachRefuse (caller : Caller) (conn : Nat)
  | monitorCompare (conn : Nat)
  | monitorSwap (conn : Nat)
  | monitorPass (conn : Nat)
  | monitorEnter (conn : Nat)
  | loopCheck
  | loopDial (conn : Nat)
  | loopDialFail (mismatch : Bool)
  | restoreDone (conn : Nat)
  | restoreFail (conn : Nat) (mismatch : Bool)
  | loopTimer
  | loopCancelled
  | loopTimeout
  | loopClear (success : Bool)
  | closeFlag
  | closeCancel
  | closeLoad
  | closeConn (conn? : Option Nat)

def Attach.holdsMu : Attach → Bool
  | .locked | .admitted | .vacant | .stored => true
  | .entering | .unlocked | .refused => false

def Connect.attach? : Connect → Option (Nat × Attach)
  | .attaching conn phase => some (conn, phase)
  | .idle | .entered | .dialing => none

def Loop.attach? : Loop → Option (Nat × Attach)
  | .attaching conn phase => some (conn, phase)
  | .idle | .attempting | .dialing | .restoring _ | .backoff
  | .leaving _ => none

namespace State

def attach? (state : State) : Caller → Option (Nat × Attach)
  | .connect => state.connect.attach?
  | .loop => state.loop.attach?

def holdsMu (state : State) (caller : Caller) : Bool :=
  (state.attach? caller).any fun attach => attach.2.holdsMu

def muFree (state : State) : Bool :=
  !state.holdsMu .connect && !state.holdsMu .loop

def reconnecting (state : State) : Bool :=
  state.loop ≠ .idle

def reconnectCtxDone (state : State) : Bool :=
  state.lifecycleDone || state.timedOut

def setAttach (state : State) (caller : Caller) (conn : Nat) (phase : Attach) : State :=
  { state with
    connect :=
      if caller = .connect then .attaching conn phase else state.connect
    loop :=
      if caller = .loop then .attaching conn phase else state.loop }

def setMonitor (state : State) (conn : Nat) (monitor : Monitor) : State :=
  { state with monitors := Function.update state.monitors conn monitor }

def endConn (state : State) (conn : Nat) : State :=
  { state with conns := Function.update state.conns conn .ended }

def openConn (state : State) (conn : Nat) : State :=
  { state with conns := Function.update state.conns conn .open }

end State

/-- The phase in which `attachConnection` stores: only without `replace` does
it look for a current connection first. -/
def Caller.beforeStore : Caller → Attach
  | .connect => .vacant
  | .loop => .admitted

/-- `maxAttempts <= 0 || attempt <= maxAttempts`. -/
def Config.attemptAllowed (config : Config) (attempt : Nat) : Bool :=
  config.maxReconnects ≤ 0 ∨ (attempt : Int) ≤ config.maxReconnects

def Enabled (config : Config) (state : State) : Event → Prop
  | .lose conn => state.conns conn = .open
  | .connectEnter => state.connect = .idle
  | .connectLook => state.connect = .entered
  | .connectDial conn => state.connect = .dialing ∧ state.conns conn = .unused
  | .connectDialFail => state.connect = .dialing
  | .attachLock caller conn => state.attach? caller = some (conn, .entering) ∧ state.muFree = true
  | .attachCheckClosed caller conn => state.attach? caller = some (conn, .locked)
  | .attachCheckCurrent conn => state.attach? .connect = some (conn, .admitted)
  | .attachStore caller conn => state.attach? caller = some (conn, caller.beforeStore)
  | .attachUnlock caller conn => state.attach? caller = some (conn, .stored)
  | .attachMonitor caller conn => state.attach? caller = some (conn, .unlocked)
  | .attachRefuse caller conn => state.attach? caller = some (conn, .refused)
  | .monitorCompare conn => state.monitors conn = .waiting ∧ state.conns conn = .ended
  | .monitorSwap conn => state.monitors conn = .matched
  | .monitorPass conn => state.monitors conn = .swapped
  | .monitorEnter conn => state.monitors conn = .entering
  | .loopCheck => state.loop = .attempting
  | .loopDial conn => state.loop = .dialing ∧ state.conns conn = .unused
  | .loopDialFail _ => state.loop = .dialing
  | .restoreDone conn => state.loop = .restoring conn
  | .restoreFail conn _ => state.loop = .restoring conn
  | .loopTimer => state.loop = .backoff
  | .loopCancelled => state.loop = .backoff ∧ state.reconnectCtxDone = true
  | .loopTimeout => 0 < config.reconnectTimeout ∧ state.loop ≠ .idle
  | .loopClear success => state.loop = .leaving success
  | .closeFlag => state.close = .idle
  | .closeCancel => state.close = .flagged
  | .closeLoad => state.close = .cancelled
  | .closeConn conn? => state.close = .loaded conn?

instance (config : Config) (state : State) (event : Event) :
    Decidable (Enabled config state event) := by
  cases event <;> dsimp only [Enabled] <;> infer_instance

def failAttempt (state : State) (mismatch : Bool) : State :=
  { state with
    loop := if mismatch then .leaving false else .backoff
    mismatched := state.mismatched || mismatch }

def next (config : Config) (state : State) : Event → State
  | .lose conn => state.endConn conn
  | .connectEnter => { state with connect := if state.closed then .idle else .entered }
  | .connectLook =>
    { state with
      connect := if state.current.isSome then .idle else .dialing
      connected := state.connected || state.current.isSome }
  | .connectDial conn => (state.openConn conn).setAttach .connect conn .entering
  | .connectDialFail => { state with connect := .idle }
  | .attachLock caller conn => state.setAttach caller conn .locked
  | .attachCheckClosed caller conn =>
    state.setAttach caller conn (if state.closed then .refused else .admitted)
  | .attachCheckCurrent conn =>
    state.setAttach .connect conn (if state.current.isSome then .refused else .vacant)
  | .attachStore caller conn => { state.setAttach caller conn .stored with current := some conn }
  | .attachUnlock caller conn => state.setAttach caller conn .unlocked
  | .attachMonitor caller conn =>
    { state.setMonitor conn .waiting with
      started := conn :: state.started
      connect := if caller = .connect then .idle else state.connect
      connected := state.connected || caller = .connect
      loop := if caller = .loop then .restoring conn else state.loop }
  | .attachRefuse caller conn =>
    { state.endConn conn with
      connect := if caller = .connect then .idle else state.connect
      loop := if caller = .loop then .leaving false else state.loop }
  | .monitorCompare conn =>
    state.setMonitor conn (if state.current = some conn then .matched else .finished)
  | .monitorSwap conn =>
    { state.setMonitor conn .swapped with
      current :=
        if state.current = some conn then none else state.current }
  | .monitorPass conn =>
    state.setMonitor conn (if state.closed ∨ ¬ config.reconnectEnabled then .finished
        else .entering)
  | .monitorEnter conn =>
    { state.setMonitor conn .finished with
      loop :=
        if state.reconnecting ∨ state.closed then state.loop
        else .attempting
      attempt :=
        if state.reconnecting ∨ state.closed then state.attempt else 1
      timedOut :=
        if state.reconnecting ∨ state.closed then state.timedOut
        else false }
  | .loopCheck =>
    { state with
      loop :=
        if config.attemptAllowed state.attempt ∧ ¬ state.closed ∧ ¬ state.reconnectCtxDone then
          .dialing
        else .leaving false }
  | .loopDial conn => (state.openConn conn).setAttach .loop conn .entering
  | .loopDialFail mismatch => failAttempt state mismatch
  | .restoreDone _ => { state with loop := .leaving true }
  | .restoreFail conn mismatch => failAttempt (state.endConn conn) mismatch
  | .loopTimer => { state with loop := .attempting, attempt := state.attempt + 1 }
  | .loopCancelled => { state with loop := .leaving false }
  | .loopTimeout => { state with timedOut := true }
  | .loopClear _ => { state with loop := .idle }
  | .closeFlag => { state with closed := true, close := .flagged }
  | .closeCancel => { state with lifecycleDone := true, close := .cancelled }
  | .closeLoad => { state with close := .loaded state.current }
  | .closeConn conn? =>
    { state with
      conns := fun conn =>
        if conn? = some conn then .ended else state.conns conn
      close := .finished }

def step (config : Config) : State → Event → Option State :=
  guarded (Enabled config) (next config)

end FitzGo.Client.Lifecycle
