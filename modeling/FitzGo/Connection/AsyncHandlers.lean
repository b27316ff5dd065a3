import Mathlib.Logic.Function.Basic
import FitzGo.Library.StepMachine

/-!
# Callback subscriptions and the async handler queue

`LaunchAsyncHandler` answers `false` when the queue is full, and also when the
connection is shutting down or a context is cancelled. Every `handleNotify`
takes `false` for an overflow.

The flags only ever get set, so the checks before the mutex are one step, and
those under it with the attempt to enqueue another.
-/

namespace FitzGo.Connection.AsyncHandlers

open StepMachine

/-- The domains whose subscriptions have a `Completion`. -/
inductive CallbackDomain
  | kv
  | notice
  | queue
  | lease
  | schedule
  | stream
  deriving DecidableEq

/-- KV and Schedule read their connection once for a NOTIFY, the others again
for every registration. -/
def CallbackDomain.readsConnOnce : CallbackDomain → Bool
  | .kv | .schedule => true
  | .notice | .queue | .lease | .stream => false

/-- The dispatch loop: in `handleNotify`, with the registrations left, and
inside `LaunchAsyncHandler` between its two checks. `parent` is the connection
whose lifecycle context `handleNotify` has read. -/
inductive Loop
  | idle
  | handling (domain : CallbackDomain) (parent : Nat) (left : List Nat)
  | launching (domain : CallbackDomain) (parent target : Nat) (left : List Nat)
  | exiting
  | exited
  deriving DecidableEq

structure Conn where
  closed : Bool
  asyncClosing : Bool
  stateClosed : Bool
  cancelled : Bool
  jobs : List Nat
  loop : Loop

structure Registration where
  number : Nat
  domain : CallbackDomain
  subID : Nat

/-- What a `Completion` yields: `nil`, or `AsyncHandlerOverflowError`. -/
inductive Terminal
  | unsubscribed
  | overflow

structure Overflow where
  registration : Nat
  full : Bool
  deriving DecidableEq

structure State where
  conns : Nat → Conn
  domainConn : CallbackDomain → Nat
  table : List Registration
  completion : Nat → Option Terminal
  unsubscribing : List Nat
  subscribed : List Nat
  unsubscribed : List Nat
  overflows : List Overflow

def initial : State where
  conns _ := ⟨false, false, false, false, [], .idle⟩
  domainConn _ := 0
  table := []
  completion _ := none
  unsubscribing := []
  subscribed := []
  unsubscribed := []
  overflows := []

inductive Event
  | subscribe (registration : Registration)
  | unsubscribe (number : Nat)
  | restored (number subID : Nat)
  | replaceConn (domain : CallbackDomain) (conn : Nat)
  | notify (conn : Nat) (domain : CallbackDomain) (subID : Nat)
  | check (conn : Nat) (domain : CallbackDomain) (parent number : Nat) (left : List Nat)
  | enqueue (conn : Nat) (domain : CallbackDomain) (parent target number : Nat) (left : List Nat)
  | handled (conn : Nat) (domain : CallbackDomain) (parent : Nat)
  | removeOverflowed (number : Nat)
  | work (conn number : Nat) (rest : List Nat)
  | closeFlag (conn : Nat)
  | closeDrain (conn : Nat)
  | closeCancel (conn : Nat)
  | heartbeatFail (conn : Nat)
  | exitState (conn : Nat)
  | exitDrain (conn : Nat)
  | exitCancel (conn : Nat)

def Conn.shuttingDown (conn : Conn) : Bool :=
  conn.closed || conn.asyncClosing || conn.stateClosed || conn.cancelled

namespace State

def refuses (state : State) (target parent : Nat) : Bool :=
  (state.conns target).shuttingDown || (state.conns parent).cancelled

def queueFull (state : State) (capacity target : Nat) : Bool :=
  capacity ≤ (state.conns target).jobs.length

def launchTarget (state : State) (domain : CallbackDomain) (parent : Nat) : Nat :=
  if domain.readsConnOnce then parent else state.domainConn domain

def setConn (state : State) (conn : Nat) (record : Conn) : State :=
  { state with conns := Function.update state.conns conn record }

def setLoop (state : State) (conn : Nat) (loop : Loop) : State :=
  state.setConn conn { state.conns conn with loop }

/-- `Completion.Complete`: only the first call counts. -/
def complete (state : State) (number : Nat) (terminal : Terminal) : Nat → Option Terminal :=
  Function.update state.completion number (some ((state.completion number).getD terminal))

/-- `LaunchAsyncHandler` has returned `false`: `handleNotify` completes the
registration, starts its removal and goes on with the next one. -/
def overflow (state : State) (capacity conn target number : Nat) (loop : Loop) : State :=
  { state.setLoop conn loop with
    completion := state.complete number .overflow
    unsubscribing := number :: state.unsubscribing
    overflows := ⟨number, state.queueFull capacity target⟩ :: state.overflows }

def removeFromTable (state : State) (number : Nat) : List Registration :=
  state.table.filter fun registration => registration.number ≠ number

end State

def Enabled (state : State) : Event → Prop
  | .subscribe registration => registration.number ∉ state.subscribed
  | .unsubscribe number => number ∈ state.table.map Registration.number
  | .restored _ _ => True
  | .replaceConn _ _ => True
  | .notify conn _ _ => (state.conns conn).loop = .idle
  | .check conn domain parent number left =>
    (state.conns conn).loop = .handling domain parent (number :: left)
  | .enqueue conn domain parent target number left =>
    (state.conns conn).loop = .launching domain parent target (number :: left)
  | .handled conn domain parent => (state.conns conn).loop = .handling domain parent []
  | .removeOverflowed number => number ∈ state.unsubscribing
  | .work conn number rest => (state.conns conn).jobs = number :: rest
  | .closeFlag conn => (state.conns conn).closed = false
  | .closeDrain conn => (state.conns conn).closed = true
  | .closeCancel conn => (state.conns conn).closed = true ∧ (state.conns conn).asyncClosing = true
  | .heartbeatFail conn => (state.conns conn).cancelled = false
  | .exitState conn => (state.conns conn).loop = .idle
  | .exitDrain conn => (state.conns conn).loop = .exiting
  | .exitCancel conn => (state.conns conn).loop = .exiting ∧ (state.conns conn).asyncClosing = true

instance (state : State) (event : Event) : Decidable (Enabled state event) := by
  cases event <;> dsimp only [Enabled] <;> infer_instance

def next (capacity : Nat) (state : State) : Event → State
  | .subscribe registration =>
    { state with
      table := registration :: state.table
      subscribed := registration.number :: state.subscribed }
  | .unsubscribe number =>
    { state with
      table := state.removeFromTable number
      completion := state.complete number .unsubscribed
      unsubscribed := number :: state.unsubscribed }
  | .restored number subID =>
    { state with
      table := state.table.map fun registration =>
          if registration.number = number then { registration with subID }
          else registration }
  | .replaceConn domain conn =>
    { state with domainConn := Function.update state.domainConn domain conn }
  | .notify conn domain subID =>
    state.setLoop conn (.handling domain (state.domainConn domain)
        ((state.table.filter fun registration =>
            registration.domain = domain ∧ registration.subID = subID).map Registration.number))
  | .check conn domain parent number left =>
    if state.refuses (state.launchTarget domain parent) parent then
      state.overflow capacity conn (state.launchTarget domain parent)
        number (.handling domain parent left)
    else
      state.setLoop conn
        (.launching domain parent (state.launchTarget domain parent) (number :: left))
  | .enqueue conn domain parent target number left =>
    if state.refuses target parent || state.queueFull capacity target then
      state.overflow capacity conn target number (.handling domain parent left)
    else
      (state.setConn target { state.conns target with
          jobs := (state.conns target).jobs ++ [number] }).setLoop conn
        (.handling domain parent left)
  | .handled conn _ _ => state.setLoop conn .idle
  | .removeOverflowed number =>
    { state with
      table := state.removeFromTable number
      completion := state.complete number .unsubscribed
      unsubscribing := state.unsubscribing.erase number }
  | .work conn _ rest => state.setConn conn { state.conns conn with jobs := rest }
  | .closeFlag conn => state.setConn conn { state.conns conn with closed := true }
  | .closeDrain conn =>
    state.setConn conn { state.conns conn with asyncClosing := true, jobs := [] }
  | .closeCancel conn => state.setConn conn { state.conns conn with cancelled := true }
  | .heartbeatFail conn => state.setConn conn { state.conns conn with cancelled := true }
  | .exitState conn =>
    state.setConn conn { state.conns conn with stateClosed := true, loop := .exiting }
  | .exitDrain conn => state.setConn conn { state.conns conn with asyncClosing := true, jobs := [] }
  | .exitCancel conn =>
    state.setConn conn { state.conns conn with cancelled := true, loop := .exited }

def step (capacity : Nat) : State → Event → Option State :=
  guarded Enabled (next capacity)

end FitzGo.Connection.AsyncHandlers
