import Mathlib.Logic.Function.Basic
import FitzGo.Library.StepMachine

/-!
# Socket deadlines bound to contexts

`bindConnDeadlineToContext` gives the socket the deadline of a context, and
registers a function that moves it to the present when the context ends. The
cleanup stops that registration, without waiting for a function that has
started, and clears the deadline.
-/

namespace FitzGo.Transport.Deadline

open StepMachine

/-- Where an operation is, in the order of `Write` and `Read`. -/
inductive Phase
  | idle
  | locked
  | bound
  | running
  | bare
  | ending
  | stopping
  | clearing
  | returned
  | finished
  deriving DecidableEq

/-- The function registered with `context.AfterFunc`. `started` waits for the
mutex it shares with the cleanup, `holding` has it. -/
inductive FuncPhase
  | unregistered
  | armed
  | started
  | holding
  | ran
  | stopped
  deriving DecidableEq

structure Op where
  phase : Phase
  func : FuncPhase

/-- The deadline of the socket: cleared, the instant of a context's deadline,
or an instant that was the present when it was set. -/
inductive SocketDeadline
  | cleared
  | ofContext (context : Nat)
  | elapsed

/-- The environment: the context of each operation, and which contexts carry a
deadline. -/
structure Setup where
  contextOf : Nat → Nat
  hasDeadline : Nat → Bool

structure Failure where
  op : Nat
  ownContextDone : Bool

structure State where
  passed : Nat → Bool
  cancelled : Nat → Bool
  ops : Nat → Op
  lock : Option Nat
  deadline : SocketDeadline
  /-- Operations for which `setDeadline` was called after their cleanup. -/
  late : List Nat
  failures : List Failure

def initial : State where
  passed _ := false
  cancelled _ := false
  ops _ := ⟨.idle, .unregistered⟩
  lock := none
  deadline := .cleared
  late := []
  failures := []

inductive Event
  | begin (op : Nat)
  | beginBare (op : Nat)
  | refuse (op : Nat)
  | bind (op : Nat)
  | register (op : Nat)
  | ioEnds (op : Nat)
  | ioDeadline (op : Nat)
  | stop (op : Nat)
  | cleanupLock (op : Nat)
  | cleanupSet (op : Nat)
  | release (op : Nat)
  | startFunc (op : Nat)
  | funcLock (op : Nat)
  | funcSet (op : Nat)
  | pass (context : Nat)
  | cancel (context : Nat)

namespace State

/-- `ctx.Err() != nil`. -/
def contextDone (state : State) (context : Nat) : Bool :=
  state.passed context || state.cancelled context

def deadlineReached (state : State) : Bool :=
  match state.deadline with
  | .cleared => false
  | .ofContext context => state.passed context
  | .elapsed => true

def setPhase (state : State) (op : Nat) (phase : Phase) : State :=
  { state with
    ops := Function.update state.ops op { state.ops op with phase } }

def setFunc (state : State) (op : Nat) (func : FuncPhase) : State :=
  { state with
    ops := Function.update state.ops op { state.ops op with func } }

end State

def Phase.isOver : Phase → Bool
  | .returned | .finished => true
  | _ => false

def Enabled (setup : Setup) (state : State) : Event → Prop
  | .begin op => (state.ops op).phase = .idle ∧ state.lock = none
  | .beginBare op => (state.ops op).phase = .idle ∧ state.lock = none
  | .refuse op => (state.ops op).phase = .locked ∧ state.contextDone (setup.contextOf op) = true
  | .bind op => (state.ops op).phase = .locked ∧ state.contextDone (setup.contextOf op) = false
  | .register op => (state.ops op).phase = .bound
  | .ioEnds op => (state.ops op).phase = .running ∨ (state.ops op).phase = .bare
  | .ioDeadline op =>
    ((state.ops op).phase = .running ∨ (state.ops op).phase = .bare) ∧ state.deadlineReached = true
  | .stop op => (state.ops op).phase = .ending
  | .cleanupLock op => (state.ops op).phase = .stopping ∧ (state.ops op).func ≠ .holding
  | .cleanupSet op => (state.ops op).phase = .clearing
  | .release op => (state.ops op).phase = .returned
  | .startFunc op => (state.ops op).func = .armed ∧ state.contextDone (setup.contextOf op) = true
  | .funcLock op => (state.ops op).func = .started ∧ (state.ops op).phase ≠ .clearing
  | .funcSet op => (state.ops op).func = .holding
  | .pass context => setup.hasDeadline context = true
  | .cancel _ => True

instance (setup : Setup) (state : State) (event : Event) :
    Decidable (Enabled setup state event) := by
  cases event <;> dsimp only [Enabled] <;> infer_instance

/-- What follows the socket calls: the cleanup, or for a bare operation the
release of the lock. -/
def afterIo (state : State) (op : Nat) : State :=
  if (state.ops op).phase = .bare then state.setPhase op .returned
  else state.setPhase op .ending

def next (setup : Setup) (state : State) : Event → State
  | .begin op => { state.setPhase op .locked with lock := some op }
  | .beginBare op => { state.setPhase op .bare with lock := some op }
  | .refuse op => { state.setPhase op .finished with lock := none }
  | .bind op =>
    { state.setPhase op .bound with
      deadline :=
        if setup.hasDeadline (setup.contextOf op) then .ofContext (setup.contextOf op)
        else state.deadline }
  | .register op => (state.setPhase op .running).setFunc op .armed
  | .ioEnds op => afterIo state op
  | .ioDeadline op =>
    { afterIo state op with
      failures := state.failures ++ [⟨op, state.contextDone (setup.contextOf op)⟩] }
  | .stop op =>
    if (state.ops op).func = .armed then (state.setPhase op .stopping).setFunc op .stopped
    else state.setPhase op .stopping
  | .cleanupLock op => state.setPhase op .clearing
  | .cleanupSet op => { state.setPhase op .returned with deadline := .cleared }
  | .release op => { state.setPhase op .finished with lock := none }
  | .startFunc op => state.setFunc op .started
  | .funcLock op => state.setFunc op .holding
  | .funcSet op =>
    { state.setFunc op .ran with
      deadline := .elapsed
      late :=
        if (state.ops op).phase.isOver then state.late ++ [op]
        else state.late }
  | .pass context => { state with passed := Function.update state.passed context true }
  | .cancel context => { state with cancelled := Function.update state.cancelled context true }

def step (setup : Setup) : State → Event → Option State :=
  guarded (Enabled setup) (next setup)

end FitzGo.Transport.Deadline
