import FitzGo.Connection.Handshake
import FitzGo.Library.Counting
import FitzGo.Library.StepMachine

/-!
# Admission of outbound operations

When no slot is free an operation counts itself in, gives up if the queue was
full, and waits otherwise.

A HELLO with a smaller limit replaces both semaphores by new channels, so
channels are numbered, and releasing reads the field of the connection again.
-/

namespace FitzGo.Connection.Admission

open StepMachine Counting Handshake

structure Config where
  maxMessageBytes : Int
  maxInFlightRequests : Int
  maxRequestQueueSize : Int

/-- The default that `New` applies. -/
def Config.maxInFlight (config : Config) : Nat :=
  if config.maxInFlightRequests ≤ 0 then 256
  else config.maxInFlightRequests.toNat

def Config.maxQueueSize (config : Config) : Nat :=
  if config.maxRequestQueueSize ≤ 0 then 1024
  else config.maxRequestQueueSize.toNat

inductive Kind
  | request
  | oneWay
  deriving DecidableEq

structure Semaphore where
  capacity : Nat
  length : Nat

/-- Where an operation is: at the first select, past its default case, counted
in and found above the bound, at the second select, past it with or without a
slot, sending, or done. The channel is the one a select has evaluated. -/
inductive Phase
  | idle
  | admitting
  | entering
  | rejected
  | waiting (chan : Nat)
  | admitted (chan : Nat)
  | leaving
  | holding (chan : Nat)
  | returned
  deriving DecidableEq

namespace Phase

def occupies : Phase → Bool
  | .admitted _ | .holding _ => true
  | .idle | .admitting | .entering | .rejected | .waiting _ | .leaving
  | .returned => false

def counted : Phase → Bool
  | .rejected | .waiting _ | .admitted _ | .leaving => true
  | .idle | .admitting | .entering | .holding _ | .returned => false

def queued : Phase → Bool
  | .waiting _ | .admitted _ | .leaving => true
  | .idle | .admitting | .entering | .rejected | .holding _
  | .returned => false

def waits : Phase → Bool
  | .waiting _ => true
  | .idle | .admitting | .entering | .rejected | .admitted _ | .leaving
  | .holding _ | .returned => false

def chan? : Phase → Option Nat
  | .waiting chan | .admitted chan | .holding chan => some chan
  | .idle | .admitting | .entering | .rejected | .leaving
  | .returned => none

end Phase

structure Operation where
  kind : Kind
  phase : Phase
  deriving DecidableEq

def Operation.Is (phases : Phase → Bool) (kind : Kind) (operation : Operation) : Prop :=
  operation.kind = kind ∧ phases operation.phase = true

instance (phases : Phase → Bool) (kind : Kind) : DecidablePred (Operation.Is phases kind) :=
  fun _ => inferInstanceAs (Decidable (_ ∧ _))

inductive Loop
  | running
  | exiting
  | done
  deriving DecidableEq

/-- Operations are numbered in the order in which they are issued. -/
structure State where
  session : Session
  semaphores : Nat → Semaphore
  field : Kind → Nat
  created : Nat
  queuedCount : Kind → Int
  loop : Loop
  started : Bool
  issued : Nat
  operations : Nat → Operation

def initial (config : Config) (frameSizeLimit : Nat) : State where
  session := Session.new config.maxInFlight frameSizeLimit
  semaphores _ := ⟨config.maxInFlight, 0⟩
  field
    | .request => 0
    | .oneWay => 1
  created := 2
  queuedCount _ := 0
  loop := .running
  started := false
  issued := 0
  operations _ := ⟨.request, .idle⟩

inductive Event
  | frame (data : Bytes)
  | stopReading
  | exit
  | startReturns
  | correlate (id : UInt64)
  | issue (kind : Kind)
  | take (index : Nat) (kind : Kind)
  | refuse (index : Nat) (kind : Kind)
  | pass (index : Nat) (kind : Kind)
  | enqueue (index : Nat) (kind : Kind)
  | reject (index : Nat) (kind : Kind)
  | takeWaiting (index : Nat) (kind : Kind) (chan : Nat)
  | giveUp (index : Nat) (kind : Kind) (chan : Nat)
  | settle (index : Nat) (kind : Kind) (chan : Nat)
  | leave (index : Nat) (kind : Kind)
  | release (index : Nat) (kind : Kind) (chan : Nat)

namespace State

def semaphore (state : State) (kind : Kind) : Semaphore :=
  state.semaphores (state.field kind)

def newField (state : State) : Kind → Nat
  | .request => state.created
  | .oneWay => state.created + 1

def negotiate (state : State) (session : Session) : State :=
  if session.slots = state.session.slots then { state with session }
  else
    { state with
      session
      semaphores := fun chan =>
        if state.created ≤ chan then ⟨session.slots, 0⟩
        else state.semaphores chan
      field := state.newField
      created := state.created + 2 }

def setPhase (state : State) (index : Nat) (kind : Kind) (phase : Phase) : State :=
  { state with operations := Function.update state.operations index ⟨kind, phase⟩ }

def setLength (state : State) (chan length : Nat) : State :=
  { state with
    semaphores := Function.update state.semaphores chan { state.semaphores chan with length } }

def setQueued (state : State) (kind : Kind) (queued : Int) : State :=
  { state with queuedCount := Function.update state.queuedCount kind queued }

end State

def Enabled (state : State) : Event → Prop
  | .frame _ => state.loop = .running
  | .stopReading => state.loop = .running
  | .exit => state.loop = .exiting
  | .startReturns => state.session.serverHello = true
  | .correlate _ => state.started = true
  | .issue _ => state.started = true
  | .take index kind =>
    state.operations index = ⟨kind, .admitting⟩ ∧
      (state.semaphore kind).length < (state.semaphore kind).capacity
  | .refuse index kind => state.operations index = ⟨kind, .admitting⟩
  | .pass index kind =>
    state.operations index = ⟨kind, .admitting⟩ ∧
      (state.semaphore kind).capacity ≤ (state.semaphore kind).length ∧ state.loop ≠ .done
  | .enqueue index kind => state.operations index = ⟨kind, .entering⟩
  | .reject index kind => state.operations index = ⟨kind, .rejected⟩
  | .takeWaiting index kind chan =>
    state.operations index = ⟨kind, .waiting chan⟩ ∧
      (state.semaphores chan).length < (state.semaphores chan).capacity
  | .giveUp index kind chan => state.operations index = ⟨kind, .waiting chan⟩
  | .settle index kind chan => state.operations index = ⟨kind, .admitted chan⟩
  | .leave index kind => state.operations index = ⟨kind, .leaving⟩
  | .release index kind chan =>
    state.operations index = ⟨kind, .holding chan⟩ ∧ 0 < (state.semaphore kind).length

instance (state : State) (event : Event) : Decidable (Enabled state event) := by
  cases event <;> dsimp only [Enabled] <;> infer_instance

def next (config : Config) (state : State) : Event → State
  | .frame data =>
    match
      dispatchTransportFrame config.maxMessageBytes state.session data
    with
    | .error _ => { state with loop := .exiting }
    | .ok (session, _) => state.negotiate session
  | .stopReading => { state with loop := .exiting }
  | .exit =>
    { state with
      loop := .done
      session := { state.session with
          protocolVersion := 0
          capabilities := 0
          correlated := [] } }
  | .startReturns => { state with started := true }
  | .correlate id =>
    { state with
      session := { state.session with correlated := id :: state.session.correlated } }
  | .issue kind =>
    { state with
      issued := state.issued + 1
      operations := Function.update state.operations state.issued ⟨kind, .admitting⟩ }
  | .take index kind =>
    (state.setPhase index kind (.holding (state.field kind))).setLength
      (state.field kind) ((state.semaphore kind).length + 1)
  | .refuse index kind => state.setPhase index kind .returned
  | .pass index kind => state.setPhase index kind .entering
  | .enqueue index kind =>
    (state.setPhase index kind (if state.queuedCount kind + 1 > config.maxQueueSize then .rejected
      else .waiting (state.field kind))).setQueued
      kind (state.queuedCount kind + 1)
  | .reject index kind =>
    (state.setPhase index kind .returned).setQueued kind (state.queuedCount kind - 1)
  | .takeWaiting index kind chan =>
    (state.setPhase index kind (.admitted chan)).setLength chan ((state.semaphores chan).length + 1)
  | .giveUp index kind _ => state.setPhase index kind .leaving
  | .settle index kind chan =>
    (state.setPhase index kind (.holding chan)).setQueued kind (state.queuedCount kind - 1)
  | .leave index kind =>
    (state.setPhase index kind .returned).setQueued kind (state.queuedCount kind - 1)
  | .release index kind _ =>
    (state.setPhase index kind .returned).setLength
      (state.field kind) ((state.semaphore kind).length - 1)

def step (config : Config) : State → Event → Option State :=
  guarded Enabled (next config)

end FitzGo.Connection.Admission
