import FitzGo.Connection.NotifyFrame
import FitzGo.Subscriptions.SubscribeOnce

/-!
# The subscriptions of a domain client

The clients of kv, queue, stream, schedule and notice wrap the registry in the
same way. Where `LaunchAsyncHandler` refuses a notification, `handleNotify`
completes the registration and starts a goroutine that unsubscribes it. Only the
notice client has `UnsubscribeAll`, and the mutex `operations`.
-/

namespace FitzGo.Subscriptions.Heap.Clients

open Connection (Domain)
open StepMachine

variable {H E : Type}

/-- What a `Completion` yields: nil, or `AsyncHandlerOverflowError` with the id
of the subscription. -/
inductive Terminal
  | unsubscribed
  | overflow (subID : UInt64)
  deriving DecidableEq

structure Handle where
  pattern : String
  handlerID : UInt64
  completion : Option Nat
  deriving DecidableEq

/-- A call that has returned from the registry and has not asked for its
`Completion` yet. -/
structure Looking where
  call : Nat
  pattern : String
  handlerID : UInt64
  deriving DecidableEq

structure Delivery where
  subID : UInt64
  pattern : String
  handlerID : UInt64
  completion : Nat
  deriving DecidableEq

inductive Holder
  | subscribe (call : Nat)
  | unsubscribe
  deriving DecidableEq

/-- `removals` are the goroutines that `handleNotify` has started, `due` the
patterns whose UNSUBSCRIBE is still to be written, `outcomes` what the first
`Complete` of each `Completion` was given. -/
structure State (H E : Type) where
  core : Exclusion.State H String E
  looking : List Looking
  handles : Nat → Option Handle
  outcomes : Nat → Option Terminal
  deliveries : List Delivery
  removals : List (String × UInt64)
  operations : Option Holder
  written : Nat → Bool
  broker : String → Bool
  due : List String

def initial : State H E where
  core := Exclusion.initial
  looking := []
  handles _ := none
  outcomes _ := none
  deliveries := []
  removals := []
  operations := none
  written _ := false
  broker _ := false
  due := []

inductive Event (H E : Type) where
  | attempt (call : Nat) (pattern : String) (handler : H)
  | write (call : Nat)
  | wireAnswers (call : Nat) (result : Except E UInt64)
  | publish (call : Nat)
  | lookUp (looking : Looking)
  | unsubscribe (call : Nat)
  | remove (pattern : String) (handlerID : UInt64)
  | writeUnsubscribe (pattern : String)
  | unsubscribeAll
  | notify (subID : UInt64)
  | launched (delivery : Delivery)
  | saturated (delivery : Delivery)

def coreEvent (state : State H E) : Event H E → Option (Exclusion.Event H String E)
  | .attempt call pattern handler => some (.attempt call pattern handler)
  | .wireAnswers call result => some (.wireAnswers call result)
  | .publish call => some (.publish call)
  | .unsubscribe call =>
    (state.handles call).map fun handle => .unsubscribe handle.pattern handle.handlerID
  | .remove pattern handlerID => some (.unsubscribe pattern handlerID)
  | .unsubscribeAll => some .clear
  | .write _ | .lookUp _ | .writeUnsubscribe _ | .notify _ | .launched _
  | .saturated _ => none

/-- The mutex `operations` is free, or the client has none. -/
def State.unlocked (state : State H E) (domain : Domain) : Prop :=
  domain = .notice → state.operations = none

instance (state : State H E) (domain : Domain) : Decidable (state.unlocked domain) :=
  inferInstanceAs (Decidable (_ → _))

/-- What an event asks of the client, apart from the registry. -/
def Ready (domain : Domain) (state : State H E) : Event H E → Prop
  | .attempt call _ _ => state.unlocked domain ∨ state.operations = some (.subscribe call)
  | .write call => (state.core.subscribes call).isCalling = true ∧ state.written call = false
  | .wireAnswers call result =>
    -- a request may fail before it is written
    result.isOk = true → state.written call = true
  | .publish _ => True
  | .lookUp looking => looking ∈ state.looking
  | .unsubscribe call => (state.handles call).isSome = true ∧ state.unlocked domain
  | .remove pattern handlerID => (pattern, handlerID) ∈ state.removals ∧ state.unlocked domain
  | .writeUnsubscribe pattern => pattern ∈ state.due
  | .unsubscribeAll => domain = .notice ∧ state.operations = none
  | .notify _ => True
  | .launched delivery | .saturated delivery => delivery ∈ state.deliveries

instance (domain : Domain) (state : State H E) (event : Event H E) :
    Decidable (Ready domain state event) := by
  cases event <;> dsimp only [Ready] <;> infer_instance

def CoreReady (state : State H E) (event : Event H E) : Prop :=
  match coreEvent state event with
  | none => True
  | some part => Exclusion.Enabled state.core part

instance (state : State H E) (event : Event H E) : Decidable (CoreReady state event) := by
  unfold CoreReady
  split <;> infer_instance

def Enabled (domain : Domain) (state : State H E) (event : Event H E) : Prop :=
  Ready domain state event ∧ CoreReady state event

instance (domain : Domain) (state : State H E) (event : Event H E) :
    Decidable (Enabled domain state event) :=
  inferInstanceAs (Decidable (_ ∧ _))

def nextCore (state : State H E) (event : Event H E) : Exclusion.State H String E :=
  match coreEvent state event with
  | none => state.core
  | some part => Exclusion.next state.core part

/-- `Complete` for a list of completions: the first call counts. -/
def settle (outcomes : Nat → Option Terminal) (completions : List Nat)
    (terminal : Terminal) (completion : Nat) : Option Terminal :=
  (outcomes completion).or (if completion ∈ completions then some terminal else none)

/-- The completions that a section of the registry has completed with nil. -/
def newlyCompleted (before after : Registry H String) : List Nat :=
  after.completed.take (after.completed.length - before.completed.length)

/-- The registry's `Subscribe` has gone one section further: with a handler id
the client looks for the `Completion`, with an error it returns. -/
def State.subscribed (state : State H E) (call : Nat) (pattern : String) : State H E :=
  match state.core.subscribes call with
  | .returned (.ok (_, handlerID)) =>
    { state with looking := ⟨call, pattern, handlerID⟩ :: state.looking }
  | .returned (.error _) => { state with operations := none }
  | .idle | .calling _ _ | .answered _ _ _ => state

/-- `unsubscribe` up to the point where it writes: the result says that the last
handler has gone. -/
def State.unsubscribed (state : State H E) (domain : Domain) (core : Exclusion.State H String E)
    (pattern : String) (last : Bool) : State H E :=
  { state with
    core
    outcomes := settle state.outcomes
      (newlyCompleted state.core.registry core.registry) .unsubscribed
    due := if last then pattern :: state.due else state.due
    operations :=
      if last = true ∧ domain = .notice then some .unsubscribe
      else state.operations }

def next (domain : Domain) (state : State H E) (event : Event H E) : State H E :=
  match event with
  | .attempt call pattern _ =>
    State.subscribed { state with
        core := nextCore state event
        written := Function.update state.written call false
        operations :=
          if domain = .notice then some (.subscribe call)
          else state.operations }
      call pattern
  | .write call =>
    match state.core.subscribes call with
    | .calling pattern _ =>
      { state with
        written := Function.update state.written call true
        broker := Function.update state.broker pattern true }
    | .idle | .answered _ _ _ | .returned _ => state
  | .wireAnswers _ _ => { state with core := nextCore state event }
  | .publish call =>
    match state.core.subscribes call with
    | .answered pattern _ _ =>
      State.subscribed { state with core := nextCore state event } call pattern
    | .idle | .calling _ _ | .returned _ => state
  | .lookUp looking =>
    { state with
      looking := state.looking.erase looking
      handles := Function.update state.handles looking.call
        (some ⟨looking.pattern, looking.handlerID,
          state.core.registry.completion looking.pattern looking.handlerID⟩)
      operations := none }
  | .unsubscribe call =>
    match state.handles call with
    | none => state
    | some handle =>
      state.unsubscribed domain (nextCore state event) handle.pattern
        (state.core.registry.unsubscribe handle.pattern handle.handlerID).2
  | .remove pattern handlerID =>
    { state.unsubscribed domain (nextCore state event) pattern
        (state.core.registry.unsubscribe pattern handlerID).2 with
      removals := state.removals.erase (pattern, handlerID) }
  | .writeUnsubscribe pattern =>
    { state with
      due := state.due.erase pattern
      broker := Function.update state.broker pattern false
      operations := none }
  | .unsubscribeAll =>
    { state with
      core := nextCore state event
      outcomes := settle state.outcomes
        (newlyCompleted state.core.registry (nextCore state event).registry) .unsubscribed }
  | .notify subID =>
    { state with
      deliveries := (state.core.registry.registrations subID).map
          (fun one => ⟨subID, one.pattern, one.handlerID, one.completion⟩) ++
          state.deliveries }
  | .launched delivery => { state with deliveries := state.deliveries.erase delivery }
  | .saturated delivery =>
    { state with
      deliveries := state.deliveries.erase delivery
      outcomes := settle state.outcomes [delivery.completion] (.overflow delivery.subID)
      removals := (delivery.pattern, delivery.handlerID) :: state.removals }

def step (domain : Domain) : State H E → Event H E → Option (State H E) :=
  guarded (Enabled domain) (next domain)

/-! ## The registry under the client -/

variable {domain : Domain} {state : State H E} {event : Event H E}

@[simp]
theorem core_subscribed (call : Nat) (pattern : String) :
    (state.subscribed call pattern).core = state.core := by
  unfold State.subscribed
  split <;> rfl

theorem subscribes_nextCore_of_ne {called : Exclusion.Event H String E} {other : Nat}
    (core : coreEvent state event = some called) (others : called.caller ≠ some other) :
    (nextCore state event).subscribes other = state.core.subscribes other := by
  rw [nextCore, core]
  exact Exclusion.subscribes_next_of_ne others

theorem core_next (ready : Ready domain state event) :
    (next domain state event).core = nextCore state event := by
  cases event with
  | attempt call pattern handler => simp [next]
  | write call =>
    simp only [next, nextCore, coreEvent]
    split <;> rfl
  | publish call =>
    simp only [next]
    split
    · simp
    all_goals
      rename_i phase
      simp [nextCore, coreEvent, Exclusion.next, Exclusion.publish, phase]
  | unsubscribe call =>
    obtain ⟨handle, here⟩ := Option.isSome_iff_exists.mp ready.1
    simp [next, here, State.unsubscribed]
  | _ => rfl

theorem isRestore_coreEvent {part : Exclusion.Event H String E}
    (here : coreEvent state event = some part) : part.isRestore = false := by
  cases event with
  | unsubscribe call =>
    obtain ⟨handle, _, rfl⟩ := Option.map_eq_some_iff.mp here
    rfl
  | write call | lookUp looking | writeUnsubscribe pattern | notify subID
  | launched delivery | saturated delivery => cases here
  | _ =>
    cases here
    rfl

/-- The counter of handler ids has not reached its end when the section of the
registry draws one. -/
def HandlerIDsLast (state : State H E) (event : Event H E) : Prop :=
  match coreEvent state event with
  | none => True
  | some part => Exclusion.HandlerIDsLast state.core part

instance (state : State H E) (event : Event H E) : Decidable (HandlerIDsLast state event) := by
  unfold HandlerIDsLast
  split <;> infer_instance

structure CoreInv (core : Exclusion.State H String E) : Prop where
  inv : Exclusion.Inv core
  own : core.registry.OwnCompletions

theorem initial_coreInv : CoreInv (initial : State H E).core :=
  ⟨Exclusion.initial_inv, Registry.new_ownCompletions⟩

theorem step_coreInv {after : State H E}
    (core : CoreInv state.core) (last : HandlerIDsLast state event)
    (stepped : step domain state event = some after) : CoreInv after.core := by
  obtain ⟨⟨ready, admitted⟩, rfl⟩ := guarded_eq_some_iff.mp stepped
  rw [core_next ready]
  unfold nextCore
  unfold CoreReady at admitted
  unfold HandlerIDsLast at last
  cases here : coreEvent state event with
  | none => exact core
  | some part =>
    rw [here] at admitted last
    have alone := isRestore_coreEvent here
    have moved : Exclusion.step state.core part = some (Exclusion.next state.core part) :=
      guarded_eq_some_iff.mpr ⟨admitted, rfl⟩
    exact ⟨Exclusion.step_inv core.inv (last.undisturbed alone) moved,
      Exclusion.step_ownCompletions core.inv alone last moved core.own⟩

end FitzGo.Subscriptions.Heap.Clients
