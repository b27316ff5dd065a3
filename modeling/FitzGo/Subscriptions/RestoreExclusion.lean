import FitzGo.Library.StepMachine
import FitzGo.Subscriptions.RestoreProgress

/-!
# Concurrent Restores

A step is one critical section, or the return of a wire call. The flag
`restoring` keeps everyone else out while a `Restore` is re-subscribing, but it
is reset by the deferred `finishRestore` of every `Restore`, also of one that
found no entries and never set it.
-/

namespace FitzGo.Subscriptions.Heap.Exclusion

open StepMachine

variable {H Pattern E : Type}

/-- A call of `Subscribe`: before its first section, in its wire call, with the
answer of the wire call, returned. -/
inductive SubscribeCall (H Pattern E : Type) where
  | idle
  | calling (pattern : Pattern) (handler : H)
  | answered (pattern : Pattern) (handler : H) (result : Except E UInt64)
  | returned (result : Except (SubscribeError E Pattern) (UInt64 × UInt64))

namespace SubscribeCall

def isIdle : SubscribeCall H Pattern E → Bool
  | .idle => true
  | .calling _ _ | .answered _ _ _ | .returned _ => false

def isCalling : SubscribeCall H Pattern E → Bool
  | .calling _ _ => true
  | .idle | .answered _ _ _ | .returned _ => false

def isAnswered : SubscribeCall H Pattern E → Bool
  | .answered _ _ _ => true
  | .idle | .calling _ _ | .returned _ => false

/-- The pattern that the call has put into `pending`. -/
def pendingPattern : SubscribeCall H Pattern E → Option Pattern
  | .calling pattern _ | .answered pattern _ _ => some pattern
  | .idle | .returned _ => none

def handlerID : SubscribeCall H Pattern E → Option UInt64
  | .returned (.ok (_, handlerID)) => some handlerID
  | .returned (.error _) | .idle | .calling _ _ | .answered _ _ _ => none

def afterAttempt (pattern : Pattern) (handler : H) : Registry.Attempt → SubscribeCall H Pattern E
  | .returned subID handlerID => .returned (.ok (subID, handlerID))
  | .retry => .idle
  | .call => .calling pattern handler

theorem eq_calling_of_isCalling {phase : SubscribeCall H Pattern E}
    (calling : phase.isCalling = true) : ∃ pattern handler, phase = .calling pattern handler := by
  cases phase with
  | calling pattern handler => exact ⟨pattern, handler, rfl⟩
  | _ => cases calling

theorem eq_answered_of_isAnswered {phase : SubscribeCall H Pattern E}
    (answered : phase.isAnswered = true) :
    ∃ pattern handler result, phase = .answered pattern handler result := by
  cases phase with
  | answered pattern handler result => exact ⟨pattern, handler, result, rfl⟩
  | _ => cases answered

end SubscribeCall

/-- A call of `Restore`: waiting, between its first wire call and its commit or
failure, before its `finishRestore` (and whether it has set the flag), done. -/
inductive RestoreCall where
  | idle
  | resubscribing (frame : RestoreFrame)
  | leaving (flagged : Bool)
  | returned
  deriving DecidableEq

namespace RestoreCall

def owns : RestoreCall → Bool
  | .resubscribing _ => true
  | .leaving flagged => flagged
  | .idle | .returned => false

def afterReply : Reply E Pattern → RestoreCall
  | .next frame => .resubscribing frame
  | .rollback _ _ => .leaving true

end RestoreCall

structure State (H Pattern E : Type) where
  registry : Registry H Pattern
  subscribes : Nat → SubscribeCall H Pattern E
  restores : Nat → RestoreCall

def initial : State H Pattern E where
  registry := Registry.new
  subscribes _ := .idle
  restores _ := .idle

/-- The sections of the functions. An order is how the range of `Restore` meets
the entries. -/
inductive Event (H Pattern E : Type) where
  | attempt (call : Nat) (pattern : Pattern) (handler : H)
  | wireAnswers (call : Nat) (result : Except E UInt64)
  | publish (call : Nat)
  | unsubscribe (pattern : Pattern) (handlerID : UInt64)
  | clear
  | beginRestore (call : Nat) (order : List (Pointer Pattern))
  | restoreAnswered (call : Nat) (frame : RestoreFrame) (registered : Pointer Pattern)
      (result : Except E UInt64)
  | commit (call : Nat) (frame : RestoreFrame)
  | finishRestore (call : Nat) (flagged : Bool)

def State.setSubscribe (state : State H Pattern E) (call : Nat)
    (phase : SubscribeCall H Pattern E) : State H Pattern E :=
  { state with subscribes := Function.update state.subscribes call phase }

def State.setRestore (state : State H Pattern E) (call : Nat) (phase : RestoreCall) :
    State H Pattern E :=
  { state with restores := Function.update state.restores call phase }

def State.setRegistry (state : State H Pattern E) (registry : Registry H Pattern) :
    State H Pattern E :=
  { state with registry }

theorem subscribes_setSubscribe_self (state : State H Pattern E) (call : Nat)
    (phase : SubscribeCall H Pattern E) : (state.setSubscribe call phase).subscribes call = phase :=
  Function.update_self ..

variable {state : State H Pattern E} {call : Nat}

theorem subscribes_setSubscribe_of_ne {other : Nat}
    {phase : SubscribeCall H Pattern E} (different : other ≠ call) :
    (state.setSubscribe call phase).subscribes other = state.subscribes other :=
  Function.update_of_ne different ..

theorem restores_setRestore_self (state : State H Pattern E) (call : Nat) (phase : RestoreCall) :
    (state.setRestore call phase).restores call = phase :=
  Function.update_self ..

theorem restores_setRestore_of_ne {other : Nat} {phase : RestoreCall} (different : other ≠ call) :
    (state.setRestore call phase).restores other = state.restores other :=
  Function.update_of_ne different ..

section Machine

variable [LinearOrder Pattern] [Inhabited Pattern]

def Enabled (state : State H Pattern E) : Event H Pattern E → Prop
  | .attempt call _ _ => (state.subscribes call).isIdle = true ∧ state.registry.restoring = false
  | .wireAnswers call _ => (state.subscribes call).isCalling = true
  | .publish call => (state.subscribes call).isAnswered = true
  | .unsubscribe _ _ => state.registry.restoring = false
  | .clear => state.registry.restoring = false
  | .beginRestore call order =>
    state.restores call = .idle ∧
      state.registry.restoring = false ∧
      state.registry.pending = [] ∧
      order.Perm state.registry.pointers
  | .restoreAnswered call frame registered _ =>
    state.restores call = .resubscribing frame ∧ state.registry.registered frame = some registered
  | .commit call frame =>
    state.restores call = .resubscribing frame ∧ state.registry.registered frame = none
  | .finishRestore call flagged => state.restores call = .leaving flagged

instance (state : State H Pattern E) (event : Event H Pattern E) :
    Decidable (Enabled state event) := by
  cases event <;> dsimp only [Enabled] <;> infer_instance

def wireAnswers (state : State H Pattern E) (call : Nat)
    (result : Except E UInt64) : State H Pattern E :=
  match state.subscribes call with
  | .calling pattern handler => state.setSubscribe call (.answered pattern handler result)
  | .idle | .answered _ _ _ | .returned _ => state

def publish (state : State H Pattern E) (call : Nat) : State H Pattern E :=
  match state.subscribes call with
  | .answered pattern handler result =>
    let published := state.registry.publish pattern handler result
    (state.setRegistry published.1).setSubscribe call (.returned published.2)
  | .idle | .calling _ _ | .returned _ => state

/-- The first section of a `Restore`: without entries it leaves at once. -/
def beginRestore (state : State H Pattern E) (call : Nat)
    (order : List (Pointer Pattern)) : State H Pattern E :=
  if state.registry.byPattern.entries.length = 0 then state.setRestore call (.leaving false)
  else
    let begun := state.registry.beginRestore order
    (state.setRegistry begun.1).setRestore call (.resubscribing begun.2)

def next (state : State H Pattern E) : Event H Pattern E → State H Pattern E
  | .attempt call pattern handler =>
    let attempted := state.registry.attemptSubscribe pattern handler
    (state.setRegistry attempted.1).setSubscribe call
      (SubscribeCall.afterAttempt pattern handler attempted.2)
  | .wireAnswers call result => wireAnswers state call result
  | .publish call => publish state call
  | .unsubscribe pattern handlerID =>
    state.setRegistry (state.registry.unsubscribe pattern handlerID).1
  | .clear => state.setRegistry state.registry.clear.1
  | .beginRestore call order => beginRestore state call order
  | .restoreAnswered call frame registered result =>
    let answered := state.registry.answer frame registered result
    (state.setRegistry answered.1).setRestore call (RestoreCall.afterReply answered.2)
  | .commit call frame =>
    (state.setRegistry (state.registry.commit frame)).setRestore call (.leaving true)
  | .finishRestore call _ =>
    (state.setRegistry state.registry.finishRestore).setRestore call .returned

def step (state : State H Pattern E) (event : Event H Pattern E) : Option (State H Pattern E) :=
  guarded Enabled next state event

/-! ## What is claimed -/

structure Sound (state : State H Pattern E) : Prop where
  agree : ∀ subID pointer, state.registry.live subID = some pointer ↔
    state.registry.byPattern.lookup pointer.pattern = some pointer ∧
    (state.registry.entries pointer).subID = subID
  handled : ∀ pattern pointer, state.registry.byPattern.lookup pattern = some pointer →
    (state.registry.entries pointer).handlers.keys ≠ []
  handlerIDs : ∀ pointer other handlerID, handlerID ∈ (state.registry.entries pointer).handlers →
    handlerID ∈ (state.registry.entries other).handlers → pointer = other
  returned : ∀ call other handlerID, (state.subscribes call).handlerID = some handlerID →
    (state.subscribes other).handlerID = some handlerID → call = other
  alone : ∀ call frame other, state.restores call = .resubscribing frame →
    (state.subscribes other).isCalling = false

/-- While a `Restore` is re-subscribing, only its own commit changes the maps
and the entries. -/
def Exclusive (state : State H Pattern E) (event : Event H Pattern E) : Prop :=
  ∀ call frame, state.restores call = .resubscribing frame →
    event ≠ .commit call frame →
    Registry.SameTables state.registry (next state event).registry

def drawsHandlerID (state : State H Pattern E) : Event H Pattern E → Bool
  | .attempt _ pattern _ => (state.registry.byPattern.lookup pattern).isSome
  | .publish call =>
    match state.subscribes call with
    | .answered _ _ (.ok subID) => !(state.registry.live subID).isSome
    | .answered _ _ (.error _) | .idle | .calling _ _ | .returned _ => false
  | .wireAnswers _ _ | .unsubscribe _ _ | .clear | .beginRestore _ _
  | .restoreAnswered _ _ _ _ | .commit _ _ | .finishRestore _ _ => false

omit [Inhabited Pattern] in
theorem drawsHandlerID_publish {pattern : Pattern} {handler : H} {subID : UInt64}
    (here : state.subscribes call = .answered pattern handler (.ok subID))
    (unused : (state.registry.live subID).isSome = false) :
    drawsHandlerID state (.publish call) = true := by
  dsimp only [drawsHandlerID]
  rw [here]
  exact congrArg not unused

/-- A `Restore` resets the flag that it has not set. -/
def resetsWithoutFlag : Event H Pattern E → Bool
  | .finishRestore _ flagged => !flagged
  | .attempt _ _ _ | .wireAnswers _ _ | .publish _ | .unsubscribe _ _ | .clear
  | .beginRestore _ _ | .restoreAnswered _ _ _ _ | .commit _ _ => false

/-- Where a handler id is drawn the counter has not reached its end, and a
`Restore` that has not set the flag finds it down when it comes to reset it. -/
def Undisturbed (state : State H Pattern E) (event : Event H Pattern E) : Prop :=
  (drawsHandlerID state event = true → state.registry.HasHandlerID) ∧
    (resetsWithoutFlag event = true → state.registry.restoring = false)

instance (state : State H Pattern E) (event : Event H Pattern E) :
    Decidable (Undisturbed state event) :=
  inferInstanceAs (Decidable (_ ∧ _))

end Machine
end FitzGo.Subscriptions.Heap.Exclusion
