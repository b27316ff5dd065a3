import FitzGo.Connection.NotifyFrame
import FitzGo.Library.StepMachine
import FitzGo.Subscriptions.Registry

/-!
# A registry-backed domain client

A response is dispatched before the caller it wakes continues; `acked` is the
time in between. Two fields are histories of the acknowledged subscriptions:
`unpublished` until the caller or `Restore` has entered the id into the
registry, `published` afterwards until the registration is removed.
-/

namespace FitzGo.Subscriptions

open Connection (Domain Notification decodeNotify acceptsPayload)
open StepMachine

structure Ack where
  conn : Nat
  subID : Nat
  pattern : Pattern
  deriving DecidableEq

def Ack.restored (ack : Ack) : Restored :=
  ⟨ack.pattern, ack.subID⟩

/-- Where a call of `Subscribe` is; the call's number is its handler. -/
inductive Call
  | idle
  | begun (pattern : Pattern)
  | sent (pattern : Pattern) (conn : Nat)
  | acked (ack : Ack)
  | finished (ok : Bool)
  deriving DecidableEq

/-- Where `Restore` is: the patterns left, and the ids it has so far. -/
inductive Restorer
  | idle
  | wiring (left : List Pattern) (restored : List Ack)
  | sent (pattern : Pattern) (conn : Nat) (left : List Pattern) (restored : List Ack)
  | acked (ack : Ack) (left : List Pattern) (restored : List Ack)
  | rollingBack (restored : List Ack)
  | finishing
  deriving DecidableEq

/-- `initNotifyHandler`: it reads the connection, registers the handler there
and then sets `notifyHandlerRegistered`. -/
inductive Init
  | fresh
  | reading (conn : Nat)
  | registered
  deriving DecidableEq

/-- `ReplaceConnection`: it sets the connection and then registers the handler
there, if `notifyHandlerRegistered` is set. -/
inductive Attachment
  | unused
  | replacing
  | attached
  deriving DecidableEq

/-- A call of `LaunchAsyncHandler` for one registration. -/
structure Offer where
  handler : Nat
  conn : Nat
  notification : Notification
  deriving DecidableEq

structure State where
  registry : Registry Nat
  conn : Nat
  attachment : Nat → Attachment
  ended : Nat → Bool
  init : Init
  handlerOn : Nat → Bool
  calls : Nat → Call
  restorer : Restorer
  unpublished : List Ack
  published : List Ack
  offers : List Offer

def initial : State where
  registry := .empty
  conn := 0
  attachment := Function.update (fun _ => .unused) 0 .attached
  ended _ := false
  init := .fresh
  handlerOn _ := false
  calls _ := .idle
  restorer := .idle
  unpublished := []
  published := []
  offers := []

/-- Notice, Queue and Stream hold the same mutex in `initNotifyHandler` and in
`ReplaceConnection`; KV and Schedule do not. -/
def locksInit : Domain → Bool
  | .notice | .queue | .stream => true
  | .kv | .schedule => false

/-- KV reads its connection under the mutex of `ReplaceConnection`. -/
def locksConn : Domain → Bool
  | .kv => true
  | .notice | .queue | .stream | .schedule => false

inductive Event
  | readConn
  | registerHandler (conn : Nat)
  | replaceConn (conn : Nat)
  | reregisterHandler (conn : Nat)
  | endConn (conn : Nat)
  | subscribe (call : Nat) (pattern : Pattern)
  | sendSubscribe (call : Nat) (pattern : Pattern)
  | ackSubscribe (call : Nat) (ack : Ack)
  | publish (call : Nat) (ack : Ack)
  | failSubscribe (call : Nat) (pattern : Pattern)
  | unsubscribe (pattern : Pattern) (handlerID : Nat)
  | clear
  | restore
  | sendRestore (pattern : Pattern) (left : List Pattern) (restored : List Ack)
  | ackRestore (ack : Ack) (left : List Pattern) (restored : List Ack)
  | acceptRestore (ack : Ack) (left : List Pattern) (restored : List Ack)
  | failRestore (restored : List Ack)
  | rollBack (ack : Ack) (restored : List Ack)
  | rolledBack
  | commitRestore (restored : List Ack)
  | finishRestore
  | notify (conn : Nat) (payload : Bytes)

def Init.isReading : Init → Bool
  | .reading _ => true
  | _ => false

def Call.pattern? : Call → Option Pattern
  | .begun pattern | .sent pattern _ => some pattern
  | .acked ack => some ack.pattern
  | .idle | .finished _ => none

/-- The response a call has, as long as it has not used it. -/
def Call.unused : Call → List Ack
  | .acked ack => [ack]
  | _ => []

/-- While `Restore` is asking the broker: the ids it has, and the patterns for
which it has none. -/
def Restorer.progress : Restorer → Option (List Ack × List Pattern)
  | .wiring left restored => some (restored, left)
  | .sent pattern _ left restored => some (restored, pattern :: left)
  | .acked ack left restored => some (restored, ack.pattern :: left)
  | .idle | .rollingBack _ | .finishing => none

def Restorer.unused : Restorer → List Ack
  | .acked ack _ _ => [ack]
  | _ => []

namespace State

def connReadable (state : State) (domain : Domain) : Prop :=
  locksConn domain = true → state.attachment state.conn ≠ .replacing

instance (state : State) (domain : Domain) : Decidable (state.connReadable domain) :=
  inferInstanceAs (Decidable (_ → _))

/-- Every subscription the broker has acknowledged and that was not removed. -/
def acks (state : State) : List Ack :=
  state.published ++ state.unpublished

end State

def Enabled (domain : Domain) (state : State) : Event → Prop
  | .readConn => state.init = .fresh
  | .registerHandler conn => state.init = .reading conn
  | .replaceConn conn =>
    state.attachment conn = .unused ∧ (locksInit domain = true → state.init.isReading = false)
  | .reregisterHandler conn => state.attachment conn = .replacing
  | .endConn _ => True
  | .subscribe call pattern =>
    state.calls call = .idle ∧ state.init = .registered ∧
      state.registry.restoring = false ∧
      pattern ∉ state.registry.pending
  | .sendSubscribe call pattern => state.calls call = .begun pattern ∧ state.connReadable domain
  | .ackSubscribe call ack =>
    state.calls call = .sent ack.pattern ack.conn ∧ state.ended ack.conn = false
  | .publish call ack => state.calls call = .acked ack
  | .failSubscribe call pattern => (state.calls call).pattern? = some pattern
  | .unsubscribe _ _ => state.registry.restoring = false
  | .clear => state.registry.restoring = false
  | .restore =>
    state.restorer = .idle ∧ state.registry.restoring = false ∧ state.registry.pending = []
  | .sendRestore pattern left restored =>
    state.restorer = .wiring (pattern :: left) restored ∧ state.connReadable domain
  | .ackRestore ack left restored =>
    state.restorer = .sent ack.pattern ack.conn left restored ∧ state.ended ack.conn = false
  | .acceptRestore ack left restored => state.restorer = .acked ack left restored
  | .failRestore restored =>
    state.restorer.progress.map Prod.fst = some restored ∧ state.restorer ≠ .wiring [] restored
  | .rollBack ack restored => state.restorer = .rollingBack (ack :: restored)
  | .rolledBack => state.restorer = .rollingBack []
  | .commitRestore restored => state.restorer = .wiring [] restored
  | .finishRestore => state.restorer = .finishing
  | .notify conn _ => state.ended conn = false

instance (domain : Domain) (state : State) (event : Event) :
    Decidable (Enabled domain state event) := by
  cases event <;> dsimp only [Enabled] <;> infer_instance

/-- `handleNotify`, called by the dispatch loop of `conn`. -/
def notifyOffers (domain : Domain) (state : State) (conn : Nat) (payload : Bytes) : List Offer :=
  match decodeNotify domain payload with
  | none => []
  | some notification =>
    if state.handlerOn conn ∧ acceptsPayload domain notification.payload then
      (state.registry.registrations notification.subID).map fun one =>
        ⟨one.handler, conn, notification⟩
    else []

def publish (state : State) (call : Nat) (ack : Ack) : State :=
  match state.registry.publish ack.pattern ack.subID call with
  | none =>
    { state with
      registry := state.registry.dropPending ack.pattern
      calls := Function.update state.calls call (.finished false)
      unpublished := state.unpublished.filter (· ≠ ack) }
  | some registry =>
    { state with
      registry
      calls := Function.update state.calls call (.finished true)
      unpublished := state.unpublished.filter (· ≠ ack)
      published := ack :: state.published }

def next (domain : Domain) (state : State) : Event → State
  | .readConn => { state with init := .reading state.conn }
  | .registerHandler conn =>
    { state with
      init := .registered
      handlerOn := Function.update state.handlerOn conn true }
  | .replaceConn conn =>
    { state with
      conn
      attachment := Function.update state.attachment conn .replacing }
  | .reregisterHandler conn =>
    { state with
      attachment := Function.update state.attachment conn .attached
      handlerOn :=
        if state.init = .registered then Function.update state.handlerOn conn true
        else state.handlerOn }
  | .endConn conn => { state with ended := Function.update state.ended conn true }
  | .subscribe call pattern =>
    { state with
      registry := state.registry.beginSubscribe pattern call
      calls := Function.update state.calls call
          (if (state.registry.lookup pattern).isSome then .finished true
            else .begun pattern) }
  | .sendSubscribe call pattern =>
    { state with
      calls := Function.update state.calls call (.sent pattern state.conn) }
  | .ackSubscribe call ack =>
    { state with
      calls := Function.update state.calls call (.acked ack)
      unpublished := ack :: state.unpublished }
  | .publish call ack => publish state call ack
  | .failSubscribe call pattern =>
    { state with
      registry := state.registry.dropPending pattern
      calls := Function.update state.calls call (.finished false)
      unpublished := state.unpublished.filter (· ∉ (state.calls call).unused) }
  | .unsubscribe pattern handlerID =>
    { state with
      registry := (state.registry.unsubscribe pattern handlerID).1
      published :=
        if (state.registry.unsubscribe pattern handlerID).2 then
          state.published.filter fun ack => ack.pattern ≠ pattern
        else state.published }
  | .clear => { state with registry := state.registry.clear, published := [] }
  | .restore =>
    if state.registry.byPattern = [] then state
    else
      { state with
        registry := { state.registry with restoring := true }
        restorer := .wiring state.registry.restoreOrder [] }
  | .sendRestore pattern left restored =>
    { state with restorer := .sent pattern state.conn left restored }
  | .ackRestore ack left restored =>
    { state with
      restorer := .acked ack left restored
      unpublished := ack :: state.unpublished }
  | .acceptRestore ack left restored =>
    { state with
      restorer :=
        if restored.any fun one => one.subID = ack.subID then
          .rollingBack (restored ++ [ack]).reverse
        else .wiring left (restored ++ [ack]) }
  | .failRestore restored =>
    { state with
      restorer := .rollingBack restored.reverse
      unpublished := state.unpublished.filter (· ∉ state.restorer.unused) }
  | .rollBack ack restored =>
    { state with
      restorer := .rollingBack restored
      unpublished := state.unpublished.filter (· ≠ ack) }
  | .rolledBack => { state with restorer := .finishing }
  | .commitRestore restored =>
    { state with
      registry := state.registry.commitRestore (restored.map Ack.restored)
      restorer := .finishing
      unpublished := state.unpublished.filter (· ∉ restored)
      published := restored ++ state.published }
  | .finishRestore =>
    { state with
      registry := { state.registry with restoring := false }
      restorer := .idle }
  | .notify conn payload =>
    { state with offers := state.offers ++ notifyOffers domain state conn payload }

def step (domain : Domain) : State → Event → Option State :=
  guarded (Enabled domain) (next domain)

end FitzGo.Subscriptions
