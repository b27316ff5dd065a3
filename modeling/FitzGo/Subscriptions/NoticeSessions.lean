import FitzGo.Library.StepMachine
import FitzGo.Subscriptions.Registry

/-!
# Notice subscriptions over many sessions

The notice client runs its operations one at a time under its mutex;
`ReplaceConnection` does not take it and comes between any two steps. The
broker's side is the set of pairs of id and pattern of the current session; an
id is not used twice in a session.
-/

namespace FitzGo.Subscriptions.NoticeSessions

open StepMachine

/-- A `Subscription`: it keeps the id that it was created with. -/
structure Handle where
  subID : Nat
  handlerID : Nat
  pattern : Pattern

/-- What the holder of `operations` is about to do, or has sent on which
connection. -/
inductive Operation
  | idle
  | subscribing (call : Nat) (pattern : Pattern)
  | subscribeSent (call : Nat) (pattern : Pattern) (conn subID : Nat)
  | unsubscribing (pattern : Pattern) (subID : Nat)
  | clearing (conn : Nat)
  | restoring (begun : Nat) (left : List Pattern) (restored : List Restored)
  | restoreSent (begun : Nat) (pattern : Pattern) (conn subID : Nat)
      (left : List Pattern) (restored : List Restored)
  | rollingBack (left : List Restored)
  deriving DecidableEq

/-- `conn` counts the connections, `restoredOn` is the last one for which the
subscriptions were restored, `issued` are the ids of the session. -/
structure State where
  registry : Registry Nat
  conn : Nat
  restoredOn : Nat
  broker : List (Nat × Pattern)
  issued : List Nat
  operation : Operation
  handles : Nat → Option Handle

def initial : State where
  registry := .empty
  conn := 0
  restoredOn := 0
  broker := []
  issued := []
  operation := .idle
  handles _ := none

inductive Event
  | subscribe (call : Nat) (pattern : Pattern)
  | sendSubscribe (call : Nat) (pattern : Pattern) (subID : Nat)
  | subscribeAnswered (call : Nat) (pattern : Pattern) (conn subID : Nat) (success : Bool)
  | unsubscribe (call : Nat)
  | sendUnsubscribe (pattern : Pattern) (subID : Nat)
  | unsubscribeAll
  | clearAnswered (conn : Nat) (success : Bool)
  | replaceConnection
  | restore
  | sendRestore (begun : Nat) (pattern : Pattern) (left : List Pattern)
      (restored : List Restored) (subID : Nat)
  | restoreAnswered (begun : Nat) (pattern : Pattern) (conn subID : Nat)
      (left : List Pattern) (restored : List Restored) (success : Bool)
  | commitRestore (begun : Nat) (restored : List Restored)
  | rollBack (one : Restored) (left : List Restored)
  | rolledBack

def Enabled (state : State) : Event → Prop
  | .subscribe call _ => state.operation = .idle ∧ state.handles call = none
  | .sendSubscribe call pattern subID =>
    state.operation = .subscribing call pattern ∧ subID ∉ state.issued
  | .subscribeAnswered call pattern conn subID success =>
    state.operation = .subscribeSent call pattern conn subID ∧ (success = false → conn ≠ state.conn)
  | .unsubscribe call => state.operation = .idle ∧ (state.handles call).isSome = true
  | .sendUnsubscribe pattern subID => state.operation = .unsubscribing pattern subID
  | .unsubscribeAll => state.operation = .idle
  | .clearAnswered conn success =>
    state.operation = .clearing conn ∧ (success = false → conn ≠ state.conn)
  | .replaceConnection => True
  | .restore => state.operation = .idle
  | .sendRestore begun pattern left restored subID =>
    state.operation = .restoring begun (pattern :: left) restored ∧ subID ∉ state.issued
  | .restoreAnswered begun pattern conn subID left restored success =>
    state.operation = .restoreSent begun pattern conn subID left restored ∧
      (success = false → conn ≠ state.conn)
  | .commitRestore begun restored => state.operation = .restoring begun [] restored
  | .rollBack one left => state.operation = .rollingBack (one :: left)
  | .rolledBack => state.operation = .rollingBack []

instance (state : State) (event : Event) : Decidable (Enabled state event) := by
  cases event <;> dsimp only [Enabled] <;> infer_instance

def State.unsubscribeID (state : State) (subID : Nat) : List (Nat × Pattern) :=
  state.broker.filter fun pair => pair.1 ≠ subID

/-- The answer to the SUBSCRIBE of `Subscribe` is entered, unless the registry
has the id. -/
def subscribeAnswered (state : State) (call : Nat) (pattern : Pattern) (subID : Nat) : State :=
  match state.registry.publish pattern subID call with
  | none =>
    { state with
      registry := state.registry.dropPending pattern
      operation := .idle }
  | some registry =>
    { state with
      registry
      operation := .idle
      handles := Function.update state.handles call
        (some ⟨subID, state.registry.nextHandlerID + 1, pattern⟩) }

def next (state : State) : Event → State
  | .subscribe call pattern =>
    match state.registry.lookup pattern with
    | some entry =>
      { state with
        registry := state.registry.beginSubscribe pattern call
        handles := Function.update state.handles call
          (some ⟨entry.subID, state.registry.nextHandlerID + 1, pattern⟩) }
    | none =>
      { state with
        registry := state.registry.beginSubscribe pattern call
        operation := .subscribing call pattern }
  | .sendSubscribe call pattern subID =>
    { state with
      operation := .subscribeSent call pattern state.conn subID
      broker := (subID, pattern) :: state.broker
      issued := subID :: state.issued }
  | .subscribeAnswered call pattern _ subID success =>
    match success with
    | true => subscribeAnswered state call pattern subID
    | false =>
      { state with
        registry := state.registry.dropPending pattern
        operation := .idle }
  | .unsubscribe call =>
    match state.handles call with
    | none => state
    | some handle =>
      { state with
        registry := (state.registry.unsubscribe handle.pattern handle.handlerID).1
        operation :=
          if (state.registry.unsubscribe handle.pattern handle.handlerID).2 = true then
            .unsubscribing handle.pattern handle.subID
          else .idle }
  | .sendUnsubscribe _ subID =>
    { state with
      broker := state.unsubscribeID subID
      operation := .idle }
  | .unsubscribeAll => { state with broker := [], operation := .clearing state.conn }
  | .clearAnswered _ success =>
    { state with
      registry :=
        match success with
        | true => state.registry.clear
        | false => state.registry
      operation := .idle }
  | .replaceConnection => { state with conn := state.conn + 1, broker := [], issued := [] }
  | .restore =>
    match state.registry.byPattern with
    | [] => { state with restoredOn := state.conn }
    | _ :: _ =>
      { state with
        registry := { state.registry with restoring := true }
        operation := .restoring state.conn state.registry.restoreOrder [] }
  | .sendRestore begun pattern left restored subID =>
    { state with
      operation := .restoreSent begun pattern state.conn subID left restored
      broker := (subID, pattern) :: state.broker
      issued := subID :: state.issued }
  | .restoreAnswered begun pattern _ subID left restored success =>
    { state with
      operation :=
        match success with
        | false => .rollingBack restored.reverse
        | true =>
          if subID ∈ restored.map Restored.subID then
            .rollingBack (⟨pattern, subID⟩ :: restored.reverse)
          else .restoring begun left (restored ++ [⟨pattern, subID⟩]) }
  | .commitRestore begun restored =>
    { state with
      registry := { state.registry.commitRestore restored with restoring := false }
      restoredOn := begun
      operation := .idle }
  | .rollBack one left =>
    { state with
      broker := state.unsubscribeID one.subID
      operation := .rollingBack left }
  | .rolledBack =>
    { state with
      registry := { state.registry with restoring := false }
      operation := .idle }

def step : State → Event → Option State :=
  guarded Enabled next

/-! ## What is claimed -/

/-- No operation is in progress, and the last replacement has been restored. -/
def Settled (state : State) : Prop :=
  state.operation = .idle ∧ state.restoredOn = state.conn

def BrokerAgrees (state : State) : Prop :=
  ∀ subID pattern, (subID, pattern) ∈ state.broker ↔ state.registry.subIDOf pattern = some subID

/-- On a session that has been restored, an `Unsubscribe` that removes the last
handler has the id of the entry, `Subscribe` sends only on such a session, and a
`Restore` sends only on a session that it begins with and that has not been
restored. -/
def Orderly (state : State) : Event → Prop
  | .sendSubscribe _ _ _ => state.restoredOn = state.conn
  | .unsubscribe call =>
    ∀ handle ∈ state.handles call, (state.registry.unsubscribe handle.pattern
          handle.handlerID).2 = true →
      state.restoredOn = state.conn →
      state.registry.subIDOf handle.pattern = some handle.subID
  | .restore => state.restoredOn = state.conn → state.registry.byPattern = []
  | .sendRestore begun _ _ _ _ => begun = state.conn
  | .subscribe _ _ | .subscribeAnswered _ _ _ _ _ | .sendUnsubscribe _ _
  | .unsubscribeAll | .clearAnswered _ _ | .replaceConnection
  | .restoreAnswered _ _ _ _ _ _ _ | .commitRestore _ _ | .rollBack _ _
  | .rolledBack => True

instance (state : State) (event : Event) : Decidable (Orderly state event) := by
  rcases event with ⟨⟩ <;> dsimp only [Orderly] <;> infer_instance

/-! ## The invariant -/

/-- The pairs that the broker has on a session that has been restored. -/
def RestoredPairs (state : State) (subID : Nat) (pattern : Pattern) : Prop :=
  match state.operation with
  | .subscribeSent _ name _ sent | .unsubscribing name sent =>
    state.registry.subIDOf pattern = some subID ∨ (pattern = name ∧ subID = sent)
  | .clearing _ => False
  | .idle | .subscribing _ _ | .restoring _ _ _ | .restoreSent _ _ _ _ _ _
  | .rollingBack _ => state.registry.subIDOf pattern = some subID

/-- The pairs that it has before: what a `Restore` has subscribed so far. -/
def RestoringPairs (state : State) (subID : Nat) (pattern : Pattern) : Prop :=
  match state.operation with
  | .restoring begun _ restored => begun = state.conn ∧ ⟨pattern, subID⟩ ∈ restored
  | .restoreSent begun name _ sent _ restored =>
    begun = state.conn ∧ (⟨pattern, subID⟩ ∈ restored ∨ (pattern = name ∧ subID = sent))
  | .idle | .subscribing _ _ | .subscribeSent _ _ _ _
  | .unsubscribing _ _ | .clearing _ | .rollingBack _ => False

/-- `Restore` has an id for each of its patterns up to here. -/
structure Resubscribed (registry : Registry Nat) (left : List Pattern)
    (restored : List Restored) : Prop where
  order : registry.restoreOrder = restored.map Restored.pattern ++ left
  ids : (restored.map Restored.subID).Nodup

def Operation.Sound (state : State) : Operation → Prop
  | .idle => True
  | .subscribing _ pattern => state.registry.lookup pattern = none
  | .subscribeSent _ pattern conn subID =>
    state.registry.lookup pattern = none ∧
      state.registry.bySubID subID = none ∧
      (state.restoredOn = state.conn → conn = state.conn)
  | .unsubscribing pattern subID =>
    state.registry.subIDOf pattern = none ∧
      (state.restoredOn = state.conn → ∀ name, state.registry.subIDOf name ≠ some subID)
  | .clearing conn => state.restoredOn = state.conn → conn = state.conn
  | .restoring begun left restored =>
    state.restoredOn ≠ state.conn ∧ begun ≤ state.conn ∧ Resubscribed state.registry left restored
  | .restoreSent begun pattern conn subID left restored =>
    state.restoredOn ≠ state.conn ∧ begun ≤ state.conn ∧ conn = begun ∧
      subID ∉ restored.map Restored.subID ∧
      Resubscribed state.registry (pattern :: left) restored
  | .rollingBack _ => state.restoredOn ≠ state.conn

structure Inv (state : State) : Prop where
  consistent : state.registry.Consistent
  bounded : state.restoredOn ≤ state.conn
  issued : ∀ subID pattern, (subID, pattern) ∈ state.broker → subID ∈ state.issued
  sound : state.operation.Sound state
  restored : state.restoredOn = state.conn → ∀ subID pattern,
    (subID, pattern) ∈ state.broker ↔ RestoredPairs state subID pattern
  unrestored : state.restoredOn ≠ state.conn → ∀ subID pattern,
    (subID, pattern) ∈ state.broker ↔ RestoringPairs state subID pattern

theorem initial_inv : Inv initial where
  consistent := Registry.empty_consistent
  bounded := Nat.le_refl 0
  issued subID pattern member := by
    cases member
  sound := trivial
  restored _ subID pattern := by
    simp [RestoredPairs, initial, Registry.subIDOf, Registry.lookup, Registry.empty]
  unrestored never := absurd rfl never

variable {state : State} {registry : Registry Nat} {pattern : Pattern}

theorem subIDOf_eq_none_iff : registry.subIDOf pattern = none ↔ registry.lookup pattern = none := by
  simp [Registry.subIDOf]

/-- A `Restore` that has subscribed something. -/
def Operation.isRestore : Operation → Bool
  | .restoring _ _ _ | .restoreSent _ _ _ _ _ _ => true
  | .idle | .subscribing _ _ | .subscribeSent _ _ _ _ | .unsubscribing _ _
  | .clearing _ | .rollingBack _ => false

private theorem not_restoringPairs (quiet : state.operation.isRestore = false)
    (subID : Nat) (pattern : Pattern) : ¬ RestoringPairs state subID pattern := by
  cases here : state.operation with
  | restoring begun left restored | restoreSent begun name conn sent left restored =>
    rw [here] at quiet
    cases quiet
  | idle | subscribing _ _ | subscribeSent _ _ _ _ | unsubscribing _ _
  | clearing _ | rollingBack _ => simp [RestoringPairs, here]

section

variable (inv : Inv state)
include inv

theorem Inv.stays_empty {after : State} (before : state.operation.isRestore = false)
    (now : after.operation.isRestore = false) (kept : ∀ pair ∈ after.broker, pair ∈ state.broker)
    (unrestored : state.restoredOn ≠ state.conn) :
    ∀ subID pattern, (subID, pattern) ∈ after.broker ↔ RestoringPairs after subID pattern := by
  intro subID pattern
  refine iff_of_false (fun member => ?_) (not_restoringPairs now subID pattern)
  have old := (inv.unrestored unrestored subID pattern).mp (kept _ member)
  exact not_restoringPairs before subID pattern old

variable {call subID : Nat}

theorem Inv.bySubID_eq_none (here : state.operation = .subscribing call pattern)
    (restored : state.restoredOn = state.conn) (fresh : subID ∉ state.issued) :
    state.registry.bySubID subID = none := by
  cases found : state.registry.bySubID subID with
  | none => rfl
  | some name =>
    have registered := (inv.consistent.agree name subID).mpr found
    have member : (subID, name) ∈ state.broker := by
      rw [inv.restored restored]
      simpa [RestoredPairs, here] using registered
    exact absurd (inv.issued subID name member) fresh

private theorem subscribe_inv
    (here : state.operation = .idle) : Inv (next state (.subscribe call pattern)) := by
  have consistent : (state.registry.beginSubscribe pattern call).Consistent :=
    Registry.beginSubscribe_consistent inv.consistent
  have same : ∀ name,
      (state.registry.beginSubscribe pattern call).subIDOf name = state.registry.subIDOf name :=
    fun name => Registry.subIDOf_beginSubscribe
  cases found : state.registry.lookup pattern with
  | some entry =>
    simp only [next, found]
    refine ⟨consistent, inv.bounded, inv.issued, ?_, ?_, ?_⟩
    · simp [here, Operation.Sound]
    · intro restored subID name
      have old := inv.restored restored subID name
      simpa [RestoredPairs, here, same] using old
    · exact inv.stays_empty (by rw [here]; rfl) (by rw [here]; rfl) (fun _ kept => kept)
  | none =>
    simp only [next, found]
    refine ⟨consistent, inv.bounded, inv.issued, ?_, ?_, ?_⟩
    · have absent : state.registry.subIDOf pattern = none := subIDOf_eq_none_iff.mpr found
      rw [← same] at absent
      exact subIDOf_eq_none_iff.mp absent
    · intro restored subID name
      have old := inv.restored restored subID name
      simpa [RestoredPairs, here, same] using old
    · exact inv.stays_empty (by rw [here]; rfl) rfl (fun _ kept => kept)

theorem issued_cons : ∀ other name, (other, name) ∈ (subID, pattern) :: state.broker →
      other ∈ subID :: state.issued := by
  intro other name member
  rcases List.mem_cons.mp member with same | old
  · cases same
    exact List.mem_cons_self
  · exact List.mem_cons_of_mem _ (inv.issued other name old)

private theorem sendSubscribe_inv (here : state.operation = .subscribing call pattern)
    (fresh : subID ∉ state.issued) (restored : state.restoredOn = state.conn) :
    Inv (next state (.sendSubscribe call pattern subID)) := by
  have sound := inv.sound
  rw [here] at sound
  have absent : state.registry.lookup pattern = none := sound
  refine ⟨inv.consistent, inv.bounded, issued_cons inv, ?_, ?_, ?_⟩
  · exact ⟨absent, inv.bySubID_eq_none here restored fresh, fun _ => rfl⟩
  · intro _ other name
    have old := inv.restored restored other name
    simp only [RestoredPairs, here] at old
    simp only [next, List.mem_cons, Prod.mk.injEq, old, RestoredPairs]
    tauto
  · exact fun unrestored => absurd restored unrestored

variable {conn : Nat}

private theorem subscribeFailed_inv
    (here : state.operation = .subscribeSent call pattern conn subID) (failed : conn ≠ state.conn) :
    Inv (next state (.subscribeAnswered call pattern conn subID false)) := by
  have sound := inv.sound
  rw [here] at sound
  refine ⟨inv.consistent.congr rfl rfl, inv.bounded, inv.issued, trivial, ?_, ?_⟩
  · exact fun restored => absurd (sound.2.2 restored) failed
  · exact inv.stays_empty (by rw [here]; rfl) rfl (fun _ kept => kept)

theorem subscribeSucceeded_inv (here : state.operation = .subscribeSent call pattern conn subID) :
    Inv (next state (.subscribeAnswered call pattern conn subID true)) := by
  have sound := inv.sound
  rw [here] at sound
  obtain ⟨absent, unused, _⟩ := sound
  obtain ⟨registry, published⟩ : ∃ registry,
      state.registry.publish pattern subID call = some registry := by
    simp [Registry.publish, unused]
  simp only [next, subscribeAnswered, published]
  refine ⟨Registry.publish_consistent inv.consistent absent published,
    inv.bounded, inv.issued, trivial, ?_, ?_⟩
  · intro restored other name
    have absentID : state.registry.subIDOf pattern = none := subIDOf_eq_none_iff.mpr absent
    have old := inv.restored restored other name
    simp only [RestoredPairs, here] at old
    simp only [RestoredPairs, old, Registry.subIDOf_publish published]
    by_cases same : name = pattern
    · simp [same, absentID, eq_comm]
    · simp [same]
  · exact inv.stays_empty (by rw [here]; rfl) rfl (fun _ kept => kept)

theorem unsubscribe_inv {handle : Handle}
    (here : state.operation = .idle) (found : state.handles call = some handle)
    (current : (state.registry.unsubscribe handle.pattern handle.handlerID).2 = true →
      state.restoredOn = state.conn → state.registry.subIDOf handle.pattern = some handle.subID) :
    Inv (next state (.unsubscribe call)) := by
  have consistent : (state.registry.unsubscribe handle.pattern handle.handlerID).1.Consistent :=
    Registry.unsubscribe_consistent inv.consistent
  simp only [next, found]
  by_cases last : (state.registry.unsubscribe handle.pattern handle.handlerID).2 = true
  · rw [if_pos last]
    refine ⟨consistent, inv.bounded, inv.issued, ⟨?_, ?_⟩, ?_, ?_⟩
    · simp [Registry.subIDOf_unsubscribe, last]
    · intro restored name registered
      simp only [Registry.subIDOf_unsubscribe, last, true_and] at registered
      split at registered
      · cases registered
      · rename_i different
        have mine := current last restored
        have entered := (inv.consistent.agree handle.pattern handle.subID).mp mine
        have other := (inv.consistent.agree name handle.subID).mp registered
        rw [entered] at other
        cases other
        exact different rfl
    · intro restored subID name
      have mine := current last restored
      have old := inv.restored restored subID name
      simp only [RestoredPairs, here] at old
      simp only [RestoredPairs, old, Registry.subIDOf_unsubscribe, last, true_and]
      by_cases same : name = handle.pattern
      · simp [same, mine, eq_comm]
      · simp [same]
    · exact inv.stays_empty (by rw [here]; rfl) rfl (fun _ kept => kept)
  · rw [if_neg last]
    refine ⟨consistent, inv.bounded, inv.issued, trivial, ?_, ?_⟩
    · intro restored subID name
      have old := inv.restored restored subID name
      simpa [RestoredPairs, here, Registry.subIDOf_unsubscribe, last] using old
    · exact inv.stays_empty (by rw [here]; rfl) rfl (fun _ kept => kept)

end

theorem mem_unsubscribeID {sent : Nat} : (subID, pattern) ∈ state.unsubscribeID sent ↔
      (subID, pattern) ∈ state.broker ∧ subID ≠ sent := by
  simp [State.unsubscribeID]

section

variable (inv : Inv state)
include inv

theorem issued_unsubscribeID (sent : Nat) :
    ∀ other name, (other, name) ∈ state.unsubscribeID sent → other ∈ state.issued := by
  intro other name member
  exact inv.issued other name (mem_unsubscribeID.mp member).1

private theorem sendUnsubscribe_inv (here : state.operation = .unsubscribing pattern subID) :
    Inv (next state (.sendUnsubscribe pattern subID)) := by
  have sound := inv.sound
  rw [here] at sound
  refine ⟨inv.consistent, inv.bounded, issued_unsubscribeID inv subID, trivial, ?_, ?_⟩
  · intro restored other name
    have unused := sound.2 restored name
    have old := inv.restored restored other name
    simp only [RestoredPairs, here] at old
    simp only [next, mem_unsubscribeID, old, RestoredPairs]
    constructor
    · rintro ⟨registered | ⟨_, same⟩, different⟩
      · exact registered
      · exact absurd same different
    · intro registered
      refine ⟨Or.inl registered, ?_⟩
      rintro rfl
      exact unused registered
  · exact inv.stays_empty (by rw [here]; rfl) rfl (fun _ member => (mem_unsubscribeID.mp member).1)

private theorem unsubscribeAll_inv : Inv (next state .unsubscribeAll) := by
  refine ⟨inv.consistent, inv.bounded, nofun, fun _ => rfl, ?_, ?_⟩
  · intro restored other name
    simp [next, RestoredPairs]
  · intro unrestored other name
    simp [next, RestoringPairs]

theorem clearAnswered_inv {success : Bool}
    (here : state.operation = .clearing conn) (failed : success = false → conn ≠ state.conn) :
    Inv (next state (.clearAnswered conn success)) := by
  have sound := inv.sound
  rw [here] at sound
  cases success with
  | true =>
    refine ⟨Registry.clear_consistent _, inv.bounded, inv.issued, trivial, ?_, ?_⟩
    · intro restored other name
      have old := inv.restored restored other name
      simpa [next, RestoredPairs, here, Registry.subIDOf, Registry.lookup, Registry.clear] using old
    · exact inv.stays_empty (by rw [here]; rfl) rfl (fun _ kept => kept)
  | false =>
    refine ⟨inv.consistent, inv.bounded, inv.issued, trivial, ?_, ?_⟩
    · exact fun restored => absurd (sound restored) (failed rfl)
    · exact inv.stays_empty (by rw [here]; rfl) rfl (fun _ kept => kept)

theorem replaceConnection_inv : Inv (next state .replaceConnection) := by
  have bounded := inv.bounded
  have later : state.restoredOn ≠ state.conn + 1 := by omega
  refine ⟨inv.consistent, Nat.le_succ_of_le bounded, nofun, ?_, ?_, ?_⟩
  · have sound := inv.sound
    cases here : state.operation with
    | idle =>
      simp only [next, here]
      trivial
    | subscribing call pattern =>
      rw [here] at sound
      simp only [next, here]
      exact sound
    | subscribeSent call pattern conn subID =>
      rw [here] at sound
      simp only [next, here]
      exact ⟨sound.1, sound.2.1, fun restored => absurd restored later⟩
    | unsubscribing pattern subID =>
      rw [here] at sound
      simp only [next, here]
      exact ⟨sound.1, fun restored => absurd restored later⟩
    | clearing conn =>
      simp only [next, here]
      exact fun restored => absurd restored later
    | rollingBack left =>
      simp only [next, here]
      exact later
    | _ =>
      rw [here] at sound
      simp only [next, here]
      exact ⟨later, Nat.le_succ_of_le sound.2.1, sound.2.2⟩
  · exact fun restored => absurd restored later
  · intro _ subID pattern
    have sound := inv.sound
    simp only [next, List.not_mem_nil, false_iff]
    cases here : state.operation with
    | restoring begun left restored | restoreSent begun name conn sent left restored =>
      rw [here] at sound
      have earlier := sound.2.1
      simp only [RestoringPairs]
      omega
    | idle | subscribing _ _ | subscribeSent _ _ _ _ | unsubscribing _ _
    | clearing _ | rollingBack _ => simp [RestoringPairs]

theorem restore_inv (here : state.operation = .idle)
    (once : state.restoredOn = state.conn → state.registry.byPattern = []) :
    Inv (next state .restore) := by
  dsimp only [next]
  split
  · rename_i entries
    have empty : ∀ pattern, state.registry.subIDOf pattern = none := by
      intro pattern
      simp [Registry.subIDOf, Registry.lookup, entries]
    refine ⟨inv.consistent, Nat.le_refl _, inv.issued, ?_, ?_, ?_⟩
    · simp [here, Operation.Sound]
    · intro _ subID pattern
      by_cases restored : state.restoredOn = state.conn
      · have old := inv.restored restored subID pattern
        simpa [RestoredPairs, here] using old
      · have old := inv.unrestored restored subID pattern
        simpa [RestoredPairs, RestoringPairs, here, empty] using old
    · exact fun never => absurd rfl never
  · rename_i entry rest entries
    have unrestored : state.restoredOn ≠ state.conn := by
      intro restored
      rw [once restored] at entries
      cases entries
    refine ⟨inv.consistent.congr rfl rfl, inv.bounded, inv.issued, ?_, ?_, ?_⟩
    · exact ⟨unrestored, Nat.le_refl _, rfl, List.nodup_nil⟩
    · exact fun restored => absurd restored unrestored
    · intro _ subID pattern
      have old := inv.unrestored unrestored subID pattern
      simpa [RestoringPairs, here] using old

variable {begun : Nat} {restored : List Restored} {left : List Pattern}

theorem sendRestore_inv (here : state.operation = .restoring begun (pattern :: left) restored)
    (fresh : subID ∉ state.issued) (same : begun = state.conn) :
    Inv (next state (.sendRestore begun pattern left restored subID)) := by
  have sound := inv.sound
  rw [here] at sound
  obtain ⟨unrestored, earlier, resubscribed⟩ := sound
  have old := inv.unrestored unrestored
  simp only [RestoringPairs, here, same, true_and] at old
  refine ⟨inv.consistent, inv.bounded, issued_cons inv, ?_, ?_, ?_⟩
  · refine ⟨unrestored, earlier, same.symm, fun member => ?_, resubscribed⟩
    obtain ⟨one, listed, rfl⟩ := List.mem_map.mp member
    have entered := (old one.subID one.pattern).mpr listed
    exact fresh (inv.issued one.subID one.pattern entered)
  · exact fun restored => absurd restored unrestored
  · intro _ other name
    simp only [next, List.mem_cons, Prod.mk.injEq, old, RestoringPairs, same, true_and]
    tauto

theorem restoreFailed_inv
    (here : state.operation = .restoreSent begun pattern conn subID left restored)
    (failed : conn ≠ state.conn) :
    Inv (next state (.restoreAnswered begun pattern conn subID left restored false)) := by
  have sound := inv.sound
  rw [here] at sound
  obtain ⟨unrestored, _, sameConn, _⟩ := sound
  have gone : begun ≠ state.conn := by
    rw [← sameConn]
    exact failed
  refine ⟨inv.consistent, inv.bounded, inv.issued, unrestored, ?_, ?_⟩
  · exact fun restored => absurd restored unrestored
  · intro _ other name
    have old := inv.unrestored unrestored other name
    simpa [next, RestoringPairs, here, gone] using old

end

theorem Resubscribed.answered {pattern : Pattern} {left : List Pattern} {restored : List Restored}
    (resubscribed : Resubscribed registry (pattern :: left) restored)
    (new : subID ∉ restored.map Restored.subID) :
    Resubscribed registry left (restored ++ [⟨pattern, subID⟩]) where
  order := by
    rw [resubscribed.order]
    simp
  ids := by
    rw [List.map_append, List.nodup_append]
    refine ⟨resubscribed.ids, by simp, ?_⟩
    intro id member other listed
    simp only [List.map_cons, List.map_nil, List.mem_singleton] at listed
    rintro rfl
    rw [listed] at member
    exact new member

theorem restoreSucceeded_inv (inv : Inv state)
    (here : state.operation = .restoreSent begun pattern conn subID left restored) :
    Inv (next state (.restoreAnswered begun pattern conn subID left restored true)) := by
  have sound := inv.sound
  rw [here] at sound
  obtain ⟨unrestored, earlier, _, new, resubscribed⟩ := sound
  simp only [next, if_neg new]
  refine ⟨inv.consistent, inv.bounded, inv.issued,
    ⟨unrestored, earlier, resubscribed.answered new⟩, ?_, ?_⟩
  · exact fun restored => absurd restored unrestored
  · intro _ other name
    have old := inv.unrestored unrestored other name
    simpa [RestoringPairs, here] using old

theorem Resubscribed.complete {restored : List Restored} (consistent : registry.Consistent)
    (resubscribed : Resubscribed registry [] restored) : registry.Complete restored := by
  have order : registry.restoreOrder = restored.map Restored.pattern := by
    rw [resubscribed.order, List.append_nil]
  refine ⟨?_, resubscribed.ids, fun pattern => ?_⟩
  · rw [← order]
    exact consistent.restoreOrder_nodup
  · rw [← order]
    exact Registry.mem_restoreOrder.symm

theorem commitRestore_inv (inv : Inv state)
    (here : state.operation = .restoring begun [] restored) :
    Inv (next state (.commitRestore begun restored)) := by
  have sound := inv.sound
  rw [here] at sound
  obtain ⟨unrestored, earlier, resubscribed⟩ := sound
  have complete := resubscribed.complete inv.consistent
  have old := inv.unrestored unrestored
  simp only [RestoringPairs, here] at old
  refine ⟨(complete.commitRestore_consistent inv.consistent).congr rfl rfl,
    earlier, inv.issued, trivial, ?_, ?_⟩
  · intro same subID pattern
    have current : begun = state.conn := same
    have entered : (state.registry.commitRestore restored).subIDOf pattern = some subID ↔
          ⟨pattern, subID⟩ ∈ restored := by
      rw [complete.subIDOf_commitRestore]
      exact Registry.restoredID_eq_some_iff complete.patterns
    simp only [next, RestoredPairs, old, current, true_and]
    exact entered.symm
  · intro different subID pattern
    have gone : begun ≠ state.conn := different
    simp [next, RestoringPairs, old, gone]

theorem rollBack_inv (inv : Inv state) {one : Restored} {left : List Restored}
    (here : state.operation = .rollingBack (one :: left)) :
    Inv (next state (.rollBack one left)) := by
  have sound := inv.sound
  rw [here] at sound
  have unrestored : state.restoredOn ≠ state.conn := sound
  refine ⟨inv.consistent, inv.bounded, issued_unsubscribeID inv one.subID, unrestored, ?_, ?_⟩
  · exact fun restored => absurd restored unrestored
  · exact inv.stays_empty (by rw [here]; rfl) rfl (fun _ member => (mem_unsubscribeID.mp member).1)

theorem rolledBack_inv (inv : Inv state) (here : state.operation = .rollingBack []) :
    Inv (next state .rolledBack) := by
  have sound := inv.sound
  rw [here] at sound
  have unrestored : state.restoredOn ≠ state.conn := sound
  refine ⟨inv.consistent.congr rfl rfl, inv.bounded, inv.issued, trivial, ?_, ?_⟩
  · exact fun restored => absurd restored unrestored
  · exact inv.stays_empty (by rw [here]; rfl) rfl (fun _ kept => kept)

/-! ## Runs -/

theorem step_inv {after : State} {event : Event} (inv : Inv state)
    (met : Orderly state event) (stepped : step state event = some after) : Inv after := by
  obtain ⟨enabled, rfl⟩ := guarded_eq_some_iff.mp stepped
  cases event with
  | subscribe call pattern => exact subscribe_inv inv enabled.1
  | sendSubscribe call pattern subID => exact sendSubscribe_inv inv enabled.1 enabled.2 met
  | subscribeAnswered call pattern conn subID success =>
    cases success with
    | true => exact subscribeSucceeded_inv inv enabled.1
    | false => exact subscribeFailed_inv inv enabled.1 (enabled.2 rfl)
  | unsubscribe call =>
    obtain ⟨handle, found⟩ := Option.isSome_iff_exists.mp enabled.2
    exact unsubscribe_inv inv enabled.1 found (met handle found)
  | sendUnsubscribe pattern subID => exact sendUnsubscribe_inv inv enabled
  | unsubscribeAll => exact unsubscribeAll_inv inv
  | clearAnswered conn success => exact clearAnswered_inv inv enabled.1 enabled.2
  | replaceConnection => exact replaceConnection_inv inv
  | restore => exact restore_inv inv enabled met
  | sendRestore begun pattern left restored subID =>
    exact sendRestore_inv inv enabled.1 enabled.2 met
  | restoreAnswered begun pattern conn subID left restored success =>
    cases success with
    | true => exact restoreSucceeded_inv inv enabled.1
    | false => exact restoreFailed_inv inv enabled.1 (enabled.2 rfl)
  | commitRestore begun restored => exact commitRestore_inv inv enabled
  | rollBack one left => exact rollBack_inv inv enabled
  | rolledBack => exact rolledBack_inv inv enabled

/-- Whenever no operation is in progress and the session has been restored, the
broker has the pairs of the registry. -/
theorem broker_has_the_registered_pairs {events : List Event} {final : State}
    (met : Along step Orderly initial events) (ran : run step initial events = some final)
    (settled : Settled final) : BrokerAgrees final := by
  have inv := invariant_along Inv step_inv initial_inv met ran
  intro subID pattern
  have pairs := inv.restored settled.2 subID pattern
  simpa [RestoredPairs, settled.1] using pairs

/-- Two patterns are restored on a second session, with the ids the other way
round; one more is subscribed there and removed again. -/
def restoredRun : List Event :=
  [.subscribe 0 "a", .sendSubscribe 0 "a" 1, .subscribeAnswered 0 "a" 0 1 true,
    .subscribe 1 "b", .sendSubscribe 1 "b" 2,
    .subscribeAnswered 1 "b" 0 2 true,
    .replaceConnection, .restore,
    .sendRestore 1 "a" ["b"] [] 2,
    .restoreAnswered 1 "a" 1 2 ["b"] [] true,
    .sendRestore 1 "b" [] [⟨"a", 2⟩] 1,
    .restoreAnswered 1 "b" 1 1 [] [⟨"a", 2⟩] true,
    .commitRestore 1 [⟨"a", 2⟩, ⟨"b", 1⟩],
    .subscribe 2 "c", .sendSubscribe 2 "c" 3,
    .subscribeAnswered 2 "c" 1 3 true,
    .unsubscribe 2, .sendUnsubscribe "c" 3]

theorem restoredRun_agrees : ∃ final, run step initial restoredRun = some final ∧
      BrokerAgrees final ∧ final.broker = [(1, "b"), (2, "a")] := by
  obtain ⟨final, ran, idle, restoredOn, broker⟩ :
      ∃ final, run step initial restoredRun = some final ∧ final.operation = .idle ∧
        final.restoredOn = final.conn ∧ final.broker = [(1, "b"), (2, "a")] := by
    decide +kernel
  exact ⟨final, ran,
    broker_has_the_registered_pairs (by decide +kernel) ran ⟨idle, restoredOn⟩, broker⟩

/-- The `Subscription` of the first session is removed after a `Restore`. -/
def staleIDRun : List Event :=
  [.subscribe 0 "a", .sendSubscribe 0 "a" 1, .subscribeAnswered 0 "a" 0 1 true,
    .replaceConnection, .restore,
    .sendRestore 1 "a" [] [] 2,
    .restoreAnswered 1 "a" 1 2 [] [] true,
    .commitRestore 1 [⟨"a", 2⟩],
    .unsubscribe 0, .sendUnsubscribe "a" 1]

/-- The UNSUBSCRIBE names the id of the first session; the broker keeps the
pattern, and the registry is empty. -/
theorem stale_id_leaves_a_pair_at_the_broker : ∃ final, run step initial staleIDRun = some final ∧
      Settled final ∧ final.broker = [(2, "a")] ∧ ¬ BrokerAgrees final := by
  obtain ⟨final, ran, idle, restoredOn, broker, removed⟩ :
      ∃ final, run step initial staleIDRun = some final ∧ final.operation = .idle ∧
        final.restoredOn = final.conn ∧ final.broker = [(2, "a")] ∧
        final.registry.subIDOf "a" = none := by
    decide +kernel
  refine ⟨final, ran, ⟨idle, restoredOn⟩, broker, fun agrees => ?_⟩
  have registered : final.registry.subIDOf "a" = some 2 := by
    apply (agrees 2 "a").mp
    simp [broker]
  rw [removed] at registered
  cases registered

end FitzGo.Subscriptions.NoticeSessions
