import FitzGo.Subscriptions.ClientCalls

/-!
# The terminal state of a subscription

A `Completion` gets its value from the saturation that ends the registration, or
from the removal, whichever is first. `Subscribe` asks for the `Completion` in
a section of its own; if both come before it, `Subscribe` gets nil.
-/

namespace FitzGo.Subscriptions.Heap

namespace Exclusion

variable {H Pattern E : Type} [LinearOrder Pattern] [Inhabited Pattern]
variable {state : State H Pattern E} {event : Event H Pattern E}

/-- A call that has returned keeps its handler id. -/
def KeepsHandlerIDs (before after : State H Pattern E) : Prop :=
  ∀ call handlerID, (before.subscribes call).handlerID = some handlerID →
    (after.subscribes call).handlerID = some handlerID

theorem next_keepsHandlerIDs (enabled : Enabled state event) :
    KeepsHandlerIDs state (next state event) := by
  intro call handlerID returned
  by_cases mine : event.caller = some call
  · cases phase : state.subscribes call with
    | returned result =>
      cases event with
      | attempt | wireAnswers | publish =>
        cases mine
        simp [Enabled, phase, SubscribeCall.isIdle, SubscribeCall.isCalling,
          SubscribeCall.isAnswered] at enabled
      | _ => cases mine
    | _ =>
      rw [phase] at returned
      cases returned
  · rw [subscribes_next_of_ne mine]
    exact returned

end Exclusion

namespace Clients

open Connection (Domain)
open StepMachine

variable {H E : Type}

/-! ## What is claimed -/

/-- The event ends the registration of the `Completion`, and this is what the
`Completion` is then to yield. -/
inductive Ends (state : State H E) : Event H E → Nat → Terminal → Prop
  | saturated (delivery : Delivery) :
      Ends state (.saturated delivery) delivery.completion (.overflow delivery.subID)
  | unsubscribe {call completion : Nat} {handle : Handle} : state.handles call = some handle →
      state.core.registry.completion handle.pattern handle.handlerID = some completion →
      Ends state (.unsubscribe call) completion .unsubscribed
  | unsubscribeAll {completion : Nat} {pattern : String}
      {handlerID : UInt64} :
      state.core.registry.completion pattern handlerID = some completion →
      Ends state .unsubscribeAll completion .unsubscribed

/-- A `Completion` has the value of what ended its registration first. -/
def FirstEndCounts (domain : Domain) (state : State H E) (event : Event H E) : Prop :=
  ∀ completion terminal, (next domain state event).outcomes completion = some terminal ↔
      state.outcomes completion = some terminal ∨
        (state.outcomes completion = none ∧ Ends state event completion terminal)

/-- Every `Subscription` has its `Completion`, and it has a value once the
registration is gone. -/
def TerminalKept (state : State H E) : Prop :=
  ∀ call handle, state.handles call = some handle →
    ∃ completion, handle.completion = some completion ∧
      (state.core.registry.find handle.pattern handle.handlerID = none →
        (state.outcomes completion).isSome = true)

/-- A goroutine that a saturation has started removes a registration only when
the `Subscribe` that made it has asked for its `Completion`. The notice client
need not be told so. -/
def LookedUpFirst (domain : Domain) (state : State H E) : Event H E → Prop
  | .remove pattern handlerID =>
    domain ≠ .notice →
      ∀ looking ∈ state.looking, ¬ (looking.pattern = pattern ∧ looking.handlerID = handlerID)
  | .attempt _ _ _ | .write _ | .wireAnswers _ _ | .publish _ | .lookUp _
  | .unsubscribe _ | .writeUnsubscribe _ | .unsubscribeAll | .notify _
  | .launched _ | .saturated _ => True

instance (domain : Domain) (state : State H E) (event : Event H E) :
    Decidable (LookedUpFirst domain state event) := by
  rcases event with ⟨⟩ <;> dsimp only [LookedUpFirst] <;> infer_instance

/-! ## What the registry completes -/

variable {domain : Domain} {state : State H E} {event : Event H E}
variable {before after : Registry H String} {completed : List Nat}

theorem newlyCompleted_of_append (appended : after.completed = completed ++ before.completed) :
    newlyCompleted before after = completed := by
  simp [newlyCompleted, appended]

variable {outcomes : Nat → Option Terminal} {terminal settled : Terminal} {completion : Nat}

private theorem settle_of_some
    (here : outcomes completion = some terminal) :
    settle outcomes completed settled completion = some terminal := by
  simp [settle, here]

private theorem settle_eq_some_iff :
    settle outcomes completed settled completion = some terminal ↔
      outcomes completion = some terminal ∨ (outcomes completion = none ∧
      completion ∈ completed ∧ settled = terminal) := by
  cases here : outcomes completion with
  | _ => simp [settle, here]

theorem newlyCompleted_unsubscribe (registry : Registry H String)
    (pattern : String) (handlerID : UInt64) :
    newlyCompleted registry (registry.unsubscribe pattern handlerID).1 =
      (registry.completion pattern handlerID).toList :=
  newlyCompleted_of_append Registry.completed_unsubscribe

theorem newlyCompleted_clear (registry : Registry H String) :
    newlyCompleted registry registry.clear.1 = registry.clearedCompletions :=
  newlyCompleted_of_append rfl

/-! ## The invariant -/

structure Tracks (state : State H E) : Prop where
  labelled : state.core.registry.Labelled
  settled : ∀ completion, completion < state.core.registry.completions →
    state.outcomes completion = none → ∃ pattern handlerID found,
    state.core.registry.find pattern handlerID = some found ∧ found.completion = completion
  deliveries : ∀ delivery ∈ state.deliveries,
    state.core.registry.Belongs delivery.pattern delivery.handlerID delivery.completion
  removals : ∀ removal ∈ state.removals, ∃ completion,
    state.core.registry.Belongs removal.1 removal.2 completion ∧
    (state.outcomes completion).isSome = true
  handles : ∀ call handle, state.handles call = some handle →
    (state.core.subscribes call).handlerID = some handle.handlerID ∧ ∃ completion,
    handle.completion = some completion ∧
    state.core.registry.Belongs handle.pattern handle.handlerID completion

private theorem initial_tracks : Tracks (initial : State H E) where
  labelled := Registry.new_labelled
  settled completion issued := by
    exact absurd issued (Nat.not_lt_zero completion)
  deliveries delivery member := by
    cases member
  removals removal member := by
    cases member
  handles call handle here := by
    cases here

variable {following : State H E}

theorem Tracks.move (tracks : Tracks state) {completed : List Nat}
    (moves : Registry.Moves state.core.registry following.core.registry completed)
    (values : ∀ completion terminal, state.outcomes completion = some terminal →
      following.outcomes completion = some terminal)
    (covered : ∀ completion ∈ completed, (following.outcomes completion).isSome = true)
    (calls : Exclusion.KeepsHandlerIDs state.core following.core)
    (deliveries : following.deliveries = state.deliveries)
    (removals : ∀ removal ∈ following.removals, removal ∈ state.removals)
    (handles : following.handles = state.handles) : Tracks following where
  labelled := moves.labelled tracks.labelled
  settled completion issued unsettled := by
    by_cases old : completion < state.core.registry.completions
    · have before : state.outcomes completion = none := by
        cases here : state.outcomes completion with
        | none => rfl
        | some terminal =>
          rw [values completion terminal here] at unsettled
          cases unsettled
      obtain ⟨pattern, handlerID, found, here, rfl⟩ := tracks.settled completion old before
      rcases moves.lost pattern handlerID found here with kept | ended
      · exact ⟨pattern, handlerID, found, kept, rfl⟩
      · have value := covered found.completion ended
        rw [unsettled] at value
        cases value
    · exact moves.added completion (Nat.not_lt.mp old) issued
  deliveries delivery member := by
    rw [deliveries] at member
    exact (tracks.deliveries delivery member).move moves
  removals removal member := by
    obtain ⟨completion, belongs, value⟩ := tracks.removals removal (removals removal member)
    obtain ⟨terminal, here⟩ := Option.isSome_iff_exists.mp value
    refine ⟨completion, belongs.move moves, ?_⟩
    rw [values completion terminal here]
    rfl
  handles call handle here := by
    rw [handles] at here
    obtain ⟨returned, completion, known, belongs⟩ := tracks.handles call handle here
    exact ⟨calls call handle.handlerID returned, completion, known, belongs.move moves⟩

/-- A call that has the id of its handler and not yet its `Completion`. -/
structure Waits (state : State H E) (looking : Looking) : Prop where
  found : (state.core.registry.find looking.pattern looking.handlerID).isSome = true
  returned : (state.core.subscribes looking.call).handlerID = some looking.handlerID
  unanswered : state.handles looking.call = none

structure Lookups (state : State H E) : Prop where
  waits : ∀ looking ∈ state.looking, Waits state looking
  distinct : (state.looking.map Looking.call).Nodup

private theorem initial_lookups : Lookups (initial : State H E) where
  waits looking member := by
    cases member
  distinct := List.nodup_nil

theorem subscribed_eq (state : State H E) (call : Nat) (pattern : String) :
    ∃ looking operations, state.subscribed call pattern = { state with looking, operations } := by
  unfold State.subscribed
  split
  · exact ⟨_, state.operations, rfl⟩
  all_goals exact ⟨state.looking, _, rfl⟩

theorem Tracks.subscribe {core : Exclusion.State H String E} (tracks : Tracks state)
    (moves : Registry.Moves state.core.registry core.registry [])
    (calls : Exclusion.KeepsHandlerIDs state.core core)
    (written : Nat → Bool) (operations : Option Holder) (looking : List Looking) :
    Tracks { state with core, written, operations, looking } :=
  tracks.move moves (fun _ _ here => here) (fun _ => nofun) calls rfl (fun _ member => member) rfl

variable {registry : Registry H String}

theorem Tracks.unsubscribed (tracks : Tracks state)
    (moves : Registry.Moves state.core.registry registry
      (newlyCompleted state.core.registry registry))
    (domain : Domain) (pattern : String) (removed : Bool) :
    Tracks (state.unsubscribed domain (state.core.setRegistry registry) pattern removed) := by
  refine tracks.move moves ?_ ?_ ?_ rfl (fun _ member => member) rfl
  · intro completion terminal here
    exact settle_of_some here
  · intro completion member
    cases here : state.outcomes completion with
    | some terminal => simp [State.unsubscribed, settle, here]
    | none => simp [State.unsubscribed, settle, here, Exclusion.State.setRegistry, member]
  · intro call handlerID returned
    exact returned

variable {looking : Looking}

private theorem lookUp_tracks (core : CoreInv state.core) (tracks : Tracks state)
    (waits : Waits state looking) : Tracks (next domain state (.lookUp looking)) := by
  refine { tracks with handles := fun call handle here => ?_ }
  obtain ⟨found, finds⟩ := Option.isSome_iff_exists.mp waits.found
  by_cases same : call = looking.call
  · subst same
    simp only [next, Function.update_self, Option.some.injEq] at here
    subst here
    refine ⟨waits.returned, found.completion, ?_, ?_⟩
    · simp [Registry.completion, finds]
    · exact Registry.belongs_of_find core.inv.numbered core.own finds
  · simp only [next, Function.update_of_ne same] at here
    exact tracks.handles call handle here

private theorem notify_tracks (core : CoreInv state.core) (tracks : Tracks state)
    (subID : UInt64) : Tracks (next domain state (.notify subID)) := by
  refine { tracks with deliveries := fun delivery member => ?_ }
  simp only [next, List.mem_append, List.mem_map] at member
  rcases member with ⟨one, listed, rfl⟩ | old
  · have finds := Registry.find_of_mem_registrations core.inv.consistent tracks.labelled listed
    exact Registry.belongs_of_find core.inv.numbered core.own finds
  · exact tracks.deliveries delivery old

theorem saturated_tracks (tracks : Tracks state) {delivery : Delivery}
    (member : delivery ∈ state.deliveries) : Tracks (next domain state (.saturated delivery)) := by
  have belongs := tracks.deliveries delivery member
  have value :
      ((next domain state (.saturated delivery)).outcomes delivery.completion).isSome = true := by
    cases here : state.outcomes delivery.completion with
    | _ => simp [next, settle, here]
  refine ⟨tracks.labelled, ?_, ?_, ?_, tracks.handles⟩
  · intro completion issued unsettled
    refine tracks.settled completion issued ?_
    cases here : state.outcomes completion with
    | none => rfl
    | some terminal => simp [next, settle, here] at unsettled
  · intro other left
    exact tracks.deliveries other (List.mem_of_mem_erase left)
  · intro removal listed
    simp only [next, List.mem_cons] at listed
    rcases listed with rfl | old
    · exact ⟨delivery.completion, belongs, value⟩
    · obtain ⟨completion, belongsOld, settled⟩ := tracks.removals removal old
      refine ⟨completion, belongsOld, ?_⟩
      obtain ⟨terminal, here⟩ := Option.isSome_iff_exists.mp settled
      simp [next, settle, here]

theorem step_tracks (core : CoreInv state.core) (tracks : Tracks state)
    (lookups : Lookups state) (last : HandlerIDsLast state event)
    (enabled : Enabled domain state event) : Tracks (next domain state event) := by
  obtain ⟨ready, admitted⟩ := enabled
  cases event with
  | attempt call pattern handler =>
    have moves := Exclusion.next_moves_of_caller core.inv last rfl
    obtain ⟨looking, operations, same⟩ := subscribed_eq { state with
        core := nextCore state (.attempt call pattern handler)
        written := Function.update state.written call false
        operations :=
          if domain = .notice then some (.subscribe call)
          else state.operations } call pattern
    simp only [next]
    rw [same]
    exact tracks.subscribe moves (Exclusion.next_keepsHandlerIDs admitted) _ operations looking
  | write call =>
    simp only [next]
    split
    · exact { tracks with }
    all_goals exact tracks
  | wireAnswers call result =>
    have moves := Exclusion.next_moves_of_caller core.inv last rfl
    exact tracks.subscribe moves (Exclusion.next_keepsHandlerIDs admitted)
      state.written state.operations state.looking
  | publish call =>
    have moves := Exclusion.next_moves_of_caller core.inv last rfl
    cases here : state.core.subscribes call with
    | answered pattern handler result =>
      obtain ⟨looking, operations, same⟩ := subscribed_eq
        { state with core := nextCore state (.publish call) } call
        pattern
      simp only [next, here]
      rw [same]
      exact tracks.subscribe moves (Exclusion.next_keepsHandlerIDs admitted)
        state.written operations looking
    | _ => simpa [next, here] using tracks
  | lookUp looking => exact lookUp_tracks core tracks (lookups.waits looking ready)
  | unsubscribe call =>
    obtain ⟨handle, here⟩ := Option.isSome_iff_exists.mp ready.1
    have moves := core.inv.consistent.unsubscribe_moves handle.pattern handle.handlerID
    rw [← newlyCompleted_unsubscribe] at moves
    simp only [next, here, nextCore, coreEvent, Option.map_some, Exclusion.next]
    exact tracks.unsubscribed moves domain handle.pattern _
  | remove pattern handlerID =>
    have moves := core.inv.consistent.unsubscribe_moves pattern handlerID
    rw [← newlyCompleted_unsubscribe] at moves
    have unsubscribed := tracks.unsubscribed moves domain pattern
      (state.core.registry.unsubscribe pattern handlerID).2
    refine { unsubscribed with removals := fun removal member => ?_ }
    exact unsubscribed.removals removal (List.mem_of_mem_erase member)
  | writeUnsubscribe pattern => exact { tracks with }
  | unsubscribeAll =>
    have moves := Registry.clear_moves state.core.registry
    rw [← newlyCompleted_clear] at moves
    have unsubscribed := tracks.unsubscribed moves domain "" false
    exact { unsubscribed with }
  | notify subID => exact notify_tracks core tracks subID
  | launched delivery =>
    refine { tracks with deliveries := fun other left => ?_ }
    exact tracks.deliveries other (List.mem_of_mem_erase left)
  | saturated delivery => exact saturated_tracks tracks ready

/-! ## The calls that wait for their Completion -/

theorem looking_subscribed (call : Nat) (pattern : String) :
    (state.subscribed call pattern).looking = state.looking ∨ ∃ handlerID,
      (state.core.subscribes call).handlerID = some handlerID ∧
      (state.subscribed call pattern).looking = ⟨call, pattern, handlerID⟩ :: state.looking := by
  unfold State.subscribed
  split
  · rename_i subID handlerID here
    right
    exact ⟨handlerID, by rw [here]; rfl, rfl⟩
  all_goals exact Or.inl rfl

theorem Lookups.subscribed (lookups : Lookups state) {call : Nat} {pattern : String}
    (found : ∀ handlerID, (state.core.subscribes call).handlerID = some handlerID →
      (state.core.registry.find pattern handlerID).isSome = true)
    (unanswered : state.handles call = none)
    (new : ∀ looking ∈ state.looking, looking.call ≠ call) :
    Lookups (state.subscribed call pattern) := by
  have keeps : ∀ {looking}, Waits state looking →
      Waits (state.subscribed call pattern) looking := by
    intro looking waiting
    obtain ⟨_, _, same⟩ := subscribed_eq state call pattern
    rw [same]
    exact { waiting with }
  rcases looking_subscribed call pattern with
    same | ⟨handlerID, returned, added⟩
  · constructor
    · intro looking member
      rw [same] at member
      exact keeps (lookups.waits looking member)
    · rw [same]
      exact lookups.distinct
  · constructor
    · intro looking member
      rw [added] at member
      rcases List.mem_cons.mp member with rfl | old
      · exact keeps ⟨found handlerID returned, returned, unanswered⟩
      · exact keeps (lookups.waits looking old)
    · rw [added, List.map_cons, List.nodup_cons]
      refine ⟨fun member => ?_, lookups.distinct⟩
      obtain ⟨looking, listed, same⟩ := List.mem_map.mp member
      exact new looking listed same

theorem Waits.move (waits : Waits state looking)
    (moves : Registry.Moves state.core.registry following.core.registry [])
    (calls : Exclusion.KeepsHandlerIDs state.core following.core)
    (handles : following.handles = state.handles) : Waits following looking where
  found := by
    obtain ⟨found, here⟩ := Option.isSome_iff_exists.mp waits.found
    rcases moves.lost looking.pattern looking.handlerID found here with
      kept | ended
    · rw [kept]
      rfl
    · cases ended
  returned := calls looking.call looking.handlerID waits.returned
  unanswered := by
    rw [handles]
    exact waits.unanswered

variable {call : Nat}

theorem Tracks.handles_eq_none (tracks : Tracks state)
    (unreturned : (state.core.subscribes call).handlerID = none) : state.handles call = none := by
  cases here : state.handles call with
  | none => rfl
  | some handle =>
    rw [(tracks.handles call handle here).1] at unreturned
    cases unreturned

theorem Waits.unsubscribe {call : Nat} {handle : Handle}
    (core : CoreInv state.core) (tracks : Tracks state) (waits : Waits state looking)
    (here : state.handles call = some handle) :
    ¬ (looking.pattern = handle.pattern ∧ looking.handlerID = handle.handlerID) := by
  rintro ⟨_, same⟩
  have returned := (tracks.handles call handle here).1
  rw [← same] at returned
  have sameCall := core.inv.returned.single looking.call call _ waits.returned returned
  have none := waits.unanswered
  rw [sameCall, here] at none
  cases none

variable {pattern : String} {handlerID : UInt64}

theorem find_isSome_unsubscribe (core : CoreInv state.core) (waits : Waits state looking)
    (different : ¬ (looking.pattern = pattern ∧ looking.handlerID = handlerID)) :
    ((state.core.registry.unsubscribe pattern handlerID).1.find
      looking.pattern looking.handlerID).isSome = true := by
  rw [core.inv.consistent.find_unsubscribe, if_neg different]
  exact waits.found

/-! ## The mutex of the notice client -/

/-- The mutex `operations` covers `Subscribe` to its end, and `unsubscribe`. -/
structure Locked (state : State H E) : Prop where
  looking : ∀ looking ∈ state.looking, state.looking = [looking] ∧
    state.operations = some (.subscribe looking.call)
  pending : ∀ call pattern, (state.core.subscribes call).pendingPattern = some pattern →
    state.operations = some (.subscribe call)
  due : ∀ pattern ∈ state.due, state.due = [pattern] ∧ state.operations = some .unsubscribe

theorem initial_locked : Locked (initial : State H E) where
  looking looking member := by
    cases member
  pending call pattern here := by
    cases here
  due pattern member := by
    cases member

theorem Locked.looking_eq_nil (locked : Locked state)
    (other : ∀ looking ∈ state.looking, state.operations ≠ some (.subscribe looking.call)) :
    state.looking = [] := by
  apply List.eq_nil_iff_forall_not_mem.mpr
  intro looking member
  exact other looking member (locked.looking looking member).2

theorem Locked.due_eq_nil (locked : Locked state)
    (other : state.operations ≠ some .unsubscribe) : state.due = [] := by
  apply List.eq_nil_iff_forall_not_mem.mpr
  intro pattern member
  exact other (locked.due pattern member).2

theorem Lookups.call_ne (lookups : Lookups state)
    (unreturned : (state.core.subscribes call).handlerID = none) :
    ∀ looking ∈ state.looking, looking.call ≠ call := by
  rintro looking member rfl
  rw [(lookups.waits looking member).returned] at unreturned
  cases unreturned

theorem locked_subscribed {before : State H E} (locked : Locked before) (lookups : Lookups before)
    (turn : ∀ held, before.operations = some held → held = .subscribe call)
    (unreturned : (before.core.subscribes call).handlerID = none)
    (looking : state.looking = before.looking) (due : state.due = before.due)
    (same : ∀ other, other ≠ call → state.core.subscribes other = before.core.subscribes other)
    (holds : state.operations = some (.subscribe call)) :
    Locked (state.subscribed call pattern) := by
  have nothing : state.looking = [] := by
    rw [looking]
    apply locked.looking_eq_nil
    intro one member held
    cases turn _ held
    exact lookups.call_ne unreturned one member rfl
  have nothingDue : state.due = [] := by
    rw [due]
    apply locked.due_eq_nil
    intro held
    cases turn _ held
  have others : ∀ other name, (state.core.subscribes other).pendingPattern = some name →
      other = call := by
    intro other name here
    by_contra different
    rw [same other different] at here
    cases turn _ (locked.pending other name here)
    contradiction
  cases phase : state.core.subscribes call with
  | returned result =>
    have quiet : ∀ other name, (state.core.subscribes other).pendingPattern ≠ some name := by
      intro other name here
      have mine := others other name here
      rw [mine, phase] at here
      cases here
    cases result with
    | ok ids =>
      simp only [State.subscribed, phase]
      refine ⟨?_, fun other name here => absurd here (quiet other name), ?_⟩
      · intro looking member
        simp only [nothing, List.mem_singleton] at member ⊢
        subst member
        exact ⟨rfl, holds⟩
      · simp [nothingDue]
    | error error =>
      simp only [State.subscribed, phase]
      refine ⟨?_, fun other name here => absurd here (quiet other name), ?_⟩
      · simp [nothing]
      · simp [nothingDue]
  | idle | calling _ _ | answered _ _ _ =>
    simp only [State.subscribed, phase]
    refine ⟨by simp [nothing], ?_, by simp [nothingDue]⟩
    intro other name here
    rw [others other name here]
    exact holds

theorem locked_unsubscribed (locked : Locked state) (free : state.operations = none)
    (pattern : String) (removed : Bool) :
    Locked (state.unsubscribed .notice (state.core.setRegistry registry) pattern removed) := by
  have nothing : state.looking = [] := by
    apply locked.looking_eq_nil
    simp [free]
  have nothingDue : state.due = [] := by
    apply locked.due_eq_nil
    simp [free]
  refine ⟨?_, ?_, ?_⟩
  · simp [State.unsubscribed, nothing]
  · intro call name here
    have holds := locked.pending call name here
    rw [free] at holds
    cases holds
  · cases removed with
    | _ => simp [State.unsubscribed, nothingDue]

variable {phase : Exclusion.SubscribeCall H String E}

theorem pendingPattern_of_handlerID
    (returned : phase.handlerID = some handlerID) : phase.pendingPattern = none := by
  cases phase with
  | returned result => rfl
  | _ => cases returned

theorem handlerID_of_isIdle
    (idle : phase.isIdle = true) : phase.handlerID = none := by
  cases phase with
  | returned result => cases idle
  | _ => rfl

theorem attempt_locked (locked : Locked state) (lookups : Lookups state) {handler : H}
    (turn : ∀ held, state.operations = some held → held = .subscribe call)
    (idle : (state.core.subscribes call).isIdle = true) :
    Locked (next .notice state (.attempt call pattern handler)) := by
  refine locked_subscribed locked lookups turn (handlerID_of_isIdle idle) rfl rfl ?_ rfl
  intro other different
  change (nextCore state (.attempt call pattern handler)).subscribes other = _
  exact subscribes_nextCore_of_ne rfl (by simp [Exclusion.Event.caller, Ne.symm different])

theorem publish_locked (locked : Locked state) (lookups : Lookups state)
    (answered : (state.core.subscribes call).isAnswered = true) :
    Locked (next .notice state (.publish call)) := by
  obtain ⟨pattern, handler, result, phase⟩ :=
    Exclusion.SubscribeCall.eq_answered_of_isAnswered answered
  have holds := locked.pending call pattern (by rw [phase]; rfl)
  simp only [next, phase]
  refine locked_subscribed locked lookups ?_ (by rw [phase]; rfl) rfl rfl ?_ holds
  · intro held isHeld
    exact Option.some.inj (isHeld.symm.trans holds)
  · intro other different
    exact subscribes_nextCore_of_ne rfl (by simp [Exclusion.Event.caller, Ne.symm different])

theorem step_locked (locked : Locked state) (lookups : Lookups state)
    (enabled : Enabled .notice state event) : Locked (next .notice state event) := by
  obtain ⟨ready, admitted⟩ := enabled
  cases event with
  | attempt call pattern handler =>
    have idle : (state.core.subscribes call).isIdle = true := admitted.1
    refine attempt_locked locked lookups ?_ idle
    intro held isHeld
    rcases ready with unlocked | mine
    · cases isHeld.symm.trans (unlocked rfl)
    · exact Option.some.inj (isHeld.symm.trans mine)
  | write call =>
    simp only [next]
    split
    · exact { locked with }
    all_goals exact locked
  | wireAnswers call result =>
    refine { locked with pending := fun other name here => ?_ }
    refine locked.pending other name ?_
    by_cases mine : other = call
    · subst mine
      cases phase : state.core.subscribes other with
      | calling pattern handler =>
        simpa [next, nextCore, coreEvent, Exclusion.next,
          Exclusion.wireAnswers, phase, Exclusion.State.setSubscribe,
          Exclusion.SubscribeCall.pendingPattern] using here
      | idle | answered _ _ _ | returned _ =>
        simp [CoreReady, coreEvent, Exclusion.Enabled, phase,
          Exclusion.SubscribeCall.isCalling] at admitted
    · have same : (nextCore state (.wireAnswers call result)).subscribes other =
            state.core.subscribes other :=
        subscribes_nextCore_of_ne rfl (by simp [Exclusion.Event.caller, Ne.symm mine])
      rw [← same]
      exact here
  | publish call =>
    have answered : (state.core.subscribes call).isAnswered = true := admitted
    exact publish_locked locked lookups answered
  | lookUp looking =>
    have member : looking ∈ state.looking := ready
    obtain ⟨only, holds⟩ := locked.looking looking member
    have nothingDue : state.due = [] := by
      apply locked.due_eq_nil
      simp [holds]
    refine ⟨by simp [next, only], ?_, by simp [next, nothingDue]⟩
    intro other name here
    have holdsToo := locked.pending other name here
    have mine : looking.call = other := by
      simpa [holds] using holdsToo
    have done := pendingPattern_of_handlerID (lookups.waits looking member).returned
    rw [mine] at done
    exact absurd here (by simp [next, done])
  | unsubscribe call =>
    obtain ⟨handle, here⟩ := Option.isSome_iff_exists.mp ready.1
    simp only [next, here, nextCore, coreEvent, Option.map_some, Exclusion.next]
    exact locked_unsubscribed locked (ready.2 rfl) handle.pattern _
  | remove pattern handlerID =>
    have unsubscribed : Locked (state.unsubscribed .notice
        (state.core.setRegistry (state.core.registry.unsubscribe pattern handlerID).1) pattern
        (state.core.registry.unsubscribe pattern handlerID).2) :=
      locked_unsubscribed locked (ready.2 rfl) pattern _
    exact { unsubscribed with }
  | writeUnsubscribe pattern =>
    have member : pattern ∈ state.due := ready
    obtain ⟨only, holds⟩ := locked.due pattern member
    have nothing : state.looking = [] := by
      apply locked.looking_eq_nil
      simp [holds]
    refine ⟨by simp [next, nothing], ?_, by simp [next, only]⟩
    intro other name here
    have holdsToo := locked.pending other name here
    simp [holds] at holdsToo
  | _ => exact { locked with }

/-! ## Runs -/

theorem find_isSome_of_returned {part : Exclusion.Event H String E} {handler : H}
    (core : CoreInv state.core)
    (section_eq : part = .attempt call pattern handler ∨ (part = .publish call ∧ ∃ result,
      state.core.subscribes call = .answered pattern handler result))
    (returned : ((Exclusion.next state.core part).subscribes call).handlerID = some handlerID) :
    ((Exclusion.next state.core part).registry.find pattern handlerID).isSome = true := by
  cases phase : (Exclusion.next state.core part).subscribes call with
  | returned result =>
    cases result with
    | error error =>
      rw [phase] at returned
      cases returned
    | ok ids =>
      rw [phase] at returned
      cases returned
      have succeeds : Exclusion.Succeeds state.core part call pattern handler ids.2 :=
        ⟨section_eq, ids.1, phase⟩
      have found := Exclusion.find_of_succeeds core.inv succeeds
      obtain ⟨registration, here, _⟩ := Option.map_eq_some_iff.mp found
      rw [here]
      rfl
  | _ =>
    rw [phase] at returned
    cases returned

theorem Lookups.move (lookups : Lookups state) (following : State H E)
    (moves : Registry.Moves state.core.registry following.core.registry [])
    (calls : Exclusion.KeepsHandlerIDs state.core following.core)
    (looking : following.looking = state.looking)
    (handles : following.handles = state.handles) : Lookups following where
  waits one member := by
    rw [looking] at member
    exact (lookups.waits one member).move moves calls handles
  distinct := by
    rw [looking]
    exact lookups.distinct

theorem lookUp_lookups (lookups : Lookups state)
    (member : looking ∈ state.looking) : Lookups (next domain state (.lookUp looking)) where
  waits other left := by
    have waiting := lookups.waits other (List.mem_of_mem_erase left)
    have distinct : other.call ≠ looking.call := by
      intro same
      have unique := List.inj_on_of_nodup_map lookups.distinct
        (List.mem_of_mem_erase left) member same
      subst unique
      have nodup := List.Nodup.of_map _ lookups.distinct
      exact nodup.not_mem_erase left
    refine { waiting with unanswered := ?_ }
    simp only [next, Function.update_of_ne distinct]
    exact waiting.unanswered
  distinct := by
    have sub : (state.looking.erase looking).Sublist state.looking := List.erase_sublist
    exact lookups.distinct.sublist (sub.map Looking.call)

theorem step_lookups (core : CoreInv state.core) (tracks : Tracks state)
    (lookups : Lookups state) (locked : domain = .notice → Locked state)
    (last : HandlerIDsLast state event) (first : LookedUpFirst domain state event)
    (enabled : Enabled domain state event) : Lookups (next domain state event) := by
  obtain ⟨ready, admitted⟩ := enabled
  cases event with
  | attempt call pattern handler =>
    have moves := Exclusion.next_moves_of_caller core.inv last rfl
    have enabled : Exclusion.Enabled state.core (.attempt call pattern handler) := admitted
    have unreturned := handlerID_of_isIdle enabled.1
    have moved := lookups.move { state with
        core := nextCore state (.attempt call pattern handler)
        written := Function.update state.written call false
        operations :=
          if domain = .notice then some (.subscribe call)
          else state.operations }
      moves (Exclusion.next_keepsHandlerIDs enabled) rfl rfl
    apply moved.subscribed
    · intro handlerID returned
      exact find_isSome_of_returned core (Or.inl rfl) returned
    · exact tracks.handles_eq_none unreturned
    · exact lookups.call_ne unreturned
  | write call =>
    simp only [next]
    split
    · exact ⟨fun looking member => { lookups.waits looking member with }, lookups.distinct⟩
    all_goals exact lookups
  | wireAnswers call result =>
    have moves := Exclusion.next_moves_of_caller core.inv last rfl
    have enabled : Exclusion.Enabled state.core (.wireAnswers call result) := admitted
    exact lookups.move _ moves (Exclusion.next_keepsHandlerIDs enabled) rfl rfl
  | publish call =>
    have moves := Exclusion.next_moves_of_caller core.inv last rfl
    have enabled : Exclusion.Enabled state.core (.publish call) := admitted
    cases phase : state.core.subscribes call with
    | answered pattern handler result =>
      have unreturned : (state.core.subscribes call).handlerID = none := by
        rw [phase]
        rfl
      have moved := lookups.move
        { state with core := nextCore state (.publish call) }
        moves (Exclusion.next_keepsHandlerIDs enabled) rfl rfl
      simp only [next, phase]
      apply moved.subscribed
      · intro handlerID returned
        exact find_isSome_of_returned core (Or.inr ⟨rfl, result, phase⟩) returned
      · exact tracks.handles_eq_none unreturned
      · exact lookups.call_ne unreturned
    | _ => simpa [next, phase] using lookups
  | lookUp looking => exact lookUp_lookups lookups ready
  | unsubscribe call =>
    obtain ⟨handle, here⟩ := Option.isSome_iff_exists.mp ready.1
    simp only [next, here, nextCore, coreEvent, Option.map_some, Exclusion.next]
    refine ⟨fun looking member => ?_, lookups.distinct⟩
    have waiting := lookups.waits looking member
    have different := waiting.unsubscribe core tracks here
    exact { waiting with found := find_isSome_unsubscribe core waiting different }
  | remove pattern handlerID =>
    refine ⟨fun looking member => ?_, lookups.distinct⟩
    have waiting := lookups.waits looking member
    have different : ¬ (looking.pattern = pattern ∧ looking.handlerID = handlerID) := by
      by_cases notice : domain = .notice
      · have nothing : state.looking = [] := by
          apply (locked notice).looking_eq_nil
          simp [ready.2 notice]
        have mine : looking ∈ state.looking := member
        simp [nothing] at mine
      · exact first notice looking member
    exact { waiting with found := find_isSome_unsubscribe core waiting different }
  | unsubscribeAll =>
    have nothing : state.looking = [] := by
      apply (locked ready.1).looking_eq_nil
      simp [ready.2]
    refine ⟨fun looking member => ?_, lookups.distinct⟩
    have mine : looking ∈ state.looking := member
    simp [nothing] at mine
  | writeUnsubscribe _ | notify _ | launched _ | saturated _ =>
    exact ⟨fun looking member => { lookups.waits looking member with }, lookups.distinct⟩

theorem firstEndCounts_of_same (same : (next domain state event).outcomes = state.outcomes)
    (none : ∀ completion terminal, ¬ Ends state event completion terminal) :
    FirstEndCounts domain state event := by
  intro completion terminal
  rw [same]
  constructor
  · exact Or.inl
  · rintro (here | ⟨_, ends⟩)
    · exact here
    · exact absurd ends (none completion terminal)

@[simp]
theorem outcomes_subscribed (call : Nat) (pattern : String) :
    (state.subscribed call pattern).outcomes = state.outcomes := by
  obtain ⟨_, _, same⟩ := subscribed_eq state call pattern
  rw [same]

theorem remove_firstEndCounts (tracks : Tracks state)
    (listed : (pattern, handlerID) ∈ state.removals) :
    FirstEndCounts domain state (.remove pattern handlerID) := by
  obtain ⟨ended, belongs, value⟩ := tracks.removals _ listed
  apply firstEndCounts_of_same
  · funext completion
    have completed : newlyCompleted state.core.registry
          (nextCore state (.remove pattern handlerID)).registry =
            (state.core.registry.completion pattern handlerID).toList :=
      newlyCompleted_unsubscribe ..
    simp only [next, State.unsubscribed, completed, settle]
    by_cases member : completion ∈ (state.core.registry.completion pattern handlerID).toList
    · obtain ⟨found, here, same⟩ := Registry.completion_eq_some_iff.mp (Option.mem_toList.mp member)
      have mine : found.completion = ended := belongs.completion_eq here
      rw [mine] at same
      subst same
      obtain ⟨terminal, known⟩ := Option.isSome_iff_exists.mp value
      simp [known]
    · simp [member]
  · intro completion terminal ends
    cases ends

theorem step_firstEndCounts (tracks : Tracks state) (enabled : Enabled domain state event) :
    FirstEndCounts domain state event := by
  obtain ⟨ready, admitted⟩ := enabled
  cases event with
  | attempt call pattern handler => exact firstEndCounts_of_same (by simp [next]) (by rintro _ _ ⟨⟩)
  | write call =>
    refine firstEndCounts_of_same ?_ (by rintro _ _ ⟨⟩)
    simp only [next]
    split <;> rfl
  | publish call =>
    refine firstEndCounts_of_same ?_ (by rintro _ _ ⟨⟩)
    simp only [next]
    split
    · simp
    all_goals rfl
  | wireAnswers _ _ | lookUp _ | writeUnsubscribe _ | notify _
  | launched _ => exact firstEndCounts_of_same rfl (by rintro _ _ ⟨⟩)
  | remove pattern handlerID => exact remove_firstEndCounts tracks ready.1
  | unsubscribe call =>
    obtain ⟨handle, here⟩ := Option.isSome_iff_exists.mp ready.1
    intro completion terminal
    have completed := newlyCompleted_unsubscribe state.core.registry handle.pattern handle.handlerID
    simp only [next, here, nextCore, coreEvent, Option.map_some,
      Exclusion.next, State.unsubscribed, Exclusion.State.setRegistry,
      completed, settle_eq_some_iff, Option.mem_toList]
    refine or_congr_right (and_congr_right fun _ => ?_)
    constructor
    · rintro ⟨registered, rfl⟩
      exact .unsubscribe here registered
    · intro ends
      cases ends with
      | unsubscribe handled registered =>
        rw [here] at handled
        cases handled
        exact ⟨registered, rfl⟩
  | unsubscribeAll =>
    intro completion terminal
    have completed := newlyCompleted_clear state.core.registry
    simp only [next, nextCore, coreEvent, Exclusion.next,
      Exclusion.State.setRegistry, completed, settle_eq_some_iff,
      Registry.mem_clearedCompletions_iff]
    refine or_congr_right (and_congr_right fun _ => ?_)
    constructor
    · rintro ⟨⟨pattern, handlerID, registered⟩, rfl⟩
      exact .unsubscribeAll registered
    · intro ends
      cases ends with
      | unsubscribeAll registered => exact ⟨⟨_, _, registered⟩, rfl⟩
  | saturated delivery =>
    intro completion terminal
    simp only [next, settle_eq_some_iff, List.mem_singleton]
    refine or_congr_right (and_congr_right fun _ => ?_)
    constructor
    · rintro ⟨rfl, rfl⟩
      exact .saturated delivery
    · intro ends
      cases ends
      exact ⟨rfl, rfl⟩

structure TerminalInv (domain : Domain) (state : State H E) : Prop where
  core : CoreInv state.core
  tracks : Tracks state
  lookups : Lookups state
  locked : domain = .notice → Locked state

theorem initial_terminalInv : TerminalInv domain (initial : State H E) :=
  ⟨initial_coreInv, initial_tracks, initial_lookups, fun _ => initial_locked⟩

theorem step_terminalInv (inv : TerminalInv domain state)
    (met : HandlerIDsLast state event ∧ LookedUpFirst domain state event)
    (stepped : step domain state event = some following) : TerminalInv domain following := by
  have core := step_coreInv inv.core met.1 stepped
  obtain ⟨enabled, rfl⟩ := guarded_eq_some_iff.mp stepped
  refine ⟨core, step_tracks inv.core inv.tracks inv.lookups met.1 enabled,
    step_lookups inv.core inv.tracks inv.lookups inv.locked met.1 met.2 enabled, ?_⟩
  rintro rfl
  exact step_locked (inv.locked rfl) inv.lookups enabled

theorem TerminalInv.terminalKept (inv : TerminalInv domain state) : TerminalKept state := by
  intro call handle here
  obtain ⟨_, completion, known, belongs⟩ := inv.tracks.handles call handle here
  refine ⟨completion, known, fun gone => ?_⟩
  cases unsettled : state.outcomes completion with
  | some terminal => rfl
  | none =>
    obtain ⟨pattern, handlerID, found, finds, same⟩ :=
      inv.tracks.settled completion belongs.issued unsettled
    obtain ⟨rfl, rfl⟩ := (belongs.only pattern handlerID found finds).mp same
    rw [gone] at finds
    cases finds

/-- Every `Subscription` has a `Completion`; it has a value once the
registration is gone, the value of what ended it first; and a channel yields the
first value it is given, and only that. -/
theorem terminal_state_is_kept {events : List (Event H E)} {final : State H E}
    (last : Along (step domain) HandlerIDsLast initial events)
    (first : Along (step domain) (LookedUpFirst domain) initial events)
    (ran : run (step domain) initial events = some final) :
    TerminalKept final ∧
      Along (step domain) (FirstEndCounts domain) initial events ∧
      ∀ {V : Type} [DecidableEq V]
        {calls : List (Completion.Event V)} {completed : Completion.State V},
        run Completion.step Completion.new calls = some completed →
        Completion.YieldsOnce completed := by
  have along := along_and last first
  have inv := invariant_along (TerminalInv domain) step_terminalInv initial_terminalInv along ran
  refine ⟨inv.terminalKept, ?_, fun ran => Completion.yieldsOnce_of_run ran⟩
  refine along_of_invariant (TerminalInv domain) step_terminalInv ?_ initial_terminalInv along ran
  intro state following event inv _ stepped
  obtain ⟨enabled, _⟩ := guarded_eq_some_iff.mp stepped
  exact step_firstEndCounts inv.tracks enabled

def endedRun : List (Event Bool Unit) :=
  [.attempt 0 "a" true, .write 0, .wireAnswers 0 (.ok 1), .publish 0, .lookUp ⟨0, "a", 1⟩,
    .attempt 1 "a" false, .lookUp ⟨1, "a", 2⟩,
    .notify 1, .saturated ⟨1, "a", 1, 0⟩, .launched ⟨1, "a", 2, 1⟩,
    .remove "a" 1, .unsubscribe 1, .writeUnsubscribe "a"]

theorem endedRun_keeps_terminal_states : ∃ final, run (step .kv) initial endedRun = some final ∧
      TerminalKept final ∧
      final.outcomes 0 = some (.overflow 1) ∧
      final.outcomes 1 = some .unsubscribed := by
  apply exists_kept_and
  · decide +kernel
  · intro final ran
    exact (terminal_state_is_kept (by decide +kernel) (by decide +kernel) ran).1

/-- The first notification is refused, and the goroutine that this starts comes
before `Subscribe` has asked for the `Completion`. -/
def overflowFirstRun : List (Event Bool Unit) :=
  [.attempt 0 "a" true, .write 0, .wireAnswers 0 (.ok 1), .publish 0,
    .notify 1, .saturated ⟨1, "a", 1, 0⟩, .remove "a" 1,
    .lookUp ⟨0, "a", 1⟩]

/-- The `Subscription` that is returned has no `Completion`, so the overflow
error is lost. -/
theorem overflow_before_lookUp_loses_terminal_state :
    ∃ final, run (step .kv) initial overflowFirstRun = some final ∧
      final.handles 0 = some ⟨"a", 1, none⟩ ∧
      ¬ TerminalKept final := by
  simp only [← and_assoc]
  apply exists_and_kept
  · decide +kernel
  rintro final ⟨-, handle⟩ kept
  obtain ⟨completion, known, _⟩ := kept 0 _ handle
  cases known

end Clients
end FitzGo.Subscriptions.Heap
