import Mathlib.Data.String.Basic
import FitzGo.Subscriptions.RestoreExclusion

/-!
# A Restore has the registry for itself

While the flag is down no `Restore` owns anything, and while it is up only its
owner moves the registry, apart from a `Subscribe` whose pattern is pending.
-/

namespace FitzGo.Subscriptions.Heap.Exclusion

open StepMachine

variable {H Pattern E : Type}

section Calls

variable {state : State H Pattern E} {call : Nat}
variable {registry : Registry H Pattern}

theorem owns_of_resubscribing {frame : RestoreFrame}
    (here : state.restores call = .resubscribing frame) : (state.restores call).owns = true := by
  rw [here]
  rfl

theorem registry_wireAnswers (state : State H Pattern E) (call : Nat) (result : Except E UInt64) :
    (wireAnswers state call result).registry = state.registry := by
  unfold wireAnswers
  split <;> rfl

variable {phase : SubscribeCall H Pattern E}

theorem single_setSubscribe {Key : Type} (held : SubscribeCall H Pattern E → Option Key)
    (single : ∀ left right key, held (state.subscribes left) = some key →
      held (state.subscribes right) = some key → left = right)
    (fresh : ∀ other key, other ≠ call → held (state.subscribes other) = some key →
      held phase ≠ some key) (left right : Nat) (key : Key)
    (mine : held ((state.setSubscribe call phase).subscribes left) = some key)
    (yours : held ((state.setSubscribe call phase).subscribes right) = some key) :
    left = right := by
  by_cases same : left = call <;> by_cases sameRight : right = call
  · rw [same, sameRight]
  · rw [same, subscribes_setSubscribe_self] at mine
    rw [subscribes_setSubscribe_of_ne sameRight] at yours
    exact absurd mine (fresh right key sameRight yours)
  · rw [subscribes_setSubscribe_of_ne same] at mine
    rw [sameRight, subscribes_setSubscribe_self] at yours
    exact absurd yours (fresh left key same mine)
  · rw [subscribes_setSubscribe_of_ne same] at mine
    rw [subscribes_setSubscribe_of_ne sameRight] at yours
    exact single left right key mine yours

/-- The handler ids that calls of `Subscribe` have returned. -/
structure Returned (state : State H Pattern E) : Prop where
  drawn : ∀ call handlerID, (state.subscribes call).handlerID = some handlerID →
    handlerID ≤ state.registry.nextHandlerID
  single : ∀ call other handlerID, (state.subscribes call).handlerID = some handlerID →
    (state.subscribes other).handlerID = some handlerID → call = other

theorem Returned.move (returned : Returned state)
    (grown : state.registry.nextHandlerID ≤ registry.nextHandlerID)
    (drawn : ∀ handlerID, phase.handlerID = some handlerID →
      state.registry.nextHandlerID < handlerID ∧ handlerID ≤ registry.nextHandlerID) :
    Returned ((state.setRegistry registry).setSubscribe call phase) where
  drawn other handlerID here := by
    by_cases same : other = call
    · rw [same, subscribes_setSubscribe_self] at here
      exact (drawn handlerID here).2
    · rw [subscribes_setSubscribe_of_ne same] at here
      exact UInt64.le_trans (returned.drawn other handlerID here) grown
  single := by
    refine single_setSubscribe SubscribeCall.handlerID returned.single ?_
    intro other handlerID _ before now
    exact absurd (returned.drawn other handlerID before) (UInt64.not_le.mpr (drawn handlerID now).1)

theorem Returned.of_registry (returned : Returned state)
    (same : registry.nextHandlerID = state.registry.nextHandlerID) :
    Returned (state.setRegistry registry) where
  drawn other handlerID here := by
    change handlerID ≤ registry.nextHandlerID
    rw [same]
    exact returned.drawn other handlerID here
  single := returned.single

end Calls

variable [LinearOrder Pattern]

structure Pending (state : State H Pattern E) : Prop where
  listed : ∀ call pattern, (state.subscribes call).pendingPattern = some pattern →
    pattern ∈ state.registry.pending
  single : ∀ call other pattern, (state.subscribes call).pendingPattern = some pattern →
    (state.subscribes other).pendingPattern = some pattern → call = other
  absent : ∀ pattern, pattern ∈ state.registry.pending →
    state.registry.byPattern.lookup pattern = none

structure Owned (state : State H Pattern E) : Prop where
  flagged : ∀ call, (state.restores call).owns = true → state.registry.restoring = true
  single : ∀ call other, (state.restores call).owns = true →
    (state.restores other).owns = true → call = other
  progress : ∀ call frame, state.restores call = .resubscribing frame →
    state.registry.pending = [] ∧ ∃ pointers subIDs, state.registry.Progress frame pointers subIDs

structure Inv (state : State H Pattern E) : Prop where
  consistent : state.registry.Consistent
  numbered : state.registry.Numbered
  pending : Pending state
  owned : Owned state
  returned : Returned state

theorem initial_inv : Inv (initial : State H Pattern E) where
  consistent := Registry.new_consistent
  numbered := Registry.new_numbered
  pending := by
    refine ⟨?_, ?_, ?_⟩
    · intro call pattern impossible
      cases impossible
    · intro call other pattern impossible
      cases impossible
    · intro pattern impossible
      cases impossible
  owned := by
    refine ⟨?_, ?_, ?_⟩
    · intro call impossible
      cases impossible
    · intro call other impossible
      cases impossible
    · intro call frame impossible
      cases impossible
  returned := by
    refine ⟨?_, ?_⟩
    · intro call handlerID impossible
      cases impossible
    · intro call other handlerID impossible
      cases impossible

variable {state : State H Pattern E} {call : Nat}
variable {registry : Registry H Pattern}

/-! ## The parts under a change -/

theorem Owned.free (owned : Owned state) (down : state.registry.restoring = false) (call : Nat) :
    (state.restores call).owns = false := by
  rw [← Bool.not_eq_true]
  intro owns
  rw [owned.flagged call owns] at down
  cases down

theorem Owned.of_free (free : ∀ call, (state.restores call).owns = false) : Owned state where
  flagged call owns := by
    rw [free call] at owns
    cases owns
  single call other owns := by
    rw [free call] at owns
    cases owns
  progress call frame here := by
    have owns := owns_of_resubscribing here
    rw [free call] at owns
    cases owns

theorem Owned.others (owned : Owned state) (owns : (state.restores call).owns = true)
    (other : Nat) (different : other ≠ call) : (state.restores other).owns = false := by
  rw [← Bool.not_eq_true]
  exact fun mine => different (owned.single other call mine owns)

theorem owned_setRestore (others : ∀ other, other ≠ call → (state.restores other).owns = false)
    {phase : RestoreCall} (flagged : phase.owns = true → registry.restoring = true)
    (progress : ∀ frame, phase = .resubscribing frame → registry.pending = [] ∧
      ∃ pointers subIDs, registry.Progress frame pointers subIDs) :
    Owned ((state.setRegistry registry).setRestore call phase) := by
  have mine : ∀ other,
      (((state.setRegistry registry).setRestore call phase).restores other).owns = true →
      other = call := by
    intro other owns
    by_contra different
    rw [restores_setRestore_of_ne different] at owns
    exact Bool.false_ne_true ((others other different).symm.trans owns)
  refine ⟨fun other owns => ?_, fun left right owns ownsRight => ?_, fun other frame here => ?_⟩
  · have same := mine other owns
    subst same
    apply flagged
    rwa [restores_setRestore_self] at owns
  · rw [mine left owns, mine right ownsRight]
  · have same := mine other (owns_of_resubscribing here)
    subst same
    apply progress
    rwa [restores_setRestore_self] at here

section

variable (pending : Pending state)
include pending

theorem Pending.of_registry (same : registry.pending = state.registry.pending)
    (absent : ∀ pattern, state.registry.byPattern.lookup pattern = none →
      registry.byPattern.lookup pattern = none) : Pending (state.setRegistry registry) where
  listed other pattern here := by
    change pattern ∈ registry.pending
    rw [same]
    exact pending.listed other pattern here
  single := pending.single
  absent pattern here := by
    change pattern ∈ registry.pending at here
    rw [same] at here
    exact absent pattern (pending.absent pattern here)

theorem Pending.of_quiet
    (quiet : Registry.Quiet state.registry registry) : Pending (state.setRegistry registry) := by
  refine pending.of_registry quiet.pending fun pattern absent => ?_
  rw [quiet.byPattern]
  exact absent

theorem Pending.move {phase : SubscribeCall H Pattern E}
    (listed : ∀ pattern, phase.pendingPattern = some pattern → pattern ∈ registry.pending)
    (fresh : ∀ other pattern, other ≠ call →
      (state.subscribes other).pendingPattern = some pattern →
      pattern ∈ registry.pending ∧ phase.pendingPattern ≠ some pattern)
    (absent : ∀ pattern, pattern ∈ registry.pending → registry.byPattern.lookup pattern = none) :
    Pending ((state.setRegistry registry).setSubscribe call phase) where
  listed other pattern here := by
    by_cases same : other = call
    · rw [same, subscribes_setSubscribe_self] at here
      exact listed pattern here
    · rw [subscribes_setSubscribe_of_ne same] at here
      exact (fresh other pattern same here).1
  single := single_setSubscribe SubscribeCall.pendingPattern pending.single
      fun other pattern different here => (fresh other pattern different here).2
  absent := absent

/-! ## The steps of Subscribe, Unsubscribe and Clear -/

theorem attempt_pending [Inhabited Pattern] (pattern : Pattern) (handler : H) :
    Pending (next state (.attempt call pattern handler)) := by
  dsimp only [next]
  cases found : state.registry.byPattern.lookup pattern with
  | some existing =>
    rw [Registry.attemptSubscribe_of_some found]
    refine pending.move (fun _ => nofun) (fun other name _ here => ?_) pending.absent
    exact ⟨pending.listed other name here, nofun⟩
  | none =>
    by_cases listed : pattern ∈ state.registry.pending
    · rw [Registry.attemptSubscribe_of_pending found listed]
      refine pending.move (fun _ => nofun) (fun other name _ here => ?_) pending.absent
      exact ⟨pending.listed other name here, nofun⟩
    · rw [Registry.attemptSubscribe_of_new found listed]
      refine pending.move ?_ ?_ ?_
      · intro name here
        cases here
        exact List.mem_cons_self
      · intro other name _ here
        have old := pending.listed other name here
        refine ⟨List.mem_cons_of_mem _ old, fun mine => ?_⟩
        cases mine
        exact listed old
      · intro name mem
        rcases List.mem_cons.mp mem with rfl | old
        · exact found
        · exact pending.absent name old

end

variable {pattern : Pattern}

private theorem attempt_returned [Inhabited Pattern] (returned : Returned state) (handler : H)
    (draws : (state.registry.byPattern.lookup pattern).isSome = true →
      state.registry.HasHandlerID) :
    Returned (next state (.attempt call pattern handler)) := by
  dsimp only [next]
  cases found : state.registry.byPattern.lookup pattern with
  | some existing =>
    rw [found] at draws
    have drawn := draws rfl
    rw [Registry.attemptSubscribe_of_some found]
    refine returned.move (UInt64.le_of_lt drawn) fun handlerID here => ?_
    cases here
    exact ⟨drawn, UInt64.le_refl _⟩
  | none =>
    by_cases listed : pattern ∈ state.registry.pending
    · rw [Registry.attemptSubscribe_of_pending found listed]
      exact returned.move (UInt64.le_refl _) fun _ => nofun
    · rw [Registry.attemptSubscribe_of_new found listed]
      exact returned.move (UInt64.le_refl _) fun _ => nofun

variable {handler : H}

theorem answered_pending (pending : Pending state) (result : Except E UInt64)
    (here : state.subscribes call = .calling pattern handler) :
    Pending (state.setSubscribe call (.answered pattern handler result)) := by
  have mine : (state.subscribes call).pendingPattern = some pattern := by
    rw [here]
    rfl
  refine pending.move ?_ ?_ pending.absent
  · intro name listed
    cases listed
    exact pending.listed call pattern mine
  · intro other name different yours
    refine ⟨pending.listed other name yours, fun same => ?_⟩
    cases same
    exact different (pending.single other call pattern yours mine)

private theorem answered_inv (inv : Inv state) (result : Except E UInt64)
    (here : state.subscribes call = .calling pattern handler) :
    Inv (state.setSubscribe call (.answered pattern handler result)) :=
  ⟨inv.consistent, inv.numbered, answered_pending inv.pending result here,
    { inv.owned with },
    inv.returned.move (UInt64.le_refl _) fun _ => nofun⟩

private theorem wireAnswers_inv (inv : Inv state) (result : Except E UInt64) :
    Inv (wireAnswers state call result) := by
  unfold wireAnswers
  split
  · exact answered_inv inv result ‹_›
  · exact inv
  · exact inv
  · exact inv

variable {result : Except E UInt64}

theorem publish_pending (pending : Pending state)
    (here : state.subscribes call = .answered pattern handler result) :
    Pending ((state.setRegistry (state.registry.publish pattern handler result).1).setSubscribe call
      (.returned (state.registry.publish pattern handler result).2)) := by
  have mine : (state.subscribes call).pendingPattern = some pattern := by
    rw [here]
    rfl
  have others : ∀ other name, other ≠ call → (state.subscribes other).pendingPattern = some name →
      name ∈ state.registry.pending.filter (· ≠ pattern) := by
    intro other name different yours
    refine List.mem_filter.mpr ⟨pending.listed other name yours, decide_eq_true fun same => ?_⟩
    rw [same] at yours
    exact different (pending.single other call pattern yours mine)
  rcases Registry.publish_cases state.registry pattern handler result with
    ⟨error, published⟩ | ⟨subID, rfl, unused, published⟩
  · rw [published]
    refine pending.move (fun _ => nofun) (fun other name different yours =>
        ⟨others other name different yours, nofun⟩) fun name mem => ?_
    exact pending.absent name (List.mem_filter.mp mem).1
  · rw [published]
    refine pending.move (fun _ => nofun) (fun other name different yours =>
        ⟨others other name different yours, nofun⟩) fun name mem => ?_
    obtain ⟨old, different⟩ := List.mem_filter.mp mem
    rw [Registry.lookup_register, if_neg (of_decide_eq_true different)]
    exact pending.absent name old

section

variable (inv : Inv state)
include inv

private theorem publish_inv
    (here : state.subscribes call = .answered pattern handler result)
    (draws : ∀ subID, result = .ok subID → (state.registry.live subID).isSome = false →
      state.registry.HasHandlerID) :
    Inv ((state.setRegistry (state.registry.publish pattern handler result).1).setSubscribe call
      (.returned (state.registry.publish pattern handler result).2)) := by
  have mine : (state.subscribes call).pendingPattern = some pattern := by
    rw [here]
    rfl
  have listed := inv.pending.listed call pattern mine
  -- the pattern is pending, so no `Restore` is re-subscribing
  have quiet : ∀ other frame, state.restores other ≠ .resubscribing frame := by
    intro other frame resubscribing
    rw [(inv.owned.progress other frame resubscribing).1] at listed
    cases listed
  refine ⟨inv.consistent.publish result (inv.pending.absent pattern listed),
    inv.numbered.publish result draws, publish_pending inv.pending here,
    ?_, ?_⟩
  all_goals
    rcases Registry.publish_cases state.registry pattern handler result with
      ⟨error, published⟩ | ⟨subID, rfl, unused, published⟩
    all_goals rw [published]
  · exact ⟨inv.owned.flagged, inv.owned.single, fun other frame resubscribing =>
        absurd resubscribing (quiet other frame)⟩
  · exact ⟨inv.owned.flagged, inv.owned.single, fun other frame resubscribing =>
        absurd resubscribing (quiet other frame)⟩
  · exact inv.returned.move (UInt64.le_refl _) fun _ => nofun
  · have drawn := draws subID rfl unused
    refine inv.returned.move (UInt64.le_of_lt drawn) fun handlerID mem => ?_
    cases mem
    exact ⟨drawn, UInt64.le_refl _⟩

theorem unsubscribe_inv (down : state.registry.restoring = false)
    (pattern : Pattern) (handlerID : UInt64) :
    Inv (state.setRegistry (state.registry.unsubscribe pattern handlerID).1) where
  consistent := inv.consistent.unsubscribe
  numbered := inv.numbered.unsubscribe
  pending := inv.pending.of_registry Registry.unsubscribe_kept.1
    fun _ => Registry.lookup_unsubscribe_of_none
  owned := Owned.of_free (inv.owned.free down)
  returned := inv.returned.of_registry Registry.unsubscribe_kept.2.2

private theorem clear_inv (down : state.registry.restoring = false) :
    Inv (state.setRegistry state.registry.clear.1) where
  consistent := inv.consistent.clear
  numbered := { inv.numbered with }
  pending := inv.pending.of_registry rfl fun _ _ => AList.lookup_empty _
  owned := Owned.of_free (inv.owned.free down)
  returned := inv.returned.of_registry rfl

/-! ## The steps of Restore -/

variable {frame : RestoreFrame}

theorem commit_inv (here : state.restores call = .resubscribing frame)
    (done : state.registry.registered frame = none) :
    Inv ((state.setRegistry (state.registry.commit frame)).setRestore call (.leaving true)) := by
  have owns := owns_of_resubscribing here
  obtain ⟨nothingPending, pointers, subIDs, progress⟩ := inv.owned.progress call frame here
  have complete := progress.complete_of_registered_none done
  obtain ⟨samePending, sameFlag, sameCounter⟩ := Registry.commit_kept state.registry frame
  have pending := inv.pending.of_registry samePending fun name absent => by
    rw [(progress.commit_restored complete).byPattern]
    exact absent
  have returned := inv.returned.of_registry sameCounter
  refine ⟨progress.commit_consistent complete inv.consistent,
    progress.commit_numbered complete inv.numbered,
    { pending with }, ?_, { returned with }⟩
  refine owned_setRestore (inv.owned.others owns) (fun _ => ?_) fun _ => nofun
  rw [sameFlag]
  exact inv.owned.flagged call owns

private theorem finishRestore_inv {flagged : Bool} (here : state.restores call = .leaving flagged)
    (met : flagged = false → state.registry.restoring = false) :
    Inv ((state.setRegistry state.registry.finishRestore).setRestore call .returned) := by
  have others : ∀ other, other ≠ call → (state.restores other).owns = false := by
    cases flagged with
    | true =>
      apply inv.owned.others
      rw [here]
      rfl
    | false => exact fun other _ => inv.owned.free (met rfl) other
  exact ⟨{ inv.consistent with }, { inv.numbered with },
    { inv.pending with }, owned_setRestore others nofun (fun _ => nofun),
    { inv.returned with }⟩

theorem Inv.not_pending (here : state.restores call = .resubscribing frame) (other : Nat) :
    (state.subscribes other).pendingPattern = none := by
  cases holds : (state.subscribes other).pendingPattern with
  | none => rfl
  | some pattern =>
    have listed := inv.pending.listed other pattern holds
    rw [(inv.owned.progress call frame here).1] at listed
    cases listed

theorem Inv.sound : Sound state :=
  { inv.consistent with
    handlerIDs := inv.numbered.unique
    returned := inv.returned.single
    alone call frame other here := by
      have without := inv.not_pending here other
      cases phase : state.subscribes other with
      | calling pattern handler =>
        rw [phase] at without
        cases without
      | _ => rfl }

end

section Restore

variable [Inhabited Pattern]

theorem beginRestore_inv (inv : Inv state) (down : state.registry.restoring = false)
    (nothingPending : state.registry.pending = []) {order : List (Pointer Pattern)}
    (perm : order.Perm state.registry.pointers) : Inv (beginRestore state call order) := by
  have others := fun other (_ : other ≠ call) => inv.owned.free down other
  unfold beginRestore
  split
  · exact ⟨inv.consistent, inv.numbered, { inv.pending with },
      owned_setRestore others nofun (fun _ => nofun), { inv.returned with }⟩
  · have quiet := inv.consistent.beginRestore_quiet order
    have progress := inv.consistent.beginRestore_progress perm
    have pending := inv.pending.of_quiet quiet
    have returned := inv.returned.of_registry quiet.counter
    refine ⟨quiet.consistent inv.consistent, quiet.numbered inv.numbered,
      { pending with }, ?_, { returned with }⟩
    refine owned_setRestore others (fun _ => rfl) fun frame same => ?_
    cases same
    exact ⟨nothingPending, _, _, progress⟩

theorem restoreAnswered_inv (inv : Inv state) {registered : Pointer Pattern}
    (here : state.restores call = .resubscribing frame)
    (current : state.registry.registered frame = some registered) (result : Except E UInt64) :
    Inv (next state (.restoreAnswered call frame registered result)) := by
  have owns := owns_of_resubscribing here
  obtain ⟨nothingPending, pointers, subIDs, progress⟩ := inv.owned.progress call frame here
  have quiet := progress.answer_quiet inv.consistent registered result
  have pending := inv.pending.of_quiet quiet
  have returned := inv.returned.of_registry quiet.counter
  refine ⟨quiet.consistent inv.consistent, quiet.numbered inv.numbered,
    { pending with }, ?_, { returned with }⟩
  refine owned_setRestore (inv.owned.others owns) (fun _ => ?_) fun next same => ?_
  · rw [Registry.restoring_answer]
    exact inv.owned.flagged call owns
  · refine ⟨quiet.pending.trans nothingPending, ?_⟩
    cases reply : (state.registry.answer frame registered result).2 with
    | rollback cause restored =>
      rw [reply] at same
      cases same
    | next following =>
      rw [reply] at same
      cases same
      obtain ⟨subID, -, recorded⟩ := progress.answer_next current result reply
      exact ⟨_, _, recorded⟩

/-! ## Runs -/

variable {after : State H Pattern E} {event : Event H Pattern E}

theorem step_inv (inv : Inv state)
    (met : Undisturbed state event) (stepped : step state event = some after) : Inv after := by
  obtain ⟨enabled, rfl⟩ := guarded_eq_some_iff.mp stepped
  cases event with
  | attempt call pattern handler =>
    obtain ⟨_, down⟩ := enabled
    exact ⟨inv.consistent.attemptSubscribe, inv.numbered.attemptSubscribe met.1,
      attempt_pending inv.pending pattern handler,
      Owned.of_free (inv.owned.free down),
      attempt_returned inv.returned handler met.1⟩
  | wireAnswers call result => exact wireAnswers_inv inv result
  | publish call =>
    dsimp only [next]
    unfold publish
    split
    · rename_i pattern handler result here
      refine publish_inv inv here fun subID same unused => ?_
      rw [same] at here
      exact met.1 (drawsHandlerID_publish here unused)
    · exact inv
    · exact inv
    · exact inv
  | unsubscribe pattern handlerID => exact unsubscribe_inv inv enabled pattern handlerID
  | clear => exact clear_inv inv enabled
  | beginRestore call order =>
    obtain ⟨_, down, nothingPending, perm⟩ := enabled
    exact beginRestore_inv inv down nothingPending perm
  | restoreAnswered call frame registered result =>
    obtain ⟨here, current⟩ := enabled
    exact restoreAnswered_inv inv here current result
  | commit call frame =>
    obtain ⟨here, done⟩ := enabled
    exact commit_inv inv here done
  | finishRestore call flagged =>
    refine finishRestore_inv inv enabled fun down => met.2 ?_
    rw [down]
    rfl

theorem step_exclusive
    (inv : Inv state) (stepped : step state event = some after) : Exclusive state event := by
  obtain ⟨enabled, -⟩ := guarded_eq_some_iff.mp stepped
  intro call frame here notCommit
  have owns := owns_of_resubscribing here
  have up := inv.owned.flagged call owns
  have raised : state.registry.restoring ≠ false := by
    rw [up]
    exact Bool.false_ne_true.symm
  cases event with
  | attempt other pattern handler => exact absurd enabled.2 raised
  | wireAnswers other result =>
    dsimp only [next]
    rw [registry_wireAnswers]
    exact ⟨rfl, rfl, rfl⟩
  | publish other =>
    have without := inv.not_pending here other
    dsimp only [next]
    unfold publish
    split
    · rename_i phase
      rw [phase] at without
      cases without
    · exact ⟨rfl, rfl, rfl⟩
    · exact ⟨rfl, rfl, rfl⟩
    · exact ⟨rfl, rfl, rfl⟩
  | beginRestore other order => exact absurd enabled.2.1 raised
  | restoreAnswered other otherFrame registered result =>
    obtain ⟨_, _, _, progress⟩ := inv.owned.progress other otherFrame enabled.1
    have quiet := progress.answer_quiet inv.consistent registered result
    exact quiet.toSameTables
  | commit other otherFrame =>
    have same := inv.owned.single other call (owns_of_resubscribing enabled.1) owns
    subst same
    cases here.symm.trans enabled.1
    exact absurd rfl notCommit
  | finishRestore other flagged => exact ⟨rfl, rfl, rfl⟩
  | _ => exact absurd enabled raised

/-- In every run in which a `Restore` that found no entries never resets the
flag of another one, and the counter of handler ids does not come around, the
maps agree whenever the lock is free, and a re-subscribing `Restore` has the
registry for itself. -/
theorem registry_stays_consistent {events : List (Event H Pattern E)} {final : State H Pattern E}
    (along : Along step Undisturbed initial events) (ran : run step initial events = some final) :
    Sound final ∧ Along step Exclusive initial events := by
  refine ⟨(invariant_along Inv step_inv initial_inv along ran).sound, ?_⟩
  exact along_of_invariant Inv step_inv
    (fun inv _ stepped => step_exclusive inv stepped) initial_inv along ran

end Restore

/-- Two patterns are subscribed while a `Restore` that found no entries leaves.
A second one fails at the second pattern, a third one succeeds, and the first
pattern is unsubscribed. -/
def orderlyRun : List (Event Unit String Unit) :=
  [.beginRestore 0 [], .attempt 0 "a" (), .attempt 1 "b" (), .wireAnswers 1 (.ok 2), .publish 1,
    .finishRestore 0 false,
    .wireAnswers 0 (.ok 1), .publish 0,
    .beginRestore 1 [⟨"a", 1⟩, ⟨"b", 0⟩],
    .restoreAnswered 1 ⟨⟨1, 2⟩, ⟨1, 0⟩, ⟨1, 2⟩, 1, 0⟩ ⟨"a", 1⟩ (.ok 2),
    .restoreAnswered 1 ⟨⟨1, 2⟩, ⟨1, 1⟩, ⟨1, 2⟩, 1, 1⟩ ⟨"b", 0⟩ (.error ()),
    .finishRestore 1 true,
    .beginRestore 2 [⟨"b", 0⟩, ⟨"a", 1⟩],
    .restoreAnswered 2 ⟨⟨2, 2⟩, ⟨2, 0⟩, ⟨1, 2⟩, 1, 0⟩ ⟨"a", 1⟩ (.ok 2),
    .restoreAnswered 2 ⟨⟨2, 2⟩, ⟨2, 1⟩, ⟨1, 2⟩, 1, 1⟩ ⟨"b", 0⟩ (.ok 3),
    .commit 2 ⟨⟨2, 2⟩, ⟨2, 2⟩, ⟨1, 2⟩, 1, 2⟩,
    .finishRestore 2 true,
    .unsubscribe "a" 2]

theorem orderlyRun_is_consistent : ∃ final : State Unit String Unit,
      run step initial orderlyRun = some final ∧
        final.registry.live 3 = some ⟨"b", 0⟩ ∧
        Sound final ∧ Along step Exclusive initial orderlyRun := by
  obtain ⟨final, ran, live⟩ :
      ∃ final : State Unit String Unit, run step initial orderlyRun = some final ∧
        final.registry.live 3 = some ⟨"b", 0⟩ := by
    decide +kernel
  have along : Along step Undisturbed initial orderlyRun := by
    decide +kernel
  exact ⟨final, ran, live, registry_stays_consistent along ran⟩

/-- A `Restore` that found no entries leaves late: it resets the flag of a
second one, and an `Unsubscribe` runs between the wire calls of that one and its
commit. -/
def lateExitRun : List (Event Unit String Unit) :=
  [.beginRestore 0 [], .attempt 0 "a" (), .wireAnswers 0 (.ok 1), .publish 0,
    .beginRestore 1 [⟨"a", 0⟩],
    .finishRestore 0 false,
    .unsubscribe "a" 1,
    .restoreAnswered 1 ⟨⟨1, 1⟩, ⟨1, 0⟩, ⟨1, 1⟩, 1, 0⟩ ⟨"a", 0⟩ (.ok 7),
    .commit 1 ⟨⟨1, 1⟩, ⟨1, 1⟩, ⟨1, 1⟩, 1, 1⟩,
    .finishRestore 1 true]

/-- The map by id holds an entry that the map by pattern does not hold. -/
theorem late_exit_breaks_the_maps : ∃ final : State Unit String Unit,
      run step initial lateExitRun = some final ∧ ¬ Sound final := by
  obtain ⟨final, ran, live, absent⟩ :
      ∃ final : State Unit String Unit, run step initial lateExitRun = some final ∧
        final.registry.live 7 = some ⟨"a", 0⟩ ∧
        final.registry.byPattern.lookup "a" = none := by
    decide +kernel
  refine ⟨final, ran, fun sound => ?_⟩
  have held := ((sound.agree 7 ⟨"a", 0⟩).mp live).1
  rw [absent] at held
  cases held

end FitzGo.Subscriptions.Heap.Exclusion
