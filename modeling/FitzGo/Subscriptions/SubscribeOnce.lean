import FitzGo.Subscriptions.Completion
import FitzGo.Subscriptions.RegistryMoves
import FitzGo.Subscriptions.RestoreExclusionSafety

/-!
# One wire call per pattern, and no lost handler

Without a `Restore`, a registration that was returned stays until its own
`Unsubscribe` or a `Clear`, as long as the counter of handler ids has not come
around.
-/

namespace FitzGo.Subscriptions.Heap.Exclusion

open StepMachine

variable {H Pattern E : Type}

def Event.isRestore : Event H Pattern E → Bool
  | .beginRestore _ _ | .restoreAnswered _ _ _ _ | .commit _ _
  | .finishRestore _ _ => true
  | .attempt _ _ _ | .wireAnswers _ _ | .publish _ | .unsubscribe _ _
  | .clear => false

/-- The call of `Subscribe` that an event moves. -/
def Event.caller : Event H Pattern E → Option Nat
  | .attempt call _ _ | .wireAnswers call _ | .publish call => some call
  | .unsubscribe _ _ | .clear | .beginRestore _ _
  | .restoreAnswered _ _ _ _ | .commit _ _ | .finishRestore _ _ => none

section Claim

variable [LinearOrder Pattern] [Inhabited Pattern]

/-- The step returns a handler id from a call of `Subscribe`. -/
def Succeeds (state : State H Pattern E) (event : Event H Pattern E) (call : Nat)
    (pattern : Pattern) (handler : H) (handlerID : UInt64) : Prop :=
  (event = .attempt call pattern handler ∨
    (event = .publish call ∧ ∃ result, state.subscribes call = .answered pattern handler result)) ∧
  ∃ subID, (next state event).subscribes call = .returned (.ok (subID, handlerID))

/-- The step returns an error from a call of `Subscribe`. -/
def Fails (state : State H Pattern E) (event : Event H Pattern E)
    (call : Nat) (error : SubscribeError E Pattern) : Prop :=
  (next state event).subscribes call = .returned (.error error) ∧
    state.subscribes call ≠ .returned (.error error)

/-- The error is that of the call's own wire call, or the wire call has returned
an id in use. -/
def OwnFault (state : State H Pattern E) (call : Nat) : SubscribeError E Pattern → Prop
  | .wire error =>
    ∃ pattern handler, state.subscribes call = .answered pattern handler (.error error)
  | .duplicate subID pattern =>
    (∃ handler, state.subscribes call = .answered pattern handler (.ok subID)) ∧
    (state.registry.live subID).isSome = true

structure RegistersOnce (events : List (Event H Pattern E)) (final : State H Pattern E) : Prop where
  oneWireCall : ∀ call other pattern handler second,
    final.subscribes call = .calling pattern handler →
    final.subscribes other = .calling pattern second → call = other
  notRegistered : ∀ call pattern handler, final.subscribes call = .calling pattern handler →
    final.registry.byPattern.lookup pattern = none
  kept : ∀ before event after middle call pattern handler handlerID,
    events = before ++ event :: after → run step initial before = some middle →
    Succeeds middle event call pattern handler handlerID → (∀ later ∈ after,
    later ≠ .clear ∧ later ≠ .unsubscribe pattern handlerID) →
    (final.registry.find pattern handlerID).map Registration.handler = some handler
  failure : ∀ before event after middle call error, events = before ++ event :: after →
    run step initial before = some middle → Fails middle event call error →
    OwnFault middle call error
  lastHandler : ∀ pattern handlerID, (final.registry.unsubscribe pattern handlerID).2 = true ↔
    handlerID ∈ final.registry.handlerIDs pattern ∧
    (final.registry.unsubscribe pattern handlerID).1.handlerIDs pattern = []
  completions : ∀ pattern handlerID found other otherID second,
    final.registry.find pattern handlerID = some found →
    final.registry.find other otherID = some second → found.completion = second.completion →
    pattern = other ∧ handlerID = otherID
  completed : ∀ completion, completion ∈ final.registry.completed ↔
    completion < final.registry.completions ∧ ∀ pattern handlerID found,
    final.registry.find pattern handlerID = some found → found.completion ≠ completion

/-- A handler id is drawn only while the counter has not reached its end. -/
def HandlerIDsLast (state : State H Pattern E) (event : Event H Pattern E) : Prop :=
  drawsHandlerID state event = true → state.registry.HasHandlerID

instance (state : State H Pattern E) (event : Event H Pattern E) :
    Decidable (HandlerIDsLast state event) :=
  inferInstanceAs (Decidable (_ → _))

omit [Inhabited Pattern] in
theorem HandlerIDsLast.undisturbed {state : State H Pattern E} {event : Event H Pattern E}
    (alone : event.isRestore = false) (last : HandlerIDsLast state event) :
    Undisturbed state event := by
  refine ⟨last, fun resets => ?_⟩
  cases event with
  | finishRestore call flagged => cases alone
  | _ => cases resets

end Claim

section Steps

variable [LinearOrder Pattern]
variable {state : State H Pattern E} {call : Nat}
variable {pattern : Pattern} {handler : H} {handlerID : UInt64} {result : Except E UInt64}

theorem Inv.absent_of_answered (inv : Inv state)
    (here : state.subscribes call = .answered pattern handler result) :
    state.registry.byPattern.lookup pattern = none := by
  have mine : (state.subscribes call).pendingPattern = some pattern := by
    rw [here]
    rfl
  exact inv.pending.absent pattern (inv.pending.listed call pattern mine)

theorem Inv.find_ne_handlerID (inv : Inv state) {found : Registration H Pattern}
    (drawn : state.registry.HasHandlerID)
    (here : state.registry.find pattern handlerID = some found) :
    handlerID ≠ state.registry.handlerID := by
  rintro rfl
  rw [inv.numbered.find_handlerID drawn] at here
  cases here

theorem publish_of_answered (here : state.subscribes call = .answered pattern handler result) :
    publish state call = (state.setRegistry
      (state.registry.publish pattern handler result).1).setSubscribe call
      (.returned (state.registry.publish pattern handler result).2) := by
  rw [publish, here]

theorem drawsHandlerID_of_isOk (here : state.subscribes call = .answered pattern handler result)
    (succeeded : (state.registry.publish pattern handler result).2.isOk = true) :
    drawsHandlerID state (.publish call) = true := by
  rcases Registry.publish_cases state.registry pattern handler result with
    ⟨error, published⟩ | ⟨subID, same, unused, _⟩
  · rw [published] at succeeded
    cases succeeded
  · rw [same] at here
    exact drawsHandlerID_publish here unused

section Runs

variable [Inhabited Pattern] {event : Event H Pattern E} {after : State H Pattern E}

private theorem step_kept
    (inv : Inv state) (alone : event.isRestore = false) (last : HandlerIDsLast state event)
    (stays : event ≠ .clear ∧ event ≠ .unsubscribe pattern handlerID)
    (stepped : step state event = some after)
    (found : (state.registry.find pattern handlerID).map Registration.handler = some handler) :
    (after.registry.find pattern handlerID).map Registration.handler = some handler := by
  obtain ⟨enabled, rfl⟩ := guarded_eq_some_iff.mp stepped
  obtain ⟨registration, here, _⟩ := Option.map_eq_some_iff.mp found
  suffices same :
      (next state event).registry.find pattern handlerID = state.registry.find pattern handlerID by
    rw [same]
    exact found
  cases event with
  | attempt other name second =>
    refine (inv.consistent.find_attemptSubscribe pattern handlerID).trans (if_neg ?_)
    rintro ⟨isSome, rfl, rfl⟩
    exact inv.find_ne_handlerID (last isSome) here rfl
  | wireAnswers other result =>
    exact congrArg (fun registry => registry.find pattern handlerID)
      (registry_wireAnswers state other result)
  | publish other =>
    cases phase : state.subscribes other with
    | answered name second result =>
      have absent := inv.absent_of_answered phase
      dsimp only [next]
      rw [publish_of_answered phase]
      refine (inv.consistent.find_publish result absent pattern handlerID).trans (if_neg ?_)
      rintro ⟨isOk, rfl, rfl⟩
      exact inv.find_ne_handlerID (last (drawsHandlerID_of_isOk phase isOk)) here rfl
    | _ =>
      dsimp only [next]
      rw [publish, phase]
  | unsubscribe name id =>
    refine (inv.consistent.find_unsubscribe pattern handlerID).trans (if_neg ?_)
    rintro ⟨rfl, rfl⟩
    exact stays.2 rfl
  | clear => exact absurd rfl stays.1
  | _ => cases alone

theorem find_of_succeeds (inv : Inv state)
    (succeeds : Succeeds state event call pattern handler handlerID) :
    ((next state event).registry.find pattern handlerID).map
      Registration.handler = some handler := by
  obtain ⟨rfl | ⟨rfl, result, here⟩, subID, returned⟩ := succeeds
  · dsimp only [next] at returned ⊢
    rw [subscribes_setSubscribe_self] at returned
    cases lookup : state.registry.byPattern.lookup pattern with
    | some existing =>
      rw [Registry.attemptSubscribe_of_some lookup] at returned ⊢
      cases returned
      have added : (state.registry.addHandler existing pattern handler).find pattern
            state.registry.handlerID = some (state.registry.registration pattern handler) :=
        (inv.consistent.find_addHandler lookup _ _).trans (if_pos ⟨rfl, rfl⟩)
      exact congrArg (Option.map Registration.handler) added
    | none =>
      by_cases listed : pattern ∈ state.registry.pending
      · rw [Registry.attemptSubscribe_of_pending lookup listed] at returned
        cases returned
      · rw [Registry.attemptSubscribe_of_new lookup listed] at returned
        cases returned
  · have absent := inv.absent_of_answered here
    dsimp only [next] at returned ⊢
    rw [publish_of_answered here] at returned ⊢
    rw [subscribes_setSubscribe_self] at returned
    rcases Registry.publish_cases state.registry pattern handler result with
      ⟨error, published⟩ | ⟨drawn, -, unused, published⟩
    · rw [published] at returned
      cases returned
    · have isOk : (state.registry.publish pattern handler result).2.isOk = true := by
        rw [published]
        rfl
      have added : (state.registry.publish pattern handler result).1.find pattern
            state.registry.handlerID = some (state.registry.registration pattern handler) :=
        (inv.consistent.find_publish result absent _ _).trans (if_pos ⟨isOk, rfl, rfl⟩)
      rw [published] at returned
      cases returned
      exact congrArg (Option.map Registration.handler) added

theorem subscribes_next_of_ne (others : event.caller ≠ some call) :
    (next state event).subscribes call = state.subscribes call := by
  cases event with
  | attempt other name second =>
    have different : call ≠ other := by
      rintro rfl
      exact others rfl
    exact subscribes_setSubscribe_of_ne different
  | wireAnswers other result | publish other =>
    have different : call ≠ other := by
      rintro rfl
      exact others rfl
    dsimp only [next, wireAnswers, publish]
    split
    · exact subscribes_setSubscribe_of_ne different
    · rfl
    · rfl
    · rfl
  | beginRestore other order =>
    dsimp only [next]
    unfold beginRestore
    split <;> rfl
  | _ => rfl

private theorem ownFault_of_fails {error : SubscribeError E Pattern}
    (stepped : step state event = some after)
    (fails : Fails state event call error) : OwnFault state call error := by
  obtain ⟨failed, unfailed⟩ := fails
  obtain ⟨enabled, -⟩ := guarded_eq_some_iff.mp stepped
  have mine : event.caller = some call := by
    by_contra others
    rw [subscribes_next_of_ne others] at failed
    exact unfailed failed
  cases event with
  | attempt other name second =>
    cases mine
    dsimp only [next] at failed
    rw [subscribes_setSubscribe_self] at failed
    unfold SubscribeCall.afterAttempt at failed
    split at failed <;> cases failed
  | wireAnswers other result =>
    cases mine
    dsimp only [next] at failed
    unfold wireAnswers at failed
    split at failed
    · rw [subscribes_setSubscribe_self] at failed
      cases failed
    · exact absurd failed unfailed
    · exact absurd failed unfailed
    · exact absurd failed unfailed
  | publish other =>
    cases mine
    dsimp only [next] at failed
    cases phase : state.subscribes call with
    | answered name second result =>
      rw [publish_of_answered phase, subscribes_setSubscribe_self] at failed
      cases result with
      | error cause =>
        cases failed
        exact ⟨name, second, phase⟩
      | ok subID =>
        rw [Registry.publish] at failed
        by_cases used : (state.registry.live subID).isSome = true
        · rw [if_pos used] at failed
          cases failed
          exact ⟨⟨second, phase⟩, used⟩
        · rw [if_neg used] at failed
          cases failed
    | _ =>
      rw [Enabled, phase] at enabled
      cases enabled
  | _ => cases mine

theorem next_moves_of_caller (inv : Inv state)
    (last : HandlerIDsLast state event) (mine : event.caller = some call) :
    Registry.Moves state.registry (next state event).registry [] := by
  cases event with
  | attempt other pattern handler => exact inv.consistent.attemptSubscribe_moves inv.numbered last
  | wireAnswers other result =>
    dsimp only [next]
    rw [registry_wireAnswers]
    exact Registry.Moves.refl _
  | publish other =>
    dsimp only [next]
    cases phase : state.subscribes other with
    | answered pattern handler result =>
      rw [publish_of_answered phase]
      apply inv.consistent.publish_moves inv.numbered result (inv.absent_of_answered phase)
      intro isOk
      exact last (drawsHandlerID_of_isOk phase isOk)
    | _ =>
      rw [publish, phase]
      exact Registry.Moves.refl _
  | _ => cases mine

theorem step_ownCompletions (inv : Inv state) (alone : event.isRestore = false)
    (last : HandlerIDsLast state event) (stepped : step state event = some after)
    (own : state.registry.OwnCompletions) : after.registry.OwnCompletions := by
  have following := step_inv inv (last.undisturbed alone) stepped
  have moves : ∃ completed, Registry.Moves state.registry after.registry completed := by
    obtain ⟨enabled, rfl⟩ := guarded_eq_some_iff.mp stepped
    cases event with
    | attempt | wireAnswers | publish => exact ⟨[], next_moves_of_caller inv last rfl⟩
    | unsubscribe name id => exact ⟨_, inv.consistent.unsubscribe_moves name id⟩
    | clear => exact ⟨_, Registry.clear_moves state.registry⟩
    | _ => cases alone
  obtain ⟨completed, moves⟩ := moves
  exact moves.ownCompletions own following.consistent following.numbered

/-- The condition of one step in a run without `Restore`. -/
def Drawing (state : State H Pattern E) (event : Event H Pattern E) : Prop :=
  event.isRestore = false ∧ HandlerIDsLast state event

private theorem run_kept {events : List (Event H Pattern E)} {final : State H Pattern E}
    (inv : Inv state) (along : Along step Drawing state events)
    (stays : ∀ later ∈ events, later ≠ .clear ∧ later ≠ .unsubscribe pattern handlerID)
    (ran : run step state events = some final)
    (found : (state.registry.find pattern handlerID).map Registration.handler = some handler) :
    (final.registry.find pattern handlerID).map Registration.handler = some handler := by
  induction events generalizing state with
  | nil =>
    rw [run_nil] at ran
    cases ran
    exact found
  | cons event rest ih =>
    obtain ⟨middle, stepped, ranRest⟩ := run_cons_eq_some ran
    obtain ⟨⟨alone, last⟩, alongRest⟩ := along_cons_of_step stepped along
    have staysHere := stays event List.mem_cons_self
    have staysRest : ∀ later ∈ rest, later ≠ .clear ∧ later ≠ .unsubscribe pattern handlerID := by
      intro later member
      exact stays later (List.mem_cons_of_mem _ member)
    have invNext := step_inv inv (last.undisturbed alone) stepped
    have foundNext := step_kept inv alone last staysHere stepped found
    exact ih invNext alongRest staysRest ranRest foundNext

/-- In every run without `Restore` in which the counter of handler ids does not
come around, a pattern has one wire call at a time and a returned handler stays
registered. The registry calls `Complete` for a registration that goes, and for
no other; the `Completion` yields one value, and none before. -/
theorem subscriptions_register_once {events : List (Event H Pattern E)} {final : State H Pattern E}
    (alone : ∀ event ∈ events, event.isRestore = false)
    (last : Along step HandlerIDsLast initial events) (ran : run step initial events = some final) :
    RegistersOnce events final ∧
      ∀ {V : Type} [DecidableEq V]
        {calls : List (Completion.Event V)} {completed : Completion.State V},
        run Completion.step Completion.new calls = some completed →
        Completion.YieldsOnce completed ∧ ∀ pattern handlerID found,
          final.registry.find pattern handlerID = some found →
          (∀ index err, .call index err ∈ calls → found.completion ∈ final.registry.completed) →
          completed = Completion.new := by
  have along : Along step Drawing initial events :=
    along_mono (fun state event member met => ⟨alone event member, met⟩) last
  have keeps : ∀ {state next : State H Pattern E}
      {event : Event H Pattern E},
      Inv state ∧ state.registry.OwnCompletions →
      Drawing state event →
      step state event = some next →
      Inv next ∧ next.registry.OwnCompletions := by
    intro state next event both met stepped
    exact ⟨step_inv both.1 (met.2.undisturbed met.1) stepped,
      step_ownCompletions both.1 met.1 met.2 stepped both.2⟩
  have start :
      Inv (initial : State H Pattern E) ∧ (initial : State H Pattern E).registry.OwnCompletions :=
    ⟨initial_inv, Registry.new_ownCompletions⟩
  obtain ⟨inv, own⟩ := invariant_along (fun state : State H Pattern E =>
      Inv state ∧ state.registry.OwnCompletions)
    keeps start along ran
  refine ⟨⟨?_, ?_, ?_, ?_, ?_, own.single, own.completed⟩, fun ranCalls => ?_⟩
  · intro call other pattern handler second here there
    apply inv.pending.single call other pattern
    · rw [here]
      rfl
    · rw [there]
      rfl
  · intro call pattern handler here
    apply inv.pending.absent
    apply inv.pending.listed call pattern
    rw [here]
    rfl
  · intro before event after middle call pattern handler handlerID split ranBefore succeeds stays
    subst split
    obtain ⟨following, stepped, ranAfter⟩ := run_around_event ran ranBefore
    obtain ⟨alongBefore, alongFrom⟩ := along_append ranBefore along
    have invMiddle := (invariant_along (fun state : State H Pattern E =>
          Inv state ∧ state.registry.OwnCompletions)
        keeps start alongBefore ranBefore).1
    obtain ⟨met, alongAfter⟩ := along_cons_of_step stepped alongFrom
    have invNext := step_inv invMiddle (met.2.undisturbed met.1) stepped
    have foundNext := find_of_succeeds invMiddle succeeds
    rw [(guarded_eq_some_iff.mp stepped).2] at foundNext
    exact run_kept invNext alongAfter stays ranAfter foundNext
  · intro before event after middle call error split ranBefore fails
    subst split
    obtain ⟨following, stepped, -⟩ := run_around_event ran ranBefore
    exact ownFault_of_fails stepped fails
  · intro pattern handlerID
    exact Registry.unsubscribe_eq_true_iff
  · refine ⟨Completion.yieldsOnce_of_run ranCalls, fun pattern handlerID found here ours => ?_⟩
    refine Completion.eq_new_of_run ranCalls fun index err called => ?_
    have gone := ((own.completed found.completion).mp (ours index err called)).2
    exact gone pattern handlerID found here rfl

end Runs

end Steps

def sharedPatternRun : List (Event Bool String Unit) :=
  [.attempt 0 "a" true, .attempt 1 "a" false, .attempt 2 "b" true,
    .wireAnswers 2 (.error ()), .publish 2,
    .wireAnswers 0 (.ok 1), .attempt 1 "a" false, .publish 0,
    .attempt 1 "a" false, .unsubscribe "a" 1]

theorem sharedPatternRun_registers_once : ∃ final : State Bool String Unit,
      run step initial sharedPatternRun = some final ∧
        final.registry.handlerIDs "a" = [2] ∧
        RegistersOnce sharedPatternRun final := by
  obtain ⟨final, ran, left⟩ :
      ∃ final : State Bool String Unit, run step initial sharedPatternRun = some final ∧
        final.registry.handlerIDs "a" = [2] := by
    decide +kernel
  have last : Along step HandlerIDsLast initial sharedPatternRun := by
    decide +kernel
  have alone : ∀ event ∈ sharedPatternRun, event.isRestore = false := by
    simp [sharedPatternRun, Event.isRestore]
  exact ⟨final, ran, left, (subscriptions_register_once alone last ran).1⟩

/-! ## A counter that has come around -/

def churn : Nat → List (Event Bool String Unit)
  | 0 => []
  | rounds + 1 =>
    churn rounds ++ [.attempt (rounds + 1) "a" false, .unsubscribe "a" (UInt64.ofNat (rounds + 2))]

/-- The pattern keeps its first handler while the counter goes on. -/
structure Churned (rounds : Nat) (state : State Bool String Unit) : Prop where
  consistent : state.registry.Consistent
  found : (state.registry.find "a" 1).map Registration.handler = some true
  counter : state.registry.nextHandlerID = UInt64.ofNat (rounds + 1)
  down : state.registry.restoring = false
  idle : ∀ call, rounds < call → state.subscribes call = .idle

variable {rounds : Nat} {state : State Bool String Unit}

theorem drawn_ne_one (bound : rounds + 1 < 2 ^ 64) : (1 : UInt64) ≠ UInt64.ofNat (rounds + 2) := by
  intro same
  have values := congrArg UInt64.toNat same
  rw [UInt64.toNat_ofNat', UInt64.toNat_one] at values
  omega

theorem Churned.handlerID (churned : Churned rounds state) :
    state.registry.handlerID = UInt64.ofNat (rounds + 2) := by
  rw [Registry.handlerID, churned.counter, UInt64.ofNat_add, UInt64.ofNat_add, UInt64.add_assoc]
  rfl

theorem Churned.listed (churned : Churned rounds state) :
    (state.registry.byPattern.lookup "a").isSome = true := by
  obtain ⟨registration, here, _⟩ := Option.map_eq_some_iff.mp churned.found
  obtain ⟨pointer, lookup, _⟩ := Registry.find_eq_some_iff.mp here
  rw [lookup]
  rfl

theorem Churned.attempt (churned : Churned rounds state) :
    ∃ after, step state (.attempt (rounds + 1) "a" false) = some after ∧
      after.registry.find "a" state.registry.handlerID =
      some (state.registry.registration "a" false) ∧
      (state.registry.handlerID ≠ 1 → Churned (rounds + 1) after) := by
  obtain ⟨existing, lookup⟩ := Option.isSome_iff_exists.mp churned.listed
  have idle := churned.idle (rounds + 1) (Nat.lt_succ_self rounds)
  have found : ∀ id : UInt64, (state.registry.attemptSubscribe "a" false).1.find "a" id =
        if (state.registry.byPattern.lookup "a").isSome = true ∧
            "a" = "a" ∧ id = state.registry.handlerID then
          some (state.registry.registration "a" false)
        else state.registry.find "a" id :=
    churned.consistent.find_attemptSubscribe "a"
  refine ⟨next state (.attempt (rounds + 1) "a" false), ?_, ?_, ?_⟩
  · apply guarded_eq_some_iff.mpr
    refine ⟨⟨?_, churned.down⟩, rfl⟩
    rw [idle]
    rfl
  · exact (found _).trans (if_pos ⟨churned.listed, rfl, rfl⟩)
  · intro different
    have counter :
        (state.registry.attemptSubscribe "a" false).1.nextHandlerID = state.registry.handlerID := by
      rw [Registry.attemptSubscribe_of_some lookup]
      rfl
    have down :
        (state.registry.attemptSubscribe "a" false).1.restoring = state.registry.restoring := by
      rw [Registry.attemptSubscribe_of_some lookup]
      rfl
    refine ⟨churned.consistent.attemptSubscribe, ?_,
      counter.trans churned.handlerID, down.trans churned.down, ?_⟩
    · have kept := (found 1).trans (if_neg fun same => different same.2.2.symm)
      exact (congrArg (Option.map Registration.handler) kept).trans churned.found
    · intro call later
      have others :
          (Event.attempt (rounds + 1) "a" false : Event Bool String Unit).caller ≠ some call := by
        intro same
        cases same
        omega
      rw [subscribes_next_of_ne others]
      exact churned.idle call (by omega)

theorem Churned.unsubscribe
    (churned : Churned rounds state) {handlerID : UInt64} (different : (1 : UInt64) ≠ handlerID) :
    ∃ after, step state (.unsubscribe "a" handlerID) = some after ∧ Churned rounds after := by
  have fields : (state.registry.unsubscribe "a" handlerID).1.pending = state.registry.pending ∧
        (state.registry.unsubscribe "a" handlerID).1.restoring = state.registry.restoring ∧
        (state.registry.unsubscribe "a" handlerID).1.nextHandlerID = state.registry.nextHandlerID :=
    Registry.unsubscribe_kept
  obtain ⟨_, down, counter⟩ := fields
  refine ⟨next state (.unsubscribe "a" handlerID), guarded_eq_some_iff.mpr ⟨churned.down, rfl⟩,
    churned.consistent.unsubscribe, ?_, counter.trans churned.counter,
    down.trans churned.down, churned.idle⟩
  have kept : (state.registry.unsubscribe "a" handlerID).1.find "a" 1 = state.registry.find "a" 1 :=
    (churned.consistent.find_unsubscribe "a" 1).trans (if_neg fun same => different same.2)
  exact (congrArg (Option.map Registration.handler) kept).trans churned.found

private theorem churn_reaches
    (start : Churned 0 state) (rounds : Nat) (bound : rounds < 2 ^ 64) :
    ∃ after, run step state (churn rounds) = some after ∧ Churned rounds after := by
  induction rounds with
  | zero => exact ⟨state, rfl, start⟩
  | succ rounds ih =>
    obtain ⟨middle, ran, churned⟩ := ih (by omega)
    have different := drawn_ne_one bound
    obtain ⟨grown, attempted, -, more⟩ := churned.attempt
    rw [churned.handlerID] at more
    obtain ⟨after, removed, done⟩ := (more different.symm).unsubscribe different
    refine ⟨after, ?_, done⟩
    rw [churn, run_append, ran]
    simp only [Option.bind_some, run_cons, attempted, removed, run_nil]

private theorem churn_spares_first (bound : rounds < 2 ^ 64) :
    ∀ event ∈ churn rounds, event ≠ .clear ∧ event ≠ .unsubscribe "a" 1 := by
  induction rounds with
  | zero =>
    intro event member
    cases member
  | succ rounds ih =>
    intro event member
    have different := drawn_ne_one bound
    rw [churn, List.mem_append] at member
    rcases member with old | new
    · exact ih (by omega) event old
    · simp only [List.mem_cons, List.not_mem_nil, or_false] at new
      rcases new with rfl | rfl
      · exact ⟨nofun, nofun⟩
      · refine ⟨nofun, fun same => different ?_⟩
        injection same with _ ids
        exact ids.symm

def firstAnswered : State Bool String Unit :=
  next (next initial (.attempt 0 "a" true)) (.wireAnswers 0 (.ok 1))

def firstRegistered : State Bool String Unit :=
  next firstAnswered (.publish 0)

private theorem firstRegistered_churned : Churned 0 firstRegistered := by
  have ran : run step initial
        [.attempt 0 "a" true, .wireAnswers 0 (.ok 1), .publish 0] = some firstRegistered := by
    rfl
  have along : Along step Undisturbed (initial : State Bool String Unit)
        [.attempt 0 "a" true, .wireAnswers 0 (.ok 1), .publish 0] := by
    decide +kernel
  have inv := invariant_along Inv step_inv initial_inv along ran
  refine ⟨inv.consistent, by decide +kernel, by decide +kernel, rfl, ?_⟩
  intro call positive
  have others : (some 0 : Option Nat) ≠ some call := by
    intro same
    cases same
    exact Nat.lt_irrefl 0 positive
  calc firstRegistered.subscribes call
      _ = firstAnswered.subscribes call := subscribes_next_of_ne others
      _ = (next initial (.attempt 0 "a" true)).subscribes call := subscribes_next_of_ne others
      _ = .idle := subscribes_next_of_ne others

/-- The first handler is subscribed, the counter comes around, and one more
handler is subscribed. -/
def comesAroundRun : List (Event Bool String Unit) :=
  [.attempt 0 "a" true, .wireAnswers 0 (.ok 1)] ++
    .publish 0 :: (churn (2 ^ 64 - 1) ++ [.attempt (2 ^ 64 - 1 + 1) "a" false])

/-- The last `Subscribe` returns handler id 1 again, and the first handler is no
longer registered, although nobody has removed it. -/
theorem comesAroundRun_loses_first_handler : (∃ final : State Bool String Unit,
      run step initial comesAroundRun = some final ∧ ¬ RegistersOnce comesAroundRun final) := by
  have bound : 2 ^ 64 - 1 < 2 ^ 64 := by omega
  have ranBefore :
      run step initial [.attempt 0 "a" true, .wireAnswers 0 (.ok 1)] = some firstAnswered := by
    rfl
  have published : step firstAnswered (.publish 0) = some firstRegistered := by
    rfl
  obtain ⟨churned, ranChurn, reached⟩ := churn_reaches firstRegistered_churned (2 ^ 64 - 1) bound
  obtain ⟨final, attempted, replaced, -⟩ := reached.attempt
  have around : churned.registry.handlerID = 1 := by
    rw [reached.handlerID]
    decide
  rw [around] at replaced
  refine ⟨final, ?_, fun once => ?_⟩
  · rw [comesAroundRun, run_append, ranBefore, Option.bind_some, run_cons,
      published, Option.bind_some, run_append, ranChurn, Option.bind_some,
      run_cons, attempted]
    rfl
  · have succeeds : Succeeds firstAnswered (.publish 0) 0 "a" true 1 :=
      ⟨Or.inr ⟨rfl, _, rfl⟩, 1, rfl⟩
    have kept := once.kept _ _ _ firstAnswered 0 "a" true 1 rfl ranBefore succeeds
    have stays : ∀ later ∈ churn (2 ^ 64 - 1) ++ [.attempt (2 ^ 64 - 1 + 1) "a" false],
        later ≠ .clear ∧ later ≠ .unsubscribe "a" 1 := by
      intro later member
      rcases List.mem_append.mp member with inChurn | atEnd
      · exact churn_spares_first bound later inChurn
      · rw [List.mem_singleton] at atEnd
        subst atEnd
        exact ⟨nofun, nofun⟩
    have still := kept stays
    rw [replaced] at still
    cases still

end FitzGo.Subscriptions.Heap.Exclusion
