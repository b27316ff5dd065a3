import FitzGo.Subscriptions.RestoreExclusion
import FitzGo.Subscriptions.RestoreRollback

/-!
# Restore alone as a run of the concurrent registry

When nothing else moves, the steps of one `Restore` in the machine of the
concurrent calls lead to the registry that the function `restore` returns.
-/

namespace FitzGo.Subscriptions.Heap.Exclusion

open StepMachine Heap.Registry

variable {H Pattern E : Type} [LinearOrder Pattern] [Inhabited Pattern]
variable {state : State H Pattern E} {call : Nat} {frame : RestoreFrame}

def State.after (state : State H Pattern E) (call : Nat)
    (registry : Registry H Pattern) : State H Pattern E :=
  (state.setRegistry registry).setRestore call .returned

omit [LinearOrder Pattern] [Inhabited Pattern] in
theorem after_setRestore (registry final : Registry H Pattern) (phase : RestoreCall) :
    ((state.setRegistry registry).setRestore call phase).after call final =
      state.after call final := by
  unfold State.after State.setRestore State.setRegistry
  rw [Function.update_idem]

theorem run_of_step {event : Event H Pattern E}
    {events : List (Event H Pattern E)} {final : State H Pattern E} (enabled : Enabled state event)
    (ran : run step (next state event) events = some final) :
    run step state (event :: events) = some final := by
  have stepped : step state event = some (next state event) :=
    guarded_eq_some_iff.mpr ⟨enabled, rfl⟩
  rw [run_cons, stepped]
  exact ran

/-- A step of this `Restore`, with the answer of `wire` where it has one. -/
def OwnStep (call : Nat) (wire : Wire E Pattern) : Event H Pattern E → Prop
  | .beginRestore other _ | .commit other _ | .finishRestore other _ => other = call
  | .restoreAnswered other _ pointer result =>
    other = call ∧ result = wire.subscribe pointer.pattern
  | .attempt _ _ _ | .wireAnswers _ _ | .publish _ | .unsubscribe _ _ | .clear => False

theorem finish_runs {flagged : Bool} (here : state.restores call = .leaving flagged) :
    run step state [.finishRestore call flagged] =
      some (state.after call state.registry.finishRestore) :=
  run_of_step here rfl

private theorem resubscribe_runs (wire : Wire E Pattern) :
    ∀ {left : Nat} {state : State H Pattern E} {frame : RestoreFrame}
      {pointers : List (Pointer Pattern)} {subIDs : List UInt64},
      state.restores call = .resubscribing frame →
      state.registry.Consistent →
      state.registry.Progress frame pointers subIDs →
      subIDs.length + left = pointers.length →
      ∃ events : List (Event H Pattern E), (∀ event ∈ events, OwnStep call wire event) ∧
        run step state events =
          some (state.after call (resubscribe wire left state.registry frame).registry)
  | 0, state, frame, pointers, subIDs, here, _, progress, complete => by
      have done : state.registry.registered frame = none := by
        rw [progress.registered_eq, List.getElem?_eq_none_iff, ← complete]
        exact Nat.le_refl _
      refine ⟨[.commit call frame, .finishRestore call true], by simp [OwnStep],
        run_of_step ⟨here, done⟩ ?_⟩
      dsimp only [next]
      rw [finish_runs (restores_setRestore_self ..), after_setRestore]
      rfl
  | left + 1, state, frame, pointers, subIDs, here, consistent, progress, size => by
      rw [resubscribe]
      cases current : state.registry.registered frame with
      | none =>
        have complete := progress.complete_of_registered_none current
        omega
      | some pointer =>
        have quiet := progress.answer_quiet consistent pointer (wire.subscribe pointer.pattern)
        dsimp only
        cases reply : (state.registry.answer frame pointer (wire.subscribe pointer.pattern)).2 with
        | rollback cause restored =>
          refine ⟨[.restoreAnswered call frame pointer (wire.subscribe pointer.pattern),
            .finishRestore call true], by simp [OwnStep], run_of_step ⟨here, current⟩ ?_⟩
          dsimp only [next]
          rw [reply, RestoreCall.afterReply,
            finish_runs (restores_setRestore_self ..), after_setRestore]
          rfl
        | next following =>
          obtain ⟨subID, -, recorded⟩ := progress.answer_next current _ reply
          have sizeLeft : (subIDs ++ [subID]).length + left = pointers.length := by
            rw [List.length_append, List.length_singleton]
            omega
          obtain ⟨events, own, ran⟩ := resubscribe_runs wire (restores_setRestore_self
              (state.setRegistry (state.registry.answer frame pointer
                (wire.subscribe pointer.pattern)).1) call
              (.resubscribing following))
            (quiet.consistent consistent) recorded sizeLeft
          refine ⟨.restoreAnswered call frame pointer (wire.subscribe pointer.pattern) :: events,
            List.forall_mem_cons.mpr ⟨⟨rfl, rfl⟩, own⟩, run_of_step ⟨here, current⟩ ?_⟩
          dsimp only [next]
          rw [reply]
          rw [after_setRestore] at ran
          exact ran

/-- By its own steps, with the answers of `wire`, a `Restore` leaves the registry
that `restore` returns. -/
theorem restore_runs (idle : state.restores call = .idle) (settled : state.registry.Settled)
    {order : List (Pointer Pattern)}
    (perm : order.Perm state.registry.pointers) (wire : Wire E Pattern) :
    ∃ events : List (Event H Pattern E), (∀ event ∈ events, OwnStep call wire event) ∧
      run step state events =
        some (state.after call (state.registry.restore wire order).registry) := by
  have enabled : Enabled state (.beginRestore call order) :=
    ⟨idle, settled.restoring, settled.pending, perm⟩
  unfold Registry.restore
  by_cases none : state.registry.byPattern.entries.length = 0
  · rw [if_pos none]
    refine ⟨[.beginRestore call order, .finishRestore call false], by simp [OwnStep],
      run_of_step enabled ?_⟩
    dsimp only [next]
    rw [beginRestore, if_pos none, finish_runs (restores_setRestore_self ..)]
    exact congrArg some (after_setRestore state.registry _ _)
  · rw [if_neg none]
    have quiet := settled.consistent.beginRestore_quiet order
    obtain ⟨events, own, ran⟩ := resubscribe_runs wire
      (restores_setRestore_self (state.setRegistry (state.registry.beginRestore order).1) call
        (.resubscribing (state.registry.beginRestore order).2))
      (quiet.consistent settled.consistent)
      (settled.consistent.beginRestore_progress perm)
      ((Nat.zero_add _).trans (len_beginRestore perm))
    refine ⟨.beginRestore call order :: events, List.forall_mem_cons.mpr ⟨rfl, own⟩,
      run_of_step enabled ?_⟩
    dsimp only [next]
    rw [beginRestore, if_neg none]
    rw [after_setRestore] at ran
    exact ran

/-- The pattern `a` is subscribed. -/
def subscribedState : State Unit String Unit :=
  initial.setRegistry (perform Registry.new (.subscribe "a" () (.ok 1 : Except Unit UInt64)))

def secondWire : Wire Unit String where
  subscribe _ := .ok 2
  unsubscribe := none

theorem subscribedState_is_restored : ∃ events : List (Event Unit String Unit),
      (∀ event ∈ events, OwnStep 0 secondWire event) ∧ run step subscribedState events =
        some (subscribedState.after 0 (subscribedState.registry.restore secondWire
          subscribedState.registry.pointers).registry) :=
  restore_runs rfl (subscribe_settled ⟨new_consistent, rfl, rfl⟩ () _) (List.Perm.refl _) _

end FitzGo.Subscriptions.Heap.Exclusion
