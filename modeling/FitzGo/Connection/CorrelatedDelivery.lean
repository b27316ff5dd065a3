import FitzGo.Connection.DeliverySteps

/-!
# Correlated responses never cross over

The steps of the dispatch loop and of `Close`, and the result about whole runs.
-/

namespace FitzGo.Connection.Multiplexer

open StepMachine

section Dispatch

variable {state : State} {waiter frame : Nat}

private theorem startDelivery_inv (request : Nat) (inv : Inv state)
    (delivering : Delivering state waiter frame request)
    (notInMap : ∀ id entry, state.correlated.lookup id = some entry → entry.waiter ≠ some waiter) :
    Inv { state with dispatcher := .storing waiter frame } :=
  { inv with
    entries := by
      intro id entry other found refers
      obtain ⟨call, registered⟩ := inv.entries id entry other found refers
      refine ⟨call, { registered with undelivered := ?_ }⟩
      intro index target
      injection target with pair
      injection pair with sameWaiter _
      exact notInMap id entry found (sameWaiter ▸ refers)
    delivery := by
      intro other index target
      injection target with pair
      injection pair with sameWaiter sameFrame
      subst sameWaiter sameFrame
      exact ⟨request, { delivering with }⟩
    stored := fun _ _ impossible => nomatch impossible }

private theorem eraseEntry_inv (id : Nat) (inv : Inv state) (free : state.muFree) :
    Inv { state with correlated := state.correlated.erase id } := by
  refine inv.shrink ?_ free
  intro other entry waiter found _
  by_cases same : other = id
  · subst same
    rw [AList.lookup_erase] at found
    exact nomatch found
  · rwa [AList.lookup_erase_ne same] at found

private theorem entry_unique {first second : Nat} {one two : Entry}
    (inv : Inv state) (foundOne : state.correlated.lookup first = some one)
    (refersOne : one.waiter = some waiter) (foundTwo : state.correlated.lookup second = some two)
    (refersTwo : two.waiter = some waiter) : first = second := by
  obtain ⟨call, registeredOne⟩ := inv.entries first one waiter foundOne refersOne
  obtain ⟨other, registeredTwo⟩ := inv.entries second two waiter foundTwo refersTwo
  have sameCall : call = other :=
    Option.some.inj (registeredOne.owner.symm.trans registeredTwo.owner)
  subst sameCall
  exact registeredOne.sameId.symm.trans registeredTwo.sameId

variable {payload : Bytes} {id : Nat}

private theorem answers_lastFrame {request : Nat} {owner : Option Nat}
    (sameId : (state.requests request).id = id) (owned : owner = some request) :
    Answers (recordFrame state ⟨id, payload, true, owner⟩) request ⟨state.frames.length,
      framePayload (recordFrame state ⟨id, payload, true, owner⟩) state.frames.length⟩ := by
  have last : (recordFrame state ⟨id, payload, true, owner⟩).frames[ state.frames.length]? =
        some ⟨id, payload, true, owner⟩ :=
    List.getElem?_concat_length
  have payloadEq : framePayload (recordFrame state ⟨id, payload, true, owner⟩)
        state.frames.length = payload := by
    unfold framePayload
    rw [last]
  unfold Answers
  rw [payloadEq, last, owned]
  exact congrArg some (congrArg (Frame.mk · payload true (some request)) sameId.symm)

variable (inv : Inv state)
include inv

private theorem dispatchFinal_inv {entry : Entry} (free : state.muFree)
    (found : state.correlated.lookup id = some entry) (refers : entry.waiter = some waiter) :
    Inv { state with
        correlated := state.correlated.erase id
        dispatcher := .storing waiter state.frames.length
        frames := state.frames ++ [⟨id, payload, true, (state.waiters waiter).owner⟩] } := by
  obtain ⟨request, registered⟩ := inv.entries id entry waiter found refers
  obtain ⟨notReady, isPending⟩ := registered.pending free
  have erased := eraseEntry_inv id inv free
  have recorded : Inv (recordFrame { state with correlated := state.correlated.erase id }
          ⟨id, payload, true, (state.waiters waiter).owner⟩) :=
    erased.recordFrame
  refine startDelivery_inv request recorded ?_ ?_
  · exact
      { owner := registered.owner
        mayReceive := (Phase.of_pending isPending).2.2.1
        notReady := notReady
        answers := answers_lastFrame registered.sameId registered.owner }
  · intro other remaining foundOther refersOther
    have different : other ≠ id := by
      intro same
      subst same
      exact absurd foundOther (by simp [recordFrame])
    have before : state.correlated.lookup other = some remaining :=
      (AList.lookup_erase_ne different).symm.trans foundOther
    exact different (entry_unique inv before refersOther found refers)

private theorem dispatch_inv {final : Bool} (free : state.muFree) :
    Inv (next state (.dispatch id payload final)) := by
  change Inv (dispatch state id payload final)
  unfold dispatch
  cases found : state.correlated.lookup id with
  | none => exact inv.recordFrame
  | some entry =>
    cases final with
    | false =>
      have recorded : Inv (recordFrame state ⟨id, payload, false, none⟩) := inv.recordFrame
      exact recorded.dispatcherIdle
    | true =>
      cases refers : deliverTo entry true with
      | none =>
        have erased := eraseEntry_inv id inv free
        have recorded : Inv (recordFrame
                { state with correlated := state.correlated.erase id }
                ⟨id, payload, true, none⟩) :=
          erased.recordFrame
        simp only [refers]
        exact recorded.dispatcherIdle
      | some waiter =>
        have kept : entry.waiter = some waiter := by
          unfold deliverTo at refers
          exact (Option.ite_none_right_eq_some.mp refers).2
        simp only [refers]
        exact dispatchFinal_inv inv free found kept

private theorem startSignal_inv
    (storing : state.dispatcher = .storing waiter frame)
    (stored : (state.waiters waiter).response = some ⟨frame, framePayload state frame⟩) :
    Inv { state with dispatcher := .signalling waiter frame } := by
  have sameTarget : (Dispatcher.signalling waiter frame).target = state.dispatcher.target := by
    rw [storing]
    rfl
  exact { inv with
      entries := by
        intro id entry other found refers
        obtain ⟨call, registered⟩ := inv.entries id entry other found refers
        refine ⟨call, { registered with undelivered := ?_ }⟩
        intro index target
        exact registered.undelivered index (sameTarget.symm.trans target)
      delivery := by
        intro other index target
        obtain ⟨call, delivering⟩ := inv.delivery other index (sameTarget.symm.trans target)
        exact ⟨call, { delivering with }⟩
      stored := by
        intro other index signalling
        injection signalling with sameWaiter sameFrame
        subst sameWaiter sameFrame
        exact stored }

private theorem store_inv
    (storing : state.dispatcher = .storing waiter frame) :
    Inv (next state (.store waiter frame)) := by
  have target : state.dispatcher.target = some (waiter, frame) := by
    rw [storing]
    rfl
  obtain ⟨request, delivering⟩ := inv.delivery waiter frame target
  have filled : Inv (state.setWaiter waiter { state.waiters waiter with
            response := some ⟨frame, framePayload state frame⟩ }) := by
    apply inv.setWaiter delivering.owner
    · exact delivering.owner
    · intro _
      exact delivering.notReady
    · rintro (isWoken | ready)
      · have receives := delivering.mayReceive
        rw [isWoken] at receives
        exact absurd receives (by decide)
      · exact absurd (delivering.notReady.symm.trans ready) (by decide)
    · intro _ _ _ _ _
      exact delivering.notReady
    · intro _ _
      exact delivering.notReady
    · intro index signalling
      rw [storing] at signalling
      exact nomatch signalling
    · intro left signalling
      exact (inv.failing waiter left signalling).1
  apply startSignal_inv filled storing
  rw [setWaiter_waiters_self]
  rfl

private theorem signal_inv
    (signalling : state.dispatcher = .signalling waiter frame) :
    Inv (next state (.signal waiter frame)) := by
  have target : state.dispatcher.target = some (waiter, frame) := by
    rw [signalling]
    rfl
  obtain ⟨request, delivering⟩ := inv.delivery waiter frame target
  have stored := inv.stored waiter frame signalling
  have loaded : Loaded state request (state.waiters waiter) :=
    Or.inr ⟨_, stored, delivering.answers⟩
  apply inv.dispatcherIdle.setWaiter delivering.owner
  · exact delivering.owner
  · intro holding
    have receives := delivering.mayReceive
    rw [show state.phase request = .holding from holding] at receives
    exact absurd receives (by decide)
  · intro _
    exact loaded
  · intro id entry found refers _
    obtain ⟨other, registered⟩ := inv.entries id entry waiter found refers
    exact absurd target (registered.undelivered frame)
  · exact nofun
  · exact nofun
  · intro left failing
    exact (inv.failing waiter left failing).1

end Dispatch

section Close

variable {state : State}

private theorem failEntry_inv {id : Nat} {left : List Nat} (inv : Inv state)
    (failing : state.closer = .failing left) : Inv (next state (.failEntry id left)) := by
  change Inv (failEntry state id left)
  unfold failEntry
  cases refers : (state.correlated.lookup id).bind Entry.waiter with
  | none => exact inv.closerMoves nofun nofun
  | some waiter =>
    obtain ⟨entry, found, entryRefers⟩ := Option.bind_eq_some_iff.mp refers
    have locked : ¬ state.muFree := by
      rw [State.muFree, failing]
      rintro ⟨⟩
    have notSignalling : ∀ other rest, state.closer ≠ .signalling other rest := by
      intro other rest
      rw [failing]
      simp
    obtain ⟨request, registered⟩ := inv.entries id entry waiter found entryRefers
    have linkedNow : (state.phase request).linked = true := registered.linked
    have marked : Inv (state.setWaiter waiter { state.waiters waiter with closed := true }) := by
      apply inv.setWaiter registered.owner
      · exact registered.owner
      · intro holding
        rw [holding] at linkedNow
        exact absurd linkedNow (by decide)
      · intro _
        exact Or.inl rfl
      · intro _ _ _ _ free
        exact absurd free locked
      · intro frame target
        exact absurd target (registered.undelivered frame)
      · intro frame signalling
        exact inv.stored waiter frame signalling
      · intro _ _
        rfl
    exact { marked with
        entries := by
          intro other record refersTo foundOther refersOther
          obtain ⟨call, stillRegistered⟩ :=
            marked.entries other record refersTo foundOther refersOther
          exact ⟨call, { stillRegistered with pending := by rintro ⟨⟩ }⟩
        delivery := by
          intro other index target
          obtain ⟨call, delivering⟩ := marked.delivery other index target
          exact ⟨call, { delivering with }⟩
        failing := by
          intro other rest signalling
          injection signalling with sameWaiter _
          subst sameWaiter
          refine ⟨?_, id, entry, found, entryRefers⟩
          exact congrArg Waiter.closed (setWaiter_waiters_self _ _ _) }

private theorem closeSignal_inv {waiter : Nat} {left : List Nat}
    (inv : Inv state) (signalling : state.closer = .signalling waiter left) :
    Inv (next state (.closeSignal waiter left)) := by
  obtain ⟨closed, id, entry, found, refers⟩ := inv.failing waiter left signalling
  obtain ⟨request, registered⟩ := inv.entries id entry waiter found refers
  have moved : Inv { state with closer := .failing left } := inv.closerMoves nofun nofun
  apply moved.setWaiter registered.owner
  · exact registered.owner
  · intro holding
    have linkedNow := registered.linked
    rw [show state.phase request = .holding from holding] at linkedNow
    exact absurd linkedNow (by decide)
  · intro _
    exact Or.inl closed
  · exact fun _ _ _ _ free => nomatch free
  · intro frame target
    exact absurd target (registered.undelivered frame)
  · intro frame storedSignal
    exact inv.stored waiter frame storedSignal
  · exact nofun

private theorem closeClear_inv (inv : Inv state) : Inv (next state .closeClear) :=
  { inv with
    entries := fun _ _ _ impossible => nomatch impossible
    delivery := by
      intro waiter frame target
      obtain ⟨request, delivering⟩ := inv.delivery waiter frame target
      exact ⟨request, { delivering with }⟩
    failing := fun _ _ impossible => nomatch impossible }

end Close

theorem step_inv {state final : State} {event : Event}
    (inv : Inv state) (stepped : step state event = some final) : Inv final := by
  obtain ⟨enabled, nextEq⟩ := guarded_eq_some_iff.mp stepped
  subst nextEq
  cases event with
  | issue request =>
    rw [next]
    split
    · exact (issue_inv inv enabled).congr rfl rfl rfl rfl rfl rfl
    · exact leaveUnstarted_inv inv (by rw [enabled]; rfl)
  | issueOneWay =>
    rw [next]
    split
    · exact inv.congr rfl rfl rfl rfl rfl rfl
    · exact inv
  | setCapabilities | closeDone => exact inv.congr rfl rfl rfl rfl rfl rfl
  | abort request => exact leaveUnstarted_inv inv (by rw [enabled]; rfl)
  | acquire request waiter => exact acquire_inv inv enabled.1 enabled.2
  | register request => exact register_inv inv enabled.1 enabled.2
  | wake request => exact wake_inv inv enabled.1 enabled.2
  | inspect request => exact inspect_inv inv enabled
  | cancel request => exact cancel_inv inv enabled.2 enabled.1
  | giveUp request => exact pending_inv inv enabled.1 rfl rfl nofun
  | unregister request release result => exact deferredUnregister_inv inv enabled.2 enabled.1
  | release request result => exact release_inv inv enabled
  | dispatch id payload final => exact dispatch_inv inv enabled.2
  | store waiter frame => exact store_inv inv enabled
  | signal waiter frame => exact signal_inv inv enabled
  | closeFlag =>
    have idle : state.closer = .idle := enabled.2
    have free : state.muFree := by
      dsimp only [State.muFree]
      rw [idle]
      rfl
    have moved : Inv { state with closer := .flagged } := inv.closerMoves nofun (fun _ => free)
    exact moved.congr rfl rfl rfl rfl rfl rfl
  | closeLock => exact inv.closerMoves nofun nofun
  | failEntry id left => exact failEntry_inv inv enabled.1
  | closeSignal waiter left => exact closeSignal_inv inv enabled
  | closeClear => exact closeClear_inv inv
  | _ => exact pending_inv inv enabled rfl rfl nofun

theorem initial_inv : Inv initial where
  owned _ impossible := nomatch impossible
  owner _ _ impossible := nomatch impossible
  fresh _ impossible := nomatch impossible
  woken _ impossible := nomatch impossible
  results _ _ impossible := nomatch impossible
  tokens _ _ impossible := nomatch impossible
  entries _ _ _ impossible := nomatch impossible
  delivery _ _ impossible := nomatch impossible
  stored _ _ impossible := nomatch impossible
  failing _ _ impossible := nomatch impossible

/-- Nobody refers to the waiter: no entry of the map, no delivery and no
failure in progress. -/
structure Unreferenced (state : State) (waiter : Nat) : Prop where
  noEntry : ∀ id entry, state.correlated.lookup id = some entry → entry.waiter ≠ some waiter
  noDelivery : ∀ frame, state.dispatcher.target ≠ some (waiter, frame)
  noFailure : ∀ left, state.closer ≠ .signalling waiter left

variable {state : State}

theorem Inv.pooled_unreferenced {waiter : Nat}
    (inv : Inv state) (pooled : (state.waiters waiter).owner = none) :
    Unreferenced state waiter where
  noEntry := by
    intro id entry found refers
    obtain ⟨request, registered⟩ := inv.entries id entry waiter found refers
    exact nomatch pooled.symm.trans registered.owner
  noDelivery := by
    intro frame target
    obtain ⟨request, delivering⟩ := inv.delivery waiter frame target
    exact nomatch pooled.symm.trans delivering.owner
  noFailure := by
    intro left signalling
    obtain ⟨_, id, entry, found, refers⟩ := inv.failing waiter left signalling
    obtain ⟨request, registered⟩ := inv.entries id entry waiter found refers
    exact nomatch pooled.symm.trans registered.owner

/-- What the waiter of a call is about to be told concerns that call. -/
structure SignalsOwner (state : State) (waiter request : Nat) : Prop where
  frames : ∀ frame, state.dispatcher.target = some (waiter, frame) →
    Answers state request ⟨frame, framePayload state frame⟩
  failures : ∀ left, state.closer = .signalling waiter left → ∃ entry,
    state.correlated.lookup (state.requests request).id = some entry ∧ entry.waiter = some waiter

theorem Inv.signalsOwner {waiter request : Nat} (inv : Inv state)
    (owned : (state.waiters waiter).owner = some request) : SignalsOwner state waiter request where
  frames := by
    intro frame target
    obtain ⟨call, delivering⟩ := inv.delivery waiter frame target
    have same : request = call := Option.some.inj (owned.symm.trans delivering.owner)
    rw [same]
    exact delivering.answers
  failures := by
    intro left signalling
    obtain ⟨_, id, entry, found, refers⟩ := inv.failing waiter left signalling
    obtain ⟨call, registered⟩ := inv.entries id entry waiter found refers
    have same : request = call := Option.some.inj (owned.symm.trans registered.owner)
    rw [same, registered.sameId]
    exact ⟨entry, found, refers⟩

private theorem answers_recipient {request other : Nat} {response answer : Response}
    (one : Answers state request response) (two : Answers state other answer)
    (sameFrame : response.frame = answer.frame) : request = other := by
  unfold Answers at one two
  rw [sameFrame, two] at one
  injection one with sameRecord
  injection sameRecord with _ _ _ sameRecipient
  injection sameRecipient with same
  exact same.symm

theorem Inv.release_unreferenced {state final : State} {request : Nat} {result : Result}
    (inv : Inv state) (stepped : step state (.release request result) = some final) :
    Unreferenced state (state.requests request).waiter := by
  have after : Inv final := step_inv inv stepped
  obtain ⟨_, nextEq⟩ := guarded_eq_some_iff.mp stepped
  subst nextEq
  have pooled : ((next state (.release request result)).waiters
        (state.requests request).waiter).owner = none :=
    congrArg Waiter.owner (setWaiter_waiters_self _ _ _)
  have unreferenced := after.pooled_unreferenced pooled
  exact
    { noEntry := unreferenced.noEntry
      noDelivery := unreferenced.noDelivery
      noFailure := unreferenced.noFailure }

/-- In every run, a call that succeeds returns the final frame with its own id
that was meant for it; a frame is returned by one call; a waiter is given back
only when nobody refers to it; and what a waiter is told concerns the call that
owns it. -/
theorem correlated_responses_never_cross_over (events : List Event) (final : State)
    (ran : run step initial events = some final) :
    (∀ request response, final.phase request = .finished (.ok response) →
      ∃ answer, response = some answer ∧ Answers final request answer) ∧
    (∀ request other answer again, final.phase request = .finished (.ok (some answer)) →
      final.phase other = .finished (.ok (some again)) →
      answer.frame = again.frame → request = other) ∧
    (∀ request result after, step final (.release request result) = some after →
      Unreferenced final (final.requests request).waiter) ∧
    (∀ waiter, (final.waiters waiter).owner = none → Unreferenced final waiter) ∧
    (∀ waiter request, (final.waiters waiter).owner = some request →
      SignalsOwner final waiter request) := by
  have inv : Inv final := invariant_of_run Inv step_inv initial_inv ran
  have succeeded : ∀ request response, final.phase request = .finished (.ok response) →
        ∃ answer, response = some answer ∧ Answers final request answer := by
    intro request response finished
    apply inv.results request response
    rw [finished]
    rfl
  refine ⟨succeeded, ?_, ?_, ?_, ?_⟩
  · intro request other answer again finishedOne finishedTwo sameFrame
    obtain ⟨_, answerEq, answersOne⟩ := succeeded request _ finishedOne
    obtain ⟨_, againEq, answersTwo⟩ := succeeded other _ finishedTwo
    injection answerEq with answerEq
    injection againEq with againEq
    subst answerEq againEq
    exact answers_recipient answersOne answersTwo sameFrame
  · intro request result after stepped
    exact inv.release_unreferenced stepped
  · intro waiter pooled
    exact inv.pooled_unreferenced pooled
  · intro waiter request owned
    exact inv.signalsOwner owned

/-- Two calls are answered in the opposite order, a third is cancelled and its
late response discarded, and a fourth recycles the waiter of the first. -/
def crossingRun : List Event :=
  [.issue 0, .issue 1, .issue 2, .acquire 0 0, .acquire 1 1, .acquire 2 2,
    .register 0, .register 1, .register 2, .writeOk 0, .writeOk 1,
    .writeOk 2, .cancel 2, .dispatch 2 [7] false, .dispatch 2 [8] true,
    .store 1 1, .signal 1 1, .dispatch 3 [6] true, .dispatch 1 [9] true,
    .store 0 3, .signal 0 3, .dispatch 2 [5] true, .wake 0, .wake 1,
    .inspect 0, .inspect 1, .unregister 0 true (.ok (some ⟨3, [9]⟩)),
    .unregister 1 true (.ok (some ⟨1, [8]⟩)),
    .release 0 (.ok (some ⟨3, [9]⟩)), .release 1 (.ok (some ⟨1, [8]⟩)),
    .issue 3, .acquire 3 0, .register 3, .writeOk 3,
    .dispatch 4 [3] true]

theorem crossingRun_keeps_responses_apart : ∃ final, run step initial crossingRun = some final ∧
        final.phase 0 = .finished (.ok (some ⟨3, [9]⟩)) ∧
        final.phase 1 = .finished (.ok (some ⟨1, [8]⟩)) ∧
        final.dispatcher = .storing 0 5 ∧
        SignalsOwner final 0 3 ∧ Unreferenced final 1 := by
  obtain ⟨final, ran, first, second, delivering, recycled, pooled⟩ :
      ∃ final, run step initial crossingRun = some final ∧
        final.phase 0 = .finished (.ok (some ⟨3, [9]⟩)) ∧
        final.phase 1 = .finished (.ok (some ⟨1, [8]⟩)) ∧
        final.dispatcher = .storing 0 5 ∧
        (final.waiters 0).owner = some 3 ∧ (final.waiters 1).owner = none := by
    decide +kernel
  obtain ⟨_, _, _, releases, signals⟩ := correlated_responses_never_cross_over crossingRun final ran
  exact ⟨final, ran, first, second, delivering, signals 0 3 recycled, releases 1 pooled⟩

end FitzGo.Connection.Multiplexer
