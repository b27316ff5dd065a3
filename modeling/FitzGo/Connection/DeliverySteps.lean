import FitzGo.Connection.Delivery

/-!
# The steps of a call

One lemma for each event of `SendRequest`, from the rules for phases, waiters
and entries.
-/

namespace FitzGo.Connection.Multiplexer

open StepMachine

section Calls

variable {state : State} {request : Nat} {id : Nat} {entry : Entry} {waiter : Nat}

theorem Inv.not_registered (notLinked : (state.phase request).linked = false) :
    ¬ Registered state id entry waiter request := by
  intro registered
  have linked := registered.linked
  rw [notLinked] at linked
  exact absurd linked (by decide)

theorem Inv.not_delivering {waiter frame : Nat}
    (closed : (state.phase request).mayReceive = false) :
    ¬ Delivering state waiter frame request := by
  intro delivering
  have mayReceive := delivering.mayReceive
  rw [closed] at mayReceive
  exact absurd mayReceive (by decide)

theorem leaveUnstarted_inv (inv : Inv state) (was : (state.phase request).linked = false) :
    Inv (state.setPhase request (.finished .error)) := by
  apply inv.setPhase
  · intro impossible
    exact absurd impossible (by decide)
  · intro _
    rfl
  · decide
  · intro impossible
    exact absurd impossible (by decide)
  · intro response impossible
    exact absurd impossible (by simp [Phase.result?])
  · intro id entry waiter _ _ registered
    exact absurd registered (Inv.not_registered was)
  · intro _ _ _ _
    rfl

/-- A registered call moves on. -/
theorem pending_inv {before after : Phase} (inv : Inv state) (was : state.phase request = before)
    (pendingBefore : before.pending = true) (pendingAfter : after.pending = true)
    (noResult : ∀ response, after.result? ≠ some (.ok response)) :
    Inv (state.setPhase request after) := by
  have ⟨holds, _, _, _, _, _⟩ := Phase.of_pending pendingBefore
  have ⟨_, linked, mayReceive, hasWaiter, notHolding, notWoken⟩ := Phase.of_pending pendingAfter
  apply inv.setPhase
  · intro _
    rw [was]
    exact holds
  · intro _
    exact hasWaiter
  · exact notHolding
  · intro isWoken
    exact absurd isWoken notWoken
  · intro response result
    exact absurd result (noResult response)
  · intro id entry waiter _ _ _
    exact ⟨linked, fun _ => pendingAfter⟩
  · intro _ _ _ _
    exact mayReceive

theorem inspect_inv (inv : Inv state) (was : state.phase request = .woken) :
    Inv (state.setPhase request (.leaving true (inspected (state.waiterOf request)))) := by
  have loaded := inv.woken request was
  apply inv.setPhase
  · intro _
    rw [was]
    rfl
  · intro _
    rfl
  · intro impossible
    exact nomatch impossible
  · intro impossible
    exact nomatch impossible
  · intro response result
    by_cases closed : (state.waiterOf request).closed = true
    · simp [Phase.result?, inspected, closed] at result
    · rcases loaded with isClosed | ⟨answer, stored, answers⟩
      · exact absurd isClosed closed
      · simp only [Phase.result?, inspected, closed, Option.some.injEq] at result
        injection result with responseEq
        exact ⟨answer, responseEq.symm.trans stored, answers⟩
  · intro id entry waiter _ _ registered
    refine ⟨rfl, ?_⟩
    intro free
    have pending := (registered.pending free).2
    rw [was] at pending
    exact absurd pending (by decide)
  · intro waiter frame _ delivering
    exact absurd delivering (Inv.not_delivering (by rw [was]; rfl))

theorem unregister_lookup (found : (state.unregister request).correlated.lookup id = some entry)
    (refers : entry.waiter = some waiter) :
    state.correlated.lookup id = some entry ∧ (state.registration request = true →
      id ≠ (state.requests request).id) := by
  simp only [State.unregister] at found
  by_cases registration : state.registration request = true
  · rw [if_pos registration] at found
    by_cases same : id = (state.requests request).id
    · subst same
      rw [AList.lookup_insert] at found
      rw [← Option.some.inj found] at refers
      exact nomatch refers
    · rw [AList.lookup_insert_ne same] at found
      exact ⟨found, fun _ => same⟩
  · rw [if_neg registration] at found
    exact ⟨found, fun impossible => absurd impossible registration⟩

section

variable (inv : Inv state)
include inv

theorem unregister_inv (free : state.muFree) : Inv (state.unregister request) :=
  inv.shrink (fun _ _ _ found refers => (unregister_lookup found refers).1) free

theorem unregister_unlinked (found : (state.unregister request).correlated.lookup id = some entry)
    (refers : entry.waiter = some waiter) : ¬ Registered state id entry waiter request := by
  intro registered
  obtain ⟨before, elsewhere⟩ := unregister_lookup found refers
  have waiterEq : (state.requests request).waiter = waiter :=
    (inv.owner waiter request registered.owner).1
  have registration : state.registration request = true := by
    unfold State.registration
    rw [registered.sameId, before]
    simp [refers, waiterEq]
  exact elsewhere registration registered.sameId.symm

theorem not_delivering_of_registration {waiter frame : Nat}
    (registration : state.registration request = true)
    (target : state.dispatcher.target = some (waiter, frame)) :
    ¬ Delivering state waiter frame request := by
  intro delivering
  unfold State.registration at registration
  cases found : state.correlated.lookup (state.requests request).id with
  | none =>
    rw [found] at registration
    exact nomatch registration
  | some entry =>
    rw [found] at registration
    have refers : entry.waiter = some (state.requests request).waiter := by
      simpa using registration
    have waiterEq := (inv.owner waiter request delivering.owner).1
    obtain ⟨other, registered⟩ := inv.entries _ entry _ found refers
    apply registered.undelivered frame
    rw [waiterEq]
    exact target

/-- The caller stops waiting. -/
theorem cancel_inv (free : state.muFree) (was : state.phase request = .waiting) :
    Inv ((state.unregister request).setPhase request
      (.leaving (state.registration request) .error)) := by
  have wasUnregistered : (state.unregister request).phase request = .waiting := was
  apply (unregister_inv inv free).setPhase
  · intro _
    rw [wasUnregistered]
    rfl
  · intro _
    rfl
  · intro impossible
    exact nomatch impossible
  · intro impossible
    exact nomatch impossible
  · intro response impossible
    exact nomatch impossible
  · intro id entry waiter found refers registered
    exact absurd { registered with } (unregister_unlinked inv found refers)
  · intro waiter frame target delivering
    cases registration : state.registration request with
    | false => rfl
    | true =>
      exact absurd { delivering with } (not_delivering_of_registration inv registration target)

theorem deferredUnregister_inv {release : Bool} {result : Result} (free : state.muFree)
    (was : state.phase request = .leaving release result) :
    Inv ((state.unregister request).setPhase request
        (if release || state.registration request then .releasing result
          else .finished result)) := by
  have wasUnregistered : (state.unregister request).phase request = .leaving release result := was
  have resultKept : (if release || state.registration request then Phase.releasing result
        else .finished result).result? =
        some result := by
    split <;> rfl
  apply (unregister_inv inv free).setPhase
  · intro _
    rw [wasUnregistered]
    rfl
  · intro _
    split <;> rfl
  · split <;> exact nofun
  · split <;> exact nofun
  · intro response isOk
    rw [resultKept] at isOk
    apply inv.results request response
    rw [was]
    exact isOk
  · intro id entry waiter found refers registered
    exact absurd { registered with } (unregister_unlinked inv found refers)
  · intro waiter frame target delivering
    have deliveringBefore : Delivering state waiter frame request := { delivering with }
    cases release with
    | true => exact absurd deliveringBefore (Inv.not_delivering (by rw [was]; rfl))
    | false =>
      cases registration : state.registration request with
      | false => rfl
      | true =>
        exact absurd deliveringBefore (not_delivering_of_registration inv registration target)

/-- The caller takes the token of its waiter. -/
theorem wake_inv (was : state.phase request = .waiting)
    (ready : (state.waiterOf request).ready = true) : Inv (next state (.wake request)) := by
  have owner : (state.waiterOf request).owner = some request := inv.owned request (by rw [was]; rfl)
  have loaded : Loaded state request (state.waiterOf request) := inv.tokens _ request owner ready
  have woken : Inv (state.setPhase request .woken) := by
    apply inv.setPhase
    · intro _
      rw [was]
      rfl
    · intro _
      rfl
    · decide
    · intro _
      exact loaded
    · intro response impossible
      exact nomatch impossible
    · intro id entry waiter _ _ registered
      refine ⟨rfl, ?_⟩
      intro free
      have waiterEq := (inv.owner waiter request registered.owner).1
      have notReady := (registered.pending free).1
      rw [← waiterEq] at notReady
      exact absurd (ready.symm.trans notReady) (by decide)
    · intro waiter frame _ delivering
      have waiterEq := (inv.owner waiter request delivering.owner).1
      have notReady := delivering.notReady
      rw [← waiterEq] at notReady
      exact absurd (ready.symm.trans notReady) (by decide)
  apply woken.setWaiter owner
  · exact owner
  · intro _
    rfl
  · intro _
    exact loaded_setPhase.mpr loaded
  · intro _ _ _ _ _
    rfl
  · intro _ _
    rfl
  · intro frame signalling
    exact inv.stored _ frame signalling
  · intro left signalling
    exact (inv.failing _ left signalling).1

end

/-- The step touches one call, to which neither the map nor the dispatcher
refers, and only waiters that belong to it before or after. -/
structure Touches (state final : State) (request : Nat) : Prop where
  correlated : final.correlated = state.correlated
  dispatcher : final.dispatcher = state.dispatcher
  closer : final.closer = state.closer
  frames : final.frames = state.frames
  requests : ∀ other, other ≠ request → final.requests other = state.requests other
  waiters : ∀ waiter other, other ≠ request → (state.waiters waiter).owner = some other →
    final.waiters waiter = state.waiters waiter
  owners : ∀ waiter other, other ≠ request → (final.waiters waiter).owner = some other →
    (state.waiters waiter).owner = some other
  unregistered : ∀ id entry waiter, ¬ Registered state id entry waiter request
  undelivered : ∀ waiter frame, ¬ Delivering state waiter frame request

section Touching

variable {final : State} (touches : Touches state final request)
include touches

variable {other : Nat}

theorem Touches.answers {response : Response}
    (sameId : (final.requests other).id = (state.requests other).id)
    (answers : Answers state other response) : Answers final other response := by
  unfold Answers
  rw [touches.frames, sameId]
  exact answers

theorem Touches.loaded {waiter : Waiter} (different : other ≠ request)
    (loaded : Loaded state other waiter) : Loaded final other waiter := by
  have sameId : (final.requests other).id = (state.requests other).id := by
    rw [touches.requests other different]
  rcases loaded with closed | ⟨response, stored, answers⟩
  · exact Or.inl closed
  · exact Or.inr ⟨response, stored, touches.answers sameId answers⟩

theorem Touches.phase (different : other ≠ request) : final.phase other = state.phase other := by
  unfold State.phase
  rw [touches.requests other different]

theorem Touches.waiterOf (inv : Inv state) (different : other ≠ request)
    (holds : (state.phase other).holds = true) : final.waiterOf other = state.waiterOf other := by
  unfold State.waiterOf
  rw [touches.requests other different]
  exact touches.waiters _ other different (inv.owned other holds)

theorem Touches.registered {waiter : Nat} (registered : Registered state id entry waiter other) :
    other ≠ request ∧ Registered final id entry waiter other := by
  have different : other ≠ request := fun same =>
    touches.unregistered id entry waiter (same ▸ registered)
  have sameWaiter := touches.waiters waiter other different registered.owner
  refine ⟨different,
      { kept := registered.kept
        owner := ?_
        sameId := ?_
        linked := ?_
        undelivered := ?_
        pending := ?_ }⟩
  · rw [sameWaiter]
    exact registered.owner
  · rw [touches.requests other different]
    exact registered.sameId
  · rw [touches.phase different]
    exact registered.linked
  · rw [touches.dispatcher]
    exact registered.undelivered
  · unfold State.muFree
    rw [touches.closer, sameWaiter, touches.phase different]
    exact registered.pending

theorem Touches.framePayload (frame : Nat) :
    framePayload final frame = Multiplexer.framePayload state frame := by
  unfold Multiplexer.framePayload
  rw [touches.frames]

theorem Touches.delivering {waiter frame : Nat} (delivering : Delivering state waiter frame other) :
    other ≠ request ∧ Delivering final waiter frame other := by
  have different : other ≠ request := fun same =>
    touches.undelivered waiter frame (same ▸ delivering)
  have sameWaiter := touches.waiters waiter other different delivering.owner
  refine ⟨different,
      { owner := ?_
        mayReceive := ?_
        notReady := ?_
        answers := ?_ }⟩
  · rw [sameWaiter]
    exact delivering.owner
  · rw [touches.phase different]
    exact delivering.mayReceive
  · rw [sameWaiter]
    exact delivering.notReady
  · rw [touches.framePayload]
    apply touches.answers _ delivering.answers
    rw [touches.requests other different]

theorem Touches.inv (inv : Inv state)
    (owned : (final.phase request).holds = true → (final.waiterOf request).owner = some request)
    (owner : ∀ waiter, (final.waiters waiter).owner = some request →
      (final.requests request).waiter = waiter ∧ (final.phase request).hasWaiter = true ∧
      (final.waiters waiter).ready = false)
    (fresh : final.phase request = .holding → (final.waiterOf request).ready = false)
    (notWoken : final.phase request ≠ .woken)
    (results : ∀ response, (final.phase request).result? = some (.ok response) →
      ∃ answer, response = some answer ∧ Answers final request answer) : Inv final := by
  constructor
  · intro other
    by_cases same : other = request
    · rw [same]
      exact owned
    · rw [touches.phase same]
      intro holds
      rw [touches.waiterOf inv same holds]
      exact inv.owned other holds
  · intro waiter other isOwner
    by_cases same : other = request
    · rw [same] at isOwner ⊢
      exact ⟨(owner waiter isOwner).1, (owner waiter isOwner).2.1⟩
    · rw [touches.phase same, touches.requests other same]
      exact inv.owner waiter other (touches.owners waiter other same isOwner)
  · intro other
    by_cases same : other = request
    · rw [same]
      exact fresh
    · rw [touches.phase same]
      intro holding
      rw [touches.waiterOf inv same (by rw [holding]; rfl)]
      exact inv.fresh other holding
  · intro other
    by_cases same : other = request
    · rw [same]
      exact fun woken => absurd woken notWoken
    · rw [touches.phase same]
      intro woken
      rw [touches.waiterOf inv same (by rw [woken]; rfl)]
      exact touches.loaded same (inv.woken other woken)
  · intro other response
    by_cases same : other = request
    · rw [same]
      exact results response
    · rw [touches.phase same]
      intro result
      obtain ⟨answer, responseEq, answers⟩ := inv.results other response result
      refine ⟨answer, responseEq, touches.answers ?_ answers⟩
      rw [touches.requests other same]
  · intro waiter other isOwner ready
    by_cases same : other = request
    · rw [same] at isOwner
      have notReady := (owner waiter isOwner).2.2
      exact absurd (ready.symm.trans notReady) (by decide)
    · have wasOwner := touches.owners waiter other same isOwner
      rw [touches.waiters waiter other same wasOwner] at ready ⊢
      exact touches.loaded same (inv.tokens waiter other wasOwner ready)
  · intro id entry waiter found refers
    rw [touches.correlated] at found
    obtain ⟨other, registered⟩ := inv.entries id entry waiter found refers
    exact ⟨other, (touches.registered registered).2⟩
  · intro waiter frame target
    rw [touches.dispatcher] at target
    obtain ⟨other, delivering⟩ := inv.delivery waiter frame target
    exact ⟨other, (touches.delivering delivering).2⟩
  · intro waiter frame signalling
    rw [touches.dispatcher] at signalling
    have target : state.dispatcher.target = some (waiter, frame) := by
      rw [signalling]
      rfl
    obtain ⟨other, delivering⟩ := inv.delivery waiter frame target
    have different := (touches.delivering delivering).1
    rw [touches.waiters waiter other different delivering.owner, touches.framePayload]
    exact inv.stored waiter frame signalling
  · intro waiter left signalling
    rw [touches.closer] at signalling
    obtain ⟨closed, id, entry, found, refers⟩ := inv.failing waiter left signalling
    obtain ⟨other, registered⟩ := inv.entries id entry waiter found refers
    have different := (touches.registered registered).1
    rw [touches.waiters waiter other different registered.owner, touches.correlated]
    exact ⟨closed, id, entry, found, refers⟩

end Touching

variable (inv : Inv state)
include inv

/-- A call is issued, or gets a clean waiter. -/
theorem startCall_inv {record : Request} {waiters : Nat → Waiter}
    (before : (state.phase request).hasWaiter = false)
    (kept : ∀ waiter other, (state.waiters waiter).owner = some other →
      waiters waiter = state.waiters waiter)
    (taken : ∀ waiter other, (waiters waiter).owner = some other →
      (state.waiters waiter).owner = some other ∨ other = request ∧ record.waiter = waiter ∧
      record.phase = .holding)
    (after : record.phase = .issued ∨ record.phase = .holding ∧
      waiters record.waiter = cleanWaiter (some request)) :
    Inv { state.setRequest request record with waiters } := by
  have notOwner : ∀ waiter, (state.waiters waiter).owner ≠ some request := by
    intro waiter isOwner
    have hasWaiter := (inv.owner waiter request isOwner).2
    rw [before] at hasWaiter
    contradiction
  have touches : Touches state { state.setRequest request record with waiters } request :=
    { correlated := rfl
      dispatcher := rfl
      closer := rfl
      frames := rfl
      requests := fun other different => Function.update_of_ne different _ _
      waiters := fun waiter other _ isOwner => kept waiter other isOwner
      owners := fun waiter other different isOwner =>
        (taken waiter other isOwner).resolve_right (fun own => different own.1)
      unregistered := fun _ _ waiter registered => notOwner waiter registered.owner
      undelivered := fun waiter _ delivering => notOwner waiter delivering.owner }
  have ownRecord : (state.setRequest request record).requests request = record :=
    Function.update_self _ _ _
  apply touches.inv inv
  · simp only [State.phase, State.waiterOf, ownRecord]
    intro holds
    rcases after with issued | ⟨_, clean⟩
    · rw [issued] at holds
      contradiction
    · rw [clean]
      rfl
  · intro waiter isOwner
    have own := (taken waiter request isOwner).resolve_left (notOwner waiter)
    obtain ⟨_, waiterEq, holding⟩ := own
    rcases after with issued | ⟨_, clean⟩
    · rw [issued] at holding
      contradiction
    · simp only [State.phase, ownRecord, holding, ← waiterEq, clean]
      exact ⟨trivial, rfl, rfl⟩
  · simp only [State.phase, State.waiterOf, ownRecord]
    intro holding
    rcases after with issued | ⟨_, clean⟩
    · rw [issued] at holding
      contradiction
    · rw [clean]
      rfl
  · simp only [State.phase, ownRecord]
    rcases after with issued | ⟨holding, _⟩
    · rw [issued]
      simp
    · rw [holding]
      simp
  · simp only [State.phase, ownRecord]
    intro response result
    rcases after with issued | ⟨holding, _⟩
    · rw [issued] at result
      contradiction
    · rw [holding] at result
      contradiction

theorem issue_inv (was : state.phase request = .idle) :
    Inv (state.setRequest request ⟨.issued, id, 0⟩) :=
  startCall_inv inv (by rw [was]; rfl) (fun _ _ _ => rfl) (fun _ _ => Or.inl) (Or.inl rfl)

theorem acquire_inv {waiter : Nat} (was : state.phase request = .issued)
    (pooled : (state.waiters waiter).owner = none) :
    Inv (next state (.acquire request waiter)) := by
  apply startCall_inv inv (by rw [was]; rfl)
  · intro other owner owned
    have different : other ≠ waiter := by
      intro same
      rw [same, pooled] at owned
      exact nomatch owned
    exact Function.update_of_ne different _ _
  · intro other owner owned
    by_cases same : other = waiter
    · subst same
      rw [State.setRequest, Function.update_self] at owned
      exact Or.inr ⟨(Option.some.inj owned).symm, rfl, rfl⟩
    · rw [State.setRequest, Function.update_of_ne same] at owned
      exact Or.inl owned
  · exact Or.inr ⟨rfl, Function.update_self _ _ _⟩

section

variable (was : state.phase request = .holding)
include was

theorem holding_unreferenced : (∀ id entry, state.correlated.lookup id = some entry →
      entry.waiter ≠ some (state.requests request).waiter) ∧ ∀ frame,
      state.dispatcher.target ≠ some ((state.requests request).waiter, frame) := by
  have holds : (state.phase request).holds = true := by
    rw [was]
    rfl
  refine ⟨?_, ?_⟩
  · intro id entry found refers
    obtain ⟨other, registered⟩ := inv.entries id entry _ found refers
    have same := inv.owner_unique holds registered.owner
    subst same
    exact Inv.not_registered (by rw [was]; rfl) registered
  · intro frame target
    obtain ⟨other, delivering⟩ := inv.delivery _ frame target
    have same := inv.owner_unique holds delivering.owner
    subst same
    exact Inv.not_delivering (by rw [was]; rfl) delivering

theorem leaveHolding_inv {after : Phase} (next : after = .registered ∨ after = .finished .error) :
    Inv (state.setPhase request after) := by
  apply inv.setPhase
  · intro _
    rw [was]
    rfl
  · intro _
    rcases next with rfl | rfl <;> rfl
  · rcases next with rfl | rfl <;> exact nofun
  · rcases next with rfl | rfl <;> exact nofun
  · rcases next with rfl | rfl <;> exact nofun
  · intro id entry waiter _ _ registered
    exact absurd registered (Inv.not_registered (by rw [was]; rfl))
  · intro _ _ _ _
    rcases next with rfl | rfl <;> rfl

private theorem registerClosed_inv : Inv
      ((state.setPhase request (.finished .error)).setWaiter (state.requests request).waiter
        { state.waiters (state.requests request).waiter with
          closed := true, ready := true }) := by
  obtain ⟨notInMap, notTarget⟩ := holding_unreferenced inv was
  have owner := inv.owned request (by rw [was]; rfl)
  apply (leaveHolding_inv inv was (Or.inr rfl)).setWaiter owner
  · exact owner
  · intro holding
    rw [setPhase_phase_self] at holding
    exact nomatch holding
  · intro _
    exact Or.inl rfl
  · intro id entry found refers
    exact absurd refers (notInMap id entry found)
  · intro frame target
    exact absurd target (notTarget frame)
  · intro frame signalling
    apply absurd _ (notTarget frame)
    rw [show state.dispatcher = _ from signalling]
    rfl
  · intro _ _
    rfl

theorem registerInsert_inv (free : state.muFree) : Inv { state.setPhase request .registered with
        correlated := state.correlated.insert (state.requests request).id
            ⟨some (state.requests request).waiter, false⟩ } := by
  obtain ⟨_, notTarget⟩ := holding_unreferenced inv was
  have owner := inv.owned request (by rw [was]; rfl)
  have fresh := inv.fresh request was
  have moved := leaveHolding_inv inv was (Or.inl rfl)
  refine { moved with
      entries := ?_
      delivery := ?_
      failing := ?_ }
  · intro id entry waiter found refers
    by_cases same : id = (state.requests request).id
    · subst same
      rw [AList.lookup_insert] at found
      have entryEq := Option.some.inj found
      subst entryEq
      have waiterEq := Option.some.inj refers
      subst waiterEq
      exact ⟨request,
          { kept := rfl
            owner := owner
            sameId := setPhase_id _ _ _ _
            linked := by rw [State.phase]; simp [State.setPhase, State.setRequest, Phase.linked]
            undelivered := notTarget
            pending := fun _ => ⟨fresh, by
              rw [State.phase]
              simp [State.setPhase, State.setRequest, Phase.pending]⟩ }⟩
    · rw [AList.lookup_insert_ne same] at found
      obtain ⟨other, registered⟩ := moved.entries id entry waiter found refers
      exact ⟨other, { registered with }⟩
  · intro waiter frame target
    obtain ⟨other, delivering⟩ := moved.delivery waiter frame target
    exact ⟨other, { delivering with }⟩
  · intro waiter left signalling
    exact absurd signalling (not_signalling_of_muFree free)

theorem register_inv (free : state.muFree) : Inv (register state request) := by
  unfold register
  by_cases closed : state.closed = true
  · rw [if_pos closed]
    exact registerClosed_inv inv was
  · rw [if_neg closed]
    by_cases exists_ : (state.correlated.lookup (state.requests request).id).isSome = true
    · rw [if_pos exists_]
      exact leaveHolding_inv inv was (Or.inr rfl)
    · rw [if_neg exists_]
      exact registerInsert_inv inv was free

end

theorem release_inv {result : Result} (was : state.phase request = .releasing result) :
    Inv (next state (.release request result)) := by
  have holds : (state.phase request).holds = true := by
    rw [was]
    rfl
  have owner := inv.owned request holds
  -- The waiter that goes back is clean; every other one is as it was.
  have keptWaiter : ∀ waiter, waiter ≠ (state.requests request).waiter →
        (next state (.release request result)).waiters waiter = state.waiters waiter :=
    fun waiter different => setWaiter_waiters_of_ne different
  have pooled : (next state (.release request result)).waiters (state.requests request).waiter =
        cleanWaiter none :=
    setWaiter_waiters_self _ _ _
  have keptOwner :
      ∀ waiter other, ((next state (.release request result)).waiters waiter).owner = some other →
        waiter ≠ (state.requests request).waiter := by
    intro waiter other isOwner same
    rw [same, pooled] at isOwner
    contradiction
  have touches : Touches state (next state (.release request result)) request :=
    { correlated := rfl
      dispatcher := rfl
      closer := rfl
      frames := rfl
      requests := fun other different => Function.update_of_ne different _ _
      waiters := by
        intro waiter other different isOwner
        apply keptWaiter
        intro same
        rw [same] at isOwner
        exact different (Option.some.inj (isOwner.symm.trans owner))
      owners := by
        intro waiter other _ isOwner
        rwa [keptWaiter waiter (keptOwner waiter other isOwner)] at isOwner
      unregistered := fun _ _ _ => Inv.not_registered (by rw [was]; rfl)
      undelivered := fun _ _ => Inv.not_delivering (by rw [was]; rfl) }
  have finished : (next state (.release request result)).phase request = .finished result :=
    setPhase_phase_self _ _ _
  apply touches.inv inv
  · rw [finished]
    nofun
  · intro waiter isOwner
    have different := keptOwner waiter request isOwner
    rw [keptWaiter waiter different] at isOwner
    exact absurd (inv.owner waiter request isOwner).1.symm different
  · rw [finished]
    nofun
  · rw [finished]
    nofun
  · rw [finished]
    intro response isOk
    have wasOk : (state.phase request).result? = some (.ok response) := by
      rw [was]
      exact isOk
    obtain ⟨answer, responseEq, answers⟩ := inv.results request response wasOk
    exact ⟨answer, responseEq, touches.answers (setPhase_id _ _ _ _) answers⟩

end Calls

end FitzGo.Connection.Multiplexer
