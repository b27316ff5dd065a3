import FitzGo.Connection.Multiplexer

/-!
# Delivery of correlated responses

A waiter belongs to one call from the moment the call takes it from the pool
until the call returns it. A delivery in progress has already removed the entry
of its call, and a call gives its waiter back only after it has received the
token or has removed its own entry.
-/

namespace FitzGo.Connection.Multiplexer

open StepMachine

namespace Phase

def hasWaiter : Phase → Bool
  | .idle | .issued => false
  | _ => true

def holds : Phase → Bool
  | .idle | .issued | .finished _ => false
  | _ => true

def linked : Phase → Bool
  | .registered | .waiting | .woken | .leaving _ _ => true
  | _ => false

def pending : Phase → Bool
  | .registered | .waiting | .leaving false _ => true
  | _ => false

def mayReceive : Phase → Bool
  | .registered | .waiting | .leaving false _ | .finished _ => true
  | _ => false

theorem of_pending {phase : Phase} (isPending : phase.pending = true) :
    phase.holds = true ∧ phase.linked = true ∧ phase.mayReceive = true ∧ phase.hasWaiter = true ∧
      phase ≠ .holding ∧ phase ≠ .woken := by
  cases phase with
  | leaving release result =>
    cases release with
    | false => exact ⟨rfl, rfl, rfl, rfl, nofun, nofun⟩
    | true => exact absurd isPending (by simp [pending])
  | registered | waiting => exact ⟨rfl, rfl, rfl, rfl, nofun, nofun⟩
  | releasing result | finished result => exact absurd isPending (by simp [pending])
  | _ => exact absurd isPending (by decide)

def result? : Phase → Option Result
  | .leaving _ result | .releasing result | .finished result => some result
  | _ => none

end Phase

def Dispatcher.target : Dispatcher → Option (Nat × Nat)
  | .idle => none
  | .storing waiter frame | .signalling waiter frame => some (waiter, frame)

/-- The frame of the response is final, carries the id of the call, and was
meant for it. -/
def Answers (state : State) (request : Nat) (response : Response) : Prop :=
  state.frames[response.frame]? =
    some ⟨(state.requests request).id, response.payload, true, some request⟩

def Loaded (state : State) (request : Nat) (waiter : Waiter) : Prop :=
  waiter.closed = true ∨
    ∃ response, waiter.response = some response ∧ Answers state request response

/-- The entry `id ↦ waiter` is the registration of a call. -/
structure Registered (state : State) (id : Nat) (entry : Entry) (waiter request : Nat) : Prop where
  kept : entry.discard = false
  owner : (state.waiters waiter).owner = some request
  sameId : (state.requests request).id = id
  linked : (state.phase request).linked = true
  undelivered : ∀ frame, state.dispatcher.target ≠ some (waiter, frame)
  pending : state.muFree → (state.waiters waiter).ready = false ∧
    (state.phase request).pending = true

/-- The dispatcher has a frame for the waiter of the call. -/
structure Delivering (state : State) (waiter frame request : Nat) : Prop where
  owner : (state.waiters waiter).owner = some request
  mayReceive : (state.phase request).mayReceive = true
  notReady : (state.waiters waiter).ready = false
  answers : Answers state request ⟨frame, framePayload state frame⟩

structure Inv (state : State) : Prop where
  owned : ∀ request, (state.phase request).holds = true →
    (state.waiterOf request).owner = some request
  owner : ∀ waiter request, (state.waiters waiter).owner = some request →
    (state.requests request).waiter = waiter ∧ (state.phase request).hasWaiter = true
  fresh : ∀ request, state.phase request = .holding → (state.waiterOf request).ready = false
  woken : ∀ request, state.phase request = .woken → Loaded state request (state.waiterOf request)
  results : ∀ request response, (state.phase request).result? = some (.ok response) →
    ∃ answer, response = some answer ∧ Answers state request answer
  tokens : ∀ waiter request, (state.waiters waiter).owner = some request →
    (state.waiters waiter).ready = true → Loaded state request (state.waiters waiter)
  entries : ∀ id entry waiter, state.correlated.lookup id = some entry →
    entry.waiter = some waiter → ∃ request, Registered state id entry waiter request
  delivery : ∀ waiter frame, state.dispatcher.target = some (waiter, frame) →
    ∃ request, Delivering state waiter frame request
  stored : ∀ waiter frame, state.dispatcher = .signalling waiter frame →
    (state.waiters waiter).response = some ⟨frame, framePayload state frame⟩
  failing : ∀ waiter left, state.closer = .signalling waiter left →
    (state.waiters waiter).closed = true ∧ ∃ id entry,
    state.correlated.lookup id = some entry ∧ entry.waiter = some waiter

theorem Inv.congr {state final : State} (inv : Inv state)
    (correlated : final.correlated = state.correlated) (waiters : final.waiters = state.waiters)
    (requests : final.requests = state.requests) (dispatcher : final.dispatcher = state.dispatcher)
    (closer : final.closer = state.closer) (frames : final.frames = state.frames) : Inv final := by
  obtain ⟨_, _, _, _, _, _, _, _, _⟩ := final
  simp only at correlated waiters requests dispatcher closer frames
  subst correlated waiters requests dispatcher closer frames
  exact { inv with
      entries := fun id entry waiter found refers =>
        have ⟨request, registered⟩ := inv.entries id entry waiter found refers
        ⟨request, { registered with }⟩
      delivery := fun waiter frame target =>
        have ⟨request, delivering⟩ := inv.delivery waiter frame target
        ⟨request, { delivering with }⟩ }

section Projections

variable (state : State) (request other : Nat)

variable (phase : Phase)
include phase

@[simp]
theorem setPhase_phase_self : (state.setPhase request phase).phase request = phase := by
  simp [State.setPhase, State.setRequest, State.phase]

private theorem setPhase_phase_of_ne (different : other ≠ request) :
    (state.setPhase request phase).phase other = state.phase other := by
  simp [State.setPhase, State.setRequest, State.phase, different]

@[simp]
theorem setPhase_id :
    ((state.setPhase request phase).requests other).id = (state.requests other).id := by
  by_cases same : other = request
  · simp [State.setPhase, State.setRequest, same]
  · simp [State.setPhase, State.setRequest, same]

@[simp]
theorem setPhase_waiter :
    ((state.setPhase request phase).requests other).waiter = (state.requests other).waiter := by
  by_cases same : other = request
  · simp [State.setPhase, State.setRequest, same]
  · simp [State.setPhase, State.setRequest, same]

@[simp]
theorem setPhase_waiterOf :
    (state.setPhase request phase).waiterOf other = state.waiterOf other := by
  rw [State.waiterOf, setPhase_waiter]
  rfl

end Projections

variable {state : State} {phase : Phase} {response : Response}

theorem answers_setPhase {request other : Nat} :
    Answers (state.setPhase request phase) other response ↔ Answers state other response := by
  unfold Answers
  rw [setPhase_id]
  rfl

theorem loaded_setPhase {request other : Nat} {waiter : Waiter} :
    Loaded (state.setPhase request phase) other waiter ↔ Loaded state other waiter := by
  unfold Loaded
  simp only [answers_setPhase]

theorem Inv.owner_unique (inv : Inv state) {request other : Nat}
    (holds : (state.phase request).holds = true)
    (owner : (state.waiters (state.requests request).waiter).owner = some other) :
    other = request := by
  have own := inv.owned request holds
  exact (Option.some.inj (own.symm.trans owner)).symm

theorem Inv.setPhase (inv : Inv state) {request : Nat}
    (holds : phase.holds = true → (state.phase request).holds = true)
    (hasWaiter : (state.phase request).hasWaiter = true → phase.hasWaiter = true)
    (notHolding : phase ≠ .holding)
    (woken : phase = .woken → Loaded state request (state.waiterOf request))
    (results : ∀ response, phase.result? = some (.ok response) →
      ∃ answer, response = some answer ∧ Answers state request answer)
    (links : ∀ id entry waiter, state.correlated.lookup id = some entry →
      entry.waiter = some waiter → Registered state id entry waiter request →
      phase.linked = true ∧ (state.muFree → phase.pending = true))
    (receives : ∀ waiter frame, state.dispatcher.target = some (waiter, frame) →
      Delivering state waiter frame request → phase.mayReceive = true) :
    Inv (state.setPhase request phase) := by
  have phaseOf : ∀ other, (state.setPhase request phase).phase other =
          if other = request then phase else state.phase other := by
    intro other
    by_cases same : other = request
    · rw [if_pos same, same, setPhase_phase_self]
    · rw [if_neg same, setPhase_phase_of_ne _ _ _ _ same]
  refine { inv with
      owned := ?_
      owner := ?_
      fresh := ?_
      woken := ?_
      results := ?_
      tokens := ?_
      entries := ?_
      delivery := ?_ }
  · intro other
    rw [phaseOf, setPhase_waiterOf]
    by_cases same : other = request
    · rw [if_pos same, same]
      intro nowHolds
      exact inv.owned request (holds nowHolds)
    · rw [if_neg same]
      exact inv.owned other
  · intro waiter other owner
    obtain ⟨waiterEq, had⟩ := inv.owner waiter other owner
    rw [phaseOf, setPhase_waiter]
    refine ⟨waiterEq, ?_⟩
    by_cases same : other = request
    · rw [if_pos same]
      exact hasWaiter (same ▸ had)
    · rw [if_neg same]
      exact had
  · intro other
    rw [phaseOf, setPhase_waiterOf]
    by_cases same : other = request
    · rw [if_pos same]
      intro impossible
      exact absurd impossible notHolding
    · rw [if_neg same]
      exact inv.fresh other
  · intro other
    rw [phaseOf, setPhase_waiterOf, loaded_setPhase]
    by_cases same : other = request
    · rw [if_pos same, same]
      exact woken
    · rw [if_neg same]
      exact inv.woken other
  · intro other response
    rw [phaseOf]
    simp only [answers_setPhase]
    by_cases same : other = request
    · rw [if_pos same, same]
      exact results response
    · rw [if_neg same]
      exact inv.results other response
  · intro waiter other owner ready
    rw [loaded_setPhase]
    exact inv.tokens waiter other owner ready
  · intro id entry waiter found refers
    obtain ⟨other, registered⟩ := inv.entries id entry waiter found refers
    have linkedHere : (if other = request then phase else state.phase other).linked = true ∧
          (state.muFree →
            (if other = request then phase
              else state.phase other).pending = true) := by
      by_cases same : other = request
      · rw [if_pos same]
        exact links id entry waiter found refers (same ▸ registered)
      · rw [if_neg same]
        exact ⟨registered.linked, fun free => (registered.pending free).2⟩
    refine ⟨other, { registered with sameId := ?_, linked := ?_, pending := ?_ }⟩
    · rw [setPhase_id]
      exact registered.sameId
    · rw [phaseOf]
      exact linkedHere.1
    · intro free
      rw [phaseOf]
      exact ⟨(registered.pending free).1, linkedHere.2 free⟩
  · intro waiter frame target
    obtain ⟨other, delivering⟩ := inv.delivery waiter frame target
    refine ⟨other, { delivering with mayReceive := ?_, answers := ?_ }⟩
    · rw [phaseOf]
      by_cases same : other = request
      · rw [if_pos same]
        exact receives waiter frame target (same ▸ delivering)
      · rw [if_neg same]
        exact delivering.mayReceive
    · rw [answers_setPhase]
      exact delivering.answers

variable {waiter : Nat}

theorem setWaiter_waiters_of_ne {other : Nat} {record : Waiter}
    (different : other ≠ waiter) :
    (state.setWaiter waiter record).waiters other = state.waiters other :=
  Function.update_of_ne different _ _

@[simp]
theorem setWaiter_waiters_self (state : State) (waiter : Nat) (record : Waiter) :
    (state.setWaiter waiter record).waiters waiter = record :=
  Function.update_self _ _ _

theorem Inv.setWaiter (inv : Inv state) {request : Nat} {record : Waiter}
    (owned : (state.waiters waiter).owner = some request) (kept : record.owner = some request)
    (fresh : state.phase request = .holding → record.ready = false)
    (loaded : state.phase request = .woken ∨ record.ready = true → Loaded state request record)
    (entries : ∀ id entry, state.correlated.lookup id = some entry →
      entry.waiter = some waiter → state.muFree → record.ready = false)
    (delivery : ∀ frame, state.dispatcher.target = some (waiter, frame) → record.ready = false)
    (stored : ∀ frame, state.dispatcher = .signalling waiter frame →
      record.response = some ⟨frame, framePayload state frame⟩)
    (failing : ∀ left, state.closer = .signalling waiter left → record.closed = true) :
    Inv (state.setWaiter waiter record) := by
  have either : ∀ other, other = waiter ∧ (state.setWaiter waiter record).waiters other = record ∨
          (state.setWaiter waiter record).waiters other = state.waiters other := by
    intro other
    by_cases same : other = waiter
    · left
      subst same
      exact ⟨rfl, setWaiter_waiters_self _ _ _⟩
    · right
      exact setWaiter_waiters_of_ne same
  have ownerEq : ∀ other, ((state.setWaiter waiter record).waiters other).owner =
          (state.waiters other).owner := by
    intro other
    rcases either other with ⟨rfl, now⟩ | unchanged
    · rw [now]
      exact kept.trans owned.symm
    · rw [unchanged]
  have waiterOf : ∀ call, (state.phase call).holds = true →
        call = request ∧ (state.setWaiter waiter record).waiterOf call = record ∨
          (state.setWaiter waiter record).waiterOf call = state.waiterOf call := by
    intro call holds
    rcases either (state.requests call).waiter with ⟨rfl, now⟩ | unchanged
    · exact Or.inl ⟨(inv.owner_unique holds owned).symm, now⟩
    · exact Or.inr unchanged
  refine
    { owned := ?_
      owner := ?_
      fresh := ?_
      woken := ?_
      results := inv.results
      tokens := ?_
      entries := ?_
      delivery := ?_
      stored := ?_
      failing := ?_ }
  · intro call holds
    exact (ownerEq _).trans (inv.owned call holds)
  · intro other call owner
    rw [ownerEq] at owner
    exact inv.owner other call owner
  · intro call holding
    have isHolding : state.phase call = .holding := holding
    rcases waiterOf call (by rw [isHolding]; rfl) with ⟨rfl, now⟩ | unchanged
    · rw [now]
      exact fresh isHolding
    · rw [unchanged]
      exact inv.fresh call isHolding
  · intro call becameWoken
    have isWoken : state.phase call = .woken := becameWoken
    rcases waiterOf call (by rw [isWoken]; rfl) with ⟨rfl, now⟩ | unchanged
    · rw [now]
      exact loaded (Or.inl isWoken)
    · rw [unchanged]
      exact inv.woken call isWoken
  · intro other call owner ready
    rcases either other with ⟨rfl, now⟩ | unchanged
    · rw [now] at owner ready ⊢
      cases kept.symm.trans owner
      exact loaded (Or.inr ready)
    · rw [unchanged] at owner ready ⊢
      exact inv.tokens other call owner ready
  · intro id entry other found refers
    obtain ⟨call, registered⟩ := inv.entries id entry other found refers
    refine ⟨call, { registered with owner := ?_, pending := ?_ }⟩
    · rw [ownerEq]
      exact registered.owner
    · intro free
      refine ⟨?_, (registered.pending free).2⟩
      rcases either other with ⟨rfl, now⟩ | unchanged
      · rw [now]
        exact entries id entry found refers free
      · rw [unchanged]
        exact (registered.pending free).1
  · intro other frame target
    obtain ⟨call, delivering⟩ := inv.delivery other frame target
    refine ⟨call, { delivering with owner := ?_, notReady := ?_ }⟩
    · rw [ownerEq]
      exact delivering.owner
    · rcases either other with ⟨rfl, now⟩ | unchanged
      · rw [now]
        exact delivery frame target
      · rw [unchanged]
        exact delivering.notReady
  · intro other frame signalling
    rcases either other with ⟨rfl, now⟩ | unchanged
    · rw [now]
      exact stored frame signalling
    · rw [unchanged]
      exact inv.stored other frame signalling
  · intro other left signalling
    refine ⟨?_, (inv.failing other left signalling).2⟩
    rcases either other with ⟨rfl, now⟩ | unchanged
    · rw [now]
      exact failing left signalling
    · rw [unchanged]
      exact (inv.failing other left signalling).1

theorem not_signalling_of_muFree {left : List Nat}
    (free : state.muFree) : state.closer ≠ .signalling waiter left := by
  intro signalling
  rw [State.muFree, signalling] at free
  exact absurd free (by simp [Closer.holdsMutex])

theorem Inv.shrink (inv : Inv state) {correlated : Correlated}
    (fewer : ∀ id entry waiter, correlated.lookup id = some entry →
      entry.waiter = some waiter → state.correlated.lookup id = some entry)
    (free : state.muFree) : Inv { state with correlated } :=
  { inv with
    entries := by
      intro id entry waiter found refers
      have before := fewer id entry waiter found refers
      obtain ⟨request, registered⟩ := inv.entries id entry waiter before refers
      exact ⟨request, { registered with }⟩
    delivery := by
      intro waiter frame target
      obtain ⟨request, delivering⟩ := inv.delivery waiter frame target
      exact ⟨request, { delivering with }⟩
    failing := by
      intro waiter left signalling
      exact absurd signalling (not_signalling_of_muFree free) }

section Append

variable {state : State} {frame : Frame}

def recordFrame (state : State) (frame : Frame) : State :=
  { state with frames := state.frames ++ [frame] }

variable {request : Nat}

theorem answers_recordFrame
    (answers : Answers state request response) :
    Answers (recordFrame state frame) request response := by
  obtain ⟨bound, _⟩ := List.getElem?_eq_some_iff.mp answers
  exact (List.getElem?_append_left bound).trans answers

private theorem loaded_recordFrame {waiter : Waiter}
    (loaded : Loaded state request waiter) : Loaded (recordFrame state frame) request waiter := by
  rcases loaded with closed | ⟨response, stored, answers⟩
  · exact Or.inl closed
  · exact Or.inr ⟨response, stored, answers_recordFrame answers⟩

private theorem framePayload_recordFrame {index : Nat} (bound : index < state.frames.length) :
    framePayload (recordFrame state frame) index = framePayload state index := by
  unfold framePayload recordFrame
  rw [List.getElem?_append_left bound]

theorem Delivering.bound {index : Nat}
    (delivering : Delivering state waiter index request) : index < state.frames.length :=
  (List.getElem?_eq_some_iff.mp delivering.answers).1

theorem Inv.recordFrame (inv : Inv state) : Inv (recordFrame state frame) :=
  { inv with
    woken := fun request woken => loaded_recordFrame (inv.woken request woken)
    results := by
      intro request response result
      obtain ⟨answer, responseEq, answers⟩ := inv.results request response result
      exact ⟨answer, responseEq, answers_recordFrame answers⟩
    tokens := fun waiter request owner ready =>
      loaded_recordFrame (inv.tokens waiter request owner ready)
    entries := by
      intro id entry waiter found refers
      obtain ⟨request, registered⟩ := inv.entries id entry waiter found refers
      exact ⟨request, { registered with }⟩
    delivery := by
      intro waiter index target
      obtain ⟨request, delivering⟩ := inv.delivery waiter index target
      refine ⟨request, { delivering with answers := ?_ }⟩
      rw [framePayload_recordFrame delivering.bound]
      exact answers_recordFrame delivering.answers
    stored := by
      intro waiter index signalling
      have target : state.dispatcher.target = some (waiter, index) := by
        rw [show state.dispatcher = _ from signalling]
        rfl
      obtain ⟨request, delivering⟩ := inv.delivery waiter index target
      rw [framePayload_recordFrame delivering.bound]
      exact inv.stored waiter index signalling }

end Append

theorem Inv.dispatcherIdle {state : State} (inv : Inv state) :
    Inv { state with dispatcher := .idle } :=
  { inv with
    entries := by
      intro id entry waiter found refers
      obtain ⟨request, registered⟩ := inv.entries id entry waiter found refers
      exact ⟨request, { registered with undelivered := fun _ impossible => nomatch impossible }⟩
    delivery := fun _ _ impossible => nomatch impossible
    stored := fun _ _ impossible => nomatch impossible }

theorem Inv.closerMoves {state : State} (inv : Inv state) {closer : Closer}
    (quiet : ∀ waiter left, closer ≠ .signalling waiter left)
    (mutex : closer.holdsMutex = false → state.muFree) : Inv { state with closer } :=
  { inv with
    entries := by
      intro id entry waiter found refers
      obtain ⟨request, registered⟩ := inv.entries id entry waiter found refers
      exact ⟨request, { registered with pending := fun free => registered.pending (mutex free) }⟩
    delivery := by
      intro waiter frame target
      obtain ⟨request, delivering⟩ := inv.delivery waiter frame target
      exact ⟨request, { delivering with }⟩
    failing := fun waiter left impossible => absurd impossible (quiet waiter left) }

end FitzGo.Connection.Multiplexer
