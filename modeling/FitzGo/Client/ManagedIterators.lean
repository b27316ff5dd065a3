import FitzGo.Client.PollingIterators

/-!
# The terminal cause of an iterator

The polling loop passes the cause of its context on at its handover, but
`WaitAfter` and a failing poll have errors of their own. The push iterator
closes its values before it sends the cause, and `Next` does not wait for it.
-/

namespace FitzGo.Client.ManagedIterators

open StepMachine

/-! ## The push iterator -/

/-- Where the goroutine is that waits for the end of the context: before it, at
`Unsubscribe` and the lock, and under the lock with the values closed. -/
inductive PushPhase
  | waiting
  | unsubscribing
  | closing
  | ended
  deriving DecidableEq

/-- The iterator with the number of values in its channel and of deliveries that
hold the read lock. -/
structure PushState where
  helper : Helper := {}
  capacity : Nat
  values : Nat := 0
  delivering : Nat := 0
  phase : PushPhase := .waiting
  overflowed : Bool := false

inductive PushEvent
  | helper (event : HelperEvent)
  | deliver
  | sendValue
  | abortDelivery
  | receive
  | contextDone
  | closeValues
  | sendError

/-- A delivery that finds the iterator closed returns at once. -/
def pushStep (state : PushState) : PushEvent → Option PushState
  | .helper event =>
    match state.helper.step event with
    | none => none
    | some helper =>
      if event = .exhaust ∧ state.values ≠ 0 then none
      else
        some
          { state with
            helper
            overflowed := state.overflowed ||
              decide (event = .complete true ∧ state.helper.cause = none) }
  | .deliver =>
    if state.phase = .closing then none
    else if state.helper.valuesClosed then some state
    else some { state with delivering := state.delivering + 1 }
  | .sendValue =>
    if 0 < state.delivering ∧ state.values < state.capacity then
      some
        { state with
          delivering := state.delivering - 1
          values := state.values + 1 }
    else none
  | .abortDelivery =>
    if 0 < state.delivering ∧ state.helper.cause ≠ none then
      some { state with delivering := state.delivering - 1 }
    else none
  | .receive =>
    if 0 < state.values then some { state with values := state.values - 1 } else none
  | .contextDone =>
    if state.phase = .waiting ∧ state.helper.cause ≠ none then
      some { state with phase := .unsubscribing }
    else none
  | .closeValues =>
    if state.phase = .unsubscribing ∧ state.delivering = 0 then
      some
        { state with
          phase := .closing
          helper := { state.helper with valuesClosed := true } }
    else none
  | .sendError =>
    match state.phase, state.helper.cause with
    | .closing, some cause =>
      some
        { state with
          phase := .ended
          helper := { state.helper with errors := some cause.error } }
    | _, _ => none

def pushInitial (capacity : Nat) : PushState := { capacity }

/-! ## What the consumer is told -/

/-- Nothing but the overflow ends the context once it has come first. -/
def HelperEvent.Waits (overflowed : Bool) (helper : Helper) : HelperEvent → Prop
  | .close | .parentEnds => overflowed = true → helper.cause ≠ none
  | _ => True

instance (overflowed : Bool) (helper : Helper) (event : HelperEvent) :
    Decidable (event.Waits overflowed helper) := by
  cases event <;> dsimp only [HelperEvent.Waits] <;> infer_instance

/-- After an overflow the loop ends at its handover only. -/
def EndsAtHandOver (state : State) : Event → Prop
  | .helper event => event.Waits state.overflowed state.helper
  | .pollFails _ | .waitEnds => state.overflowed = false
  | _ => True

instance (state : State) (event : Event) : Decidable (EndsAtHandOver state event) := by
  cases event <;> dsimp only [EndsAtHandOver] <;> infer_instance

/-- `Next` does not find the values closed before the error is sent. -/
def AwaitsError (state : PushState) : PushEvent → Prop
  | .helper event =>
    event.Waits state.overflowed state.helper ∧ (event = .exhaust → state.phase ≠ .closing)
  | _ => True

instance (state : PushState) (event : PushEvent) : Decidable (AwaitsError state event) := by
  cases event <;> dsimp only [AwaitsError] <;> infer_instance

/-- `told` is whether the error of the producer has been sent. -/
structure Tells (overflowed told : Bool) (helper : Helper) : Prop where
  silent : told = false → helper.errors = none ∧ helper.err = none
  unexhausted : told = false → helper.exhausted = false
  cause : overflowed = true → helper.cause = none ∨ helper.cause = some .overflow
  told : overflowed = true → told = true →
    helper.err = some .overflow ∨ helper.err = none ∧ helper.errors = some .overflow
  exhausted : overflowed = true → helper.exhausted = true → helper.err = some .overflow

variable {overflowed told : Bool} {helper following : Helper} {event : HelperEvent}

theorem Tells.step (tells : Tells overflowed told helper) (waits : event.Waits overflowed helper)
    (stepped : helper.step event = some following) (awaits : event = .exhaust → told = true) :
    Tells (overflowed || decide (event = .complete true ∧ helper.cause = none ∧ told = false))
      told following := by
  obtain ⟨silent, unexhausted, cause, sent, exhausted⟩ := tells
  revert stepped
  fun_cases Helper.step helper event <;> intro stepped <;>
    simp only [Option.some.injEq, reduceCtorEq] at stepped
  all_goals
    subst stepped
    constructor <;> grind [Helper.cancel, HelperEvent.Waits]

theorem Helper.valuesClosed_step (stepped : helper.step event = some following) :
    following.valuesClosed = helper.valuesClosed ∧ (event = .exhaust → helper.valuesClosed = true) ∧
      (helper.cause ≠ none → following.cause ≠ none) := by
  revert stepped
  fun_cases Helper.step helper event <;> grind [Helper.cancel]

def PollTells (state : State) : Prop :=
  Tells state.overflowed state.phase.left state.helper ∧
    (state.helper.valuesClosed = true → state.phase.left = true)

theorem Tells.sends (tells : Tells overflowed false helper) {error : IteratorError}
    (fits : overflowed = true → error = .overflow) :
    Tells overflowed true { helper with errors := some error } where
  silent := nofun
  unexhausted := nofun
  cause := tells.cause
  told now _ := .inr ⟨(tells.silent rfl).2, congrArg some (fits now)⟩
  exhausted _ exhausted := nomatch (tells.unexhausted rfl).symm.trans exhausted

theorem Tells.cause_error {cause : Cause} (tells : Tells overflowed told helper)
    (here : helper.cause = some cause) (now : overflowed = true) : cause.error = .overflow := by
  rcases tells.cause now with none | overflow
  · cases none.symm.trans here
  · cases overflow.symm.trans here
    rfl

theorem PollTells.moves {state next : State} (inv : PollTells state)
    (overflowed : next.overflowed = state.overflowed) (helper : next.helper = state.helper)
    (left : next.phase.left = state.phase.left) : PollTells next := by
  unfold PollTells
  rw [overflowed, helper, left]
  exact inv

theorem PollTells.fails {state : State} (inv : PollTells state) (running : state.phase.left = false)
    {error : IteratorError} (fits : state.overflowed = true → error = .overflow) :
    PollTells (state.fail error) := by
  obtain ⟨tells, -⟩ := inv
  rw [running] at tells
  exact ⟨tells.sends fits, fun _ => rfl⟩

theorem PollTells.step {state next : State} {event : Event} (inv : PollTells state)
    (met : EndsAtHandOver state event) (stepped : step state event = some next) :
    PollTells next := by
  obtain ⟨tells, closed⟩ := id inv
  have calm (off : state.overflowed = false) {error : IteratorError} :
      state.overflowed = true → error = .overflow := fun on => nomatch off.symm.trans on
  cases event with
  | helper event =>
    simp only [ManagedIterators.step] at stepped
    split at stepped <;> cases stepped
    next helper changed =>
      obtain ⟨kept, exhausts, -⟩ := Helper.valuesClosed_step changed
      exact ⟨tells.step met changed fun exhaust => closed (exhausts exhaust),
        fun now => closed (kept.symm.trans now)⟩
  | notify subID | restore subID =>
    simp only [ManagedIterators.step] at stepped
    split at stepped <;> cases stepped
    exact inv
  | wake =>
    simp only [ManagedIterators.step] at stepped
    split at stepped <;> cases stepped
    exact inv
  | lose | replaceConnection =>
    cases stepped
    exact inv
  | pollFails byContext =>
    simp only [ManagedIterators.step] at stepped
    split at stepped <;> cases stepped
    next here _ => exact inv.fails (by rw [here]; rfl) (calm met)
    next here => exact inv.fails (by rw [here]; rfl) (calm met)
  | handOverEnds =>
    simp only [ManagedIterators.step] at stepped
    split at stepped <;> cases stepped
    next handing cause => exact inv.fails (by rw [handing]; rfl) (tells.cause_error cause)
  | waitEnds =>
    simp only [ManagedIterators.step] at stepped
    split at stepped <;> cases stepped
    next blocked _ => exact inv.fails (by rw [blocked]; rfl) (calm met)
  | leave =>
    simp only [ManagedIterators.step] at stepped
    split at stepped <;> cases stepped
    next leaving =>
      rw [leaving] at tells
      exact ⟨{ tells with }, fun _ => rfl⟩
  | pollStart | received =>
    simp only [ManagedIterators.step] at stepped
    split at stepped <;> cases stepped
    exact inv.moves rfl rfl (by grind [Phase.left, afterPoll])
  | polled emit pollAgain =>
    simp only [ManagedIterators.step] at stepped
    split at stepped <;> cases stepped
    exact inv.moves rfl rfl (by grind [Phase.left, afterPoll])
  | waitAfter =>
    simp only [ManagedIterators.step] at stepped
    split at stepped
    · cases stepped
    · split at stepped <;> cases stepped <;> exact inv.moves rfl rfl (by grind [Phase.left])
  | woken =>
    simp only [ManagedIterators.step] at stepped
    split at stepped
    · split at stepped <;> cases stepped
      exact inv.moves rfl rfl (by grind [Phase.left])
    · cases stepped

/-- The values are closed under the lock, and the error is sent after that. -/
structure PushTells (state : PushState) : Prop where
  tells : Tells state.overflowed (decide (state.phase = .ended)) state.helper
  closed : state.helper.valuesClosed = true → state.phase = .closing ∨ state.phase = .ended
  begun : state.phase ≠ .waiting → state.helper.cause ≠ none

theorem PushTells.step {state next : PushState} {event : PushEvent} (inv : PushTells state)
    (met : AwaitsError state event) (stepped : pushStep state event = some next) :
    PushTells next := by
  obtain ⟨tells, closed, begun⟩ := inv
  cases event with
  | helper event =>
    simp only [pushStep] at stepped
    split at stepped
    · cases stepped
    next helper changed =>
      split at stepped <;> cases stepped
      obtain ⟨kept, exhausts, causes⟩ := Helper.valuesClosed_step changed
      refine ⟨?_, fun now => closed (kept.symm.trans now), fun later => causes (begun later)⟩
      have told := tells.step met.1 changed fun exhaust =>
        decide_eq_true ((closed (exhausts exhaust)).resolve_left (met.2 exhaust))
      have first : (state.helper.cause = none ∧ decide (state.phase = .ended) = false) ↔
          state.helper.cause = none := by
        grind
      simpa only [first] using told
  | deliver =>
    simp only [pushStep] at stepped
    split at stepped
    · cases stepped
    · split at stepped <;> cases stepped <;> exact ⟨tells, closed, begun⟩
  | sendValue | abortDelivery | receive =>
    simp only [pushStep] at stepped
    split at stepped <;> cases stepped
    exact ⟨tells, closed, begun⟩
  | contextDone =>
    simp only [pushStep] at stepped
    split at stepped <;> cases stepped
    next start =>
      rw [start.1] at tells closed
      exact ⟨tells, fun now => (closed now).elim nofun nofun, fun _ => start.2⟩
  | closeValues =>
    simp only [pushStep] at stepped
    split at stepped <;> cases stepped
    next start =>
      rw [start.1] at tells
      exact ⟨{ tells with }, fun _ => .inl rfl, fun _ => begun (by rw [start.1]; nofun)⟩
  | sendError =>
    simp only [pushStep] at stepped
    split at stepped <;> cases stepped
    next closing cause =>
      rw [closing] at tells
      exact ⟨tells.sends (tells.cause_error cause), fun _ => .inr rfl,
        fun _ => begun (by rw [closing]; nofun)⟩

/-- After an overflow that came first, a consumer whose `Next` has returned false
is told of it: by the polling iterators when their loop ends at the handover, by
the push iterators when `Next` meets the closed values after the error is sent. -/
theorem overflow_reaches_the_consumer (subID : UInt64) (capacity : Nat) :
    (∀ events final, Along step EndsAtHandOver (initial subID) events →
      run step (initial subID) events = some final → final.overflowed = true →
      final.helper.exhausted = true → final.helper.err = some .overflow) ∧
      ∀ events final, Along pushStep AwaitsError (pushInitial capacity) events →
      run pushStep (pushInitial capacity) events = some final → final.overflowed = true →
      final.helper.exhausted = true → final.helper.err = some .overflow := by
  constructor
  · intro events final along ran overflowed exhausted
    have start : PollTells (initial subID) := ⟨by constructor <;> simp [initial], nofun⟩
    have inv := invariant_along PollTells PollTells.step start along ran
    exact inv.1.exhausted overflowed exhausted
  · intro events final along ran overflowed exhausted
    have start : PushTells (pushInitial capacity) :=
      ⟨by constructor <;> simp [pushInitial], by simp [pushInitial], fun later => absurd rfl later⟩
    have inv := invariant_along PushTells PushTells.step start along ran
    exact inv.tells.exhausted overflowed exhausted

def overflowEvents : List HelperEvent :=
  [.complete true, .monitorReceives, .monitorCancels]

def handOverRun : List Event :=
  [.pollStart, .polled true true] ++ overflowEvents.map .helper ++
    [.handOverEnds, .leave, .helper .exhaust]

def pushRun : List PushEvent :=
  [.deliver, .sendValue] ++ overflowEvents.map .helper ++
    [.contextDone, .receive, .closeValues, .sendError, .helper .exhaust]

theorem iterators_surface_overflow :
    (∃ final, run step (initial 7) handOverRun = some final ∧ final.helper.err = some .overflow) ∧
      ∃ final, run pushStep (pushInitial 16) pushRun = some final ∧
      final.helper.err = some .overflow := by
  obtain ⟨polls, pushes⟩ := overflow_reaches_the_consumer 7 16
  constructor
  · obtain ⟨final, ran, overflowed, exhausted⟩ :
        ∃ final, run step (initial 7) handOverRun = some final ∧
          final.overflowed = true ∧ final.helper.exhausted = true := by decide +kernel
    exact ⟨final, ran, polls _ final (by decide +kernel) ran overflowed exhausted⟩
  · obtain ⟨final, ran, overflowed, exhausted⟩ :
        ∃ final, run pushStep (pushInitial 16) pushRun = some final ∧
          final.overflowed = true ∧ final.helper.exhausted = true := by decide +kernel
    exact ⟨final, ran, pushes _ final (by decide +kernel) ran overflowed exhausted⟩

/-- A polling loop that waits at the gate returns the plain context error, and a
push iterator may have no error yet when `Next` returns false. -/
theorem overflow_is_lost :
    (∃ final, run step (initial 7) ([.pollStart, .polled false false, .waitAfter] ++
      overflowEvents.map .helper ++ [.waitEnds, .leave, .helper .exhaust]) = some final ∧
      final.overflowed = true ∧ final.helper.exhausted = true ∧ final.helper.err = some .canceled) ∧
      ∃ final, run pushStep (pushInitial 16) (overflowEvents.map .helper ++
      [.contextDone, .closeValues, .helper .exhaust]) = some final ∧
      final.overflowed = true ∧ final.helper.exhausted = true ∧ final.helper.err = none := by
  decide +kernel

end FitzGo.Client.ManagedIterators
