import FitzGo.Library.StepMachine
import Mathlib.Algebra.Group.Nat.Defs
import Mathlib.Data.Option.Basic

/-!
# The polling iterators

`startManagedPollingIterator` polls, hands over what it gets, and waits at a
gate that the handler of its subscription opens. The context of the loop ends
with a cause, but `WaitAfter` returns the plain context error.
-/

namespace FitzGo.Client.ManagedIterators

open StepMachine

/-! ## The context, the monitor and the consumer -/

inductive Cause
  | overflow
  | closed
  | parent

inductive IteratorError
  | overflow
  | canceled
  | parent
  | poll
  deriving DecidableEq

/-- `context.Cause` of a context that ended so. -/
def Cause.error : Cause → IteratorError
  | .overflow => .overflow
  | .closed => .canceled
  | .parent => .parent

def Cause.plain : Cause → IteratorError
  | .overflow | .closed => .canceled
  | .parent => .parent

inductive Monitor
  | watching
  | cancelling
  | ended
  deriving DecidableEq

/-- What the iterators share: the cause of the context, the value of the
`Completion` (whether it is an overflow), the goroutine that monitors it, the
channel of errors, and the `ChannelIterator`. -/
structure Helper where
  cause : Option Cause := none
  completion : Option Bool := none
  monitor : Monitor := .watching
  errors : Option IteratorError := none
  valuesClosed : Bool := false
  err : Option IteratorError := none
  exhausted : Bool := false

def Helper.cancel (helper : Helper) (cause : Cause) : Helper :=
  { helper with cause := helper.cause <|> some cause }

/-- `Close` cancels and then drains the errors; `exhaust` is a `Next` that
returns false. -/
inductive HelperEvent
  | complete (overflow : Bool)
  | monitorReceives
  | monitorCancels
  | monitorStops
  | parentEnds
  | close
  | drain
  | exhaust
  deriving DecidableEq

def Helper.step (helper : Helper) : HelperEvent → Option Helper
  | .complete overflow =>
    if helper.completion = none then some { helper with completion := some overflow }
    else none
  | .monitorReceives =>
    match helper.monitor, helper.completion with
    | .watching, some overflow =>
      some { helper with monitor := if overflow then .cancelling else .ended }
    | _, _ => none
  | .monitorCancels =>
    if helper.monitor = .cancelling then some { helper.cancel .overflow with monitor := .ended }
    else none
  | .monitorStops =>
    if helper.monitor = .watching ∧ helper.cause ≠ none then some { helper with monitor := .ended }
    else none
  | .parentEnds => some (helper.cancel .parent)
  | .close => some (helper.cancel .closed)
  | .drain => some { helper with err := helper.err <|> helper.errors, errors := none }
  | .exhaust =>
    if helper.valuesClosed then
      some
        { helper with
          err := helper.err <|> helper.errors
          errors := if helper.err = none then none else helper.errors
          exhausted := true }
    else none

/-! ## The loop -/

/-- The channels are numbered; all but the last are closed. -/
structure WakeGate where
  version : UInt64 := 0
  waitCh : Nat := 0

def WakeGate.wake (gate : WakeGate) : WakeGate where
  version := gate.version + 1
  waitCh := gate.waitCh + 1

/-- `waiting` is inside `WaitAfter` before its section, `blocked` at its
`select`. -/
inductive Phase
  | looping
  | polling
  | handing (pollAgain : Bool)
  | waiting
  | blocked (waitCh : Nat)
  | leaving
  | ended
  deriving DecidableEq

def Phase.left : Phase → Bool
  | .leaving | .ended => true
  | _ => false

/-- The iterator with its loop, and the calls of its handler that have not run.
The counters of wakes and polls, and whether an overflow came before every other
end, are histories. -/
structure State where
  helper : Helper := {}
  gate : WakeGate := {}
  version : UInt64 := 0
  phase : Phase := .looping
  subID : UInt64
  connected : Bool := true
  handlers : Nat := 0
  wakes : Nat := 0
  polls : Nat := 0
  polledAt : Nat := 0
  overflowed : Bool := false

inductive Event
  | helper (event : HelperEvent)
  | notify (subID : UInt64)
  | wake
  | lose
  | replaceConnection
  | restore (subID : UInt64)
  | pollStart
  | polled (emit pollAgain : Bool)
  | pollFails (byContext : Bool)
  | received
  | handOverEnds
  | waitAfter
  | woken
  | waitEnds
  | leave

def Event.isLoop : Event → Bool
  | .helper _ | .notify _ | .wake | .lose | .replaceConnection | .restore _ => false
  | _ => true

def afterPoll (pollAgain : Bool) : Phase :=
  if pollAgain then .looping else .waiting

def State.fail (state : State) (error : IteratorError) : State :=
  { state with
    phase := .leaving
    helper := { state.helper with errors := some error } }

/-- A poll that fails by the context has the error of the context. -/
def step (state : State) : Event → Option State
  | .helper event =>
    match state.helper.step event with
    | none => none
    | some helper =>
      some
        { state with
          helper
          overflowed := state.overflowed || decide (event = .complete true ∧
            state.helper.cause = none ∧ state.phase.left = false) }
  | .notify subID =>
    if state.connected then
      some { state with handlers := state.handlers + if subID = state.subID then 1 else 0 }
    else none
  | .wake =>
    if 0 < state.handlers then
      some
        { state with
          handlers := state.handlers - 1
          gate := state.gate.wake
          wakes := state.wakes + 1 }
    else none
  | .lose => some { state with connected := false }
  | .replaceConnection => some { state with connected := true }
  | .restore subID =>
    if state.connected then some { state with subID } else none
  | .pollStart =>
    if state.phase = .looping then
      some
        { state with
          phase := .polling
          polls := state.polls + 1
          polledAt := state.wakes }
    else none
  | .polled emit pollAgain =>
    if state.phase = .polling then
      some { state with phase := if emit then .handing pollAgain else afterPoll pollAgain }
    else none
  | .pollFails byContext =>
    match state.phase, byContext, state.helper.cause with
    | .polling, true, some cause => some (state.fail cause.plain)
    | .polling, false, _ => some (state.fail .poll)
    | _, _, _ => none
  | .received =>
    match state.phase with
    | .handing pollAgain => some { state with phase := afterPoll pollAgain }
    | _ => none
  | .handOverEnds =>
    match state.phase, state.helper.cause with
    | .handing _, some cause => some (state.fail cause.error)
    | _, _ => none
  | .waitAfter =>
    if state.phase ≠ .waiting then none
    else if state.version < state.gate.version then
      some { state with version := state.gate.version, phase := .looping }
    else some { state with phase := .blocked state.gate.waitCh }
  | .woken =>
    match state.phase with
    | .blocked waitCh =>
      if waitCh = state.gate.waitCh then none else some { state with phase := .waiting }
    | _ => none
  | .waitEnds =>
    match state.phase, state.helper.cause with
    | .blocked _, some cause => some (state.fail cause.plain)
    | _, _ => none
  | .leave =>
    if state.phase = .leaving then
      some
        { state with
          phase := .ended
          helper := { state.helper with valuesClosed := true } }
    else none

def initial (subID : UInt64) : State := { subID }

/-! ## No wake is lost -/

/-- The version the loop knows is not newer than its last poll. A loop that is
blocked at the last channel knows the version of the gate. -/
structure Awake (state : State) : Prop where
  counted : state.gate.version.toNat = state.wakes
  polledAt : state.polledAt ≤ state.wakes
  version : state.version.toNat ≤ state.gate.version.toNat
  polled : state.phase ≠ .looping → state.version.toNat ≤ state.polledAt
  blocked : ∀ waitCh, state.phase = .blocked waitCh → waitCh ≤ state.gate.waitCh ∧
    (waitCh = state.gate.waitCh → state.gate.version.toNat ≤ state.version.toNat)

variable {state following : State} {event : Event}

theorem wakes_step (stepped : step state event = some following) :
    state.wakes ≤ following.wakes := by
  revert stepped
  fun_cases step state event <;> grind [State.fail]

theorem WakeGate.version_wake {gate : WakeGate} (few : gate.version.toNat + 1 < 2 ^ 64) :
    gate.wake.version.toNat = gate.version.toNat + 1 := by
  simp only [WakeGate.wake, UInt64.toNat_add, UInt64.toNat_one]
  omega

theorem Awake.step (awake : Awake state) (few : following.wakes < 2 ^ 64)
    (stepped : step state event = some following) : Awake following := by
  obtain ⟨counted, polledAt, version, polled, blocked⟩ := awake
  have woken : ∀ gate, gate = state.gate.wake → gate.waitCh = state.gate.waitCh + 1 ∧
      (state.gate.version.toNat + 1 < 2 ^ 64 →
        gate.version.toNat = state.gate.version.toNat + 1) := by
    rintro _ rfl
    exact ⟨rfl, fun few => WakeGate.version_wake few⟩
  revert stepped
  fun_cases ManagedIterators.step state event <;> intro stepped <;>
    simp only [Option.some.injEq, reduceCtorEq] at stepped
  all_goals
    subst stepped
    constructor <;> grind [State.fail, afterPoll, UInt64.lt_iff_toNat_lt]

variable {subID : UInt64} {events : List Event} {final : State}

theorem awake_of_run
    (ran : run step (initial subID) events = some final) (few : final.wakes < 2 ^ 64) :
    Awake final := by
  refine invariant_of_run (fun state => state.wakes < 2 ^ 64 → Awake state) ?_ ?_ ran few
  · intro state following event awake stepped few
    exact (awake (Nat.lt_of_le_of_lt (wakes_step stepped) few)).step few stepped
  · intro
    constructor <;> simp [initial]

/-- A poll has started since the wake that made the number of wakes `wakes`, or
the loop has left. -/
def Followed (wakes : Nat) (state : State) : Prop :=
  wakes ≤ state.wakes ∧ (state.phase.left = true ∨ wakes ≤ state.polledAt)

/-- The steps of the loop before its next poll, if a wake is unseen. -/
def Phase.beforePoll : Phase → Nat
  | .polling => 3
  | .handing _ | .blocked _ => 2
  | .waiting => 1
  | _ => 0

variable {wakes : Nat}

theorem Followed.step (followed : Followed wakes state)
    (stepped : step state event = some following) : Followed wakes following := by
  revert stepped
  fun_cases ManagedIterators.step state event <;> intro stepped <;>
    grind [Followed, State.fail, Phase.left]

private theorem beforePoll_step (awake : Awake state) (woken : wakes ≤ state.wakes)
    (unseen : ¬ Followed wakes state) (stepped : step state event = some following) :
    Followed wakes following ∨ following.phase.beforePoll +
      (if event.isLoop then 1 else 0) ≤ state.phase.beforePoll := by
  cases event with
  | helper event | notify event | restore event =>
    simp only [ManagedIterators.step] at stepped
    split at stepped <;> cases stepped
    exact .inr (Nat.le_refl _)
  | wake =>
    simp only [ManagedIterators.step] at stepped
    split at stepped <;> cases stepped
    exact .inr (Nat.le_refl _)
  | lose | replaceConnection =>
    cases stepped
    exact .inr (Nat.le_refl _)
  | pollStart =>
    simp only [ManagedIterators.step] at stepped
    split at stepped <;> cases stepped
    exact .inl ⟨woken, .inr woken⟩
  | polled emit again =>
    simp only [ManagedIterators.step] at stepped
    split at stepped <;> cases stepped
    next here =>
      right
      rw [here]
      cases emit <;> cases again <;> exact Nat.le_of_ble_eq_true rfl
  | pollFails | handOverEnds | waitEnds | leave =>
    simp only [ManagedIterators.step] at stepped
    split at stepped <;> cases stepped <;> exact .inl ⟨woken, .inl rfl⟩
  | received =>
    simp only [ManagedIterators.step] at stepped
    split at stepped <;> cases stepped
    next again here =>
      right
      rw [here]
      cases again <;> exact Nat.le_of_ble_eq_true rfl
  | waitAfter =>
    simp only [ManagedIterators.step] at stepped
    split at stepped
    · cases stepped
    next waiting =>
      rw [not_not] at waiting
      split at stepped <;> cases stepped
      · right
        rw [waiting]
        exact Nat.le_refl _
      next current =>
        -- the loop would block only if its last poll had seen the wake
        have polled := awake.polled (by rw [waiting]; nofun)
        have counted := awake.counted
        rw [UInt64.lt_iff_toNat_lt] at current
        exact absurd ⟨woken, .inr (by omega)⟩ unseen
  | woken =>
    simp only [ManagedIterators.step] at stepped
    split at stepped
    next chan here =>
      split at stepped <;> cases stepped
      right
      rw [here]
      exact Nat.le_refl _
    · cases stepped

private theorem followed_of_run
    (awake : Awake state) (woken : wakes ≤ state.wakes)
    (ran : run step state events = some final) (few : final.wakes < 2 ^ 64) :
    Followed wakes final ∨ events.countP Event.isLoop ≤ state.phase.beforePoll := by
  induction events generalizing state with
  | nil => exact Or.inr (Nat.zero_le _)
  | cons event rest ih =>
    by_cases followed : Followed wakes state
    · exact Or.inl (invariant_of_run (Followed wakes) Followed.step followed ran)
    obtain ⟨next, stepped, ranRest⟩ := run_cons_eq_some ran
    have grows : next.wakes ≤ final.wakes :=
      invariant_of_run (next.wakes ≤ ·.wakes) (fun grown stepped =>
        Nat.le_trans grown (wakes_step stepped)) (Nat.le_refl _) ranRest
    rcases beforePoll_step awake woken followed stepped with done | nearer
    · exact Or.inl (invariant_of_run (Followed wakes) Followed.step done ranRest)
    · refine (ih (awake.step (Nat.lt_of_le_of_lt grows few) stepped)
        (Nat.le_trans woken (wakes_step stepped)) ranRest).imp_right fun rest => ?_
      rw [List.countP_cons]
      omega

/-- A loop that is blocked with no wake pending started its last poll after the
last wake. While a wake is unseen a step of the loop is enabled, and after four
of them a poll has started or the loop has left. -/
theorem no_wake_is_lost
    (ran : run step (initial subID) events = some final) (few : final.wakes < 2 ^ 64) :
    (final.phase = .blocked final.gate.waitCh → final.polledAt = final.wakes) ∧
      (final.phase.left = false → final.polledAt < final.wakes →
      ∃ event, event.isLoop = true ∧ (step final event).isSome = true) ∧
      ∀ more after, run step final (.wake :: more) = some after → after.wakes < 2 ^ 64 →
      3 < more.countP Event.isLoop → after.phase.left = true ∨ final.wakes < after.polledAt := by
  have awake := awake_of_run ran few
  refine ⟨?_, ?_, ?_⟩
  · intro blocked
    have known := (awake.blocked _ blocked).2 rfl
    have polled := awake.polled (by simp [blocked])
    have bounds := awake.polledAt
    rw [awake.counted] at known
    omega
  · intro remains unseen
    have known := awake.counted
    have polled := awake.polled
    have blocked := awake.blocked
    cases phase : final.phase with
    | looping => exact ⟨.pollStart, rfl, by simp [step, phase]⟩
    | polling => exact ⟨.polled true true, rfl, by simp [step, phase]⟩
    | handing pollAgain => exact ⟨.received, rfl, by simp [step, phase]⟩
    | waiting => exact ⟨.waitAfter, rfl, by simp only [step, phase]; grind⟩
    | blocked waitCh => exact ⟨.woken, rfl, by simp only [step, phase]; grind⟩
    | _ => simp [phase, Phase.left] at remains
  · intro more after ranMore fewMore enough
    obtain ⟨woken, stepped, ranRest⟩ := run_cons_eq_some ranMore
    have counted : woken.wakes = final.wakes + 1 := by
      simp only [step, Option.ite_none_right_eq_some, Option.some.injEq] at stepped
      rw [← stepped.2]
    have grows : woken.wakes ≤ after.wakes :=
      invariant_of_run (woken.wakes ≤ ·.wakes) (fun grown stepped =>
        Nat.le_trans grown (wakes_step stepped)) (Nat.le_refl _) ranRest
    rcases followed_of_run (awake.step (Nat.lt_of_le_of_lt grows fewMore) stepped)
      (Nat.le_of_eq counted.symm) ranRest fewMore with followed | short
    · exact followed.2
    · have bound : woken.phase.beforePoll ≤ 3 := by
        cases woken.phase <;> simp [Phase.beforePoll]
      omega

def wokenRun : List Event :=
  [.pollStart, .notify 7, .wake, .polled false false, .waitAfter, .pollStart,
    .polled false false, .waitAfter]

theorem wokenRun_polls_again : ∃ final, run step (initial 7) wokenRun = some final ∧
      final.phase = .blocked final.gate.waitCh ∧ final.polledAt = final.wakes := by
  obtain ⟨final, ran, few, blocked⟩ : ∃ final, run step (initial 7) wokenRun = some final ∧
      final.wakes < 2 ^ 64 ∧ final.phase = .blocked final.gate.waitCh := by decide +kernel
  exact ⟨final, ran, blocked, (no_wake_is_lost ran few).1 blocked⟩

/-! ## A restore wakes nobody -/

/-- The loop polls before it waits again, or it has left, or `WaitAfter` has not
seen the last wake. -/
def PollsNext (state : State) : Prop :=
  state.phase = .looping ∨ state.phase = .handing true ∨ state.phase.left = true ∨
    state.version < state.gate.version

instance (state : State) : Decidable (PollsNext state) :=
  inferInstanceAs (Decidable (_ ∨ _))

/-- The loop has polled since it had made `polls` polls, or polls next. -/
def Due (polls : Nat) (state : State) : Prop :=
  polls ≤ state.polls ∧ (polls < state.polls ∨ PollsNext state)

theorem Due.step {polls : Nat} (due : Due polls state) (awake : Awake state)
    (few : following.wakes < 2 ^ 64) (stepped : step state event = some following) :
    Due polls following := by
  have woken : state.gate.version.toNat + 1 < 2 ^ 64 →
      state.gate.wake.version.toNat = state.gate.version.toNat + 1 := WakeGate.version_wake
  have counted := awake.counted
  obtain ⟨before, due⟩ := due
  unfold PollsNext at due
  unfold Due PollsNext
  revert stepped
  fun_cases ManagedIterators.step state event <;> intro stepped <;>
    simp only [Option.some.injEq, reduceCtorEq] at stepped
  all_goals
    subst stepped
    grind [State.fail, afterPoll, Phase.left, UInt64.lt_iff_toNat_lt]

/-- A loop that does not poll next can block with no poll more. -/
private theorem blocks_without_poll (stays : ¬ PollsNext state) :
    ∃ more final, run step state more = some final ∧ final.wakes = state.wakes ∧
      final.phase = .blocked final.gate.waitCh ∧ final.polls = state.polls := by
  simp only [PollsNext, not_or] at stays
  obtain ⟨looping, again, left, current⟩ := stays
  cases phase : state.phase with
  | looping => exact absurd phase looping
  | leaving | ended => simp [phase, Phase.left] at left
  | polling =>
    refine ⟨[.polled false false, .waitAfter], ?_⟩
    simp [run, step, phase, afterPoll, current]
  | handing pollAgain =>
    cases pollAgain with
    | true => exact absurd phase again
    | false =>
      refine ⟨[.received, .waitAfter], ?_⟩
      simp [run, step, phase, afterPoll, current]
  | waiting =>
    refine ⟨[.waitAfter], ?_⟩
    simp [run, step, phase, current]
  | blocked waitCh =>
    by_cases last : waitCh = state.gate.waitCh
    · exact ⟨[], state, rfl, rfl, by rw [phase, last], rfl⟩
    · refine ⟨[.woken, .waitAfter], ?_⟩
      simp [run, step, phase, last, current]

/-- After a restore the loop is never blocked with a last poll from before it,
just if it polls next when the restore comes. -/
theorem polled_since_restore {newID : UInt64}
    {before restored : State} (ran : run step (initial subID) events = some before)
    (few : before.wakes < 2 ^ 64) (restores : step before (.restore newID) = some restored) :
    PollsNext before ↔ ∀ more final, run step restored more = some final →
      final.wakes < 2 ^ 64 → final.phase = .blocked final.gate.waitCh →
      before.polls < final.polls := by
  have awake := awake_of_run ran few
  have kept : restored = { before with subID := newID } := by
    simp only [step, Option.ite_none_right_eq_some, Option.some.injEq] at restores
    exact restores.2.symm
  have awakened : Awake restored := awake.step (by rw [kept]; exact few) restores
  constructor
  · intro next more final later fewer blocked
    have start : Due before.polls restored := by
      rw [kept]
      exact ⟨Nat.le_refl _, .inr next⟩
    have ends : Awake final ∧ Due before.polls final := by
      refine invariant_of_run (fun state => state.wakes < 2 ^ 64 →
        Awake state ∧ Due before.polls state) ?_ (fun _ => ⟨awakened, start⟩) later fewer
      intro state following event both stepped few
      obtain ⟨awake, due⟩ := both (Nat.lt_of_le_of_lt (wakes_step stepped) few)
      exact ⟨awake.step few stepped, due.step awake few stepped⟩
    have known := (ends.1.blocked _ blocked).2 rfl
    refine ends.2.2.resolve_right ?_
    simp only [PollsNext, blocked, Phase.left, UInt64.lt_iff_toNat_lt]
    simpa using known
  · intro polls
    by_contra stays
    have blocks : ¬ PollsNext restored := by
      rw [kept]
      exact stays
    obtain ⟨more, final, later, wakes, blocked, same⟩ := blocks_without_poll blocks
    have polled := polls more final later (by rw [wakes, kept]; exact few) blocked
    rw [same, kept] at polled
    exact Nat.lt_irrefl _ polled

/-- The connection is replaced while the loop hands over, and it is to poll again. -/
theorem handingRun_polls_after_restore : ∃ before restored final,
      run step (initial 7) [.pollStart, .polled true true, .lose, .replaceConnection] =
        some before ∧
      step before (.restore 8) = some restored ∧
      run step restored [.received, .pollStart, .polled false false, .waitAfter] = some final ∧
      final.phase = .blocked final.gate.waitCh ∧ before.polls < final.polls := by
  obtain ⟨before, ran, few, next, restored, restores, final, later, fewer, blocked⟩ :
      ∃ before, run step (initial 7) [.pollStart, .polled true true, .lose,
        .replaceConnection] = some before ∧ before.wakes < 2 ^ 64 ∧ PollsNext before ∧
      ∃ restored, step before (.restore 8) = some restored ∧
      ∃ final, run step restored [.received, .pollStart, .polled false false, .waitAfter] =
        some final ∧ final.wakes < 2 ^ 64 ∧ final.phase = .blocked final.gate.waitCh := by
    decide +kernel
  exact ⟨before, restored, final, ran, restores, later, blocked,
    (polled_since_restore ran few restores).mp next _ _ later fewer blocked⟩

/-- A loop that is blocked when the connection is lost is still blocked after the
restore, with the poll of before the loss as its last. -/
theorem restore_leaves_loop_blocked : ∃ before,
      run step (initial 7) [.pollStart, .polled false false, .waitAfter, .lose,
        .replaceConnection] = some before ∧
      ∃ restored, step before (.restore 8) = some restored ∧
      restored.phase = .blocked restored.gate.waitCh ∧ ¬ before.polls < restored.polls := by
  decide +kernel

end FitzGo.Client.ManagedIterators
