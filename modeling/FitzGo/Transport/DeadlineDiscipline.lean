import FitzGo.Transport.Deadline

/-!
# Deadlines of finished operations

The mutex in `bindConnDeadlineToContext` orders the registered function and the
cleanup, but nothing tells a function that comes second that the operation is
over: it sets the deadline of whatever operation runs next.
-/

namespace FitzGo.Transport.Deadline

open StepMachine

/-- The function phases that go with each phase of the operation. -/
def coherent (op : Op) : Bool :=
  match op.phase with
  | .idle | .locked | .bound | .bare => op.func = .unregistered
  | .running | .ending => op.func ∈ [.armed, .started, .holding, .ran]
  | .stopping => op.func ∈ [.started, .holding, .ran, .stopped]
  | .clearing => op.func ∈ [.ran, .stopped]
  | .returned | .finished => op.func ∈ [.unregistered, .ran, .stopped]

def Phase.isActive : Phase → Bool
  | .idle | .finished => false
  | _ => true

def Phase.isBound : Phase → Bool
  | .bound | .running | .ending | .stopping | .clearing => true
  | _ => false

theorem Phase.isActive_of_isBound {phase : Phase} (isBound : phase.isBound = true) :
    phase.isActive = true := by
  cases phase <;> first | rfl | exact absurd isBound (by decide)

/-- The function only starts after the context has ended. -/
def FuncPhase.hasStarted : FuncPhase → Bool
  | .started | .holding | .ran => true
  | _ => false

/-- The deadline is one that the operation's own context explains. -/
def Explained (setup : Setup) (state : State) (op : Nat) : Prop :=
  state.deadline = .ofContext (setup.contextOf op) ∨
    state.deadline = .elapsed ∧ state.contextDone (setup.contextOf op) = true

structure Disciplined (setup : Setup) (state : State) : Prop where
  coherentOps : ∀ op, coherent (state.ops op) = true
  started : ∀ op, (state.ops op).func.hasStarted = true →
    state.contextDone (setup.contextOf op) = true
  active : ∀ op, (state.ops op).phase.isActive = true → state.lock = some op
  explained : state.deadline ≠ .cleared → ∃ op,
    (state.ops op).phase.isBound = true ∧ Explained setup state op
  neverLate : state.late = []
  ownFailures : ∀ failure ∈ state.failures, failure.ownContextDone = true

variable {setup : Setup} {state : State}

theorem Disciplined.active_unique {left right : Nat} (disciplined : Disciplined setup state)
    (leftActive : (state.ops left).phase.isActive = true)
    (rightActive : (state.ops right).phase.isActive = true) : left = right := by
  have leftHolds := disciplined.active left leftActive
  have rightHolds := disciplined.active right rightActive
  exact Option.some.inj (leftHolds.symm.trans rightHolds)

/-- A step replaces one operation record by `after` and leaves the contexts
alone. -/
private structure Changes (setup : Setup) (state final : State) (op : Nat) (after : Op) : Prop where
  ops : final.ops = Function.update state.ops op after
  coherent : Deadline.coherent after = true
  started : after.func.hasStarted = true → state.contextDone (setup.contextOf op) = true
  lock : final.lock = state.lock ∧
        (after.phase.isActive = true → (state.ops op).phase.isActive = true) ∨
      state.lock = none ∧ final.lock = some op ∨
      (state.ops op).phase.isActive = true ∧ after.phase.isActive = false
  deadline : final.deadline = .cleared ∨
      final.deadline = state.deadline ∧
        ((state.ops op).phase.isBound = true → after.phase.isBound = true) ∨
      after.phase.isBound = true ∧ Explained setup final op
  passed : final.passed = state.passed
  cancelled : final.cancelled = state.cancelled
  late : final.late = state.late
  failures : ∀ failure ∈ final.failures, failure ∈ state.failures ∨ failure.ownContextDone = true

variable {final : State} {after : Op}

private theorem Changes.contexts {setup : Setup} {state : State} {op : Nat}
    (changes : Changes setup state final op after) (context : Nat) :
    final.contextDone context = state.contextDone context := by
  unfold State.contextDone
  rw [changes.passed, changes.cancelled]

private theorem Changes.active {setup : Setup} {state : State} {op : Nat}
    (disciplined : Disciplined setup state) (changes : Changes setup state final op after)
    (holder : Nat) (isActive : (final.ops holder).phase.isActive = true) :
    final.lock = some holder := by
  by_cases same : holder = op
  · subst same
    rw [changes.ops, Function.update_self] at isActive
    rcases changes.lock with ⟨kept, was⟩ | ⟨_, taken⟩ | ⟨_, released⟩
    · rw [kept]
      exact disciplined.active holder (was isActive)
    · exact taken
    · rw [isActive] at released
      exact absurd released (by decide)
  · rw [changes.ops, Function.update_of_ne same] at isActive
    have held := disciplined.active holder isActive
    rcases changes.lock with ⟨kept, _⟩ | ⟨free, _⟩ | ⟨was, _⟩
    · rw [kept]
      exact held
    · rw [free] at held
      exact nomatch held
    · exact absurd (disciplined.active_unique isActive was) same

private theorem Disciplined.change {setup : Setup} {state : State} {op : Nat}
    (disciplined : Disciplined setup state) (changes : Changes setup state final op after) :
    Disciplined setup final := by
  have atOp : final.ops op = after := by
    rw [changes.ops, Function.update_self]
  have atOther : ∀ other, other ≠ op → final.ops other = state.ops other := by
    intro other different
    rw [changes.ops, Function.update_of_ne different]
  refine
    { coherentOps := ?_
      started := ?_
      active := changes.active disciplined
      explained := ?_
      neverLate := changes.late.trans disciplined.neverLate
      ownFailures := ?_ }
  · intro other
    by_cases same : other = op
    · rw [same, atOp]
      exact changes.coherent
    · rw [atOther other same]
      exact disciplined.coherentOps other
  · intro other
    rw [changes.contexts]
    by_cases same : other = op
    · rw [same, atOp]
      exact changes.started
    · rw [atOther other same]
      exact disciplined.started other
  · intro notCleared
    rcases changes.deadline with cleared | ⟨unchanged, stillBound⟩ | own
    · exact absurd cleared notCleared
    · rw [unchanged] at notCleared
      obtain ⟨holder, isBound, explained⟩ := disciplined.explained notCleared
      refine ⟨holder, ?_, ?_⟩
      · by_cases same : holder = op
        · rw [same] at isBound ⊢
          rw [atOp]
          exact stillBound isBound
        · rw [atOther holder same]
          exact isBound
      · unfold Explained
        rw [unchanged, changes.contexts]
        exact explained
    · exact ⟨op, by rw [atOp]; exact own.1, own.2⟩
  · intro failure member
    rcases changes.failures failure member with earlier | done
    · exact disciplined.ownFailures failure earlier
    · exact done

private theorem Disciplined.changeOp {op : Nat}
    (disciplined : Disciplined setup state) (ops : final.ops = Function.update state.ops op after)
    (kept : (final.passed, final.cancelled, final.late, final.failures) =
      (state.passed, state.cancelled, state.late, state.failures))
    (coherent : coherent after = true)
    (started : after.func.hasStarted = true → state.contextDone (setup.contextOf op) = true)
    (lock : final.lock = state.lock ∧
        (after.phase.isActive = true → (state.ops op).phase.isActive = true) ∨
      state.lock = none ∧ final.lock = some op ∨
      (state.ops op).phase.isActive = true ∧ after.phase.isActive = false)
    (deadline : final.deadline = .cleared ∨
      final.deadline = state.deadline ∧
        ((state.ops op).phase.isBound = true → after.phase.isBound = true) ∨
      after.phase.isBound = true ∧ Explained setup final op) : Disciplined setup final := by
  simp only [Prod.mk.injEq] at kept
  obtain ⟨passed, cancelled, late, failures⟩ := kept
  exact disciplined.change
    { ops, coherent, started, lock, deadline, passed, cancelled, late,
      failures := fun _ member => Or.inl (failures ▸ member) }

private theorem Disciplined.contextEnds (disciplined : Disciplined setup state)
    (more : ∀ context, state.contextDone context = true → final.contextDone context = true)
    (ops : final.ops = state.ops) (lock : final.lock = state.lock)
    (deadline : final.deadline = state.deadline) (late : final.late = state.late)
    (failures : final.failures = state.failures) : Disciplined setup final where
  coherentOps := ops ▸ disciplined.coherentOps
  started op hasStarted := more _ (disciplined.started op (ops ▸ hasStarted))
  active op isActive := lock.trans (disciplined.active op (ops ▸ isActive))
  explained notCleared := by
    rw [deadline] at notCleared
    obtain ⟨op, isBound, explained⟩ := disciplined.explained notCleared
    refine ⟨op, by rw [ops]; exact isBound, ?_⟩
    rcases explained with ofContext | ⟨elapsed, done⟩
    · exact Or.inl (deadline.trans ofContext)
    · exact Or.inr ⟨deadline.trans elapsed, more _ done⟩
  neverLate := late.trans disciplined.neverLate
  ownFailures := failures ▸ disciplined.ownFailures

variable {before : Phase}

private theorem coherent_of_phase {op : Op} {after : Phase}
    (holds : coherent op = true) (was : op.phase = before)
    (table : ∀ func, coherent ⟨before, func⟩ = true → coherent ⟨after, func⟩ = true) :
    coherent ⟨after, op.func⟩ = true := by
  apply table
  rw [← was]
  exact holds

private theorem Disciplined.setPhase {op : Nat} {after : Phase}
    (disciplined : Disciplined setup state) (was : (state.ops op).phase = before)
    (table : ∀ func, coherent ⟨before, func⟩ = true → coherent ⟨after, func⟩ = true)
    (active : before.isActive = true) (bound : before.isBound = true → after.isBound = true) :
    Disciplined setup (state.setPhase op after) := by
  have coherent := coherent_of_phase (disciplined.coherentOps op) was table
  exact disciplined.changeOp rfl rfl coherent (disciplined.started op)
    (Or.inl ⟨rfl, fun _ => was ▸ active⟩) (Or.inr (Or.inl ⟨rfl, was ▸ bound⟩))

/-- Cleanup takes the mutex only when the registered function does not wait for
it: it has run, or `stop` prevented it. -/
def CleanupFindsFuncSettled (state : State) : Event → Prop
  | .cleanupLock op => (state.ops op).func ≠ .started
  | _ => True

instance (state : State) (event : Event) : Decidable (CleanupFindsFuncSettled state event) := by
  rcases event with ⟨⟩ <;> dsimp only [CleanupFindsFuncSettled] <;> infer_instance

section Steps

variable {setup : Setup} {state : State} {op : Nat}

section

variable (disciplined : Disciplined setup state)
include disciplined

private theorem afterIo_disciplined
    (was : (state.ops op).phase = .running ∨ (state.ops op).phase = .bare) :
    Disciplined setup (afterIo state op) := by
  unfold afterIo
  rcases was with running | bare
  · have notBare : (state.ops op).phase ≠ .bare := by
      rw [running]
      decide
    rw [if_neg notBare]
    apply disciplined.setPhase running
    · intro func
      cases func <;> decide
    · rfl
    · exact id
  · rw [if_pos bare]
    apply disciplined.setPhase bare
    · intro func
      cases func <;> decide
    · rfl
    · intro impossible
      exact absurd impossible (by decide)

private theorem ownContextDone_of_deadlineReached
    (was : (state.ops op).phase = .running ∨ (state.ops op).phase = .bare)
    (reached : state.deadlineReached = true) : state.contextDone (setup.contextOf op) = true := by
  have notCleared : state.deadline ≠ .cleared := by
    intro cleared
    simp [State.deadlineReached, cleared] at reached
  have opActive : (state.ops op).phase.isActive = true := by
    rcases was with running | bare
    · rw [running]
      rfl
    · rw [bare]
      rfl
  obtain ⟨holder, isBound, explained⟩ := disciplined.explained notCleared
  have same : holder = op := disciplined.active_unique (Phase.isActive_of_isBound isBound) opActive
  subst same
  rcases explained with ofContext | ⟨_, done⟩
  · have passed : state.passed (setup.contextOf holder) = true := by
      simpa [State.deadlineReached, ofContext] using reached
    simp [State.contextDone, passed]
  · exact done

private theorem begin_disciplined {after : Phase}
    (was : (state.ops op).phase = .idle) (free : state.lock = none)
    (table : ∀ func, coherent ⟨.idle, func⟩ = true → coherent ⟨after, func⟩ = true) :
    Disciplined setup { state.setPhase op after with lock := some op } := by
  have coherent := coherent_of_phase (disciplined.coherentOps op) was table
  refine disciplined.changeOp rfl rfl coherent (disciplined.started op)
    (Or.inr (Or.inl ⟨free, rfl⟩)) (Or.inr (Or.inl ⟨rfl, ?_⟩))
  rw [was]
  intro impossible
  exact absurd impossible (by decide)

private theorem release_disciplined (was : (state.ops op).phase = before)
    (active : before.isActive = true) (notBound : before.isBound = false)
    (table : ∀ func, coherent ⟨before, func⟩ = true → coherent ⟨.finished, func⟩ = true) :
    Disciplined setup { state.setPhase op .finished with lock := none } := by
  have coherent := coherent_of_phase (disciplined.coherentOps op) was table
  refine disciplined.changeOp rfl rfl coherent (disciplined.started op)
    (Or.inr (Or.inr ⟨was ▸ active, rfl⟩)) (Or.inr (Or.inl ⟨rfl, ?_⟩))
  rw [was, notBound]
  intro impossible
  exact absurd impossible (by decide)

private theorem bind_disciplined
    (was : (state.ops op).phase = .locked) : Disciplined setup (next setup state (.bind op)) := by
  have coherent : coherent ⟨.bound, (state.ops op).func⟩ = true := by
    apply coherent_of_phase (disciplined.coherentOps op) was
    intro func
    cases func <;> decide
  refine disciplined.changeOp rfl rfl coherent (disciplined.started op)
    (Or.inl ⟨rfl, fun _ => by rw [was]; rfl⟩) ?_
  by_cases withDeadline : setup.hasDeadline (setup.contextOf op) = true
  · refine Or.inr (Or.inr ⟨rfl, Or.inl ?_⟩)
    exact if_pos withDeadline
  · refine Or.inr (Or.inl ⟨?_, fun _ => rfl⟩)
    exact if_neg withDeadline

private theorem register_disciplined (was : (state.ops op).phase = .bound) :
    Disciplined setup (next setup state (.register op)) := by
  have ops : (next setup state (.register op)).ops =
      Function.update state.ops op ⟨.running, .armed⟩ := by
    simp [next, State.setPhase, State.setFunc]
  exact disciplined.changeOp ops rfl (by decide) (fun impossible => absurd impossible (by decide))
    (Or.inl ⟨rfl, fun _ => by rw [was]; rfl⟩) (Or.inr (Or.inl ⟨rfl, fun _ => rfl⟩))

private theorem stop_disciplined
    (was : (state.ops op).phase = .ending) : Disciplined setup (next setup state (.stop op)) := by
  have active : (state.ops op).phase.isActive = true := by
    rw [was]
    rfl
  by_cases armed : (state.ops op).func = .armed
  · have nextEq : next setup state (.stop op) = (state.setPhase op .stopping).setFunc op .stopped :=
      if_pos armed
    have ops : ((state.setPhase op .stopping).setFunc op .stopped).ops =
        Function.update state.ops op ⟨.stopping, .stopped⟩ := by
      simp [State.setPhase, State.setFunc]
    rw [nextEq]
    exact disciplined.changeOp ops rfl (by decide) (fun impossible => absurd impossible (by decide))
      (Or.inl ⟨rfl, fun _ => active⟩) (Or.inr (Or.inl ⟨rfl, fun _ => rfl⟩))
  · have nextEq : next setup state (.stop op) = state.setPhase op .stopping := if_neg armed
    have coherent : coherent ⟨.stopping, (state.ops op).func⟩ = true := by
      have before := disciplined.coherentOps op
      cases func : (state.ops op).func <;> simp_all [Deadline.coherent]
    rw [nextEq]
    exact disciplined.changeOp rfl rfl coherent (disciplined.started op)
      (Or.inl ⟨rfl, fun _ => active⟩) (Or.inr (Or.inl ⟨rfl, fun _ => rfl⟩))

private theorem cleanupLock_disciplined (was : (state.ops op).phase = .stopping)
    (notHolding : (state.ops op).func ≠ .holding) (settled : (state.ops op).func ≠ .started) :
    Disciplined setup (state.setPhase op .clearing) := by
  have coherent : coherent ⟨.clearing, (state.ops op).func⟩ = true := by
    have before := disciplined.coherentOps op
    cases func : (state.ops op).func <;> simp_all [Deadline.coherent]
  exact disciplined.changeOp rfl rfl coherent (disciplined.started op)
    (Or.inl ⟨rfl, fun _ => by rw [was]; rfl⟩) (Or.inr (Or.inl ⟨rfl, fun _ => rfl⟩))

private theorem cleanupSet_disciplined (was : (state.ops op).phase = .clearing) : Disciplined setup
      { state.setPhase op .returned with deadline := .cleared } := by
  have coherent : coherent ⟨.returned, (state.ops op).func⟩ = true := by
    apply coherent_of_phase (disciplined.coherentOps op) was
    intro func
    cases func <;> decide
  exact disciplined.changeOp rfl rfl coherent (disciplined.started op)
    (Or.inl ⟨rfl, fun _ => by rw [was]; rfl⟩) (Or.inl rfl)

private theorem setFunc_disciplined {before after : FuncPhase} (was : (state.ops op).func = before)
    (done : state.contextDone (setup.contextOf op) = true)
    (table : coherent ⟨(state.ops op).phase, before⟩ = true →
      coherent ⟨(state.ops op).phase, after⟩ = true) :
    Disciplined setup (state.setFunc op after) := by
  refine disciplined.changeOp rfl rfl (table ?_) (fun _ => done) (Or.inl ⟨rfl, id⟩)
    (Or.inr (Or.inl ⟨rfl, id⟩))
  rw [← was]
  exact disciplined.coherentOps op

private theorem funcSet_disciplined (was : (state.ops op).func = .holding) :
    Disciplined setup (next setup state (.funcSet op)) := by
  have before := disciplined.coherentOps op
  have done : state.contextDone (setup.contextOf op) = true := by
    apply disciplined.started op
    rw [was]
    rfl
  have notOver : (state.ops op).phase.isOver = false := by
    cases phase : (state.ops op).phase <;> simp_all [coherent, Phase.isOver]
  have isBound : (state.ops op).phase.isBound = true := by
    cases phase : (state.ops op).phase <;> simp_all [coherent, Phase.isBound]
  apply disciplined.change
  exact
    { ops := rfl
      coherent := by
        cases phase : (state.ops op).phase <;> simp_all [coherent]
      started := fun _ => done
      lock := Or.inl ⟨rfl, id⟩
      deadline := Or.inr (Or.inr ⟨isBound, Or.inr ⟨rfl, done⟩⟩)
      late := by simp [next, notOver]
      passed := rfl
      cancelled := rfl
      failures := fun _ => Or.inl }

end

private theorem step_disciplined {event : Event}
    (disciplined : Disciplined setup state) (settled : CleanupFindsFuncSettled state event)
    (stepped : step setup state event = some final) : Disciplined setup final := by
  obtain ⟨enabled, nextEq⟩ := guarded_eq_some_iff.mp stepped
  rw [← nextEq]
  cases event with
  | refuse op =>
    apply release_disciplined disciplined enabled.1 rfl rfl
    intro func
    cases func <;> decide
  | bind op => exact bind_disciplined disciplined enabled.1
  | register op => exact register_disciplined disciplined enabled
  | ioEnds op => exact afterIo_disciplined disciplined enabled
  | ioDeadline op =>
    have after := afterIo_disciplined disciplined enabled.1
    have own := ownContextDone_of_deadlineReached disciplined enabled.1 enabled.2
    refine { after with ownFailures := ?_ }
    intro failure member
    rcases List.mem_append.mp member with earlier | last
    · exact disciplined.ownFailures failure earlier
    · rw [List.mem_singleton.mp last]
      exact own
  | stop op => exact stop_disciplined disciplined enabled
  | cleanupLock op => exact cleanupLock_disciplined disciplined enabled.1 enabled.2 settled
  | cleanupSet op => exact cleanupSet_disciplined disciplined enabled
  | release op =>
    apply release_disciplined disciplined enabled rfl rfl
    intro func
    cases func <;> decide
  | startFunc op =>
    apply setFunc_disciplined disciplined enabled.1 enabled.2
    intro before
    cases phase : (state.ops op).phase <;> simp_all [coherent]
  | funcLock op =>
    have done : state.contextDone (setup.contextOf op) = true := by
      apply disciplined.started op
      rw [enabled.1]
      rfl
    apply setFunc_disciplined disciplined enabled.1 done
    intro before
    cases phase : (state.ops op).phase <;> simp_all [coherent]
  | funcSet op => exact funcSet_disciplined disciplined enabled
  | pass context | cancel context =>
    apply disciplined.contextEnds
    · intro other done
      by_cases same : other = context
      · simp [next, State.contextDone, same]
      · simpa [next, State.contextDone, same] using done
    all_goals rfl
  | _ =>
    apply begin_disciplined disciplined enabled.1 enabled.2
    intro func
    cases func <;> decide

end Steps

private theorem initial_disciplined (setup : Setup) : Disciplined setup initial where
  coherentOps _ := rfl
  started _ impossible := absurd impossible (by simp [initial, FuncPhase.hasStarted])
  active _ impossible := absurd impossible (by simp [initial, Phase.isActive])
  explained impossible := absurd rfl impossible
  neverLate := rfl
  ownFailures _ member := nomatch member

/-- If no cleanup overtakes a function that has started, no deadline is set for
an operation after its cleanup, and an operation fails by deadline only after
its own context has ended. -/
theorem deadline_untouched_after_cleanup (setup : Setup) (events : List Event) (final : State)
    (ran : run (step setup) initial events = some final)
    (settled : Along (step setup) CleanupFindsFuncSettled initial events) :
    final.late = [] ∧ ∀ failure ∈ final.failures, failure.ownContextDone = true := by
  have disciplined : Disciplined setup final :=
    invariant_along (Disciplined setup) step_disciplined (initial_disciplined setup) settled ran
  exact ⟨disciplined.neverLate, disciplined.ownFailures⟩

section Samples

def sampleSetup : Setup where
  contextOf op := op
  hasDeadline _ := true

def settledRun : List Event :=
  [.begin 0, .bind 0, .register 0, .pass 0, .ioDeadline 0, .startFunc 0,
    .funcLock 0, .funcSet 0, .stop 0, .cleanupLock 0, .cleanupSet 0,
    .release 0, .begin 1, .bind 1, .register 1, .ioEnds 1, .stop 1,
    .cleanupLock 1, .cleanupSet 1, .release 1]

theorem settledRun_keeps_deadlines : ∃ final,
      run (step sampleSetup) initial settledRun = some final ∧
        final.failures = [⟨0, true⟩] ∧ final.late = [] :=
  ⟨_, rfl, rfl, (deadline_untouched_after_cleanup sampleSetup settledRun _ rfl (by decide)).1⟩

/-- The context of a completed operation ends while its cleanup is about to
run. The function waits for the mutex, cleanup goes first, and the function
then sets the deadline of the next operation. -/
def overtakenRun : List Event :=
  [.begin 0, .bind 0, .register 0, .ioEnds 0, .cancel 0, .startFunc 0,
    .stop 0, .cleanupLock 0, .cleanupSet 0, .release 0, .begin 1, .bind 1,
    .register 1, .funcLock 0, .funcSet 0, .ioDeadline 1]

theorem overtaken_function_fails_next_operation : ∃ final,
      run (step sampleSetup) initial overtakenRun = some final ∧
        final.late = [0] ∧ final.failures = [⟨1, false⟩] ∧
        ¬ (final.late = [] ∧ ∀ failure ∈ final.failures, failure.ownContextDone = true) :=
  ⟨_, rfl, rfl, rfl, fun kept => absurd kept.1 (by decide)⟩

end Samples

end FitzGo.Transport.Deadline
