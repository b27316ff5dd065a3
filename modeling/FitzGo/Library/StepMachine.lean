import Mathlib.Logic.Basic

/-!
# Partial step machines and their runs

`step state event` is `none` when the event is not enabled. Conditions on the
environment are predicates of one step, read in the state before it, and `Along`
lifts such a predicate to every step of a run.
-/

namespace StepMachine

universe u v

variable {State : Type u} {Event : Type v}

/-- Feed a list of events; the run stops with `none` at the first event that
is not enabled. -/
def run (step : State → Event → Option State) : State → List Event → Option State
  | state, [] => some state
  | state, event :: rest => (step state event).bind fun next => run step next rest

/-- Every step of the run from `state` meets `condition`. -/
def Along (step : State → Event → Option State) (condition : State → Event → Prop) :
    State → List Event → Prop
  | _, [] => True
  | state, event :: rest =>
    condition state event ∧
      match step state event with
      | none => True
      | some next => Along step condition next rest

/-- The step function of a machine given by the enabled events of a state and
what each of them does. -/
def guarded (enabled : State → Event → Prop) [∀ state event, Decidable (enabled state event)]
    (next : State → Event → State) (state : State) (event : Event) : Option State :=
  if enabled state event then some (next state event) else none

variable {event : Event} {state final : State}

theorem guarded_eq_some_iff {enabled : State → Event → Prop}
    [∀ state event, Decidable (enabled state event)] {next : State → Event → State} :
    guarded enabled next state event = some final ↔
      enabled state event ∧ next state event = final := by
  unfold guarded
  rw [Option.ite_none_right_eq_some, Option.some.injEq]

@[simp]
theorem run_nil (step : State → Event → Option State) (state : State) :
    run step state [] = some state :=
  rfl

theorem run_cons (step : State → Event → Option State)
    (state : State) (event : Event) (rest : List Event) :
    run step state (event :: rest) = (step state event).bind fun next => run step next rest :=
  rfl

variable {step : State → Event → Option State} {rest : List Event}

theorem run_cons_eq_some
    (ran : run step state (event :: rest) = some final) :
    ∃ next, step state event = some next ∧ run step next rest = some final := by
  rw [run_cons] at ran
  exact Option.bind_eq_some_iff.mp ran

variable {condition : State → Event → Prop}

theorem along_cons_of_step {next : State}
    (stepped : step state event = some next) (along : Along step condition state (event :: rest)) :
    condition state event ∧ Along step condition next rest := by
  simpa only [Along, stepped] using along

/-- The invariant rule: what holds initially and is kept by every step that
meets the condition holds at the end of every run whose steps all meet it. -/
theorem invariant_along (invariant : State → Prop) (preserved : ∀ {state next event},
        invariant state →
        condition state event →
        step state event = some next →
        invariant next) :
    ∀ {events : List Event} {state final : State}, invariant state →
      Along step condition state events →
      run step state events = some final →
      invariant final
  | [], state, final, initial, _, ran => by
      rw [run_nil] at ran
      injection ran with same
      exact same ▸ initial
  | event :: rest, state, final, initial, along, ran => by
      obtain ⟨next, stepped, ranRest⟩ := run_cons_eq_some ran
      obtain ⟨met, alongRest⟩ := along_cons_of_step stepped along
      exact invariant_along invariant preserved (preserved initial met stepped) alongRest ranRest

variable {claim : State → Event → Prop}

/-- The rule for a claim about every step: it follows, at each step that meets
the condition, from the invariant. -/
theorem along_of_invariant {condition : State → Event → Prop} (invariant : State → Prop)
    (preserved : ∀ {state next event}, invariant state →
        condition state event →
        step state event = some next →
        invariant next)
    (claimed : ∀ {state next event}, invariant state →
        condition state event →
        step state event = some next →
        claim state event) :
    ∀ {events : List Event} {state final : State}, invariant state →
      Along step condition state events →
      run step state events = some final →
      Along step claim state events
  | [], _, _, _, _, _ => trivial
  | event :: rest, state, final, initial, along, ran => by
      obtain ⟨next, stepped, ranRest⟩ := run_cons_eq_some ran
      obtain ⟨met, alongRest⟩ := along_cons_of_step stepped along
      have claimedRest := along_of_invariant invariant preserved claimed
          (preserved initial met stepped) alongRest ranRest
      refine ⟨claimed initial met stepped, ?_⟩
      rw [stepped]
      exact claimedRest

theorem along_true (step : State → Event → Option State) :
    ∀ (state : State) (events : List Event), Along step (fun _ _ => True) state events
  | _, [] => trivial
  | state, event :: rest => by
      refine ⟨trivial, ?_⟩
      cases step state event with
      | none => trivial
      | some next => exact along_true step next rest

variable {events : List Event}

/-- The invariant rule for machines with no condition on the steps. -/
theorem invariant_of_run (invariant : State → Prop)
    (preserved : ∀ {state next event}, invariant state → step state event = some next →
      invariant next)
    (initial : invariant state) (ran : run step state events = some final) : invariant final :=
  invariant_along invariant (fun holds _ stepped => preserved holds stepped)
    initial (along_true step state events) ran

/-- A measure that no step raises, and that the counted events lower, bounds how
many of them a run has. -/
theorem countP_add_le_of_run (invariant : State → Prop) (measure : State → Nat)
    (counts : Event → Bool)
    (preserved : ∀ {state next event}, invariant state → step state event = some next →
      invariant next ∧ measure next + (if counts event then 1 else 0) ≤ measure state)
    (initial : invariant state)
    (ran : run step state events = some final) :
    events.countP counts + measure final ≤ measure state := by
  induction events generalizing state with
  | nil =>
    cases ran
    simp
  | cons event rest ih =>
    obtain ⟨next, stepped, ranRest⟩ := run_cons_eq_some ran
    obtain ⟨holds, lower⟩ := preserved initial stepped
    have bound := ih holds ranRest
    rw [List.countP_cons]
    omega

theorem run_append (step : State → Event → Option State)
    (state : State) (first second : List Event) :
    run step state (first ++ second) =
      (run step state first).bind fun middle => run step middle second := by
  induction first generalizing state with
  | nil => simp
  | cons event rest ih =>
    rw [List.cons_append, run_cons, run_cons, Option.bind_assoc]
    congr 1
    funext next
    exact ih next

/-- A run can be cut around one of its events. -/
theorem run_around_event {middle : State} {before after : List Event}
    (ran : run step state (before ++ event :: after) = some final)
    (ranBefore : run step state before = some middle) :
    ∃ following, step middle event = some following ∧ run step following after = some final := by
  rw [run_append, ranBefore] at ran
  exact run_cons_eq_some ran

theorem along_append {middle : State} {first second : List Event}
    (ran : run step state first = some middle)
    (along : Along step condition state (first ++ second)) :
    Along step condition state first ∧ Along step condition middle second := by
  induction first generalizing state with
  | nil =>
    rw [run_nil] at ran
    cases ran
    exact ⟨trivial, along⟩
  | cons event rest ih =>
    obtain ⟨next, stepped, ranRest⟩ := run_cons_eq_some ran
    obtain ⟨met, alongRest⟩ := along_cons_of_step stepped along
    obtain ⟨alongFirst, alongSecond⟩ := ih ranRest alongRest
    refine ⟨⟨met, ?_⟩, alongSecond⟩
    rw [stepped]
    exact alongFirst

/-- A condition may be replaced by one that follows from it for the events of
the run. -/
theorem along_mono {condition : State → Event → Prop}
    (follows : ∀ state, ∀ event ∈ events, condition state event → claim state event)
    (along : Along step condition state events) : Along step claim state events := by
  induction events generalizing state with
  | nil => trivial
  | cons event rest ih =>
    obtain ⟨met, alongRest⟩ := along
    refine ⟨follows state event List.mem_cons_self met, ?_⟩
    cases stepped : step state event with
    | none => trivial
    | some next =>
      rw [stepped] at alongRest
      have followsRest : ∀ state, ∀ event ∈ rest, condition state event → claim state event := by
        intro state event member
        exact follows state event (List.mem_cons_of_mem _ member)
      exact ih followsRest alongRest

theorem along_and {first second : State → Event → Prop}
    (alongFirst : Along step first state events) (alongSecond : Along step second state events) :
    Along step (fun state event => first state event ∧ second state event) state events := by
  induction events generalizing state with
  | nil => trivial
  | cons event rest ih =>
    refine ⟨⟨alongFirst.1, alongSecond.1⟩, ?_⟩
    cases stepped : step state event with
    | none => trivial
    | some next =>
      have restFirst := (along_cons_of_step stepped alongFirst).2
      have restSecond := (along_cons_of_step stepped alongSecond).2
      exact ih restFirst restSecond

instance decidableAlong (step : State → Event → Option State) (condition : State → Event → Prop)
    [∀ state event, Decidable (condition state event)] :
    ∀ (state : State) (events : List Event), Decidable (Along step condition state events)
  | _, [] => isTrue trivial
  | state, event :: rest =>
    @instDecidableAnd _ _ inferInstance <|
      match step state event with
      | none => isTrue trivial
      | some next => decidableAlong step condition next rest

/-- What a run on fixed inputs ends in can be computed. -/
instance decidableEndsIn (claim : State → Prop) [∀ final, Decidable (claim final)] :
    ∀ result : Option State, Decidable (∃ final, result = some final ∧ claim final)
  | none => isFalse nofun
  | some final => decidable_of_iff (claim final) (by simp)

/-! What is seen at the end of a run is evaluated; what every run keeps is added. -/

variable {result : Option State} {seen kept : State → Prop}

theorem exists_kept_and (evaluated : ∃ final, result = some final ∧ seen final)
    (keeps : ∀ final, result = some final → kept final) :
    ∃ final, result = some final ∧ kept final ∧ seen final := by
  obtain ⟨final, ran, holds⟩ := evaluated
  exact ⟨final, ran, keeps final ran, holds⟩

theorem exists_and_kept (evaluated : ∃ final, seen final)
    (keeps : ∀ final, seen final → kept final) : ∃ final, seen final ∧ kept final := by
  obtain ⟨final, holds⟩ := evaluated
  exact ⟨final, holds, keeps final holds⟩

end StepMachine
