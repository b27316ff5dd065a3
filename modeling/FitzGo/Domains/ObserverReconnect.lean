import FitzGo.Domains.ObserverReadiness

/-!
# Reconnects while an observer is set up

`RestoreSubscriptions` replaces the subscriptions and copies the reconnect hooks
in one section. `Observe` bootstraps first and registers its hook afterwards, so
a restore in between calls no hook of the observer.
-/

namespace FitzGo.Domains.ObserverReconnect

open StepMachine
open InventoryObserver (Inv Bounded viewPass)

variable {Entry : Type}

/-- Where `Observe` is: in `bootstrap`, which may also fail, before or after
`registerReconnectHook`. -/
inductive Observing
  | bootstrapping
  | bootstrapped
  | hooked
  deriving DecidableEq

/-- Where a restore is in its call of `onReconnect`. -/
inductive Stage
  | calling
  | marking
  | requesting
  | returned
  deriving DecidableEq

/-- A restore that replaced the map: how many LIST passes had started by then,
whether it has a copy of the observer's hook, and whether its call of the hook
left a request for a bootstrap. -/
structure Restore where
  passes : Nat
  hooked : Bool
  requested : Bool
  stage : Stage

/-- `restores` are those since the subscription of `Observe` is in the map. -/
structure State (Entry : Type) where
  observer : InventoryObserver.State Entry
  observing : Observing
  subscribed : Bool
  restores : List Restore

def initial : State Entry where
  observer := InventoryObserver.initial
  observing := .bootstrapping
  subscribed := false
  restores := []

inductive Event (Entry : Type)
  | observer (event : InventoryObserver.Event Entry)
  | registerReconnectHook
  | commit
  | hook (number : Nat)

/-- What happens without a reconnect. Nobody closes the observer. -/
def own : InventoryObserver.Event Entry → Bool
  | .unready false | .mark false | .request false | .beginClose | .close => false
  | _ => true

/-- The event is the end of the pass with which the bootstrap of `Observe`
succeeds. -/
def succeeds (observer : InventoryObserver.State Entry) : InventoryObserver.Event Entry → Bool
  | .listed .observe _ generation _ =>
    observer.subscriptionGeneration == generation && !observer.pendingInvalidation
  | _ => false

def Stage.section : Stage → Option (InventoryObserver.Event Entry × Stage)
  | .calling => some (.unready false, .marking)
  | .marking => some (.mark false, .requesting)
  | .requesting => some (.request false, .returned)
  | .returned => none

def State.commit (state : State Entry) : State Entry :=
  if state.subscribed then
    { state with
      restores := state.restores ++
        [{ passes := state.observer.passes
           hooked := decide (state.observing = .hooked)
           requested := false
           stage := if state.observing = .hooked then .calling else .returned }] }
  else state

def step (state : State Entry) : Event Entry → Option (State Entry)
  | .observer event =>
    if own event then
      (InventoryObserver.step state.observer event).map fun observer =>
        { state with
          observer := observer
          observing :=
            if succeeds state.observer event then .bootstrapped
            else state.observing
          subscribed :=
            match event with
            | .subscribed .observe => true
            | _ => state.subscribed }
    else none
  | .registerReconnectHook =>
    if state.observing = .bootstrapped then some { state with observing := .hooked }
    else none
  | .commit => some state.commit
  | .hook number =>
    match state.restores[number]? with
    | none => none
    | some restore =>
      match restore.stage.section with
      | none => none
      | some (event, stage) =>
        (InventoryObserver.step state.observer event).map fun observer =>
          { state with
            observer := observer
            restores := state.restores.set number { restore with
                requested := observer.recoveryRequested
                stage := stage } }

/-- No restore comes between the bootstrap of `Observe` and the registration of
its hook, or during the pass with which that bootstrap succeeds; and the
generation does not come back within a pass. -/
def Unmissed (state : State Entry) : Event Entry → Prop
  | .observer event =>
    Bounded state.observer event ∧
      (succeeds state.observer event = true →
        ∀ restore ∈ state.restores, ∀ number ∈ state.observer.pass, restore.passes ≤ number)
  | .commit => state.observing ≠ .bootstrapped
  | .hook _ => Bounded state.observer (.mark false)
  | .registerReconnectHook => True

instance (state : State Entry) (event : Event Entry) : Decidable (Unmissed state event) := by
  cases event <;> dsimp only [Unmissed] <;> infer_instance

/-! ## The invariant -/

def Shown (observer : InventoryObserver.State Entry) (restore : Restore) : Prop :=
  ∃ number, viewPass observer.history = some number ∧ restore.passes ≤ number

structure Noticed (state : State Entry) : Prop where
  inv : Inv state.observer
  opened : state.observer.closing = false
  shown : state.observing ≠ .bootstrapping → ∀ restore ∈ state.restores,
    restore.hooked = false → Shown state.observer restore
  called : ∀ restore ∈ state.restores, restore.hooked = true →
    restore.stage = .returned → restore.requested = true

section Steps

variable {observer after : InventoryObserver.State Entry}
variable {event : InventoryObserver.Event Entry} {restore : Restore}

theorem closing_of_step (stepped : InventoryObserver.step observer event = some after)
    (unclosed : event ≠ .beginClose) : after.closing = observer.closing := by
  obtain ⟨_, rfl⟩ := guarded_eq_some_iff.mp stepped
  cases event with
  | beginClose => exact absurd rfl unclosed
  | enterBootstrap caller => cases caller <;> rfl
  | listed | startRelist | relisted | handleNotify | request | loop | finishRecovery =>
    dsimp only [InventoryObserver.next, InventoryObserver.State.listed,
      InventoryObserver.State.startRelist, InventoryObserver.State.relisted,
      InventoryObserver.State.request, InventoryObserver.State.loop,
      InventoryObserver.State.finishRecovery]
    repeat' split
    all_goals rfl
  | _ => rfl

theorem Shown.step (shown : Shown observer restore) (inv : Inv observer)
    (stepped : InventoryObserver.step observer event = some after) : Shown after restore := by
  obtain ⟨number, stored, started⟩ := shown
  cases InventoryObserver.step_effect stepped with
  | quiet history ready => exact ⟨number, history ▸ stored, started⟩
  | noted item nothing trigger history ready =>
    refine ⟨number, ?_, started⟩
    rw [history, InventoryObserver.viewPass_concat_of_stored_eq_none nothing, stored]
  | installed kind newer pass history =>
    obtain ⟨_, listed⟩ := InventoryObserver.installed_of_viewPass stored
    have later := (inv.inPass pass).earlier _ _ listed
    refine ⟨newer, ?_, Nat.le_trans started (Nat.le_of_lt later)⟩
    rw [history, InventoryObserver.viewPass_concat_installed]

private theorem shown_of_succeeds (stepped : InventoryObserver.step observer event = some after)
    (success : succeeds observer event = true)
    (later : ∀ number ∈ observer.pass, restore.passes ≤ number) : Shown after restore := by
  obtain ⟨enabled, rfl⟩ := guarded_eq_some_iff.mp stepped
  cases event with
  | listed caller number generation entries =>
    cases caller with
    | observe =>
      have here : observer.refresh = some (.listing .observe number generation) := enabled
      simp only [succeeds, Bool.and_eq_true, beq_iff_eq, Bool.not_eq_true'] at success
      refine ⟨number, ?_, later number (by simp [InventoryObserver.State.pass, here])⟩
      simp [InventoryObserver.next, InventoryObserver.State.listed,
        InventoryObserver.State.install, InventoryObserver.State.leaveBootstrap,
        success, InventoryObserver.viewPass_concat_installed]
    | recovery needsSubscribe => cases success
  | _ => cases success

end Steps

section Runs

variable {state next : State Entry}

private theorem noticed_initial : Noticed (initial : State Entry) where
  inv := InventoryObserver.initial_inv
  opened := rfl
  shown := nofun
  called := nofun

theorem Noticed.commit (noticed : Noticed state)
    (unmissed : state.observing ≠ .bootstrapped) : Noticed state.commit := by
  unfold State.commit
  split
  · refine { noticed with shown := ?_, called := ?_ }
    · intro observed restore member unhooked
      rcases List.mem_append.mp member with old | new
      · exact noticed.shown observed restore old unhooked
      · cases List.mem_singleton.mp new
        cases phase : state.observing with
        | bootstrapping => exact absurd phase observed
        | bootstrapped => exact absurd phase unmissed
        | hooked =>
          rw [phase] at unhooked
          cases unhooked
    · intro restore member hooked returned
      rcases List.mem_append.mp member with old | new
      · exact noticed.called restore old hooked returned
      · cases List.mem_singleton.mp new
        have phase : state.observing = .hooked := of_decide_eq_true hooked
        rw [if_pos phase] at returned
        cases returned
  · exact noticed

theorem Noticed.hook (noticed : Noticed state) {number : Nat} {restore : Restore}
    {event : InventoryObserver.Event Entry} {stage : Stage}
    {observer : InventoryObserver.State Entry} (bounded : Bounded state.observer (.mark false))
    (here : state.restores[number]? = some restore)
    (runs : restore.stage.section = some (event, stage))
    (stepped : InventoryObserver.step state.observer event = some observer) :
    Noticed { state with
      observer := observer
      restores := state.restores.set number
        { restore with requested := observer.recoveryRequested, stage := stage } } := by
  have bound : Bounded state.observer event ∧ event ≠ .beginClose ∧
      (stage = .returned → observer.recoveryRequested = true) := by
    obtain ⟨_, rfl⟩ := guarded_eq_some_iff.mp stepped
    cases at_ : restore.stage <;> rw [at_] at runs <;> cases runs
    · exact ⟨trivial, nofun, nofun⟩
    · exact ⟨bounded, nofun, nofun⟩
    · refine ⟨trivial, nofun, fun _ => ?_⟩
      simp [InventoryObserver.next, InventoryObserver.State.request, noticed.opened]
  have present : restore ∈ state.restores := List.mem_of_getElem? here
  exact
    { inv := InventoryObserver.step_inv noticed.inv bound.1 stepped
      opened := (closing_of_step stepped bound.2.1).trans noticed.opened
      shown := by
        intro observed other member unhooked
        rcases List.mem_or_eq_of_mem_set member with old | rfl
        · exact (noticed.shown observed other old unhooked).step noticed.inv stepped
        · exact (noticed.shown observed restore present unhooked).step noticed.inv stepped
      called := by
        intro other member hooked returned
        rcases List.mem_or_eq_of_mem_set member with old | rfl
        · exact noticed.called other old hooked returned
        · exact bound.2.2 returned }

private theorem step_noticed {event : Event Entry} (noticed : Noticed state)
    (unmissed : Unmissed state event) (stepped : step state event = some next) : Noticed next := by
  cases event with
  | observer event =>
    simp only [step] at stepped
    split at stepped
    next owned =>
      obtain ⟨observer, moved, rfl⟩ := Option.map_eq_some_iff.mp stepped
      have open_ : event ≠ .beginClose := by
        rintro rfl
        cases owned
      refine { noticed with
        inv := InventoryObserver.step_inv noticed.inv unmissed.1 moved
        opened := (closing_of_step moved open_).trans noticed.opened
        shown := fun observed restore member unhooked => ?_ }
      dsimp only at observed
      split at observed
      next success => exact shown_of_succeeds moved success (unmissed.2 success restore member)
      · exact (noticed.shown observed restore member unhooked).step noticed.inv moved
    · cases stepped
  | registerReconnectHook =>
    simp only [step] at stepped
    split at stepped
    next phase =>
      cases stepped
      refine { noticed with shown := fun _ => noticed.shown ?_ }
      rw [phase]
      nofun
    · cases stepped
  | commit =>
    cases stepped
    exact noticed.commit unmissed
  | hook number =>
    simp only [step] at stepped
    split at stepped
    · cases stepped
    next restore here =>
      split at stepped
      · cases stepped
      next event stage runs =>
        obtain ⟨observer, moved, rfl⟩ := Option.map_eq_some_iff.mp stepped
        exact noticed.hook unmissed here runs moved

end Runs

/-- In every run in which no restore is missed: once `Observe` has registered
its hook, every restore since its subscription is in the map has left a request
for a bootstrap when it returns, or the view is of a LIST pass that started
after it. -/
theorem reconnects_are_noticed {events : List (Event Entry)} {final : State Entry}
    (met : Along step Unmissed initial events) (ran : run step initial events = some final)
    (observed : final.observing = .hooked) {restore : Restore}
    (listed : restore ∈ final.restores) (returned : restore.stage = .returned) :
    restore.requested = true ∨ ∃ number, viewPass final.observer.history = some number ∧
      .passStarted number ∈ final.observer.history ∧ restore.passes ≤ number := by
  have noticed := invariant_along Noticed step_noticed noticed_initial met ran
  cases hooked : restore.hooked with
  | true => exact Or.inl (noticed.called restore listed hooked returned)
  | false =>
    have done : final.observing ≠ .bootstrapping := by
      rw [observed]
      nofun
    obtain ⟨number, stored, later⟩ := noticed.shown done restore listed hooked
    exact Or.inr ⟨number, stored, InventoryObserver.started_of_viewPass
      noticed.inv.recorded.fresh stored, later⟩

def subscribing : List (Event Unit) :=
  [.observer (.enterBootstrap .observe), .observer (.beginBootstrap .observe),
    .observer (.subscribed .observe)]

def listing : List (Event Unit) :=
  [.observer (.startPass .observe), .observer (.listed .observe 0 1 [])]

def noticedRun : List (Event Unit) :=
  subscribing ++ .commit :: listing ++ [.registerReconnectHook, .commit, .hook 1, .hook 1, .hook 1]

theorem noticedRun_is_noticed : ∃ final, run step (initial : State Unit) noticedRun = some final ∧
      ∀ restore ∈ final.restores, restore.requested = true ∨
      ∃ number, viewPass final.observer.history = some number ∧
      .passStarted number ∈ final.observer.history ∧ restore.passes ≤ number := by
  have met : Along step Unmissed (initial : State Unit) noticedRun := by
    decide +kernel
  obtain ⟨final, ran, hooked, returned⟩ :
      ∃ final, run step (initial : State Unit) noticedRun = some final ∧ final.observing = .hooked ∧
        ∀ restore ∈ final.restores, restore.stage = .returned := by
    decide +kernel
  exact ⟨final, ran, fun restore listed =>
    reconnects_are_noticed met ran hooked listed (returned restore listed)⟩

/-- A restore comes after the LIST pass and before the hook is registered. -/
def missedRun : List (Event Unit) :=
  subscribing ++ listing ++ [.commit, .registerReconnectHook]

/-- The restore is over, it has left no request, nothing else is going on, and
the observer is ready with a view of the only pass, which started before it. -/
theorem reconnect_before_the_hook_is_lost :
    ∃ final, run step (initial : State Unit) missedRun = some final ∧
      final.observing = .hooked ∧ final.observer.ready = true ∧
      final.observer.recovery = .idle ∧ final.observer.recoveryRequested = false ∧
      final.observer.reconcileRequested = false ∧
      ∃ restore ∈ final.restores, restore.stage = .returned ∧
      restore.requested = false ∧ viewPass final.observer.history = some 0 ∧
      ¬ restore.passes ≤ 0 := by
  decide +kernel

end FitzGo.Domains.ObserverReconnect
