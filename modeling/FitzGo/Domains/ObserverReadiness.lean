import FitzGo.Domains.InventoryObserver

/-!
# Readiness of the inventory observer

A trigger clears `ready` under `mu` and marks the observer under `bootstrapMu`.
A pass that ends between the two stores its view and sets `ready` again.
`reconcileView` takes its request back before the LIST that is to serve it.
-/

namespace FitzGo.Domains.InventoryObserver

open StepMachine Histories

variable {Entry : Type}

/-! ## The pass of the stored view -/

def Item.stored : Item → Option Nat
  | .installed _ number => some number
  | .invalidated | .triggered | .resubscribed | .passStarted _ => none

def viewPass (history : List Item) : Option Nat :=
  (history.filterMap Item.stored).getLast?

theorem viewPass_concat (history : List Item) (item : Item) :
    viewPass (history ++ [item]) = item.stored.or (viewPass history) := by
  unfold viewPass
  rw [List.filterMap_append]
  cases stored : item.stored with
  | _ => simp [stored]

variable {history : List Item} {item : Item}

theorem viewPass_concat_of_stored_eq_none
    (nothing : item.stored = none) : viewPass (history ++ [item]) = viewPass history := by
  rw [viewPass_concat, nothing, Option.none_or]

theorem viewPass_concat_installed (history : List Item) (kind : Kind) (number : Nat) :
    viewPass (history ++ [.installed kind number]) = some number := by
  rw [viewPass_concat]
  rfl

variable {number : Nat}

theorem installed_of_viewPass (stored : viewPass history = some number) :
    ∃ kind, .installed kind number ∈ history := by
  have listed : number ∈ history.filterMap Item.stored := List.mem_of_getLast? stored
  obtain ⟨item, member, found⟩ := List.mem_filterMap.mp listed
  cases item with
  | installed kind other =>
    cases found
    exact ⟨kind, member⟩
  | _ => cases found

section

variable (fresh : Throughout Fresh history)
include fresh

theorem started_of_viewPass (stored : viewPass history = some number) :
    .passStarted number ∈ history := by
  obtain ⟨kind, listed⟩ := installed_of_viewPass stored
  obtain ⟨before, after, split⟩ := List.append_of_mem listed
  have pass : FreshPass before kind number := fresh before _ after split
  rw [split]
  exact List.mem_append_left _ pass.started

/-- The item came after the pass of the stored view had started. -/
def Overtaken (item : Item) (history : List Item) : Prop :=
  ∃ number, viewPass history = some number ∧ item ∈ since (.passStarted number) history

instance (item : Item) (history : List Item) : Decidable (Overtaken item history) :=
  match stored : viewPass history with
  | none => isFalse fun ⟨number, here, _⟩ => by
      rw [stored] at here
      cases here
  | some number =>
    decidable_of_iff (item ∈ since (.passStarted number) history) <| by
      constructor
      · exact fun listed => ⟨number, stored, listed⟩
      · rintro ⟨other, here, listed⟩
        rw [stored] at here
        cases here
        exact listed

private theorem overtaken_concat_iff {last : Item} (nothing : last.stored = none) :
    Overtaken item (history ++ [last]) ↔ Overtaken item history ∨
      item = last ∧ (viewPass history).isSome = true := by
  unfold Overtaken
  rw [viewPass_concat_of_stored_eq_none nothing]
  constructor
  · rintro ⟨number, stored, listed⟩
    have started := started_of_viewPass fresh stored
    rw [since_concat_of_mem started, List.mem_append, List.mem_singleton] at listed
    rcases listed with old | same
    · exact Or.inl ⟨number, stored, old⟩
    · exact Or.inr ⟨same, by simp [stored]⟩
  · rintro (⟨number, stored, old⟩ | ⟨rfl, present⟩)
    · refine ⟨number, stored, ?_⟩
      rw [since_concat_of_mem (started_of_viewPass fresh stored)]
      exact List.mem_append_left _ old
    · obtain ⟨number, stored⟩ := Option.isSome_iff_exists.mp present
      refine ⟨number, stored, ?_⟩
      rw [since_concat_of_mem (started_of_viewPass fresh stored)]
      simp

theorem not_overtaken_concat {last : Item} (nothing : last.stored = none) (different : item ≠ last)
    (current : ¬ Overtaken item history) : ¬ Overtaken item (history ++ [last]) := by
  rw [overtaken_concat_iff fresh nothing]
  rintro (old | ⟨same, _⟩)
  · exact current old
  · exact different same

end

theorem not_overtaken_installed {kind : Kind} (pass : FreshPass history kind number)
    (absent : item ∉ since (.passStarted number) history) (nothing : item.stored = none) :
    ¬ Overtaken item (history ++ [.installed kind number]) := by
  rintro ⟨other, stored, listed⟩
  rw [viewPass_concat_installed] at stored
  cases stored
  rw [since_concat_of_mem pass.started, List.mem_append, List.mem_singleton] at listed
  rcases listed with old | rfl
  · exact absent old
  · cases nothing

/-! ## What a step does to the view -/

section Steps

variable {state after : State Entry} {event : Event Entry}

def State.pass (state : State Entry) : Option Nat :=
  match state.refresh with
  | some (.listing _ number _) | some (.relisting number) => some number
  | _ => none

variable {number : Nat}

theorem Inv.inPass (inv : Inv state) (pass : state.pass = some number) :
    InPass state.passes state.history number := by
  unfold State.pass at pass
  split at pass
  next here =>
    cases pass
    exact (inv.active _ here).inPass
  next here =>
    cases pass
    exact (inv.active _ here).inPass
  · cases pass

inductive Effect (before : State Entry) (event : Event Entry) (after : State Entry) : Prop
  | quiet (history : after.history = before.history)
      (ready : after.ready = true → before.ready = true)
  | noted (item : Item) (nothing : item.stored = none)
      (trigger : item = .triggered → ∃ subscribe, event = .mark subscribe)
      (history : after.history = before.history ++ [item])
      (ready : after.ready = before.ready)
  | installed (kind : Kind) (number : Nat) (pass : before.pass = some number)
      (history : after.history = before.history ++ [.installed kind number])

private theorem listed_effect {caller : Caller} {generation : UInt64}
    (here : state.refresh = some (.listing caller number generation))
    (entries : List (Bytes × Entry)) :
    Effect state event (state.listed caller number generation entries) := by
  unfold State.listed
  split
  · exact .quiet rfl id
  · split
    · exact .quiet rfl id
    · exact .installed .bootstrap number (by rw [State.pass, here]) rfl

private theorem startRelist_effect : Effect state event state.startRelist := by
  unfold State.startRelist
  split
  · exact .quiet rfl id
  · exact .noted (.passStarted state.passes) rfl nofun rfl rfl

private theorem relisted_effect (here : state.refresh = some (.relisting number))
    (entries : List (Bytes × Entry)) : Effect state event (state.relisted number entries) := by
  unfold State.relisted
  split
  · exact .quiet rfl id
  · split
    · exact .quiet rfl id
    · exact .installed .reconcile number (by rw [State.pass, here]) rfl

theorem step_effect (stepped : step state event = some after) : Effect state event after := by
  obtain ⟨enabled, rfl⟩ := guarded_eq_some_iff.mp stepped
  cases event with
  | enterBootstrap caller => cases caller <;> exact .quiet rfl id
  | subscribed caller => exact .noted .resubscribed rfl nofun rfl rfl
  | startPass caller => exact .noted (.passStarted state.passes) rfl nofun rfl rfl
  | listed caller number generation entries => exact listed_effect enabled entries
  | startRelist => exact startRelist_effect
  | relisted number entries => exact relisted_effect enabled entries
  | invalidate => exact .noted .invalidated rfl nofun rfl rfl
  | unready subscribe => exact .quiet rfl nofun
  | mark subscribe => exact .noted .triggered rfl (fun _ => ⟨subscribe, rfl⟩) rfl rfl
  | handleNotify | request | loop | finishRecovery =>
    dsimp only [next, State.request, State.loop, State.finishRecovery]
    repeat' split
    all_goals exact .quiet rfl id
  | _ => exact .quiet rfl id

/-! ## Triggers -/

/-- When a trigger marks the observer, no view has been stored since it
withdrew readiness; and the generation does not come back within a pass. -/
def Withdrawn (state : State Entry) : Event Entry → Prop
  | .mark subscribe => state.ready = false ∧ Bounded state (.mark subscribe)
  | _ => True

instance (state : State Entry) (event : Event Entry) : Decidable (Withdrawn state event) := by
  rcases event with ⟨⟩ <;> dsimp only [Withdrawn] <;> infer_instance

theorem Withdrawn.bounded (met : Withdrawn state event) : Bounded state event := by
  cases event with
  | mark subscribe => exact met.2
  | _ => trivial

/-- What is exposed as ready is a view that no trigger has overtaken. -/
structure Trusted (state : State Entry) : Prop where
  inv : Inv state
  stored : state.ready = true → (viewPass state.history).isSome = true
  current : state.ready = true → ¬ Overtaken .triggered state.history

theorem initial_trusted : Trusted (initial : State Entry) where
  inv := initial_inv
  stored := nofun
  current := nofun

theorem step_trusted (trusted : Trusted state) (met : Withdrawn state event)
    (stepped : step state event = some after) : Trusted after := by
  have inv := step_inv trusted.inv met.bounded stepped
  have fresh := trusted.inv.recorded.fresh
  cases step_effect stepped with
  | quiet history ready =>
    refine ⟨inv, fun now => ?_, fun now => ?_⟩
    · rw [history]
      exact trusted.stored (ready now)
    · rw [history]
      exact trusted.current (ready now)
  | noted item nothing trigger history ready =>
    refine ⟨inv, fun now => ?_, fun now => ?_⟩
    · rw [history, viewPass_concat_of_stored_eq_none nothing]
      exact trusted.stored (ready ▸ now)
    · rw [history]
      rw [ready] at now
      refine not_overtaken_concat fresh nothing ?_ (trusted.current now)
      -- The step of a trigger is taken only while `ready` is unset.
      intro same
      obtain ⟨subscribe, rfl⟩ := trigger same.symm
      rw [met.1] at now
      cases now
  | installed kind number _ history =>
    have stored := inv.recorded.fresh
    rw [history] at stored
    have pass : FreshPass state.history kind number := (throughout_concat_iff.mp stored).2
    refine ⟨inv, fun _ => ?_, fun _ => ?_⟩
    · rw [history, viewPass_concat_installed]
      rfl
    · rw [history]
      exact not_overtaken_installed pass pass.triggers rfl

end Steps

/-- In every run in which no view is stored between the two sections of a
trigger, a view that is exposed as ready is of a pass that started after every
trigger so far. -/
theorem ready_views_follow_the_triggers {events : List (Event Entry)} {final : State Entry}
    (met : Along step Withdrawn initial events) (ran : run step initial events = some final)
    (ready : final.ready = true) :
    ∃ number, viewPass final.history = some number ∧
      .passStarted number ∈ final.history ∧
      .triggered ∉ since (.passStarted number) final.history := by
  have trusted := invariant_along Trusted step_trusted initial_trusted met ran
  obtain ⟨number, stored⟩ := Option.isSome_iff_exists.mp (trusted.stored ready)
  refine ⟨number, stored, ?_, fun listed => ?_⟩
  · exact started_of_viewPass trusted.inv.recorded.fresh stored
  · exact trusted.current ready ⟨number, stored, listed⟩

def recoveredRun : List (Event Unit) :=
  [.enterBootstrap .observe, .beginBootstrap .observe, .subscribed .observe,
    .startPass .observe, .listed .observe 0 1 [],
    .unready false, .mark false, .request false, .loop,
    .enterBootstrap (.recovery false), .beginBootstrap (.recovery false),
    .startPass (.recovery false), .listed (.recovery false) 1 2 []]

theorem recoveredRun_follows_the_trigger : ∃ final, run step initial recoveredRun = some final ∧
      final.ready = true ∧ .triggered ∈ final.history ∧
      ∃ number, viewPass final.history = some number ∧
        .passStarted number ∈ final.history ∧
        .triggered ∉ since (.passStarted number) final.history := by
  simp only [← and_assoc]
  apply exists_and_kept
  · simp only [and_assoc]
    decide +kernel
  · rintro final ⟨⟨ran, ready⟩, -⟩
    simp only [and_assoc]
    exact ready_views_follow_the_triggers (by decide +kernel) ran ready

def relistingRun : List (Event Unit) :=
  [.enterBootstrap .observe, .beginBootstrap .observe, .subscribed .observe,
    .startPass .observe, .listed .observe 0 1 [], .invalidate, .handleNotify,
    .enterReconcile, .startRelist]

/-- A trigger, from its start until it has returned; the LIST ends after its
first section. -/
def racedTrigger : List (Event Unit) :=
  [.unready false, .relisted 1 [], .mark false, .request false]

/-- A pass that started before a trigger leaves the observer ready after the
trigger has returned. -/
theorem overtaken_pass_stays_ready : ∃ middle final, run step initial relistingRun = some middle ∧
      .passStarted 1 ∈ middle.history ∧ .triggered ∉ middle.history ∧
      middle.marking = [] ∧
      run step middle racedTrigger = some final ∧
      final.marking = [] ∧ final.requesting = [] ∧
      final.ready = true ∧ viewPass final.history = some 1 ∧
      .triggered ∈ since (.passStarted 1) final.history := by
  refine ⟨_, _, rfl, ?_, ?_, rfl, rfl, rfl, rfl, rfl, ?_, ?_⟩
  · decide
  · decide
  · decide
  · decide

/-! ## Invalidations -/

def Activity.bootstraps : Activity → Bool
  | .subscribing _ | .preparing _ | .listing _ _ _ => true
  | .entered _ | .reconciling | .relisting _ => false

def Activity.serves : Activity → Bool
  | .entered _ | .subscribing _ | .preparing _ | .listing _ _ _
  | .relisting _ => true
  | .reconciling => false

variable {activity : Activity}

theorem Activity.serves_of_bootstraps
    (bootstraps : activity.bootstraps = true) : activity.serves = true := by
  cases activity with
  | subscribing caller => rfl
  | preparing caller => rfl
  | listing caller number generation => rfl
  | _ => cases bootstraps

def Activity.caller : Activity → Option Caller
  | .entered caller | .subscribing caller | .preparing caller
  | .listing caller _ _ => some caller
  | .reconciling | .relisting _ => none

def Recovery.retries : Recovery → Bool
  | .looping | .waiting _ | .returned _ true => true
  | .idle | .bootstrapping _ | .returned _ false => false

/-- The LIST of a reconcile fails only when nothing is lost by it: the exposed
view is not overtaken, or another pass is asked for. No view is stored between
the two sections of a trigger. -/
def Kept (state : State Entry) : Event Entry → Prop
  | .relistFailed _ => state.closed = false → state.ready = true →
    Overtaken .invalidated state.history →
    state.reconcileRequested = true ∨ state.recovery.retries = true
  | event => Withdrawn state event

instance (state : State Entry) (event : Event Entry) : Decidable (Kept state event) := by
  rcases event with ⟨⟩ <;> dsimp only [Kept] <;> infer_instance

/-- Another LIST pass is asked for, going on, or will come. -/
def Served (state : State Entry) : Prop :=
  state.reconcileRequested = true ∨
    (∃ activity, state.refresh = some activity ∧ activity.serves = true) ∨
    state.recovery.retries = true

/-- While the observer is ready, a bootstrap that buffers invalidations is one
that goes on, and a view that an invalidation has overtaken will be replaced. -/
structure Pursued (state : State Entry) : Prop where
  observed : state.observed = true
  observing : ∀ activity, state.refresh = some activity →
    activity.caller = some .observe → state.ready = false
  generation : ∀ caller number generation,
    state.refresh = some (.listing caller number generation) →
    state.subscriptionGeneration ≠ generation → state.ready = false
  bootstrapping : state.bootstrapping = true → state.ready = true →
    ∃ activity, state.refresh = some activity ∧ activity.bootstraps = true
  stale : state.closed = false → state.ready = true →
    Overtaken .invalidated state.history → Served state

section Pursuit

variable {state after : State Entry} {event : Event Entry}

theorem Kept.withdrawn (met : Kept state event) : Withdrawn state event := by
  cases event with
  | mark subscribe => exact met
  | _ => trivial

theorem pursued_of_unready (observed : after.observed = true)
    (unready : after.ready = false) : Pursued after where
  observed := observed
  observing _ _ _ := unready
  generation _ _ _ _ _ := unready
  bootstrapping _ ready := by
    rw [unready] at ready
    cases ready
  stale _ ready := by
    rw [unready] at ready
    cases ready

theorem pursued_of_bootstraps (activity : Activity) (observed : after.observed = true)
    (here : after.refresh = some activity) (bootstraps : activity.bootstraps = true)
    (observing : activity.caller = some .observe → after.ready = false)
    (generation : ∀ caller number generation, activity = .listing caller number generation →
      after.subscriptionGeneration = generation) : Pursued after where
  observed := observed
  observing other now := by
    rw [here] at now
    cases now
    exact observing
  generation caller number started now different := by
    rw [here] at now
    cases now
    exact absurd (generation caller number started rfl) different
  bootstrapping _ _ := ⟨activity, here, bootstraps⟩
  stale _ _ _ := Or.inr (Or.inl ⟨activity, here, Activity.serves_of_bootstraps bootstraps⟩)

theorem pursued_of_quiet (observed : after.observed = true)
    (quiet : after.refresh.bind Activity.caller = none)
    (bootstrapping : after.bootstrapping = true → after.ready = false)
    (stale : after.closed = false → after.ready = true →
      Overtaken .invalidated after.history → Served after) : Pursued after where
  observed := observed
  observing activity now caller := by
    rw [now] at quiet
    cases quiet.symm.trans caller
  generation caller number started now := by
    rw [now] at quiet
    cases quiet
  bootstrapping now ready := by
    rw [bootstrapping now] at ready
    cases ready
  stale := stale

section

variable (pursued : Pursued state)
include pursued

theorem Pursued.unready
    (settled : ∀ activity, state.refresh = some activity → activity.bootstraps = false)
    (bootstrapping : state.bootstrapping = true) : state.ready = false := by
  by_contra ready
  rw [Bool.not_eq_false] at ready
  obtain ⟨activity, here, bootstraps⟩ := pursued.bootstrapping bootstrapping ready
  rw [settled activity here] at bootstraps
  cases bootstraps

theorem Pursued.served
    (settled : ∀ activity, state.refresh = some activity → activity.serves = false)
    (opened : state.closed = false) (ready : state.ready = true)
    (overtaken : Overtaken .invalidated state.history) :
    state.reconcileRequested = true ∨ state.recovery.retries = true := by
  rcases pursued.stale opened ready overtaken with
    requested | ⟨activity, here, serves⟩ | retries
  · exact Or.inl requested
  · rw [settled activity here] at serves
    cases serves
  · exact Or.inr retries

theorem Pursued.keep (flags : after.flags = state.flags) (refresh : after.refresh = state.refresh)
    (ready : after.ready = state.ready) (observed : after.observed = state.observed)
    (opened : after.closed = false → state.closed = false)
    (retries : after.closed = false → state.recovery.retries = true →
      after.recovery.retries = true) : Pursued after := by
  simp only [State.flags, Prod.mk.injEq] at flags
  obtain ⟨⟨bootstrapping, _, requested, generation⟩, _, history⟩ := flags
  refine ⟨?_, ?_, ?_, ?_, fun now exposed overtaken => ?_⟩
  · rw [observed]
    exact pursued.observed
  · rw [refresh, ready]
    exact pursued.observing
  · rw [refresh, ready, generation]
    exact pursued.generation
  · rw [refresh, ready, bootstrapping]
    exact pursued.bootstrapping
  · rw [ready] at exposed
    rw [history] at overtaken
    rcases pursued.stale (opened now) exposed overtaken with
      asked | ⟨activity, here, serves⟩ | again
    · exact Or.inl (requested.trans asked)
    · exact Or.inr (Or.inl ⟨activity, refresh.trans here, serves⟩)
    · exact Or.inr (Or.inr (retries now again))

variable {caller : Caller}

private theorem leaveBootstrap_pursued (here : state.refresh = some activity)
    (called : activity.caller = some caller) :
    Pursued { state.leaveBootstrap caller true with bootstrapping := false } := by
  refine pursued_of_quiet pursued.observed rfl nofun fun _ ready _ => ?_
  cases caller with
  | observe =>
    have unready := pursued.observing activity here called
    rw [show state.ready = true from ready] at unready
    cases unready
  | recovery needsSubscribe => exact Or.inr (Or.inr rfl)

private theorem beginBootstrap_pursued
    (here : state.refresh = some (.entered caller)) : Pursued (state.beginBootstrap caller) := by
  have observing : some caller = some .observe → state.ready = false :=
    pursued.observing (.entered caller) here
  by_cases subscribes : caller.subscribe = true
  · have now : (state.beginBootstrap caller).refresh = some (.subscribing caller) := by
      simp [State.beginBootstrap, subscribes]
    exact pursued_of_bootstraps (.subscribing caller) pursued.observed now rfl observing (by simp)
  · have now : (state.beginBootstrap caller).refresh = some (.preparing caller) := by
      simp [State.beginBootstrap, subscribes]
    exact pursued_of_bootstraps (.preparing caller) pursued.observed now rfl observing (by simp)

end

variable {number : Nat}

theorem Trusted.installed_current (trusted : Trusted after) {kind : Kind}
    (installed : after.history = history ++ [.installed kind number]) :
    ¬ Overtaken .invalidated after.history := by
  have stored := trusted.inv.recorded.fresh
  rw [installed] at stored ⊢
  have pass : FreshPass history kind number := (throughout_concat_iff.mp stored).2
  exact not_overtaken_installed pass pass.invalidations rfl

section

variable (pursued : Pursued state)
include pursued

variable {entries : List (Bytes × Entry)}

theorem listed_pursued {generation : UInt64}
    (here : state.refresh = some (.listing caller number generation))
    (trusted : Trusted (state.listed caller number generation entries)) :
    Pursued (state.listed caller number generation entries) := by
  unfold State.listed at trusted ⊢
  split at trusted
  · rename_i different
    rw [if_pos different]
    -- A trigger has come during the pass, and nothing was stored since.
    exact pursued_of_unready pursued.observed
      (pursued.generation caller number generation here different)
  · rename_i same
    rw [if_neg same]
    split at trusted
    · rename_i pending
      rw [if_pos pending]
      exact pursued_of_bootstraps (.preparing caller) pursued.observed rfl rfl
        (pursued.observing (.listing caller number generation) here) nofun
    · rename_i settled
      rw [if_neg settled]
      refine pursued_of_quiet pursued.observed rfl nofun fun _ _ overtaken => ?_
      exact absurd overtaken (trusted.installed_current rfl)

theorem startRelist_pursued
    (here : state.refresh = some .reconciling) : Pursued state.startRelist := by
  have settled : ∀ activity, state.refresh = some activity →
      activity.bootstraps = false ∧ activity.serves = false := by
    intro activity now
    rw [here] at now
    cases now
    exact ⟨rfl, rfl⟩
  have unready := pursued.unready fun activity now => (settled activity now).1
  have served := pursued.served fun activity now => (settled activity now).2
  unfold State.startRelist
  split
  · refine pursued_of_quiet pursued.observed rfl unready fun opened ready overtaken => ?_
    rcases served opened ready overtaken with requested | retries
    · exact Or.inl requested
    · exact Or.inr (Or.inr retries)
  · refine pursued_of_quiet pursued.observed rfl unready fun _ _ _ => ?_
    exact Or.inr (Or.inl ⟨_, rfl, rfl⟩)

theorem relisted_pursued
    (here : state.refresh = some (.relisting number))
    (trusted : Trusted (state.relisted number entries)) :
    Pursued (state.relisted number entries) := by
  have unready : state.bootstrapping = true → state.ready = false := by
    refine pursued.unready fun activity now => ?_
    rw [here] at now
    cases now
    rfl
  unfold State.relisted at trusted ⊢
  split at trusted
  · rename_i bootstrapping
    rw [if_pos bootstrapping]
    exact pursued_of_unready pursued.observed (unready bootstrapping)
  · rename_i steady
    rw [if_neg steady]
    split at trusted
    · rename_i requested
      rw [if_pos requested]
      refine pursued_of_quiet pursued.observed rfl unready fun _ _ _ => ?_
      exact Or.inl requested
    · rename_i unrequested
      rw [if_neg unrequested]
      refine pursued_of_quiet pursued.observed rfl
        (fun bootstrapping => absurd bootstrapping steady) fun _ _ overtaken => ?_
      exact absurd overtaken (trusted.installed_current rfl)

theorem invalidate_pursued : Pursued state.invalidate :=
  { pursued with
    stale _ ready _ := by
      by_cases bootstrapping : state.bootstrapping = true
      · obtain ⟨activity, here, bootstraps⟩ := pursued.bootstrapping bootstrapping ready
        exact Or.inr (Or.inl ⟨activity, here, Activity.serves_of_bootstraps bootstraps⟩)
      · refine Or.inl ?_
        simp [State.invalidate, bootstrapping] }

end

theorem step_pursued (trusted : Trusted state) (pursued : Pursued state)
    (met : Kept state event) (stepped : step state event = some after) : Pursued after := by
  have trustedAfter := step_trusted trusted met.withdrawn stepped
  obtain ⟨enabled, rfl⟩ := guarded_eq_some_iff.mp stepped
  cases event with
  | enterBootstrap caller =>
    have free : ∀ activity, state.refresh = some activity → activity.bootstraps = false := by
      intro activity now
      cases caller <;> rw [enabled.1] at now <;> cases now
    cases caller with
    | observe =>
      have again := pursued.observed.symm.trans enabled.2
      cases again
    | recovery needsSubscribe =>
      refine ⟨pursued.observed, nofun, nofun, fun bootstrapping ready => ?_,
        fun _ _ _ => Or.inr (Or.inl ⟨_, rfl, rfl⟩)⟩
      have unready := pursued.unready free bootstrapping
      rw [show state.ready = true from ready] at unready
      cases unready
  | beginBootstrap caller => exact beginBootstrap_pursued pursued enabled
  | subscribed caller =>
    exact pursued_of_bootstraps (.preparing caller) pursued.observed rfl rfl
      (pursued.observing (.subscribing caller) enabled) nofun
  | subscribeFailed | listFailed => exact leaveBootstrap_pursued pursued enabled rfl
  | startPass caller =>
    refine pursued_of_bootstraps (.listing caller state.passes state.subscriptionGeneration)
      pursued.observed rfl rfl
      (pursued.observing (.preparing caller) enabled)
      fun caller number generation now => ?_
    cases now
    rfl
  | listed caller number generation entries => exact listed_pursued pursued enabled trustedAfter
  | enterReconcile =>
    have free : ∀ activity, state.refresh = some activity →
        activity.bootstraps = false ∧ activity.serves = false := by
      intro activity now
      rw [enabled.1] at now
      cases now
    refine pursued_of_quiet pursued.observed rfl
      (pursued.unready fun activity now => (free activity now).1)
      fun opened ready overtaken => ?_
    rcases pursued.served (fun activity now => (free activity now).2)
      opened ready overtaken with requested | retries
    · exact Or.inl requested
    · exact Or.inr (Or.inr retries)
  | startRelist => exact startRelist_pursued pursued enabled
  | relisted number entries => exact relisted_pursued pursued enabled trustedAfter
  | relistFailed number =>
    refine pursued_of_quiet pursued.observed rfl
      (pursued.unready fun activity now => ?_) fun opened ready overtaken => ?_
    · rw [show state.refresh = some (.relisting number) from enabled] at now
      cases now
      rfl
    · exact (met opened ready overtaken).imp_right Or.inr
  | invalidate => exact invalidate_pursued pursued
  | handleNotify =>
    dsimp only [next]
    split
    · exact pursued
    · exact pursued.keep rfl rfl rfl rfl id (fun _ retries => retries)
  | tick => exact { pursued with stale := fun _ _ _ => Or.inl rfl }
  | unready subscribe => exact pursued_of_unready pursued.observed rfl
  | mark subscribe => exact pursued_of_unready pursued.observed met.1
  | request subscribe =>
    dsimp only [next, State.request]
    split
    · exact pursued.keep rfl rfl rfl rfl id (fun _ retries => retries)
    · refine pursued.keep rfl rfl rfl rfl id fun _ retries => ?_
      cases waiting : state.recovery <;> simp_all [Recovery.retries]
  | loop =>
    dsimp only [next, State.loop]
    split
    · rename_i closed
      refine pursued.keep rfl rfl rfl rfl id fun opened => ?_
      rw [show state.closed = false from opened] at closed
      cases closed
    · exact pursued.keep rfl rfl rfl rfl id (fun _ _ => rfl)
  | finishRecovery needsSubscribe failed =>
    dsimp only [next, State.finishRecovery]
    split
    · rename_i closed
      refine pursued.keep rfl rfl rfl rfl id fun opened => ?_
      rw [show state.closed = false from opened] at closed
      cases closed
    · split
      · exact pursued.keep rfl rfl rfl rfl id (fun _ _ => rfl)
      · rename_i succeeded
        have finished : state.recovery = .returned needsSubscribe false := by
          rw [enabled, Bool.not_eq_true _ |>.mp succeeded]
        split
        · exact pursued.keep rfl rfl rfl rfl id (fun _ _ => rfl)
        · refine pursued.keep rfl rfl rfl rfl id fun _ retries => ?_
          rw [finished] at retries
          cases retries
  | beginClose => exact pursued.keep rfl rfl rfl rfl id (fun _ retries => retries)
  | close => exact pursued.keep rfl rfl rfl rfl nofun (fun _ retries => retries)

end Pursuit

/-- In every run that `Observe` begins, as long as the observer is not closed:
while nothing is running, a view that is exposed as ready is of a pass that
started after every invalidation, or another one is asked for. -/
theorem overtaken_views_are_relisted {events : List (Event Entry)} {final : State Entry}
    (met : Along step Kept initial (.enterBootstrap .observe :: events))
    (ran : run step initial (.enterBootstrap .observe :: events) = some final)
    (opened : final.closed = false) (free : final.refresh = none)
    (idle : final.recovery = .idle) (ready : final.ready = true) :
    (∃ number, viewPass final.history = some number ∧
      .passStarted number ∈ final.history ∧
      .invalidated ∉ since (.passStarted number) final.history) ∨
      final.reconcileRequested = true := by
  obtain ⟨entered, stepped, ranRest⟩ := run_cons_eq_some ran
  have metRest := (along_cons_of_step stepped met).2
  have trusted := step_trusted initial_trusted (Kept.withdrawn met.1) stepped
  obtain ⟨_, rfl⟩ := guarded_eq_some_iff.mp stepped
  have pursued : Pursued (next (initial : State Entry) (.enterBootstrap .observe)) :=
    pursued_of_unready rfl rfl
  obtain ⟨trustedFinal, pursuedFinal⟩ :=
    invariant_along (fun state => Trusted state ∧ Pursued state)
      (fun inv kept stepped =>
        ⟨step_trusted inv.1 kept.withdrawn stepped, step_pursued inv.1 inv.2 kept stepped⟩)
      ⟨trusted, pursued⟩ metRest ranRest
  by_cases overtaken : Overtaken .invalidated final.history
  · refine Or.inr ?_
    rcases pursuedFinal.stale opened ready overtaken with
      requested | ⟨activity, here, _⟩ | retries
    · exact requested
    · rw [free] at here
      cases here
    · rw [idle] at retries
      cases retries
  · obtain ⟨number, stored⟩ := Option.isSome_iff_exists.mp (trustedFinal.stored ready)
    refine Or.inl ⟨number, stored, ?_, fun listed => ?_⟩
    · exact started_of_viewPass trustedFinal.inv.recorded.fresh stored
    · exact overtaken ⟨number, stored, listed⟩

def relistedRun : List (Event Unit) :=
  [.beginBootstrap .observe, .subscribed .observe, .startPass .observe,
    .listed .observe 0 1 [], .invalidate, .handleNotify, .enterReconcile,
    .startRelist, .relisted 1 []]

theorem relistedRun_is_relisted :
    ∃ final, run step initial (.enterBootstrap .observe :: relistedRun) = some final ∧
      final.ready = true ∧ .invalidated ∈ final.history ∧
      ((∃ number, viewPass final.history = some number ∧
        .passStarted number ∈ final.history ∧
        .invalidated ∉ since (.passStarted number) final.history) ∨
        final.reconcileRequested = true) := by
  obtain ⟨final, ran, opened, free, idle, ready, invalidated⟩ :
      ∃ final, run step initial (.enterBootstrap .observe :: relistedRun) = some final ∧
        final.closed = false ∧ final.refresh = none ∧ final.recovery = .idle ∧
        final.ready = true ∧ .invalidated ∈ final.history := by
    decide +kernel
  exact ⟨final, ran, ready, invalidated,
    overtaken_views_are_relisted (by decide +kernel) ran opened free idle ready⟩

def failedRelistRun : List (Event Unit) :=
  [.enterBootstrap .observe, .beginBootstrap .observe, .subscribed .observe,
    .startPass .observe, .listed .observe 0 1 [], .invalidate, .handleNotify,
    .enterReconcile, .startRelist, .relistFailed 1]

/-- Nothing is running, the observer is ready with a view that an invalidation
has overtaken, and nothing is asked for. -/
theorem failed_relist_loses_the_invalidation :
    ∃ final, run step initial failedRelistRun = some final ∧
      final.refresh = none ∧ final.reconcilers = 0 ∧
      final.recovery = .idle ∧ final.closing = false ∧
      final.ready = true ∧ viewPass final.history = some 0 ∧
      .invalidated ∈ since (.passStarted 0) final.history ∧
      final.reconcileRequested = false := by
  refine ⟨_, rfl, rfl, rfl, rfl, rfl, rfl, ?_, ?_, rfl⟩
  · decide
  · decide

end FitzGo.Domains.InventoryObserver
