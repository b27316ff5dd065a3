import FitzGo.Library.BufferedReader
import FitzGo.Library.Histories
import FitzGo.Library.StepMachine
import FitzGo.Library.Table

/-!
# The inventory observer

`bootstrap` subscribes and lists, and `reconcileView` lists again after a
notification or a tick, both under `refreshMu`. A notification
marks `pendingInvalidation` while the observer is bootstrapping and
`reconcileRequested` otherwise, a trigger clears both and raises the generation.
-/

namespace FitzGo.Domains.InventoryObserver

open StepMachine Histories

/-- Who calls `bootstrap`: `Observe`, or the goroutine that a trigger starts. -/
inductive Caller
  | observe
  | recovery (needsSubscribe : Bool)
  deriving DecidableEq

def Caller.subscribe : Caller → Bool
  | .observe => true
  | .recovery needsSubscribe => needsSubscribe

/-- Where the holder of `refreshMu` is. A pass has a number, and in a bootstrap
the generation that was read when it started. -/
inductive Activity
  | entered (caller : Caller)
  | subscribing (caller : Caller)
  | preparing (caller : Caller)
  | listing (caller : Caller) (number : Nat) (generation : UInt64)
  | reconciling
  | relisting (number : Nat)
  deriving DecidableEq

/-- The goroutine of `triggerBackgroundBootstrap`; `recoveryRunning` says that
it is not idle. -/
inductive Recovery
  | idle
  | looping
  | waiting (needsSubscribe : Bool)
  | bootstrapping (needsSubscribe : Bool)
  | returned (needsSubscribe failed : Bool)
  deriving DecidableEq

inductive Kind
  | bootstrap
  | reconcile
  deriving DecidableEq

/-- What is recorded: invalidations, what raises the generation, the start of
every LIST pass and every view that is stored. -/
inductive Item
  | invalidated
  | triggered
  | resubscribed
  | passStarted (number : Nat)
  | installed (kind : Kind) (number : Nat)
  deriving DecidableEq

variable {Entry : Type}

/-- `reconcilers` counts the calls of `reconcileView` that wait for
`refreshMu`; `marking` and `requesting` are the triggers on their way, with
whether they subscribe. -/
structure State (Entry : Type) where
  view : AList fun _ : Bytes => Entry
  ready : Bool
  bootstrapping : Bool
  pendingInvalidation : Bool
  reconcileRequested : Bool
  subscriptionGeneration : UInt64
  refresh : Option Activity
  observed : Bool
  reconcilers : Nat
  marking : List Bool
  requesting : List Bool
  closing : Bool
  closed : Bool
  recoveryRequested : Bool
  recoveryNeedsSubscribe : Bool
  recovery : Recovery
  passes : Nat
  history : List Item

def initial : State Entry where
  view := ∅
  ready := false
  bootstrapping := false
  pendingInvalidation := false
  reconcileRequested := false
  subscriptionGeneration := 0
  refresh := none
  observed := false
  reconcilers := 0
  marking := []
  requesting := []
  closing := false
  closed := false
  recoveryRequested := false
  recoveryNeedsSubscribe := false
  recovery := .idle
  passes := 0
  history := []

inductive Event (Entry : Type)
  | enterBootstrap (caller : Caller)
  | beginBootstrap (caller : Caller)
  | subscribed (caller : Caller)
  | subscribeFailed (caller : Caller)
  | startPass (caller : Caller)
  | listed (caller : Caller) (number : Nat) (generation : UInt64) (entries : List (Bytes × Entry))
  | listFailed (caller : Caller) (number : Nat) (generation : UInt64)
  | enterReconcile
  | startRelist
  | relisted (number : Nat) (entries : List (Bytes × Entry))
  | relistFailed (number : Nat)
  | invalidate
  | handleNotify
  | tick
  | unready (subscribe : Bool)
  | mark (subscribe : Bool)
  | request (subscribe : Bool)
  | loop
  | finishRecovery (needsSubscribe failed : Bool)
  | beginClose
  | close

def Enabled (state : State Entry) : Event Entry → Prop
  | .enterBootstrap .observe => state.refresh = none ∧ state.observed = false
  | .enterBootstrap (.recovery needsSubscribe) =>
    state.refresh = none ∧ state.recovery = .waiting needsSubscribe
  | .beginBootstrap caller => state.refresh = some (.entered caller)
  | .subscribed caller | .subscribeFailed caller => state.refresh = some (.subscribing caller)
  | .startPass caller => state.refresh = some (.preparing caller)
  | .listed caller number generation _ | .listFailed caller number generation =>
    state.refresh = some (.listing caller number generation)
  | .enterReconcile => state.refresh = none ∧ 0 < state.reconcilers
  | .startRelist => state.refresh = some .reconciling
  | .relisted number _ | .relistFailed number => state.refresh = some (.relisting number)
  | .mark subscribe => subscribe ∈ state.marking
  | .request subscribe => subscribe ∈ state.requesting
  | .loop => state.recovery = .looping
  | .finishRecovery needsSubscribe failed => state.recovery = .returned needsSubscribe failed
  | .close => state.closing = true
  | .invalidate | .handleNotify | .tick | .unready _ | .beginClose => True

instance (state : State Entry) (event : Event Entry) : Decidable (Enabled state event) := by
  cases event with
  | enterBootstrap caller => cases caller <;> dsimp only [Enabled] <;> infer_instance
  | _ => dsimp only [Enabled]; infer_instance

def listAll (entries : List (Bytes × Entry)) : AList fun _ : Bytes => Entry :=
  Table.fill Prod.fst Prod.snd entries ∅

def State.leaveBootstrap (state : State Entry) (caller : Caller) (failed : Bool) : State Entry :=
  { state with
    refresh := none
    recovery :=
      match caller with
      | .observe => state.recovery
      | .recovery needsSubscribe => .returned needsSubscribe failed }

def State.beginBootstrap (state : State Entry) (caller : Caller) : State Entry :=
  { state with
    bootstrapping := true
    pendingInvalidation :=
      if state.bootstrapping then state.pendingInvalidation else false
    refresh :=
      if caller.subscribe then some (.subscribing caller)
      else some (.preparing caller) }

def State.install (state : State Entry) (kind : Kind) (number : Nat)
    (entries : List (Bytes × Entry)) : State Entry :=
  { state with
    view := listAll entries
    ready := true
    history := state.history ++ [.installed kind number] }

def State.listed (state : State Entry) (caller : Caller) (number : Nat)
    (generation : UInt64) (entries : List (Bytes × Entry)) : State Entry :=
  if state.subscriptionGeneration ≠ generation then state.leaveBootstrap caller true
  else if state.pendingInvalidation then
    { state with
      pendingInvalidation := false
      refresh := some (.preparing caller) }
  else
    { (state.install .bootstrap number entries).leaveBootstrap caller false with
      bootstrapping := false }

def State.startRelist (state : State Entry) : State Entry :=
  if state.bootstrapping ∨ state.reconcileRequested = false then { state with refresh := none }
  else
    { state with
      reconcileRequested := false
      refresh := some (.relisting state.passes)
      passes := state.passes + 1
      history := state.history ++ [.passStarted state.passes] }

def State.relisted (state : State Entry) (number : Nat)
    (entries : List (Bytes × Entry)) : State Entry :=
  if state.bootstrapping then { state with refresh := none }
  else if state.reconcileRequested then { state with refresh := some .reconciling }
  else { state.install .reconcile number entries with refresh := none }

def State.invalidate (state : State Entry) : State Entry :=
  { state with
    pendingInvalidation := state.pendingInvalidation || state.bootstrapping
    reconcileRequested := state.reconcileRequested || !state.bootstrapping
    history := state.history ++ [.invalidated] }

/-- The section of a trigger under `lifecycleMu`. -/
def State.request (state : State Entry) (subscribe : Bool) : State Entry :=
  if state.closing then { state with requesting := state.requesting.erase subscribe }
  else
    { state with
      requesting := state.requesting.erase subscribe
      recoveryRequested := true
      recoveryNeedsSubscribe := state.recoveryNeedsSubscribe || subscribe
      recovery :=
        if state.recovery = .idle then .looping else state.recovery }

def State.loop (state : State Entry) : State Entry :=
  if state.closed then { state with recovery := .idle }
  else
    { state with
      recovery := .waiting state.recoveryNeedsSubscribe
      recoveryNeedsSubscribe := false
      recoveryRequested := false }

def State.finishRecovery (state : State Entry) (needsSubscribe failed : Bool) : State Entry :=
  if state.closed then { state with recovery := .idle }
  else if failed then
    { state with
      recoveryRequested := true
      recoveryNeedsSubscribe := state.recoveryNeedsSubscribe || needsSubscribe
      recovery := .looping }
  else if state.recoveryRequested then { state with recovery := .looping }
  else { state with recovery := .idle }

def next (state : State Entry) : Event Entry → State Entry
  | .enterBootstrap .observe => { state with refresh := some (.entered .observe), observed := true }
  | .enterBootstrap (.recovery needsSubscribe) =>
    { state with
      refresh := some (.entered (.recovery needsSubscribe))
      recovery := .bootstrapping needsSubscribe }
  | .beginBootstrap caller => state.beginBootstrap caller
  | .subscribed caller =>
    { state with
      subscriptionGeneration := state.subscriptionGeneration + 1
      refresh := some (.preparing caller)
      history := state.history ++ [.resubscribed] }
  | .subscribeFailed caller => { state.leaveBootstrap caller true with bootstrapping := false }
  | .startPass caller =>
    { state with
      refresh := some (.listing caller state.passes state.subscriptionGeneration)
      passes := state.passes + 1
      history := state.history ++ [.passStarted state.passes] }
  | .listed caller number generation entries => state.listed caller number generation entries
  | .listFailed caller _ _ => { state.leaveBootstrap caller true with bootstrapping := false }
  | .enterReconcile =>
    { state with
      refresh := some .reconciling
      reconcilers := state.reconcilers - 1 }
  | .startRelist => state.startRelist
  | .relisted number entries => state.relisted number entries
  | .relistFailed _ => { state with refresh := none }
  | .invalidate => state.invalidate
  | .handleNotify =>
    if state.bootstrapping then state
    else { state with reconcilers := state.reconcilers + 1 }
  | .tick =>
    { state with
      reconcileRequested := true
      reconcilers := state.reconcilers + 1 }
  | .unready subscribe => { state with ready := false, marking := state.marking ++ [subscribe] }
  | .mark subscribe =>
    { state with
      bootstrapping := true
      pendingInvalidation := false
      reconcileRequested := false
      subscriptionGeneration := state.subscriptionGeneration + 1
      marking := state.marking.erase subscribe
      requesting := state.requesting ++ [subscribe]
      history := state.history ++ [.triggered] }
  | .request subscribe => state.request subscribe
  | .loop => state.loop
  | .finishRecovery needsSubscribe failed => state.finishRecovery needsSubscribe failed
  | .beginClose => { state with closing := true }
  | .close => { state with closed := true }

def step : State Entry → Event Entry → Option (State Entry) :=
  guarded Enabled next

/-! ## What is claimed -/

/-- The pass started after every invalidation so far, nothing has overtaken it
since then, and every view that was stored before is of a pass that started
before. -/
structure FreshPass (before : List Item) (kind : Kind) (number : Nat) : Prop where
  started : .passStarted number ∈ before
  invalidations : .invalidated ∉ since (.passStarted number) before
  triggers : .triggered ∉ since (.passStarted number) before
  generation : kind = .bootstrap → .resubscribed ∉ since (.passStarted number) before
  order : ∀ other earlier, .installed other earlier ∈ before → earlier ≠ number ∧
    .passStarted earlier ∉ since (.passStarted number) before

def Fresh (before : List Item) : Item → Prop
  | .installed kind number => FreshPass before kind number
  | .invalidated | .triggered | .resubscribed | .passStarted _ => True

def Item.isChange : Item → Bool
  | .triggered | .resubscribed => true
  | .invalidated | .passStarted _ | .installed _ _ => false

def changes (items : List Item) : Nat :=
  items.countP Item.isChange

def State.listingNumber (state : State Entry) : Option Nat :=
  match state.refresh with
  | some (.listing _ number _) => some number
  | _ => none

/-- The generation does not come back to its value within a pass. -/
def Bounded (state : State Entry) : Event Entry → Prop
  | .mark _ =>
    ∀ number ∈ state.listingNumber, changes (since (.passStarted number) state.history) + 1 < 2 ^ 64
  | _ => True

instance (state : State Entry) (event : Event Entry) : Decidable (Bounded state event) := by
  cases event <;> dsimp only [Bounded] <;> infer_instance

/-! ## The invariant -/

structure InPass (passes : Nat) (history : List Item) (number : Nat) : Prop where
  started : .passStarted number ∈ history
  last : passes = number + 1
  alone : ∀ other, .passStarted other ∉ since (.passStarted number) history
  earlier : ∀ kind stored, .installed kind stored ∈ history → stored < number

/-- What a pass of `bootstrap` will find at its end. -/
structure Listing (state : State Entry) (number : Nat) (generation : UInt64) : Prop where
  inPass : InPass state.passes state.history number
  bootstrapping : state.bootstrapping = true
  counted : state.subscriptionGeneration = generation +
    UInt64.ofNat (changes (since (.passStarted number) state.history))
  bounded : changes (since (.passStarted number) state.history) < 2 ^ 64
  pending : changes (since (.passStarted number) state.history) = 0 →
    .invalidated ∈ since (.passStarted number) state.history → state.pendingInvalidation = true

/-- What a pass of `reconcileView` will find at its end: while the observer is
not bootstrapping, no trigger has come and invalidations are flagged. -/
structure Relisting (state : State Entry) (number : Nat) : Prop where
  inPass : InPass state.passes state.history number
  untriggered : state.bootstrapping = false → .triggered ∉ since (.passStarted number) state.history
  requested : state.bootstrapping = false →
    .invalidated ∈ since (.passStarted number) state.history → state.reconcileRequested = true

def Active (state : State Entry) : Activity → Prop
  | .subscribing _ | .preparing _ => state.bootstrapping = true
  | .listing _ number generation => Listing state number generation
  | .relisting number => Relisting state number
  | .entered _ | .reconciling => True

/-- Passes are numbered as they start, and every stored view is fresh. -/
structure Recorded (state : State Entry) : Prop where
  fresh : Throughout Fresh state.history
  numbers : ∀ number, .passStarted number ∈ state.history → number < state.passes
  stored : ∀ kind number, .installed kind number ∈ state.history → number < state.passes

structure Inv (state : State Entry) : Prop where
  recorded : Recorded state
  active : ∀ activity, state.refresh = some activity → Active state activity

theorem initial_inv : Inv (initial : State Entry) where
  recorded := by
    refine ⟨throughout_nil, fun number listed => ?_, fun kind number listed => ?_⟩
    · cases listed
    · cases listed
  active activity here := by
    cases here

/-! ## What is recorded -/

section Steps

variable {state : State Entry}

def Item.isNote : Item → Bool
  | .invalidated | .triggered | .resubscribed => true
  | .passStarted _ | .installed _ _ => false

variable {item : Item} {after : State Entry}

section

variable (recorded : Recorded state)
include recorded

theorem Recorded.append
    (history : after.history = state.history ++ [item]) (fresh : Fresh state.history item)
    (passes : state.passes ≤ after.passes)
    (numbers : ∀ number, item = .passStarted number → number < after.passes)
    (stored : ∀ kind number, item = .installed kind number → number < after.passes) :
    Recorded after := by
  refine ⟨?_, fun number listed => ?_, fun kind number listed => ?_⟩
  · rw [history]
    exact throughout_concat_iff.mpr ⟨recorded.fresh, fresh⟩
  · rw [history, List.mem_append, List.mem_singleton] at listed
    rcases listed with old | same
    · exact Nat.lt_of_lt_of_le (recorded.numbers number old) passes
    · exact numbers number same.symm
  · rw [history, List.mem_append, List.mem_singleton] at listed
    rcases listed with old | same
    · exact Nat.lt_of_lt_of_le (recorded.stored kind number old) passes
    · exact stored kind number same.symm

theorem Recorded.note (isNote : item.isNote = true)
    (history : after.history = state.history ++ [item])
    (passes : after.passes = state.passes) : Recorded after := by
  cases item with
  | passStarted number => cases isNote
  | installed kind number => cases isNote
  | _ => exact recorded.append history trivial (Nat.le_of_eq passes.symm) nofun nofun

theorem Recorded.keep (history : after.history = state.history)
    (passes : after.passes = state.passes) : Recorded after := by
  refine ⟨?_, ?_, ?_⟩
  · rw [history]
    exact recorded.fresh
  · rw [history, passes]
    exact recorded.numbers
  · rw [history, passes]
    exact recorded.stored

theorem Recorded.start {after : State Entry}
    (history : after.history = state.history ++ [.passStarted state.passes])
    (passes : after.passes = state.passes + 1) : Recorded after := by
  refine recorded.append history trivial ?_ ?_ nofun
  · omega
  · intro number same
    injection same with equal
    omega

end

variable {number : Nat}

theorem Recorded.install (recorded : Recorded state) {kind : Kind}
    (inPass : InPass state.passes state.history number)
    (fresh : FreshPass state.history kind number)
    (history : after.history = state.history ++ [.installed kind number])
    (passes : after.passes = state.passes) : Recorded after := by
  refine recorded.append history fresh (Nat.le_of_eq passes.symm) nofun ?_
  intro other stored same
  have last := inPass.last
  injection same with _ equal
  omega

theorem inPass_start (recorded : Recorded state) :
    since (.passStarted state.passes) (state.history ++ [.passStarted state.passes]) = [] ∧
      InPass (state.passes + 1) (state.history ++ [.passStarted state.passes]) state.passes := by
  have absent : .passStarted state.passes ∉ state.history := by
    intro listed
    exact absurd (recorded.numbers state.passes listed) (Nat.lt_irrefl _)
  have nothing := since_concat_self absent
  refine ⟨nothing, ?_, rfl, fun other => ?_, fun kind stored listed => ?_⟩
  · simp
  · rw [nothing]
    exact List.not_mem_nil
  · rw [List.mem_append, List.mem_singleton] at listed
    rcases listed with old | impossible
    · exact recorded.stored kind stored old
    · cases impossible

variable {history : List Item}

theorem InPass.note {passes number : Nat}
    (inPass : InPass passes history number) (isNote : item.isNote = true) :
    InPass passes (history ++ [item]) number := by
  refine ⟨List.mem_append_left _ inPass.started, inPass.last,
    fun other listed => ?_, fun kind stored listed => ?_⟩
  · rw [since_concat_of_mem inPass.started, List.mem_append, List.mem_singleton] at listed
    rcases listed with old | rfl
    · exact inPass.alone other old
    · cases isNote
  · rw [List.mem_append, List.mem_singleton] at listed
    rcases listed with old | rfl
    · exact inPass.earlier kind stored old
    · cases isNote

theorem InPass.fresh {passes number : Nat} {kind : Kind}
    (inPass : InPass passes history number)
    (invalidations : .invalidated ∉ since (.passStarted number) history)
    (triggers : .triggered ∉ since (.passStarted number) history)
    (generation : kind = .bootstrap → .resubscribed ∉ since (.passStarted number) history) :
    FreshPass history kind number := by
  refine ⟨inPass.started, invalidations, triggers, generation,
    fun other earlier listed => ⟨?_, inPass.alone earlier⟩⟩
  have before := inPass.earlier other earlier listed
  omega

/-! ## The holder of the refresh mutex -/

def State.flags (state : State Entry) : (Bool × Bool × Bool × UInt64) × Nat × List Item :=
  ((state.bootstrapping, state.pendingInvalidation, state.reconcileRequested,
    state.subscriptionGeneration), state.passes, state.history)

variable {activity : Activity}

theorem Active.keep (active : Active state activity)
    (same : after.flags = state.flags) : Active after activity := by
  simp only [State.flags, Prod.mk.injEq] at same
  obtain ⟨⟨bootstrapping, pending, requested, generation⟩, passes, history⟩ := same
  cases activity with
  | entered caller => trivial
  | listing caller number started =>
    refine ⟨?_, bootstrapping.trans active.bootstrapping, ?_, ?_, ?_⟩
    · rw [passes, history]
      exact active.inPass
    · rw [generation, history]
      exact active.counted
    · rw [history]
      exact active.bounded
    · rw [history, pending]
      exact active.pending
  | reconciling => trivial
  | relisting number =>
    refine ⟨?_, ?_, ?_⟩
    · rw [passes, history]
      exact active.inPass
    · rw [bootstrapping, history]
      exact active.untriggered
    · rw [bootstrapping, history, requested]
      exact active.requested
  | _ => exact bootstrapping.trans active

theorem Inv.keep (inv : Inv state) (same : after.flags = state.flags)
    (refresh : after.refresh = state.refresh) : Inv after := by
  have parts := same
  simp only [State.flags, Prod.mk.injEq] at parts
  refine ⟨inv.recorded.keep parts.2.2 parts.2.1, fun activity here => ?_⟩
  rw [refresh] at here
  exact (inv.active activity here).keep same

theorem Inv.leave (inv : Inv state) {after : State Entry} (history : after.history = state.history)
    (passes : after.passes = state.passes) (free : after.refresh = none) : Inv after := by
  refine ⟨inv.recorded.keep history passes, fun activity here => ?_⟩
  rw [free] at here
  cases here

variable {caller : Caller}

theorem subscribed_inv (inv : Inv state) (here : state.refresh = some (.subscribing caller)) :
    Inv (next state (.subscribed caller)) := by
  have bootstrapping : state.bootstrapping = true := inv.active (.subscribing caller) here
  have recorded : Recorded (next state (.subscribed caller)) :=
    inv.recorded.note (show Item.resubscribed.isNote = true from rfl) rfl rfl
  refine ⟨recorded, fun activity now => ?_⟩
  cases now
  exact bootstrapping

private theorem startPass_inv (inv : Inv state)
    (here : state.refresh = some (.preparing caller)) : Inv (next state (.startPass caller)) := by
  have bootstrapping : state.bootstrapping = true := inv.active (.preparing caller) here
  obtain ⟨nothing, inPass⟩ := inPass_start inv.recorded
  refine ⟨inv.recorded.start rfl rfl, fun activity now => ?_⟩
  cases now
  refine ⟨inPass, bootstrapping, ?_, ?_, fun _ listed => ?_⟩
  · simp [next, nothing, changes]
  · simp [next, nothing, changes]
  · simp [next, nothing] at listed

variable {generation : UInt64}

theorem Listing.unchanged
    (listing : Listing state number generation) (same : state.subscriptionGeneration = generation) :
    changes (since (.passStarted number) state.history) = 0 := by
  have counted := congrArg UInt64.toNat (same.symm.trans listing.counted)
  rw [UInt64.toNat_add, UInt64.toNat_ofNat_of_lt' listing.bounded] at counted
  have bound := generation.toNat_lt
  have bounded := listing.bounded
  omega

private theorem notMem_of_changes {items : List Item} (unchanged : changes items = 0)
    (isChange : item.isChange = true) : item ∉ items := by
  intro listed
  exact List.countP_eq_zero.mp unchanged item listed isChange

private theorem listed_inv (inv : Inv state)
    (here : state.refresh = some (.listing caller number generation))
    (entries : List (Bytes × Entry)) : Inv (state.listed caller number generation entries) := by
  have listing : Listing state number generation :=
    inv.active (.listing caller number generation) here
  unfold State.listed
  split
  · exact inv.leave rfl rfl rfl
  · rename_i same
    split
    · refine ⟨inv.recorded.keep rfl rfl, fun activity now => ?_⟩
      cases now
      exact listing.bootstrapping
    · rename_i settled
      have unchanged := listing.unchanged (Decidable.not_not.mp same)
      have uninvalidated : .invalidated ∉ since (.passStarted number) state.history :=
        fun listed => settled (listing.pending unchanged listed)
      have fresh : FreshPass state.history .bootstrap number :=
        listing.inPass.fresh uninvalidated (notMem_of_changes unchanged rfl)
          (fun _ => notMem_of_changes unchanged rfl)
      refine ⟨inv.recorded.install listing.inPass fresh rfl rfl, fun activity now => ?_⟩
      cases now

private theorem startRelist_inv (inv : Inv state) : Inv state.startRelist := by
  unfold State.startRelist
  split
  · exact inv.leave rfl rfl rfl
  · obtain ⟨nothing, inPass⟩ := inPass_start inv.recorded
    refine ⟨inv.recorded.start rfl rfl, fun activity now => ?_⟩
    cases now
    refine ⟨inPass, fun _ listed => ?_, fun _ listed => ?_⟩
    · simp [nothing] at listed
    · simp [nothing] at listed

private theorem relisted_inv (inv : Inv state) (here : state.refresh = some (.relisting number))
    (entries : List (Bytes × Entry)) : Inv (state.relisted number entries) := by
  have relisting : Relisting state number := inv.active (.relisting number) here
  unfold State.relisted
  split
  · exact inv.leave rfl rfl rfl
  · rename_i steady
    have settled : state.bootstrapping = false := by
      simpa using steady
    split
    · refine ⟨inv.recorded.keep rfl rfl, fun activity now => ?_⟩
      cases now
      trivial
    · rename_i unrequested
      have uninvalidated : .invalidated ∉ since (.passStarted number) state.history :=
        fun listed => unrequested (relisting.requested settled listed)
      have fresh : FreshPass state.history .reconcile number := by
        apply relisting.inPass.fresh uninvalidated (relisting.untriggered settled)
        intro impossible
        cases impossible
      refine ⟨inv.recorded.install relisting.inPass fresh rfl rfl, fun activity now => ?_⟩
      cases now

/-! ## What happens to a pass -/

theorem Active.invalidate
    (active : Active state activity) : Active state.invalidate activity := by
  cases activity with
  | entered caller => trivial
  | listing caller number generation =>
    have started := active.inPass.started
    have later := since_concat_of_mem started Item.invalidated
    have same : changes (since (.passStarted number) (state.history ++ [.invalidated])) =
        changes (since (.passStarted number) state.history) := by
      simp [later, changes, Item.isChange]
    refine ⟨active.inPass.note rfl, active.bootstrapping, ?_, ?_, fun _ _ => ?_⟩
    · exact same ▸ active.counted
    · exact same ▸ active.bounded
    · simp [State.invalidate, active.bootstrapping]
  | reconciling => trivial
  | relisting number =>
    have started := active.inPass.started
    have later := since_concat_of_mem started Item.invalidated
    refine ⟨active.inPass.note rfl, fun steady listed => ?_, fun steady _ => ?_⟩
    · have old : .triggered ∈ since (.passStarted number) state.history := by
        simpa [State.invalidate, later] using listed
      exact active.untriggered steady old
    · have settled : state.bootstrapping = false := steady
      simp [State.invalidate, settled]
  | _ => exact active

section

variable (inv : Inv state)
include inv

private theorem invalidate_inv : Inv state.invalidate where
  recorded := inv.recorded.note (show Item.invalidated.isNote = true from rfl) rfl rfl
  active activity here := (inv.active activity here).invalidate

theorem tick_inv : Inv (next state .tick) := by
  refine ⟨inv.recorded.keep rfl rfl, fun activity here => ?_⟩
  have active := inv.active activity here
  cases activity with
  | entered caller => trivial
  | listing caller number generation => exact { active with }
  | reconciling => trivial
  | relisting number => exact { active with requested := fun _ _ => rfl }
  | _ => exact active

theorem mark_inv {subscribe : Bool}
    (met : Bounded state (.mark subscribe)) : Inv (next state (.mark subscribe)) := by
  have recorded : Recorded (next state (.mark subscribe)) :=
    inv.recorded.note (show Item.triggered.isNote = true from rfl) rfl rfl
  refine ⟨recorded, fun activity here => ?_⟩
  have holder : state.refresh = some activity := here
  have active := inv.active activity holder
  cases activity with
  | entered caller => trivial
  | listing caller number generation =>
    have started := active.inPass.started
    have later := since_concat_of_mem started Item.triggered
    have raised : changes (since (.passStarted number) (state.history ++ [.triggered])) =
        changes (since (.passStarted number) state.history) + 1 := by
      simp [later, changes, Item.isChange]
    have bounded : changes (since (.passStarted number) state.history) + 1 < 2 ^ 64 := by
      apply met
      simp [State.listingNumber, holder]
    refine ⟨active.inPass.note rfl, rfl, ?_, ?_, fun unchanged => ?_⟩
    · simp only [next]
      rw [raised, active.counted, UInt64.ofNat_add, UInt64.add_assoc]
      rfl
    · exact raised ▸ bounded
    · simp only [next] at unchanged
      omega
  | reconciling => trivial
  | relisting number =>
    refine ⟨active.inPass.note rfl, fun steady => ?_, fun steady => ?_⟩
    · cases steady
    · cases steady
  | _ => rfl

theorem request_inv (subscribe : Bool) : Inv (state.request subscribe) := by
  unfold State.request
  split <;> exact inv.keep rfl rfl

theorem loop_inv : Inv state.loop := by
  unfold State.loop
  split <;> exact inv.keep rfl rfl

theorem finishRecovery_inv (needsSubscribe failed : Bool) :
    Inv (state.finishRecovery needsSubscribe failed) := by
  unfold State.finishRecovery
  repeat' split
  all_goals exact inv.keep rfl rfl

theorem enterBootstrap_inv (caller : Caller) : Inv (next state (.enterBootstrap caller)) := by
  cases caller with
  | _ =>
    refine ⟨inv.recorded.keep rfl rfl, fun activity now => ?_⟩
    cases now
    trivial

theorem beginBootstrap_inv (caller : Caller) : Inv (state.beginBootstrap caller) := by
  refine ⟨inv.recorded.keep rfl rfl, fun activity now => ?_⟩
  simp only [State.beginBootstrap] at now
  split at now
  · cases now
    rfl
  · cases now
    rfl

theorem handleNotify_inv : Inv (next state .handleNotify) := by
  dsimp only [next]
  split
  · exact inv
  · exact inv.keep rfl rfl

end

theorem step_inv {event : Event Entry} (inv : Inv state) (met : Bounded state event)
    (stepped : step state event = some after) : Inv after := by
  obtain ⟨enabled, rfl⟩ := guarded_eq_some_iff.mp stepped
  cases event with
  | enterBootstrap caller => exact enterBootstrap_inv inv caller
  | beginBootstrap caller => exact beginBootstrap_inv inv caller
  | subscribed caller => exact subscribed_inv inv enabled
  | startPass caller => exact startPass_inv inv enabled
  | listed caller number generation entries => exact listed_inv inv enabled entries
  | enterReconcile =>
    refine ⟨inv.recorded.keep rfl rfl, fun activity now => ?_⟩
    cases now
    trivial
  | startRelist => exact startRelist_inv inv
  | relisted number entries => exact relisted_inv inv enabled entries
  | invalidate => exact invalidate_inv inv
  | handleNotify => exact handleNotify_inv inv
  | tick => exact tick_inv inv
  | unready subscribe | beginClose | close => exact inv.keep rfl rfl
  | mark subscribe => exact mark_inv inv met
  | request subscribe => exact request_inv inv subscribe
  | loop => exact loop_inv inv
  | finishRecovery needsSubscribe failed => exact finishRecovery_inv inv needsSubscribe failed
  | _ => exact inv.leave rfl rfl rfl

end Steps

/-! ## Runs -/

/-- Every view that a bootstrap or a reconcile has stored was of a pass that
nothing had overtaken, and the passes of the stored views started in the order
in which they were stored. -/
theorem stored_views_are_fresh {events : List (Event Entry)} {final : State Entry}
    (met : Along step Bounded initial events) (ran : run step initial events = some final) :
    Throughout Fresh final.history := by
  have inv := invariant_along Inv step_inv initial_inv met ran
  exact inv.recorded.fresh

def overtakenRun : List (Event Unit) :=
  [.enterBootstrap .observe, .beginBootstrap .observe, .subscribed .observe,
    .startPass .observe, .invalidate, .listed .observe 0 1 [],
    .startPass .observe, .listed .observe 1 1 [([1], ())],
    .invalidate, .handleNotify, .enterReconcile, .startRelist,
    .relisted 2 [([2], ())]]

theorem overtakenRun_is_fresh : ∃ final, run step initial overtakenRun = some final ∧
      Throughout Fresh final.history ∧
      final.history = [.resubscribed, .passStarted 0, .invalidated, .passStarted 1,
          .installed .bootstrap 1, .invalidated, .passStarted 2,
          .installed .reconcile 2] ∧
      final.ready = true := by
  apply exists_kept_and
  · decide +kernel
  · intro final ran
    exact stored_views_are_fresh (by decide +kernel) ran

/-! ## The generation comes back -/

def trigger : List (Event Unit) :=
  [.unready false, .mark false, .request false]

def triggers : Nat → List (Event Unit)
  | 0 => []
  | count + 1 => trigger ++ triggers count

/-- Up to a pass of the recovery that an invalidation and one trigger have
overtaken. -/
def overtakenPass : List (Event Unit) :=
  [.enterBootstrap .observe, .beginBootstrap .observe, .subscribed .observe,
    .startPass .observe, .listed .observe 0 1 []] ++ trigger ++
    [.loop, .enterBootstrap (.recovery false),
      .beginBootstrap (.recovery false), .startPass (.recovery false),
      .invalidate] ++ trigger

def duringPass (generation : UInt64) (history : List Item) : State Unit where
  view := ∅
  ready := false
  bootstrapping := true
  pendingInvalidation := false
  reconcileRequested := false
  subscriptionGeneration := generation
  refresh := some (.listing (.recovery false) 1 2)
  observed := true
  reconcilers := 0
  marking := []
  requesting := []
  closing := false
  closed := false
  recoveryRequested := true
  recoveryNeedsSubscribe := false
  recovery := .bootstrapping false
  passes := 2
  history := history

def overtakenHistory : List Item :=
  [.resubscribed, .passStarted 0, .installed .bootstrap 0, .triggered,
    .passStarted 1, .invalidated, .triggered]

theorem run_overtakenPass :
    run step initial overtakenPass = some (duringPass 3 overtakenHistory) := by
  rfl

theorem run_trigger (generation : UInt64) (history : List Item) :
    run step (duringPass generation history) trigger =
      some (duringPass (generation + 1) (history ++ [.triggered])) := by
  rfl

theorem run_triggers (count : Nat) (generation : UInt64) (history : List Item) :
    run step (duringPass generation history) (triggers count) =
      some (duringPass (generation + UInt64.ofNat count)
      (history ++ List.replicate count .triggered)) := by
  induction count generalizing generation history with
  | zero => simp [triggers]
  | succ count ih =>
    have one : generation + 1 + UInt64.ofNat count = generation + UInt64.ofNat (count + 1) := by
      rw [UInt64.add_assoc, Nat.add_comm, UInt64.ofNat_add]
      rfl
    rw [triggers, run_append, run_trigger, Option.bind_some,
      ih, one, List.append_assoc, List.replicate_succ]
    rfl

def wrappedRun (count : Nat) : List (Event Unit) :=
  overtakenPass ++ triggers count ++ [.listed (.recovery false) 1 2 []]

theorem wrappedRun_stores {count : Nat} (back : (3 : UInt64) + UInt64.ofNat count = 2) :
    ∃ final, run step initial (wrappedRun count) = some final ∧
      ¬ Throughout Fresh final.history := by
  have ran : run step initial (wrappedRun count) =
      step (duringPass 2 (overtakenHistory ++ List.replicate count .triggered))
        (.listed (.recovery false) 1 2 []) := by
    rw [wrappedRun, run_append, run_append, run_overtakenPass, Option.bind_some, run_triggers, back]
    simp [run]
  refine ⟨_, ran.trans rfl, fun fresh => ?_⟩
  have last := (throughout_concat_iff.mp fresh).2
  have overtaken := FreshPass.invalidations last
  apply overtaken
  simp [duringPass, overtakenHistory, since]

/-- With as many triggers as make the generation come back, a bootstrap stores
a view whose pass started before an invalidation. -/
theorem wrapped_generation_stores_an_overtaken_view :
    ∃ final, run step initial (wrappedRun (2 ^ 64 - 1)) = some final ∧
      ¬ Throughout Fresh final.history := by
  apply wrappedRun_stores
  decide

end FitzGo.Domains.InventoryObserver
