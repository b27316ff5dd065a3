import FitzGo.Library.StepMachine
import FitzGo.Library.Table

/-!
# The subscriptions of the lease client

The lease client keeps a map from ids to `Subscription` objects.
`RestoreSubscriptions` takes a snapshot of it, subscribes every object again
without holding the lock, and puts a map with nothing else in its place.
-/

namespace FitzGo.Domains.LeaseSubscriptions

open StepMachine

structure RestoredEntry where
  sub : Nat
  subID : Nat
  deriving DecidableEq

structure Restore where
  left : List Nat
  restored : List RestoredEntry
  deriving DecidableEq

def Restore.subs (restore : Restore) : List Nat :=
  restore.restored.map RestoredEntry.sub ++ restore.left

/-- `objects` has the `subID` of every object that `Subscribe` has returned,
`answered` the calls of `Subscribe` that have an id and no object yet, and
`unsubscribed` the objects whose `Unsubscribe` has been called. -/
structure State where
  objects : AList fun _ : Nat => Nat
  subscriptions : AList fun _ : Nat => Nat
  answered : List (Nat × Nat)
  unsubscribed : List Nat
  restores : List Restore
  issued : List Nat

def initial : State where
  objects := ∅
  subscriptions := ∅
  answered := []
  unsubscribed := []
  restores := []
  issued := []

/-- An order is how the range of `RestoreSubscriptions` meets the map. -/
inductive Event
  | subscribeAnswered (sub subID : Nat)
  | install (sub subID : Nat)
  | unsubscribe (sub : Nat)
  | snapshot (order : List Nat)
  | restoreAnswered (sub : Nat) (left : List Nat) (restored : List RestoredEntry) (subID : Nat)
  | commit (restored : List RestoredEntry)
  | replaceConnection

def Enabled (state : State) : Event → Prop
  | .subscribeAnswered sub subID =>
    state.objects.lookup sub = none ∧ sub ∉ state.answered.map Prod.fst ∧ subID ∉ state.issued
  | .install sub subID => (sub, subID) ∈ state.answered
  | .unsubscribe sub => (state.objects.lookup sub).isSome = true
  | .snapshot order => order.Perm (state.subscriptions.entries.map fun binding => binding.2)
  | .restoreAnswered sub left restored subID =>
    ⟨sub :: left, restored⟩ ∈ state.restores ∧ subID ∉ state.issued
  | .commit restored => ⟨[], restored⟩ ∈ state.restores
  | .replaceConnection => True

instance (state : State) (event : Event) : Decidable (Enabled state event) := by
  cases event <;> dsimp only [Enabled] <;> infer_instance

/-- The critical section of `unsubscribe`: the entry of the id goes, whatever
object it has. -/
def unsubscribe (state : State) (sub : Nat) : State :=
  match state.objects.lookup sub with
  | none => state
  | some subID =>
    { state with
      subscriptions := state.subscriptions.erase subID
      unsubscribed := sub :: state.unsubscribed }

def commit (state : State) (restored : List RestoredEntry) : State :=
  { state with
    objects := Table.fill RestoredEntry.sub RestoredEntry.subID restored state.objects
    subscriptions := Table.fill RestoredEntry.subID RestoredEntry.sub restored ∅
    restores := state.restores.erase ⟨[], restored⟩ }

def next (state : State) : Event → State
  | .subscribeAnswered sub subID =>
    { state with
      answered := (sub, subID) :: state.answered
      issued := subID :: state.issued }
  | .install sub subID =>
    { state with
      answered := state.answered.erase (sub, subID)
      objects := state.objects.insert sub subID
      subscriptions := state.subscriptions.insert subID sub }
  | .unsubscribe sub => unsubscribe state sub
  | .snapshot order => { state with restores := ⟨order, []⟩ :: state.restores }
  | .restoreAnswered sub left restored subID =>
    { state with
      restores := ⟨left, restored ++ [⟨sub, subID⟩]⟩ :: state.restores.erase ⟨sub :: left, restored⟩
      issued := subID :: state.issued }
  | .commit restored => commit state restored
  | .replaceConnection => { state with issued := [] }

def step : State → Event → Option State :=
  guarded Enabled next

/-! ## What is claimed -/

/-- The object was returned by `Subscribe` and not unsubscribed, and its id is
this one. -/
def Live (state : State) (sub subID : Nat) : Prop :=
  state.objects.lookup sub = some subID ∧ sub ∉ state.unsubscribed

/-- The map has the live objects, each under its id, and nothing else. -/
def MapExact (state : State) : Prop :=
  ∀ subID sub, state.subscriptions.lookup subID = some sub ↔ Live state sub subID

/-- No object enters or leaves the map while a restore is between its sections;
an id that enters the map is not in it, an `Unsubscribe` finds its own object
under its id or none, and a restore is not given an id twice. -/
def Separate (state : State) : Event → Prop
  | .install _ subID => state.restores = [] ∧ state.subscriptions.lookup subID = none
  | .unsubscribe sub =>
    ∀ subID ∈ state.objects.lookup sub, ∀ found ∈ state.subscriptions.lookup subID,
        state.restores = [] ∧ found = sub
  | .restoreAnswered _ _ restored subID => subID ∉ restored.map RestoredEntry.subID
  | .subscribeAnswered _ _ | .snapshot _ | .commit _
  | .replaceConnection => True

instance (state : State) (event : Event) : Decidable (Separate state event) := by
  cases event <;> dsimp only [Separate] <;> infer_instance

/-! ## The invariant -/

structure Current (state : State) (restore : Restore) : Prop where
  distinct : restore.subs.Nodup
  ids : (restore.restored.map RestoredEntry.subID).Nodup
  live : ∀ sub, sub ∈ restore.subs ↔ ∃ subID, Live state sub subID

structure Inv (state : State) : Prop where
  exact : MapExact state
  answered : ∀ pair ∈ state.answered, state.objects.lookup pair.1 = none
  distinct : (state.answered.map Prod.fst).Nodup
  known : ∀ sub ∈ state.unsubscribed, (state.objects.lookup sub).isSome = true
  current : ∀ restore ∈ state.restores, Current state restore

theorem initial_inv : Inv initial where
  exact subID sub := by
    simp [Live, initial]
  answered pair member := by
    cases member
  distinct := List.nodup_nil
  known sub member := by
    cases member
  current restore member := by
    cases member

variable {state : State}

theorem Current.of_live {after : State} {restore : Restore} (current : Current state restore)
    (same : ∀ sub, (∃ subID, Live after sub subID) ↔ ∃ subID, Live state sub subID) :
    Current after restore :=
  ⟨current.distinct, current.ids, fun sub => (current.live sub).trans (same sub).symm⟩

variable {sub subID : Nat}

section

variable (inv : Inv state)
include inv

private theorem subscribeAnswered_inv (new : state.objects.lookup sub = none)
    (other : sub ∉ state.answered.map Prod.fst) : Inv (next state (.subscribeAnswered sub subID)) :=
  { inv with
    answered pair member := by
      rcases List.mem_cons.mp member with rfl | old
      · exact new
      · exact inv.answered pair old
    distinct := List.nodup_cons.mpr ⟨other, inv.distinct⟩
    current restore member := { inv.current restore member with } }

private theorem install_inv (here : (sub, subID) ∈ state.answered) (alone : state.restores = [])
    (free : state.subscriptions.lookup subID = none) : Inv (next state (.install sub subID)) := by
  have new : state.objects.lookup sub = none := inv.answered _ here
  have kept : sub ∉ state.unsubscribed := by
    intro member
    have known := inv.known sub member
    rw [new] at known
    cases known
  refine ⟨fun id other => ?_, ?_, ?_, ?_, ?_⟩
  · have old := inv.exact id other
    simp only [Live] at old
    simp only [next, Live]
    by_cases sameID : id = subID
    · subst sameID
      rw [AList.lookup_insert]
      rw [free] at old
      by_cases sameSub : other = sub
      · subst sameSub
        simp [kept]
      · rw [AList.lookup_insert_ne sameSub, ← old]
        simp [Ne.symm sameSub]
    · rw [AList.lookup_insert_ne sameID, old]
      by_cases sameSub : other = sub
      · subst sameSub
        rw [AList.lookup_insert, new]
        simp [Ne.symm sameID]
      · rw [AList.lookup_insert_ne sameSub]
  · intro pair member
    have listed := List.mem_of_mem_erase member
    have different : pair.1 ≠ sub := by
      intro same
      have unique := List.inj_on_of_nodup_map inv.distinct listed here same
      subst unique
      have nodup := List.Nodup.of_map _ inv.distinct
      exact nodup.not_mem_erase member
    simp only [next, AList.lookup_insert_ne different]
    exact inv.answered pair listed
  · have sublist : (state.answered.erase (sub, subID)).Sublist state.answered := List.erase_sublist
    exact inv.distinct.sublist (sublist.map Prod.fst)
  · intro other member
    by_cases same : other = sub
    · subst same
      simp [next]
    · simp only [next, AList.lookup_insert_ne same]
      exact inv.known other member
  · intro restore member
    simp [next, alone] at member

theorem unsubscribe_inv (here : state.objects.lookup sub = some subID)
    (own : ∀ found ∈ state.subscriptions.lookup subID, state.restores = [] ∧ found = sub) :
    Inv (next state (.unsubscribe sub)) := by
  simp only [next, unsubscribe, here]
  have found := inv.exact subID sub
  simp only [Live, here, true_and] at found
  refine ⟨fun id other => ?_, inv.answered, inv.distinct, ?_, ?_⟩
  · have old := inv.exact id other
    simp only [Live, List.mem_cons, not_or] at old ⊢
    by_cases sameID : id = subID
    · subst sameID
      rw [AList.lookup_erase]
      by_cases sameSub : other = sub
      · simp [sameSub]
      · simp only [sameSub, not_false_eq_true, true_and, ← old]
        constructor
        · intro impossible
          cases impossible
        · intro there
          exact absurd (own other there).2 sameSub
    · rw [AList.lookup_erase_ne sameID, old]
      by_cases sameSub : other = sub
      · subst sameSub
        simp [here, Ne.symm sameID]
      · simp [sameSub]
  · intro other member
    rcases List.mem_cons.mp member with rfl | old
    · rw [here]
      rfl
    · exact inv.known other old
  · intro restore member
    -- a restore is running, so the object has gone before
    have gone : sub ∈ state.unsubscribed := by
      by_contra kept
      have alone := (own sub (found.mpr kept)).1
      rw [alone] at member
      cases member
    apply (inv.current restore member).of_live
    intro other
    simp only [Live, List.mem_cons, not_or]
    by_cases same : other = sub
    · subst same
      simp [gone]
    · simp [same]

private theorem snapshot_inv {order : List Nat}
    (perm : order.Perm (state.subscriptions.entries.map fun binding => binding.2)) :
    Inv (next state (.snapshot order)) := by
  refine ⟨inv.exact, inv.answered, inv.distinct, inv.known, ?_⟩
  intro restore member
  simp only [next, List.mem_cons] at member
  rcases member with rfl | old
  · have lookup : ∀ binding ∈ state.subscriptions.entries,
        state.subscriptions.lookup binding.1 = some binding.2 :=
      fun binding bound => AList.mem_lookup_iff.mpr bound
    refine ⟨?_, List.nodup_nil, fun sub => ?_⟩
    · simp only [Restore.subs, List.map_nil, List.nil_append]
      rw [perm.nodup_iff]
      -- an object has one id, so it is met once
      apply List.Nodup.map_on
      · intro binding bound other otherBound same
        have mine := (inv.exact _ _).mp (lookup binding bound)
        have yours := (inv.exact _ _).mp (lookup other otherBound)
        have ids := mine.1.symm.trans (same ▸ yours.1)
        cases binding
        cases other
        simp_all
      · exact state.subscriptions.nodupKeys.nodup
    · simp only [Restore.subs, List.map_nil, List.nil_append]
      rw [perm.mem_iff, List.mem_map]
      constructor
      · rintro ⟨binding, bound, rfl⟩
        exact ⟨binding.1, (inv.exact _ _).mp (lookup binding bound)⟩
      · rintro ⟨subID, live⟩
        have there := (inv.exact subID sub).mpr live
        exact ⟨⟨subID, sub⟩, AList.mem_lookup_iff.mp there, rfl⟩
  · exact { inv.current restore old with }

variable {restored : List RestoredEntry}

theorem restoreAnswered_inv {left : List Nat} (here : ⟨sub :: left, restored⟩ ∈ state.restores)
    (new : subID ∉ restored.map RestoredEntry.subID) :
    Inv (next state (.restoreAnswered sub left restored subID)) := by
  refine ⟨inv.exact, inv.answered, inv.distinct, inv.known, ?_⟩
  intro restore member
  simp only [next, List.mem_cons] at member
  rcases member with rfl | old
  · have before := inv.current _ here
    have same :
        Restore.subs ⟨left, restored ++ [⟨sub, subID⟩]⟩ = Restore.subs ⟨sub :: left, restored⟩ := by
      simp [Restore.subs]
    refine ⟨?_, ?_, ?_⟩
    · rw [same]
      exact before.distinct
    · simp only [List.map_append, List.map_cons, List.map_nil]
      rw [List.nodup_append]
      refine ⟨before.ids, List.nodup_singleton _, ?_⟩
      intro id member other listed
      rw [List.mem_singleton] at listed
      rintro rfl
      rw [listed] at member
      exact new member
    · rw [same]
      exact before.live
  · exact { inv.current restore (List.mem_of_mem_erase old) with }

variable (here : ⟨[], restored⟩ ∈ state.restores)
include here

theorem live_commit (sub subID : Nat) :
    Live (commit state restored) sub subID ↔ ⟨sub, subID⟩ ∈ restored := by
  have current := inv.current _ here
  have subs : (restored.map RestoredEntry.sub).Nodup := by
    simpa [Restore.subs] using current.distinct
  have live : ∀ sub, sub ∈ restored.map RestoredEntry.sub ↔ ∃ subID, Live state sub subID := by
    simpa [Restore.subs] using current.live
  simp only [Live, commit]
  constructor
  · rintro ⟨assigned, kept⟩
    by_cases listed : sub ∈ restored.map RestoredEntry.sub
    · obtain ⟨entry, member, rfl⟩ := List.mem_map.mp listed
      rw [Table.lookup_fill_of_mem subs member] at assigned
      cases assigned
      exact member
    · rw [Table.lookup_fill_of_notMem listed] at assigned
      exact absurd ((live sub).mpr ⟨subID, assigned, kept⟩) listed
  · intro member
    obtain ⟨before, _, kept⟩ := (live sub).mp (List.mem_map.mpr ⟨⟨sub, subID⟩, member, rfl⟩)
    exact ⟨Table.lookup_fill_of_mem subs member state.objects, kept⟩

private theorem isSome_objects_commit (sub : Nat) :
    ((commit state restored).objects.lookup sub).isSome = (state.objects.lookup sub).isSome := by
  by_cases listed : sub ∈ restored.map RestoredEntry.sub
  · obtain ⟨entry, member, rfl⟩ := List.mem_map.mp listed
    have after := ((live_commit inv here entry.sub entry.subID).mpr member).1
    have snapshot : entry.sub ∈ Restore.subs ⟨[], restored⟩ := by
      simpa [Restore.subs] using listed
    obtain ⟨before, live⟩ := ((inv.current _ here).live entry.sub).mp snapshot
    rw [after, live.1]
    rfl
  · rw [commit, Table.lookup_fill_of_notMem listed]

theorem commit_inv : Inv (commit state restored) := by
  have current := inv.current _ here
  have live := live_commit inv here
  have objects := isSome_objects_commit inv here
  refine ⟨fun subID sub => ?_, ?_, inv.distinct, ?_, ?_⟩
  · rw [live, commit, Table.lookup_fill_empty_eq_some_iff current.ids]
    constructor
    · rintro ⟨entry, member, rfl, rfl⟩
      exact member
    · intro member
      exact ⟨⟨sub, subID⟩, member, rfl, rfl⟩
  · intro pair member
    have none := objects pair.1
    rw [inv.answered pair member] at none
    simpa using none
  · intro sub member
    rw [objects]
    exact inv.known sub member
  · intro restore member
    have running := List.mem_of_mem_erase member
    apply (inv.current restore running).of_live
    intro sub
    rw [← current.live sub]
    simp only [live, Restore.subs, List.append_nil, List.mem_map]
    constructor
    · rintro ⟨subID, member⟩
      exact ⟨⟨sub, subID⟩, member, rfl⟩
    · rintro ⟨entry, member, rfl⟩
      exact ⟨entry.subID, member⟩

end

theorem step_inv {after : State} {event : Event} (inv : Inv state)
    (met : Separate state event) (stepped : step state event = some after) : Inv after := by
  obtain ⟨enabled, rfl⟩ := guarded_eq_some_iff.mp stepped
  cases event with
  | subscribeAnswered sub subID => exact subscribeAnswered_inv inv enabled.1 enabled.2.1
  | install sub subID => exact install_inv inv enabled met.1 met.2
  | unsubscribe sub =>
    obtain ⟨subID, here⟩ := Option.isSome_iff_exists.mp enabled
    exact unsubscribe_inv inv here (met subID here)
  | snapshot order => exact snapshot_inv inv enabled
  | restoreAnswered sub left restored subID => exact restoreAnswered_inv inv enabled.1 met
  | commit restored => exact commit_inv inv enabled
  | replaceConnection =>
    exact { inv with
      current := fun restore member => { inv.current restore member with } }

/-- In every state that is reached, the map has exactly the subscriptions that
were returned and not unsubscribed, each under its own id. -/
theorem map_has_the_live_subscriptions {events : List Event} {final : State}
    (met : Along step Separate initial events)
    (ran : run step initial events = some final) : MapExact final :=
  (invariant_along Inv step_inv initial_inv met ran).exact

def restoredRun : List Event :=
  [.subscribeAnswered 0 1, .subscribeAnswered 1 2, .install 1 2,
    .install 0 1, .replaceConnection, .snapshot [0, 1],
    .restoreAnswered 0 [1] [] 2, .restoreAnswered 1 [] [⟨0, 2⟩] 1,
    .commit [⟨0, 2⟩, ⟨1, 1⟩], .unsubscribe 0]

theorem restoredRun_is_exact : ∃ final, run step initial restoredRun = some final ∧
      MapExact final ∧ final.subscriptions.lookup 1 = some 1 := by
  apply exists_kept_and
  · decide +kernel
  · intro final ran
    exact map_has_the_live_subscriptions (by decide +kernel) ran

/-- While a restore is running, a subscription is made and the other one is
removed. -/
def overtakenRun : List Event :=
  [.subscribeAnswered 0 1, .install 0 1, .snapshot [0],
    .subscribeAnswered 1 2, .install 1 2, .unsubscribe 0,
    .restoreAnswered 0 [] [] 3, .commit [⟨0, 3⟩]]

/-- The removed subscription is back in the map, and the new one is not in
it. -/
theorem restore_undoes_what_overtakes_it : ∃ final, run step initial overtakenRun = some final ∧
      final.answered = [] ∧ final.restores = [] ∧
      (0 ∈ final.unsubscribed ∧ final.subscriptions.lookup 3 = some 0) ∧
      (Live final 1 2 ∧ final.subscriptions.lookup 2 = none) ∧
      ¬ MapExact final := by
  obtain ⟨final, ran, answered, restores, gone, live, dropped⟩ :
      ∃ final, run step initial overtakenRun = some final ∧
        final.answered = [] ∧ final.restores = [] ∧
        (0 ∈ final.unsubscribed ∧ final.subscriptions.lookup 3 = some 0) ∧
        (final.objects.lookup 1 = some 2 ∧ 1 ∉ final.unsubscribed) ∧
        final.subscriptions.lookup 2 = none := by
    decide +kernel
  exact ⟨final, ran, answered, restores, gone, ⟨live, dropped⟩,
    fun exact => ((exact 3 0).mp gone.2).2 gone.1⟩

end FitzGo.Domains.LeaseSubscriptions
