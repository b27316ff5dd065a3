import FitzGo.Subscriptions.DomainClient

/-!
# NOTIFY frames find their registrations

No NOTIFY is dispatched for an id that is not in the registry yet, and `Restore`
does not begin while a connection still dispatches for an id it replaces.
-/

namespace FitzGo.Subscriptions

open Connection (Domain Notification decodeNotify acceptsPayload acceptsPayload_of_decodeNotify)
open StepMachine

/-- Frames come after their handler and acknowledgement, a restore after the old
session. -/
def Orderly (domain : Domain) (state : State) : Event → Prop
  | .notify conn payload =>
    state.attachment conn ≠ .replacing ∧
      match decodeNotify domain payload with
      | none => True
      | some notification =>
        ∀ ack ∈ state.unpublished, ¬ (ack.conn = conn ∧ ack.subID = notification.subID)
  | .restore => ∀ ack ∈ state.published, state.ended ack.conn = true
  | .replaceConn _ => state.init.isReading = false
  | _ => True

instance (domain : Domain) (state : State) (event : Event) :
    Decidable (Orderly domain state event) := by
  rcases event with ⟨⟩ <;> dsimp only [Orderly] <;> try infer_instance
  split <;> infer_instance

/-- What is published on an open connection is what the registry has. -/
structure Delivers (state : State) : Prop where
  consistent : state.registry.Consistent
  busy : state.restorer ≠ .idle → state.registry.restoring = true ∧ state.registry.pending = []
  pending : ∀ call pattern, (state.calls call).pattern? = some pattern →
    pattern ∈ state.registry.pending ∧ state.registry.subIDOf pattern = none
  unique : ∀ call other pattern, (state.calls call).pattern? = some pattern →
    (state.calls other).pattern? = some pattern → call = other
  progress : ∀ restored left, state.restorer.progress = some (restored, left) →
    restored.map Ack.pattern ++ left = state.registry.restoreOrder ∧ (restored.map Ack.subID).Nodup
  replaced : ∀ restored left, state.restorer.progress = some (restored, left) →
    ∀ ack ∈ state.published, state.ended ack.conn = true
  published : ∀ ack ∈ state.published, state.ended ack.conn = false →
    state.registry.subIDOf ack.pattern = some ack.subID

theorem initial_delivers : Delivers initial where
  consistent := Registry.empty_consistent
  busy impossible := absurd rfl impossible
  pending _ _ impossible := nomatch impossible
  unique _ _ _ impossible := nomatch impossible
  progress _ _ impossible := nomatch impossible
  replaced _ _ impossible := nomatch impossible
  published _ impossible := nomatch impossible

section Registry

variable {state final : State}

section

variable (inv : Delivers state)
include inv

theorem Delivers.restorer_idle (free : state.registry.restoring = false) :
    state.restorer = .idle := by
  by_contra busy
  have restoring := (inv.busy busy).1
  rw [free] at restoring
  exact nomatch restoring

variable {call : Nat} {pattern : Pattern}

theorem Delivers.restorer_idle_of_pending
    (inFlight : (state.calls call).pattern? = some pattern) : state.restorer = .idle := by
  by_contra busy
  have member := (inv.pending call pattern inFlight).1
  rw [(inv.busy busy).2] at member
  exact nomatch member

section

variable (registry : final.registry = state.registry)
  (published : final.published = state.published)
  (ended : ∀ conn, state.ended conn = true → final.ended conn = true)
  (calls : ∀ call, (final.calls call).pattern? = (state.calls call).pattern?)
  (idle : final.restorer ≠ .idle → state.restorer ≠ .idle)
include registry published ended calls idle

/-- A step that leaves the registry as it is. -/
theorem Delivers.keepsRegistry
    (progress : ∀ restored left, final.restorer.progress = some (restored, left) →
      restored.map Ack.pattern ++ left = state.registry.restoreOrder ∧
      (restored.map Ack.subID).Nodup)
    (wasBusy : ∀ restored left, final.restorer.progress = some (restored, left) →
      ∃ before, state.restorer.progress = some before) : Delivers final := by
  constructor
  · rw [registry]
    exact inv.consistent
  · intro busy
    rw [registry]
    exact inv.busy (idle busy)
  · intro call pattern inFlight
    rw [registry]
    rw [calls] at inFlight
    exact inv.pending call pattern inFlight
  · intro call other pattern one two
    rw [calls] at one two
    exact inv.unique call other pattern one two
  · intro restored left running
    rw [registry]
    exact progress restored left running
  · intro restored left running ack member
    rw [published] at member
    obtain ⟨⟨before, leftBefore⟩, wasRunning⟩ := wasBusy restored left running
    exact ended _ (inv.replaced before leftBefore wasRunning ack member)
  · intro ack member alive
    rw [published] at member
    rw [registry]
    apply inv.published ack member
    by_contra hasEnded
    have nowEnded := ended _ (Bool.eq_true_of_not_eq_false hasEnded)
    rw [alive] at nowEnded
    exact nomatch nowEnded

theorem Delivers.congr (progress : final.restorer.progress = state.restorer.progress ∨
      final.restorer.progress = none) : Delivers final := by
  refine inv.keepsRegistry registry published ended calls idle ?_ ?_
  · intro restored left running
    rcases progress with same | stopped
    · exact inv.progress restored left (same.symm.trans running)
    · rw [stopped] at running
      exact nomatch running
  · intro restored left running
    rcases progress with same | stopped
    · exact ⟨_, same.symm.trans running⟩
    · rw [stopped] at running
      exact nomatch running

end

/-- A change of the registry while nothing is restored. -/
theorem Delivers.updatesRegistry (wasIdle : state.restorer = .idle)
    (sameRestorer : final.restorer = state.restorer)
    (consistent : final.registry.Consistent) (ended : final.ended = state.ended)
    (pending : ∀ call pattern, (final.calls call).pattern? = some pattern →
      pattern ∈ final.registry.pending ∧ final.registry.subIDOf pattern = none)
    (unique : ∀ call other pattern, (final.calls call).pattern? = some pattern →
      (final.calls other).pattern? = some pattern → call = other)
    (published : ∀ ack ∈ final.published, ack ∈ state.published ∧
      (state.registry.subIDOf ack.pattern = some ack.subID →
      final.registry.subIDOf ack.pattern = some ack.subID) ∨
      final.registry.subIDOf ack.pattern = some ack.subID) : Delivers final where
  consistent := consistent
  busy impossible := absurd (sameRestorer.trans wasIdle) impossible
  pending := pending
  unique := unique
  progress _ _ impossible := by
    rw [sameRestorer, wasIdle] at impossible
    exact nomatch impossible
  replaced _ _ impossible := by
    rw [sameRestorer, wasIdle] at impossible
    exact nomatch impossible
  published ack member alive := by
    rcases published ack member with ⟨before, kept⟩ | now
    · rw [ended] at alive
      exact kept (inv.published ack before alive)
    · exact now

theorem Delivers.restorerMoves {restorer : Restorer} {unpublished : List Ack}
    (busy : state.restorer ≠ .idle)
    (progress : restorer.progress = state.restorer.progress ∨ restorer.progress = none) :
    Delivers { state with restorer, unpublished } :=
  inv.congr rfl rfl (fun _ => id) (fun _ => rfl) (fun _ => busy) progress

end

theorem pattern?_update (calls : Nat → Call) (call other : Nat) (phase : Call) :
    (Function.update calls call phase other).pattern? =
      if other = call then phase.pattern? else (calls other).pattern? := by
  rw [Function.update_apply]
  split
  · rfl
  · rfl

variable {domain : Domain}

private theorem subscribe_delivers (inv : Delivers state) (free : state.registry.restoring = false)
    (notPending : pattern ∉ state.registry.pending) :
    Delivers (next domain state (.subscribe call pattern)) := by
  have absent : ∀ other, (state.calls other).pattern? ≠ some pattern := by
    intro other inFlight
    exact notPending (inv.pending other pattern inFlight).1
  have pendingKept : ∀ other ∈ state.registry.pending,
        other ∈ (state.registry.beginSubscribe pattern call).pending := by
    intro other member
    unfold Registry.beginSubscribe
    split
    · exact member
    · exact List.mem_cons_of_mem _ member
  apply inv.updatesRegistry (inv.restorer_idle free)
  · rfl
  · exact Registry.beginSubscribe_consistent inv.consistent
  · rfl
  · intro other wanted inFlight
    simp only [next] at inFlight ⊢
    rw [pattern?_update] at inFlight
    rw [Registry.subIDOf_beginSubscribe]
    split at inFlight
    · cases found : state.registry.lookup pattern with
      | some entry =>
        rw [found] at inFlight
        exact nomatch inFlight
      | none =>
        rw [found] at inFlight
        injection inFlight with same
        subst same
        refine ⟨?_, by rw [Registry.subIDOf, found]; rfl⟩
        simp [Registry.beginSubscribe, found]
    · have before := inv.pending other wanted inFlight
      exact ⟨pendingKept wanted before.1, before.2⟩
  · intro one two wanted inFlightOne inFlightTwo
    simp only [next, pattern?_update] at inFlightOne inFlightTwo
    have isPattern : ∀ found : Bool,
          (if found then Call.finished true else Call.begun pattern).pattern? = some wanted →
          wanted = pattern := by
      intro found
      cases found with
      | true => simp [Call.pattern?]
      | false => exact fun same => (Option.some.inj same).symm
    split at inFlightOne
    · rename_i isOne
      split at inFlightTwo
      · rename_i isTwo
        exact isOne.trans isTwo.symm
      · rw [isPattern _ inFlightOne] at inFlightTwo
        exact absurd inFlightTwo (absent two)
    · split at inFlightTwo
      · rw [isPattern _ inFlightTwo] at inFlightOne
        exact absurd inFlightOne (absent one)
      · exact inv.unique one two wanted inFlightOne inFlightTwo
  · intro ack member
    refine Or.inl ⟨member, ?_⟩
    intro before
    exact Registry.subIDOf_beginSubscribe.trans before

/-- A `Subscribe` gives up its pending pattern. -/
private theorem leave_delivers (ok : Bool) (unpublished : List Ack) (inv : Delivers state)
    (inFlight : (state.calls call).pattern? = some pattern) :
    Delivers { state with
        registry := state.registry.dropPending pattern
        calls := Function.update state.calls call (.finished ok)
        unpublished } := by
  apply inv.updatesRegistry (inv.restorer_idle_of_pending inFlight)
  · rfl
  · exact inv.consistent.congr rfl rfl
  · rfl
  · intro other wanted otherInFlight
    rw [pattern?_update] at otherInFlight
    split at otherInFlight
    · exact nomatch otherInFlight
    · rename_i different
      have before := inv.pending other wanted otherInFlight
      refine ⟨?_, before.2⟩
      have patternNe : wanted ≠ pattern := by
        intro same
        subst same
        exact different (inv.unique other call _ otherInFlight inFlight)
      exact List.mem_filter.mpr ⟨before.1, by simpa using patternNe⟩
  · intro one two wanted inFlightOne inFlightTwo
    rw [pattern?_update] at inFlightOne inFlightTwo
    split at inFlightOne
    · exact nomatch inFlightOne
    · split at inFlightTwo
      · exact nomatch inFlightTwo
      · exact inv.unique one two wanted inFlightOne inFlightTwo
  · intro ack member
    exact Or.inl ⟨member, id⟩

section

variable (inv : Delivers state)
include inv

private theorem publish_delivers {ack : Ack}
    (acked : state.calls call = .acked ack) : Delivers (publish state call ack) := by
  have inFlight : (state.calls call).pattern? = some ack.pattern := by
    rw [acked]
    rfl
  have left := leave_delivers true [] inv inFlight
  unfold publish
  cases published : state.registry.publish ack.pattern ack.subID call with
  | none => exact leave_delivers false _ inv inFlight
  | some registry =>
    have absent := (inv.pending call ack.pattern inFlight).2
    obtain ⟨_, registryEq⟩ := Registry.publish_eq_some_iff.mp published
    have lookupNone : state.registry.lookup ack.pattern = none := Option.map_eq_none_iff.mp absent
    apply inv.updatesRegistry (inv.restorer_idle_of_pending inFlight)
    · rfl
    · exact Registry.publish_consistent inv.consistent lookupNone published
    · rfl
    · intro other wanted otherInFlight
      have before := left.pending other wanted otherInFlight
      have patternNe : wanted ≠ ack.pattern := by
        have member := (List.mem_filter.mp before.1).2
        simpa using member
      refine ⟨?_, ?_⟩
      · rw [registryEq]
        exact before.1
      · rw [Registry.subIDOf_publish published, if_neg patternNe]
        exact before.2
    · exact left.unique
    · intro one member
      simp only [Registry.subIDOf_publish published]
      rcases List.mem_cons.mp member with new | old
      · subst new
        exact Or.inr (if_pos rfl)
      · refine Or.inl ⟨old, ?_⟩
        intro before
        rw [if_neg ?_]
        · exact before
        · intro same
          rw [same, absent] at before
          exact nomatch before

private theorem unsubscribe_delivers {handlerID : Nat} (free : state.registry.restoring = false) :
    Delivers (next domain state (.unsubscribe pattern handlerID)) := by
  apply inv.updatesRegistry (inv.restorer_idle free)
  · rfl
  · exact Registry.unsubscribe_consistent inv.consistent
  · rfl
  · intro call wanted inFlight
    have before := inv.pending call wanted inFlight
    refine ⟨?_, ?_⟩
    · simp only [next]
      rw [Registry.pending_unsubscribe]
      exact before.1
    · simp only [next]
      rw [Registry.subIDOf_unsubscribe]
      split
      · rfl
      · exact before.2
  · exact inv.unique
  · intro ack member
    simp only [next] at member ⊢
    rw [Registry.subIDOf_unsubscribe]
    cases last : (state.registry.unsubscribe pattern handlerID).2 with
    | false =>
      rw [last] at member
      exact Or.inl ⟨member, fun before => by simpa using before⟩
    | true =>
      rw [last] at member
      obtain ⟨old, different⟩ := List.mem_filter.mp member
      have patternNe : ack.pattern ≠ pattern := by
        simpa using different
      refine Or.inl ⟨old, ?_⟩
      intro before
      rw [if_neg (fun both => patternNe both.2)]
      exact before

private theorem clear_delivers (free : state.registry.restoring = false) :
    Delivers (next domain state .clear) := by
  apply inv.updatesRegistry (inv.restorer_idle free)
  · rfl
  · exact Registry.clear_consistent _
  · rfl
  · intro call wanted inFlight
    exact ⟨(inv.pending call wanted inFlight).1, rfl⟩
  · exact inv.unique
  · intro ack member
    exact nomatch member

private theorem restore_delivers (noPending : state.registry.pending = [])
    (replaced : ∀ ack ∈ state.published, state.ended ack.conn = true) :
    Delivers (next domain state .restore) := by
  rw [next]
  split
  · exact inv
  · exact { inv with
        consistent := inv.consistent.congr rfl rfl
        busy := fun _ => ⟨rfl, noPending⟩
        progress := by
          intro restored left running
          injection running with pair
          injection pair with restoredEq leftEq
          subst restoredEq leftEq
          exact ⟨rfl, List.nodup_nil⟩
        replaced := fun _ _ _ => replaced }

private theorem acceptRestore_delivers {ack : Ack} {left : List Pattern} {restored : List Ack}
    (acked : state.restorer = .acked ack left restored) :
    Delivers (next domain state (.acceptRestore ack left restored)) := by
  have running : state.restorer.progress = some (restored, ack.pattern :: left) := by
    rw [acked]
    rfl
  have ⟨order, ids⟩ := inv.progress _ _ running
  have busy : state.restorer ≠ .idle := by
    rw [acked]
    exact nofun
  rw [next]
  cases duplicate : restored.any fun one => one.subID = ack.subID with
  | true => exact inv.restorerMoves busy (Or.inr rfl)
  | false =>
    refine inv.keepsRegistry rfl rfl (fun _ => id) (fun _ => rfl) (fun _ => busy) ?_ ?_
    · intro restoredNow leftNow runningNow
      injection runningNow with pair
      injection pair with restoredEq leftEq
      subst restoredEq leftEq
      refine ⟨?_, ?_⟩
      · simpa using order
      · have fresh : ack.subID ∉ restored.map Ack.subID := by
          simpa using duplicate
        rw [List.map_append, List.nodup_append]
        refine ⟨ids, List.nodup_singleton _, ?_⟩
        intro id member other single same
        rw [List.map_singleton, List.mem_singleton] at single
        subst single same
        exact fresh member
    · exact fun _ _ _ => ⟨_, running⟩

private theorem commitRestore_delivers {restored : List Ack}
    (wiring : state.restorer = .wiring [] restored) :
    Delivers (next domain state (.commitRestore restored)) := by
  have running : state.restorer.progress = some (restored, []) := by
    rw [wiring]
    rfl
  have busy : state.restorer ≠ .idle := by
    rw [wiring]
    exact nofun
  have ⟨order, ids⟩ := inv.progress _ _ running
  rw [List.append_nil] at order
  have patternsEq :
      (restored.map Ack.restored).map Restored.pattern = state.registry.restoreOrder := by
    rw [List.map_map]
    exact order
  have complete : state.registry.Complete (restored.map Ack.restored) :=
    { patterns := patternsEq ▸ inv.consistent.restoreOrder_nodup
      ids := by
        rw [List.map_map]
        exact ids
      covers := fun pattern => by
        rw [patternsEq]
        exact Registry.mem_restoreOrder.symm }
  refine
    { consistent := complete.commitRestore_consistent inv.consistent
      busy := fun _ => inv.busy busy
      pending := ?_
      unique := inv.unique
      progress := nofun
      replaced := nofun
      published := ?_ }
  · intro call pattern inFlight
    exact absurd (inv.restorer_idle_of_pending inFlight) busy
  · intro ack member alive
    simp only [next]
    rw [complete.subIDOf_commitRestore, Registry.restoredID_eq_some_iff complete.patterns]
    rcases List.mem_append.mp member with new | old
    · exact List.mem_map_of_mem new
    · have hasEnded := inv.replaced _ _ running ack old
      exact absurd (alive.symm.trans hasEnded) (by decide)

end

/-- Every orderly step keeps the invariant. -/
theorem step_delivers {event : Event} (inv : Delivers state) (orderly : Orderly domain state event)
    (stepped : step domain state event = some final) : Delivers final := by
  obtain ⟨enabled, nextEq⟩ := guarded_eq_some_iff.mp stepped
  subst nextEq
  cases event with
  | endConn conn =>
    refine inv.congr rfl rfl ?_ (fun _ => rfl) id (.inl rfl)
    intro other hasEnded
    simp only [next, Function.update_apply]
    split
    · rfl
    · exact hasEnded
  | subscribe call pattern => exact subscribe_delivers inv enabled.2.2.1 enabled.2.2.2
  | sendSubscribe call pattern | ackSubscribe call ack =>
    refine inv.congr rfl rfl (fun _ => id) ?_ id (.inl rfl)
    intro other
    simp only [next, pattern?_update]
    split
    · rename_i same
      rw [same, enabled.1]
      rfl
    · rfl
  | publish call ack => exact publish_delivers inv enabled
  | failSubscribe call pattern => exact leave_delivers false _ inv enabled
  | unsubscribe pattern handlerID => exact unsubscribe_delivers inv enabled
  | clear => exact clear_delivers inv enabled
  | restore => exact restore_delivers inv enabled.2.2 orderly
  | sendRestore | ackRestore =>
    have running : state.restorer = _ := enabled.1
    apply inv.restorerMoves
    · rw [running]
      exact nofun
    · rw [running]
      exact .inl rfl
  | acceptRestore ack left restored => exact acceptRestore_delivers inv enabled
  | failRestore restored =>
    refine inv.restorerMoves ?_ (.inr rfl)
    intro idle
    have running := enabled.1
    rw [idle] at running
    exact nomatch running
  | rollBack | rolledBack =>
    have rolling : state.restorer = _ := enabled
    refine inv.restorerMoves ?_ (.inr rfl)
    rw [rolling]
    exact nofun
  | commitRestore restored => exact commitRestore_delivers inv enabled
  | finishRestore =>
    exact { inv with
        consistent := inv.consistent.congr rfl rfl
        busy := fun impossible => absurd rfl impossible
        progress := nofun
        replaced := nofun }
  | _ => exact inv.congr rfl rfl (fun _ => id) (fun _ => rfl) id (.inl rfl)

end Registry

end FitzGo.Subscriptions
