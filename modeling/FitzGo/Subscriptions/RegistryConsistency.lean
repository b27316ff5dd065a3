import FitzGo.Subscriptions.RegistryHeap

/-!
# Consistency of the registry

The map by id holds an entry under an id exactly when the map by pattern holds
it under its pattern and the id is the entry's, whatever the counter of handler
ids does. That handler ids are unique rests on the counter.
-/

namespace FitzGo.Subscriptions.Heap.Registry

variable {H Pattern E : Type} [DecidableEq Pattern]
variable {registry : Registry H Pattern} {pattern : Pattern}
variable {pointer : Pointer Pattern} {handler : H} {handlerID subID : UInt64}

structure Consistent (registry : Registry H Pattern) : Prop where
  pointed : ∀ pattern pointer, registry.byPattern.lookup pattern = some pointer →
    pointer.pattern = pattern ∧ pointer.number < registry.allocated
  handled : ∀ pattern pointer, registry.byPattern.lookup pattern = some pointer →
    (registry.entries pointer).handlers.keys ≠ []
  agree : ∀ subID pointer, registry.live subID = some pointer ↔
    registry.byPattern.lookup pointer.pattern = some pointer ∧
    (registry.entries pointer).subID = subID
  separate : registry.bySubID ≠ registry.restoreBySubIDScratch

/-- Handler ids come from the counter, and no two entries share one. -/
structure Numbered (registry : Registry H Pattern) : Prop where
  issued : ∀ pointer handlerID, handlerID ∈ (registry.entries pointer).handlers →
    handlerID ≤ registry.nextHandlerID
  unique : ∀ pointer other handlerID, handlerID ∈ (registry.entries pointer).handlers →
    handlerID ∈ (registry.entries other).handlers → pointer = other

/-- The counter of handler ids has not reached its end. -/
def HasHandlerID (registry : Registry H Pattern) : Prop :=
  registry.nextHandlerID < registry.handlerID

instance : Decidable registry.HasHandlerID :=
  inferInstanceAs (Decidable (_ < _))

theorem new_consistent : (new : Registry H Pattern).Consistent where
  pointed _ _ found := by
    rw [new, AList.lookup_empty] at found
    cases found
  handled _ _ found := by
    rw [new, AList.lookup_empty] at found
    cases found
  agree subID pointer := by
    rw [new, AList.lookup_empty]
    exact ⟨fun found => (by cases found), fun found => (by cases found.1)⟩
  separate := Nat.zero_ne_one

omit [DecidableEq Pattern] in
theorem new_numbered : (new : Registry H Pattern).Numbered where
  issued _ _ found := absurd found (AList.notMem_empty _)
  unique _ _ _ found := absurd found (AList.notMem_empty _)

omit [DecidableEq Pattern] in
theorem insert_keys_ne_nil {handlers : AList fun _ : UInt64 => Registration H Pattern}
    {registration : Registration H Pattern} :
    (handlers.insert handlerID registration).keys ≠ [] := by
  rw [AList.keys_insert]
  exact List.cons_ne_nil _ _

/-! ## Changing the handlers of one entry -/

variable {entry : Entry H Pattern}

@[simp]
theorem entries_setEntry_self : (registry.setEntry pointer entry).entries pointer = entry :=
  Function.update_self ..

theorem entries_setEntry_of_ne {other : Pointer Pattern} (different : other ≠ pointer) :
    (registry.setEntry pointer entry).entries other = registry.entries other :=
  Function.update_of_ne different ..

theorem Consistent.setHandlers (consistent : registry.Consistent) (pointer : Pointer Pattern)
    {handlers : AList fun _ : UInt64 => Registration H Pattern} (nonempty : handlers.keys ≠ []) :
    (registry.setEntry pointer { registry.entries pointer with handlers }).Consistent :=
  { consistent with
    handled other target found := by
      by_cases same : target = pointer
      · rw [same, entries_setEntry_self]
        exact nonempty
      · rw [entries_setEntry_of_ne same]
        exact consistent.handled other target found
    agree subID target := by
      have kept : ((registry.setEntry pointer
            { registry.entries pointer with handlers }).entries target).subID =
            (registry.entries target).subID := by
        by_cases same : target = pointer
        · rw [same, entries_setEntry_self]
        · rw [entries_setEntry_of_ne same]
      rw [kept]
      exact consistent.agree subID target }

theorem Consistent.addHandler (consistent : registry.Consistent) :
    (registry.addHandler pointer pattern handler).Consistent :=
  have counted : registry.counted.Consistent := { consistent with }
  counted.setHandlers pointer insert_keys_ne_nil

theorem Numbered.setEntry (numbered : registry.Numbered) {after : Registry H Pattern}
    (entries : after.entries = Function.update registry.entries pointer entry)
    (grown : registry.nextHandlerID ≤ after.nextHandlerID)
    (fresh : ∀ handlerID ∈ entry.handlers, handlerID ∈ (registry.entries pointer).handlers ∨
      registry.nextHandlerID < handlerID ∧ handlerID ≤ after.nextHandlerID) : after.Numbered := by
  -- an id found in another cell is an old one, so it is not the fresh one
  have elsewhere : ∀ other handlerID, other ≠ pointer →
      handlerID ∈ (registry.entries other).handlers →
      handlerID ∉ entry.handlers := by
    intro other handlerID different old mem
    rcases fresh handlerID mem with kept | ⟨new, _⟩
    · exact different (numbered.unique other pointer handlerID old kept)
    · exact absurd (numbered.issued other handlerID old) (UInt64.not_le.mpr new)
  refine ⟨fun target handlerID found => ?_, fun target other handlerID found foundOther => ?_⟩
  · rw [entries] at found
    by_cases same : target = pointer
    · rw [same, Function.update_self] at found
      rcases fresh handlerID found with kept | ⟨_, bounded⟩
      · exact UInt64.le_trans (numbered.issued _ _ kept) grown
      · exact bounded
    · rw [Function.update_of_ne same] at found
      exact UInt64.le_trans (numbered.issued _ _ found) grown
  · rw [entries] at found foundOther
    by_cases same : target = pointer <;> by_cases sameOther : other = pointer
    · rw [same, sameOther]
    · rw [same, Function.update_self] at found
      rw [Function.update_of_ne sameOther] at foundOther
      exact absurd found (elsewhere other handlerID sameOther foundOther)
    · rw [Function.update_of_ne same] at found
      rw [sameOther, Function.update_self] at foundOther
      exact absurd foundOther (elsewhere target handlerID same found)
    · rw [Function.update_of_ne same] at found
      rw [Function.update_of_ne sameOther] at foundOther
      exact numbered.unique target other handlerID found foundOther

theorem Numbered.addHandler (numbered : registry.Numbered) (next : registry.HasHandlerID) :
    (registry.addHandler pointer pattern handler).Numbered := by
  refine numbered.setEntry rfl (UInt64.le_of_lt next) fun id mem => ?_
  rcases (AList.mem_insert _).mp mem with rfl | old
  · exact Or.inr ⟨next, UInt64.le_refl _⟩
  · exact Or.inl old

/-! ## A new entry -/

theorem Consistent.lookup_ne_new (consistent : registry.Consistent) {other : Pattern}
    (found : registry.byPattern.lookup other = some pointer) :
    pointer ≠ ⟨pattern, registry.allocated⟩ := by
  rintro rfl
  exact Nat.lt_irrefl _ (consistent.pointed other _ found).2

theorem lookup_register (target : Pattern) :
    (registry.register pattern subID handler).byPattern.lookup target =
      if target = pattern then some ⟨pattern, registry.allocated⟩
      else registry.byPattern.lookup target := by
  by_cases same : target = pattern
  · rw [if_pos same, same]
    exact AList.lookup_insert _
  · rw [if_neg same]
    exact AList.lookup_insert_ne same

theorem live_register (target : UInt64) : (registry.register pattern subID handler).live target =
      if target = subID then some ⟨pattern, registry.allocated⟩
      else registry.live target := by
  have updated : (registry.register pattern subID handler).live =
        Function.update registry.live subID (some ⟨pattern, registry.allocated⟩) :=
    Function.update_self ..
  rw [updated, Function.update_apply]

theorem entries_register_of_ne (different : pointer ≠ ⟨pattern, registry.allocated⟩) :
    (registry.register pattern subID handler).entries pointer = registry.entries pointer :=
  Function.update_of_ne different ..

theorem entries_register_self :
    (registry.register pattern subID handler).entries ⟨pattern, registry.allocated⟩ =
      ⟨subID, AList.insert registry.handlerID (registry.registration pattern handler) ∅⟩ :=
  Function.update_self ..

theorem Consistent.register (consistent : registry.Consistent)
    (absent : registry.byPattern.lookup pattern = none) (unused : registry.live subID = none) :
    (registry.register pattern subID handler).Consistent where
  pointed other target found := by
    rw [lookup_register] at found
    split at found
    · cases found
      exact ⟨‹other = pattern›.symm, Nat.lt_succ_self _⟩
    · obtain ⟨named, old⟩ := consistent.pointed other target found
      exact ⟨named, Nat.lt_succ_of_lt old⟩
  handled other target found := by
    rw [lookup_register] at found
    split at found
    · cases found
      rw [entries_register_self]
      exact insert_keys_ne_nil
    · rw [entries_register_of_ne (consistent.lookup_ne_new found)]
      exact consistent.handled other target found
  agree id target := by
    rw [live_register, lookup_register]
    by_cases sameID : id = subID
    · rw [if_pos sameID, sameID]
      constructor
      · intro found
        cases found
        exact ⟨if_pos rfl, congrArg Entry.subID entries_register_self⟩
      · intro ⟨found, named⟩
        split at found
        · exact found
        · -- an old entry with this id would make the id used
          rw [entries_register_of_ne (consistent.lookup_ne_new found)] at named
          rw [(consistent.agree subID target).mpr ⟨found, named⟩] at unused
          cases unused
    · rw [if_neg sameID, consistent.agree id target]
      constructor
      · intro ⟨found, named⟩
        have other : target.pattern ≠ pattern := by
          intro same
          rw [same, absent] at found
          cases found
        rw [if_neg other, entries_register_of_ne (consistent.lookup_ne_new found)]
        exact ⟨found, named⟩
      · intro ⟨found, named⟩
        split at found
        · cases found
          rw [entries_register_self] at named
          exact absurd named.symm sameID
        · rw [entries_register_of_ne (consistent.lookup_ne_new found)] at named
          exact ⟨found, named⟩
  separate := consistent.separate

theorem Numbered.register (numbered : registry.Numbered) (next : registry.HasHandlerID) :
    (registry.register pattern subID handler).Numbered := by
  refine numbered.setEntry rfl (UInt64.le_of_lt next) fun id mem => ?_
  rcases (AList.mem_insert _).mp mem with rfl | old
  · exact Or.inr ⟨next, UInt64.le_refl _⟩
  · exact absurd old (AList.notMem_empty _)

theorem Consistent.dropPending (consistent : registry.Consistent) :
    (registry.dropPending pattern).Consistent :=
  { consistent with }

theorem attemptSubscribe_of_some (found : registry.byPattern.lookup pattern = some pointer) :
    registry.attemptSubscribe pattern handler = (registry.addHandler pointer pattern handler,
      .returned (registry.entries pointer).subID registry.handlerID) := by
  rw [attemptSubscribe, found]

theorem attemptSubscribe_of_pending (absent : registry.byPattern.lookup pattern = none)
    (listed : pattern ∈ registry.pending) :
    registry.attemptSubscribe pattern handler = (registry, .retry) := by
  rw [attemptSubscribe, absent]
  exact if_pos listed

theorem attemptSubscribe_of_new (absent : registry.byPattern.lookup pattern = none)
    (unlisted : pattern ∉ registry.pending) :
    registry.attemptSubscribe pattern handler =
      ({ registry with pending := pattern :: registry.pending }, .call) := by
  rw [attemptSubscribe, absent]
  exact if_neg unlisted

theorem Consistent.attemptSubscribe (consistent : registry.Consistent) :
    (registry.attemptSubscribe pattern handler).1.Consistent := by
  unfold Registry.attemptSubscribe
  split
  · exact consistent.addHandler
  · split
    · exact consistent
    · exact { consistent with }

theorem Numbered.attemptSubscribe (numbered : registry.Numbered)
    (next : (registry.byPattern.lookup pattern).isSome = true → registry.HasHandlerID) :
    (registry.attemptSubscribe pattern handler).1.Numbered := by
  unfold Registry.attemptSubscribe
  split
  · rename_i found
    rw [found] at next
    exact numbered.addHandler (next rfl)
  · split
    · exact numbered
    · exact { numbered with }

theorem publish_cases (registry : Registry H Pattern)
    (pattern : Pattern) (handler : H) (result : Except E UInt64) :
    (∃ error, registry.publish pattern handler result =
      (registry.dropPending pattern, .error error)) ∨ ∃ subID, result = .ok subID ∧
      (registry.live subID).isSome = false ∧ registry.publish pattern handler result =
      ((registry.dropPending pattern).register pattern subID handler,
      .ok (subID, registry.handlerID)) := by
  cases result with
  | error error => exact Or.inl ⟨_, rfl⟩
  | ok subID =>
    by_cases used : (registry.live subID).isSome = true
    · exact Or.inl ⟨_, if_pos used⟩
    · exact Or.inr ⟨subID, rfl, Bool.eq_false_iff.mpr used, if_neg used⟩

theorem Consistent.publish (consistent : registry.Consistent) (result : Except E UInt64)
    (absent : registry.byPattern.lookup pattern = none) :
    (registry.publish pattern handler result).1.Consistent := by
  cases result with
  | error error => exact consistent.dropPending
  | ok subID =>
    unfold Registry.publish
    dsimp only
    split
    · exact consistent.dropPending
    · rename_i unused
      exact consistent.dropPending.register absent (Option.not_isSome_iff_eq_none.mp unused)

theorem Numbered.publish (numbered : registry.Numbered) (result : Except E UInt64)
    (next : ∀ subID, result = .ok subID →
      (registry.live subID).isSome = false → registry.HasHandlerID) :
    (registry.publish pattern handler result).1.Numbered := by
  have dropped : (registry.dropPending pattern).Numbered := { numbered with }
  cases result with
  | error error => exact dropped
  | ok subID =>
    unfold Registry.publish
    dsimp only
    split
    · exact dropped
    · rename_i unused
      exact dropped.register (next subID rfl (Bool.eq_false_iff.mpr unused))

/-! ## Removing handlers and entries -/

theorem Consistent.remove (consistent : registry.Consistent)
    (found : registry.byPattern.lookup pattern = some pointer)
    (handlers : AList fun _ : UInt64 => Registration H Pattern) :
    ((registry.setEntry pointer
      { registry.entries pointer with handlers }).remove pattern
        (registry.entries pointer).subID).Consistent := by
  have named := (consistent.pointed pattern pointer found).1
  have erased : ∀ other target, (registry.byPattern.erase pattern).lookup other = some target ↔
        other ≠ pattern ∧ registry.byPattern.lookup other = some target := by
    intro other target
    by_cases same : other = pattern
    · rw [same, AList.lookup_erase]
      exact ⟨fun impossible => (by cases impossible), fun impossible => absurd rfl impossible.1⟩
    · rw [AList.lookup_erase_ne same]
      exact ⟨fun kept => ⟨same, kept⟩, fun kept => kept.2⟩
  have elsewhere : ∀ other target, other ≠ pattern →
      registry.byPattern.lookup other = some target → target ≠ pointer := by
    rintro other target different kept rfl
    exact different ((consistent.pointed other _ kept).1.symm.trans named)
  have cell : ∀ target, target ≠ pointer →
      ((registry.setEntry pointer
        { registry.entries pointer with handlers }).remove pattern
          (registry.entries pointer).subID).entries target =
        registry.entries target :=
    fun target different => entries_setEntry_of_ne different
  have live : ((registry.setEntry pointer
        { registry.entries pointer with handlers }).remove pattern
          (registry.entries pointer).subID).live =
        Function.update registry.live (registry.entries pointer).subID none :=
    Function.update_self ..
  refine ⟨fun other target kept => ?_, fun other target kept => ?_,
    fun id target => ?_, consistent.separate⟩
  · exact consistent.pointed other target ((erased other target).mp kept).2
  · obtain ⟨different, old⟩ := (erased other target).mp kept
    rw [cell target (elsewhere other target different old)]
    exact consistent.handled other target old
  · have held :=
      (consistent.agree (registry.entries pointer).subID pointer).mpr ⟨named.symm ▸ found, rfl⟩
    rw [live]
    constructor
    · intro kept
      by_cases gone : id = (registry.entries pointer).subID
      · rw [gone, Function.update_self] at kept
        cases kept
      · rw [Function.update_of_ne gone] at kept
        obtain ⟨old, sub⟩ := (consistent.agree id target).mp kept
        have different : target ≠ pointer := by
          rintro rfl
          exact gone sub.symm
        have other : target.pattern ≠ pattern := by
          intro same
          rw [same, found] at old
          cases old
          exact different rfl
        rw [cell target different]
        exact ⟨(erased _ target).mpr ⟨other, old⟩, sub⟩
    · intro ⟨kept, sub⟩
      obtain ⟨other, old⟩ := (erased _ target).mp kept
      have different := elsewhere _ target other old
      rw [cell target different] at sub
      have before := (consistent.agree id target).mpr ⟨old, sub⟩
      have unlike : id ≠ (registry.entries pointer).subID := by
        intro same
        rw [same, held] at before
        cases before
        exact different rfl
      rw [Function.update_of_ne unlike]
      exact before

/-- What `Unsubscribe` does: nothing, if it does not find the handler, and
otherwise it drops the handler, and the entry with the last one. -/
theorem unsubscribe_cases (registry : Registry H Pattern) (pattern : Pattern) (handlerID : UInt64) :
    (registry.unsubscribe pattern handlerID = (registry, false) ∧
      ∀ pointer, registry.byPattern.lookup pattern = some pointer →
        (registry.entries pointer).handlers.lookup handlerID = none) ∨
    ∃ registered removed, registry.byPattern.lookup pattern = some registered ∧
      (registry.entries registered).handlers.lookup handlerID = some removed ∧
      let left := (registry.entries registered).handlers.erase handlerID
      let dropped := registry.dropHandler registered handlerID removed.completion
      (left.keys ≠ [] ∧ registry.unsubscribe pattern handlerID = (dropped, false)) ∨
      (left.keys = [] ∧
        registry.unsubscribe pattern handlerID =
          (dropped.remove pattern (registry.entries registered).subID, true)) := by
  cases found : registry.byPattern.lookup pattern with
  | none =>
    refine Or.inl ⟨?_, fun pointer here => (by cases here)⟩
    rw [unsubscribe, found]
  | some registered =>
    cases handled : (registry.entries registered).handlers.lookup handlerID with
    | none =>
      refine Or.inl ⟨?_, fun pointer here => ?_⟩
      · rw [unsubscribe, found]
        dsimp only
        rw [handled]
      · cases here
        exact handled
    | some removed =>
      have cell :
          (registry.dropHandler registered handlerID removed.completion).entries registered =
            { registry.entries registered with
              handlers := (registry.entries registered).handlers.erase handlerID } :=
        entries_setEntry_self
      refine Or.inr ⟨registered, removed, rfl, handled, ?_⟩
      rw [unsubscribe, found]
      dsimp only
      rw [handled]
      dsimp only
      rw [cell]
      by_cases last : ((registry.entries registered).handlers.erase handlerID).keys = []
      · exact Or.inr ⟨last, if_neg (not_not.mpr last)⟩
      · exact Or.inl ⟨last, if_pos last⟩

theorem Consistent.unsubscribe (consistent : registry.Consistent) :
    (registry.unsubscribe pattern handlerID).1.Consistent := by
  rcases unsubscribe_cases registry pattern handlerID with
    ⟨done, -⟩ |
    ⟨registered, removed, found, -, ⟨left, done⟩ | ⟨-, done⟩⟩
  · rw [done]
    exact consistent
  · rw [done]
    have dropped := consistent.setHandlers registered left
    exact { dropped with }
  · rw [done]
    have gone := consistent.remove found ((registry.entries registered).handlers.erase handlerID)
    exact { gone with }

theorem lookup_unsubscribe_of_none {target : Pattern}
    (absent : registry.byPattern.lookup target = none) :
    (registry.unsubscribe pattern handlerID).1.byPattern.lookup target = none := by
  rcases unsubscribe_cases registry pattern handlerID with
    ⟨done, -⟩ | ⟨registered, removed, -, -, ⟨-, done⟩ | ⟨-, done⟩⟩
  · rw [done]
    exact absent
  · rw [done]
    exact absent
  · rw [done]
    by_cases same : target = pattern
    · rw [same]
      exact AList.lookup_erase ..
    · exact (AList.lookup_erase_ne same).trans absent

theorem unsubscribe_kept : (registry.unsubscribe pattern handlerID).1.pending = registry.pending ∧
      (registry.unsubscribe pattern handlerID).1.restoring = registry.restoring ∧
      (registry.unsubscribe pattern handlerID).1.nextHandlerID = registry.nextHandlerID := by
  rcases unsubscribe_cases registry pattern handlerID with
    ⟨done, -⟩ | ⟨registered, removed, -, -, ⟨-, done⟩ | ⟨-, done⟩⟩
  all_goals
    rw [done]
    exact ⟨rfl, rfl, rfl⟩

theorem Numbered.unsubscribe (numbered : registry.Numbered) :
    (registry.unsubscribe pattern handlerID).1.Numbered := by
  have dropped : ∀ registered completion,
      (registry.dropHandler registered handlerID completion).Numbered := by
    intro registered completion
    refine numbered.setEntry rfl (UInt64.le_refl _) fun id mem => Or.inl ?_
    exact (AList.mem_erase.mp mem).2
  rcases unsubscribe_cases registry pattern handlerID with
    ⟨done, -⟩ | ⟨registered, removed, -, -, ⟨-, done⟩ | ⟨-, done⟩⟩
  · rw [done]
    exact numbered
  · rw [done]
    exact dropped registered removed.completion
  · rw [done]
    have gone := dropped registered removed.completion
    exact { gone with }

theorem Consistent.clear (consistent : registry.Consistent) : registry.clear.1.Consistent where
  pointed _ _ found := by
    rw [Registry.clear, AList.lookup_empty] at found
    cases found
  handled _ _ found := by
    rw [Registry.clear, AList.lookup_empty] at found
    cases found
  agree subID pointer := by
    change Function.update registry.tables registry.bySubID _ registry.bySubID
      subID = some pointer ↔ (∅ : AList _).lookup _ = _ ∧ _
    rw [Function.update_self, AList.lookup_empty]
    exact ⟨fun found => (by cases found), fun found => (by cases found.1)⟩
  separate := consistent.separate

end FitzGo.Subscriptions.Heap.Registry
