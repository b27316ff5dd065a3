import FitzGo.Subscriptions.RegistryConsistency

/-!
# The registrations of a registry

A section adds one registration or removes one, or removes all of them. The id
of an added one is new as long as the counter has not come around, and its
`Completion` is always new.
-/

namespace FitzGo.Subscriptions.Heap.Registry

variable {H Pattern E : Type} [DecidableEq Pattern]
variable {registry : Registry H Pattern} {pattern : Pattern}
variable {pointer : Pointer Pattern} {handler : H} {handlerID subID : UInt64}
variable {found : Registration H Pattern}

theorem find_of_lookup (registered : registry.byPattern.lookup pattern = some pointer)
    (handlerID : UInt64) :
    registry.find pattern handlerID = (registry.entries pointer).handlers.lookup handlerID := by
  rw [find, registered]

theorem find_of_none (absent : registry.byPattern.lookup pattern = none)
    (handlerID : UInt64) : registry.find pattern handlerID = none := by
  rw [find, absent]

theorem find_eq_some_iff : registry.find pattern handlerID = some found ↔ ∃ pointer,
      registry.byPattern.lookup pattern = some pointer ∧
      (registry.entries pointer).handlers.lookup handlerID = some found := by
  cases lookup : registry.byPattern.lookup pattern with
  | none =>
    rw [find_of_none lookup]
    simp
  | some pointer =>
    rw [find_of_lookup lookup]
    simp

theorem find_new (pattern : Pattern) (handlerID : UInt64) :
    (new : Registry H Pattern).find pattern handlerID = none := by
  apply find_of_none
  rw [new, AList.lookup_empty]

theorem find_dropPending (dropped target : Pattern) (handlerID : UInt64) :
    (registry.dropPending dropped).find target handlerID = registry.find target handlerID :=
  rfl

section

variable (consistent : registry.Consistent)
include consistent

theorem Consistent.pointer_ne {other : Pattern} {target : Pointer Pattern}
    (different : other ≠ pattern) (here : registry.byPattern.lookup pattern = some pointer)
    (there : registry.byPattern.lookup other = some target) : target ≠ pointer := by
  intro same
  have named := (consistent.pointed pattern pointer here).1
  have namedOther := (consistent.pointed other target there).1
  rw [same, named] at namedOther
  exact different namedOther.symm

theorem Consistent.find_setHandlers (here : registry.byPattern.lookup pattern = some pointer)
    (after : Registry H Pattern) {handlers : AList fun _ : UInt64 => Registration H Pattern}
    (maps : after.byPattern = registry.byPattern)
    (entries : after.entries =
      (registry.setEntry pointer { registry.entries pointer with handlers }).entries)
    {found : Option (Registration H Pattern)} (changed : handlers.lookup handlerID = found)
    (others : ∀ {id}, id ≠ handlerID →
      handlers.lookup id = (registry.entries pointer).handlers.lookup id)
    (other : Pattern) (id : UInt64) :
    after.find other id =
      if other = pattern ∧ id = handlerID then found else registry.find other id := by
  by_cases samePattern : other = pattern
  · subst samePattern
    rw [find_of_lookup (maps ▸ here), entries, entries_setEntry_self, find_of_lookup here]
    by_cases sameID : id = handlerID
    · rw [if_pos ⟨rfl, sameID⟩, sameID]
      exact changed
    · rw [if_neg (fun both => sameID both.2)]
      exact others sameID
  · rw [if_neg (fun both => samePattern both.1)]
    cases there : registry.byPattern.lookup other with
    | none => rw [find_of_none (maps ▸ there), find_of_none there]
    | some target =>
      have different := consistent.pointer_ne samePattern here there
      rw [find_of_lookup (maps ▸ there), find_of_lookup there, entries,
        entries_setEntry_of_ne different]

theorem Consistent.find_addHandler
    (here : registry.byPattern.lookup pattern = some pointer) (other : Pattern) (id : UInt64) :
    (registry.addHandler pointer pattern handler).find other id =
      if other = pattern ∧ id = registry.handlerID then some (registry.registration pattern handler)
      else registry.find other id :=
  consistent.find_setHandlers here (registry.addHandler pointer pattern handler) rfl rfl
    (AList.lookup_insert _) AList.lookup_insert_ne other id

/-- A first registration adds itself alone. -/
theorem Consistent.find_register
    (absent : registry.byPattern.lookup pattern = none) (other : Pattern) (id : UInt64) :
    (registry.register pattern subID handler).find other id =
      if other = pattern ∧ id = registry.handlerID then some (registry.registration pattern handler)
      else registry.find other id := by
  have lookup : (registry.register pattern subID handler).byPattern.lookup other =
        if other = pattern then some ⟨pattern, registry.allocated⟩
        else registry.byPattern.lookup other :=
    lookup_register other
  by_cases samePattern : other = pattern
  · subst samePattern
    rw [if_pos rfl] at lookup
    rw [find_of_lookup lookup, find_of_none absent, entries_register_self]
    by_cases sameID : id = registry.handlerID
    · rw [if_pos ⟨rfl, sameID⟩, sameID]
      exact AList.lookup_insert _
    · rw [if_neg (fun both => sameID both.2)]
      rw [AList.lookup_insert_ne sameID, AList.lookup_empty]
  · rw [if_neg samePattern] at lookup
    rw [if_neg (fun both => samePattern both.1)]
    cases there : registry.byPattern.lookup other with
    | none =>
      rw [there] at lookup
      rw [find_of_none lookup, find_of_none there]
    | some target =>
      rw [there] at lookup
      rw [find_of_lookup lookup, find_of_lookup there,
        entries_register_of_ne (consistent.lookup_ne_new there)]

theorem Consistent.find_dropHandler (here : registry.byPattern.lookup pattern = some pointer)
    (completion : Nat) (other : Pattern) (id : UInt64) :
    (registry.dropHandler pointer handlerID completion).find other id =
      if other = pattern ∧ id = handlerID then none
      else registry.find other id :=
  consistent.find_setHandlers here (registry.dropHandler pointer handlerID completion) rfl rfl
    (AList.lookup_erase ..) AList.lookup_erase_ne other id

end

private theorem find_remove (subID : UInt64) (other : Pattern) (id : UInt64) :
    (registry.remove pattern subID).find other id =
      if other = pattern then none else registry.find other id := by
  by_cases same : other = pattern
  · have lookup : (registry.remove pattern subID).byPattern.lookup other = none := by
      rw [same]
      exact AList.lookup_erase ..
    rw [if_pos same, find_of_none lookup]
  · have lookup :
        (registry.remove pattern subID).byPattern.lookup other = registry.byPattern.lookup other :=
      AList.lookup_erase_ne same
    rw [if_neg same]
    cases there : registry.byPattern.lookup other with
    | none =>
      rw [there] at lookup
      rw [find_of_none lookup, find_of_none there]
    | some target =>
      rw [there] at lookup
      rw [find_of_lookup lookup, find_of_lookup there]
      rfl

/-- `Unsubscribe` removes one registration. -/
theorem Consistent.find_unsubscribe
    (consistent : registry.Consistent) (other : Pattern) (id : UInt64) :
    (registry.unsubscribe pattern handlerID).1.find other id =
      if other = pattern ∧ id = handlerID then none
      else registry.find other id := by
  rcases unsubscribe_cases registry pattern handlerID with
    ⟨done, missing⟩ |
    ⟨registered, removed, here, -, ⟨-, done⟩ | ⟨last, done⟩⟩
  · rw [done]
    split
    · rename_i both
      obtain ⟨rfl, rfl⟩ := both
      cases lookup : registry.byPattern.lookup other with
      | none => exact find_of_none lookup id
      | some pointer => exact (find_of_lookup lookup id).trans (missing pointer lookup)
    · rfl
  · rw [done]
    exact consistent.find_dropHandler here removed.completion other id
  · rw [done]
    rw [find_remove, consistent.find_dropHandler here removed.completion other id]
    by_cases samePattern : other = pattern
    · subst samePattern
      rw [if_pos rfl]
      by_cases sameID : id = handlerID
      · rw [if_pos ⟨rfl, sameID⟩]
      · -- the id was not there, since nothing else was left
        rw [if_neg (fun both => sameID both.2), find_of_lookup here, eq_comm, AList.lookup_eq_none]
        intro member
        have stays : id ∈ (registry.entries registered).handlers.erase handlerID :=
          AList.mem_erase.mpr ⟨sameID, member⟩
        rw [AList.mem_keys, last] at stays
        cases stays
    · rw [if_neg samePattern]

theorem lookup_clear (pattern : Pattern) : registry.clear.1.byPattern.lookup pattern = none :=
  AList.lookup_empty pattern

theorem find_clear (pattern : Pattern) (handlerID : UInt64) :
    registry.clear.1.find pattern handlerID = none :=
  find_of_none (lookup_clear pattern) handlerID

theorem Consistent.find_attemptSubscribe
    (consistent : registry.Consistent) (other : Pattern) (id : UInt64) :
    (registry.attemptSubscribe pattern handler).1.find other id =
      if (registry.byPattern.lookup pattern).isSome = true ∧
          other = pattern ∧ id = registry.handlerID then
        some (registry.registration pattern handler)
      else registry.find other id := by
  cases here : registry.byPattern.lookup pattern with
  | some existing =>
    rw [attemptSubscribe_of_some here, consistent.find_addHandler here]
    simp
  | none =>
    by_cases listed : pattern ∈ registry.pending
    · rw [attemptSubscribe_of_pending here listed]
      simp
    · rw [attemptSubscribe_of_new here listed]
      simp
      rfl

theorem Consistent.find_publish (consistent : registry.Consistent) (result : Except E UInt64)
    (absent : registry.byPattern.lookup pattern = none) (other : Pattern) (id : UInt64) :
    (registry.publish pattern handler result).1.find other id =
      if (registry.publish pattern handler result).2.isOk = true ∧
          other = pattern ∧ id = registry.handlerID then
        some (registry.registration pattern handler)
      else registry.find other id := by
  rcases publish_cases registry pattern handler result with
    ⟨error, published⟩ | ⟨subID, -, unused, published⟩
  · rw [published]
    simp [Except.isOk, Except.toBool, find_dropPending]
  · rw [published]
    have dropped : (registry.dropPending pattern).Consistent := consistent.dropPending
    rw [dropped.find_register absent other id]
    simp [Except.isOk, Except.toBool]
    rfl

/-! ## Completions -/

theorem completions_unsubscribe :
    (registry.unsubscribe pattern handlerID).1.completions = registry.completions := by
  rcases unsubscribe_cases registry pattern handlerID with
    ⟨done, -⟩ | ⟨registered, removed, -, -, ⟨-, done⟩ | ⟨-, done⟩⟩
  · rw [done]
  · rw [done]
    rfl
  · rw [done]
    rfl

/-! ## The last handler of a pattern -/

private theorem mem_handlerIDs_iff :
    handlerID ∈ registry.handlerIDs pattern ↔ (registry.find pattern handlerID).isSome = true := by
  cases here : registry.byPattern.lookup pattern with
  | none => simp [handlerIDs, find, here]
  | some pointer =>
    simp only [handlerIDs, find, here]
    rw [AList.lookup_isSome, AList.mem_keys]

/-- The result says that the last handler is gone. -/
theorem unsubscribe_eq_true_iff :
    (registry.unsubscribe pattern handlerID).2 = true ↔ handlerID ∈ registry.handlerIDs pattern ∧
      (registry.unsubscribe pattern handlerID).1.handlerIDs pattern = [] := by
  rcases unsubscribe_cases registry pattern handlerID with
    ⟨done, missing⟩ |
    ⟨registered, removed, here, handled, ⟨left, done⟩ | ⟨last, done⟩⟩
  · rw [done]
    constructor
    · intro impossible
      cases impossible
    · intro ⟨member, empty⟩
      rw [empty] at member
      cases member
  · rw [done]
    constructor
    · intro impossible
      cases impossible
    · intro ⟨_, empty⟩
      have lookup : (registry.dropHandler registered handlerID
            removed.completion).byPattern.lookup pattern = some registered := here
      have cell : (registry.dropHandler registered handlerID
            removed.completion).entries registered = { registry.entries registered with
                handlers := (registry.entries registered).handlers.erase handlerID } :=
        entries_setEntry_self
      rw [handlerIDs, lookup] at empty
      dsimp only at empty
      rw [cell] at empty
      exact absurd empty left
  · rw [done]
    refine ⟨fun _ => ⟨?_, ?_⟩, fun _ => rfl⟩
    · rw [mem_handlerIDs_iff, find_of_lookup here, handled]
      rfl
    · have lookup : ((registry.dropHandler registered handlerID removed.completion).remove pattern
              (registry.entries registered).subID).byPattern.lookup pattern = none :=
        AList.lookup_erase ..
      rw [handlerIDs, lookup]

end FitzGo.Subscriptions.Heap.Registry
