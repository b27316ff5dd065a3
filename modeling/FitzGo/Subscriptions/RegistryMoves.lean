import FitzGo.Subscriptions.Registrations

/-!
# How the registrations move

A section may add a registration with the next handler id and the next
`Completion`, and it completes what it removes. What was once a registration's
place and `Completion` stays so, since neither is handed out twice.
-/

namespace FitzGo.Subscriptions.Heap

namespace Registry

variable {H Pattern E : Type} [DecidableEq Pattern]
variable {registry before after : Registry H Pattern} {pattern : Pattern}
variable {handler : H} {handlerID : UInt64} {completion : Nat}
variable {completed : List Nat} {found : Registration H Pattern}

/-- What a section may do to the registrations; `completed` are the completions
that it completes. -/
structure Moves (before after : Registry H Pattern) (completed : List Nat) : Prop where
  found : ∀ pattern handlerID registration, after.find pattern handlerID = some registration →
    before.find pattern handlerID = some registration ∨ (before.nextHandlerID < handlerID ∧
    registration.pattern = pattern ∧ registration.handlerID = handlerID ∧
    registration.completion = before.completions ∧ before.completions < after.completions ∧
    handlerID = after.nextHandlerID)
  lost : ∀ pattern handlerID registration, before.find pattern handlerID = some registration →
    after.find pattern handlerID = some registration ∨ registration.completion ∈ completed
  added : ∀ completion, before.completions ≤ completion → completion < after.completions →
    ∃ pattern handlerID registration, after.find pattern handlerID = some registration ∧
    registration.completion = completion
  completions : before.completions ≤ after.completions
  handlerIDs : before.nextHandlerID ≤ after.nextHandlerID
  removed : ∀ completion ∈ completed, ∃ pattern handlerID registration,
    before.find pattern handlerID = some registration ∧ registration.completion = completion ∧
    after.find pattern handlerID = none
  appended : after.completed = completed ++ before.completed

theorem Moves.refl (registry : Registry H Pattern) : Moves registry registry [] where
  found _ _ _ here := Or.inl here
  lost _ _ _ here := Or.inl here
  added _ old new := absurd new (Nat.not_lt.mpr old)
  completions := Nat.le_refl _
  handlerIDs := UInt64.le_refl _
  removed := nofun
  appended := rfl

theorem Moves.add (drawn : registry.HasHandlerID)
    (unused : registry.find pattern registry.handlerID = none)
    (finds : ∀ other id, after.find other id =
        if other = pattern ∧ id = registry.handlerID then
          some (registry.registration pattern handler)
        else registry.find other id)
    (completions : after.completions = registry.completions + 1)
    (handlerIDs : after.nextHandlerID = registry.handlerID)
    (appended : after.completed = registry.completed) : Moves registry after [] where
  found other id registration here := by
    rw [finds] at here
    split at here
    · rename_i both
      cases here
      refine Or.inr ⟨both.2 ▸ drawn, both.1.symm, both.2.symm, rfl, ?_, ?_⟩
      · omega
      · rw [handlerIDs, both.2]
    · exact Or.inl here
  lost other id registration here := by
    left
    rw [finds, if_neg]
    · exact here
    · rintro ⟨rfl, rfl⟩
      rw [unused] at here
      cases here
  added completion old new := by
    refine ⟨pattern, registry.handlerID, registry.registration pattern handler, ?_, ?_⟩
    · rw [finds, if_pos ⟨rfl, rfl⟩]
    · rw [completions] at new
      have same : registry.completions = completion := by omega
      exact same
  completions := by omega
  handlerIDs := by
    rw [handlerIDs]
    exact UInt64.le_of_lt drawn
  removed := nofun
  appended := appended

/-- A registration is among the handlers of an entry. -/
theorem mem_handlers_of_find (here : registry.find pattern handlerID = some found) : ∃ pointer,
      registry.byPattern.lookup pattern = some pointer ∧
      handlerID ∈ (registry.entries pointer).handlers := by
  obtain ⟨pointer, lookup, handled⟩ := find_eq_some_iff.mp here
  refine ⟨pointer, lookup, ?_⟩
  rw [← AList.lookup_isSome, handled]
  rfl

theorem Numbered.find_handlerID (numbered : registry.Numbered) (drawn : registry.HasHandlerID)
    (pattern : Pattern) : registry.find pattern registry.handlerID = none := by
  cases here : registry.find pattern registry.handlerID with
  | none => rfl
  | some found =>
    obtain ⟨pointer, -, member⟩ := mem_handlers_of_find here
    have issued := numbered.issued pointer _ member
    exact absurd issued (UInt64.not_le.mpr drawn)

theorem Consistent.attemptSubscribe_moves
    (consistent : registry.Consistent) (numbered : registry.Numbered)
    (drawn : (registry.byPattern.lookup pattern).isSome = true → registry.HasHandlerID) :
    Moves registry (registry.attemptSubscribe pattern handler).1 [] := by
  cases here : registry.byPattern.lookup pattern with
  | some existing =>
    rw [here] at drawn
    have next := drawn rfl
    rw [attemptSubscribe_of_some here]
    exact Moves.add next (numbered.find_handlerID next pattern)
      (consistent.find_addHandler here) rfl rfl rfl
  | none =>
    by_cases listed : pattern ∈ registry.pending
    · rw [attemptSubscribe_of_pending here listed]
      exact Moves.refl registry
    · rw [attemptSubscribe_of_new here listed]
      exact { Moves.refl registry with }

theorem Consistent.publish_moves (consistent : registry.Consistent) (numbered : registry.Numbered)
    (result : Except E UInt64) (absent : registry.byPattern.lookup pattern = none)
    (drawn : (registry.publish pattern handler result).2.isOk = true → registry.HasHandlerID) :
    Moves registry (registry.publish pattern handler result).1 [] := by
  rcases publish_cases registry pattern handler result with
    ⟨error, published⟩ | ⟨subID, -, unused, published⟩
  · rw [published]
    exact { Moves.refl registry with }
  · have isOk : (registry.publish pattern handler result).2.isOk = true := by
      rw [published]
      rfl
    have next := drawn isOk
    rw [published]
    exact Moves.add next (numbered.find_handlerID next pattern)
      (consistent.dropPending.find_register absent) rfl rfl rfl

theorem completion_eq_some_iff : registry.completion pattern handlerID = some completion ↔
      ∃ found, registry.find pattern handlerID = some found ∧ found.completion = completion := by
  unfold Registry.completion
  exact Option.map_eq_some_iff

theorem completed_unsubscribe : (registry.unsubscribe pattern handlerID).1.completed =
      (registry.completion pattern handlerID).toList ++ registry.completed := by
  rcases unsubscribe_cases registry pattern handlerID with
    ⟨done, missing⟩ |
    ⟨registered, removed, here, handled, ⟨-, done⟩ | ⟨-, done⟩⟩
  · have gone : registry.find pattern handlerID = none := by
      cases here : registry.byPattern.lookup pattern with
      | none => exact find_of_none here handlerID
      | some pointer =>
        rw [find_of_lookup here]
        exact missing pointer here
    simp [done, Registry.completion, gone]
  · have found : registry.find pattern handlerID = some removed := by
      rw [find_of_lookup here]
      exact handled
    simp [done, Registry.completion, found, dropHandler]
  · have found : registry.find pattern handlerID = some removed := by
      rw [find_of_lookup here]
      exact handled
    simp [done, Registry.completion, found, dropHandler, Registry.remove]

theorem Consistent.unsubscribe_moves (consistent : registry.Consistent)
    (pattern : Pattern) (handlerID : UInt64) :
    Moves registry (registry.unsubscribe pattern handlerID).1
      (registry.completion pattern handlerID).toList where
  found other id registration here := by
    rw [consistent.find_unsubscribe] at here
    split at here
    · cases here
    · exact Or.inl here
  lost other id registration here := by
    rw [consistent.find_unsubscribe]
    by_cases same : other = pattern ∧ id = handlerID
    · right
      obtain ⟨rfl, rfl⟩ := same
      simp [Registry.completion, here]
    · left
      rw [if_neg same]
      exact here
  added completion old new := by
    rw [completions_unsubscribe] at new
    omega
  completions := by rw [completions_unsubscribe]
  handlerIDs := by
    rw [unsubscribe_kept.2.2]
    exact UInt64.le_refl _
  removed completion member := by
    obtain ⟨found, here, same⟩ := completion_eq_some_iff.mp (Option.mem_toList.mp member)
    refine ⟨pattern, handlerID, found, here, same, ?_⟩
    rw [consistent.find_unsubscribe, if_pos ⟨rfl, rfl⟩]
  appended := completed_unsubscribe

/-- What `Clear` completes. -/
def clearedCompletions (registry : Registry H Pattern) : List Nat :=
  registry.byPattern.entries.flatMap fun binding =>
    (registry.entries binding.2).handlers.entries.map fun handler => handler.2.completion

theorem mem_clearedCompletions_iff : completion ∈ registry.clearedCompletions ↔ ∃ pattern handlerID,
      registry.completion pattern handlerID = some completion := by
  simp only [clearedCompletions, List.mem_flatMap, List.mem_map]
  constructor
  · rintro ⟨binding, member, handler, handled, rfl⟩
    refine ⟨binding.1, handler.1, ?_⟩
    have lookup : registry.byPattern.lookup binding.1 = some binding.2 :=
      AList.mem_lookup_iff.mpr member
    have registered : (registry.entries binding.2).handlers.lookup handler.1 = some handler.2 :=
      AList.mem_lookup_iff.mpr handled
    rw [Registry.completion, find_of_lookup lookup, registered]
    rfl
  · rintro ⟨pattern, handlerID, here⟩
    obtain ⟨found, finds, rfl⟩ := completion_eq_some_iff.mp here
    obtain ⟨pointer, lookup, registered⟩ := find_eq_some_iff.mp finds
    exact ⟨⟨pattern, pointer⟩, AList.mem_lookup_iff.mp lookup,
      ⟨handlerID, found⟩, AList.mem_lookup_iff.mp registered, rfl⟩

theorem clear_moves (registry : Registry H Pattern) :
    Moves registry registry.clear.1 registry.clearedCompletions where
  found other id registration here := by
    rw [find_clear] at here
    cases here
  lost other id registration here := by
    right
    apply mem_clearedCompletions_iff.mpr
    exact ⟨other, id, completion_eq_some_iff.mpr ⟨registration, here, rfl⟩⟩
  added _ old new := absurd new (Nat.not_lt.mpr old)
  completions := Nat.le_refl _
  handlerIDs := UInt64.le_refl _
  removed completion member := by
    obtain ⟨pattern, handlerID, here⟩ := mem_clearedCompletions_iff.mp member
    obtain ⟨found, finds, same⟩ := completion_eq_some_iff.mp here
    exact ⟨pattern, handlerID, found, finds, same, find_clear _ _⟩
  appended := rfl

/-! ## Completions -/

/-- Every registration has its own `Completion`, and those of the registrations
that are gone have been completed. -/
structure OwnCompletions (registry : Registry H Pattern) : Prop where
  issued : ∀ pattern handlerID found, registry.find pattern handlerID = some found →
    found.completion < registry.completions
  single : ∀ pattern handlerID found other otherID second,
    registry.find pattern handlerID = some found →
    registry.find other otherID = some second → found.completion = second.completion →
    pattern = other ∧ handlerID = otherID
  completed : ∀ completion, completion ∈ registry.completed ↔
    completion < registry.completions ∧ ∀ pattern handlerID found,
    registry.find pattern handlerID = some found → found.completion ≠ completion

theorem new_ownCompletions : (new : Registry H Pattern).OwnCompletions where
  issued pattern handlerID found here := by
    rw [find_new] at here
    cases here
  single pattern handlerID found _ _ _ here := by
    rw [find_new] at here
    cases here
  completed completion := by simp [new]

theorem Numbered.pattern_eq (numbered : registry.Numbered) (consistent : registry.Consistent)
    {other : Pattern} {second : Registration H Pattern}
    (here : registry.find pattern handlerID = some found)
    (there : registry.find other handlerID = some second) : pattern = other := by
  obtain ⟨pointer, lookup, member⟩ := mem_handlers_of_find here
  obtain ⟨otherPointer, otherLookup, otherMember⟩ := mem_handlers_of_find there
  obtain rfl := numbered.unique pointer otherPointer handlerID member otherMember
  rw [← (consistent.pointed pattern pointer lookup).1]
  exact (consistent.pointed other pointer otherLookup).1

/-- A registration whose `Completion` had been issued was there before. -/
theorem Moves.find_of_issued (moves : Moves before after completed)
    (here : after.find pattern handlerID = some found)
    (issued : found.completion < before.completions) :
    before.find pattern handlerID = some found := by
  rcases moves.found pattern handlerID found here with old | ⟨_, _, _, next, _⟩
  · exact old
  · omega

theorem Moves.ownCompletions (moves : Moves before after completed) (own : before.OwnCompletions)
    (consistent : after.Consistent) (numbered : after.Numbered) : after.OwnCompletions where
  issued pattern handlerID found here := by
    rcases moves.found pattern handlerID found here with old | ⟨_, _, _, next, grown, _⟩
    · exact Nat.lt_of_lt_of_le (own.issued pattern handlerID found old) moves.completions
    · omega
  single pattern handlerID found other otherID second here there same := by
    by_cases issued : found.completion < before.completions
    · exact own.single pattern handlerID found other otherID second
        (moves.find_of_issued here issued) (moves.find_of_issued there (same ▸ issued)) same
    · rcases moves.found pattern handlerID found here with old | ⟨_, _, _, _, _, drawn⟩
      · exact absurd (own.issued pattern handlerID found old) issued
      · rcases moves.found other otherID second there with old | ⟨_, _, _, _, _, drawnToo⟩
        · exact absurd (own.issued other otherID second old) (same ▸ issued)
        · obtain rfl : handlerID = otherID := drawn.trans drawnToo.symm
          exact ⟨numbered.pattern_eq consistent here there, rfl⟩
  completed completion := by
    rw [moves.appended, List.mem_append, own.completed]
    have grown := moves.completions
    constructor
    · rintro (ended | ⟨issued, gone⟩)
      · obtain ⟨pattern, handlerID, found, here, rfl, lost⟩ := moves.removed completion ended
        have issued := own.issued pattern handlerID found here
        refine ⟨by omega, fun other otherID second there same => ?_⟩
        have old := moves.find_of_issued there (same ▸ issued)
        obtain ⟨rfl, rfl⟩ := own.single other otherID second pattern handlerID found old here same
        cases lost.symm.trans there
      · refine ⟨by omega, fun other otherID second there same => ?_⟩
        exact gone other otherID second (moves.find_of_issued there (same ▸ issued)) same
    · rintro ⟨issued, gone⟩
      by_cases fresh : before.completions ≤ completion
      · obtain ⟨pattern, handlerID, found, here, same⟩ := moves.added completion fresh issued
        exact absurd same (gone pattern handlerID found here)
      · refine or_iff_not_imp_left.mpr fun kept => ⟨by omega, ?_⟩
        intro other otherID second there same
        rcases moves.lost other otherID second there with stays | ended
        · exact gone other otherID second stays same
        · exact kept (same ▸ ended)

/-! ## What a registration is known by -/

/-- A registration carries the pattern and the id it is registered under. -/
def Labelled (registry : Registry H Pattern) : Prop :=
  ∀ pattern handlerID found, registry.find pattern handlerID = some found →
    found.pattern = pattern ∧ found.handlerID = handlerID

theorem new_labelled : (new : Registry H Pattern).Labelled := by
  intro pattern handlerID found here
  rw [find_new] at here
  cases here

theorem Moves.labelled (moves : Moves before after completed)
    (labelled : before.Labelled) : after.Labelled := by
  intro pattern handlerID found here
  rcases moves.found pattern handlerID found here with old | ⟨_, samePattern, sameID, _⟩
  · exact labelled pattern handlerID found old
  · exact ⟨samePattern, sameID⟩

theorem find_of_mem_registrations (consistent : registry.Consistent) (labelled : registry.Labelled)
    {subID : UInt64} {one : Registration H Pattern} (member : one ∈ registry.registrations subID) :
    registry.find one.pattern one.handlerID = some one := by
  unfold registrations at member
  cases here : registry.live subID with
  | none => simp [here] at member
  | some pointer =>
    simp only [here, List.mem_map] at member
    obtain ⟨binding, bound, rfl⟩ := member
    have lookup := ((consistent.agree subID pointer).mp here).1
    have finds : registry.find pointer.pattern binding.1 = some binding.2 := by
      rw [find_of_lookup lookup]
      exact AList.mem_lookup_iff.mpr bound
    obtain ⟨samePattern, sameID⟩ := labelled _ _ _ finds
    rw [samePattern, sameID]
    exact finds

/-- The `Completion` is that of the registration under the pattern and the id,
now or in the past, and of no other. -/
structure Belongs (registry : Registry H Pattern) (pattern : Pattern)
    (handlerID : UInt64) (completion : Nat) : Prop where
  issued : completion < registry.completions
  drawn : handlerID ≤ registry.nextHandlerID
  only : ∀ other id found, registry.find other id = some found →
    (found.completion = completion ↔ other = pattern ∧ id = handlerID)

theorem belongs_of_find (numbered : registry.Numbered) (own : registry.OwnCompletions)
    (here : registry.find pattern handlerID = some found) :
    registry.Belongs pattern handlerID found.completion where
  issued := own.issued pattern handlerID found here
  drawn := by
    obtain ⟨pointer, -, member⟩ := mem_handlers_of_find here
    exact numbered.issued pointer _ member
  only other id second there := by
    constructor
    · intro same
      exact own.single other id second pattern handlerID found there here same
    · rintro ⟨rfl, rfl⟩
      rw [here] at there
      cases there
      rfl

theorem Belongs.move (belongs : before.Belongs pattern handlerID completion)
    (moves : Moves before after completed) : after.Belongs pattern handlerID completion where
  issued := Nat.lt_of_lt_of_le belongs.issued moves.completions
  drawn := UInt64.le_trans belongs.drawn moves.handlerIDs
  only other id found here := by
    rcases moves.found other id found here with old | ⟨fresh, _, _, next, _⟩
    · exact belongs.only other id found old
    · have issued := belongs.issued
      constructor
      · intro same
        omega
      · rintro ⟨rfl, rfl⟩
        exact absurd belongs.drawn (UInt64.not_le.mpr fresh)

theorem Belongs.completion_eq (belongs : registry.Belongs pattern handlerID completion)
    (here : registry.find pattern handlerID = some found) :
    found.completion = completion :=
  (belongs.only pattern handlerID found here).mpr ⟨rfl, rfl⟩

end Registry
end FitzGo.Subscriptions.Heap
