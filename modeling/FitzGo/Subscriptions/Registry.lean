import Mathlib.Data.List.Sort
import Mathlib.Data.String.Basic
import Mathlib.Logic.Function.Basic

/-!
# The subscription registry

`subscriptions.Registry` keeps two maps to the same entries: by pattern, and by
the id the broker assigned. The map by id refers to an entry by its pattern,
which never changes. Each definition is one critical section of the mutex.
-/

namespace FitzGo.Subscriptions

abbrev Pattern := String

structure Registration (H : Type) where
  handlerID : Nat
  handler : H

structure Entry (H : Type) where
  pattern : Pattern
  subID : Nat
  handlers : List (Registration H)

structure Registry (H : Type) where
  byPattern : List (Entry H)
  bySubID : Nat → Option Pattern
  pending : List Pattern
  restoring : Bool
  nextHandlerID : Nat

/-- A pattern and the id it got while `Restore` is running. -/
structure Restored where
  pattern : Pattern
  subID : Nat
  deriving DecidableEq

namespace Registry

variable {H : Type}

def empty : Registry H where
  byPattern := []
  bySubID _ := none
  pending := []
  restoring := false
  nextHandlerID := 0

def lookup (registry : Registry H) (pattern : Pattern) : Option (Entry H) :=
  registry.byPattern.find? fun entry => entry.pattern = pattern

def modify (registry : Registry H) (pattern : Pattern)
    (change : Entry H → Entry H) : List (Entry H) :=
  registry.byPattern.map fun entry =>
    if entry.pattern = pattern then change entry else entry

/-- `Subscribe` before the call to the broker: an existing entry gets one more
handler, otherwise the pattern becomes pending. -/
def beginSubscribe (registry : Registry H) (pattern : Pattern) (handler : H) : Registry H :=
  if (registry.lookup pattern).isSome then
    { registry with
      byPattern := registry.modify pattern fun entry =>
          { entry with
            handlers := entry.handlers ++ [⟨registry.nextHandlerID + 1, handler⟩] }
      nextHandlerID := registry.nextHandlerID + 1 }
  else { registry with pending := pattern :: registry.pending }

def dropPending (registry : Registry H) (pattern : Pattern) : Registry H :=
  { registry with pending := registry.pending.filter (· ≠ pattern) }

/-- `Subscribe` after the broker assigned an id: `none` if the id is taken. -/
def publish (registry : Registry H) (pattern : Pattern) (subID : Nat)
    (handler : H) : Option (Registry H) :=
  if (registry.bySubID subID).isSome then none
  else
    some
      { registry.dropPending pattern with
        byPattern := ⟨pattern, subID, [⟨registry.nextHandlerID + 1, handler⟩]⟩ :: registry.byPattern
        bySubID := Function.update registry.bySubID subID (some pattern)
        nextHandlerID := registry.nextHandlerID + 1 }

/-- The handlers `Unsubscribe` leaves, if it finds the one to remove. -/
def remainingHandlers (registry : Registry H) (pattern : Pattern) (handlerID : Nat) :
    Option (Entry H × List (Registration H)) :=
  match registry.lookup pattern with
  | none => none
  | some entry =>
    if entry.handlers.any fun one => one.handlerID = handlerID then
      some (entry, entry.handlers.filter fun one => one.handlerID ≠ handlerID)
    else none

def remove (registry : Registry H) (pattern : Pattern) (subID : Nat) : Registry H :=
  { registry with
    byPattern := registry.byPattern.filter fun entry => entry.pattern ≠ pattern
    bySubID := Function.update registry.bySubID subID none }

/-- `Unsubscribe`; the flag says that the last handler has gone. -/
def unsubscribe (registry : Registry H) (pattern : Pattern) (handlerID : Nat) : Registry H × Bool :=
  match registry.remainingHandlers pattern handlerID with
  | none => (registry, false)
  | some (entry, []) => (registry.remove pattern entry.subID, true)
  | some (_, one :: rest) =>
    ({ registry with
        byPattern := registry.modify pattern fun entry => { entry with handlers := one :: rest } },
      false)

def clear (registry : Registry H) : Registry H :=
  { registry with byPattern := [], bySubID := fun _ => none }

def registrations (registry : Registry H) (subID : Nat) : List (Registration H) :=
  match registry.bySubID subID with
  | none => []
  | some pattern =>
    match registry.lookup pattern with
    | none => []
    | some entry => entry.handlers

/-- The patterns `Restore` subscribes again, in its order. -/
def restoreOrder (registry : Registry H) : List Pattern :=
  (registry.byPattern.map Entry.pattern).insertionSort (· ≤ ·)

def restoredID (restored : List Restored) (pattern : Pattern) : Option Nat :=
  (restored.find? fun one => one.pattern = pattern).map Restored.subID

def restoredBySubID (restored : List Restored) (subID : Nat) : Option Pattern :=
  (restored.find? fun one => one.subID = subID).map Restored.pattern

/-- The end of a successful `Restore`: the entries get their new ids, and the
map by id is replaced. -/
def commitRestore (registry : Registry H) (restored : List Restored) : Registry H :=
  { registry with
    byPattern := registry.byPattern.map fun entry =>
        match restoredID restored entry.pattern with
        | none => entry
        | some subID => { entry with subID }
    bySubID := restoredBySubID restored }

def subIDOf (registry : Registry H) (pattern : Pattern) : Option Nat :=
  (registry.lookup pattern).map Entry.subID

/-- A pattern has one entry, the two maps refer to the same entries, and every
entry has a handler. -/
structure Consistent (registry : Registry H) : Prop where
  distinct : (registry.byPattern.map Entry.pattern).Nodup
  agree : ∀ pattern subID, registry.subIDOf pattern = some subID ↔
    registry.bySubID subID = some pattern
  inhabited : ∀ pattern entry, registry.lookup pattern = some entry → entry.handlers ≠ []

section Lookup

variable {registry : Registry H} {pattern other : Pattern}

private theorem pattern_of_lookup {entry : Entry H} (found : registry.lookup pattern = some entry) :
    entry.pattern = pattern := by
  simpa using List.find?_some found

variable {change : Entry H → Entry H}

theorem find_map (keeps : ∀ entry, (change entry).pattern = entry.pattern)
    (entries : List (Entry H)) (pattern : Pattern) :
    ((entries.map change).find? fun entry => entry.pattern = pattern) =
      (entries.find? fun entry => entry.pattern = pattern).map change := by
  rw [List.find?_map]
  congr 2
  funext entry
  simp [keeps]

theorem lookup_remove (subID : Nat) : (registry.remove pattern subID).lookup other =
      if other = pattern then none else registry.lookup other := by
  unfold lookup remove
  rw [List.find?_filter]
  by_cases same : other = pattern
  · rw [if_pos same, List.find?_eq_none]
    intro entry _
    simp only [decide_not, Bool.not_eq_true', decide_eq_false_iff_not, decide_eq_true_eq, not_and]
    intro different found
    exact different (found.trans same)
  · rw [if_neg same]
    congr 1
    funext entry
    by_cases found : entry.pattern = other
    · simp [found, same]
    · simp [found]

theorem subIDOf_remove (subID : Nat) : (registry.remove pattern subID).subIDOf other =
      if other = pattern then none else registry.subIDOf other := by
  unfold subIDOf
  rw [lookup_remove]
  split
  · rfl
  · rfl

variable (keeps : ∀ entry, (change entry).pattern = entry.pattern)
include keeps

theorem patterns_map (entries : List (Entry H)) :
    (entries.map change).map Entry.pattern = entries.map Entry.pattern := by
  rw [List.map_map]
  exact List.map_congr_left fun entry _ => keeps entry

theorem lookup_modify {final : Registry H}
    (byPattern : final.byPattern = registry.modify pattern change) :
    final.lookup other = (registry.lookup other).map fun entry =>
        if entry.pattern = pattern then change entry else entry := by
  unfold lookup
  rw [byPattern, modify, find_map]
  intro entry
  split
  · exact keeps entry
  · rfl

theorem subIDOf_modify (sameID : ∀ entry, (change entry).subID = entry.subID) {final : Registry H}
    (byPattern : final.byPattern = registry.modify pattern change) :
    final.subIDOf other = registry.subIDOf other := by
  unfold subIDOf
  rw [lookup_modify keeps byPattern, Option.map_map]
  congr 1
  funext entry
  simp only [Function.comp_apply]
  split
  · exact sameID entry
  · rfl

end Lookup

theorem Consistent.congr {registry final : Registry H} (consistent : registry.Consistent)
    (byPattern : final.byPattern = registry.byPattern)
    (bySubID : final.bySubID = registry.bySubID) : final.Consistent where
  distinct := by
    rw [byPattern]
    exact consistent.distinct
  agree pattern subID := by
    unfold subIDOf lookup
    rw [byPattern, bySubID]
    exact consistent.agree pattern subID
  inhabited pattern entry := by
    unfold lookup
    rw [byPattern]
    exact consistent.inhabited pattern entry

theorem Consistent.modify {registry final : Registry H} (consistent : registry.Consistent)
    {pattern : Pattern} {change : Entry H → Entry H}
    (keeps : ∀ entry, (change entry).pattern = entry.pattern)
    (sameID : ∀ entry, (change entry).subID = entry.subID)
    (nonempty : ∀ entry, (change entry).handlers ≠ [])
    (byPattern : final.byPattern = registry.modify pattern change)
    (bySubID : final.bySubID = registry.bySubID) : final.Consistent where
  distinct := by
    rw [byPattern, Registry.modify, patterns_map]
    · exact consistent.distinct
    · intro entry
      split
      · exact keeps entry
      · rfl
  agree other subID := by
    rw [subIDOf_modify keeps sameID byPattern, bySubID]
    exact consistent.agree other subID
  inhabited other entry found := by
    rw [lookup_modify keeps byPattern] at found
    obtain ⟨before, foundBefore, changed⟩ := Option.map_eq_some_iff.mp found
    subst changed
    split
    · exact nonempty before
    · exact consistent.inhabited other before foundBefore

theorem empty_consistent : (empty : Registry H).Consistent where
  distinct := List.nodup_nil
  agree _ _ := by simp [subIDOf, lookup, empty]
  inhabited _ _ found := nomatch found

section Operations

variable {registry : Registry H} (consistent : registry.Consistent)
variable {pattern other : Pattern} {subID handlerID : Nat} {handler : H}

theorem subIDOf_beginSubscribe :
    (registry.beginSubscribe pattern handler).subIDOf other = registry.subIDOf other := by
  unfold beginSubscribe
  split
  · refine subIDOf_modify ?_ ?_ rfl
    · intro _
      rfl
    · intro _
      rfl
  · rfl

variable {final : Registry H}

theorem publish_eq_some_iff : registry.publish pattern subID handler = some final ↔
      registry.bySubID subID = none ∧
        final = { registry.dropPending pattern with
            byPattern :=
              ⟨pattern, subID, [⟨registry.nextHandlerID + 1, handler⟩]⟩ :: registry.byPattern
            bySubID := Function.update registry.bySubID subID (some pattern)
            nextHandlerID := registry.nextHandlerID + 1 } := by
  unfold publish
  rw [Option.ite_none_left_eq_some, Option.not_isSome_iff_eq_none,
    Option.some.injEq, eq_comm (a := final)]

theorem lookup_publish (published : registry.publish pattern subID handler = some final) :
    final.lookup other =
      if other = pattern then some ⟨pattern, subID, [⟨registry.nextHandlerID + 1, handler⟩]⟩
      else registry.lookup other := by
  obtain ⟨_, rfl⟩ := publish_eq_some_iff.mp published
  by_cases same : other = pattern
  · subst same
    simp [lookup]
  · have different : pattern ≠ other := Ne.symm same
    simp [lookup, same, different]

theorem subIDOf_publish (published : registry.publish pattern subID handler = some final) :
    final.subIDOf other =
      if other = pattern then some subID else registry.subIDOf other := by
  unfold subIDOf
  rw [lookup_publish published]
  split
  · rfl
  · rfl

private theorem lookup_of_remainingHandlers {entry : Entry H} {left : List (Registration H)}
    (remaining : registry.remainingHandlers pattern handlerID = some (entry, left)) :
    registry.lookup pattern = some entry := by
  unfold remainingHandlers at remaining
  cases found : registry.lookup pattern with
  | none =>
    rw [found] at remaining
    exact nomatch remaining
  | some one =>
    rw [found] at remaining
    simp only [Option.ite_none_right_eq_some, Option.some.injEq, Prod.mk.injEq] at remaining
    rw [remaining.2.1]

theorem subIDOf_unsubscribe : (registry.unsubscribe pattern handlerID).1.subIDOf other =
      if (registry.unsubscribe pattern handlerID).2 ∧ other = pattern then none
      else registry.subIDOf other := by
  unfold unsubscribe
  split
  · simp
  · simp only [true_and, subIDOf_remove]
  · simp only [Bool.false_eq_true, false_and, if_false]
    refine subIDOf_modify ?_ ?_ rfl
    · intro _
      rfl
    · intro _
      rfl

theorem pending_unsubscribe :
    (registry.unsubscribe pattern handlerID).1.pending = registry.pending := by
  unfold unsubscribe
  split
  · rfl
  · rfl
  · rfl

include consistent

theorem beginSubscribe_consistent : (registry.beginSubscribe pattern handler).Consistent := by
  unfold beginSubscribe
  split
  · refine consistent.modify ?_ ?_ ?_ rfl rfl
    · intro _
      rfl
    · intro _
      rfl
    · intro entry
      simp
  · exact consistent.congr rfl rfl

theorem publish_consistent (absent : registry.lookup pattern = none)
    (published : registry.publish pattern subID handler = some final) : final.Consistent := by
  obtain ⟨free, finalEq⟩ := publish_eq_some_iff.mp published
  have absentID : registry.subIDOf pattern = none := by
    rw [subIDOf, absent]
    rfl
  refine { distinct := ?_, agree := ?_, inhabited := ?_ }
  · subst finalEq
    refine List.nodup_cons.mpr ⟨?_, consistent.distinct⟩
    intro member
    obtain ⟨entry, entryMember, patternEq⟩ := List.mem_map.mp member
    have different := List.find?_eq_none.mp absent entry entryMember
    exact different (by simpa using patternEq)
  · intro other id
    have bySubID : final.bySubID id =
          if id = subID then some pattern else registry.bySubID id := by
      rw [finalEq]
      exact Function.update_apply _ _ _ _
    rw [subIDOf_publish published, bySubID]
    have before := consistent.agree other id
    by_cases same : other = pattern
    · subst same
      rw [absentID] at before
      grind
    · grind
  · intro other entry found
    rw [lookup_publish published] at found
    split at found
    · injection found with entryEq
      subst entryEq
      simp
    · exact consistent.inhabited other entry found

private theorem remove_consistent (own : registry.subIDOf pattern = some subID) :
    (registry.remove pattern subID).Consistent := by
  refine { distinct := ?_, agree := ?_, inhabited := ?_ }
  · exact consistent.distinct.sublist (List.filter_sublist.map Entry.pattern)
  · intro other id
    have bySubID : (registry.remove pattern subID).bySubID id =
          if id = subID then none else registry.bySubID id :=
      Function.update_apply _ _ _ _
    rw [subIDOf_remove, bySubID]
    have before := consistent.agree other id
    have ownBefore := consistent.agree pattern subID
    grind
  · intro other entry found
    rw [lookup_remove] at found
    split at found
    · exact nomatch found
    · exact consistent.inhabited other entry found

theorem unsubscribe_consistent : (registry.unsubscribe pattern handlerID).1.Consistent := by
  unfold unsubscribe
  split
  · exact consistent
  · rename_i entry remaining
    have found := lookup_of_remainingHandlers remaining
    apply remove_consistent consistent
    rw [subIDOf, found]
    rfl
  · refine consistent.modify ?_ ?_ ?_ rfl rfl
    · intro _
      rfl
    · intro _
      rfl
    · intro _
      simp

theorem registrations_of_subIDOf (registered : registry.subIDOf pattern = some subID) :
    ∃ entry, registry.lookup pattern = some entry ∧ entry.handlers ≠ [] ∧
      registry.registrations subID = entry.handlers := by
  obtain ⟨entry, found, _⟩ := Option.map_eq_some_iff.mp registered
  have indexed := (consistent.agree pattern subID).mp registered
  refine ⟨entry, found, consistent.inhabited pattern entry found, ?_⟩
  unfold registrations
  rw [indexed]
  simp only [found]

end Operations

theorem clear_consistent (registry : Registry H) : registry.clear.Consistent where
  distinct := List.nodup_nil
  agree _ _ := by simp [subIDOf, lookup, clear]
  inhabited _ _ found := nomatch found

section Restore

theorem find_eq_some_iff_of_nodup {α κ : Type} [DecidableEq κ] {key : α → κ} {items : List α}
    (nodup : (items.map key).Nodup) {wanted : κ} {item : α} :
    (items.find? fun one => key one = wanted) = some item ↔ item ∈ items ∧ key item = wanted := by
  constructor
  · intro found
    have keyEq : key item = wanted := by
      simpa using List.find?_some found
    exact ⟨List.mem_of_find?_eq_some found, keyEq⟩
  · intro ⟨member, keyEq⟩
    cases found : items.find? fun one => key one = wanted with
    | none =>
      have absent := List.find?_eq_none.mp found item member
      exact absurd keyEq (by simpa using absent)
    | some one =>
      have oneEq : key one = wanted := by
        simpa using List.find?_some found
      have same : one = item :=
        List.inj_on_of_nodup_map nodup (List.mem_of_find?_eq_some found) member
          (oneEq.trans keyEq.symm)
      rw [same]

variable {restored : List Restored} {pattern : Pattern} {subID : Nat}

theorem restoredID_eq_some_iff (patterns : (restored.map Restored.pattern).Nodup) :
    restoredID restored pattern = some subID ↔ ⟨pattern, subID⟩ ∈ restored := by
  simp only [restoredID, Option.map_eq_some_iff, find_eq_some_iff_of_nodup patterns]
  constructor
  · rintro ⟨one, ⟨member, rfl⟩, rfl⟩
    exact member
  · intro member
    exact ⟨_, ⟨member, rfl⟩, rfl⟩

private theorem restoredBySubID_eq_some_iff (ids : (restored.map Restored.subID).Nodup) :
    restoredBySubID restored subID = some pattern ↔ ⟨pattern, subID⟩ ∈ restored := by
  simp only [restoredBySubID, Option.map_eq_some_iff, find_eq_some_iff_of_nodup ids]
  constructor
  · rintro ⟨one, ⟨member, rfl⟩, rfl⟩
    exact member
  · intro member
    exact ⟨_, ⟨member, rfl⟩, rfl⟩

/-- `Restore` got one id for each entry, and no id twice. -/
structure Complete (registry : Registry H) (restored : List Restored) : Prop where
  patterns : (restored.map Restored.pattern).Nodup
  ids : (restored.map Restored.subID).Nodup
  covers : ∀ pattern, (registry.lookup pattern).isSome ↔ pattern ∈ restored.map Restored.pattern

variable {registry : Registry H}

theorem lookup_commitRestore : (registry.commitRestore restored).lookup pattern =
      (registry.lookup pattern).map fun entry =>
        match restoredID restored entry.pattern with
        | none => entry
        | some subID => { entry with subID } := by
  apply find_map
  intro entry
  split
  · rfl
  · rfl

theorem Complete.subIDOf_commitRestore (complete : registry.Complete restored) :
    (registry.commitRestore restored).subIDOf pattern = restoredID restored pattern := by
  unfold subIDOf
  rw [lookup_commitRestore]
  have covers := complete.covers pattern
  cases found : registry.lookup pattern with
  | none =>
    cases id : restoredID restored pattern with
    | none => rfl
    | some subID =>
      have member := (restoredID_eq_some_iff complete.patterns).mp id
      rw [found] at covers
      exact absurd (covers.mpr (List.mem_map_of_mem member)) (by simp)
  | some entry =>
    rw [found] at covers
    obtain ⟨one, member, patternEq⟩ := List.mem_map.mp (covers.mp rfl)
    subst patternEq
    have id := (restoredID_eq_some_iff complete.patterns).mpr member
    simp only [Option.map_some, pattern_of_lookup found, id]

theorem Complete.commitRestore_consistent (complete : registry.Complete restored)
    (consistent : registry.Consistent) : (registry.commitRestore restored).Consistent where
  distinct := by
    unfold commitRestore
    rw [patterns_map]
    · exact consistent.distinct
    · intro entry
      split
      · rfl
      · rfl
  agree pattern subID := by
    rw [complete.subIDOf_commitRestore, restoredID_eq_some_iff complete.patterns]
    exact (restoredBySubID_eq_some_iff complete.ids).symm
  inhabited pattern entry found := by
    rw [lookup_commitRestore] at found
    obtain ⟨before, foundBefore, changed⟩ := Option.map_eq_some_iff.mp found
    have inhabited := consistent.inhabited pattern before foundBefore
    subst changed
    split
    · exact inhabited
    · exact inhabited

theorem mem_restoreOrder : pattern ∈ registry.restoreOrder ↔ (registry.lookup pattern).isSome := by
  unfold restoreOrder lookup
  rw [List.mem_insertionSort, List.find?_isSome]
  simp

theorem Consistent.restoreOrder_nodup (consistent : registry.Consistent) :
    registry.restoreOrder.Nodup :=
  (List.perm_insertionSort _ _).nodup_iff.mpr consistent.distinct

end Restore

end Registry
end FitzGo.Subscriptions
