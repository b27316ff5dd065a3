import FitzGo.Subscriptions.RegistryConsistency

/-!
# How far a Restore has come

`Progress` relates the local variables of a running `Restore` to the entries it
goes through and the ids it has got so far. Nothing is assumed of what earlier
calls left in the scratch slices and in the scratch map.
-/

namespace FitzGo.Subscriptions.Heap.Registry

open Slices

variable {H Pattern E : Type}

/-- The two maps, the ids of the entries and their handlers are the same. -/
structure SameTables (before after : Registry H Pattern) : Prop where
  byPattern : after.byPattern = before.byPattern
  entries : after.entries = before.entries
  live : after.live = before.live

theorem SameTables.trans {first second third : Registry H Pattern}
    (left : SameTables first second) (right : SameTables second third) :
    SameTables first third where
  byPattern := right.byPattern.trans left.byPattern
  entries := right.entries.trans left.entries
  live := right.live.trans left.live

/-- Only the flag and what `Restore` keeps for itself may differ. -/
structure Quiet (before after : Registry H Pattern) : Prop extends SameTables before after where
  allocated : after.allocated = before.allocated
  bySubID : after.bySubID = before.bySubID
  scratch : after.restoreBySubIDScratch = before.restoreBySubIDScratch
  pending : after.pending = before.pending
  counter : after.nextHandlerID = before.nextHandlerID

theorem Quiet.refl (registry : Registry H Pattern) : Quiet registry registry :=
  ⟨⟨rfl, rfl, rfl⟩, rfl, rfl, rfl, rfl, rfl⟩

theorem Quiet.numbered {before after : Registry H Pattern}
    (quiet : Quiet before after) (numbered : before.Numbered) : after.Numbered where
  issued := by
    rw [quiet.entries, quiet.counter]
    exact numbered.issued
  unique := by
    rw [quiet.entries]
    exact numbered.unique

theorem live_setTable_of_ne {registry : Registry H Pattern} {table : Nat}
    {content : UInt64 → Option (Pointer Pattern)} (other : registry.bySubID ≠ table) :
    (registry.setTable table content).live = registry.live :=
  Function.update_of_ne other ..

def restoredEntries (pointers : List (Pointer Pattern)) (subIDs : List UInt64) :
    List (RestoreEntry Pattern) :=
  List.zipWith (fun pointer subID => ⟨pointer.pattern, subID⟩) pointers subIDs

theorem zipWith_concat {α β γ : Type} (f : α → β → γ) {value : α} (new : β) :
    ∀ {left : List α} {right : List β}, left[right.length]? = some value →
      List.zipWith f left (right ++ [new]) = List.zipWith f left right ++ [f value new]
  | [], _, found => by cases found
  | head :: rest, [], found => by
      rw [List.length_nil, List.getElem?_cons_zero] at found
      cases found
      simp only [List.nil_append, List.zipWith_cons_cons, List.zipWith_nil_right]
  | head :: rest, other :: right, found => by
      rw [List.length_cons, List.getElem?_cons_succ] at found
      rw [List.cons_append, List.zipWith_cons_cons, List.zipWith_cons_cons,
        zipWith_concat f new found, List.cons_append]

private theorem subIDScratch_room (registry : Registry H Pattern) (size : Nat) :
    size ≤ (registry.subIDScratch size).1.cap (registry.subIDScratch size).2 := by
  unfold subIDScratch
  split
  · exact Nat.le_of_eq (Arena.cap_make registry.subIDArrays size size).symm
  · exact Nat.le_of_not_lt ‹_›

section Maps

variable [DecidableEq Pattern]

theorem Quiet.consistent {before after : Registry H Pattern}
    (quiet : Quiet before after) (consistent : before.Consistent) : after.Consistent where
  pointed := by
    rw [quiet.byPattern, quiet.allocated]
    exact consistent.pointed
  handled := by
    rw [quiet.byPattern, quiet.entries]
    exact consistent.handled
  agree := by
    rw [quiet.byPattern, quiet.entries, quiet.live]
    exact consistent.agree
  separate := by
    rw [quiet.bySubID, quiet.scratch]
    exact consistent.separate

variable {registry : Registry H Pattern}

variable (consistent : registry.Consistent)
include consistent

theorem Consistent.mem_pointers {pointer : Pointer Pattern} :
    pointer ∈ registry.pointers ↔ registry.byPattern.lookup pointer.pattern = some pointer := by
  unfold pointers
  rw [List.mem_map]
  constructor
  · rintro ⟨⟨pattern, target⟩, bound, rfl⟩
    have found := AList.mem_lookup_iff.mpr bound
    have named := (consistent.pointed pattern target found).1
    rw [named]
    exact found
  · intro found
    exact ⟨⟨pointer.pattern, pointer⟩, AList.mem_lookup_iff.mp found, rfl⟩

theorem Consistent.patterns_pointers :
    registry.pointers.map Pointer.pattern = registry.byPattern.keys := by
  unfold pointers AList.keys List.keys
  rw [List.map_map]
  apply List.map_congr_left
  rintro ⟨pattern, target⟩ bound
  exact (consistent.pointed pattern target (AList.mem_lookup_iff.mpr bound)).1

theorem Consistent.patterns_nodup {order : List (Pointer Pattern)}
    (perm : order.Perm registry.pointers) : (order.map Pointer.pattern).Nodup := by
  rw [(perm.map Pointer.pattern).nodup_iff, consistent.patterns_pointers]
  exact registry.byPattern.keys_nodup

end Maps

variable [LinearOrder Pattern]

theorem perm_sortByPattern (pointers : List (Pointer Pattern)) :
    (sortByPattern pointers).Perm pointers :=
  List.perm_insertionSort _ _

theorem pairwise_sortByPattern {pointers : List (Pointer Pattern)}
    (nodup : (pointers.map Pointer.pattern).Nodup) :
    (sortByPattern pointers).Pairwise fun left right => left.pattern < right.pattern := by
  have total : Std.Total (fun left right : Pointer Pattern => left.pattern ≤ right.pattern) :=
    ⟨fun left right => le_total left.pattern right.pattern⟩
  have transitive : IsTrans (Pointer Pattern) (fun left right => left.pattern ≤ right.pattern) :=
    ⟨fun _ _ _ => le_trans⟩
  have sorted := List.pairwise_insertionSort
    (fun left right : Pointer Pattern => left.pattern ≤ right.pattern) pointers
  have distinct : (sortByPattern pointers).Pairwise
      fun left right => left.pattern ≠ right.pattern :=
    List.pairwise_map.mp (((perm_sortByPattern pointers).map Pointer.pattern).nodup_iff.mpr nodup)
  exact (sorted.and distinct).imp fun both => lt_of_le_of_ne both.1 both.2

/-- The local variables of a `Restore` that goes through `pointers` and has got
`subIDs` for the first of them. -/
structure Progress (registry : Registry H Pattern) (frame : RestoreFrame)
    (pointers : List (Pointer Pattern)) (subIDs : List UInt64) : Prop where
  ascending : pointers.Pairwise fun left right => left.pattern < right.pattern
  covers : ∀ pointer, pointer ∈ pointers ↔ registry.byPattern.lookup pointer.pattern = some pointer
  collected : registry.entryArrays.contents frame.entries = pointers
  position : frame.idx = subIDs.length
  within : subIDs.length ≤ pointers.length
  rollback : registry.rollbackArrays.contents frame.restoredEntries =
    restoredEntries pointers subIDs
  rollbackLen : frame.restoredEntries.len = subIDs.length
  rollbackRoom : pointers.length ≤ registry.rollbackArrays.cap frame.restoredEntries
  assigned : (registry.subIDArrays.contents frame.restoredSubIDs).take subIDs.length = subIDs
  subIDsLen : frame.restoredSubIDs.len = pointers.length
  subIDsRoom : pointers.length ≤ registry.subIDArrays.cap frame.restoredSubIDs
  table : frame.restoredBySubID = registry.restoreBySubIDScratch
  recorded : ∀ subID pointer, registry.tables frame.restoredBySubID subID = some pointer ↔
    (pointer, subID) ∈ pointers.zip subIDs
  distinct : subIDs.Nodup

variable {registry : Registry H Pattern} {frame : RestoreFrame}
variable {pointers : List (Pointer Pattern)} {subIDs : List UInt64}

section Resubscribing

variable [Inhabited Pattern] {order : List (Pointer Pattern)}

theorem contents_collectEntries (size : order.length = registry.byPattern.entries.length) :
    (registry.collectEntries order).1.contents (registry.collectEntries order).2 =
      sortByPattern order ∧ (registry.collectEntries order).2.len = order.length := by
  have room := Arena.size_le_cap_reuse registry.entryArrays
    registry.restoreEntriesScratch registry.byPattern.entries.length
  have empty := Arena.contents_reuse registry.entryArrays
    registry.restoreEntriesScratch registry.byPattern.entries.length
  have start := Arena.len_reuse registry.entryArrays
    registry.restoreEntriesScratch registry.byPattern.entries.length
  have len : (registry.collectEntries order).2.len = order.length := by
    unfold collectEntries
    dsimp only
    rw [Arena.len_appendAll, start, Nat.zero_add]
  refine ⟨?_, len⟩
  unfold collectEntries at len ⊢
  dsimp only at len ⊢
  rw [Arena.contents_appendAll order (by omega), empty, List.nil_append]
  apply Arena.contents_replace
  rw [(perm_sortByPattern order).length_eq, len]

theorem Consistent.beginRestore_quiet
    (consistent : registry.Consistent) (order : List (Pointer Pattern)) :
    Quiet registry (registry.beginRestore order).1 where
  byPattern := rfl
  entries := rfl
  live := live_setTable_of_ne consistent.separate
  allocated := rfl
  bySubID := rfl
  scratch := rfl
  pending := rfl
  counter := rfl

theorem len_beginRestore (perm : order.Perm registry.pointers) :
    (registry.beginRestore order).2.entries.len = (sortByPattern order).length := by
  have size : order.length = registry.byPattern.entries.length := by
    rw [perm.length_eq, Registry.pointers, List.length_map]
  rw [(perm_sortByPattern order).length_eq]
  exact (contents_collectEntries size).2

theorem Consistent.beginRestore_progress (consistent : registry.Consistent)
    (perm : order.Perm registry.pointers) :
    (registry.beginRestore order).1.Progress
      (registry.beginRestore order).2 (sortByPattern order) [] := by
  have size : order.length = registry.byPattern.entries.length := by
    rw [perm.length_eq, Registry.pointers, List.length_map]
  have sorted := perm_sortByPattern order
  have contents := (contents_collectEntries size).1
  have lenSorted : (registry.collectEntries order).2.len = (sortByPattern order).length :=
    len_beginRestore perm
  exact {
    ascending := pairwise_sortByPattern (consistent.patterns_nodup perm)
    covers := fun pointer => by
      rw [sorted.mem_iff, perm.mem_iff]
      exact consistent.mem_pointers
    collected := contents
    position := rfl
    within := Nat.zero_le _
    rollback := by
      rw [restoredEntries, List.zipWith_nil_right]
      exact Arena.contents_reuse ..
    rollbackLen := Arena.len_reuse ..
    rollbackRoom := by
      rw [← lenSorted]
      exact Arena.size_le_cap_reuse ..
    assigned := List.take_zero
    subIDsLen := lenSorted
    subIDsRoom := by
      rw [← lenSorted]
      exact subIDScratch_room registry _
    table := rfl
    recorded := fun subID pointer => by
      have emptied : (registry.beginRestore order).1.tables
            (registry.beginRestore order).2.restoredBySubID = fun _ => none :=
        Function.update_self ..
      rw [emptied, List.zip_nil_right]
      exact ⟨fun found => (by cases found), fun mem => (by cases mem)⟩
    distinct := List.nodup_nil }

/-! ## One answered wire call -/

omit [Inhabited Pattern] in
theorem Progress.registered_eq (progress : registry.Progress frame pointers subIDs) :
    registry.registered frame = pointers[subIDs.length]? := by
  rw [registered, progress.collected, progress.position]

theorem Progress.answer_quiet (progress : registry.Progress frame pointers subIDs)
    (consistent : registry.Consistent) (pointer : Pointer Pattern) (result : Except E UInt64) :
    Quiet registry (registry.answer frame pointer result).1 := by
  have other : registry.bySubID ≠ frame.restoredBySubID := by
    rw [progress.table]
    exact consistent.separate
  cases result with
  | error error => exact Quiet.refl registry
  | ok subID =>
    unfold answer
    dsimp only
    split
    · exact { Quiet.refl registry with }
    · exact ⟨⟨rfl, rfl, live_setTable_of_ne other⟩, rfl, rfl, rfl, rfl, rfl⟩

omit [LinearOrder Pattern] in
theorem restoring_answer (pointer : Pointer Pattern) (result : Except E UInt64) :
    (registry.answer frame pointer result).1.restoring = registry.restoring := by
  cases result with
  | error error => rfl
  | ok subID =>
    unfold answer
    dsimp only
    split <;> rfl

variable {pointer : Pointer Pattern}

variable (progress : registry.Progress frame pointers subIDs)
include progress

theorem Progress.contents_append
    (found : pointers[subIDs.length]? = some pointer) (subID : UInt64) :
    let appended := registry.rollbackArrays.append frame.restoredEntries ⟨pointer.pattern, subID⟩
    appended.1.contents appended.2 = restoredEntries pointers (subIDs ++ [subID]) ∧
      appended.2.len = (subIDs ++ [subID]).length ∧
      pointers.length ≤ appended.1.cap appended.2 := by
  have inside := (List.getElem?_eq_some_iff.mp found).1
  have room : frame.restoredEntries.len < registry.rollbackArrays.cap frame.restoredEntries := by
    rw [progress.rollbackLen]
    exact Nat.lt_of_lt_of_le inside progress.rollbackRoom
  refine ⟨?_, ?_, ?_⟩
  · rw [Arena.contents_append _ room, progress.rollback, restoredEntries,
      restoredEntries, zipWith_concat _ subID found]
  · rw [Arena.len_append, progress.rollbackLen, List.length_append, List.length_singleton]
  · rw [Arena.cap_append _ room]
    exact progress.rollbackRoom

omit [Inhabited Pattern] in
theorem Progress.recorded_eq_none_iff (subID : UInt64) :
    registry.tables frame.restoredBySubID subID = none ↔ subID ∉ subIDs := by
  rw [Option.eq_none_iff_forall_ne_some]
  constructor
  · intro unused used
    rw [← List.map_snd_zip progress.within] at used
    obtain ⟨⟨pointer, other⟩, mem, rfl⟩ := List.mem_map.mp used
    exact unused pointer ((progress.recorded other pointer).mpr mem)
  · intro fresh pointer found
    exact fresh (List.of_mem_zip ((progress.recorded subID pointer).mp found)).2

variable {subID : UInt64}

theorem Progress.recorded_record (found : pointers[subIDs.length]? = some pointer)
    (fresh : subID ∉ subIDs) (id : UInt64) (target : Pointer Pattern) :
    (registry.record frame pointer subID).1.tables frame.restoredBySubID id = some target ↔
      (target, id) ∈ pointers.zip (subIDs ++ [subID]) := by
  have unused := (progress.recorded_eq_none_iff subID).mpr fresh
  have zipped : pointers.zip (subIDs ++ [subID]) = pointers.zip subIDs ++ [(pointer, subID)] :=
    zipWith_concat Prod.mk subID found
  have table : (registry.record frame pointer subID).1.tables frame.restoredBySubID =
        Function.update (registry.tables frame.restoredBySubID) subID (some pointer) :=
    Function.update_self ..
  rw [table, zipped, List.mem_append, List.mem_singleton, ← progress.recorded id target]
  by_cases same : id = subID
  · rw [same, Function.update_self, unused]
    constructor
    · intro here
      cases here
      exact Or.inr rfl
    · rintro (impossible | here)
      · cases impossible
      · cases here
        rfl
  · rw [Function.update_of_ne same]
    refine ⟨Or.inl, ?_⟩
    rintro (old | here)
    · exact old
    · cases here
      exact absurd rfl same

theorem Progress.record (found : pointers[subIDs.length]? = some pointer) (fresh : subID ∉ subIDs) :
    (registry.record frame pointer subID).1.Progress (registry.record frame pointer subID).2
      pointers (subIDs ++ [subID]) := by
  have inside := (List.getElem?_eq_some_iff.mp found).1
  obtain ⟨contents, len, room⟩ := progress.contents_append found subID
  exact {
    ascending := progress.ascending
    covers := progress.covers
    collected := progress.collected
    position := by
      rw [List.length_append, List.length_singleton, ← progress.position]
      rfl
    within := by
      rw [List.length_append, List.length_singleton]
      exact inside
    rollback := contents
    rollbackLen := len
    rollbackRoom := room
    assigned := by
      dsimp only [Registry.record]
      rw [List.length_append, List.length_singleton, progress.position,
        Arena.take_succ_contents_set subID (by rwa [progress.subIDsLen])
          (by rw [progress.subIDsLen]; exact progress.subIDsRoom),
        progress.assigned]
    subIDsLen := progress.subIDsLen
    subIDsRoom := by
      dsimp only [Registry.record]
      rw [Arena.cap_set]
      exact progress.subIDsRoom
    table := progress.table
    recorded := progress.recorded_record found fresh
    distinct := by
      rw [List.nodup_append_comm]
      exact List.nodup_cons.mpr ⟨fresh, progress.distinct⟩ }

theorem Progress.answer_fresh (fresh : subID ∉ subIDs) (pointer : Pointer Pattern) :
    registry.answer frame pointer (.ok subID : Except E UInt64) =
      ((registry.record frame pointer subID).1, .next (registry.record frame pointer subID).2) := by
  have unused := (progress.recorded_eq_none_iff subID).mpr fresh
  unfold answer
  dsimp only
  rw [unused]
  rfl

theorem Progress.answer_duplicate
    (found : pointers[subIDs.length]? = some pointer) (used : subID ∈ subIDs) :
    ∃ restored : Slice, (registry.answer frame pointer (.ok subID : Except E UInt64)).2 =
      .rollback (.duplicate subID pointer.pattern) restored ∧ (registry.answer frame pointer
      (.ok subID : Except E UInt64)).1.rollbackArrays.contents restored =
      restoredEntries pointers (subIDs ++ [subID]) := by
  have taken : (registry.tables frame.restoredBySubID subID).isSome := by
    rw [Option.isSome_iff_ne_none]
    exact fun unused => (progress.recorded_eq_none_iff subID).mp unused used
  obtain ⟨contents, -, -⟩ := progress.contents_append found subID
  unfold answer
  dsimp only
  rw [if_pos taken]
  exact ⟨_, rfl, contents⟩

theorem Progress.answer_next (current : registry.registered frame = some pointer)
    (result : Except E UInt64) {next : RestoreFrame}
    (goesOn : (registry.answer frame pointer result).2 = .next next) :
    ∃ subID, result = .ok subID ∧ (registry.answer frame pointer result).1.Progress
      next pointers (subIDs ++ [subID]) := by
  rw [progress.registered_eq] at current
  cases result with
  | error error => cases goesOn
  | ok subID =>
    refine ⟨subID, rfl, ?_⟩
    by_cases used : subID ∈ subIDs
    · obtain ⟨restored, reply, -⟩ := progress.answer_duplicate (E := E) current used
      rw [reply] at goesOn
      cases goesOn
    · rw [progress.answer_fresh used pointer] at goesOn ⊢
      cases goesOn
      exact progress.record current used

end Resubscribing

/-! ## The commit -/

theorem Progress.complete_of_registered_none (progress : registry.Progress frame pointers subIDs)
    (done : registry.registered frame = none) : subIDs.length = pointers.length := by
  rw [progress.registered_eq, List.getElem?_eq_none_iff] at done
  exact Nat.le_antisymm progress.within done

variable {pointer : Pointer Pattern}

theorem entries_assign_of_notMem : ∀ {pairs : List (Pointer Pattern × UInt64)}
      {registry : Registry H Pattern},
      pointer ∉ pairs.map Prod.fst →
      (registry.assign pairs).entries pointer = registry.entries pointer
  | [], _, _ => rfl
  | (registered, subID) :: rest, registry, absent => by
      rw [List.map_cons, List.mem_cons, not_or] at absent
      rw [assign, entries_assign_of_notMem absent.2]
      exact entries_setEntry_of_ne absent.1

private theorem entries_assign_of_mem {subID : UInt64} : ∀ {pairs : List (Pointer Pattern × UInt64)}
      {registry : Registry H Pattern},
      (pairs.map Prod.fst).Nodup →
      (pointer, subID) ∈ pairs →
      (registry.assign pairs).entries pointer = { registry.entries pointer with subID }
  | (registered, id) :: rest, registry, nodup, mem => by
      rw [List.map_cons, List.nodup_cons] at nodup
      rw [assign]
      rcases List.mem_cons.mp mem with here | later
      · cases here
        rw [entries_assign_of_notMem nodup.1, entries_setEntry_self]
      · have different : pointer ≠ registered := by
          rintro rfl
          exact nodup.1 (List.mem_map.mpr ⟨_, later, rfl⟩)
        rw [entries_assign_of_mem nodup.2 later, entries_setEntry_of_ne different]

theorem assign_eq : ∀ (pairs : List (Pointer Pattern × UInt64)) (registry : Registry H Pattern),
      registry.assign pairs = { registry with entries := (registry.assign pairs).entries }
  | [], _ => rfl
  | (registered, subID) :: rest, registry => by
      rw [assign, assign_eq rest]
      rfl

theorem commit_kept (registry : Registry H Pattern) (frame : RestoreFrame) :
    (registry.commit frame).pending = registry.pending ∧
      (registry.commit frame).restoring = registry.restoring ∧
      (registry.commit frame).nextHandlerID = registry.nextHandlerID := by
  unfold commit
  rw [assign_eq]
  exact ⟨rfl, rfl, rfl⟩

theorem Progress.pairs_eq (progress : registry.Progress frame pointers subIDs)
    (complete : subIDs.length = pointers.length) :
    (registry.entryArrays.contents frame.entries).zip
      (registry.subIDArrays.contents frame.restoredSubIDs) = pointers.zip subIDs := by
  have len : (registry.subIDArrays.contents frame.restoredSubIDs).length = subIDs.length := by
    rw [Arena.length_contents, progress.subIDsLen, complete]
    rw [progress.subIDsLen]
    exact progress.subIDsRoom
  have all : registry.subIDArrays.contents frame.restoredSubIDs = subIDs := by
    have assigned := progress.assigned
    rwa [← len, List.take_length] at assigned
  rw [progress.collected, all]

omit [LinearOrder Pattern] in
theorem exists_mem_zip (complete : subIDs.length = pointers.length) (mem : pointer ∈ pointers) :
    ∃ subID, (pointer, subID) ∈ pointers.zip subIDs := by
  rw [← List.map_fst_zip (Nat.le_of_eq complete.symm)] at mem
  obtain ⟨⟨_, subID⟩, pair, rfl⟩ := List.mem_map.mp mem
  exact ⟨subID, pair⟩

variable (progress : registry.Progress frame pointers subIDs)
include progress

theorem Progress.nodup : pointers.Nodup :=
  progress.ascending.imp fun less same => absurd (congrArg Pointer.pattern same) (ne_of_lt less)

/-- What a registry is after a successful `Restore`. -/
structure Restored (before after : Registry H Pattern)
    (pointers : List (Pointer Pattern)) (subIDs : List UInt64) : Prop where
  byPattern : after.byPattern = before.byPattern
  handlers : ∀ pointer, (after.entries pointer).handlers = (before.entries pointer).handlers
  assigned : ∀ pointer subID, (pointer, subID) ∈ pointers.zip subIDs →
    (after.entries pointer).subID = subID
  others : ∀ pointer, pointer ∉ pointers → after.entries pointer = before.entries pointer
  live : ∀ subID pointer, after.live subID = some pointer ↔ (pointer, subID) ∈ pointers.zip subIDs

variable (complete : subIDs.length = pointers.length)
include complete

theorem Progress.commit_restored : Restored registry (registry.commit frame) pointers subIDs := by
  have firsts : (pointers.zip subIDs).map Prod.fst = pointers :=
    List.map_fst_zip (Nat.le_of_eq complete.symm)
  have nodup : ((pointers.zip subIDs).map Prod.fst).Nodup := by
    rw [firsts]
    exact progress.nodup
  have entries :
      (registry.commit frame).entries = (registry.assign (pointers.zip subIDs)).entries := by
    rw [← progress.pairs_eq complete]
    rfl
  have others : ∀ pointer, pointer ∉ pointers →
      (registry.commit frame).entries pointer = registry.entries pointer := by
    intro pointer absent
    rw [entries, entries_assign_of_notMem]
    rwa [firsts]
  refine ⟨?_, fun pointer => ?_, fun pointer subID mem => ?_, others, fun subID pointer => ?_⟩
  · change (registry.assign _).byPattern = _
    rw [assign_eq]
  · by_cases mem : pointer ∈ pointers
    · obtain ⟨subID, pair⟩ := exists_mem_zip complete mem
      rw [entries, entries_assign_of_mem nodup pair]
    · rw [others pointer mem]
  · rw [entries, entries_assign_of_mem nodup mem]
  · rw [← progress.recorded]
    change (registry.assign _).tables _ _ = _ ↔ _
    rw [assign_eq]
    rfl

theorem Progress.commit_consistent (consistent : registry.Consistent) :
    (registry.commit frame).Consistent := by
  have restored := progress.commit_restored complete
  refine ⟨?_, ?_, fun subID pointer => ?_, ?_⟩
  · rw [restored.byPattern]
    change ∀ pattern pointer, _ → _ ∧ _ < (registry.assign _).allocated
    rw [assign_eq]
    exact consistent.pointed
  · intro pattern pointer
    rw [restored.byPattern, restored.handlers]
    exact consistent.handled pattern pointer
  · rw [restored.live, restored.byPattern, ← progress.covers]
    constructor
    · intro mem
      exact ⟨(List.of_mem_zip mem).1, restored.assigned pointer subID mem⟩
    · rintro ⟨mem, rfl⟩
      obtain ⟨subID, pair⟩ := exists_mem_zip complete mem
      rw [restored.assigned pointer subID pair]
      exact pair
  · change frame.restoredBySubID ≠ registry.bySubID
    rw [progress.table]
    exact consistent.separate.symm

theorem Progress.commit_numbered (numbered : registry.Numbered) :
    (registry.commit frame).Numbered := by
  have restored := progress.commit_restored complete
  refine ⟨fun pointer handlerID => ?_, fun pointer other handlerID => ?_⟩
  · rw [restored.handlers]
    rw [(commit_kept registry frame).2.2]
    exact numbered.issued pointer handlerID
  · rw [restored.handlers, restored.handlers]
    exact numbered.unique pointer other handlerID

end FitzGo.Subscriptions.Heap.Registry
