import Mathlib.Data.String.Basic
import FitzGo.Library.StepMachine
import FitzGo.Subscriptions.RestoreProgress

/-!
# Restore is all or nothing

`Restore` as one function, when no other operation runs meanwhile. Either every
pattern is subscribed again and the map by id is replaced, or the ids that were
handed out are given back and nothing has changed.
-/

namespace FitzGo.Subscriptions.Heap

open StepMachine Slices

inductive WireCall (Pattern : Type) where
  | subscribe (pattern : Pattern)
  | unsubscribe (pattern : Pattern) (subID : UInt64)

/-- The error of a failed `Restore`, joined with those of the rollback. -/
structure RestoreFailure (E Pattern : Type) where
  cause : RestoreError E Pattern
  rollback : List E

structure Wire (E Pattern : Type) where
  subscribe : Pattern → Except E UInt64
  unsubscribe : Option (Pattern → UInt64 → Option E)

/-- What a call of `Restore` leaves behind. -/
structure Outcome (H Pattern E : Type) where
  registry : Registry H Pattern
  result : Except (RestoreFailure E Pattern) Unit
  calls : List (WireCall Pattern)

namespace Registry

variable {H Pattern E : Type}

section Answers

variable {subscribed : List (Pointer Pattern)} {subIDs : List UInt64}
variable {wire : Wire E Pattern}

def handedOut (subscribe : Pattern → Except E UInt64)
    (patterns : List Pattern) : List (RestoreEntry Pattern) :=
  patterns.filterMap fun pattern =>
    match subscribe pattern with
    | .ok subID => some ⟨pattern, subID⟩
    | .error _ => none

def Answered (wire : Wire E Pattern) (subscribed : List (Pointer Pattern))
    (subIDs : List UInt64) : Prop :=
  subscribed.map (fun pointer => wire.subscribe pointer.pattern) = subIDs.map Except.ok

theorem Answered.length (answered : Answered wire subscribed subIDs) :
    subscribed.length = subIDs.length := by
  have lengths := congrArg List.length answered
  rwa [List.length_map, List.length_map] at lengths

variable {pointer : Pointer Pattern}

theorem Answered.concat (answered : Answered wire subscribed subIDs)
    {subID : UInt64} (now : wire.subscribe pointer.pattern = .ok subID) :
    Answered wire (subscribed ++ [pointer]) (subIDs ++ [subID]) := by
  unfold Answered at answered ⊢
  rw [List.map_append, List.map_append, answered, List.map_singleton, List.map_singleton, now]

theorem Answered.handedOut_eq : ∀ {subscribed : List (Pointer Pattern)} {subIDs : List UInt64},
      Answered wire subscribed subIDs →
      ∀ rest : List (Pointer Pattern), restoredEntries (subscribed ++ rest) subIDs =
          handedOut wire.subscribe (subscribed.map Pointer.pattern)
  | [], [], _, rest => by
      rw [restoredEntries, List.zipWith_nil_right]
      rfl
  | pointer :: subscribed, subID :: subIDs, answered, rest => by
      obtain ⟨now, later⟩ := List.cons.inj answered
      change wire.subscribe pointer.pattern = .ok subID at now
      rw [List.cons_append, restoredEntries, List.zipWith_cons_cons,
        List.map_cons, handedOut, List.filterMap_cons, now]
      exact congrArg _ (Answered.handedOut_eq later rest)
  | [], _ :: _, answered, _ => by cases answered
  | _ :: _, [], answered, _ => by cases answered

theorem Restored.of_quiet {before between after : Registry H Pattern}
    {pointers : List (Pointer Pattern)} (quiet : Quiet before between)
    (restored : Restored between after pointers subIDs) :
    Restored before after pointers subIDs where
  byPattern := restored.byPattern.trans quiet.byPattern
  handlers pointer := by
    rw [restored.handlers, quiet.entries]
  assigned := restored.assigned
  others pointer absent := by
    rw [restored.others pointer absent, quiet.entries]
  live := restored.live

theorem Answered.mem_zip_iff {subID : UInt64} :
    ∀ {subscribed : List (Pointer Pattern)} {subIDs : List UInt64},
      Answered wire subscribed subIDs →
      ((pointer, subID) ∈ subscribed.zip subIDs ↔
        pointer ∈ subscribed ∧ wire.subscribe pointer.pattern = .ok subID)
  | [], [], _ =>
    ⟨fun impossible => (by cases impossible), fun impossible => (by cases impossible.1)⟩
  | first :: subscribed, id :: subIDs, answered => by
      obtain ⟨now, later⟩ := List.cons.inj answered
      change wire.subscribe first.pattern = .ok id at now
      rw [List.zip_cons_cons, List.mem_cons, List.mem_cons, Answered.mem_zip_iff later]
      constructor
      · rintro (here | ⟨mem, answer⟩)
        · cases here
          exact ⟨Or.inl rfl, now⟩
        · exact ⟨Or.inr mem, answer⟩
      · rintro ⟨rfl | mem, answer⟩
        · cases now.symm.trans answer
          exact Or.inl rfl
        · exact Or.inr ⟨mem, answer⟩
  | [], _ :: _, answered => by cases answered
  | _ :: _, [], answered => by cases answered

private theorem handedOut_concat_error {pattern : Pattern} {error : E}
    (failed : wire.subscribe pattern = .error error) (patterns : List Pattern) :
    handedOut wire.subscribe (patterns ++ [pattern]) = handedOut wire.subscribe patterns := by
  unfold handedOut
  rw [List.filterMap_append, List.filterMap_cons, failed]
  exact List.append_nil _

end Answers

variable [LinearOrder Pattern] [Inhabited Pattern]

/-- The return after a failed wire call: `rollbackRestore`, then the deferred
`finishRestore`. -/
def giveUp (wire : Wire E Pattern) (registry : Registry H Pattern) (cause : RestoreError E Pattern)
    (restored : Slice) : Outcome H Pattern E :=
  let rolledBack := rollbackRestore (registry.rollbackArrays.contents restored) wire.unsubscribe
  { registry := registry.finishRestore
    result := .error ⟨cause, rolledBack.2⟩
    calls := rolledBack.1.map fun entry => .unsubscribe entry.pattern entry.subID }

/-- The loop of `Restore` with a number of entries left, and what follows. -/
def resubscribe (wire : Wire E Pattern) :
    Nat → Registry H Pattern → RestoreFrame → Outcome H Pattern E
  | 0, registry, frame => ⟨(registry.commit frame).finishRestore, .ok (), []⟩
  | left + 1, registry, frame =>
    match registry.registered frame with
    | none => ⟨(registry.commit frame).finishRestore, .ok (), []⟩
    | some registered =>
      let answered := registry.answer frame registered (wire.subscribe registered.pattern)
      let rest :=
        match answered.2 with
        | .next next => resubscribe wire left answered.1 next
        | .rollback cause restored => giveUp wire answered.1 cause restored
      { rest with calls := .subscribe registered.pattern :: rest.calls }

def restore (wire : Wire E Pattern) (order : List (Pointer Pattern))
    (registry : Registry H Pattern) : Outcome H Pattern E :=
  if registry.byPattern.entries.length = 0 then ⟨registry.finishRestore, .ok (), []⟩
  else
    let begun := registry.beginRestore order
    resubscribe wire begun.2.entries.len begun.1 begun.2

/-! ## What is claimed -/

def Ascending (registry : Registry H Pattern) (patterns : List Pattern) : Prop :=
  patterns.Pairwise (· < ·) ∧ ∀ pattern, pattern ∈ patterns ↔ pattern ∈ registry.byPattern

/-- Some wire call fails, or two return the same id. -/
def Fails (subscribe : Pattern → Except E UInt64) (patterns : List Pattern) : Prop :=
  (∃ pattern ∈ patterns, ∃ error, subscribe pattern = .error error) ∨
    ∃ pattern ∈ patterns, ∃ other ∈ patterns, pattern ≠ other ∧
      ∃ subID, subscribe pattern = .ok subID ∧ subscribe other = .ok subID

def unsubscribes (entries : List (RestoreEntry Pattern)) : List (WireCall Pattern) :=
  entries.reverse.map fun entry => .unsubscribe entry.pattern entry.subID

/-- Nothing has changed, and every id that was handed out was given back, the
last one first. -/
structure RolledBack (before : Registry H Pattern) (patterns : List Pattern)
    (subscribe : Pattern → Except E UInt64)
    (outcome : Outcome H Pattern E) : Prop where
  failed : ∃ failure, outcome.result = .error failure
  unchanged : SameTables before outcome.registry
  calls : ∃ subscribed, subscribed <+: patterns ∧ outcome.calls =
    subscribed.map .subscribe ++ unsubscribes (handedOut subscribe subscribed)

/-- Every pattern was subscribed once, and the map by id holds the same entries
with the same handlers under exactly the new ids. -/
structure Completed (before : Registry H Pattern) (patterns : List Pattern)
    (subscribe : Pattern → Except E UInt64)
    (outcome : Outcome H Pattern E) : Prop where
  succeeded : outcome.result = .ok ()
  calls : outcome.calls = patterns.map .subscribe
  byPattern : outcome.registry.byPattern = before.byPattern
  handlers : ∀ pointer, (outcome.registry.entries pointer).handlers =
    (before.entries pointer).handlers
  live : ∀ subID pointer, outcome.registry.live subID = some pointer ↔
    before.byPattern.lookup pointer.pattern = some pointer ∧ subscribe pointer.pattern = .ok subID
  subIDs : ∀ subID pointer, outcome.registry.live subID = some pointer →
    (outcome.registry.entries pointer).subID = subID

/-! ## The loop -/

section Loop

variable {registry : Registry H Pattern} {frame : RestoreFrame}
variable {subscribed rest : List (Pointer Pattern)} {subIDs : List UInt64}
variable {wire : Wire E Pattern} {pointer : Pointer Pattern}

omit [Inhabited Pattern] in
theorem Progress.registered_of_append
    (progress : registry.Progress frame (subscribed ++ pointer :: rest) subIDs)
    (answered : Answered wire subscribed subIDs) : registry.registered frame = some pointer := by
  rw [progress.registered_eq, ← answered.length,
    List.getElem?_append_right (Nat.le_refl _), Nat.sub_self,
    List.getElem?_cons_zero]

theorem resubscribe_fresh {subID : UInt64}
    (progress : registry.Progress frame (subscribed ++ pointer :: rest) subIDs)
    (answered : Answered wire subscribed subIDs) (now : wire.subscribe pointer.pattern = .ok subID)
    (fresh : subID ∉ subIDs) (left : Nat) :
    let recorded := registry.record frame pointer subID
    let outcome := resubscribe wire left recorded.1 recorded.2
    resubscribe wire (left + 1) registry frame =
        { outcome with calls := .subscribe pointer.pattern :: outcome.calls } ∧
      recorded.1.Progress recorded.2 ((subscribed ++ [pointer]) ++ rest) (subIDs ++ [subID]) := by
  have current := progress.registered_of_append answered
  refine ⟨?_, ?_⟩
  · rw [resubscribe, current]
    dsimp only
    rw [now, progress.answer_fresh fresh pointer]
  · rw [progress.registered_eq] at current
    rw [List.append_assoc, List.singleton_append]
    exact progress.record current fresh

theorem resubscribe_completes : ∀ {rest : List (Pointer Pattern)} {registry : Registry H Pattern}
      {frame : RestoreFrame} {subscribed : List (Pointer Pattern)}
      {subIDs more : List UInt64},
      registry.Progress frame (subscribed ++ rest) subIDs →
      registry.Consistent →
      Answered wire subscribed subIDs →
      Answered wire rest more →
      (subIDs ++ more).Nodup →
      let outcome := resubscribe wire rest.length registry frame
      outcome.result = .ok () ∧
        outcome.calls = rest.map (fun pointer => .subscribe pointer.pattern) ∧
        Restored registry outcome.registry (subscribed ++ rest) (subIDs ++ more)
  | [], registry, frame, subscribed, subIDs, more, progress, _, answered, later, _ => by
      have none : more = [] := List.eq_nil_of_length_eq_zero later.length.symm
      rw [none, List.append_nil subIDs]
      have complete : subIDs.length = (subscribed ++ []).length := by
        rw [List.append_nil, answered.length]
      have restored := progress.commit_restored complete
      exact ⟨rfl, rfl, { restored with }⟩
  | pointer :: rest, registry, frame, subscribed, subIDs, [], _, _, _, later, _ => by cases later
  | pointer :: rest, registry, frame, subscribed, subIDs, subID :: more,
      progress, consistent, answered, later, nodup => by
      obtain ⟨now, laterRest⟩ := List.cons.inj later
      have fresh : subID ∉ subIDs := by
        intro used
        exact (List.nodup_append.mp nodup).2.2 subID used subID List.mem_cons_self rfl
      obtain ⟨round, recorded⟩ := resubscribe_fresh progress answered now fresh rest.length
      have quiet := progress.answer_quiet consistent pointer (.ok subID : Except E UInt64)
      rw [progress.answer_fresh fresh pointer] at quiet
      have pointers : subscribed ++ pointer :: rest = (subscribed ++ [pointer]) ++ rest :=
        List.append_cons ..
      have ids : subIDs ++ subID :: more = (subIDs ++ [subID]) ++ more := List.append_cons ..
      rw [ids] at nodup
      obtain ⟨succeeded, calls, restored⟩ :=
        resubscribe_completes recorded (quiet.consistent consistent)
          (answered.concat now) laterRest nodup
      rw [List.length_cons, round, pointers, ids]
      exact ⟨succeeded, congrArg _ calls, restored.of_quiet quiet⟩

variable {unsubscribe : Pattern → UInt64 → Option E}

private theorem resubscribe_gives_up
    (progress : registry.Progress frame (subscribed ++ pointer :: rest) subIDs)
    (consistent : registry.Consistent) (answered : Answered wire subscribed subIDs)
    (given : wire.unsubscribe = some unsubscribe)
    (refused : ∀ subID, wire.subscribe pointer.pattern = .ok subID → subID ∈ subIDs) (left : Nat) :
    let outcome := resubscribe wire (left + 1) registry frame
    (∃ failure, outcome.result = .error failure) ∧ SameTables registry outcome.registry ∧
      outcome.calls = .subscribe pointer.pattern :: unsubscribes (handedOut wire.subscribe
            (subscribed.map Pointer.pattern ++ [pointer.pattern])) := by
  have current := progress.registered_of_append answered
  have quiet := progress.answer_quiet consistent pointer (wire.subscribe pointer.pattern)
  rw [resubscribe, current]
  dsimp only
  cases now : wire.subscribe pointer.pattern with
  | error error =>
    refine ⟨⟨_, rfl⟩, ⟨rfl, rfl, rfl⟩, ?_⟩
    dsimp only [answer, giveUp]
    rw [given, progress.rollback, answered.handedOut_eq, handedOut_concat_error now]
    rfl
  | ok subID =>
    rw [progress.registered_eq] at current
    obtain ⟨restored, reply, contents⟩ :=
      progress.answer_duplicate (E := E) current (refused subID now)
    rw [now] at quiet
    rw [reply]
    have same := quiet.toSameTables
    refine ⟨⟨_, rfl⟩, { same with }, ?_⟩
    have pointers : subscribed ++ pointer :: rest = (subscribed ++ [pointer]) ++ rest :=
      List.append_cons ..
    rw [pointers, (answered.concat now).handedOut_eq, List.map_append,
      List.map_singleton] at contents
    dsimp only [giveUp]
    rw [given, contents]
    rfl

private theorem resubscribe_fails
    (given : wire.unsubscribe = some unsubscribe) :
    ∀ {rest : List (Pointer Pattern)} {registry : Registry H Pattern}
      {frame : RestoreFrame} {subscribed : List (Pointer Pattern)}
      {subIDs : List UInt64},
      registry.Progress frame (subscribed ++ rest) subIDs →
      registry.Consistent →
      Answered wire subscribed subIDs →
      (∀ more, Answered wire rest more → ¬ (subIDs ++ more).Nodup) →
      let outcome := resubscribe wire rest.length registry frame
      (∃ failure, outcome.result = .error failure) ∧ SameTables registry outcome.registry ∧
        ∃ called, called <+: rest.map Pointer.pattern ∧
          outcome.calls = called.map .subscribe ++
              unsubscribes (handedOut wire.subscribe (subscribed.map Pointer.pattern ++ called))
  | [], registry, frame, subscribed, subIDs, progress, _, _, failing => by
      have distinct := progress.distinct
      rw [← List.append_nil subIDs] at distinct
      exact absurd distinct (failing [] rfl)
  | pointer :: rest, registry, frame, subscribed, subIDs, progress,
      consistent, answered, failing => by
      by_cases refused : ∀ subID, wire.subscribe pointer.pattern = .ok subID → subID ∈ subIDs
      · obtain ⟨failed, same, calls⟩ :=
          resubscribe_gives_up progress consistent answered given refused rest.length
        exact ⟨failed, same, [pointer.pattern], ⟨rest.map Pointer.pattern, rfl⟩, calls⟩
      · simp only [not_forall] at refused
        obtain ⟨subID, now, fresh⟩ := refused
        obtain ⟨round, recorded⟩ := resubscribe_fresh progress answered now fresh rest.length
        have quiet := progress.answer_quiet consistent pointer (.ok subID : Except E UInt64)
        rw [progress.answer_fresh fresh pointer] at quiet
        have failingRest : ∀ more, Answered wire rest more →
            ¬ ((subIDs ++ [subID]) ++ more).Nodup := by
          intro more later
          rw [← List.append_cons]
          refine failing (subID :: more) ?_
          exact (congrArg₂ List.cons now later :)
        obtain ⟨failed, same, called, leading, calls⟩ :=
          resubscribe_fails given recorded (quiet.consistent consistent)
            (answered.concat now) failingRest
        rw [List.length_cons, round]
        refine ⟨failed, ?_, pointer.pattern :: called, ?_, ?_⟩
        · exact quiet.toSameTables.trans same
        · exact List.cons_prefix_cons.mpr ⟨rfl, leading⟩
        · dsimp only
          rw [calls, List.map_append, List.append_assoc]
          rfl

end Loop

/-! ## The whole call -/

section Failing

variable {subscribe : Pattern → Except E UInt64} {patterns : List Pattern}

omit [LinearOrder Pattern] [Inhabited Pattern] in
private theorem not_fails_of_answers {subIDs : List UInt64}
    (answered : patterns.map subscribe = subIDs.map .ok)
    (distinct : subIDs.Nodup) : ¬ Fails subscribe patterns := by
  rintro (⟨pattern, mem, error, failed⟩ |
    ⟨pattern, mem, other, otherMem, different, subID, mine, yours⟩)
  · have image : subscribe pattern ∈ patterns.map subscribe := List.mem_map_of_mem mem
    rw [answered, failed] at image
    obtain ⟨subID, -, impossible⟩ := List.mem_map.mp image
    cases impossible
  · have images : (patterns.map subscribe).Nodup := by
      rw [answered]
      exact distinct.map fun _ _ same => Except.ok.inj same
    exact different (List.inj_on_of_nodup_map images mem otherMem (mine.trans yours.symm))

def answeredID : Except E UInt64 → UInt64
  | .ok subID => subID
  | .error _ => 0

omit [LinearOrder Pattern] [Inhabited Pattern] in
theorem answers_of_not_fails (nodup : patterns.Nodup) (succeeds : ¬ Fails subscribe patterns) :
    ∃ subIDs : List UInt64, patterns.map subscribe = subIDs.map .ok ∧ subIDs.Nodup := by
  obtain ⟨noError, noCollision⟩ := not_or.mp succeeds
  have answers : ∀ pattern ∈ patterns,
      subscribe pattern = .ok (answeredID (subscribe pattern)) := by
    intro pattern mem
    cases answer : subscribe pattern with
    | ok subID => rfl
    | error error => exact absurd ⟨pattern, mem, error, answer⟩ noError
  refine ⟨patterns.map fun pattern => answeredID (subscribe pattern), ?_, ?_⟩
  · rw [List.map_map]
    exact List.map_congr_left answers
  · refine nodup.map_on fun pattern mem other otherMem same => ?_
    by_contra different
    have yours := answers other otherMem
    rw [← same] at yours
    exact noCollision ⟨pattern, mem, other, otherMem, different, _, answers pattern mem, yours⟩

end Failing

variable {before : Registry H Pattern} {order : List (Pointer Pattern)}

omit [Inhabited Pattern] in
theorem Consistent.ascending (consistent : before.Consistent) (perm : order.Perm before.pointers) :
    before.Ascending ((sortByPattern order).map Pointer.pattern) := by
  have nodup := consistent.patterns_nodup perm
  refine ⟨List.pairwise_map.mpr (pairwise_sortByPattern nodup), fun pattern => ?_⟩
  rw [((perm_sortByPattern order).map Pointer.pattern).mem_iff,
    (perm.map Pointer.pattern).mem_iff, consistent.patterns_pointers]
  exact AList.mem_keys.symm

omit [LinearOrder Pattern] [Inhabited Pattern] in
theorem pointers_eq_nil (none : before.byPattern.entries.length = 0) : before.pointers = [] := by
  rw [Registry.pointers, List.eq_nil_of_length_eq_zero none, List.map_nil]

theorem Consistent.restore_rolls_back (consistent : before.Consistent)
    (perm : order.Perm before.pointers) (wire : Wire E Pattern)
    {unsubscribe : Pattern → UInt64 → Option E} (given : wire.unsubscribe = some unsubscribe)
    (failing : Fails wire.subscribe ((sortByPattern order).map Pointer.pattern)) :
    RolledBack before ((sortByPattern order).map Pointer.pattern)
      wire.subscribe (before.restore wire order) := by
  have quiet := consistent.beginRestore_quiet order
  have progress : (before.beginRestore order).1.Progress (before.beginRestore order).2
        ([] ++ sortByPattern order) [] :=
    consistent.beginRestore_progress perm
  have nonempty : before.byPattern.entries.length ≠ 0 := by
    intro none
    rw [pointers_eq_nil none] at perm
    rw [perm.eq_nil] at failing
    rcases failing with ⟨_, mem, _⟩ | ⟨_, mem, _⟩ <;> cases mem
  have unanswered : ∀ more, Answered wire (sortByPattern order) more → ¬ ([] ++ more).Nodup := by
    intro more answered distinct
    refine not_fails_of_answers ?_ distinct failing
    rw [List.map_map]
    exact answered
  obtain ⟨failed, same, called, leading, calls⟩ :=
    resubscribe_fails given progress (quiet.consistent consistent) rfl unanswered
  rw [restore, if_neg nonempty]
  dsimp only
  rw [len_beginRestore perm]
  exact ⟨failed, quiet.toSameTables.trans same, called, leading, calls⟩

theorem Consistent.restore_completes
    (consistent : before.Consistent) (perm : order.Perm before.pointers) (wire : Wire E Pattern)
    (succeeds : ¬ Fails wire.subscribe ((sortByPattern order).map Pointer.pattern)) :
    Completed before ((sortByPattern order).map Pointer.pattern)
      wire.subscribe (before.restore wire order) := by
  by_cases none : before.byPattern.entries.length = 0
  · have noPointers := pointers_eq_nil none
    have absent : ∀ pointer, before.byPattern.lookup pointer.pattern ≠ some pointer := by
      intro pointer found
      rw [← consistent.mem_pointers, noPointers] at found
      cases found
    rw [noPointers] at perm
    rw [restore, if_pos none, perm.eq_nil]
    refine ⟨rfl, rfl, rfl, fun _ => rfl, fun subID pointer => ?_, fun subID pointer live => ?_⟩
    · constructor
      · intro live
        exact absurd ((consistent.agree subID pointer).mp live).1 (absent pointer)
      · intro both
        exact absurd both.1 (absent pointer)
    · exact ((consistent.agree subID pointer).mp live).2
  · have quiet := consistent.beginRestore_quiet order
    have progress : (before.beginRestore order).1.Progress (before.beginRestore order).2
          ([] ++ sortByPattern order) [] :=
      consistent.beginRestore_progress perm
    obtain ⟨subIDs, answers, distinct⟩ := answers_of_not_fails
        (((perm_sortByPattern order).map Pointer.pattern).nodup_iff.mpr
          (consistent.patterns_nodup perm)) succeeds
    rw [List.map_map] at answers
    have answered : Answered wire (sortByPattern order) subIDs := answers
    obtain ⟨succeeded, calls, restored⟩ :=
      resubscribe_completes progress (quiet.consistent consistent) rfl answered distinct
    rw [restore, if_neg none]
    dsimp only
    rw [len_beginRestore perm]
    have whole := restored.of_quiet quiet
    refine ⟨succeeded, ?_, whole.byPattern, whole.handlers,
      fun subID pointer => ?_, fun subID pointer live => ?_⟩
    · rw [calls, List.map_map]
      rfl
    · rw [whole.live, List.nil_append, List.nil_append,
        answered.mem_zip_iff, ← List.nil_append (sortByPattern order),
        progress.covers, quiet.byPattern]
    · exact whole.assigned pointer subID ((whole.live subID pointer).mp live)

/-! ## Histories -/

structure Settled (registry : Registry H Pattern) : Prop where
  consistent : registry.Consistent
  pending : registry.pending = []
  restoring : registry.restoring = false

omit [Inhabited Pattern] in
theorem Settled.of_quiet {between : Registry H Pattern}
    (settled : before.Settled) (quiet : Quiet before between) : between.finishRestore.Settled where
  consistent := { quiet.consistent settled.consistent with }
  pending := quiet.pending.trans settled.pending
  restoring := rfl

private theorem resubscribe_settled (wire : Wire E Pattern) :
    ∀ {left : Nat} {registry : Registry H Pattern} {frame : RestoreFrame}
      {pointers : List (Pointer Pattern)} {subIDs : List UInt64},
      registry.Progress frame pointers subIDs →
      registry.Consistent →
      registry.pending = [] →
      subIDs.length + left = pointers.length →
      (resubscribe wire left registry frame).registry.Settled
  | 0, registry, frame, pointers, subIDs, progress, consistent, nothing, complete => by
      have committed := progress.commit_consistent complete consistent
      exact ⟨{ committed with }, (commit_kept registry frame).1.trans nothing, rfl⟩
  | left + 1, registry, frame, pointers, subIDs, progress, consistent, nothing, size => by
      rw [resubscribe]
      cases current : registry.registered frame with
      | none =>
        have complete := progress.complete_of_registered_none current
        omega
      | some pointer =>
        have quiet := progress.answer_quiet consistent pointer (wire.subscribe pointer.pattern)
        have answered := quiet.consistent consistent
        dsimp only
        cases reply : (registry.answer frame pointer (wire.subscribe pointer.pattern)).2 with
        | rollback cause restored => exact ⟨{ answered with }, quiet.pending.trans nothing, rfl⟩
        | next following =>
          obtain ⟨subID, -, recorded⟩ := progress.answer_next current _ reply
          refine resubscribe_settled wire recorded answered (quiet.pending.trans nothing) ?_
          rw [List.length_append, List.length_singleton]
          omega

theorem Settled.restore (settled : before.Settled) (perm : order.Perm before.pointers)
    (wire : Wire E Pattern) : (before.restore wire order).registry.Settled := by
  unfold Registry.restore
  split
  · exact settled.of_quiet (Quiet.refl before)
  · have quiet := settled.consistent.beginRestore_quiet order
    refine resubscribe_settled wire (settled.consistent.beginRestore_progress perm)
      (quiet.consistent settled.consistent)
      (quiet.pending.trans settled.pending) ?_
    rw [List.length_nil, Nat.zero_add, len_beginRestore perm]

end Registry

open Heap.Registry

/-- The operations of a history in which each one returns before the next one
starts. A `Subscribe` comes with the answer to its wire call, a `Restore` with
its wire and the order in which the range meets the entries. -/
inductive Operation (H Pattern E : Type) where
  | subscribe (pattern : Pattern) (handler : H) (result : Except E UInt64)
  | unsubscribe (pattern : Pattern) (handlerID : UInt64)
  | clear
  | restore (wire : Wire E Pattern) (order : List (Pointer Pattern))

section Histories

variable {H Pattern E : Type} [LinearOrder Pattern] [Inhabited Pattern]

def Allowed (registry : Registry H Pattern) : Operation H Pattern E → Prop
  | .subscribe pattern _ _ => registry.restoring = false ∧ pattern ∉ registry.pending
  | .unsubscribe _ _ | .clear => registry.restoring = false
  | .restore _ order =>
    registry.restoring = false ∧ registry.pending = [] ∧ order.Perm registry.pointers

instance (registry : Registry H Pattern) (operation : Operation H Pattern E) :
    Decidable (Allowed registry operation) := by
  cases operation <;> dsimp only [Allowed] <;> infer_instance

def perform (registry : Registry H Pattern) : Operation H Pattern E → Registry H Pattern
  | .subscribe pattern handler result =>
    let attempted := registry.attemptSubscribe pattern handler
    match attempted.2 with
    | .returned _ _ | .retry => attempted.1
    | .call => (attempted.1.publish pattern handler result).1
  | .unsubscribe pattern handlerID => (registry.unsubscribe pattern handlerID).1
  | .clear => registry.clear.1
  | .restore wire order => (registry.restore wire order).registry

def performed (registry : Registry H Pattern)
    (operation : Operation H Pattern E) : Option (Registry H Pattern) :=
  guarded Allowed perform registry operation

variable {registry : Registry H Pattern}

theorem subscribe_settled (settled : registry.Settled) {pattern : Pattern} (handler : H)
    (result : Except E UInt64) :
    (perform registry (.subscribe pattern handler result)).Settled := by
  have attempted : (registry.attemptSubscribe pattern handler).1.Consistent :=
    settled.consistent.attemptSubscribe
  dsimp only [perform]
  cases found : registry.byPattern.lookup pattern with
  | some existing =>
    rw [attemptSubscribe_of_some found] at attempted ⊢
    exact ⟨attempted, settled.pending, settled.restoring⟩
  | none =>
    have unlisted : pattern ∉ registry.pending := by
      rw [settled.pending]
      exact List.not_mem_nil
    rw [attemptSubscribe_of_new found unlisted] at attempted ⊢
    have dropped : (pattern :: registry.pending).filter (· ≠ pattern) = [] := by
      rw [settled.pending]
      simp
    refine ⟨attempted.publish result found, ?_, ?_⟩
    all_goals
      dsimp only
      rcases publish_cases
          { registry with pending := pattern :: registry.pending }
          pattern handler result with
        ⟨error, published⟩ | ⟨subID, -, -, published⟩
      all_goals rw [published]
    · exact dropped
    · exact dropped
    · exact settled.restoring
    · exact settled.restoring

private theorem performed_settled {after : Registry H Pattern}
    {operation : Operation H Pattern E} (settled : registry.Settled)
    (done : performed registry operation = some after) : after.Settled := by
  obtain ⟨allowed, rfl⟩ := guarded_eq_some_iff.mp done
  cases operation with
  | subscribe pattern handler result => exact subscribe_settled settled handler result
  | unsubscribe pattern handlerID =>
    exact ⟨settled.consistent.unsubscribe, unsubscribe_kept.1.trans settled.pending,
      unsubscribe_kept.2.1.trans settled.restoring⟩
  | clear => exact ⟨settled.consistent.clear, settled.pending, settled.restoring⟩
  | restore wire order => exact settled.restore allowed.2.2 wire

theorem history_settled {history : List (Operation H Pattern E)} {before : Registry H Pattern}
    (ran : run performed Registry.new history = some before) : before.Settled :=
  invariant_of_run Settled performed_settled ⟨new_consistent, rfl, rfl⟩ ran

/-- After every history of operations, whatever they left in the scratch slices
and in the scratch map, `Restore` does not wait, and it either gives all ids
back and changes nothing, or replaces the ids of all entries. -/
theorem restore_is_all_or_nothing {history : List (Operation H Pattern E)}
    {before : Registry H Pattern} (ran : run performed Registry.new history = some before)
    {order : List (Pointer Pattern)} (perm : order.Perm before.pointers)
    (subscribe : Pattern → Except E UInt64) (unsubscribe : Pattern → UInt64 → Option E) :
    let wire : Wire E Pattern := ⟨subscribe, some unsubscribe⟩
    before.restoring = false ∧ before.pending = [] ∧
      ∃ patterns, before.Ascending patterns ∧
        (Fails subscribe patterns →
          RolledBack before patterns subscribe (before.restore wire order)) ∧
        (¬ Fails subscribe patterns →
          Completed before patterns subscribe (before.restore wire order)) := by
  have settled := history_settled ran
  have consistent := settled.consistent
  refine ⟨settled.restoring, settled.pending,
    (sortByPattern order).map Pointer.pattern, consistent.ascending perm,
    fun failing => ?_, fun succeeds => ?_⟩
  · exact consistent.restore_rolls_back perm ⟨subscribe, some unsubscribe⟩ rfl failing
  · exact consistent.restore_completes perm ⟨subscribe, some unsubscribe⟩ succeeds

/-- Two patterns, a `Restore` that gives them each other's id, and one that
fails at the second pattern. -/
def recycledHistory : List (Operation Unit String Unit) :=
  [.subscribe "b" () (.ok 1), .subscribe "a" () (.ok 2), .restore
      ⟨fun pattern => if pattern = "a" then .ok 1 else .ok 2, none⟩
      [⟨"a", 1⟩, ⟨"b", 0⟩],
    .restore ⟨fun pattern => if pattern = "a" then .ok 3 else .error (), none⟩ [⟨"b", 0⟩, ⟨"a", 1⟩]]

/-- A third `Restore` gets the same id for both patterns and rolls back. -/
theorem recycledHistory_rolls_back : ∃ (before : Registry Unit String) (patterns : List String),
      run performed Registry.new recycledHistory = some before ∧
        before.Ascending patterns ∧
        RolledBack before patterns (fun _ => (.ok 7 : Except Unit UInt64))
          (before.restore ⟨fun _ => .ok 7, some fun _ _ => none⟩ [⟨"a", 1⟩, ⟨"b", 0⟩]) := by
  have observed : (run performed (Registry.new : Registry Unit String)
        recycledHistory).map (fun before => (before.pointers, before.byPattern.keys)) =
        some ([⟨"a", 1⟩, ⟨"b", 0⟩], ["a", "b"]) := by
    decide +kernel
  obtain ⟨before, ran, both⟩ := Option.map_eq_some_iff.mp observed
  obtain ⟨pointers, keys⟩ := Prod.mk.inj both
  have perm : [⟨"a", 1⟩, ⟨"b", 0⟩].Perm before.pointers := by
    rw [pointers]
  obtain ⟨-, -, patterns, ascending, rolledBack, -⟩ :=
    restore_is_all_or_nothing ran perm (fun _ => .ok 7) fun _ _ => none
  have listed : ∀ pattern ∈ ["a", "b"], pattern ∈ patterns := by
    intro pattern mem
    rwa [ascending.2, AList.mem_keys, keys]
  refine ⟨before, patterns, ran, ascending, rolledBack (Or.inr ?_)⟩
  exact ⟨"a", listed "a" (by decide), "b", listed "b" (by decide), by decide, 7, rfl, rfl⟩

end Histories
end FitzGo.Subscriptions.Heap
