import Mathlib.Data.List.Basic
import Mathlib.Logic.Function.Basic

/-!
# The queue of pending requests

`requestQueue` is a slice with a head and an index by waiter. A request that is
removed leaves an empty slot, or a tombstone that takes the place of its
response. `remaining` are the slots from the head on.
-/

namespace FitzGo.Connection

/-- A slot; waiters are numbered, `none` is the nil waiter. -/
structure PendingRequest where
  waiter : Option Nat
  discard : Bool

namespace PendingRequest

def empty : PendingRequest := ⟨none, false⟩

def tombstone : PendingRequest := ⟨none, true⟩

def hasWaiter (request : PendingRequest) : Bool :=
  request.waiter.isSome

def occupied (request : PendingRequest) : Bool :=
  request.hasWaiter || request.discard

end PendingRequest

/-- A nil index behaves like an empty one. -/
structure RequestQueue where
  items : List PendingRequest
  head : Nat
  live : Int
  removed : Int
  waiterIndex : Nat → Option Nat

namespace RequestQueue

open PendingRequest

def new : RequestQueue := ⟨[], 0, 0, 0, fun _ => none⟩

def push (queue : RequestQueue) (waiter : Nat) : RequestQueue :=
  { queue with
    items := queue.items ++ [⟨some waiter, false⟩]
    live := queue.live + 1
    waiterIndex := Function.update queue.waiterIndex waiter (some queue.items.length) }

def remaining (queue : RequestQueue) : List PendingRequest :=
  queue.items.drop queue.head

def trimLoop : List PendingRequest → Nat → Int → Nat × Int
  | [], head, removed => (head, removed)
  | request :: rest, head, removed =>
    if request.occupied then (head, removed)
    else trimLoop rest (head + 1) (if removed > 0 then removed - 1 else removed)

def setHead (queue : RequestQueue) (trimmed : Nat × Int) : RequestQueue :=
  if trimmed.1 ≥ queue.items.length then new
  else { queue with head := trimmed.1, removed := trimmed.2 }

def trimHead (queue : RequestQueue) : RequestQueue :=
  queue.setHead (trimLoop queue.remaining queue.head queue.removed)

def indexOf : List PendingRequest → Nat → Nat → Option Nat
  | [], _ => fun _ => none
  | request :: rest, position =>
    fun waiter =>
      match indexOf rest (position + 1) waiter with
      | some later => some later
      | none =>
        if request.waiter = some waiter then some position else none

def compact (queue : RequestQueue) : RequestQueue :=
  if queue.live = 0 then new
  else
    let kept := queue.remaining.filter occupied
    { items := kept
      head := 0
      live := queue.live
      removed := 0
      waiterIndex := indexOf kept 0 }

def compactIfNeeded (queue : RequestQueue) : RequestQueue :=
  if queue.live = 0 then new
  else if queue.head < 32 ∧ queue.removed < 32 then queue
  else if queue.head * 2 < queue.items.length ∧ queue.removed * 2 < queue.items.length then queue
  else queue.compact

def takeHead (queue : RequestQueue) (request : PendingRequest) : RequestQueue :=
  { queue with
    items := queue.items.set queue.head empty
    head := queue.head + 1
    live := queue.live - 1
    waiterIndex :=
      match request.waiter with
      | none => queue.waiterIndex
      | some waiter => Function.update queue.waiterIndex waiter none }

def pop (queue : RequestQueue) : Option PendingRequest × RequestQueue :=
  let trimmed := queue.trimHead
  match trimmed.remaining with
  | [] => (none, new)
  | request :: _ => (some request, (trimmed.takeHead request).trimHead.compactIfNeeded)

def forget (queue : RequestQueue) (waiter : Nat) : RequestQueue :=
  { queue with waiterIndex := Function.update queue.waiterIndex waiter none }

/-- The slot of a removed request becomes a tombstone, or empty. -/
def clearSlot (queue : RequestQueue) (index : Nat) (preserveResponseSlot : Bool) : RequestQueue :=
  if preserveResponseSlot then { queue with items := queue.items.set index tombstone }
  else
    let cleared := { queue with
        items := queue.items.set index empty
        live := queue.live - 1
        removed := queue.removed + 1 }
    if index = queue.head then cleared.trimHead else cleared

def removeWaiter (queue : RequestQueue) (waiter : Nat) (preserveResponseSlot : Bool) :
    Bool × RequestQueue :=
  match queue.waiterIndex waiter with
  | none => (false, queue.forget waiter)
  | some index =>
    if index < queue.head ∨ queue.items.length ≤ index then (false, queue.forget waiter)
    else if (queue.items.getD index empty).waiter ≠ some waiter then (false, queue.forget waiter)
    else (true, ((queue.forget waiter).clearSlot index preserveResponseSlot).compactIfNeeded)

/-! ## What the queue holds -/

def waiters (queue : RequestQueue) : Nat :=
  queue.remaining.countP hasWaiter

/-- `live` counts the occupied slots, and a tombstone has no waiter. -/
structure WellFormed (queue : RequestQueue) : Prop where
  head : queue.head ≤ queue.items.length
  live : queue.live = queue.remaining.countP occupied
  tombstones : ∀ request ∈ queue.remaining, request.discard = true → request.hasWaiter = false

theorem new_wellFormed : WellFormed new where
  head := Nat.zero_le _
  live := rfl
  tombstones _ member := nomatch member

variable {request : PendingRequest}

theorem occupied_of_hasWaiter (has : request.hasWaiter = true) : request.occupied = true := by
  unfold occupied
  rw [has, Bool.true_or]

variable {queue : RequestQueue}

theorem WellFormed.waiters_eq_zero (wellFormed : WellFormed queue)
    (dead : queue.live = 0) : queue.waiters = 0 := by
  have none : queue.remaining.countP occupied = 0 := by
    have live := wellFormed.live
    omega
  have fewer : queue.remaining.countP hasWaiter ≤ queue.remaining.countP occupied :=
    List.countP_mono_left fun _ _ has => occupied_of_hasWaiter has
  unfold waiters
  omega

/-! ## The head -/

private theorem trimLoop_head : ∀ (rest : List PendingRequest) (head : Nat) (removed : Int),
      (trimLoop rest head removed).1 =
        head + (rest.takeWhile fun request => !request.occupied).length
  | [], _, _ => rfl
  | request :: rest, head, removed => by
      by_cases taken : request.occupied = true
      · rw [trimLoop, if_pos taken, List.takeWhile_cons_of_neg (by simp [taken])]
        rfl
      · rw [trimLoop, if_neg taken, trimLoop_head rest,
          List.takeWhile_cons_of_pos (by simp [taken]), List.length_cons]
        omega

private theorem drop_takeWhile_length {Entry : Type} (skip : Entry → Bool) :
    ∀ entries : List Entry, entries.drop (entries.takeWhile skip).length = entries.dropWhile skip
  | [] => rfl
  | entry :: entries => by
      by_cases skipped : skip entry = true
      · rw [List.takeWhile_cons_of_pos skipped,
          List.dropWhile_cons_of_pos skipped, List.length_cons,
          List.drop_succ_cons, drop_takeWhile_length skip entries]
      · rw [List.takeWhile_cons_of_neg skipped, List.dropWhile_cons_of_neg skipped]
        rfl

theorem remaining_trimHead (queue : RequestQueue) : queue.trimHead.remaining =
      queue.remaining.dropWhile fun request => !request.occupied := by
  have trimmed := trimLoop_head queue.remaining queue.head queue.removed
  have skipped : queue.items.drop (trimLoop queue.remaining queue.head queue.removed).1 =
        queue.remaining.dropWhile fun request => !request.occupied := by
    rw [trimmed, ← List.drop_drop]
    exact drop_takeWhile_length _ _
  unfold trimHead setHead
  split
  · rename_i past
    rw [← skipped, List.drop_eq_nil_of_le past]
    rfl
  · exact skipped

theorem countP_dropWhile {Entry : Type} {counts keep : Entry → Bool}
    (kept : ∀ entry, counts entry = true → keep entry = true) :
    ∀ entries : List Entry,
      (entries.dropWhile fun entry => !keep entry).countP counts = entries.countP counts
  | [] => rfl
  | entry :: entries => by
      by_cases keeps : keep entry = true
      · rw [List.dropWhile_cons_of_neg (by simp [keeps])]
      · have ignored : ¬ counts entry = true := fun counted => keeps (kept entry counted)
        rw [List.dropWhile_cons_of_pos (by simp [keeps]),
          countP_dropWhile kept entries, List.countP_cons_of_neg ignored]

theorem waiters_trimHead (queue : RequestQueue) : queue.trimHead.waiters = queue.waiters := by
  unfold waiters
  rw [remaining_trimHead]
  exact countP_dropWhile (fun _ has => occupied_of_hasWaiter has) _

theorem countP_trimHead (queue : RequestQueue) :
    queue.trimHead.remaining.countP occupied = queue.remaining.countP occupied := by
  rw [remaining_trimHead]
  exact countP_dropWhile (fun _ taken => taken) _

theorem WellFormed.trimHead (wellFormed : WellFormed queue) : WellFormed queue.trimHead := by
  have counted := countP_trimHead queue
  refine ⟨?_, ?_, ?_⟩
  · unfold RequestQueue.trimHead setHead
    split
    · exact Nat.zero_le _
    · rename_i within
      exact Nat.le_of_not_le within
  · rw [counted]
    unfold RequestQueue.trimHead setHead at counted ⊢
    split at counted
    · rename_i past
      -- the queue was reset, so nothing was occupied
      rw [if_pos past, ← counted]
      rfl
    · rename_i within
      rw [if_neg within]
      exact wellFormed.live
  · intro request member
    rw [remaining_trimHead] at member
    exact wellFormed.tombstones request ((List.dropWhile_sublist _).mem member)

/-! ## Compaction -/

theorem WellFormed.compact (wellFormed : WellFormed queue) :
    WellFormed queue.compact ∧ queue.compact.waiters = queue.waiters := by
  unfold RequestQueue.compact
  split
  · rename_i dead
    exact ⟨new_wellFormed, (wellFormed.waiters_eq_zero dead).symm⟩
  · have kept : (queue.remaining.filter occupied).countP occupied =
        queue.remaining.countP occupied := by
      rw [List.countP_filter]
      exact List.countP_congr fun request _ => by simp
    have keptWaiters :
        (queue.remaining.filter occupied).countP hasWaiter = queue.remaining.countP hasWaiter := by
      rw [List.countP_filter]
      refine List.countP_congr fun request _ => ?_
      simp only [Bool.and_eq_true]
      exact ⟨fun both => both.1, fun has => ⟨has, occupied_of_hasWaiter has⟩⟩
    refine ⟨⟨Nat.zero_le _, ?_, ?_⟩, keptWaiters⟩
    · exact wellFormed.live.trans (congrArg Nat.cast kept.symm)
    · intro request member
      exact wellFormed.tombstones request (List.mem_filter.mp member).1

theorem WellFormed.compactIfNeeded (wellFormed : WellFormed queue) :
    WellFormed queue.compactIfNeeded ∧ queue.compactIfNeeded.waiters = queue.waiters := by
  unfold RequestQueue.compactIfNeeded
  split
  · rename_i dead
    exact ⟨new_wellFormed, (wellFormed.waiters_eq_zero dead).symm⟩
  · split
    · exact ⟨wellFormed, rfl⟩
    · split
      · exact ⟨wellFormed, rfl⟩
      · exact wellFormed.compact

/-! ## The operations of the multiplexer -/

theorem WellFormed.push {queue : RequestQueue} (wellFormed : WellFormed queue) (waiter : Nat) :
    WellFormed (queue.push waiter) ∧ (queue.push waiter).waiters = queue.waiters + 1 := by
  have appended : (queue.push waiter).remaining = queue.remaining ++ [⟨some waiter, false⟩] :=
    List.drop_append_of_le_length wellFormed.head
  refine ⟨⟨?_, ?_, ?_⟩, ?_⟩
  · change queue.head ≤ (queue.items ++ [_]).length
    rw [List.length_append]
    exact Nat.le_add_right_of_le wellFormed.head
  · rw [appended, List.countP_append]
    change queue.live + 1 = _
    rw [wellFormed.live]
    rfl
  · intro request member
    rw [appended, List.mem_append, List.mem_singleton] at member
    rcases member with old | rfl
    · exact wellFormed.tombstones request old
    · exact nofun
  · unfold waiters
    rw [appended, List.countP_append]
    rfl

private theorem occupied_of_trimHead {rest : List PendingRequest}
    (trimmed : queue.trimHead.remaining = request :: rest) : request.occupied = true := by
  rw [remaining_trimHead] at trimmed
  have first := List.head?_dropWhile_not (fun request => !request.occupied) queue.remaining
  rw [trimmed] at first
  simpa using first

theorem WellFormed.takeHead (wellFormed : WellFormed queue) {rest : List PendingRequest}
    (first : queue.remaining = request :: rest) (taken : request.occupied = true) :
    WellFormed (queue.takeHead request) ∧
      (queue.takeHead request).waiters + request.hasWaiter.toNat = queue.waiters := by
  have inside : queue.head < queue.items.length := by
    apply Nat.lt_of_not_le
    intro past
    rw [remaining, List.drop_eq_nil_of_le past] at first
    exact nomatch first
  have left : (queue.takeHead request).remaining = rest := by
    change (queue.items.set queue.head empty).drop (queue.head + 1) = rest
    have next := congrArg (List.drop 1) first
    rw [remaining, List.drop_drop] at next
    rw [List.drop_set_of_lt (Nat.lt_succ_self _)]
    exact next
  refine ⟨⟨?_, ?_, ?_⟩, ?_⟩
  · change queue.head + 1 ≤ (queue.items.set _ _).length
    rw [List.length_set]
    exact inside
  · rw [left]
    change queue.live - 1 = _
    rw [wellFormed.live, first, List.countP_cons_of_pos taken]
    omega
  · intro other member
    rw [left] at member
    apply wellFormed.tombstones other
    rw [first]
    exact List.mem_cons_of_mem _ member
  · unfold waiters
    rw [left, first, List.countP_cons]
    cases request.hasWaiter <;> rfl

theorem WellFormed.pop (wellFormed : WellFormed queue) (pending : queue.live ≠ 0) :
    ∃ request after, queue.pop = (some request, after) ∧
      request.hasWaiter = !request.discard ∧ WellFormed after ∧
      after.waiters + request.hasWaiter.toNat = queue.waiters := by
  have trimmed := wellFormed.trimHead
  cases first : queue.trimHead.remaining with
  | nil =>
    refine absurd ?_ pending
    have counted := countP_trimHead queue
    rw [first] at counted
    rw [wellFormed.live, ← counted]
    rfl
  | cons request rest =>
    have taken := occupied_of_trimHead first
    have ⟨takenWell, takenWaiters⟩ := trimmed.takeHead first taken
    have ⟨after, afterWaiters⟩ := takenWell.trimHead.compactIfNeeded
    refine ⟨request, _, ?_, ?_, after, ?_⟩
    · unfold RequestQueue.pop
      simp only [first]
    · have tombstone := trimmed.tombstones request (first ▸ List.mem_cons_self)
      unfold occupied at taken
      cases discarded : request.discard with
      | false => simpa [discarded] using taken
      | true => exact tombstone discarded
    · rw [afterWaiters, waiters_trimHead, takenWaiters, waiters_trimHead]

section ClearSlot

variable {queue : RequestQueue} {index waiter : Nat}

variable (wellFormed : WellFormed queue) (behind : queue.head ≤ index)
include behind

theorem remaining_set (request : PendingRequest) : (queue.items.set index request).drop queue.head =
      queue.remaining.set (index - queue.head) request := by
  rw [List.drop_set, if_neg (Nat.not_lt.mpr behind)]
  rfl

variable (inside : index < queue.items.length)
  (found : (queue.items.getD index empty).waiter = some waiter)
include inside found

private theorem countP_set_waiter (counts : PendingRequest → Bool)
    (counted : ∀ request : PendingRequest, request.hasWaiter = true → counts request = true)
    (request : PendingRequest) :
    ((queue.items.set index request).drop queue.head).countP counts + 1 =
      queue.remaining.countP counts + (counts request).toNat := by
  have position : index - queue.head < queue.remaining.length := by
    rw [remaining, List.length_drop]
    omega
  have slot : queue.remaining[index - queue.head]? = queue.items[index]? := by
    rw [remaining, List.getElem?_drop, Nat.add_sub_cancel' behind]
  have holds : counts queue.remaining[index - queue.head] = true := by
    apply counted
    rw [List.getD_eq_getElem?_getD, ← slot,
      List.getElem?_eq_getElem position, Option.getD_some] at found
    rw [hasWaiter, found]
    rfl
  have positive : 0 < queue.remaining.countP counts :=
    List.countP_pos_iff.mpr ⟨_, List.getElem_mem position, holds⟩
  rw [remaining_set behind, List.countP_set position, if_pos holds]
  cases counts request <;> simp <;> omega

include wellFormed

theorem WellFormed.overwrite {request : PendingRequest} (noWaiter : request.hasWaiter = false)
    {live : Int} (counted : live + 1 = queue.live + request.occupied.toNat) (removed : Int) :
    WellFormed { queue with items := queue.items.set index request, live, removed } ∧
      waiters { queue with items := queue.items.set index request, live, removed } + 1 =
        queue.waiters := by
  refine ⟨⟨?_, ?_, ?_⟩, ?_⟩
  · rw [List.length_set]
    exact wellFormed.head
  · have occupiedSet := countP_set_waiter behind inside found occupied
        (fun _ has => occupied_of_hasWaiter has) request
    have before := wellFormed.live
    change live = ((queue.items.set index request).drop queue.head).countP _
    omega
  · intro other member
    change other ∈ (queue.items.set index request).drop queue.head at member
    rw [remaining_set behind] at member
    rcases List.mem_or_eq_of_mem_set member with old | rfl
    · exact wellFormed.tombstones other old
    · exact fun _ => noWaiter
  · have waitersSet := countP_set_waiter behind inside found hasWaiter (fun _ has => has) request
    rw [noWaiter] at waitersSet
    exact waitersSet

theorem WellFormed.clearSlot (preserveResponseSlot : Bool) :
    WellFormed (queue.clearSlot index preserveResponseSlot) ∧
      (queue.clearSlot index preserveResponseSlot).waiters + 1 = queue.waiters := by
  cases preserveResponseSlot with
  | true => exact wellFormed.overwrite behind inside found rfl rfl _
  | false =>
    have noWaiter : empty.hasWaiter = false := rfl
    have counted : queue.live - 1 + 1 = queue.live + (empty.occupied.toNat : Int) :=
      (Int.sub_add_cancel _ _).trans (Int.add_zero _).symm
    have cleared := wellFormed.overwrite behind inside found noWaiter counted (queue.removed + 1)
    unfold RequestQueue.clearSlot
    rw [if_neg Bool.false_ne_true]
    dsimp only
    split
    · exact ⟨cleared.1.trimHead, (waiters_trimHead _).symm ▸ cleared.2⟩
    · exact cleared

end ClearSlot

theorem WellFormed.forget {queue : RequestQueue} (wellFormed : WellFormed queue) (waiter : Nat) :
    WellFormed (queue.forget waiter) :=
  ⟨wellFormed.head, wellFormed.live, wellFormed.tombstones⟩

theorem WellFormed.removeWaiter {queue : RequestQueue} (wellFormed : WellFormed queue)
    (waiter : Nat) (preserveResponseSlot : Bool) :
    WellFormed (queue.removeWaiter waiter preserveResponseSlot).2 ∧
      (queue.removeWaiter waiter preserveResponseSlot).2.waiters +
      (queue.removeWaiter waiter preserveResponseSlot).1.toNat = queue.waiters := by
  have forgotten := wellFormed.forget waiter
  unfold RequestQueue.removeWaiter
  split
  · exact ⟨forgotten, rfl⟩
  · split
    · exact ⟨forgotten, rfl⟩
    · rename_i index _ within
      have ⟨behind, inside⟩ := not_or.mp within
      split
      · exact ⟨forgotten, rfl⟩
      · rename_i found
        have ⟨cleared, clearedWaiters⟩ :=
          forgotten.clearSlot (Nat.not_lt.mp behind) (Nat.not_le.mp inside)
            (Decidable.not_not.mp found) preserveResponseSlot
        have ⟨after, afterWaiters⟩ := cleared.compactIfNeeded
        exact ⟨after, (congrArg (· + 1) afterWaiters).trans clearedWaiters⟩

end RequestQueue
end FitzGo.Connection
