import Mathlib.Data.List.AList
import Mathlib.Data.List.Sort
import FitzGo.Library.Slices

/-!
# The registry with its pointers

`Restore` goes on with the pointers, slices and maps it has collected after it
has released the lock, so here the registry is a record with the memory it
points to. Each function is cut where it releases the lock.
-/

namespace FitzGo.Subscriptions.Heap

open Slices

/-- The address of an entry. The pattern of an entry is set when the entry is
made and never assigned again, so it is kept with the address. -/
structure Pointer (Pattern : Type) where
  pattern : Pattern
  number : Nat
  deriving DecidableEq, Inhabited

structure Registration (H Pattern : Type) where
  pattern : Pattern
  handlerID : UInt64
  handler : H
  completion : Nat

structure Entry (H Pattern : Type) where
  subID : UInt64
  handlers : AList fun _ : UInt64 => Registration H Pattern

structure RestoreEntry (Pattern : Type) where
  pattern : Pattern
  subID : UInt64
  deriving DecidableEq, Inhabited

structure Registry (H Pattern : Type) where
  byPattern : AList fun _ : Pattern => Pointer Pattern
  bySubID : Nat
  pending : List Pattern
  restoring : Bool
  nextHandlerID : UInt64
  restoreEntriesScratch : Slice
  restoreRollbackScratch : Slice
  restoreSubIDsScratch : Slice
  restoreBySubIDScratch : Nat
  -- the memory the fields above point to
  entries : Pointer Pattern → Entry H Pattern
  allocated : Nat
  tables : Nat → UInt64 → Option (Pointer Pattern)
  entryArrays : Arena (Pointer Pattern)
  rollbackArrays : Arena (RestoreEntry Pattern)
  subIDArrays : Arena UInt64
  completions : Nat
  completed : List Nat

inductive SubscribeError (E Pattern : Type) where
  | wire (error : E)
  | duplicate (subID : UInt64) (pattern : Pattern)

namespace Registry

variable {H Pattern E : Type}

def new : Registry H Pattern where
  byPattern := ∅
  bySubID := 0
  pending := []
  restoring := false
  nextHandlerID := 0
  restoreEntriesScratch := Slice.nil
  restoreRollbackScratch := Slice.nil
  restoreSubIDsScratch := Slice.nil
  restoreBySubIDScratch := 1
  entries _ := ⟨0, ∅⟩
  allocated := 0
  tables _ _ := none
  entryArrays := Arena.empty
  rollbackArrays := Arena.empty
  subIDArrays := Arena.empty
  completions := 0
  completed := []

def live (registry : Registry H Pattern) : UInt64 → Option (Pointer Pattern) :=
  registry.tables registry.bySubID

def setEntry (registry : Registry H Pattern) (pointer : Pointer Pattern)
    (entry : Entry H Pattern) [DecidableEq Pattern] : Registry H Pattern :=
  { registry with entries := Function.update registry.entries pointer entry }

def setTable (registry : Registry H Pattern) (table : Nat)
    (content : UInt64 → Option (Pointer Pattern)) : Registry H Pattern :=
  { registry with tables := Function.update registry.tables table content }

def handlerID (registry : Registry H Pattern) : UInt64 :=
  registry.nextHandlerID + 1

/-- A registration with the next handler id and a new `Completion`. -/
def registration (registry : Registry H Pattern) (pattern : Pattern) (handler : H) :
    Registration H Pattern :=
  ⟨pattern, registry.handlerID, handler, registry.completions⟩

def counted (registry : Registry H Pattern) : Registry H Pattern :=
  { registry with
    nextHandlerID := registry.handlerID
    completions := registry.completions + 1 }

/-! ## Subscribe, Unsubscribe and Clear -/

section Operations

variable [DecidableEq Pattern]

def addHandler (registry : Registry H Pattern) (existing : Pointer Pattern)
    (pattern : Pattern) (handler : H) : Registry H Pattern :=
  registry.counted.setEntry existing { registry.entries existing with
      handlers := (registry.entries existing).handlers.insert
        registry.handlerID (registry.registration pattern handler) }

/-- What the first critical section of `Subscribe` decides: it is done, the
pattern is already being subscribed, or the wire is called. -/
inductive Attempt where
  | returned (subID handlerID : UInt64)
  | retry
  | call

def attemptSubscribe (registry : Registry H Pattern) (pattern : Pattern) (handler : H) :
    Registry H Pattern × Attempt :=
  match registry.byPattern.lookup pattern with
  | some existing =>
    (registry.addHandler existing pattern handler,
      .returned (registry.entries existing).subID registry.handlerID)
  | none =>
    if pattern ∈ registry.pending then (registry, .retry)
    else ({ registry with pending := pattern :: registry.pending }, .call)

def register (registry : Registry H Pattern) (pattern : Pattern) (subID : UInt64)
    (handler : H) : Registry H Pattern :=
  let registered : Pointer Pattern := ⟨pattern, registry.allocated⟩
  { registry.counted.setEntry registered
      ⟨subID, AList.insert registry.handlerID (registry.registration pattern handler) ∅⟩ with
    allocated := registry.allocated + 1
    byPattern := registry.byPattern.insert pattern registered
    tables := Function.update registry.tables registry.bySubID
      (Function.update registry.live subID (some registered)) }

def dropPending (registry : Registry H Pattern) (pattern : Pattern) : Registry H Pattern :=
  { registry with pending := registry.pending.filter (· ≠ pattern) }

/-- The second critical section of `Subscribe`, after the wire call. -/
def publish (registry : Registry H Pattern) (pattern : Pattern) (handler : H) : Except E UInt64 →
      Registry H Pattern × Except (SubscribeError E Pattern) (UInt64 × UInt64)
  | .error error => (registry.dropPending pattern, .error (.wire error))
  | .ok subID =>
    if (registry.live subID).isSome then
      (registry.dropPending pattern, .error (.duplicate subID pattern))
    else
      ((registry.dropPending pattern).register pattern subID handler,
        .ok (subID, registry.handlerID))

/-- The last handler of an entry has gone: the entry leaves both maps. -/
def remove (registry : Registry H Pattern) (pattern : Pattern) (subID : UInt64) :
    Registry H Pattern :=
  { registry with
    byPattern := registry.byPattern.erase pattern
    tables := Function.update registry.tables registry.bySubID
      (Function.update registry.live subID none) }

def dropHandler (registry : Registry H Pattern) (registered : Pointer Pattern)
    (handlerID : UInt64) (completion : Nat) : Registry H Pattern :=
  { registry.setEntry registered
      { registry.entries registered with
        handlers := (registry.entries registered).handlers.erase handlerID } with
    completed := completion :: registry.completed }

def unsubscribe (registry : Registry H Pattern) (pattern : Pattern)
    (handlerID : UInt64) : Registry H Pattern × Bool :=
  match registry.byPattern.lookup pattern with
  | none => (registry, false)
  | some registered =>
    match (registry.entries registered).handlers.lookup handlerID with
    | none => (registry, false)
    | some handler =>
      let dropped := registry.dropHandler registered handlerID handler.completion
      if (dropped.entries registered).handlers.keys ≠ [] then (dropped, false)
      else (dropped.remove pattern (dropped.entries registered).subID, true)

def find (registry : Registry H Pattern) (pattern : Pattern)
    (handlerID : UInt64) : Option (Registration H Pattern) :=
  match registry.byPattern.lookup pattern with
  | none => none
  | some registered => (registry.entries registered).handlers.lookup handlerID

def completion (registry : Registry H Pattern) (pattern : Pattern)
    (handlerID : UInt64) : Option Nat :=
  (registry.find pattern handlerID).map Registration.completion

def handlerIDs (registry : Registry H Pattern) (pattern : Pattern) : List UInt64 :=
  match registry.byPattern.lookup pattern with
  | none => []
  | some registered => (registry.entries registered).handlers.keys

end Operations

/-- The method `Registrations`, in some order. -/
def registrations (registry : Registry H Pattern) (subID : UInt64) :
    List (Registration H Pattern) :=
  match registry.live subID with
  | none => []
  | some registered => (registry.entries registered).handlers.entries.map fun binding => binding.2

/-- `Clear` completes every handler and empties both maps in place. -/
def clear (registry : Registry H Pattern) : Registry H Pattern × Nat :=
  ({ registry.setTable registry.bySubID (fun _ => none) with
      byPattern := ∅
      completed := (registry.byPattern.entries.flatMap fun binding =>
          (registry.entries binding.2).handlers.entries.map
            fun handler => handler.2.completion) ++ registry.completed },
    registry.byPattern.entries.length)

def pointers (registry : Registry H Pattern) : List (Pointer Pattern) :=
  registry.byPattern.entries.map fun binding => binding.2

end Registry

/-! ## Restore -/

/-- The local variables of `Restore` once it has released the lock. -/
structure RestoreFrame where
  entries : Slice
  restoredEntries : Slice
  restoredSubIDs : Slice
  restoredBySubID : Nat
  idx : Nat
  deriving DecidableEq

inductive RestoreError (E Pattern : Type) where
  | wire (error : E)
  | duplicate (subID : UInt64) (pattern : Pattern)

/-- After one wire call `Restore` goes on with the next entry, or rolls back
the entries of a slice. -/
inductive Reply (E Pattern : Type) where
  | next (frame : RestoreFrame)
  | rollback (cause : RestoreError E Pattern) (restored : Slice)

namespace Registry

variable {H Pattern E : Type}

/-- `restoreSubIDsScratch` with at least `size` elements. -/
def subIDScratch (registry : Registry H Pattern) (size : Nat) : Arena UInt64 × Slice :=
  if registry.subIDArrays.cap registry.restoreSubIDsScratch < size then
    registry.subIDArrays.make size size
  else (registry.subIDArrays, registry.restoreSubIDsScratch)

def registered (registry : Registry H Pattern) (frame : RestoreFrame) : Option (Pointer Pattern) :=
  (registry.entryArrays.contents frame.entries)[frame.idx]?

def finishRestore (registry : Registry H Pattern) : Registry H Pattern :=
  { registry with restoring := false }

/-- `rollbackRestore`, which takes the entries back in reverse order: the calls
it makes and their errors. -/
def rollbackRestore (entries : List (RestoreEntry Pattern))
    (wireUnsubscribe : Option (Pattern → UInt64 → Option E)) :
    List (RestoreEntry Pattern) × List E :=
  match wireUnsubscribe with
  | none => ([], [])
  | some wire =>
    (entries.reverse, entries.reverse.filterMap fun entry => wire entry.pattern entry.subID)

variable [LinearOrder Pattern]

/-- The comparison of `slices.SortFunc`. -/
def sortByPattern (pointers : List (Pointer Pattern)) : List (Pointer Pattern) :=
  pointers.insertionSort fun left right => left.pattern ≤ right.pattern

section Resubscribing

variable [Inhabited Pattern]

/-- The entries in the order `order` in which the range meets them, and then
sorted. -/
def collectEntries (registry : Registry H Pattern) (order : List (Pointer Pattern)) :
    Arena (Pointer Pattern) × Slice :=
  let room :=
    registry.entryArrays.reuse registry.restoreEntriesScratch registry.byPattern.entries.length
  let filled := room.1.appendAll room.2 order
  (filled.1.replace filled.2 (sortByPattern (filled.1.contents filled.2)), filled.2)

/-- `Restore` up to the point where it releases the lock, when there are
entries. -/
def beginRestore (registry : Registry H Pattern) (order : List (Pointer Pattern)) :
    Registry H Pattern × RestoreFrame :=
  let collected := registry.collectEntries order
  let rollback := registry.rollbackArrays.reuse registry.restoreRollbackScratch collected.2.len
  let subIDs := registry.subIDScratch collected.2.len
  ({ registry.setTable registry.restoreBySubIDScratch (fun _ => none) with
      restoring := true
      entryArrays := collected.1
      rollbackArrays := rollback.1
      subIDArrays := subIDs.1
      restoreSubIDsScratch := subIDs.2 },
    { entries := collected.2
      restoredEntries := rollback.2
      restoredSubIDs := subIDs.2.reslice collected.2.len
      restoredBySubID := registry.restoreBySubIDScratch
      idx := 0 })

/-- The end of one round of the loop: the id is kept in the rollback slice, in
the slice of the ids and in the scratch map. -/
def record (registry : Registry H Pattern) (frame : RestoreFrame) (registered : Pointer Pattern)
    (subID : UInt64) : Registry H Pattern × RestoreFrame :=
  let appended := registry.rollbackArrays.append frame.restoredEntries ⟨registered.pattern, subID⟩
  ({ registry.setTable frame.restoredBySubID
        (Function.update (registry.tables frame.restoredBySubID) subID (some registered)) with
      rollbackArrays := appended.1
      subIDArrays := registry.subIDArrays.set frame.restoredSubIDs frame.idx subID },
    { frame with
      restoredEntries := appended.2
      idx := frame.idx + 1 })

/-- What `Restore` does with the result of a wire call. -/
def answer (registry : Registry H Pattern) (frame : RestoreFrame) (registered : Pointer Pattern) :
    Except E UInt64 → Registry H Pattern × Reply E Pattern
  | .error error => (registry, .rollback (.wire error) frame.restoredEntries)
  | .ok subID =>
    if (registry.tables frame.restoredBySubID subID).isSome then
      let appended :=
        registry.rollbackArrays.append frame.restoredEntries ⟨registered.pattern, subID⟩
      ({ registry with rollbackArrays := appended.1 },
        .rollback (.duplicate subID registered.pattern) appended.2)
    else
      let recorded := registry.record frame registered subID
      (recorded.1, .next recorded.2)

end Resubscribing

def assign (registry : Registry H Pattern) : List (Pointer Pattern × UInt64) → Registry H Pattern
  | [] => registry
  | (registered, subID) :: rest =>
    (registry.setEntry registered { registry.entries registered with subID }).assign rest

def commit (registry : Registry H Pattern) (frame : RestoreFrame) : Registry H Pattern :=
  { registry.assign
      ((registry.entryArrays.contents frame.entries).zip
        (registry.subIDArrays.contents frame.restoredSubIDs)) with
    bySubID := frame.restoredBySubID
    restoreEntriesScratch := frame.entries.reslice 0
    restoreRollbackScratch := frame.restoredEntries.reslice 0
    restoreSubIDsScratch := frame.restoredSubIDs.reslice 0
    restoreBySubIDScratch := registry.bySubID }

end Registry
end FitzGo.Subscriptions.Heap
