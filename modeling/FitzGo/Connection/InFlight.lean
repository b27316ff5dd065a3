import FitzGo.Connection.RequestQueue
import FitzGo.Library.StepMachine
import FitzGo.Library.Table

/-!
# The count of requests in flight

An uncorrelated request is counted down when its waiter is removed, when its
response is dispatched, or by `Close`; a correlated one when its final frame is
dispatched. `Close` empties the correlated map without counting its entries
down, and the counter is off by exactly that number.
-/

namespace FitzGo.Connection.InFlight

open StepMachine

structure State where
  pending : AList fun _ : UInt16 => RequestQueue
  correlated : AList fun _ : UInt64 => PendingRequest
  requestsInFlight : Int
  closed : Bool
  -- `Close` has set the flag and has not taken the mutex yet
  closing : Bool
  -- dispatches that are past the mutex and have not counted down yet
  owed : Nat
  dropped : Nat

def initial : State where
  pending := ∅
  correlated := ∅
  requestsInFlight := 0
  closed := false
  closing := false
  owed := 0
  dropped := 0

inductive Event
  | registerRequestWaiter (msgType : UInt16) (waiter : Nat)
  | unregisterRequestWaiter (msgType : UInt16) (waiter : Nat)
  | abandonRequestWaiter (msgType : UInt16) (waiter : Nat)
  | registerCorrelatedRequest (id : UInt64) (waiter : Nat)
  | unregisterCorrelatedRequest (id : UInt64) (waiter : Nat)
  | dispatch (msgType : UInt16)
  | dispatchCorrelated (id : UInt64) (final : Bool)
  | countDown
  | setClosed
  | closeAll

/-- `Dispatch` hands these to a handler and never looks at a queue. -/
def isNotification (msgType : UInt16) : Bool :=
  msgType ∈ ([111, 209, 409, 504, 609, 705] : List UInt16)

namespace State

def liveWaiters (state : State) : Nat :=
  Table.total RequestQueue.waiters state.pending

def entries (state : State) : Nat :=
  state.correlated.entries.length

def queue (state : State) (msgType : UInt16) : RequestQueue :=
  (state.pending.lookup msgType).getD .new

def setQueue (state : State) (msgType : UInt16) (queue : RequestQueue) : State :=
  { state with pending := state.pending.insert msgType queue }

def count (state : State) (change : Int) : State :=
  { state with requestsInFlight := state.requestsInFlight + change }

def registerRequestWaiter (state : State) (msgType : UInt16) (waiter : Nat) : State :=
  if state.closed then state
  else (state.setQueue msgType ((state.queue msgType).push waiter)).count 1

def removeRequestWaiter (state : State) (msgType : UInt16) (waiter : Nat)
    (preserveResponseSlot : Bool) : State :=
  match state.pending.lookup msgType with
  | none => state
  | some queue =>
    let removed := queue.removeWaiter waiter preserveResponseSlot
    let left := state.setQueue msgType removed.2
    if removed.1 then left.count (-1) else left

def registerCorrelatedRequest (state : State) (id : UInt64) (waiter : Nat) : State :=
  if state.closed then state
  else
    match state.correlated.lookup id with
    | some _ => state
    | none =>
      { state.count 1 with
        correlated := state.correlated.insert id ⟨some waiter, false⟩ }

def unregisterCorrelatedRequest (state : State) (id : UInt64) (waiter : Nat) : State :=
  match state.correlated.lookup id with
  | none => state
  | some request =>
    if request.waiter = some waiter then
      { state with correlated := state.correlated.insert id .tombstone }
    else state

def dispatch (state : State) (msgType : UInt16) : State :=
  match state.pending.lookup msgType with
  | none => state
  | some queue =>
    if queue.live = 0 then state
    else
      let popped := queue.pop
      let left := state.setQueue msgType popped.2
      if (popped.1.getD .empty).discard then left
      else { left with owed := left.owed + 1 }

def dispatchCorrelated (state : State) (id : UInt64) (final : Bool) : State :=
  match state.correlated.lookup id with
  | none => state
  | some _ =>
    if final then
      { state with
        correlated := state.correlated.erase id
        owed := state.owed + 1 }
    else state

def closeAll (state : State) : State :=
  { state.count (-state.liveWaiters) with
    pending := ∅
    correlated := ∅
    closing := false
    dropped := state.dropped + state.entries }

end State

def Enabled (state : State) : Event → Prop
  | .registerRequestWaiter _ _ | .unregisterRequestWaiter _ _
  | .abandonRequestWaiter _ _ | .registerCorrelatedRequest _ _
  | .unregisterCorrelatedRequest _ _ | .dispatchCorrelated _ _ => True
  | .dispatch msgType => isNotification msgType = false
  | .countDown => 0 < state.owed
  | .setClosed => state.closed = false
  | .closeAll => state.closing = true

instance (state : State) (event : Event) : Decidable (Enabled state event) := by
  cases event <;> dsimp only [Enabled] <;> infer_instance

def next (state : State) : Event → State
  | .registerRequestWaiter msgType waiter => state.registerRequestWaiter msgType waiter
  | .unregisterRequestWaiter msgType waiter => state.removeRequestWaiter msgType waiter false
  | .abandonRequestWaiter msgType waiter => state.removeRequestWaiter msgType waiter true
  | .registerCorrelatedRequest id waiter => state.registerCorrelatedRequest id waiter
  | .unregisterCorrelatedRequest id waiter => state.unregisterCorrelatedRequest id waiter
  | .dispatch msgType => state.dispatch msgType
  | .dispatchCorrelated id final => state.dispatchCorrelated id final
  | .countDown => { state.count (-1) with owed := state.owed - 1 }
  | .setClosed => { state with closed := true, closing := true }
  | .closeAll => state.closeAll

def step : State → Event → Option State :=
  guarded Enabled next

/-! ## What is claimed of the counter -/

def State.Quiescent (state : State) : Prop :=
  state.owed = 0 ∧ state.closing = false

structure State.Exact (state : State) : Prop where
  counted : state.requestsInFlight = state.liveWaiters + state.entries
  closed : state.closed = true → state.requestsInFlight = 0

/-- `Close` takes the mutex only when no correlated request is registered. -/
def ClosesUncorrelated (state : State) : Event → Prop
  | .closeAll => state.entries = 0
  | _ => True

instance (state : State) (event : Event) : Decidable (ClosesUncorrelated state event) := by
  cases event <;> dsimp only [ClosesUncorrelated] <;> infer_instance

/-! ## The invariant -/

structure Inv (state : State) : Prop where
  queues : ∀ msgType queue, state.pending.lookup msgType = some queue → queue.WellFormed
  counted : state.requestsInFlight = state.liveWaiters + state.entries + state.owed + state.dropped
  closed : state.closed = true → state.closing = false → state.pending = ∅ ∧ state.correlated = ∅
  closing : state.closing = true → state.closed = true

theorem initial_inv : Inv initial where
  queues _ _ found := nomatch found
  counted := rfl
  closed hyp := nomatch hyp
  closing hyp := nomatch hyp

def State.Usable (state : State) : Prop :=
  state.closed = true → state.closing = true

section Maps

variable {state : State} {msgType : UInt16} {id : UInt64}

theorem State.usable_of_open (opened : ¬ state.closed = true) : state.Usable :=
  fun closed => absurd closed opened

theorem Inv.usable_of_queue (inv : Inv state) {queue : RequestQueue}
    (found : state.pending.lookup msgType = some queue) : state.Usable := by
  intro closed
  by_contra settled
  rw [(inv.closed closed (Bool.eq_false_iff.mpr settled)).1] at found
  exact nomatch found

variable {request : PendingRequest}

theorem Inv.usable_of_entry (inv : Inv state)
    (found : state.correlated.lookup id = some request) : state.Usable := by
  intro closed
  by_contra settled
  rw [(inv.closed closed (Bool.eq_false_iff.mpr settled)).2] at found
  exact nomatch found

theorem Inv.queue (inv : Inv state) (msgType : UInt16) : (state.queue msgType).WellFormed := by
  unfold State.queue
  cases found : state.pending.lookup msgType with
  | none => exact RequestQueue.new_wellFormed
  | some queue => exact inv.queues msgType queue found

private theorem total_setQueue (state : State) (msgType : UInt16) (left : RequestQueue) :
    Table.total RequestQueue.waiters (state.pending.insert msgType left) +
      (state.queue msgType).waiters = state.liveWaiters + left.waiters := by
  have inserted := Table.total_insert RequestQueue.waiters state.pending msgType left
  unfold State.queue
  cases found : state.pending.lookup msgType with
  | none =>
    rw [Table.weightAt_of_absent _ found] at inserted
    exact inserted
  | some queue =>
    rw [Table.weightAt_of_lookup _ found] at inserted
    exact inserted

variable {requestsInFlight : Int}

/-- A queue may be replaced by another one if the counter and the count-downs
that are owed account for the waiters that have come or gone. -/
theorem Inv.replaceQueue (inv : Inv state) (usable : state.Usable)
    {left : RequestQueue} (wellFormed : left.WellFormed) {owed : Nat}
    (balance : requestsInFlight + (state.queue msgType).waiters + state.owed =
        state.requestsInFlight + left.waiters + owed) :
    Inv { state with
        pending := state.pending.insert msgType left
        requestsInFlight
        owed } where
  queues other queue found := by
    by_cases same : other = msgType
    · subst same
      rw [AList.lookup_insert] at found
      cases found
      exact wellFormed
    · rw [AList.lookup_insert_ne same] at found
      exact inv.queues other queue found
  counted := by
    have counted := inv.counted
    have total := total_setQueue state msgType left
    change requestsInFlight = Table.total RequestQueue.waiters (state.pending.insert msgType left) +
          state.entries + owed + state.dropped
    omega
  closed closed settled := absurd (usable closed) (Bool.eq_false_iff.mp settled)
  closing := inv.closing

theorem Inv.replaceCorrelated (inv : Inv state) (usable : state.Usable)
    {correlated : AList fun _ : UInt64 => PendingRequest} {owed : Nat}
    (balance : requestsInFlight + state.entries + state.owed =
        state.requestsInFlight + correlated.entries.length + owed) :
    Inv { state with correlated, requestsInFlight, owed } :=
  { inv with
    counted := by
      have counted := inv.counted
      change requestsInFlight = state.liveWaiters + correlated.entries.length + owed + state.dropped
      omega
    closed closed settled := absurd (usable closed) (Bool.eq_false_iff.mp settled) }

theorem length_insert (state : State) (id : UInt64) (request : PendingRequest) :
    (state.correlated.insert id request).entries.length +
        Table.weightAt (fun _ => 1) state.correlated id =
      state.entries + 1 := by
  rw [← Table.total_one, Table.total_insert, Table.total_one]
  rfl

private theorem length_erase
    (found : state.correlated.lookup id = some request) :
    (state.correlated.erase id).entries.length + 1 = state.entries := by
  have erased := Table.total_erase (fun _ => 1) state.correlated id
  rw [Table.weightAt_of_lookup _ found, Table.total_one, Table.total_one] at erased
  exact erased

end Maps

/-! ## One lemma for every event -/

section Events

variable {state : State}

section

variable (inv : Inv state)
include inv

theorem Inv.registerRequestWaiter (msgType : UInt16) (waiter : Nat) :
    Inv (state.registerRequestWaiter msgType waiter) := by
  unfold State.registerRequestWaiter
  split
  · exact inv
  · rename_i opened
    have ⟨wellFormed, pushed⟩ := (inv.queue msgType).push waiter
    refine inv.replaceQueue (State.usable_of_open opened) wellFormed ?_
    rw [pushed]
    dsimp only [State.setQueue]
    omega

theorem Inv.removeRequestWaiter (msgType : UInt16) (waiter : Nat)
    (preserveResponseSlot : Bool) :
    Inv (state.removeRequestWaiter msgType waiter preserveResponseSlot) := by
  have ⟨wellFormed, removed⟩ := (inv.queue msgType).removeWaiter waiter preserveResponseSlot
  unfold State.removeRequestWaiter
  cases found : state.pending.lookup msgType with
  | none => exact inv
  | some queue =>
    have usable := inv.usable_of_queue found
    have same : state.queue msgType = queue := by
      rw [State.queue, found]
      rfl
    rw [same] at wellFormed removed
    dsimp only
    split
    · rename_i taken
      rw [taken, Bool.toNat_true] at removed
      refine inv.replaceQueue usable wellFormed ?_
      rw [same, ← removed]
      dsimp only [State.setQueue]
      omega
    · rename_i kept
      rw [Bool.eq_false_iff.mpr kept] at removed
      refine inv.replaceQueue usable wellFormed ?_
      rw [same, ← removed]
      rfl

theorem Inv.registerCorrelatedRequest (id : UInt64) (waiter : Nat) :
    Inv (state.registerCorrelatedRequest id waiter) := by
  unfold State.registerCorrelatedRequest
  split
  · exact inv
  · rename_i opened
    have inserted := length_insert state id ⟨some waiter, false⟩
    cases absent : state.correlated.lookup id with
    | some request => exact inv
    | none =>
      rw [Table.weightAt_of_absent _ absent] at inserted
      refine inv.replaceCorrelated (State.usable_of_open opened) ?_
      dsimp only [State.count]
      omega

theorem Inv.unregisterCorrelatedRequest (id : UInt64) (waiter : Nat) :
    Inv (state.unregisterCorrelatedRequest id waiter) := by
  unfold State.unregisterCorrelatedRequest
  cases found : state.correlated.lookup id with
  | none => exact inv
  | some request =>
    have inserted := length_insert state id .tombstone
    rw [Table.weightAt_of_lookup _ found] at inserted
    dsimp only
    split
    · exact inv.replaceCorrelated (inv.usable_of_entry found) (by omega)
    · exact inv

theorem Inv.dispatch (msgType : UInt16) : Inv (state.dispatch msgType) := by
  unfold State.dispatch
  cases found : state.pending.lookup msgType with
  | none => exact inv
  | some queue =>
    have usable := inv.usable_of_queue found
    have same : state.queue msgType = queue := by
      rw [State.queue, found]
      rfl
    dsimp only
    split
    · exact inv
    · rename_i pending
      obtain ⟨request, left, popped, kind, wellFormed, waiters⟩ :=
        (inv.queues msgType queue found).pop pending
      rw [popped]
      rw [kind] at waiters
      cases discarded : request.discard with
      | true =>
        rw [discarded] at waiters
        simp only [Option.getD_some, discarded]
        refine inv.replaceQueue usable wellFormed ?_
        rw [same, ← waiters]
        rfl
      | false =>
        rw [discarded, Bool.not_false, Bool.toNat_true] at waiters
        simp only [Option.getD_some, discarded]
        refine inv.replaceQueue usable wellFormed ?_
        rw [same, ← waiters]
        dsimp only [State.setQueue]
        omega

theorem Inv.dispatchCorrelated (id : UInt64) (final : Bool) :
    Inv (state.dispatchCorrelated id final) := by
  unfold State.dispatchCorrelated
  cases found : state.correlated.lookup id with
  | none => exact inv
  | some request =>
    have erased := length_erase found
    cases final with
    | false => exact inv
    | true => exact inv.replaceCorrelated (inv.usable_of_entry found) (by omega)

theorem Inv.countDown (owed : 0 < state.owed) :
    Inv { state.count (-1) with owed := state.owed - 1 } :=
  { inv with
    counted := by
      have counted := inv.counted
      change state.requestsInFlight + -1 =
          state.liveWaiters + state.entries + (state.owed - 1 : Nat) + state.dropped
      omega }

theorem Inv.closeAll : Inv state.closeAll where
  queues _ _ found := nomatch found
  counted := by
    have counted := inv.counted
    change state.requestsInFlight + -(state.liveWaiters : Int) =
        (0 : Nat) + (0 : Nat) + state.owed + (state.dropped + state.entries : Nat)
    omega
  closed _ _ := ⟨rfl, rfl⟩
  closing hyp := nomatch hyp

end

end Events

theorem step_inv {state after : State} {event : Event}
    (inv : Inv state) (stepped : step state event = some after) : Inv after := by
  obtain ⟨enabled, rfl⟩ := guarded_eq_some_iff.mp stepped
  cases event with
  | registerRequestWaiter msgType waiter => exact inv.registerRequestWaiter msgType waiter
  | unregisterRequestWaiter msgType waiter => exact inv.removeRequestWaiter msgType waiter false
  | abandonRequestWaiter msgType waiter => exact inv.removeRequestWaiter msgType waiter true
  | registerCorrelatedRequest id waiter => exact inv.registerCorrelatedRequest id waiter
  | unregisterCorrelatedRequest id waiter => exact inv.unregisterCorrelatedRequest id waiter
  | dispatch msgType => exact inv.dispatch msgType
  | dispatchCorrelated id final => exact inv.dispatchCorrelated id final
  | countDown => exact inv.countDown enabled
  | setClosed => exact ⟨inv.queues, inv.counted, fun _ settled => (nomatch settled), fun _ => rfl⟩
  | closeAll => exact inv.closeAll

/-! ## The history of dropped entries -/

theorem dropped_next (state : State) (event : Event) : (next state event).dropped = state.dropped +
        match event with
        | .closeAll => state.entries
        | _ => 0 := by
  cases event with
  | registerRequestWaiter msgType waiter =>
    dsimp only [next, State.registerRequestWaiter]
    split <;> rfl
  | unregisterRequestWaiter | abandonRequestWaiter | registerCorrelatedRequest
  | unregisterCorrelatedRequest | dispatchCorrelated =>
    dsimp only [next, State.removeRequestWaiter, State.registerCorrelatedRequest,
      State.unregisterCorrelatedRequest, State.dispatchCorrelated]
    split
    · rfl
    · split <;> rfl
  | dispatch msgType =>
    dsimp only [next, State.dispatch]
    split
    · rfl
    · split
      · rfl
      · split <;> rfl
  | countDown | setClosed | closeAll => rfl

private theorem closesUncorrelated_iff (state : State) (event : Event) :
    ClosesUncorrelated state event ↔ (next state event).dropped = state.dropped := by
  rw [dropped_next]
  cases event with
  | closeAll => exact Nat.add_eq_left.symm
  | registerRequestWaiter | unregisterRequestWaiter | abandonRequestWaiter
  | registerCorrelatedRequest | unregisterCorrelatedRequest | dispatch
  | dispatchCorrelated | countDown | setClosed => exact iff_of_true trivial rfl

private theorem along_iff_dropped : ∀ {events : List Event} {state final : State},
      run step state events = some final →
        (Along step ClosesUncorrelated state events ↔ final.dropped = state.dropped) ∧
        state.dropped ≤ final.dropped
  | [], state, final, ran => by
      cases ran
      exact ⟨iff_of_true trivial rfl, Nat.le_refl _⟩
  | event :: rest, state, final, ran => by
      obtain ⟨after, stepped, continued⟩ := run_cons_eq_some ran
      obtain ⟨iffRest, restGrows⟩ := along_iff_dropped continued
      have ⟨_, eq⟩ := guarded_eq_some_iff.mp stepped
      have iffStep := closesUncorrelated_iff state event
      have stepGrows : state.dropped ≤ after.dropped := by
        rw [← eq, dropped_next]
        exact Nat.le_add_right _ _
      rw [eq] at iffStep
      refine ⟨?_, Nat.le_trans stepGrows restGrows⟩
      unfold Along
      rw [stepped, iffStep]
      dsimp only
      rw [iffRest]
      omega

/-! ## The counter -/

/-- In every run the counter is exact whenever no operation is in progress, up
to the entries that `Close` has dropped. -/
private theorem exact_iff_dropped {state : State} (inv : Inv state) (quiescent : state.Quiescent) :
    state.Exact ↔ state.dropped = 0 := by
  obtain ⟨noneOwed, settled⟩ := quiescent
  have counted := inv.counted
  constructor
  · intro exact
    have claimed := exact.counted
    omega
  · intro noneDropped
    have claimed : state.requestsInFlight = state.liveWaiters + state.entries := by
      omega
    refine ⟨claimed, fun closed => ?_⟩
    obtain ⟨pending, correlated⟩ := inv.closed closed settled
    rw [claimed, State.liveWaiters, State.entries, pending, correlated]
    rfl

theorem inFlight_exact_iff {events : List Event} {final : State}
    (ran : run step initial events = some final) (quiescent : final.Quiescent) :
    final.Exact ↔ Along step ClosesUncorrelated initial events := by
  have inv : Inv final := invariant_of_run Inv step_inv initial_inv ran
  rw [exact_iff_dropped inv quiescent, (along_iff_dropped ran).1]
  rfl

def orderlyRun : List Event :=
  [.registerRequestWaiter 101 1, .registerRequestWaiter 101 2,
    .registerCorrelatedRequest 1 3, .abandonRequestWaiter 101 1,
    .dispatch 101, .dispatchCorrelated 1 true, .countDown, .setClosed,
    .closeAll]

theorem orderlyRun_is_exact : ∃ final, run step initial orderlyRun = some final ∧
        final.Quiescent ∧ final.Exact := by
  obtain ⟨final, ran, quiescent⟩ : ∃ final, run step initial orderlyRun = some final ∧
      final.owed = 0 ∧ final.closing = false := by
    decide +kernel
  exact ⟨final, ran, quiescent, (inFlight_exact_iff ran quiescent).mpr (by decide +kernel)⟩

/-- A correlated request that is registered when the multiplexer is closed is
counted forever. -/
theorem closed_multiplexer_counts_dropped_request : ∃ final, run step initial
          [.registerCorrelatedRequest 1 1, .setClosed, .closeAll] =
        some final ∧
        final.Quiescent ∧ final.closed = true ∧
        final.requestsInFlight = 1 ∧
        final.liveWaiters = 0 ∧ final.entries = 0 ∧ ¬ final.Exact := by
  obtain ⟨final, ran, quiescent, closed, inFlight, waiters, entries⟩ : ∃ final, run step initial
          [.registerCorrelatedRequest 1 1, .setClosed, .closeAll] = some final ∧
        (final.owed = 0 ∧ final.closing = false) ∧ final.closed = true ∧
        final.requestsInFlight = 1 ∧ final.liveWaiters = 0 ∧ final.entries = 0 := by
    decide +kernel
  refine ⟨final, ran, quiescent, closed, inFlight, waiters, entries, ?_⟩
  intro exact
  have zero := exact.closed closed
  omega

end FitzGo.Connection.InFlight
