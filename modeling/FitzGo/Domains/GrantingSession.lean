import FitzGo.Domains.Handles

/-!
# Handles are bound to the session that granted them

No client's connection is replaced while one of its granting calls relies on it,
a deferred ACQUIRE frame comes from the current connection, and the durability
of a `Commit` exists.
-/

namespace FitzGo.Domains.Handles

open StepMachine

/-! ## The condition -/

def Place.usesField : Place → Bool
  | .registered | .sent _ | .queued | .granted _ _ => true
  | .idle | .started | .gated | .holding _ | .returned => false

def Call.Engages (call : Call) (granter : Granter) : Prop :=
  call.granter = granter ∧ granter ≠ .kv ∧ call.place.usesField = true

instance (call : Call) (granter : Granter) : Decidable (call.Engages granter) :=
  inferInstanceAs (Decidable (_ ∧ _ ∧ _))

def Operation.Admissible : Operation → Prop
  | .transaction (.commit durability) => durability ≤ durabilitySync
  | _ => True

instance (operation : Operation) : Decidable operation.Admissible := by
  unfold Operation.Admissible
  split <;> infer_instance

def KeepsSession (state : State) : Event → Prop
  | .replaceConnection granter _ => ∀ call ∈ state.begun, ¬ (state.calls call).Engages granter
  | .deferredAcquire conn _ => state.fields .lease = conn
  | .operate _ _ operation => operation.Admissible
  | _ => True

instance (state : State) (event : Event) : Decidable (KeepsSession state event) := by
  rcases event with ⟨⟩ <;> dsimp only [KeepsSession] <;> infer_instance

/-! ## What is claimed of handles and of their operations -/

structure Bound (state : State) : Prop where
  stored : ∀ handle ∈ state.handles, handle.conn = handle.grantedOn
  sent : ∀ report ∈ state.reports, ∀ conn, report.sentOn = some conn → conn = report.grantedOn
  stale : ∀ report ∈ state.reports, report.closedBefore = true →
    report.outcome.isStaleHandle = true ∧ report.sentOn = none

/-! ## Operations on a closed connection -/

section Operations

variable {conn : Conn}

variable (hasClosed : conn.hasClosed = true)
include hasClosed

theorem ItemOperation.attempt_isStaleHandle (item : ItemState) (operation : ItemOperation) :
    (operation.attempt conn item).1.isStaleHandle = true := by
  obtain ⟨cause, refused⟩ := Conn.checkLiveHandle_of_hasClosed hasClosed
  cases operation <;> simp only [ItemOperation.attempt, refused] <;> rfl

theorem LeaseOperation.attempt_isStaleHandle (lease : LeaseState) (operation : LeaseOperation) :
    (operation.attempt conn lease).1.isStaleHandle = true := by
  obtain ⟨cause, refused⟩ := Conn.checkLiveHandle_of_hasClosed hasClosed
  cases operation <;> simp only [LeaseOperation.attempt, refused] <;> split <;> rfl

theorem SessionOperation.attempt_isStaleHandle (operation : SessionOperation) :
    (operation.attempt conn).isStaleHandle = true := by
  obtain ⟨cause, refused⟩ := Conn.checkLiveHandle_of_hasClosed hasClosed
  simp only [SessionOperation.attempt, refused]
  rfl

theorem TransactionOperation.attempt_isStaleHandle (transaction : TransactionState)
    (operation : TransactionOperation) (admissible : (Operation.transaction operation).Admissible) :
    (operation.attempt conn transaction).1.isStaleHandle = true := by
  obtain ⟨cause, refused⟩ := Conn.checkLiveHandle_of_hasClosed hasClosed
  have stateRefused : transaction.checkState conn = .error (.staleHandle cause) := by
    simp only [TransactionState.checkState, refused]
  cases operation with
  | commit durability =>
    have within : ¬ durability > durabilitySync := Nat.not_lt.mpr admissible
    simp only [TransactionOperation.attempt, if_neg within, stateRefused]
    rfl
  | rollback =>
    simp only [TransactionOperation.attempt, refused]
    rfl
  | _ =>
    simp only [TransactionOperation.attempt, TransactionState.request,
      TransactionState.writableRequest, stateRefused]
    rfl

theorem Body.attempt_isStaleHandle
    {body : Body} {operation : Operation} (admits : body.admits operation = true)
    (admissible : operation.Admissible) : (body.attempt conn operation).1.isStaleHandle = true := by
  cases body <;> cases operation <;> try contradiction
  case item.item item operation => exact operation.attempt_isStaleHandle hasClosed item
  case lease.lease lease operation => exact operation.attempt_isStaleHandle hasClosed lease
  case session.session operation => exact operation.attempt_isStaleHandle hasClosed
  case transaction.transaction transaction operation =>
    exact operation.attempt_isStaleHandle hasClosed transaction admissible

end Operations

/-! ## The invariant -/

def FromCurrent (fields : Granter → Nat) (deferred : Option (Nat × Bool)) : Prop :=
  ∀ conn grants, deferred = some (conn, grants) → fields .lease = conn

def CallFits (fields : Granter → Nat) (deferred : Option (Nat × Bool)) (call : Call) : Prop :=
  match call.place with
  | .idle | .started => deferred = none
  | .gated => call.granter = .lease ∧ deferred = none
  | .holding _ => call.granter = .kv ∧ deferred = none
  | .registered | .queued => call.granter = .lease ∧ FromCurrent fields deferred
  | .sent conn | .granted conn _ =>
    (call.granter = .kv ∨ fields call.granter = conn) ∧
      (call.granter = .lease → FromCurrent fields deferred)
  | .returned => True

structure Inv (state : State) : Prop extends Bound state where
  calls : ∀ call, CallFits state.fields (state.deferred call) (state.calls call)
  fresh : ∀ call, call ∉ state.begun → (state.calls call).place = .idle
  waiting : ∀ waiter ∈ state.acquireWaiters, (state.calls waiter.call).Engages .lease

theorem initial_inv : Inv initial where
  stored _ member := nomatch member
  sent _ member := nomatch member
  stale _ member := nomatch member
  calls _ := rfl
  fresh _ _ := rfl
  waiting _ member := nomatch member

section Steps

variable {state : State}

theorem fromCurrent_none (fields : Granter → Nat) : FromCurrent fields none :=
  fun _ _ impossible => nomatch impossible

variable {call : Nat}

theorem Inv.setPlace (inv : Inv state) {place : Place} (moving : (state.calls call).place ≠ .idle)
    (fits : CallFits state.fields (state.deferred call) { state.calls call with place })
    (waits : ∀ waiter ∈ state.acquireWaiters, waiter.call = call → place.usesField = true) :
    Inv (state.setPlace call place) where
  toBound := ⟨inv.stored, inv.sent, inv.stale⟩
  calls other := by
    by_cases same : other = call
    · subst same
      simpa only [State.setPlace, Function.update_self] using fits
    · simpa only [State.setPlace, Function.update_of_ne same] using inv.calls other
  fresh other notBegun := by
    by_cases same : other = call
    · subst same
      exact absurd (inv.fresh other notBegun) moving
    · simpa only [State.setPlace, Function.update_of_ne same] using inv.fresh other notBegun
  waiting waiter member := by
    by_cases same : waiter.call = call
    · obtain ⟨lease, notKv, _⟩ := inv.waiting waiter member
      rw [same] at lease
      simpa only [State.setPlace, same, Function.update_self]
        using ⟨lease, notKv, waits waiter member same⟩
    · simpa only [State.setPlace, Function.update_of_ne same] using inv.waiting waiter member

theorem Inv.finish (inv : Inv state)
    (moving : (state.calls call).place ≠ .idle) : Inv (state.finish call) := by
  let emptied : State := { state with
      acquireGate :=
        if state.acquireGate = some call then none else state.acquireGate
      acquireWaiters := state.acquireWaiters.filter fun waiter => waiter.call ≠ call }
  have emptiedInv : Inv emptied := { inv with
      toBound := ⟨inv.stored, inv.sent, inv.stale⟩
      waiting := fun waiter member => inv.waiting waiter (List.mem_filter.mp member).1 }
  change Inv (emptied.setPlace call .returned)
  refine emptiedInv.setPlace moving trivial ?_
  intro waiter member same
  have different := (List.mem_filter.mp member).2
  simp [same] at different

theorem Inv.not_waiting (inv : Inv state) (idle : (state.calls call).place.usesField = false) :
    ∀ waiter ∈ state.acquireWaiters, waiter.call ≠ call := by
  intro waiter member same
  obtain ⟨_, _, uses⟩ := inv.waiting waiter member
  rw [same, idle] at uses
  contradiction

theorem place_ne_idle_of_eq {call : Call} {place : Place}
    (same : call.place = place) (notIdle : place ≠ .idle) : call.place ≠ .idle :=
  same ▸ notIdle

variable {granter : Granter}

section

variable (inv : Inv state)
include inv

theorem Inv.start {call : Nat} {waits readOnly : Bool}
    (fresh : call ∉ state.begun) : Inv (next state (.start call granter waits readOnly)) where
  toBound := ⟨inv.stored, inv.sent, inv.stale⟩
  calls other := by
    by_cases same : other = call
    · subst same
      have fits := inv.calls other
      simp only [CallFits, inv.fresh other fresh] at fits
      simpa only [next, Function.update_self, CallFits] using fits
    · simpa only [next, Function.update_of_ne same] using inv.calls other
  fresh other notBegun := by
    have different : other ≠ call := fun same => notBegun (same ▸ List.mem_cons_self)
    have notBegunBefore : other ∉ state.begun :=
      fun member => notBegun (List.mem_cons_of_mem _ member)
    simpa only [next, Function.update_of_ne different] using inv.fresh other notBegunBefore
  waiting waiter member := by
    have different : waiter.call ≠ call :=
      inv.not_waiting (by rw [inv.fresh call fresh]; rfl) waiter member
    simpa only [next, Function.update_of_ne different] using inv.waiting waiter member

theorem Inv.enterGate (lease : (state.calls call).granter = .lease)
    (started : (state.calls call).place = .started) : Inv (next state (.enterGate call)) := by
  have fits := inv.calls call
  simp only [CallFits, started] at fits
  have moved : Inv (state.setPlace call .gated) := by
    refine inv.setPlace (place_ne_idle_of_eq started (by decide)) ?_ ?_
    · exact ⟨lease, fits⟩
    · intro waiter member same
      exact absurd same (inv.not_waiting (by rw [started]; rfl) waiter member)
  exact { moved with toBound := ⟨moved.stored, moved.sent, moved.stale⟩ }

theorem Inv.register {call : Nat}
    (gated : (state.calls call).place = .gated) : Inv (next state (.register call)) := by
  have fits := inv.calls call
  simp only [CallFits, gated] at fits
  obtain ⟨lease, notDeferred⟩ := fits
  have moved : Inv (state.setPlace call .registered) := by
    refine inv.setPlace (place_ne_idle_of_eq gated (by decide)) ?_ ?_
    · refine ⟨lease, ?_⟩
      rw [notDeferred]
      exact fromCurrent_none _
    · exact fun _ _ _ => rfl
  refine { moved with
      toBound := ⟨moved.stored, moved.sent, moved.stale⟩
      waiting := ?_ }
  intro waiter member
  by_cases waits : (state.calls call).waits = true
  · rw [next, if_pos waits, List.mem_append, List.mem_singleton] at member
    rcases member with earlier | rfl
    · exact moved.waiting waiter earlier
    · -- the waiter of this call
      simpa only [next, State.setPlace, Function.update_self] using ⟨lease, by decide, rfl⟩
  · rw [next, if_neg waits] at member
    exact moved.waiting waiter member

theorem Inv.readConn (kv : (state.calls call).granter = .kv)
    (started : (state.calls call).place = .started) : Inv (next state (.readConn call)) := by
  have fits := inv.calls call
  simp only [CallFits, started] at fits
  refine inv.setPlace (place_ne_idle_of_eq started (by decide)) ?_ ?_
  · exact ⟨kv, fits⟩
  · intro waiter member same
    exact absurd same (inv.not_waiting (by rw [started]; rfl) waiter member)

theorem Inv.send {call : Nat} (enabled : Enabled state (.send call)) :
    Inv (next state (.send call)) := by
  have fits := inv.calls call
  simp only [Enabled] at enabled
  have notIdle : (state.calls call).place ≠ .idle := by
    intro idle
    rw [idle] at enabled
    exact enabled
  refine inv.setPlace notIdle ?_ fun _ _ _ => rfl
  simp only [CallFits, State.sendConn]
  cases place : (state.calls call).place with
  | started =>
    simp only [CallFits, place] at fits enabled
    refine ⟨Or.inr rfl, fun _ => ?_⟩
    rw [fits]
    exact fromCurrent_none _
  | registered =>
    simp only [CallFits, place] at fits
    exact ⟨Or.inr rfl, fun _ => fits.2⟩
  | holding conn =>
    simp only [CallFits, place] at fits
    refine ⟨Or.inl fits.1, fun _ => ?_⟩
    rw [fits.2]
    exact fromCurrent_none _
  | _ =>
    rw [place] at enabled
    exact enabled.elim

theorem Inv.respond {call conn : Nat} {reply : Reply}
    (sent : (state.calls call).place = .sent conn)
    (onlyLease : reply = .queued → (state.calls call).granter = .lease) :
    Inv (next state (.respond call conn reply)) := by
  have fits := inv.calls call
  simp only [CallFits, sent] at fits
  have notIdle := place_ne_idle_of_eq sent Place.noConfusion
  cases reply with
  | granted count => exact inv.setPlace notIdle fits fun _ _ _ => rfl
  | queued =>
    have lease := onlyLease rfl
    simp only [next, State.afterReply]
    split
    · exact inv.setPlace notIdle ⟨lease, fits.2 lease⟩ fun _ _ _ => rfl
    · exact inv.finish notIdle
  | refused => exact inv.finish notIdle

end

private theorem takeWaiter_mem : ∀ {waiters rest : List Waiter} {taken : Option Nat},
      takeWaiter waiters = (taken, rest) →
        (∀ waiter ∈ rest, waiter ∈ waiters) ∧
          ∀ call, taken = some call → ∃ waiter ∈ waiters, waiter.call = call
  | [], rest, taken, took => by
      obtain ⟨rfl, rfl⟩ := Prod.mk.inj took
      exact ⟨fun _ member => member, fun _ impossible => nomatch impossible⟩
  | waiter :: waiters, rest, taken, took => by
      by_cases done : waiter.done = true
      · rw [takeWaiter, if_pos done] at took
        obtain ⟨kept, found⟩ := takeWaiter_mem took
        refine ⟨fun other member => List.mem_cons_of_mem _ (kept other member), ?_⟩
        intro call isTaken
        obtain ⟨other, member, same⟩ := found call isTaken
        exact ⟨other, List.mem_cons_of_mem _ member, same⟩
      · rw [takeWaiter, if_neg done] at took
        obtain ⟨rfl, rfl⟩ := Prod.mk.inj took
        refine ⟨fun other member => List.mem_cons_of_mem _ member, ?_⟩
        intro call isTaken
        exact ⟨waiter, List.mem_cons_self, Option.some.inj isTaken⟩

variable {grants : Bool} {deferred : Option (Nat × Bool)} {fields : Granter → Nat}

theorem CallFits.deliver {call : Call}
    {conn : Nat} (fits : CallFits fields deferred call) (engages : call.Engages .lease)
    (current : fields .lease = conn) : CallFits fields (some (conn, grants)) call := by
  have fromCurrent : FromCurrent fields (some (conn, grants)) := by
    intro other otherGrants same
    injection same with same
    exact current.trans (congrArg Prod.fst same)
  obtain ⟨lease, _, uses⟩ := engages
  unfold CallFits at fits ⊢
  cases place : call.place with
  | registered | queued => exact ⟨lease, fromCurrent⟩
  | sent | granted =>
    simp only [place] at fits ⊢
    exact ⟨fits.1, fun _ => fromCurrent⟩
  | _ =>
    rw [place] at uses
    contradiction

theorem Inv.deferredAcquire (inv : Inv state) {conn : Nat} (current : state.fields .lease = conn) :
    Inv (next state (.deferredAcquire conn grants)) := by
  simp only [next, State.deliverDeferred]
  split
  case h_1 rest took =>
    obtain ⟨kept, _⟩ := takeWaiter_mem took
    exact { inv with
        toBound := ⟨inv.stored, inv.sent, inv.stale⟩
        waiting := fun waiter member => inv.waiting waiter (kept waiter member) }
  case h_2 call rest took =>
    obtain ⟨kept, found⟩ := takeWaiter_mem took
    obtain ⟨taken, member, sameCall⟩ := found call rfl
    refine
      { toBound := ⟨inv.stored, inv.sent, inv.stale⟩
        calls := fun other => ?_
        fresh := inv.fresh
        waiting := fun waiter member => inv.waiting waiter (kept waiter member) }
    by_cases same : other = call
    · subst same
      simp only [Function.update_self]
      refine (inv.calls other).deliver ?_ current
      exact sameCall ▸ inv.waiting taken member
    · simpa only [Function.update_of_ne same] using inv.calls other

theorem Inv.takeDeferred (inv : Inv state) {call conn : Nat}
    (queued : (state.calls call).place = .queued)
    (deferred : state.deferred call = some (conn, grants)) :
    Inv (next state (.takeDeferred call conn grants)) := by
  have fits := inv.calls call
  simp only [CallFits, queued] at fits
  obtain ⟨lease, fromCurrent⟩ := fits
  have notIdle := place_ne_idle_of_eq queued (by decide)
  simp only [next]
  split
  · refine inv.setPlace notIdle ⟨Or.inr ?_, fun _ => fromCurrent⟩ fun _ _ _ => rfl
    exact lease ▸ fromCurrent conn grants deferred
  · exact inv.finish notIdle

theorem Inv.handleConn (inv : Inv state) {call conn count : Nat}
    (granted : (state.calls call).place = .granted conn count) :
    state.handleConn call conn = conn := by
  have fits := inv.calls call
  simp only [CallFits, granted] at fits
  unfold State.handleConn
  split
  · rfl
  · rename_i notKv
    exact fits.1.resolve_left notKv

theorem Inv.build (inv : Inv state) {call conn count : Nat}
    (granted : (state.calls call).place = .granted conn count) :
    Inv (next state (.build call conn count)) := by
  have finished : Inv (state.finish call) :=
    inv.finish (place_ne_idle_of_eq granted Place.noConfusion)
  refine { finished with toBound := ⟨?_, finished.sent, finished.stale⟩ }
  intro handle member
  rw [next, List.mem_append] at member
  rcases member with earlier | new
  · exact inv.stored handle earlier
  · obtain ⟨body, _, rfl⟩ := List.mem_map.mp new
    exact inv.handleConn granted

theorem CallFits.replace {call : Call}
    {conn : Nat} (fits : CallFits fields deferred call) (free : ¬ call.Engages granter) :
    CallFits (Function.update fields granter conn) deferred call := by
  -- only calls of the client whose field changes could be affected
  have lease : call.place.usesField = true → call.granter = .lease →
        FromCurrent fields deferred →
          FromCurrent (Function.update fields granter conn) deferred := by
    intro uses isLease fromCurrent other grants same
    have different : Granter.lease ≠ granter := by
      rintro rfl
      exact free ⟨isLease, by decide, uses⟩
    rw [Function.update_of_ne different]
    exact fromCurrent other grants same
  have field : call.place.usesField = true → ∀ other,
        (call.granter = .kv ∨ fields call.granter = other) →
          call.granter = .kv ∨ Function.update fields granter conn call.granter = other := by
    intro uses other agree
    by_cases isKv : call.granter = .kv
    · exact Or.inl isKv
    · have different : call.granter ≠ granter := by
        rintro rfl
        exact free ⟨rfl, isKv, uses⟩
      rw [Function.update_of_ne different]
      exact agree
  unfold CallFits at fits ⊢
  cases place : call.place with
  | registered | queued =>
    simp only [place] at fits ⊢
    exact ⟨fits.1, lease (by rw [place]; rfl) fits.1 fits.2⟩
  | sent other | granted other count =>
    simp only [place] at fits ⊢
    exact ⟨field (by rw [place]; rfl) other fits.1,
        fun isLease => lease (by rw [place]; rfl) isLease (fits.2 isLease)⟩
  | returned => trivial
  | _ =>
    simp only [place] at fits ⊢
    exact fits

theorem Inv.replaceConnection (inv : Inv state) {conn : Nat}
    (free : ∀ call ∈ state.begun, ¬ (state.calls call).Engages granter) :
    Inv (next state (.replaceConnection granter conn)) where
  toBound := ⟨inv.stored, inv.sent, inv.stale⟩
  calls call := by
    refine (inv.calls call).replace ?_
    by_cases begun : call ∈ state.begun
    · exact free call begun
    · rintro ⟨_, _, uses⟩
      rw [inv.fresh call begun] at uses
      contradiction
  fresh := inv.fresh
  waiting := inv.waiting

variable {operation : Operation}

theorem Inv.operate (inv : Inv state) {index : Nat} {handle : Handle}
    (found : state.handles[index]? = some handle) (admits : handle.body.admits operation = true)
    (admissible : operation.Admissible) : Inv (next state (.operate index handle operation)) := by
  have member : handle ∈ state.handles := List.mem_of_getElem? found
  have same : handle.conn = handle.grantedOn := inv.stored handle member
  refine { inv with toBound := ⟨?_, ?_, ?_⟩ }
  · intro other otherMember
    rcases List.mem_or_eq_of_mem_set otherMember with earlier | rfl
    · exact inv.stored other earlier
    · exact same
  · intro report reportMember conn sentOn
    rcases List.mem_cons.mp reportMember with rfl | earlier
    · change conn = handle.grantedOn
      rw [← same]
      simp only [State.report] at sentOn
      split at sentOn
      · exact (Option.some.inj sentOn).symm
      · contradiction
    · exact inv.sent report earlier conn sentOn
  · intro report reportMember closedBefore
    rcases List.mem_cons.mp reportMember with rfl | earlier
    · have hasClosed : (state.conns handle.conn).hasClosed = true := same ▸ closedBefore
      have stale : (state.attempt handle operation).1.isStaleHandle = true :=
        Body.attempt_isStaleHandle hasClosed admits admissible
      refine ⟨stale, ?_⟩
      cases outcome : (state.attempt handle operation).1 with
      | failed | finished => rfl
      | sent =>
        rw [outcome] at stale
        contradiction
    · exact inv.stale report earlier closedBefore

theorem Inv.answer (inv : Inv state) {index : Nat} {handle : Handle}
    {acknowledged : Bool} (found : state.handles[index]? = some handle) :
    Inv (next state (.answer index handle operation acknowledged)) := by
  have member : handle ∈ state.handles := List.mem_of_getElem? found
  refine { inv with toBound := ⟨?_, inv.sent, inv.stale⟩ }
  intro other otherMember
  rcases List.mem_or_eq_of_mem_set otherMember with earlier | rfl
  · exact inv.stored other earlier
  · exact inv.stored handle member

end Steps

theorem step_inv {state final : State} {event : Event} (inv : Inv state)
    (keeps : KeepsSession state event) (stepped : step state event = some final) : Inv final := by
  obtain ⟨enabled, rfl⟩ := guarded_eq_some_iff.mp stepped
  cases event with
  | start => exact inv.start enabled
  | enterGate => exact inv.enterGate enabled.1 enabled.2.1
  | register => exact inv.register enabled
  | readConn => exact inv.readConn enabled.1 enabled.2
  | send => exact inv.send enabled
  | respond => exact inv.respond enabled.1 enabled.2.2
  | deferredAcquire => exact inv.deferredAcquire keeps
  | takeDeferred => exact inv.takeDeferred enabled.1 enabled.2
  | build => exact inv.build enabled
  | fail call =>
    refine inv.finish fun idle => ?_
    rw [Enabled, idle] at enabled
    contradiction
  | replaceConnection => exact inv.replaceConnection keeps
  | close | terminate => exact { inv with toBound := ⟨inv.stored, inv.sent, inv.stale⟩ }
  | operate => exact inv.operate enabled.1 enabled.2 keeps
  | answer => exact inv.answer enabled.1

/-- In every run in which no connection is replaced under a granting call, every
handle keeps the connection that granted it, its operations send on no other
one, and those called after that connection has closed fail as stale. -/
theorem handles_bound_to_granting_session {events : List Event} {final : State}
    (keeps : Along step KeepsSession initial events) (ran : run step initial events = some final) :
    Bound final :=
  (invariant_along Inv step_inv initial_inv keeps ran).toBound

/-- A lease granted by a deferred frame, extended, and extended again after the
client has moved to connection 1 and connection 0 has ended. -/
def deferredLeaseRun : List Event :=
  let granted : Handle := ⟨0, 0, .lease ⟨false, false⟩⟩
  [.start 0 .lease true false, .enterGate 0, .register 0, .send 0,
    .respond 0 0 .queued, .deferredAcquire 0 true, .takeDeferred 0 0 true,
    .build 0 0 1, .operate 0 granted (.lease .extend),
    .answer 0 ⟨0, 0, .lease ⟨false, true⟩⟩ (.lease .extend) true,
    .replaceConnection .lease 1, .terminate 0 (some 7),
    .operate 0 granted (.lease .extend)]

theorem deferredLeaseRun_is_bound : ∃ final, run step initial deferredLeaseRun = some final ∧
        Along step KeepsSession initial deferredLeaseRun ∧ Bound final :=
  have keeps : Along step KeepsSession initial deferredLeaseRun := by
    decide
  ⟨_, rfl, keeps, handles_bound_to_granting_session keeps rfl⟩

/-- `ReplaceConnection` comes between the granting response on connection 0 and
the handle; then connection 0 closes and the handle is used. -/
def replacedUnderGrant (granter : Granter) (entering : List Event) (body : Body)
    (operation : Operation) : List Event :=
  .start 0 granter false false :: entering ++
    [.send 0, .respond 0 0 (.granted 1), .replaceConnection granter 1,
      .build 0 0 1, .close 0, .operate 0 ⟨1, 0, body⟩ operation]

/-- A transaction of a closed connection is committed with durability 2. -/
def committedAfterClose : List Event :=
  [.start 0 .kv false false, .readConn 0, .send 0, .respond 0 0 (.granted 1),
    .build 0 0 1, .close 0,
    .operate 0 ⟨0, 0, .transaction ⟨false, false, false⟩⟩ (.transaction (.commit 2))]

def Reports (events : List Event) (reports : List Report) : Prop :=
  (run step initial events).map State.reports = some reports

instance (events : List Event) (reports : List Report) : Decidable (Reports events reports) :=
  inferInstanceAs (Decidable (_ = _))

private theorem not_bound_of_report {events : List Event} {report : Report}
    (reports : Reports events [report])
    (wrong : report.closedBefore = true ∧ report.outcome.isStaleHandle = false) :
    ∃ final, run step initial events = some final ∧ ¬ Bound final := by
  obtain ⟨final, ran, same⟩ := Option.map_eq_some_iff.mp reports
  refine ⟨final, ran, fun bound => ?_⟩
  have member : report ∈ final.reports := by
    rw [same]
    exact List.mem_singleton_self report
  have stale := (bound.stale report member wrong.1).1
  rw [wrong.2] at stale
  contradiction

/-- A queue item, a lease and a stream session are bound to the connection that
came after the granting one, and operations on them send there after the
granting one has closed; `Commit` rejects a durability before it looks at the
connection. -/
theorem handle_is_bound_to_later_session : (∃ final, run step initial
          (replacedUnderGrant .queue [] (.item .open) (.item .complete)) =
        some final ∧ ¬ Bound final) ∧
    (∃ final, run step initial (replacedUnderGrant .lease [.enterGate 0, .register 0]
            (.lease ⟨false, false⟩) (.lease .extend)) =
        some final ∧ ¬ Bound final) ∧
    (∃ final, run step initial (replacedUnderGrant .stream [] .session (.session .append)) =
        some final ∧ ¬ Bound final) ∧
    ∃ final, run step initial committedAfterClose = some final ∧ ¬ Bound final := by
  refine ⟨?_, ?_, ?_, ?_⟩
  · exact not_bound_of_report (show Reports _ [⟨0, true, .sent 204, some 1⟩] by decide) (by decide)
  · exact not_bound_of_report (show Reports _ [⟨0, true, .sent 401, some 1⟩] by decide) (by decide)
  · exact not_bound_of_report (show Reports _ [⟨0, true, .sent 601, some 1⟩] by decide) (by decide)
  · exact not_bound_of_report (show Reports _ [⟨0, true, .failed (.invalidPersistence 2), none⟩]
        by decide)
      (by decide)

end FitzGo.Domains.Handles
