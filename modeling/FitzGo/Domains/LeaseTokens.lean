import FitzGo.Library.Histories
import FitzGo.Connection.StandardResponse
import FitzGo.Domains.Handles

/-!
# The fencing token of a lease handle

Every successful RENEW gives the lease a new token. `Extend` and `Release` read
the token of the handle before they wait for `opMu`, so a call that has to wait
for another one's renewal has the token from before it.
-/

namespace FitzGo.Domains.LeaseTokens

open StepMachine
open Connection (ResponseError parseStandardResponse parseStandardResponse_eq_ok_iff)
open Handles (Conn Failure LeaseOperation)

/-- A big-endian number, padded with zeros to eight bytes if it is shorter. -/
def tokenToU64 (token : Bytes) : Nat :=
  if 8 ≤ token.length then BigEndian.decode (token.take 8)
  else BigEndian.decode (List.replicate (8 - token.length) 0 ++ token)

/-- A call from when it has read the token. `given` is the argument of the
functions that take one, and `seen` counts the renewals that were complete at
that moment. -/
structure Call where
  id : Nat
  operation : LeaseOperation
  ttlSecs : UInt64
  given : Option Bytes
  token : Bytes
  seen : Nat
  deriving DecidableEq

/-- `extended` has the new token, and the new expiry that is returned. -/
inductive Outcome
  | extended (token : Nat) (expiry : Int64)
  | released
  | failed (failure : Failure)
  | requestFailed
  | refused (error : ResponseError)
  | unexpectedStatus
  | missingToken
  deriving DecidableEq

def Outcome.succeeded : Outcome → Bool
  | .extended _ _ | .released => true
  | .failed _ | .requestFailed | .refused _ | .unexpectedStatus
  | .missingToken => false

def Outcome.isStaleHandle : Outcome → Bool
  | .failed failure => failure.isStaleHandle
  | .extended _ _ | .released | .requestFailed | .refused _
  | .unexpectedStatus | .missingToken => false

structure Return where
  call : Call
  outcome : Outcome

/-- A request on the wire, or a renewal whose response has been taken in. -/
inductive Item
  | sent (call : Call) (token : Nat)
  | renewed (token : Nat)
  deriving DecidableEq

def Item.isRenewal : Item → Bool
  | .renewed _ => true
  | .sent _ _ => false

def renewals (trace : List Item) : Nat :=
  trace.countP Item.isRenewal

def latest (acquired : Nat) (trace : List Item) : Nat :=
  trace.foldl
    (fun current item =>
      match item with
      | .renewed token => token
      | .sent _ _ => current)
    acquired

inductive Phase
  | checked
  | awaiting
  deriving DecidableEq

/-- `waiting` holds the calls that have read the token and not taken `opMu`;
the trace and the returns are in the order of time. -/
structure State where
  token : Bytes
  expiresAt : Int64
  closed : Bool
  started : Nat
  waiting : List Call
  holder : Option (Call × Phase)
  trace : List Item
  returns : List Return

def initial (acquired : UInt64) (expiresAt : Int64) : State where
  token := BigEndian.encode 8 acquired.toNat
  expiresAt := expiresAt
  closed := false
  started := 0
  waiting := []
  holder := none
  trace := []
  returns := []

/-- `fail` is an error of `SendRequestWithWriter`, before or after the request
has been written. -/
inductive Event
  | start (operation : LeaseOperation) (ttlSecs : UInt64) (given : Option Bytes)
  | lock (call : Call) (conn : Conn)
  | send (call : Call)
  | fail (call : Call) (phase : Phase)
  | reply (call : Call) (payload : Bytes) (now : Int64)

def Enabled (state : State) : Event → Prop
  | .start _ _ _ => True
  | .lock call _ => call ∈ state.waiting ∧ state.holder = none
  | .send call => state.holder = some (call, .checked)
  | .fail call phase => state.holder = some (call, phase)
  | .reply call _ _ => state.holder = some (call, .awaiting)

instance (state : State) (event : Event) : Decidable (Enabled state event) := by
  cases event <;> dsimp only [Enabled] <;> infer_instance

def Call.answer (call : Call) (payload : Bytes) (now : Int64) : Outcome :=
  match parseStandardResponse payload with
  | .error error => .refused error
  | .ok (false, _) => .unexpectedStatus
  | .ok (true, remaining) =>
    match call.operation with
    | .release => .released
    | .extend =>
      if 8 ≤ remaining.length then
        .extended (BigEndian.decode (remaining.take 8)) (now + call.ttlSecs.toInt64)
      else .missingToken

def State.settle (state : State) (call : Call) (outcome : Outcome) : State :=
  { state with
    holder := none
    closed :=
      (call.operation.settle { closed := state.closed, busy := true } outcome.succeeded).closed
    returns := state.returns ++ [{ call, outcome }] }

def State.lock (state : State) (call : Call) (conn : Conn) : State :=
  match call.operation.attempt conn { closed := state.closed, busy := false } with
  | (.failed failure, lease) =>
    { state with
      closed := lease.closed
      waiting := state.waiting.erase call
      returns := state.returns ++ [{ call, outcome := .failed failure }] }
  | (.finished, lease) | (.sent _, lease) =>
    { state with
      closed := lease.closed
      waiting := state.waiting.erase call
      holder := some (call, .checked) }

def State.reply (state : State) (call : Call) (outcome : Outcome) : State :=
  match outcome with
  | .extended token expiry =>
    { state.settle call outcome with
      token := BigEndian.encode 8 token
      expiresAt := expiry
      trace := state.trace ++ [.renewed token] }
  | .released | .failed _ | .requestFailed | .refused _ | .unexpectedStatus
  | .missingToken => state.settle call outcome

def State.nextCall (state : State) (operation : LeaseOperation)
    (ttlSecs : UInt64) (given : Option Bytes) : Call where
  id := state.started
  operation := operation
  ttlSecs := ttlSecs
  given := given
  token := given.getD state.token
  seen := renewals state.trace

def next (state : State) : Event → State
  | .start operation ttlSecs given =>
    { state with
      started := state.started + 1
      waiting := state.waiting ++ [state.nextCall operation ttlSecs given] }
  | .lock call conn => state.lock call conn
  | .send call =>
    { state with
      holder := some (call, .awaiting)
      trace := state.trace ++ [.sent call (tokenToU64 call.token)] }
  | .fail call _ => state.settle call .requestFailed
  | .reply call payload now => state.reply call (call.answer payload now)

def step : State → Event → Option State :=
  guarded Enabled next

/-! ## What is claimed -/

/-- Every request of `Extend` and `Release` has the token of the last renewal
before it. -/
def Serialised (acquired : Nat) (trace : List Item) : Prop :=
  ∀ before call token after, trace = before ++ .sent call token :: after →
    call.given = none →
    token = latest acquired before

def Return.ends (ret : Return) : Bool :=
  match ret.call.operation with
  | .release => true
  | .extend => !ret.outcome.succeeded

def Ended (state : State) : Prop :=
  ∃ ret ∈ state.returns, ret.ends = true

instance (state : State) : Decidable (Ended state) :=
  inferInstanceAs (Decidable (∃ ret ∈ state.returns, ret.ends = true))

/-- No renewal has completed between the call's read of the token and its
taking `opMu` of an open handle. -/
def Undisturbed (state : State) : Event → Prop
  | .lock call _ => state.closed = false → call.given = none → call.seen = renewals state.trace
  | .start _ _ _ | .send _ | .fail _ _ | .reply _ _ _ => True

instance (state : State) (event : Event) : Decidable (Undisturbed state event) := by
  cases event <;> dsimp only [Undisturbed] <;> infer_instance

/-! ## Tokens and traces -/

theorem tokenToU64_encode {token : Nat} (fits : token < 2 ^ 64) :
    tokenToU64 (BigEndian.encode 8 token) = token := by
  have length := BigEndian.length_encode 8 token
  have whole : (BigEndian.encode 8 token).take 8 = BigEndian.encode 8 token := by
    apply List.take_of_length_le
    omega
  rw [tokenToU64, if_pos (by omega), whole]
  exact BigEndian.decode_encode_of_lt fits

section Traces

variable {acquired token : Nat} {trace : List Item} {call : Call}

@[simp]
theorem latest_append_sent :
    latest acquired (trace ++ [.sent call token]) = latest acquired trace := by
  simp [latest]

@[simp]
theorem latest_append_renewed : latest acquired (trace ++ [.renewed token]) = token := by
  simp [latest]

@[simp]
theorem renewals_append_sent : renewals (trace ++ [.sent call token]) = renewals trace := by
  simp [renewals, Item.isRenewal]

@[simp]
theorem renewals_append_renewed : renewals (trace ++ [.renewed token]) = renewals trace + 1 := by
  simp [renewals, Item.isRenewal]

theorem serialised_append {item : Item} (old : Serialised acquired trace)
    (new : ∀ call token, item = .sent call token → call.given = none →
      token = latest acquired trace) : Serialised acquired (trace ++ [item]) := by
  intro before call token after split plain
  rcases Histories.concat_eq_append_cons split with
    ⟨rfl, same⟩ | ⟨rest, earlier⟩
  · exact new call token same.symm plain
  · exact old before call token rest earlier plain

end Traces

/-! ## What the steps do -/

variable {state : State} {call : Call}

theorem lock_cases (state : State) (call : Call) (conn : Conn) :
    (∃ failure, failure.isStaleHandle = true ∧
      state.lock call conn = { state with
          closed := true
          waiting := state.waiting.erase call
          returns := state.returns ++ [{ call, outcome := .failed failure }] }) ∨
    (state.closed = false ∧
      state.lock call conn = { state with
          closed := decide (call.operation = .release)
          waiting := state.waiting.erase call
          holder := some (call, .checked) }) := by
  unfold State.lock
  cases closed : state.closed with
  | true =>
    left
    refine ⟨.staleHandle none, rfl, ?_⟩
    cases call.operation <;> rfl
  | false =>
    by_cases dead : conn.hasClosed = true
    · obtain ⟨cause, live⟩ := Conn.checkLiveHandle_of_hasClosed dead
      left
      refine ⟨.staleHandle cause, rfl, ?_⟩
      cases call.operation <;> simp [LeaseOperation.attempt, live]
    · have live : conn.checkLiveHandle = .ok () := by
        simp only [Conn.hasClosed, Bool.or_eq_true, not_or, Bool.not_eq_true] at dead
        simp [Conn.checkLiveHandle, dead.1, dead.2]
      right
      refine ⟨rfl, ?_⟩
      cases call.operation <;> simp [LeaseOperation.attempt, live]

theorem reply_cases (state : State) (call : Call) (payload : Bytes) (now : Int64) :
    (∃ token expiry, token < 2 ^ 64 ∧ call.operation = .extend ∧
      state.reply call (call.answer payload now) = { state.settle call (.extended token expiry) with
          token := BigEndian.encode 8 token
          expiresAt := expiry
          trace := state.trace ++ [.renewed token] }) ∨
    ∃ outcome, Return.ends { call, outcome } = true ∧
      state.reply call (call.answer payload now) = state.settle call outcome := by
  unfold Call.answer
  cases parsed : parseStandardResponse payload with
  | error error =>
    right
    refine ⟨.refused error, ?_, rfl⟩
    cases operation : call.operation <;> simp [Return.ends, operation, Outcome.succeeded]
  | ok response =>
    obtain ⟨success, remaining⟩ := response
    obtain ⟨_, rfl⟩ := parseStandardResponse_eq_ok_iff.mp parsed
    cases operation : call.operation with
    | release =>
      right
      refine ⟨.released, ?_, rfl⟩
      simp [Return.ends, operation]
    | extend =>
      by_cases enough : 8 ≤ remaining.length
      · left
        refine ⟨_, now + call.ttlSecs.toInt64, BigEndian.decode_take_lt 8 remaining, rfl, ?_⟩
        simp only [if_pos enough]
        rfl
      · right
        refine ⟨.missingToken, ?_, ?_⟩
        · simp [Return.ends, operation, Outcome.succeeded]
        · simp only [if_neg enough]
          rfl

/-! ## The token of a request -/

/-- The call's token is that of the handle, unless a renewal has completed
since it was read. -/
def Call.UpToDate (call : Call) (acquired : Nat) (trace : List Item) : Prop :=
  call.seen ≤ renewals trace ∧
    (call.seen = renewals trace → tokenToU64 call.token = latest acquired trace)

structure Inv (acquired : Nat) (state : State) : Prop where
  current : tokenToU64 state.token = latest acquired state.trace
  waiting : ∀ call ∈ state.waiting, call.given = none → call.UpToDate acquired state.trace
  holding : ∀ call, state.holder = some (call, .checked) →
    call.given = none → tokenToU64 call.token = latest acquired state.trace
  serialised : Serialised acquired state.trace

variable {acquired : Nat}

theorem initial_inv (acquired : UInt64) (expiresAt : Int64) :
    Inv acquired.toNat (initial acquired expiresAt) where
  current := tokenToU64_encode acquired.toNat_lt
  waiting call listed := by
    cases listed
  holding call held := by
    cases held
  serialised before call token after split := by
    cases before <;> cases split

theorem Call.UpToDate.renewed {trace : List Item} (before : call.UpToDate acquired trace)
    (token : Nat) : call.UpToDate acquired (trace ++ [.renewed token]) := by
  refine ⟨?_, fun same => ?_⟩
  · rw [renewals_append_renewed]
    exact Nat.le_succ_of_le before.1
  · rw [renewals_append_renewed] at same
    have bound := before.1
    omega

section

variable (inv : Inv acquired state)
include inv

theorem start_inv (operation : LeaseOperation) (ttlSecs : UInt64) (given : Option Bytes) :
    Inv acquired (next state (.start operation ttlSecs given)) := by
  refine { inv with waiting := fun call listed plain => ?_ }
  rcases List.mem_append.mp listed with old | new
  · exact inv.waiting call old plain
  · rw [List.mem_singleton] at new
    subst new
    have unset : given = none := plain
    subst unset
    exact ⟨Nat.le_refl _, fun _ => inv.current⟩

theorem lock_inv {conn : Conn} (listed : call ∈ state.waiting)
    (met : Undisturbed state (.lock call conn)) : Inv acquired (next state (.lock call conn)) := by
  have others : ∀ other ∈ state.waiting.erase call, other.given = none →
      other.UpToDate acquired state.trace := by
    intro other left
    exact inv.waiting other (List.mem_of_mem_erase left)
  dsimp only [next]
  rcases lock_cases state call conn with
    ⟨failure, _, result⟩ | ⟨opened, result⟩
  · rw [result]
    exact { inv with waiting := others }
  · rw [result]
    refine { inv with waiting := others, holding := fun holder held plain => ?_ }
    cases held
    exact (inv.waiting call listed plain).2 (met opened plain)

theorem send_inv (held : state.holder = some (call, .checked)) :
    Inv acquired (next state (.send call)) where
  current := by
    simpa [next] using inv.current
  waiting other listed plain := by
    simpa [next, Call.UpToDate] using inv.waiting other listed plain
  holding other held := by
    simp [next] at held
  serialised := by
    apply serialised_append inv.serialised
    intro sender token same plain
    cases same
    exact inv.holding call held plain

theorem settle_inv (outcome : Outcome) : Inv acquired (state.settle call outcome) :=
  { inv with
    holding other held := by
      cases held }

private theorem reply_inv (payload : Bytes)
    (now : Int64) : Inv acquired (next state (.reply call payload now)) := by
  dsimp only [next]
  rcases reply_cases state call payload now with
    ⟨token, expiry, fits, _, result⟩ | ⟨outcome, _, result⟩
  · rw [result]
    refine ⟨?_, fun other listed plain => ?_, fun other held => ?_, ?_⟩
    · rw [latest_append_renewed]
      exact tokenToU64_encode fits
    · exact (inv.waiting other listed plain).renewed token
    · cases held
    · apply serialised_append inv.serialised
      intro sender sent impossible
      cases impossible
  · rw [result]
    exact settle_inv inv outcome

end

variable {event : Event} {after : State}

theorem step_inv (inv : Inv acquired state) (met : Undisturbed state event)
    (stepped : step state event = some after) : Inv acquired after := by
  obtain ⟨enabled, rfl⟩ := guarded_eq_some_iff.mp stepped
  cases event with
  | start operation ttlSecs given => exact start_inv inv operation ttlSecs given
  | lock call conn => exact lock_inv inv enabled.1 met
  | send call => exact send_inv inv enabled
  | fail call phase => exact settle_inv inv .requestFailed
  | reply call payload now => exact reply_inv inv payload now

/-! ## The end of a handle -/

/-- Calls are numbered as they start. Only a `Release` holds the mutex of a
closed handle, and once a call has ended the handle it stays closed. -/
structure Closing (state : State) : Prop where
  held : ∀ call phase, state.holder = some (call, phase) →
    (state.closed = true ↔ call.operation = .release)
  ended : Ended state → state.closed = true ∧ state.holder = none
  waiting : ∀ call ∈ state.waiting, call.id < state.started
  holder : ∀ call phase, state.holder = some (call, phase) → call.id < state.started
  returns : ∀ ret ∈ state.returns, ret.call.id < state.started

private theorem initial_closing (acquired : UInt64) (expiresAt : Int64) :
    Closing (initial acquired expiresAt) where
  held call phase held := by
    cases held
  ended ended := by
    obtain ⟨ret, listed, _⟩ := ended
    cases listed
  waiting call listed := by
    cases listed
  holder call phase held := by
    cases held
  returns ret listed := by
    cases listed

variable {phase : Phase}

section

variable (closing : Closing state)
include closing

theorem Closing.not_ended (held : state.holder = some (call, phase)) : ¬ Ended state := by
  intro ended
  have free := (closing.ended ended).2
  rw [held] at free
  cases free

theorem returns_lt {outcome : Outcome} (started : call.id < state.started) :
    ∀ ret ∈ state.returns ++ [({ call, outcome } : Return)], ret.call.id < state.started := by
  intro ret listed
  rcases List.mem_append.mp listed with old | new
  · exact closing.returns ret old
  · rw [List.mem_singleton] at new
    subst new
    exact started

theorem start_closing (operation : LeaseOperation) (ttlSecs : UInt64) (given : Option Bytes) :
    Closing (next state (.start operation ttlSecs given)) :=
  { closing with
    waiting call listed := by
      rcases List.mem_append.mp listed with old | new
      · exact Nat.lt_succ_of_lt (closing.waiting call old)
      · rw [List.mem_singleton] at new
        subst new
        exact Nat.lt_succ_self _
    holder call phase held := Nat.lt_succ_of_lt (closing.holder call phase held)
    returns ret listed := Nat.lt_succ_of_lt (closing.returns ret listed) }

theorem lock_closing {conn : Conn} (listed : call ∈ state.waiting) (free : state.holder = none) :
    Closing (next state (.lock call conn)) := by
  have others : ∀ other ∈ state.waiting.erase call, other.id < state.started := by
    intro other left
    exact closing.waiting other (List.mem_of_mem_erase left)
  have started := closing.waiting call listed
  dsimp only [next]
  rcases lock_cases state call conn with
    ⟨failure, _, result⟩ | ⟨opened, result⟩
  · rw [result]
    refine ⟨fun holder phase held => ?_, fun _ => ⟨rfl, free⟩, others,
      closing.holder, returns_lt closing started⟩
    rw [free] at held
    cases held
  · rw [result]
    refine ⟨fun holder phase held => ?_, fun ended => ?_, others,
      fun holder phase held => ?_, closing.returns⟩
    · cases held
      exact decide_eq_true_iff
    · have closed := (closing.ended ended).1
      rw [opened] at closed
      cases closed
    · cases held
      exact started

private theorem send_closing
    (held : state.holder = some (call, .checked)) : Closing (next state (.send call)) where
  held other phase now := by
    cases now
    exact closing.held call .checked held
  ended ended := absurd ended (closing.not_ended held)
  waiting := closing.waiting
  holder other phase now := by
    cases now
    exact closing.holder call .checked held
  returns := closing.returns

private theorem settle_closed {outcome : Outcome} (held : state.holder = some (call, phase))
    (ends : Return.ends { call, outcome } = true) : (state.settle call outcome).closed = true := by
  have closed := closing.held call phase held
  cases operation : call.operation with
  | release =>
    simp only [State.settle, operation, LeaseOperation.settle]
    exact closed.mpr operation
  | extend =>
    have failed : outcome.succeeded = false := by
      simpa [Return.ends, operation] using ends
    simp [State.settle, operation, LeaseOperation.settle, failed]

theorem settle_closing (outcome : Outcome) (held : state.holder = some (call, phase)) :
    Closing (state.settle call outcome) where
  held other phase now := by
    cases now
  ended ended := by
    refine ⟨?_, rfl⟩
    obtain ⟨ret, listed, ends⟩ := ended
    rcases List.mem_append.mp listed with old | new
    · exact absurd ⟨ret, old, ends⟩ (closing.not_ended held)
    · rw [List.mem_singleton] at new
      subst new
      exact settle_closed closing held ends
  waiting := closing.waiting
  holder other phase now := by
    cases now
  returns := returns_lt closing (closing.holder call phase held)

private theorem reply_closing {payload : Bytes}
    {now : Int64} (held : state.holder = some (call, .awaiting)) :
    Closing (next state (.reply call payload now)) := by
  dsimp only [next]
  rcases reply_cases state call payload now with
    ⟨token, expiry, _, _, result⟩ | ⟨outcome, _, result⟩
  · rw [result]
    exact { settle_closing closing (.extended token expiry) held with }
  · rw [result]
    exact settle_closing closing outcome held

end

private theorem step_closing
    (closing : Closing state) (stepped : step state event = some after) : Closing after := by
  obtain ⟨enabled, rfl⟩ := guarded_eq_some_iff.mp stepped
  cases event with
  | start operation ttlSecs given => exact start_closing closing operation ttlSecs given
  | lock call conn => exact lock_closing closing enabled.1 enabled.2
  | send call => exact send_closing closing enabled
  | fail call phase => exact settle_closing closing .requestFailed enabled
  | reply call payload now => exact reply_closing closing enabled

/-- What has happened on a closed and free handle since `middle`: nothing but
calls that return an error matching `ErrStaleHandle`. -/
structure Stopped (middle state : State) : Prop where
  closed : state.closed = true
  free : state.holder = none
  trace : state.trace = middle.trace
  returns : ∀ ret ∈ state.returns, ret ∈ middle.returns ∨ ret.outcome.isStaleHandle = true

variable {middle : State}

theorem Stopped.lock (stopped : Stopped middle state) (conn : Conn) : state.lock call conn =
      { state with
        closed := true
        waiting := state.waiting.erase call
        returns := state.returns ++ [{ call, outcome := .failed (.staleHandle none) }] } := by
  simp only [State.lock, stopped.closed]
  cases call.operation <;> rfl

theorem step_stopped (stopped : Stopped middle state) (stepped : step state event = some after) :
    Stopped middle after := by
  obtain ⟨enabled, rfl⟩ := guarded_eq_some_iff.mp stepped
  have idle : ∀ call phase, state.holder ≠ some (call, phase) := by
    intro call phase held
    rw [stopped.free] at held
    cases held
  cases event with
  | start operation ttlSecs given => exact { stopped with }
  | lock call conn =>
    dsimp only [next]
    rw [stopped.lock conn]
    refine { stopped with closed := rfl, returns := fun ret listed => ?_ }
    rcases List.mem_append.mp listed with old | new
    · exact stopped.returns ret old
    · rw [List.mem_singleton] at new
      subst new
      exact Or.inr rfl
  | send call => exact absurd enabled (idle call .checked)
  | fail call phase => exact absurd enabled (idle call phase)
  | reply call payload now => exact absurd enabled (idle call .awaiting)

/-- After a `Release` or a failed `Extend` nothing is sent, and every call that
starts later returns an error matching `ErrStaleHandle`, for which it waits for
nobody. -/
theorem ended_is_final {final : State} {events : List Event}
    (closing : Closing middle) (ended : Ended middle) (ran : run step middle events = some final) :
    final.trace = middle.trace ∧
      (∀ ret ∈ final.returns, middle.started ≤ ret.call.id → ret.outcome.isStaleHandle = true) ∧
      ∀ call ∈ final.waiting, ∀ conn, ∃ following, step final (.lock call conn) = some following ∧
          { call, outcome := .failed (.staleHandle none) } ∈ following.returns := by
  have rest := closing.ended ended
  have start : Stopped middle middle := ⟨rest.1, rest.2, rfl, fun ret listed => Or.inl listed⟩
  have stopped := invariant_of_run (Stopped middle) step_stopped start ran
  refine ⟨stopped.trace, fun ret listed late => ?_, fun call listed conn => ?_⟩
  · rcases stopped.returns ret listed with old | stale
    · have early := closing.returns ret old
      omega
    · exact stale
  · refine ⟨next final (.lock call conn), guarded_eq_some_iff.mpr ⟨⟨listed, stopped.free⟩, rfl⟩, ?_⟩
    simp [next, stopped.lock conn]

/-! ## Runs -/

/-- Requests have the token of the last renewal, and a handle that has ended
sends nothing and refuses every later call. -/
theorem token_rotation_is_serialised {acquired : UInt64} {expiresAt : Int64} {events : List Event}
    {final : State} (met : Along step Undisturbed (initial acquired expiresAt) events)
    (ran : run step (initial acquired expiresAt) events = some final) :
    Serialised acquired.toNat final.trace ∧
      ∀ before after middle, events = before ++ after →
        run step (initial acquired expiresAt) before = some middle →
        Ended middle →
        final.trace = middle.trace ∧
          (∀ ret ∈ final.returns, middle.started ≤ ret.call.id → ret.outcome.isStaleHandle = true) ∧
          ∀ call ∈ final.waiting, ∀ conn, ∃ following,
            step final (.lock call conn) = some following ∧
              { call, outcome := .failed (.staleHandle none) } ∈ following.returns := by
  have inv := invariant_along (Inv acquired.toNat) step_inv (initial_inv acquired expiresAt) met ran
  refine ⟨inv.serialised, fun before after middle split ranBefore ended => ?_⟩
  have closing := invariant_of_run Closing step_closing
    (initial_closing acquired expiresAt) ranBefore
  rw [split, run_append, ranBefore] at ran
  exact ended_is_final closing ended ran

def liveConn : Conn where
  closed := false
  done := false
  connError := none
  supportsNack := false

def renewedWith (token : UInt8) : Bytes :=
  [0, 0, 0, 0, 0, 0, 0, 0, token]

def callOf (id : Nat) (operation : LeaseOperation) (token seen : Nat) : Call where
  id := id
  operation := operation
  ttlSecs := 30
  given := none
  token := BigEndian.encode 8 token
  seen := seen

def rotatedRun : List Event :=
  [.start .extend 30 none, .lock (callOf 0 .extend 7 0) liveConn, .send (callOf 0 .extend 7 0),
    .reply (callOf 0 .extend 7 0) (renewedWith 8) 100,
    .start .release 30 none, .lock (callOf 1 .release 8 1) liveConn,
    .send (callOf 1 .release 8 1), .reply (callOf 1 .release 8 1) [0] 101]

def lateRun : List Event :=
  [.start .extend 30 none, .lock (callOf 2 .extend 8 1) liveConn]

theorem rotatedRun_is_serialised :
    ∃ final, run step (initial 7 0) (rotatedRun ++ lateRun) = some final ∧
      Serialised 7 final.trace ∧
      final.trace = [.sent (callOf 0 .extend 7 0) 7, .renewed 8, .sent (callOf 1 .release 8 1) 8] ∧
      ∀ ret ∈ final.returns, 2 ≤ ret.call.id → ret.outcome.isStaleHandle = true := by
  obtain ⟨middle, ranMiddle, ended, started⟩ :
      ∃ middle, run step (initial 7 0) rotatedRun = some middle ∧
        Ended middle ∧ middle.started = 2 := by
    decide +kernel
  obtain ⟨final, ran, trace⟩ :
      ∃ final, run step (initial 7 0) (rotatedRun ++ lateRun) = some final ∧
        final.trace = [.sent (callOf 0 .extend 7 0) 7, .renewed 8,
          .sent (callOf 1 .release 8 1) 8] := by
    decide +kernel
  have both := token_rotation_is_serialised (by decide +kernel) ran
  have later := both.2 rotatedRun lateRun middle rfl ranMiddle ended
  rw [started] at later
  exact ⟨final, ran, both.1, trace, later.2.1⟩

/-- Two calls of `Extend` read the token; the second one waits for the first. -/
def twoExtends : List Event :=
  [.start .extend 30 none, .start .extend 30 none,
    .lock (callOf 0 .extend 7 0) liveConn, .send (callOf 0 .extend 7 0),
    .reply (callOf 0 .extend 7 0) (renewedWith 8) 100,
    .lock (callOf 1 .extend 7 0) liveConn, .send (callOf 1 .extend 7 0)]

/-- The second RENEW has the token from before the first. -/
theorem waiting_extend_sends_the_old_token :
    ∃ final, run step (initial 7 0) twoExtends = some final ∧ ¬ Serialised 7 final.trace := by
  obtain ⟨final, ran, trace⟩ : ∃ final, run step (initial 7 0) twoExtends = some final ∧
        final.trace = [.sent (callOf 0 .extend 7 0) 7, .renewed 8,
          .sent (callOf 1 .extend 7 0) 7] := by
    decide +kernel
  refine ⟨final, ran, fun serialised => ?_⟩
  have rotated := serialised
    [.sent (callOf 0 .extend 7 0) 7, .renewed 8] (callOf 1 .extend 7 0) 7 []
    trace rfl
  exact absurd rotated (by decide)

end FitzGo.Domains.LeaseTokens
