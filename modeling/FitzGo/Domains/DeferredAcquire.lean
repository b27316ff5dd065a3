import Mathlib.Logic.Function.Basic
import FitzGo.Library.StepMachine
import FitzGo.Connection.StandardResponse

/-!
# Deferred lease grants

An `Acquire` that may wait puts a waiter in the client's list.
`handleDeferredAcquire` gives each uncorrelated ACQUIRE frame to the first
waiter. An `Acquire` whose context ends takes its waiter out; the broker is not
told.
-/

namespace FitzGo.Domains.DeferredAcquire

open StepMachine
open Connection (ResponseError parseStandardResponse)

/-- The arguments of one call, which have passed the checks of `Acquire`. -/
structure Request where
  route : Bytes
  ownerID : Bytes
  ttlSecs : UInt64
  waitSeconds : UInt32

/-- The fields of the handle that `Acquire` fills in from the response. -/
structure Lease where
  token : Bytes
  expiresAt : Int64
  route : Bytes
  ownerID : Bytes
  deriving DecidableEq

/-! ## Errors -/

inductive LeaseError
  | held
  | invalidFence
  | expired
  | notFound
  | invalidListCursor
  | invalidListPattern
  | other (error : ResponseError)
  deriving DecidableEq

/-- Of the errors that `ParseStandardResponse` returns, only the domain errors
are mapped: no text of the others has a word that `mapLeaseError` looks for. -/
def mapLeaseError (error : ResponseError) : LeaseError :=
  match error with
  | .domain domainErr =>
    if domainErr.code = 5050 then .held
    else if domainErr.code = 5051 then .invalidFence
    else if domainErr.code = 5052 then .expired
    else if domainErr.code = 5053 then .notFound
    else if domainErr.code = 5057 then .invalidListCursor
    else if domainErr.code = 5003 then .invalidListPattern
    else .other error
  | .tooShort | .decodeDomainError _ | .unknownStatus _ => .other error

def isLeaseHeldError (error : ResponseError) : Bool :=
  match error with
  | .domain domainErr => decide (domainErr.code = 5050)
  | .tooShort | .decodeDomainError _ | .unknownStatus _ => false

inductive Failure
  | cancelled
  | requestFailed
  | leaseHeld
  | acquireFailed (error : LeaseError)
  | responseTooShort
  | leaseQueued
  | leaseAlreadyQueued
  | unknownResponseType (responseType : UInt8)
  | deferredFailed (error : LeaseError)
  | invalidDeferred
  deriving DecidableEq

/-- `deferred` is a lease that came with a deferred frame. -/
inductive Outcome
  | acquired (lease : Lease)
  | deferred (lease : Lease)
  | failed (failure : Failure)
  deriving DecidableEq

/-! ## Responses -/

def fencingToken (remaining : Bytes) : Nat :=
  BigEndian.decode ((remaining.drop 1).take 8)

def Request.lease (request : Request) (token : Nat) (now : Int64) : Lease where
  token := BigEndian.encode 8 token
  expiresAt := now + request.ttlSecs.toInt64
  route := request.route
  ownerID := request.ownerID

def Request.respond (request : Request) (payload : Bytes) (now : Int64) : Option Outcome :=
  match parseStandardResponse payload with
  | .error error =>
    if isLeaseHeldError error then some (.failed .leaseHeld)
    else some (.failed (.acquireFailed (mapLeaseError error)))
  | .ok (false, _) => some (.failed .leaseHeld)
  | .ok (true, remaining) =>
    match remaining with
    | [] => some (.failed .responseTooShort)
    | responseType :: _ =>
      if remaining.length < 9 then some (.failed .responseTooShort)
      else if responseType = 0 ∨ responseType = 1 then
        some (.acquired (request.lease (fencingToken remaining) now))
      else if responseType = 2 then
        if request.waitSeconds = 0 then some (.failed .leaseQueued)
        else none
      else if responseType = 3 then some (.failed .leaseAlreadyQueued)
      else some (.failed (.unknownResponseType responseType))

def isQueued (payload : Bytes) : Bool :=
  match parseStandardResponse payload with
  | .ok (true, 2 :: rest) => decide (8 ≤ rest.length)
  | .ok _ | .error _ => false

def grantedToken (payload : Bytes) : Option Nat :=
  match parseStandardResponse payload with
  | .error _ => none
  | .ok (false, _) => none
  | .ok (true, remaining) =>
    match remaining with
    | [] => none
    | responseType :: _ =>
      if remaining.length < 9 ∨ (responseType ≠ 0 ∧ responseType ≠ 1) then none
      else some (fencingToken remaining)

def Request.receive (request : Request) (payload : Bytes) (now : Int64) : Outcome :=
  match parseStandardResponse payload with
  | .error error => .failed (.deferredFailed (mapLeaseError error))
  | .ok _ =>
    match grantedToken payload with
    | none => .failed .invalidDeferred
    | some token => .deferred (request.lease token now)

/-! ## The client and the broker -/

inductive Phase
  | fresh
  | entered
  | sent
  | waiting
  | leaving (outcome : Outcome)
  | returned
  deriving DecidableEq

structure Return where
  call : Nat
  outcome : Outcome
  deriving DecidableEq

/-- `waiters`, `done` and `response` are the waiters by the number of their
call; `response` has the payload with the acquisition that it was sent for.
The broker's side is the requests it has got, its answers, and the frames that
it has sent for the acquisitions it queued. -/
structure State where
  phases : Nat → Phase
  gate : Option Nat
  waiters : List Nat
  done : Nat → Bool
  response : Nat → Option (Nat × Bytes)
  requested : List Nat
  answers : Nat → Option Bytes
  pushes : List (Nat × Bytes)
  returns : List Return

def initial : State where
  phases _ := .fresh
  gate := none
  waiters := []
  done _ := false
  response _ := none
  requested := []
  answers _ := none
  pushes := []
  returns := []

/-- `giveUp` ends a call before the gate, `abandon` ends `SendRequestWithWriter`
with an error, and `cancel` the wait for the deferred frame. -/
inductive Event
  | giveUp (call : Nat)
  | enter (call : Nat)
  | send (call : Nat)
  | abandon (call : Nat)
  | answer (call : Nat) (payload : Bytes)
  | respond (call : Nat) (payload : Bytes) (now : Int64)
  | push (call : Nat) (payload : Bytes)
  | receive (call owner : Nat) (payload : Bytes) (now : Int64)
  | cancel (call : Nat)
  | leave (call : Nat) (outcome : Outcome)

def State.queued (state : State) (call : Nat) : Bool :=
  match state.answers call with
  | none => false
  | some payload => isQueued payload

def Enabled (state : State) : Event → Prop
  | .giveUp call => state.phases call = .fresh
  | .enter call => state.phases call = .fresh ∧ state.gate = none
  | .send call => state.phases call = .entered
  | .abandon call => state.phases call = .entered ∨ state.phases call = .sent
  | .answer call _ => call ∈ state.requested ∧ state.answers call = none
  | .respond call payload _ => state.phases call = .sent ∧ state.answers call = some payload
  | .push call _ => state.queued call = true ∧ ∀ pushed ∈ state.pushes, pushed.1 ≠ call
  | .receive call owner payload _ =>
    state.phases call = .waiting ∧ state.response call = some (owner, payload)
  | .cancel call => state.phases call = .waiting
  | .leave call outcome => state.phases call = .leaving outcome

instance (state : State) (event : Event) : Decidable (Enabled state event) := by
  cases event <;> dsimp only [Enabled] <;> infer_instance

def State.setPhase (state : State) (call : Nat) (phase : Phase) : State :=
  { state with phases := Function.update state.phases call phase }

/-- The waiter that the loop of `handleDeferredAcquire` stops at, and the list
that it leaves. -/
def pop (done : Nat → Bool) : List Nat → Option Nat × List Nat
  | [] => (none, [])
  | waiter :: rest =>
    if done waiter then pop done rest else (some waiter, rest)

def State.handleDeferredAcquire (state : State) (owner : Nat) (payload : Bytes) : State :=
  match pop state.done state.waiters with
  | (none, waiters) => { state with waiters }
  | (some waiter, waiters) =>
    { state with
      waiters
      done := Function.update state.done waiter true
      response := Function.update state.response waiter (some (owner, payload)) }

def State.markAcquireWaiterDone (state : State) (waiter : Nat) : State :=
  if waiter ∈ state.waiters then
    { state with
      waiters := state.waiters.erase waiter
      done := Function.update state.done waiter true }
  else state

def State.enter (state : State) (call : Nat) (request : Request) : State :=
  { state.setPhase call .entered with
    gate := some call
    waiters :=
      if request.waitSeconds = 0 then state.waiters
      else state.waiters ++ [call] }

def next (requests : Nat → Request) (state : State) : Event → State
  | .giveUp call => state.setPhase call (.leaving (.failed .cancelled))
  | .enter call => state.enter call (requests call)
  | .send call => { state.setPhase call .sent with requested := state.requested ++ [call] }
  | .abandon call => state.setPhase call (.leaving (.failed .requestFailed))
  | .answer call payload =>
    { state with answers := Function.update state.answers call (some payload) }
  | .respond call payload now =>
    match (requests call).respond payload now with
    | none => state.setPhase call .waiting
    | some outcome => state.setPhase call (.leaving outcome)
  | .push call payload =>
    { state.handleDeferredAcquire call payload with
      pushes := state.pushes ++ [(call, payload)] }
  | .receive call _ payload now =>
    state.setPhase call (.leaving ((requests call).receive payload now))
  | .cancel call => state.setPhase call (.leaving (.failed .cancelled))
  | .leave call outcome =>
    { (state.markAcquireWaiterDone call).setPhase call .returned with
      gate := if state.gate = some call then none else state.gate
      returns := state.returns ++ [{ call, outcome }] }

def step (requests : Nat → Request) : State → Event → Option State :=
  guarded Enabled (next requests)

/-! ## What is claimed -/

/-- The lease is for the route of the call, with a token that the broker granted
for this call. -/
def Granted (requests : Nat → Request) (state : State) (call : Nat) (lease : Lease) : Prop :=
  lease.route = (requests call).route ∧
    ∃ pushed ∈ state.pushes, pushed.1 = call ∧
      ∃ token ∈ grantedToken pushed.2, lease.token = BigEndian.encode 8 token

/-- Every lease of a queued `Acquire` was granted for it, and no waiter has got
the frame of another acquisition. -/
structure GrantsReachTheirOwn (requests : Nat → Request) (state : State) : Prop where
  leases : ∀ ret ∈ state.returns, ∀ lease,
    ret.outcome = .deferred lease → Granted requests state ret.call lease
  frames : ∀ call owner payload, state.response call = some (owner, payload) → owner = call

/-- A deferred frame comes when no other acquisition has its waiter in the
list. -/
def OwnWaiter (state : State) : Event → Prop
  | .push call _ => ∀ waiter ∈ state.waiters, waiter = call
  | .giveUp _ | .enter _ | .send _ | .abandon _ | .answer _ _
  | .respond _ _ _ | .receive _ _ _ _ | .cancel _ | .leave _ _ => True

instance (state : State) (event : Event) : Decidable (OwnWaiter state event) := by
  cases event <;> dsimp only [OwnWaiter] <;> infer_instance

/-! ## Leases and the frames they come from -/

private theorem mem_of_mem_pop {done : Nat → Bool} {waiters : List Nat} {waiter : Nat}
    (popped : waiter ∈ (pop done waiters).1) : waiter ∈ waiters := by
  induction waiters with
  | nil => cases popped
  | cons first rest ih =>
    unfold pop at popped
    split at popped
    · exact List.mem_cons_of_mem _ (ih popped)
    · cases popped
      exact List.mem_cons_self

theorem respond_ne_deferred (request : Request) (payload : Bytes) (now : Int64) (lease : Lease) :
    request.respond payload now ≠ some (.deferred lease) := by
  unfold Request.respond
  intro impossible
  split at impossible
  · split at impossible <;> cases impossible
  · cases impossible
  · split at impossible
    · cases impossible
    · repeat' split at impossible
      all_goals cases impossible

variable {payload : Bytes}

private theorem receive_eq_deferred {request : Request} {now : Int64} {lease : Lease}
    (received : request.receive payload now = .deferred lease) :
    ∃ token ∈ grantedToken payload, lease = request.lease token now := by
  unfold Request.receive at received
  split at received
  · cases received
  · split at received
    · cases received
    · rename_i token granted
      cases received
      exact ⟨token, granted, rfl⟩

section Steps

variable {requests : Nat → Request} {state : State} {call : Nat}

theorem Granted.mono {after : State} {lease : Lease} (granted : Granted requests state call lease)
    (grown : ∀ pushed ∈ state.pushes, pushed ∈ after.pushes) :
    Granted requests after call lease := by
  obtain ⟨route, pushed, listed, rest⟩ := granted
  exact ⟨route, pushed, grown pushed listed, rest⟩

/-- What has been decided and returned is granted, and the frames of the
waiters are their own. -/
structure Inv (requests : Nat → Request) (state : State) : Prop where
  leaving : ∀ call lease, state.phases call = .leaving (.deferred lease) →
    Granted requests state call lease
  leases : ∀ ret ∈ state.returns, ∀ lease,
    ret.outcome = .deferred lease → Granted requests state ret.call lease
  frames : ∀ call owner payload, state.response call = some (owner, payload) →
    owner = call ∧ (owner, payload) ∈ state.pushes

theorem initial_inv (requests : Nat → Request) : Inv requests initial where
  leaving call lease here := by
    cases here
  leases ret listed := by
    cases listed
  frames call owner payload here := by
    cases here

section

variable (inv : Inv requests state)
include inv

theorem setPhase_inv {phase : Phase} (granted : ∀ lease, phase = .leaving (.deferred lease) →
      Granted requests state call lease) : Inv requests (state.setPhase call phase) := by
  refine { inv with leaving := fun other lease here => ?_ }
  by_cases same : other = call
  · subst same
    simp only [State.setPhase, Function.update_self] at here
    exact (granted lease here).mono fun _ listed => listed
  · simp only [State.setPhase, Function.update_of_ne same] at here
    exact (inv.leaving other lease here).mono fun _ listed => listed

theorem respond_inv (call : Nat) (payload : Bytes)
    (now : Int64) : Inv requests (next requests state (.respond call payload now)) := by
  dsimp only [next]
  split
  · apply setPhase_inv inv
    intro lease impossible
    cases impossible
  · rename_i outcome responded
    apply setPhase_inv inv
    intro lease same
    cases same
    exact absurd responded (respond_ne_deferred _ payload now lease)

private theorem receive_inv {owner : Nat}
    {now : Int64} (here : state.response call = some (owner, payload)) :
    Inv requests (next requests state (.receive call owner payload now)) := by
  apply setPhase_inv inv
  intro lease same
  obtain ⟨rfl, pushed⟩ := inv.frames call owner payload here
  have received : (requests owner).receive payload now = .deferred lease := by
    injection same
  obtain ⟨token, granted, rfl⟩ := receive_eq_deferred received
  exact ⟨rfl, (owner, payload), pushed, rfl, token, granted, rfl⟩

private theorem push_inv (met : OwnWaiter state (.push call payload)) :
    Inv requests (next requests state (.push call payload)) := by
  have grown : ∀ pushed ∈ state.pushes, pushed ∈ state.pushes ++ [(call, payload)] :=
    fun pushed listed => List.mem_append_left _ listed
  have old : ∀ other owner given, state.response other = some (owner, given) →
      owner = other ∧ (owner, given) ∈ state.pushes ++ [(call, payload)] := by
    intro other owner given here
    obtain ⟨own, listed⟩ := inv.frames other owner given here
    exact ⟨own, grown _ listed⟩
  have own : ∀ waiter ∈ state.waiters, waiter = call := met
  dsimp only [next, State.handleDeferredAcquire]
  split
  · exact ⟨fun other lease here => (inv.leaving other lease here).mono grown,
      fun ret listed lease here => (inv.leases ret listed lease here).mono grown,
      old⟩
  · rename_i waiter waiters popped
    have taken : waiter ∈ (pop state.done state.waiters).1 := by
      rw [popped]
      rfl
    have same := own waiter (mem_of_mem_pop taken)
    subst same
    refine ⟨fun other lease here => (inv.leaving other lease here).mono grown,
      fun ret listed lease here => (inv.leases ret listed lease here).mono grown,
      fun other owner given here => ?_⟩
    by_cases mine : other = waiter
    · subst mine
      simp only [Function.update_self] at here
      cases here
      exact ⟨rfl, List.mem_append_right _ List.mem_cons_self⟩
    · simp only [Function.update_of_ne mine] at here
      exact old other owner given here

end

@[simp]
theorem markAcquireWaiterDone_pushes (waiter : Nat) :
    (state.markAcquireWaiterDone waiter).pushes = state.pushes := by
  unfold State.markAcquireWaiterDone
  split <;> rfl

private theorem markAcquireWaiterDone_inv (inv : Inv requests state) (waiter : Nat) :
    Inv requests (state.markAcquireWaiterDone waiter) := by
  unfold State.markAcquireWaiterDone
  split
  · exact { inv with }
  · exact inv

private theorem leave_inv (inv : Inv requests state) {outcome : Outcome}
    (here : state.phases call = .leaving outcome) :
    Inv requests (next requests state (.leave call outcome)) := by
  have phase : Inv requests ((state.markAcquireWaiterDone call).setPhase call .returned) := by
    apply setPhase_inv (markAcquireWaiterDone_inv inv call)
    intro lease impossible
    cases impossible
  have kept : ∀ pushed ∈ state.pushes, pushed ∈ (state.markAcquireWaiterDone call).pushes := by
    simp
  refine { phase with leases := fun ret listed lease same => ?_ }
  rcases List.mem_append.mp listed with old | new
  · exact (inv.leases ret old lease same).mono kept
  · rw [List.mem_singleton] at new
    subst new
    have decided : outcome = .deferred lease := same
    subst decided
    exact (inv.leaving call lease here).mono kept

theorem step_inv {after : State} {event : Event} (inv : Inv requests state)
    (met : OwnWaiter state event) (stepped : step requests state event = some after) :
    Inv requests after := by
  obtain ⟨enabled, rfl⟩ := guarded_eq_some_iff.mp stepped
  have failed : ∀ {call : Nat} {failure : Failure}, Inv requests
        (state.setPhase call (.leaving (.failed failure))) := by
    intro call failure
    apply setPhase_inv inv
    intro lease impossible
    cases impossible
  have going : ∀ {call : Nat} {phase : Phase}, (∀ outcome, phase ≠ .leaving outcome) →
      Inv requests (state.setPhase call phase) := by
    intro call phase goes
    apply setPhase_inv inv
    intro lease decided
    exact absurd decided (goes _)
  cases event with
  | enter call => exact { going (by simp) with }
  | send call => exact { going (by simp) with }
  | answer call payload => exact { inv with }
  | respond call payload now => exact respond_inv inv call payload now
  | push call payload => exact push_inv inv met
  | receive call owner payload now => exact receive_inv inv enabled.2
  | leave call outcome => exact leave_inv inv enabled
  | _ => exact failed

end Steps

/-! ## Runs -/

/-- A deferred grant goes to the acquisition that it was granted for. -/
theorem deferred_grants_reach_their_own {requests : Nat → Request} {events : List Event}
    {final : State} (met : Along (step requests) OwnWaiter initial events)
    (ran : run (step requests) initial events = some final) :
    GrantsReachTheirOwn requests final := by
  have inv := invariant_along (Inv requests) step_inv (initial_inv requests) met ran
  refine ⟨inv.leases, fun call owner payload here => ?_⟩
  exact (inv.frames call owner payload here).1

def namedRequests (call : Nat) : Request where
  route := [UInt8.ofNat call]
  ownerID := [1]
  ttlSecs := 30
  waitSeconds := 5

def queuedPayload : Bytes := [0, 2, 0, 0, 0, 0, 0, 0, 0, 0]

def grantPayload (token : UInt8) : Bytes := [0, 0, 0, 0, 0, 0, 0, 0, 0, token]

def untilQueued (call : Nat) : List Event :=
  [.enter call, .send call, .answer call queuedPayload, .respond call queuedPayload 100]

def deferredLease (call : Nat) (token : UInt8) : Outcome :=
  .deferred ((namedRequests call).lease token.toNat 100)

def ownRun : List Event :=
  untilQueued 0 ++ [.cancel 0, .leave 0 (.failed .cancelled), .push 0 (grantPayload 42)] ++
    untilQueued 1 ++
    [.push 1 (grantPayload 43), .receive 1 1 (grantPayload 43) 100, .leave 1 (deferredLease 1 43)]

theorem ownRun_reaches_its_own : ∃ final, run (step namedRequests) initial ownRun = some final ∧
      GrantsReachTheirOwn namedRequests final ∧
      final.returns = [{ call := 0, outcome := .failed .cancelled },
          { call := 1, outcome := deferredLease 1 43 }] := by
  apply exists_kept_and
  · decide +kernel
  · intro final ran
    exact deferred_grants_reach_their_own (by decide +kernel) ran

/-- The frame for the call that gave up comes while the next one waits. -/
def abandonedRun : List Event :=
  untilQueued 0 ++ [.cancel 0, .leave 0 (.failed .cancelled)] ++ untilQueued 1 ++
    [.push 0 (grantPayload 42), .receive 1 0 (grantPayload 42) 100, .leave 1 (deferredLease 1 42)]

/-- The second call returns a lease for its own route with the token that was
granted for the route of the first. -/
theorem abandoned_grant_goes_to_the_next_call :
    ∃ final, run (step namedRequests) initial abandonedRun = some final ∧
      ¬ GrantsReachTheirOwn namedRequests final := by
  have observed : (run (step namedRequests) initial abandonedRun).map
        (fun state => (state.pushes, state.returns)) = some ([(0, grantPayload 42)],
            [{ call := 0, outcome := .failed .cancelled },
              { call := 1, outcome := deferredLease 1 42 }]) := by
    decide +kernel
  obtain ⟨final, ran, seen⟩ := Option.map_eq_some_iff.mp observed
  simp only [Prod.mk.injEq] at seen
  refine ⟨final, ran, fun reach => ?_⟩
  have returned : { call := 1, outcome := deferredLease 1 42 } ∈ final.returns := by
    simp [seen.2]
  obtain ⟨_, pushed, listed, own, _⟩ := reach.leases _ returned ((namedRequests 1).lease 42 100) rfl
  rw [seen.1, List.mem_singleton] at listed
  subst listed
  cases own

end FitzGo.Domains.DeferredAcquire
