import FitzGo.Domains.LeaseTokens

/-!
# Managed leases

`WithLease` acquires a lease, runs the callback in a goroutine and renews the
lease at every tick. The loop ends with the callback, and then the lease is
released, or with a renewal that fails, and then the callback's context is
cancelled and nothing more is sent.
-/

namespace FitzGo.Client.ManagedLease

open StepMachine Histories Domains
open Domains.Handles (Conn LeaseOperation)

/-! ## Errors -/

/-- The sentinels `ErrLeaseLost` and `context.Canceled`, the error of a call of
the lease, any other error, and an error that wraps two. -/
inductive Error
  | leaseLost
  | canceled
  | operation (outcome : LeaseTokens.Outcome)
  | named (number : Nat)
  | join (first second : Error)
  deriving DecidableEq

def Error.is : (error target : Error) → Bool
  | .join first second, target => first.is target || second.is target
  | error, target => decide (error = target)

/-- `errors.Join`, which leaves out what is `nil`. -/
def joinErrors : List (Option Error) → Option Error
  | [] => none
  | none :: rest => joinErrors rest
  | some error :: rest =>
    match joinErrors rest with
    | none => some error
    | some others => some (.join error others)

structure CallbackOutcome where
  err : Option Error
  panicVal : Option Nat
  deriving DecidableEq

structure ManagedLeaseOutcome where
  callbackErr : Option Error
  callbackPanic : Option Nat
  leaseLoss : Option Error
  deriving DecidableEq

/-! ## The supervisor -/

/-- What the supervisor calls the lease for. `watching` says that `parentDone`
is still the channel of the parent context. -/
inductive Purpose
  | renewal (watching : Bool)
  | release (outcome : ManagedLeaseOutcome)
  deriving DecidableEq

/-- Where `WithLease` is. An `operating` call of the lease has not taken its
mutex while the phase is `none`; a `lost` renewal has failed, and `signalled`
is after the callback's context has been cancelled for it. -/
inductive Pc
  | selecting (watching : Bool)
  | operating (call : LeaseTokens.Call) (phase : Option LeaseTokens.Phase) (purpose : Purpose)
  | operated (result : LeaseTokens.Outcome) (purpose : Purpose)
  | lost (loss : Error)
  | signalled (loss : Error)
  | finalizing (outcome : ManagedLeaseOutcome)
  | returned (error : Option Error)
  | panicked (value : Nat)
  deriving DecidableEq

def Pc.isOver : Pc → Bool
  | .returned _ | .panicked _ => true
  | .selecting _ | .operating _ _ _ | .operated _ _ | .lost _ | .signalled _
  | .finalizing _ => false

def Pc.isSupervising : Pc → Bool
  | .selecting _ | .operating _ _ (.renewal _) | .operated _ (.renewal _)
  | .lost _ | .signalled _ => true
  | .operating _ _ (.release _) | .operated _ (.release _) | .finalizing _
  | .returned _ | .panicked _ => false

/-- The goroutine of the callback: `ended` has not sent its outcome. -/
inductive Callback
  | running
  | ended (outcome : CallbackOutcome)
  | delivered
  deriving DecidableEq

inductive Item
  | callbackEnded (panicVal : Option Nat)
  | parentCancelled
  | contextCancelled (cause : Error)
  | sent (operation : LeaseOperation)
  | renewalFailed
  deriving DecidableEq

/-- `token` is the copy in the public handle, `authority` the value in the
callback's context, `callbackResult` the buffered channel, `parent` and `cause`
the causes with which the two contexts were cancelled, and `fired` the timer's
channel. -/
structure State where
  lease : LeaseTokens.State
  token : Bytes
  authority : Nat
  callback : Callback
  callbackResult : Option CallbackOutcome
  parent : Option Error
  cause : Option Error
  fired : Bool
  pc : Pc
  history : List Item

def admissionAuthority (token : Bytes) : Nat :=
  BigEndian.decode (token.take 8)

def initial (acquired : UInt64) (expiresAt : Int64) : State where
  lease := LeaseTokens.initial acquired expiresAt
  token := (LeaseTokens.initial acquired expiresAt).token
  authority := admissionAuthority (LeaseTokens.initial acquired expiresAt).token
  callback := .running
  callbackResult := none
  parent := none
  cause := none
  fired := false
  pc := .selecting true
  history := []

/-- The `take` events are the cases of the select; `collect` is the select with
a default after a failed renewal. -/
inductive Event
  | callbackReturns (err : Option Error)
  | callbackPanics (value : Nat)
  | deliver (outcome : CallbackOutcome)
  | cancelParent (cause : Error)
  | propagate (cause : Error)
  | fire
  | takeResult (outcome : CallbackOutcome) (watching : Bool)
  | takeParent (cause : Error)
  | takeTick (watching : Bool)
  | lock (call : LeaseTokens.Call) (conn : Conn) (purpose : Purpose)
  | send (call : LeaseTokens.Call) (purpose : Purpose)
  | fail (call : LeaseTokens.Call) (phase : LeaseTokens.Phase) (purpose : Purpose)
  | reply (call : LeaseTokens.Call) (payload : Bytes) (now : Int64) (purpose : Purpose)
  | finishRenewal (result : LeaseTokens.Outcome) (watching : Bool)
  | signal (loss : Error)
  | collect (loss : Error)
  | finalize (outcome : ManagedLeaseOutcome)
  | finishRelease (result : LeaseTokens.Outcome) (outcome : ManagedLeaseOutcome)

def Enabled (state : State) : Event → Prop
  | .callbackReturns _ | .callbackPanics _ => state.callback = .running
  | .deliver outcome => state.callback = .ended outcome
  | .cancelParent _ => state.parent = none
  | .propagate cause => state.parent = some cause
  | .fire => state.fired = false
  | .takeResult outcome watching =>
    state.pc = .selecting watching ∧ state.callbackResult = some outcome
  | .takeParent cause => state.pc = .selecting true ∧ state.parent = some cause
  | .takeTick watching => state.pc = .selecting watching ∧ state.fired = true
  | .lock call conn purpose =>
    state.pc = .operating call none purpose ∧ LeaseTokens.Enabled state.lease (.lock call conn)
  | .send call purpose =>
    state.pc = .operating call (some .checked) purpose ∧
      LeaseTokens.Enabled state.lease (.send call)
  | .fail call phase purpose =>
    state.pc = .operating call (some phase) purpose ∧
      LeaseTokens.Enabled state.lease (.fail call phase)
  | .reply call payload now purpose =>
    state.pc = .operating call (some .awaiting) purpose ∧
      LeaseTokens.Enabled state.lease (.reply call payload now)
  | .finishRenewal result watching => state.pc = .operated result (.renewal watching)
  | .signal loss => state.pc = .lost loss
  | .collect loss => state.pc = .signalled loss
  | .finalize outcome => state.pc = .finalizing outcome
  | .finishRelease result outcome => state.pc = .operated result (.release outcome)

instance (state : State) (event : Event) : Decidable (Enabled state event) := by
  cases event <;> dsimp only [Enabled] <;> infer_instance

/-- Only the first cancellation of a context gives its cause. -/
def State.cancelCallback (state : State) (cause : Error) : State :=
  match state.cause with
  | some _ => state
  | none =>
    { state with
      cause := some cause
      history := state.history ++ [.contextCancelled cause] }

def State.endCallback (state : State) (outcome : CallbackOutcome) : State :=
  { state with
    callback := .ended outcome
    history := state.history ++ [.callbackEnded outcome.panicVal] }

/-- A call of the lease starts: it reads the token. -/
def State.operate (state : State) (operation : LeaseOperation)
    (ttlSecs : UInt64) (purpose : Purpose) : State :=
  { state with
    lease := LeaseTokens.next state.lease (.start operation ttlSecs none)
    pc := .operating (state.lease.nextCall operation ttlSecs none) none purpose }

def lockedPc (lease : LeaseTokens.State) (call : LeaseTokens.Call)
    (conn : Conn) (purpose : Purpose) : Pc :=
  match (call.operation.attempt conn { closed := lease.closed, busy := false }).1 with
  | .failed failure => .operated (.failed failure) purpose
  | .finished | .sent _ => .operating call (some .checked) purpose

def State.finishRenewal (state : State) (result : LeaseTokens.Outcome) (watching : Bool) : State :=
  if result.succeeded then
    { state with
      token := state.lease.token
      fired := false
      pc := .selecting watching }
  else
    { state with
      pc := .lost (.join .leaseLost (.operation result))
      history := state.history ++ [.renewalFailed] }

/-- `finalizeManagedLease` after a renewal that failed. -/
def concludeLoss (loss : Error) (outcome : ManagedLeaseOutcome) : Pc :=
  match outcome.callbackPanic, outcome.callbackErr with
  | some value, _ => .panicked value
  | none, some err =>
    if err.is .canceled then .returned (some loss)
    else .returned (joinErrors [some loss, some err])
  | none, none => .returned (some loss)

def concludeRelease (parent : Option Error) (outcome : ManagedLeaseOutcome)
    (releaseErr : Option Error) : Pc :=
  match outcome.callbackPanic with
  | some value => .panicked value
  | none =>
    match parent with
    | some cause => .returned (joinErrors [some cause, outcome.callbackErr, releaseErr])
    | none => .returned (joinErrors [outcome.callbackErr, releaseErr])

def releaseError (result : LeaseTokens.Outcome) : Option Error :=
  if result.succeeded then none else some (.operation result)

def next (ttlSecs : UInt64) (state : State) : Event → State
  | .callbackReturns err => state.endCallback { err, panicVal := none }
  | .callbackPanics value => state.endCallback { err := none, panicVal := some value }
  | .deliver outcome => { state with callback := .delivered, callbackResult := some outcome }
  | .cancelParent cause =>
    { state with
      parent := some cause
      history := state.history ++ [.parentCancelled] }
  | .propagate cause => state.cancelCallback cause
  | .fire => { state with fired := true }
  | .takeResult outcome _ =>
    -- the deferred `cancelCallback(nil)`
    { state.cancelCallback .canceled with
      callbackResult := none
      pc := .finalizing
        { callbackErr := outcome.err
          callbackPanic := outcome.panicVal
          leaseLoss := none } }
  | .takeParent cause => { state.cancelCallback cause with pc := .selecting false }
  | .takeTick watching => { state with fired := false }.operate .extend ttlSecs (.renewal watching)
  | .lock call conn purpose =>
    { state with
      lease := LeaseTokens.next state.lease (.lock call conn)
      pc := lockedPc state.lease call conn purpose }
  | .send call purpose =>
    { state with
      lease := LeaseTokens.next state.lease (.send call)
      pc := .operating call (some .awaiting) purpose
      history := state.history ++ [.sent call.operation] }
  | .fail call phase purpose =>
    { state with
      lease := LeaseTokens.next state.lease (.fail call phase)
      pc := .operated .requestFailed purpose }
  | .reply call payload now purpose =>
    { state with
      lease := LeaseTokens.next state.lease (.reply call payload now)
      pc := .operated (call.answer payload now) purpose }
  | .finishRenewal result watching => state.finishRenewal result watching
  | .signal loss => { state.cancelCallback loss with pc := .signalled loss }
  | .collect loss =>
    { state with
      callbackResult := none
      pc := .finalizing
        { callbackErr := state.callbackResult.bind fun outcome => outcome.err
          callbackPanic := state.callbackResult.bind fun outcome => outcome.panicVal
          leaseLoss := some loss } }
  | .finalize outcome =>
    match outcome.leaseLoss with
    | some loss => { state with pc := concludeLoss loss outcome }
    | none => state.operate .release 0 (.release outcome)
  | .finishRelease result outcome =>
    { state with pc := concludeRelease state.parent outcome (releaseError result) }

def step (ttlSecs : UInt64) : State → Event → Option State :=
  guarded Enabled (next ttlSecs)

/-! ## What is claimed -/

/-- A RELEASE is the first one, after the callback and not after a failed
renewal; a RENEW is not after a failed renewal. -/
def Lawful (before : List Item) : Item → Prop
  | .sent .release =>
    (∃ panicVal, .callbackEnded panicVal ∈ before) ∧
      .renewalFailed ∉ before ∧ .sent .release ∉ before
  | .sent .extend => .renewalFailed ∉ before
  | .callbackEnded _ | .parentCancelled | .contextCancelled _
  | .renewalFailed => True

/-- The callback's context was cancelled, with a cause that matches
`ErrLeaseLost` or after the parent. -/
def Told (history : List Item) : Prop :=
  Occurs
    (fun before item =>
      ∃ cause, item = .contextCancelled cause ∧
        (cause.is .leaseLost = true ∨ .parentCancelled ∈ before))
    history

/-- `WithLease` comes to its end in so many steps, whatever else happens. -/
def Finishes (ttlSecs : UInt64) (steps : Nat) (state : State) : Prop :=
  ∃ events after, events.length = steps ∧
    run (step ttlSecs) state events = some after ∧ after.pc.isOver = true

structure Supervised (acquired ttlSecs : UInt64) (state : State) : Prop where
  requests : Throughout Lawful state.history
  finishes : .renewalFailed ∈ state.history → ∃ steps ≤ 3, Finishes ttlSecs steps state
  told : .renewalFailed ∈ state.history → state.pc.isOver = true → Told state.history
  returned : .renewalFailed ∈ state.history → ∀ error, state.pc = .returned error →
    ∃ loss, error = some loss ∧ loss.is .leaseLost = true
  panicked : .renewalFailed ∈ state.history → ∀ value,
    state.pc = .panicked value → .callbackEnded (some value) ∈ state.history
  authority : state.authority = acquired.toNat

end FitzGo.Client.ManagedLease
