import FitzGo.Library.Counting
import FitzGo.Library.StepMachine

/-!
# The pool of async handlers

`LaunchAsyncHandler` puts a job into a bounded queue; workers take jobs from it,
claim them, and run them with a slot of the semaphore. Enqueueing, claiming and
the shutdown, which drains the queue, happen under `asyncHandlerMu`; taking a
job and reading the other flags do not.
-/

namespace FitzGo.Connection.HandlerPool

open StepMachine Counting

structure Config where
  asyncHandlerMaxConcurrency : Int
  asyncHandlerQueueCapacity : Int

/-- `AsyncHandlerMaxConcurrency()`, with the default that `New` applies. -/
def Config.maxConcurrency (config : Config) : Nat :=
  if config.asyncHandlerMaxConcurrency ≤ 0 then 256
  else config.asyncHandlerMaxConcurrency.toNat

def Config.queueCapacity (config : Config) : Nat :=
  if config.asyncHandlerQueueCapacity ≤ 0 then 1024
  else config.asyncHandlerQueueCapacity.toNat

inductive Check
  | closed
  | asyncClosing
  | stateClosed
  | context
  | parent
  | job
  deriving DecidableEq

/-- The checks of `LaunchAsyncHandler`, made before the mutex and under it. -/
def launchChecks : List Check :=
  [.closed, .asyncClosing, .stateClosed, .context, .parent]

def claimChecks : List Check :=
  [.job, .asyncClosing, .closed, .stateClosed, .context]

def slotChecks : List Check :=
  [.job, .context, .asyncClosing, .closed, .stateClosed]

inductive Launch
  | idle
  | checking (left : List Check)
  | created
  | locked (left : List Check)
  | returned (accepted : Bool)
  deriving DecidableEq

def Launch.accepted : Launch → Bool
  | .returned accepted => accepted
  | .idle | .checking _ | .created | .locked _ => false

/-- A worker: at its select, with a job it has received, inside
`claimAsyncHandlerJob`, at the select of `AcquireAsyncHandlerSlot`, with a slot,
about to give the slot back, inside the handler, or gone. -/
inductive Worker
  | waiting
  | received (job : Nat)
  | claiming (job : Nat) (left : List Check)
  | acquiring (job : Nat)
  | slotted (job : Nat) (left : List Check)
  | returning (job : Nat)
  | running (job : Nat)
  | exited
  deriving DecidableEq

namespace Worker

def unsettled : Worker → Option Nat
  | .received job | .claiming job _ | .acquiring job | .slotted job _
  | .returning job => some job
  | .waiting | .running _ | .exited => none

def hasSlot : Worker → Bool
  | .slotted _ _ | .returning _ | .running _ => true
  | .waiting | .received _ | .claiming _ _ | .acquiring _
  | .exited => false

def isRunning : Worker → Bool
  | .running _ => true
  | .waiting | .received _ | .claiming _ _ | .acquiring _ | .slotted _ _
  | .returning _ | .exited => false

end Worker

/-- Who holds `asyncHandlerMu`; the callers of `beginAsyncHandlerShutdown` are
numbered. -/
inductive Holder
  | launch (job : Nat)
  | worker (worker : Nat)
  | shutdown (caller : Nat)
  deriving DecidableEq

structure State where
  closed : Bool
  asyncClosing : Bool
  stateClosed : Bool
  cancelled : Bool
  mutex : Option Holder
  jobs : List Nat
  slots : Nat
  -- slots taken by other callers of `AcquireAsyncHandlerSlot`
  others : Nat
  spawned : Nat
  launches : Nat → Launch
  workers : Nat → Worker
  parentDone : Nat → Bool
  jobDone : Nat → Bool
  takes : Nat → Nat
  runs : Nat → Nat
  cancels : Nat → Nat
  drained : Bool
  acceptedJobs : Nat
  claimedJobs : Nat

def initial : State where
  closed := false
  asyncClosing := false
  stateClosed := false
  cancelled := false
  mutex := none
  jobs := []
  slots := 0
  others := 0
  spawned := 0
  launches _ := .idle
  workers _ := .waiting
  parentDone _ := false
  jobDone _ := false
  takes _ := 0
  runs _ := 0
  cancels _ := 0
  drained := false
  acceptedJobs := 0
  claimedJobs := 0

/-- What can happen. An event that continues a party names what it reads. -/
inductive Event
  | launch (job : Nat)
  | checkLaunch (job : Nat) (check : Check) (left : List Check)
  | ensureWorkers (job : Nat)
  | lockLaunch (job : Nat)
  | recheckLaunch (job : Nat) (check : Check) (left : List Check)
  | enqueue (job : Nat)
  | receive (worker job : Nat) (rest : List Nat)
  | quit (worker : Nat)
  | lockClaim (worker job : Nat)
  | checkClaim (worker job : Nat) (check : Check) (left : List Check)
  | claim (worker job : Nat)
  | takeSlot (worker job : Nat)
  | missSlot (worker job : Nat)
  | checkSlot (worker job : Nat) (check : Check) (left : List Check)
  | returnSlot (worker job : Nat)
  | startHandler (worker job : Nat)
  | finishHandler (worker job : Nat)
  | acquireOther
  | releaseOther
  | beginShutdown (caller : Nat)
  | drain (caller job : Nat) (rest : List Nat)
  | endShutdown (caller : Nat)
  | setClosed
  | setState (closed : Bool)
  | cancel
  | expireParent (job : Nat)
  | expireJob (job : Nat)

namespace State

def running (state : State) : Nat :=
  tally (fun worker : Worker => worker.isRunning = true) state.workers state.spawned

def slotHolders (state : State) : Nat :=
  tally (fun worker : Worker => worker.hasSlot = true) state.workers state.spawned

def flag (state : State) (job : Nat) : Check → Bool
  | .closed => state.closed
  | .asyncClosing => state.asyncClosing
  | .stateClosed => state.stateClosed
  | .context => state.cancelled
  | .parent => state.parentDone job
  | .job => state.jobDone job

def setLaunch (state : State) (job : Nat) (launch : Launch) : State :=
  { state with launches := Function.update state.launches job launch }

def setWorker (state : State) (index : Nat) (worker : Worker) : State :=
  { state with workers := Function.update state.workers index worker }

def refuse (state : State) (job : Nat) : State :=
  { state.setLaunch job (.returned false) with mutex := none }

def accept (state : State) (job : Nat) : State :=
  { state.setLaunch job (.returned true) with
    mutex := none
    jobs := state.jobs ++ [job]
    acceptedJobs := state.acceptedJobs + 1 }

def take (state : State) (job : Nat) (rest : List Nat) : State :=
  { state with
    jobs := rest
    takes := Function.update state.takes job (state.takes job + 1) }

def countRun (state : State) (job : Nat) : State :=
  { state with runs := Function.update state.runs job (state.runs job + 1) }

def countCancel (state : State) (job : Nat) : State :=
  { state with cancels := Function.update state.cancels job (state.cancels job + 1) }

end State

def Enabled (config : Config) (state : State) : Event → Prop
  | .launch job => state.launches job = .idle
  | .checkLaunch job check left => state.launches job = .checking (check :: left)
  | .ensureWorkers job => state.launches job = .checking []
  | .lockLaunch job => state.launches job = .created ∧ state.mutex = none
  | .recheckLaunch job check left => state.launches job = .locked (check :: left)
  | .enqueue job => state.launches job = .locked []
  | .receive worker job rest =>
    worker < state.spawned ∧ state.workers worker = .waiting ∧ state.jobs = job :: rest
  | .quit worker =>
    worker < state.spawned ∧ state.workers worker = .waiting ∧ state.cancelled = true
  | .lockClaim worker job => state.workers worker = .received job ∧ state.mutex = none
  | .checkClaim worker job check left => state.workers worker = .claiming job (check :: left)
  | .claim worker job => state.workers worker = .claiming job []
  | .takeSlot worker job =>
    state.workers worker = .acquiring job ∧ state.slots < config.maxConcurrency
  | .missSlot worker job =>
    state.workers worker = .acquiring job ∧ (state.jobDone job = true ∨ state.cancelled = true)
  | .checkSlot worker job check left => state.workers worker = .slotted job (check :: left)
  | .returnSlot worker job => state.workers worker = .returning job ∧ 0 < state.slots
  | .startHandler worker job => state.workers worker = .slotted job []
  | .finishHandler worker job => state.workers worker = .running job ∧ 0 < state.slots
  | .acquireOther => state.slots < config.maxConcurrency
  | .releaseOther => 0 < state.others ∧ 0 < state.slots
  | .beginShutdown _ => state.mutex = none
  | .drain caller job rest => state.mutex = some (.shutdown caller) ∧ state.jobs = job :: rest
  | .endShutdown caller => state.mutex = some (.shutdown caller) ∧ state.jobs = []
  | .setClosed | .setState _ | .cancel | .expireParent _
  | .expireJob _ => True

instance (config : Config) (state : State) (event : Event) :
    Decidable (Enabled config state event) := by
  cases event <;> dsimp only [Enabled] <;> infer_instance

def next (config : Config) (state : State) : Event → State
  | .launch job => state.setLaunch job (.checking launchChecks)
  | .checkLaunch job check left =>
    if state.flag job check then state.setLaunch job (.returned false)
    else state.setLaunch job (.checking left)
  | .ensureWorkers job =>
    { state.setLaunch job .created with
      -- `asyncWorkersOnce`
      spawned :=
        if state.spawned = 0 then config.maxConcurrency
        else state.spawned }
  | .lockLaunch job =>
    { state.setLaunch job (.locked launchChecks) with
      mutex := some (.launch job) }
  | .recheckLaunch job check left =>
    if state.flag job check then state.refuse job
    else state.setLaunch job (.locked left)
  | .enqueue job =>
    if state.jobs.length < config.queueCapacity then state.accept job
    else state.refuse job
  | .receive worker job rest => (state.setWorker worker (.received job)).take job rest
  | .quit worker => state.setWorker worker .exited
  | .lockClaim worker job =>
    { state.setWorker worker (.claiming job claimChecks) with
      mutex := some (.worker worker) }
  | .checkClaim worker job check left =>
    if state.flag job check then
      { (state.setWorker worker .waiting).countCancel job with
        mutex := none }
    else state.setWorker worker (.claiming job left)
  | .claim worker job =>
    { state.setWorker worker (.acquiring job) with
      mutex := none
      claimedJobs := state.claimedJobs + 1 }
  | .takeSlot worker job =>
    { state.setWorker worker (.slotted job slotChecks) with
      slots := state.slots + 1 }
  | .missSlot worker job => (state.setWorker worker .waiting).countCancel job
  | .checkSlot worker job check left =>
    if state.flag job check then state.setWorker worker (.returning job)
    else state.setWorker worker (.slotted job left)
  | .returnSlot worker job =>
    { (state.setWorker worker .waiting).countCancel job with
      slots := state.slots - 1 }
  | .startHandler worker job => (state.setWorker worker (.running job)).countRun job
  | .finishHandler worker _ => { state.setWorker worker .waiting with slots := state.slots - 1 }
  | .acquireOther =>
    { state with
      slots := state.slots + 1
      others := state.others + 1 }
  | .releaseOther =>
    { state with
      slots := state.slots - 1
      others := state.others - 1 }
  | .beginShutdown caller =>
    { state with
      asyncClosing := true
      mutex := some (.shutdown caller) }
  | .drain _ job rest => (state.take job rest).countCancel job
  | .endShutdown _ => { state with mutex := none, drained := true }
  | .setClosed => { state with closed := true }
  | .setState closed => { state with stateClosed := closed }
  | .cancel => { state with cancelled := true }
  | .expireParent job => { state with parentDone := Function.update state.parentDone job true }
  | .expireJob job => { state with jobDone := Function.update state.jobDone job true }

def step (config : Config) : State → Event → Option State :=
  guarded (Enabled config) (next config)

end FitzGo.Connection.HandlerPool
