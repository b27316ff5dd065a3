import FitzGo.Connection.HandlerPoolInvariant

/-!
# No handler job is lost or run twice

Nobody gets stuck with a job either: a worker that holds one can go on unless it
waits for the mutex, whose holder can go on, or for a slot.
-/

namespace FitzGo.Connection.HandlerPool

open StepMachine Counting

/-! ## What is claimed -/

/-- The worker waits for the mutex, or for a slot while no context has ended. -/
def Blocked (config : Config) (state : State) (worker : Nat) : Prop :=
  match state.workers worker with
  | .received _ => state.mutex ≠ none
  | .acquiring job =>
    config.maxConcurrency ≤ state.slots ∧ state.jobDone job = false ∧ state.cancelled = false
  | .waiting | .claiming _ _ | .slotted _ _ | .returning _ | .running _
  | .exited => False

/-- The worker whose step it is. -/
def Event.worker? : Event → Option Nat
  | .receive worker _ _ | .quit worker | .lockClaim worker _
  | .checkClaim worker _ _ _ | .claim worker _ | .takeSlot worker _
  | .missSlot worker _ | .checkSlot worker _ _ _ | .returnSlot worker _
  | .startHandler worker _ | .finishHandler worker _ => some worker
  | _ => none

/-- The holder of the mutex whose step it is. -/
def Event.holder? : Event → Option Holder
  | .recheckLaunch job _ _ | .enqueue job => some (.launch job)
  | .checkClaim worker _ _ _ | .claim worker _ => some (.worker worker)
  | .drain caller _ _ | .endShutdown caller => some (.shutdown caller)
  | _ => none

/-- What is claimed of the pool. -/
structure Sound (config : Config) (state : State) : Prop where
  taken : ∀ job, (state.launches job).accepted = true → state.jobs.count job + state.takes job = 1
  settled : ∀ job, (state.launches job).accepted = true → state.takes job = 1 →
    state.runs job + state.cancels job = 1 ∨ state.runs job + state.cancels job = 0 ∧
    ∃ worker, ∀ other, (state.workers other).unsettled = some job ↔ other = worker
  untaken : ∀ job, state.takes job = 0 → state.runs job = 0 ∧ state.cancels job = 0
  refused : ∀ job, (state.launches job).accepted = false → state.takes job = 0 ∧ job ∉ state.jobs
  concurrency : state.running ≤ config.maxConcurrency
  closing : state.asyncClosing = true → ∀ event after,
    step config state event = some after → after.asyncClosing = true ∧
    after.acceptedJobs = state.acceptedJobs ∧ after.claimedJobs = state.claimedJobs
  drained : state.drained = true → state.jobs = []
  workerMoves : ∀ worker job, (state.workers worker).unsettled = some job →
    Blocked config state worker ∨ ∃ event after, event.worker? = some worker ∧
    step config state event = some after
  holderMoves : ∀ holder, state.mutex = some holder → ∃ event after,
    event.holder? = some holder ∧ step config state event = some after

/-! ## Every step keeps the invariant -/

section Events

variable {config : Config} {state : State} {job index : Nat} {check : Check} {left : List Check}

section

variable (inv : Inv config state)
include inv

theorem Inv.setLaunch {before launch : Launch}
    (here : state.launches job = before)
    (outside : before.accepted = false ∧ ∀ left, before ≠ .locked left)
    (now : launch.accepted = false ∧ ∀ left, launch ≠ .locked left) :
    Inv config (state.setLaunch job launch) where
  placed := inv.placed.setLaunch (by rw [here, outside.1, now.1])
  locked := by
    refine inv.locked.setLaunch ?_ now.2
    rw [here]
    exact outside.2
  slotted := { inv.slotted with }

theorem Inv.refuse (here : state.launches job = .locked left) :
    Inv config (state.refuse job) where
  placed := by
    have moved : Placed (state.setLaunch job (.returned false)) :=
      inv.placed.setLaunch (by rw [here]; rfl)
    exact moved.frame fun _ _ placed => { placed with }
  locked := by
    refine inv.locked.unlockLaunch here ?_ (fun drained => ?_) _
    · exact nofun
    · exact (inv.locked.drained drained).2
  slotted := { inv.slotted with }

theorem Inv.accept (here : state.launches job = .locked []) :
    Inv config (state.accept job) where
  placed := inv.placed.accept (by rw [here]; rfl)
  locked := by
    refine inv.locked.unlockLaunch here ?_ (fun drained => ?_) _
    · exact nofun
    · -- the call has read `asyncClosing` as false under the mutex
      have opened := (inv.locked.launch job [] here).2.resolve_left List.not_mem_nil
      exact absurd (opened.symm.trans (inv.locked.drained drained).1) Bool.false_ne_true
  slotted := { inv.slotted with }

theorem Inv.receive {rest : List Nat} (known : index < state.spawned)
    (here : state.workers index = .waiting) (head : state.jobs = job :: rest) :
    Inv config ((state.setWorker index (.received job)).take job rest) where
  placed := inv.placed.receive here head
  locked := by
    have moved : Locked (state.setWorker index (.received job)) :=
      inv.locked.setWorker (by rw [here]; exact nofun) nofun
    exact moved.take head
  slotted :=
    { inv.slotted.setWorker known (show Worker.hasSlot (.received job) = _ by rw [here]; rfl) with }

theorem Inv.setWorker {before : Worker}
    (here : state.workers index = before) (known : index < state.spawned) (worker : Worker)
    (slots : Nat) (outside : ∀ job left, before ≠ .claiming job left)
    (now : ∀ job left, worker ≠ .claiming job left) (same : worker.unsettled = before.unsettled)
    (balance : slots + before.hasSlot.toNat = state.slots + worker.hasSlot.toNat)
    (bound : slots ≤ config.maxConcurrency) :
    Inv config { state.setWorker index worker with slots } where
  placed := by
    have moved : Placed (state.setWorker index worker) := inv.placed.setWorker (by rw [here, same])
    exact moved.frame fun _ _ placed => { placed with }
  locked := by
    have moved : Locked (state.setWorker index worker) :=
      inv.locked.setWorker (by rw [here]; exact outside) now
    exact { moved with }
  slotted := inv.slotted.move known (by rw [here]; exact balance) bound

theorem Inv.claims (here : state.workers index = .claiming job left) :
    index < state.spawned ∧ (state.workers index).unsettled = some job ∧
      (state.workers index).hasSlot = false := by
  refine ⟨inv.slotted.spawned_of_busy here nofun, ?_, ?_⟩
  · rw [here]
    rfl
  · rw [here]
    rfl

theorem Inv.lockClaim (here : state.workers index = .received job)
    (free : state.mutex = none) :
    Inv config { state.setWorker index (.claiming job claimChecks) with
        mutex := some (.worker index) } where
  placed := by
    have moved : Placed (state.setWorker index (.claiming job claimChecks)) :=
      inv.placed.setWorker (by rw [here]; rfl)
    exact moved.frame fun _ _ placed => { placed with }
  locked := inv.locked.lockClaim free
  slotted := by
    have moved : Slotted config (state.setWorker index (.claiming job claimChecks)) :=
      inv.slotted.setWorker (inv.slotted.spawned_of_busy here nofun) (by rw [here]; rfl)
    exact { moved with }

theorem Inv.checkClaim (here : state.workers index = .claiming job (check :: left))
    (passed : state.flag job check = false) :
    Inv config (state.setWorker index (.claiming job left)) := by
  obtain ⟨known, holding, slotless⟩ := inv.claims here
  exact ⟨inv.placed.setWorker holding.symm, inv.locked.checkClaim here passed,
      inv.slotted.setWorker known slotless.symm⟩

theorem Inv.failClaim (here : state.workers index = .claiming job left) :
    Inv config { (state.setWorker index .waiting).countCancel job with
        mutex := none } := by
  obtain ⟨known, holding, slotless⟩ := inv.claims here
  have placed := inv.placed.cancel holding
  have locked : Locked { state.setWorker index .waiting with mutex := none } :=
    inv.locked.unlockClaim here nofun
  have slotted : Slotted config (state.setWorker index .waiting) :=
    inv.slotted.setWorker known slotless.symm
  exact ⟨placed.frame fun _ _ there => { there with }, { locked with }, { slotted with }⟩

theorem Inv.claim (here : state.workers index = .claiming job left) :
    Inv config { state.setWorker index (.acquiring job) with
        mutex := none
        claimedJobs := state.claimedJobs + 1 } := by
  obtain ⟨known, holding, slotless⟩ := inv.claims here
  have placed : Placed (state.setWorker index (.acquiring job)) := inv.placed.setWorker holding.symm
  have locked : Locked { state.setWorker index (.acquiring job) with mutex := none } :=
    inv.locked.unlockClaim here nofun
  have slotted : Slotted config (state.setWorker index (.acquiring job)) :=
    inv.slotted.setWorker known slotless.symm
  exact ⟨placed.frame fun _ _ there => { there with }, { locked with }, { slotted with }⟩

theorem Inv.cancel {before : Worker} (here : state.workers index = before)
    (holding : before.unsettled = some job) (outside : ∀ job left, before ≠ .claiming job left)
    {slots : Nat} (balance : slots + before.hasSlot.toNat = state.slots) :
    Inv config { (state.setWorker index .waiting).countCancel job with slots } := by
  have busy : before ≠ .waiting := by
    rintro rfl
    exact nomatch holding
  have known := inv.slotted.spawned_of_busy here busy
  have placed := inv.placed.cancel (here.symm ▸ holding)
  have locked : Locked (state.setWorker index .waiting) :=
    inv.locked.setWorker (by rw [here]; exact outside) nofun
  have bound := inv.slotted.bound
  have slotted : Slotted config { state.setWorker index .waiting with slots } :=
    inv.slotted.move known (by rw [here]; exact balance) (by omega)
  exact ⟨placed.frame fun _ _ there => { there with }, { locked with }, { slotted with }⟩

theorem Inv.start (here : state.workers index = .slotted job left) :
    Inv config ((state.setWorker index (.running job)).countRun job) := by
  have known := inv.slotted.spawned_of_busy here nofun
  have holding : (state.workers index).unsettled = some job := by
    rw [here]
    rfl
  have locked : Locked (state.setWorker index (.running job)) :=
    inv.locked.setWorker (by rw [here]; exact nofun) nofun
  have slotted : Slotted config (state.setWorker index (.running job)) :=
    inv.slotted.setWorker known (by rw [here]; rfl)
  exact ⟨inv.placed.start holding, { locked with }, { slotted with }⟩

end

variable (inv : Inv config state)
include inv

theorem Inv.drain {rest : List Nat} (head : state.jobs = job :: rest) :
    Inv config ((state.take job rest).countCancel job) := by
  have locked := inv.locked.take head
  exact ⟨inv.placed.drain head, { locked with }, { inv.slotted with }⟩

theorem Inv.withFlags (closed stateClosed cancelled : Bool) (parentDone jobDone : Nat → Bool) :
    Inv config { state with closed, stateClosed, cancelled, parentDone, jobDone } :=
  ⟨inv.placed.frame fun _ _ there => { there with }, { inv.locked with }, { inv.slotted with }⟩

theorem Inv.lockLaunch (here : state.launches job = .created) (free : state.mutex = none) :
    Inv config { state.setLaunch job (.locked launchChecks) with
        mutex := some (.launch job) } := by
  have placed : Placed (state.setLaunch job (.locked launchChecks)) :=
    inv.placed.setLaunch (by rw [here]; rfl)
  exact ⟨placed.frame fun _ _ there => { there with },
      inv.locked.lockLaunch free, { inv.slotted with }⟩

end Events

theorem step_inv {config : Config} {state after : State} {event : Event} (inv : Inv config state)
    (stepped : step config state event = some after) : Inv config after := by
  obtain ⟨enabled, rfl⟩ := guarded_eq_some_iff.mp stepped
  cases event with
  | launch job => exact inv.setLaunch enabled ⟨rfl, nofun⟩ ⟨rfl, nofun⟩
  | checkLaunch job check left =>
    dsimp only [next]
    split
    · exact inv.setLaunch enabled ⟨rfl, nofun⟩ ⟨rfl, nofun⟩
    · exact inv.setLaunch enabled ⟨rfl, nofun⟩ ⟨rfl, nofun⟩
  | ensureWorkers job =>
    have moved : Inv config (state.setLaunch job .created) :=
      inv.setLaunch enabled ⟨rfl, nofun⟩ ⟨rfl, nofun⟩
    exact ⟨moved.placed.frame fun _ _ there => { there with },
        { moved.locked with }, moved.slotted.spawn⟩
  | lockLaunch job => exact inv.lockLaunch enabled.1 enabled.2
  | recheckLaunch job check left =>
    have here : state.launches job = .locked (check :: left) := enabled
    dsimp only [next]
    split
    · exact inv.refuse here
    · rename_i passed
      exact ⟨inv.placed.setLaunch (by rw [here]; rfl),
          inv.locked.recheckLaunch here (Bool.eq_false_iff.mpr passed),
          { inv.slotted with }⟩
  | enqueue job =>
    dsimp only [next]
    split
    · exact inv.accept enabled
    · exact inv.refuse enabled
  | receive worker job rest => exact inv.receive enabled.1 enabled.2.1 enabled.2.2
  | quit worker =>
    exact
      inv.setWorker enabled.2.1 enabled.1 .exited state.slots nofun nofun rfl rfl inv.slotted.bound
  | lockClaim worker job => exact inv.lockClaim enabled.1 enabled.2
  | checkClaim worker job check left =>
    dsimp only [next]
    split
    · exact inv.failClaim enabled
    · rename_i passed
      exact inv.checkClaim enabled (Bool.eq_false_iff.mpr passed)
  | claim worker job => exact inv.claim enabled
  | takeSlot worker job =>
    obtain ⟨here, free⟩ := enabled
    exact inv.setWorker here (inv.slotted.spawned_of_busy here nofun)
        (.slotted job slotChecks) (state.slots + 1) nofun nofun rfl rfl free
  | missSlot worker job =>
    have missed := inv.cancel enabled.1 rfl nofun (Nat.add_zero _)
    exact missed
  | checkSlot worker job check left =>
    have here : state.workers worker = .slotted job (check :: left) := enabled
    have known := inv.slotted.spawned_of_busy here nofun
    dsimp only [next]
    split
    · exact
        inv.setWorker here known (.returning job) state.slots nofun nofun rfl rfl inv.slotted.bound
    · exact inv.setWorker here known (.slotted job left) state.slots nofun
          nofun rfl rfl inv.slotted.bound
  | returnSlot worker job =>
    obtain ⟨here, token⟩ := enabled
    exact inv.cancel here rfl nofun (Nat.sub_add_cancel token)
  | startHandler worker job => exact inv.start enabled
  | finishHandler worker job =>
    obtain ⟨here, token⟩ := enabled
    have bound := inv.slotted.bound
    exact inv.setWorker here (inv.slotted.spawned_of_busy here nofun)
        .waiting (state.slots - 1) nofun nofun rfl
        (Nat.sub_add_cancel token) ((Nat.sub_le _ _).trans bound)
  | acquireOther =>
    have free : state.slots < config.maxConcurrency := enabled
    have counted := inv.slotted.counted
    refine ⟨inv.placed.frame fun _ _ there => { there with },
        { inv.locked with },
        { inv.slotted with counted := ?_, bound := free }⟩
    change state.slots + 1 = state.slotHolders + (state.others + 1)
    omega
  | releaseOther =>
    obtain ⟨held, token⟩ := enabled
    have counted := inv.slotted.counted
    have bound := inv.slotted.bound
    refine ⟨inv.placed.frame fun _ _ there => { there with },
        { inv.locked with },
        { inv.slotted with
          counted := ?_
          bound := (Nat.sub_le _ _).trans bound }⟩
    change state.slots - 1 = state.slotHolders + (state.others - 1)
    omega
  | beginShutdown caller =>
    exact ⟨inv.placed.frame fun _ _ there => { there with },
        inv.locked.beginShutdown enabled caller, { inv.slotted with }⟩
  | drain caller job rest => exact inv.drain enabled.2
  | endShutdown caller =>
    exact ⟨inv.placed.frame fun _ _ there => { there with },
        inv.locked.endShutdown enabled.1 enabled.2, { inv.slotted with }⟩
  | setClosed => exact inv.withFlags _ state.stateClosed state.cancelled _ _
  | setState closed => exact inv.withFlags state.closed _ state.cancelled _ _
  | cancel => exact inv.withFlags state.closed state.stateClosed _ _ _
  | expireParent job =>
    exact inv.withFlags state.closed state.stateClosed state.cancelled _ state.jobDone
  | expireJob job =>
    exact inv.withFlags state.closed state.stateClosed state.cancelled state.parentDone _

/-! ## The theorem -/

section Claims

variable {config : Config} {state after : State} {event : Event}

private theorem counts_next (closing : state.asyncClosing = true)
    (notAccepted : ∀ job, event ≠ .enqueue job)
    (notClaimed : ∀ worker job, event ≠ .claim worker job) :
    (next config state event).asyncClosing = true ∧
      (next config state event).acceptedJobs = state.acceptedJobs ∧
      (next config state event).claimedJobs = state.claimedJobs := by
  cases event with
  | enqueue job => exact absurd rfl (notAccepted job)
  | claim worker job => exact absurd rfl (notClaimed worker job)
  | beginShutdown => exact ⟨rfl, rfl, rfl⟩
  | checkLaunch | recheckLaunch | checkClaim | checkSlot =>
    dsimp only [next]
    split <;> exact ⟨closing, rfl, rfl⟩
  | launch | ensureWorkers | lockLaunch | receive | quit | lockClaim
  | takeSlot | missSlot | returnSlot | startHandler | finishHandler
  | acquireOther | releaseOther | drain | endShutdown
  | setClosed | setState | cancel | expireParent | expireJob => exact ⟨closing, rfl, rfl⟩

theorem Inv.closing (inv : Inv config state) (closing : state.asyncClosing = true)
    (stepped : step config state event = some after) :
    after.asyncClosing = true ∧ after.acceptedJobs = state.acceptedJobs ∧
      after.claimedJobs = state.claimedJobs := by
  obtain ⟨enabled, rfl⟩ := guarded_eq_some_iff.mp stepped
  refine counts_next closing ?_ ?_
  · rintro job rfl
    have opened := (inv.locked.launch job [] enabled).2.resolve_left List.not_mem_nil
    exact Bool.false_ne_true (opened.symm.trans closing)
  · rintro worker job rfl
    have opened := (inv.locked.claim worker job [] enabled).2.resolve_left List.not_mem_nil
    exact Bool.false_ne_true (opened.symm.trans closing)

theorem step_of_enabled (enabled : Enabled config state event) :
    step config state event = some (next config state event) :=
  guarded_eq_some_iff.mpr ⟨enabled, rfl⟩

variable (inv : Inv config state)
include inv

/-- A worker with a job can go on unless it is blocked. -/
theorem Inv.workerMoves {worker job : Nat} (holding : (state.workers worker).unsettled = some job) :
    Blocked config state worker ∨ ∃ event after, event.worker? = some worker ∧
      step config state event = some after := by
  unfold Blocked
  cases here : state.workers worker with
  | waiting | running | exited =>
    rw [here] at holding
    exact nomatch holding
  | received job =>
    by_cases free : state.mutex = none
    · exact .inr ⟨.lockClaim worker job, _, rfl, step_of_enabled ⟨here, free⟩⟩
    · exact .inl free
  | claiming job left =>
    right
    cases left with
    | nil => exact ⟨.claim worker job, _, rfl, step_of_enabled here⟩
    | cons check left => exact ⟨.checkClaim worker job check left, _, rfl, step_of_enabled here⟩
  | acquiring job =>
    by_cases free : state.slots < config.maxConcurrency
    · exact .inr ⟨.takeSlot worker job, _, rfl, step_of_enabled ⟨here, free⟩⟩
    · by_cases ended : state.jobDone job = true ∨ state.cancelled = true
      · exact .inr ⟨.missSlot worker job, _, rfl, step_of_enabled ⟨here, ended⟩⟩
      · obtain ⟨live, connected⟩ := not_or.mp ended
        exact .inl ⟨Nat.not_lt.mp free, Bool.eq_false_iff.mpr live, Bool.eq_false_iff.mpr connected⟩
  | slotted job left =>
    right
    cases left with
    | nil => exact ⟨.startHandler worker job, _, rfl, step_of_enabled here⟩
    | cons check left => exact ⟨.checkSlot worker job check left, _, rfl, step_of_enabled here⟩
  | returning job =>
    exact .inr ⟨.returnSlot worker job, _, rfl, step_of_enabled ⟨here, inv.slotted.pos here rfl⟩⟩

theorem Inv.holderMoves {holder : Holder} (holds : state.mutex = some holder) :
    ∃ event after, event.holder? = some holder ∧ step config state event = some after := by
  cases holder with
  | launch job =>
    obtain ⟨left, here⟩ := inv.locked.launchHolds job holds
    cases left with
    | nil => exact ⟨.enqueue job, _, rfl, step_of_enabled here⟩
    | cons check left => exact ⟨.recheckLaunch job check left, _, rfl, step_of_enabled here⟩
  | worker worker =>
    obtain ⟨job, left, here⟩ := inv.locked.workerHolds worker holds
    cases left with
    | nil => exact ⟨.claim worker job, _, rfl, step_of_enabled here⟩
    | cons check left => exact ⟨.checkClaim worker job check left, _, rfl, step_of_enabled here⟩
  | shutdown caller =>
    cases jobs : state.jobs with
    | nil => exact ⟨.endShutdown caller, _, rfl, step_of_enabled ⟨holds, jobs⟩⟩
    | cons job rest => exact ⟨.drain caller job rest, _, rfl, step_of_enabled ⟨holds, jobs⟩⟩

theorem Inv.sound : Sound config state where
  taken job accepted := by
    obtain ⟨place, here⟩ := inv.placed job
    rw [here.inQueue, here.takes]
    cases place with
    | outside => exact absurd rfl (here.accepted.mp accepted)
    | queued | held | ran | cancelled => rfl
  settled job _ taken := by
    obtain ⟨place, here⟩ := inv.placed job
    rw [here.takes] at taken
    rw [here.runs, here.cancels]
    cases place with
    | outside | queued => exact nomatch taken
    | held worker =>
      refine .inr ⟨rfl, worker, fun other => (here.held other).trans ?_⟩
      exact ⟨fun held => (Place.held.inj held).symm, fun same => congrArg Place.held same.symm⟩
    | ran | cancelled => exact .inl rfl
  untaken job untaken := by
    obtain ⟨place, here⟩ := inv.placed job
    rw [here.takes] at untaken
    rw [here.runs, here.cancels]
    cases place with
    | outside | queued => exact ⟨rfl, rfl⟩
    | held | ran | cancelled => exact nomatch untaken
  refused job refused := by
    obtain ⟨place, here⟩ := inv.placed job
    cases place with
    | outside => exact ⟨here.takes, List.count_eq_zero.mp here.inQueue⟩
    | queued | held | ran | cancelled => exact nomatch refused.symm.trans (here.accepted.mpr nofun)
  concurrency := inv.slotted.concurrency
  closing closing _ _ stepped := inv.closing closing stepped
  drained drained := (inv.locked.drained drained).2
  workerMoves _ _ holding := inv.workerMoves holding
  holderMoves _ holds := inv.holderMoves holds

end Claims

theorem handler_pool_is_sound {config : Config} {events : List Event} {final : State}
    (ran : run (step config) initial events = some final) : Sound config final :=
  (invariant_of_run (Inv config) step_inv (initial_inv config) ran).sound

def reads (event : Check → List Check → Event) : List Check → List Event
  | [] => []
  | check :: left => event check left :: reads event left

def launchRun (job : Nat) : List Event :=
  .launch job :: reads (.checkLaunch job) launchChecks ++ [.ensureWorkers job, .lockLaunch job] ++
    reads (.recheckLaunch job) launchChecks ++ [.enqueue job]

def shutdownRun : List Event :=
  launchRun 0 ++ [.receive 0 0 [], .lockClaim 0 0] ++
    reads (.checkClaim 0 0) claimChecks ++ [.claim 0 0, .takeSlot 0 0] ++
    reads (.checkSlot 0 0) slotChecks ++ [.startHandler 0 0] ++
    launchRun 1 ++
    [.beginShutdown 0, .drain 0 1 [], .endShutdown 0, .finishHandler 0 0]

theorem shutdownRun_is_sound : ∃ final, run (step ⟨1, 1⟩) initial shutdownRun = some final ∧
        final.drained = true ∧
        (final.runs 0, final.cancels 0) = (1, 0) ∧
        (final.runs 1, final.cancels 1) = (0, 1) ∧
        Sound ⟨1, 1⟩ final := by
  simp only [← and_assoc]
  apply exists_and_kept
  · simp only [and_assoc]
    decide +kernel
  · rintro final ⟨⟨⟨ran, -⟩, -⟩, -⟩
    exact handler_pool_is_sound ran

end FitzGo.Connection.HandlerPool
