import FitzGo.Connection.HandlerPool

/-!
# The places of handler jobs, the mutex and the slots

A job is not in the pool, in the queue, in the hands of one worker, run, or
cancelled, and every event moves at most one. The mutex keeps a shutdown apart
from the calls and claims that have read `asyncClosing` as false.
-/

namespace FitzGo.Connection.HandlerPool

open StepMachine Counting

/-! ## The place of a job -/

/-- Where a job is. -/
inductive Place
  | outside
  | queued
  | held (worker : Nat)
  | ran
  | cancelled
  deriving DecidableEq

namespace Place

def takes : Place → Nat
  | .outside | .queued => 0
  | .held _ | .ran | .cancelled => 1

def runs : Place → Nat
  | .ran => 1
  | .outside | .queued | .held _ | .cancelled => 0

def cancels : Place → Nat
  | .cancelled => 1
  | .outside | .queued | .held _ | .ran => 0

def inQueue : Place → Nat
  | .queued => 1
  | .outside | .held _ | .ran | .cancelled => 0

end Place

/-- What the state shows of a job at a place. -/
structure At (state : State) (job : Nat) (place : Place) : Prop where
  accepted : (state.launches job).accepted = true ↔ place ≠ .outside
  inQueue : state.jobs.count job = place.inQueue
  held : ∀ worker, (state.workers worker).unsettled = some job ↔ place = .held worker
  takes : state.takes job = place.takes
  runs : state.runs job = place.runs
  cancels : state.cancels job = place.cancels

/-- What holds of the mutex and of what it protects. -/
structure Locked (state : State) : Prop where
  launch : ∀ job left, state.launches job = .locked left →
    state.mutex = some (.launch job) ∧ (.asyncClosing ∈ left ∨ state.asyncClosing = false)
  claim : ∀ worker job left, state.workers worker = .claiming job left →
    state.mutex = some (.worker worker) ∧ (.asyncClosing ∈ left ∨ state.asyncClosing = false)
  launchHolds : ∀ job, state.mutex = some (.launch job) → ∃ left, state.launches job = .locked left
  workerHolds : ∀ worker, state.mutex = some (.worker worker) →
    ∃ job left, state.workers worker = .claiming job left
  drained : state.drained = true → state.asyncClosing = true ∧ state.jobs = []
  draining : ∀ caller, state.mutex = some (.shutdown caller) → state.asyncClosing = true

/-- Spawned workers and others hold the slots. -/
structure Slotted (config : Config) (state : State) : Prop where
  unspawned : ∀ worker, state.spawned ≤ worker → state.workers worker = .waiting
  counted : state.slots = state.slotHolders + state.others
  bound : state.slots ≤ config.maxConcurrency

def Placed (state : State) : Prop :=
  ∀ job, ∃ place, At state job place

structure Inv (config : Config) (state : State) : Prop where
  placed : Placed state
  locked : Locked state
  slotted : Slotted config state

theorem initial_inv (config : Config) : Inv config initial where
  placed _ := ⟨.outside,
      { accepted := ⟨nofun, fun other => absurd rfl other⟩
        inQueue := rfl
        held := fun _ => ⟨nofun, nofun⟩
        takes := rfl
        runs := rfl
        cancels := rfl }⟩
  locked :=
    { launch := nofun
      claim := nofun
      launchHolds := nofun
      workerHolds := nofun
      drained := nofun
      draining := nofun }
  slotted :=
    { unspawned := fun _ _ => rfl
      counted := rfl
      bound := Nat.zero_le _ }

/-! ## Moving jobs -/

section Placing

variable {state after : State} {job other index : Nat} {place : Place}

/-- A job that the step does not move. -/
theorem At.of_eq (here : At state job place)
    (accepted : (after.launches job).accepted = (state.launches job).accepted)
    (inQueue : after.jobs.count job = state.jobs.count job)
    (held : ∀ worker, (after.workers worker).unsettled = some job ↔
      (state.workers worker).unsettled = some job)
    (takes : after.takes job = state.takes job) (runs : after.runs job = state.runs job)
    (cancels : after.cancels job = state.cancels job) : At after job place where
  accepted := accepted ▸ here.accepted
  inQueue := inQueue.trans here.inQueue
  held worker := (held worker).trans (here.held worker)
  takes := takes.trans here.takes
  runs := runs.trans here.runs
  cancels := cancels.trans here.cancels

theorem Placed.frame (placed : Placed state)
    (same : ∀ job place, At state job place → At after job place) : Placed after := by
  intro job
  obtain ⟨place, here⟩ := placed job
  exact ⟨place, same job place here⟩

private theorem accepted_update {launch : Launch}
    (same : launch.accepted = (state.launches job).accepted) (other : Nat) :
    (Function.update state.launches job launch other).accepted =
      (state.launches other).accepted := by
  by_cases equal : other = job
  · subst equal
    rw [Function.update_self, same]
  · rw [Function.update_of_ne equal]

variable {worker : Worker}

theorem unsettled_update (same : worker.unsettled = (state.workers index).unsettled) (other : Nat) :
    (Function.update state.workers index worker other).unsettled =
      (state.workers other).unsettled := by
  by_cases equal : other = index
  · subst equal
    rw [Function.update_self, same]
  · rw [Function.update_of_ne equal]

theorem unsettled_update_other (different : other ≠ job)
    (before : ∀ held, (state.workers index).unsettled = some held → held = job)
    (now : ∀ held, worker.unsettled = some held → held = job) (somebody : Nat) :
    (Function.update state.workers index worker somebody).unsettled = some other ↔
      (state.workers somebody).unsettled = some other := by
  by_cases equal : somebody = index
  · subst equal
    rw [Function.update_self]
    exact ⟨fun held => absurd (now other held) different,
        fun held => absurd (before other held) different⟩
  · rw [Function.update_of_ne equal]

theorem Placed.setLaunch (placed : Placed state) {launch : Launch}
    (same : launch.accepted = (state.launches job).accepted) :
    Placed (state.setLaunch job launch) := by
  intro other
  obtain ⟨place, here⟩ := placed other
  exact ⟨place, here.of_eq (accepted_update same other) rfl (fun _ => Iff.rfl) rfl rfl rfl⟩

theorem Placed.setWorker (placed : Placed state)
    (same : worker.unsettled = (state.workers index).unsettled) :
    Placed (state.setWorker index worker) := by
  intro other
  obtain ⟨place, here⟩ := placed other
  refine ⟨place, here.of_eq rfl rfl (fun somebody => ?_) rfl rfl rfl⟩
  exact Eq.congr_left (unsettled_update same somebody)

/-- The job enters the queue. -/
theorem Placed.accept (placed : Placed state)
    (before : (state.launches job).accepted = false) : Placed (state.accept job) := by
  intro other
  obtain ⟨place, here⟩ := placed other
  by_cases equal : other = job
  · subst equal
    have outside : place = .outside := by
      by_contra inside
      exact Bool.false_ne_true (before.symm.trans (here.accepted.mpr inside))
    subst outside
    refine ⟨.queued, ?_, ?_, ?_, here.takes, here.runs, here.cancels⟩
    · refine iff_of_true ?_ nofun
      unfold State.accept State.setLaunch
      dsimp only
      rw [Function.update_self]
      rfl
    · unfold State.accept
      dsimp only
      rw [List.count_append, here.inQueue, List.count_singleton_self]
      rfl
    · exact fun worker => (here.held worker).trans ⟨nofun, nofun⟩
  · refine ⟨place, here.of_eq ?_ ?_ (fun _ => Iff.rfl) rfl rfl rfl⟩
    · unfold State.accept State.setLaunch
      dsimp only
      rw [Function.update_of_ne equal]
    · unfold State.accept
      dsimp only
      rw [List.count_append, List.count_singleton, if_neg]
      · rfl
      · simpa using Ne.symm equal

variable {rest : List Nat}

theorem At.of_head (here : At state job place)
    (head : state.jobs = job :: rest) : place = .queued ∧ rest.count job = 0 := by
  have counted := here.inQueue
  rw [head, List.count_cons_self] at counted
  cases place with
  | queued => exact ⟨rfl, Nat.succ.inj counted⟩
  | outside | held worker | ran | cancelled => exact nomatch counted

theorem count_rest (head : state.jobs = job :: rest)
    (different : other ≠ job) : rest.count other = state.jobs.count other := by
  rw [head, List.count_cons_of_ne (Ne.symm different)]

/-- A worker takes the head of the queue. -/
theorem Placed.receive (placed : Placed state) {rest : List Nat}
    (free : state.workers index = .waiting) (head : state.jobs = job :: rest) :
    Placed ((state.setWorker index (.received job)).take job rest) := by
  intro other
  obtain ⟨place, here⟩ := placed other
  by_cases equal : other = job
  · subst equal
    obtain ⟨rfl, gone⟩ := here.of_head head
    refine ⟨.held index, here.accepted.trans (iff_of_true nofun nofun), gone, ?_,
        ?_, here.runs, here.cancels⟩
    · intro worker
      unfold State.take State.setWorker
      dsimp only
      by_cases same : worker = index
      · subst same
        rw [Function.update_self]
        exact iff_of_true rfl rfl
      · rw [Function.update_of_ne same, here.held worker]
        exact iff_of_false nofun fun held => same (Place.held.inj held).symm
    · unfold State.take
      dsimp only
      rw [Function.update_self]
      change state.takes other + 1 = 1
      rw [here.takes]
      rfl
  · refine
      ⟨place, here.of_eq rfl (count_rest head equal) ?_ (Function.update_of_ne equal _ _) rfl rfl⟩
    refine unsettled_update_other equal ?_ fun held now => ?_
    · rw [free]
      exact nofun
    · exact (Option.some.inj now).symm

/-- A worker runs or cancels the job it holds. -/
theorem At.settle (here : At state job place) (holding : (state.workers index).unsettled = some job)
    (letGo : worker.unsettled = none)
    {now : Place} (settled : now = .ran ∨ now = .cancelled) {runs cancels : Nat → Nat}
    (runsNow : runs job = state.runs job + now.runs)
    (cancelsNow : cancels job = state.cancels job + now.cancels) :
    At { state.setWorker index worker with runs, cancels } job now := by
  obtain rfl := (here.held index).mp holding
  have inside : now ≠ .outside := by
    rcases settled with rfl | rfl <;> exact nofun
  refine ⟨here.accepted.trans (iff_of_true nofun inside), ?_, ?_, ?_, ?_, ?_⟩
  · rw [State.setWorker, here.inQueue]
    rcases settled with rfl | rfl <;> rfl
  · intro somebody
    have nobody : now ≠ .held somebody := by
      rcases settled with rfl | rfl <;> exact nofun
    refine iff_of_false ?_ nobody
    unfold State.setWorker
    dsimp only
    by_cases same : somebody = index
    · subst same
      rw [Function.update_self, letGo]
      exact nofun
    · rw [Function.update_of_ne same, here.held somebody]
      exact fun held => same (Place.held.inj held).symm
  · rw [State.setWorker, here.takes]
    rcases settled with rfl | rfl <;> rfl
  · dsimp only
    rw [runsNow, here.runs]
    exact Nat.zero_add _
  · dsimp only
    rw [cancelsNow, here.cancels]
    exact Nat.zero_add _

theorem Placed.cancel (placed : Placed state)
    (holding : (state.workers index).unsettled = some job) :
    Placed ((state.setWorker index .waiting).countCancel job) := by
  intro other
  obtain ⟨place, here⟩ := placed other
  by_cases equal : other = job
  · subst equal
    refine ⟨.cancelled, here.settle holding rfl (.inr rfl) rfl ?_⟩
    exact Function.update_self _ _ _
  · refine ⟨place, here.of_eq rfl rfl ?_ rfl rfl (Function.update_of_ne equal _ _)⟩
    refine unsettled_update_other equal (fun held before => ?_) nofun
    exact Option.some.inj (before.symm.trans holding)

theorem Placed.start (placed : Placed state)
    (holding : (state.workers index).unsettled = some job) :
    Placed ((state.setWorker index (.running job)).countRun job) := by
  intro other
  obtain ⟨place, here⟩ := placed other
  by_cases equal : other = job
  · subst equal
    refine ⟨.ran, here.settle holding rfl (.inl rfl) ?_ rfl⟩
    exact Function.update_self _ _ _
  · refine ⟨place, here.of_eq rfl rfl ?_ rfl (Function.update_of_ne equal _ _) rfl⟩
    refine unsettled_update_other equal (fun held before => ?_) nofun
    exact Option.some.inj (before.symm.trans holding)

/-- The shutdown cancels the head of the queue. -/
theorem Placed.drain (placed : Placed state)
    (head : state.jobs = job :: rest) : Placed ((state.take job rest).countCancel job) := by
  intro other
  obtain ⟨place, here⟩ := placed other
  by_cases equal : other = job
  · subst equal
    obtain ⟨rfl, gone⟩ := here.of_head head
    refine ⟨.cancelled, here.accepted.trans (iff_of_true nofun nofun), gone, ?_, ?_, here.runs, ?_⟩
    · exact fun worker => (here.held worker).trans ⟨nofun, nofun⟩
    · exact (Function.update_self _ _ _).trans (congrArg (· + 1) here.takes)
    · exact (Function.update_self _ _ _).trans (congrArg (· + 1) here.cancels)
  · exact ⟨place, here.of_eq rfl (count_rest head equal) (fun _ => Iff.rfl)
          (Function.update_of_ne equal _ _) rfl
          (Function.update_of_ne equal _ _)⟩

end Placing

/-! ## The mutex -/

section Locking

variable {state : State} {job index : Nat} {check : Check} {left : List Check}

theorem update_eq_iff {Entry : Type} {table : Nat → Entry} {value entry : Entry}
    {changed other : Nat} :
    Function.update table changed value other = entry ↔ other = changed ∧ value = entry ∨
      other ≠ changed ∧ table other = entry := by
  by_cases equal : other = changed
  · subst equal
    rw [Function.update_self]
    simp
  · rw [Function.update_of_ne equal]
    simp [equal]

section

variable (locked : Locked state)
include locked

theorem Locked.setLaunch {launch : Launch} (before : ∀ left, state.launches job ≠ .locked left)
    (now : ∀ left, launch ≠ .locked left) : Locked (state.setLaunch job launch) where
  launch other left here := by
    rcases update_eq_iff.mp here with ⟨_, new⟩ | ⟨_, old⟩
    · exact absurd new (now left)
    · exact locked.launch other left old
  claim := locked.claim
  launchHolds other holds := by
    obtain ⟨left, old⟩ := locked.launchHolds other holds
    refine ⟨left, update_eq_iff.mpr (.inr ⟨?_, old⟩)⟩
    rintro rfl
    exact before left old
  workerHolds := locked.workerHolds
  drained := locked.drained
  draining := locked.draining

theorem Locked.setWorker {worker : Worker}
    (before : ∀ job left, state.workers index ≠ .claiming job left)
    (now : ∀ job left, worker ≠ .claiming job left) : Locked (state.setWorker index worker) :=
  { locked with
    claim other job left here := by
      rcases update_eq_iff.mp here with ⟨_, new⟩ | ⟨_, old⟩
      · exact absurd new (now job left)
      · exact locked.claim other job left old
    workerHolds other holds := by
      obtain ⟨job, left, old⟩ := locked.workerHolds other holds
      refine ⟨job, left, update_eq_iff.mpr (.inr ⟨?_, old⟩)⟩
      rintro rfl
      exact before job left old }

theorem Locked.lockLaunch (free : state.mutex = none) : Locked
      { state.setLaunch job (.locked launchChecks) with
        mutex := some (.launch job) } where
  launch other left here := by
    rcases update_eq_iff.mp here with ⟨rfl, new⟩ | ⟨_, old⟩
    · cases new
      exact ⟨rfl, .inl (by decide)⟩
    · exact nomatch free.symm.trans (locked.launch other left old).1
  claim other job left here := nomatch free.symm.trans (locked.claim other job left here).1
  launchHolds other holds := by
    cases holds
    exact ⟨_, update_eq_iff.mpr (.inl ⟨rfl, rfl⟩)⟩
  workerHolds _ holds := nomatch holds
  drained := locked.drained
  draining _ holds := nomatch holds

theorem Locked.lockClaim (free : state.mutex = none) : Locked
      { state.setWorker index (.claiming job claimChecks) with
        mutex := some (.worker index) } where
  launch other left here := nomatch free.symm.trans (locked.launch other left here).1
  claim other job left here := by
    rcases update_eq_iff.mp here with ⟨rfl, new⟩ | ⟨_, old⟩
    · cases new
      exact ⟨rfl, .inl (by decide)⟩
    · exact nomatch free.symm.trans (locked.claim other job left old).1
  launchHolds _ holds := nomatch holds
  workerHolds other holds := by
    cases holds
    exact ⟨_, _, update_eq_iff.mpr (.inl ⟨rfl, rfl⟩)⟩
  drained := locked.drained
  draining _ holds := nomatch holds

end

/-- A check that has passed has read its flag as false. -/
theorem closing_of_passed (passed : state.flag job check = false)
    (pending : .asyncClosing ∈ check :: left ∨ state.asyncClosing = false) :
    .asyncClosing ∈ left ∨ state.asyncClosing = false := by
  rcases pending with member | opened
  · rcases List.mem_cons.mp member with rfl | later
    · exact .inr passed
    · exact .inl later
  · exact .inr opened

section

variable (locked : Locked state)
include locked

theorem Locked.recheckLaunch
    (here : state.launches job = .locked (check :: left)) (passed : state.flag job check = false) :
    Locked (state.setLaunch job (.locked left)) where
  launch other rest now := by
    rcases update_eq_iff.mp now with ⟨rfl, new⟩ | ⟨_, old⟩
    · cases new
      obtain ⟨holds, pending⟩ := locked.launch _ _ here
      exact ⟨holds, closing_of_passed passed pending⟩
    · exact locked.launch other rest old
  claim := locked.claim
  launchHolds other holds := by
    obtain ⟨rest, old⟩ := locked.launchHolds other holds
    by_cases equal : other = job
    · exact ⟨left, update_eq_iff.mpr (.inl ⟨equal, rfl⟩)⟩
    · exact ⟨rest, update_eq_iff.mpr (.inr ⟨equal, old⟩)⟩
  workerHolds := locked.workerHolds
  drained := locked.drained
  draining := locked.draining

theorem Locked.checkClaim (here : state.workers index = .claiming job (check :: left))
    (passed : state.flag job check = false) : Locked (state.setWorker index (.claiming job left)) :=
  { locked with
    claim other claimed rest now := by
      rcases update_eq_iff.mp now with ⟨rfl, new⟩ | ⟨_, old⟩
      · cases new
        obtain ⟨holds, pending⟩ := locked.claim _ _ _ here
        exact ⟨holds, closing_of_passed passed pending⟩
      · exact locked.claim other claimed rest old
    workerHolds other holds := by
      obtain ⟨claimed, rest, old⟩ := locked.workerHolds other holds
      by_cases equal : other = index
      · exact ⟨job, left, update_eq_iff.mpr (.inl ⟨equal, rfl⟩)⟩
      · exact ⟨claimed, rest, update_eq_iff.mpr (.inr ⟨equal, old⟩)⟩ }

theorem Locked.unlockLaunch (here : state.launches job = .locked left)
    {launch : Launch} (now : ∀ left, launch ≠ .locked left)
    {jobs : List Nat} (kept : state.drained = true → jobs = []) (acceptedJobs : Nat) :
    Locked { state.setLaunch job launch with
        mutex := none, jobs, acceptedJobs } where
  launch other rest later := by
    rcases update_eq_iff.mp later with ⟨_, new⟩ | ⟨different, old⟩
    · exact absurd new (now rest)
    · have holder := (locked.launch other rest old).1
      rw [(locked.launch job left here).1] at holder
      cases holder
      exact absurd rfl different
  claim other claimed rest later := by
    have holder := (locked.claim other claimed rest later).1
    rw [(locked.launch job left here).1] at holder
    exact nomatch holder
  launchHolds _ holds := nomatch holds
  workerHolds _ holds := nomatch holds
  drained isDrained := ⟨(locked.drained isDrained).1, kept isDrained⟩
  draining _ holds := nomatch holds

theorem Locked.unlockClaim (here : state.workers index = .claiming job left)
    {worker : Worker} (now : ∀ job left, worker ≠ .claiming job left) :
    Locked { state.setWorker index worker with mutex := none } where
  launch other rest later := by
    have holder := (locked.launch other rest later).1
    rw [(locked.claim index job left here).1] at holder
    exact nomatch holder
  claim other claimed rest later := by
    rcases update_eq_iff.mp later with ⟨_, new⟩ | ⟨different, old⟩
    · exact absurd new (now claimed rest)
    · have holder := (locked.claim other claimed rest old).1
      rw [(locked.claim index job left here).1] at holder
      cases holder
      exact absurd rfl different
  launchHolds _ holds := nomatch holds
  workerHolds _ holds := nomatch holds
  drained := locked.drained
  draining _ holds := nomatch holds

end

theorem Locked.take (locked : Locked state) {rest : List Nat}
    (head : state.jobs = job :: rest) : Locked (state.take job rest) :=
  { locked with
    drained isDrained := nomatch head.symm.trans (locked.drained isDrained).2 }

theorem Locked.beginShutdown (locked : Locked state) (free : state.mutex = none) (caller : Nat) :
    Locked { state with
        asyncClosing := true
        mutex := some (.shutdown caller) } where
  launch other left here := nomatch free.symm.trans (locked.launch other left here).1
  claim other job left here := nomatch free.symm.trans (locked.claim other job left here).1
  launchHolds _ holds := nomatch holds
  workerHolds _ holds := nomatch holds
  drained isDrained := ⟨rfl, (locked.drained isDrained).2⟩
  draining _ _ := rfl

theorem Locked.endShutdown (locked : Locked state) {caller : Nat}
    (holds : state.mutex = some (.shutdown caller)) (empty : state.jobs = []) :
    Locked { state with mutex := none, drained := true } where
  launch other left here := nomatch holds.symm.trans (locked.launch other left here).1
  claim other job left here := nomatch holds.symm.trans (locked.claim other job left here).1
  launchHolds _ free := nomatch free
  workerHolds _ free := nomatch free
  drained _ := ⟨locked.draining caller holds, empty⟩
  draining _ free := nomatch free

end Locking

/-! ## The slots -/

section Slots

variable {config : Config} {state : State} {index : Nat} {worker : Worker}

theorem Slotted.spawned_of_busy (slotted : Slotted config state)
    (here : state.workers index = worker) (busy : worker ≠ .waiting) : index < state.spawned := by
  by_contra unspawned
  exact busy (here ▸ slotted.unspawned index (Nat.not_lt.mp unspawned))

private theorem weight_hasSlot (worker : Worker) :
    weight (fun worker : Worker => worker.hasSlot = true) worker = worker.hasSlot.toNat := by
  cases worker <;> rfl

variable (slotted : Slotted config state)
include slotted

/-- The slots change by what the worker takes or returns. -/
theorem Slotted.move (known : index < state.spawned) {slots : Nat}
    (balance : slots + (state.workers index).hasSlot.toNat =
      state.slots + worker.hasSlot.toNat) (bound : slots ≤ config.maxConcurrency) :
    Slotted config { state.setWorker index worker with slots } where
  unspawned other beyond := by
    refine update_eq_iff.mpr (.inr ⟨?_, slotted.unspawned other beyond⟩)
    exact (known.trans_le beyond).ne'
  counted := by
    have counted := slotted.counted
    have moved :=
      tally_update (fun worker : Worker => worker.hasSlot = true) state.workers known worker
    rw [weight_hasSlot, weight_hasSlot] at moved
    unfold State.slotHolders at counted
    change slots = tally (fun worker : Worker => worker.hasSlot = true)
            (Function.update state.workers index worker) state.spawned +
          state.others
    omega
  bound := bound

theorem Slotted.setWorker (known : index < state.spawned)
    (same : worker.hasSlot = (state.workers index).hasSlot) :
    Slotted config (state.setWorker index worker) :=
  slotted.move known (by rw [same]) slotted.bound

theorem Slotted.spawn : Slotted config { state with
        spawned :=
          if state.spawned = 0 then config.maxConcurrency
          else state.spawned } := by
  by_cases first : state.spawned = 0
  · simp only [if_pos first]
    have idle : ∀ worker, state.workers worker = .waiting :=
      fun worker => slotted.unspawned worker (first ▸ Nat.zero_le worker)
    have counted := slotted.counted
    unfold State.slotHolders at counted
    rw [first] at counted
    refine ⟨fun worker _ => idle worker, ?_, slotted.bound⟩
    rw [counted]
    refine congrArg (· + state.others) ?_
    refine Eq.symm (tally_eq_zero _ fun worker _ => ?_)
    rw [idle worker]
    exact Bool.false_ne_true
  · simp only [if_neg first]
    exact slotted

theorem Slotted.concurrency : state.running ≤ config.maxConcurrency := by
  have holders : state.running ≤ state.slotHolders := by
    refine tally_mono _ (fun worker running => ?_) _ _
    cases worker with
    | running job => rfl
    | waiting | received | claiming | acquiring | slotted | returning
    | exited => exact nomatch running
  have counted := slotted.counted
  have bound := slotted.bound
  omega

theorem Slotted.pos
    (here : state.workers index = worker) (has : worker.hasSlot = true) : 0 < state.slots := by
  have busy : worker ≠ .waiting := by
    rintro rfl
    exact nomatch has
  have holders : 0 < state.slotHolders :=
    tally_pos _ (slotted.spawned_of_busy here busy) (here ▸ has)
  have counted := slotted.counted
  omega

end Slots

end FitzGo.Connection.HandlerPool
