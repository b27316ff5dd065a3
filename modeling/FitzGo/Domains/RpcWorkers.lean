import FitzGo.Library.Histories
import FitzGo.Library.StepMachine
import FitzGo.Library.Table

/-!
# The workers of the RPC client

`RegisterWorker` sends SUBSCRIBE_WORKER without the lock, and then stores the
handler under a new version. `Unsubscribe` removes the route if the stored
version is its own. `RestoreSubscriptions` copies the handlers, subscribes them
again without the lock, and copies them back.
-/

namespace FitzGo.Domains.RpcWorkers

open StepMachine Histories

variable {Route Handler : Type}

structure Registration (Route Handler : Type) where
  route : Route
  maxConcurrent : UInt32
  handler : Handler
  deriving DecidableEq

structure Restore (Route Handler : Type) where
  snapshot : List (Route × Handler)
  left : List Route
  restoredRoutes : List Route
  deriving DecidableEq

inductive Item (Route Handler : Type)
  | registered (route : Route) (version : UInt64) (handler : Handler)
  | unsubscribed (route : Route) (version : UInt64)
  deriving DecidableEq

/-- `sending` and `acknowledged` are the calls of `RegisterWorker` before and
after the answer of the broker, `unsubscribing` and `rollingBack` the routes
whose UNSUBSCRIBE_WORKER has no answer yet, and `subscriptions` the handles that
were returned. -/
structure State (Route Handler : Type) where
  workers : AList fun _ : Route => Handler
  workerVersions : AList fun _ : Route => UInt64
  workerConcurrency : AList fun _ : Route => UInt32
  nextWorkerVersion : UInt64
  sending : List (Registration Route Handler)
  acknowledged : List (Registration Route Handler)
  unsubscribing : List Route
  restores : List (Restore Route Handler)
  rollingBack : List (List Route)
  subscriptions : List (Route × UInt64)
  history : List (Item Route Handler)

def initial : State Route Handler where
  workers := ∅
  workerVersions := ∅
  workerConcurrency := ∅
  nextWorkerVersion := 0
  sending := []
  acknowledged := []
  unsubscribing := []
  restores := []
  rollingBack := []
  subscriptions := []
  history := []

def State.quiet (state : State Route Handler) : Bool :=
  state.sending.isEmpty && state.acknowledged.isEmpty &&
    state.unsubscribing.isEmpty && state.restores.isEmpty &&
    state.rollingBack.isEmpty

/-- An order is how the range of `RestoreSubscriptions` meets the snapshot. -/
inductive Event (Route Handler : Type)
  | register (registration : Registration Route Handler)
  | acknowledge (registration : Registration Route Handler)
  | refuse (registration : Registration Route Handler)
  | store (registration : Registration Route Handler)
  | unsubscribe (route : Route) (version : UInt64)
  | unsubscribed (route : Route)
  | snapshot (order : List Route)
  | restored (restore : Restore Route Handler)
  | restoreFailed (restore : Restore Route Handler)
  | rolledBack (route : Route) (left : List Route)
  | commit (restore : Restore Route Handler)

variable [DecidableEq Route]

inductive RegisterError
  | invalidRoute
  | concurrency
  | alreadyRegistered

def checkRegistration (valid : Route → Bool) (state : State Route Handler)
    (registration : Registration Route Handler) : Except RegisterError Unit :=
  if ¬ valid registration.route then .error .invalidRoute
  else if registration.maxConcurrent < 1 ∨ registration.maxConcurrent > 1024 then
    .error .concurrency
  else if (state.workers.lookup registration.route).isSome then .error .alreadyRegistered
  else .ok ()

def State.store (state : State Route Handler)
    (registration : Registration Route Handler) : State Route Handler :=
  let version := state.nextWorkerVersion + 1
  { state with
    nextWorkerVersion := version
    workers := state.workers.insert registration.route registration.handler
    workerConcurrency :=
      state.workerConcurrency.insert registration.route registration.maxConcurrent
    workerVersions := state.workerVersions.insert registration.route version
    subscriptions := (registration.route, version) :: state.subscriptions
    history := state.history ++ [.registered registration.route version registration.handler] }

/-- The section of `unsubscribeWorker`. A route that is not in the map has
version zero. -/
def State.unsubscribe (state : State Route Handler) (route : Route)
    (version : UInt64) : State Route Handler :=
  if (state.workerVersions.lookup route).getD 0 ≠ version then
    { state with history := state.history ++ [.unsubscribed route version] }
  else
    { state with
      workers := state.workers.erase route
      workerVersions := state.workerVersions.erase route
      workerConcurrency := state.workerConcurrency.erase route
      unsubscribing := route :: state.unsubscribing
      history := state.history ++ [.unsubscribed route version] }

def State.copyBack (state : State Route Handler)
    (snapshot : List (Route × Handler)) : State Route Handler :=
  { state with workers := Table.fill Prod.fst Prod.snd snapshot state.workers }

section Machine

variable [DecidableEq Handler]

def Enabled (state : State Route Handler) : Event Route Handler → Prop
  | .register _ => True
  | .acknowledge registration | .refuse registration => registration ∈ state.sending
  | .store registration => registration ∈ state.acknowledged
  | .unsubscribe route version => (route, version) ∈ state.subscriptions
  | .unsubscribed route => route ∈ state.unsubscribing
  | .snapshot order => order.Perm (state.workers.entries.map fun binding => binding.1)
  | .restored restore | .restoreFailed restore => restore ∈ state.restores ∧ restore.left ≠ []
  | .rolledBack route left => route :: left ∈ state.rollingBack
  | .commit restore => restore ∈ state.restores ∧ restore.left = []

instance (state : State Route Handler) (event : Event Route Handler) :
    Decidable (Enabled state event) := by
  cases event <;> dsimp only [Enabled] <;> infer_instance

def next (valid : Route → Bool) (state : State Route Handler) :
    Event Route Handler → State Route Handler
  | .register registration =>
    match checkRegistration valid state registration with
    | .error _ => state
    | .ok () => { state with sending := registration :: state.sending }
  | .acknowledge registration =>
    { state with
      sending := state.sending.erase registration
      acknowledged := registration :: state.acknowledged }
  | .refuse registration => { state with sending := state.sending.erase registration }
  | .store registration =>
    { state.store registration with
      acknowledged := state.acknowledged.erase registration }
  | .unsubscribe route version => state.unsubscribe route version
  | .unsubscribed route => { state with unsubscribing := state.unsubscribing.erase route }
  | .snapshot order =>
    { state with
      restores := ⟨state.workers.entries.map fun binding => (binding.1, binding.2),
          order, []⟩ :: state.restores }
  | .restored restore =>
    { state with
      restores := { restore with
          left := restore.left.tail
          restoredRoutes := restore.restoredRoutes ++ restore.left.head?.toList } ::
          state.restores.erase restore }
  | .restoreFailed restore =>
    { state with
      restores := state.restores.erase restore
      rollingBack :=
        if restore.restoredRoutes = [] then state.rollingBack
        else restore.restoredRoutes.reverse :: state.rollingBack }
  | .rolledBack route left =>
    { state with
      rollingBack :=
        if left = [] then state.rollingBack.erase (route :: left)
        else left :: state.rollingBack.erase (route :: left) }
  | .commit restore =>
    { state.copyBack restore.snapshot with
      restores := state.restores.erase restore }

def step (valid : Route → Bool) :
    State Route Handler → Event Route Handler → Option (State Route Handler) :=
  guarded Enabled (next valid)

end Machine

/-! ## What is claimed -/

/-- A route is registered again only after every earlier registration of it was
unsubscribed. -/
def Once (before : List (Item Route Handler)) : Item Route Handler → Prop
  | .registered route _ _ => ∀ version handler,
      .registered route version handler ∈ before →
      .unsubscribed route version ∈ before
  | .unsubscribed _ _ => True

/-- A handler is stored only while its route has none, with a version that was
not used before, and a restore copies back what the client still has. -/
def Undisturbed (state : State Route Handler) : Event Route Handler → Prop
  | .store registration =>
    state.workers.lookup registration.route = none ∧ state.nextWorkerVersion.toNat + 1 < 2 ^ 64
  | .commit restore => ∀ entry ∈ restore.snapshot, state.workers.lookup entry.1 = some entry.2
  | _ => True

instance [DecidableEq Handler] (state : State Route Handler)
    (event : Event Route Handler) : Decidable (Undisturbed state event) := by
  cases event <;> dsimp only [Undisturbed] <;> infer_instance

/-! ## The invariant -/

/-- The three maps have the registrations that were not unsubscribed. -/
structure Coherent (state : State Route Handler) : Prop where
  live : ∀ route version, state.workerVersions.lookup route = some version ↔
    (∃ handler, .registered route version handler ∈ state.history) ∧
    .unsubscribed route version ∉ state.history
  stored : ∀ route handler, state.workers.lookup route = some handler ↔
    ∃ version, state.workerVersions.lookup route = some version ∧
    .registered route version handler ∈ state.history
  concurrency : ∀ route, state.workerConcurrency.lookup route = none ↔
    state.workerVersions.lookup route = none

structure Numbered (state : State Route Handler) : Prop where
  bounds : ∀ route version handler, .registered route version handler ∈ state.history →
    0 < version.toNat ∧ version.toNat ≤ state.nextWorkerVersion.toNat
  unique : ∀ route other version handler otherHandler,
    .registered route version handler ∈ state.history →
    .registered other version otherHandler ∈ state.history → route = other ∧ handler = otherHandler
  handles : ∀ route version, (route, version) ∈ state.subscriptions →
    ∃ handler, .registered route version handler ∈ state.history
  known : ∀ route version, .unsubscribed route version ∈ state.history →
    ∃ handler, .registered route version handler ∈ state.history
  superseded : ∀ route version later handler laterHandler,
    .registered route version handler ∈ state.history →
    .registered route later laterHandler ∈ state.history →
    version < later → .unsubscribed route version ∈ state.history
  once : Throughout Once state.history

structure Inv (state : State Route Handler) : Prop where
  coherent : Coherent state
  numbered : Numbered state

theorem initial_inv : Inv (initial : State Route Handler) where
  coherent := by
    refine ⟨fun route version => ?_, fun route handler => ?_, fun route => ?_⟩
    · simp [initial]
    · simp [initial]
    · simp [initial]
  numbered := by
    refine ⟨?_, ?_, ?_, ?_, ?_, throughout_nil⟩ <;> simp [initial]

section Steps

variable {state after : State Route Handler}

theorem Inv.keep (inv : Inv state)
    (workers : ∀ route, after.workers.lookup route = state.workers.lookup route)
    (versions : after.workerVersions = state.workerVersions)
    (concurrency : after.workerConcurrency = state.workerConcurrency)
    (counter : after.nextWorkerVersion = state.nextWorkerVersion)
    (subscriptions : after.subscriptions = state.subscriptions)
    (history : after.history = state.history) : Inv after := by
  refine ⟨⟨?_, fun route handler => ?_, ?_⟩, ⟨?_, ?_, ?_, ?_, ?_, ?_⟩⟩
  · rw [versions, history]
    exact inv.coherent.live
  · rw [workers, versions, history]
    exact inv.coherent.stored route handler
  · rw [versions, concurrency]
    exact inv.coherent.concurrency
  · rw [history, counter]
    exact inv.numbered.bounds
  · rw [history]
    exact inv.numbered.unique
  · rw [subscriptions, history]
    exact inv.numbered.handles
  · rw [history]
    exact inv.numbered.known
  · rw [history]
    exact inv.numbered.superseded
  · rw [history]
    exact inv.numbered.once

variable {route : Route} {version : UInt64}

theorem Coherent.unsubscribed (coherent : Coherent state) (free : state.workers.lookup route = none)
    {handler : Handler} (registered : .registered route version handler ∈ state.history) :
    .unsubscribed route version ∈ state.history := by
  by_contra kept
  have live := (coherent.live route version).mpr ⟨⟨handler, registered⟩, kept⟩
  have stored := (coherent.stored route handler).mpr ⟨version, live, registered⟩
  rw [free] at stored
  cases stored

theorem toNat_add_one (bound : version.toNat + 1 < 2 ^ 64) :
    (version + 1).toNat = version.toNat + 1 := by
  rw [UInt64.toNat_add]
  exact Nat.mod_eq_of_lt bound

omit [DecidableEq Route] in
theorem Numbered.unused (numbered : Numbered state)
    (bound : state.nextWorkerVersion.toNat + 1 < 2 ^ 64) (route : Route) (handler : Handler) :
    .registered route (state.nextWorkerVersion + 1) handler ∉ state.history := by
  intro listed
  have bounds := (numbered.bounds _ _ _ listed).2
  rw [toNat_add_one bound] at bounds
  omega

variable {registration : Registration Route Handler}

private theorem store_coherent (inv : Inv state)
    (free : state.workers.lookup registration.route = none)
    (bound : state.nextWorkerVersion.toNat + 1 < 2 ^ 64) : Coherent (state.store registration) := by
  have unused := inv.numbered.unused bound
  refine ⟨fun route version => ?_, fun route handler => ?_, fun route => ?_⟩
  · by_cases same : route = registration.route
    · subst same
      simp only [State.store, AList.lookup_insert, Option.some.injEq,
        List.mem_append, List.mem_singleton, reduceCtorEq, or_false]
      constructor
      · rintro rfl
        refine ⟨⟨registration.handler, Or.inr rfl⟩, fun gone => ?_⟩
        obtain ⟨handler, listed⟩ := inv.numbered.known _ _ gone
        exact unused _ _ listed
      · rintro ⟨⟨handler, old | new⟩, kept⟩
        · exact absurd (inv.coherent.unsubscribed free old) kept
        · cases new
          rfl
    · simp only [State.store, AList.lookup_insert_ne same]
      rw [inv.coherent.live route version]
      simp [same]
  · by_cases same : route = registration.route
    · subst same
      simp only [State.store, AList.lookup_insert, Option.some.injEq]
      constructor
      · rintro rfl
        exact ⟨_, rfl, by simp⟩
      · rintro ⟨version, rfl, listed⟩
        rw [List.mem_append, List.mem_singleton] at listed
        rcases listed with old | new
        · exact absurd old (unused _ _)
        · cases new
          rfl
    · simp only [State.store, AList.lookup_insert_ne same]
      rw [inv.coherent.stored route handler]
      simp [same]
  · by_cases same : route = registration.route
    · subst same
      simp [State.store]
    · simp only [State.store, AList.lookup_insert_ne same]
      exact inv.coherent.concurrency route

private theorem store_numbered (inv : Inv state)
    (free : state.workers.lookup registration.route = none)
    (bound : state.nextWorkerVersion.toNat + 1 < 2 ^ 64) : Numbered (state.store registration) := by
  have numbered := inv.numbered
  have unused := numbered.unused bound
  have counted := toNat_add_one bound
  have cases_of_mem : ∀ {route version handler},
      .registered route version handler ∈ (state.store registration).history →
      .registered route version handler ∈ state.history ∨
        route = registration.route ∧ version = state.nextWorkerVersion + 1 ∧
          handler = registration.handler := by
    intro route version handler listed
    simpa [State.store] using listed
  refine ⟨fun route version handler listed => ?_,
    fun route other version handler otherHandler first second => ?_,
    fun route version listed => ?_, fun route version listed => ?_,
    fun route version later handler laterHandler first second less => ?_, ?_⟩
  · rcases cases_of_mem listed with old | ⟨_, rfl, _⟩
    · have bounds := numbered.bounds route version handler old
      simp only [State.store, counted]
      omega
    · simp only [State.store, counted]
      omega
  · rcases cases_of_mem first with old | ⟨rfl, rfl, rfl⟩
    · rcases cases_of_mem second with otherOld | ⟨_, rfl, _⟩
      · exact numbered.unique _ _ _ _ _ old otherOld
      · exact absurd old (unused _ _)
    · rcases cases_of_mem second with otherOld | ⟨rfl, _, rfl⟩
      · exact absurd otherOld (unused _ _)
      · exact ⟨rfl, rfl⟩
  · rcases List.mem_cons.mp listed with new | old
    · cases new
      exact ⟨registration.handler, by simp [State.store]⟩
    · obtain ⟨handler, registered⟩ := numbered.handles route version old
      exact ⟨handler, List.mem_append_left _ registered⟩
  · have old : .unsubscribed route version ∈ state.history := by
      simpa [State.store] using listed
    obtain ⟨handler, registered⟩ := numbered.known route version old
    exact ⟨handler, List.mem_append_left _ registered⟩
  · refine List.mem_append_left _ ?_
    rcases cases_of_mem first with old | ⟨_, rfl, _⟩
    · rcases cases_of_mem second with laterOld | ⟨rfl, _, _⟩
      · exact numbered.superseded _ _ _ _ _ old laterOld less
      · exact inv.coherent.unsubscribed free old
    · rw [UInt64.lt_iff_toNat_lt, counted] at less
      rcases cases_of_mem second with laterOld | ⟨_, rfl, _⟩
      · have bounds := (numbered.bounds _ _ _ laterOld).2
        omega
      · omega
  · refine throughout_concat_iff.mpr ⟨numbered.once, ?_⟩
    intro version handler registered
    exact inv.coherent.unsubscribed free registered

omit [DecidableEq Route] in
theorem Numbered.unsubscribe (numbered : Numbered state)
    (handle : (route, version) ∈ state.subscriptions)
    (counter : after.nextWorkerVersion = state.nextWorkerVersion)
    (subscriptions : after.subscriptions = state.subscriptions)
    (history : after.history = state.history ++ [.unsubscribed route version]) :
    Numbered after := by
  have same : ∀ {other version handler}, .registered other version handler ∈ after.history ↔
        .registered other version handler ∈ state.history := by
    intro other version handler
    rw [history]
    simp
  refine ⟨fun other used handler listed => ?_,
    fun other another used handler otherHandler first second => ?_,
    fun other used listed => ?_, fun other used listed => ?_,
    fun other used later handler laterHandler first second less => ?_, ?_⟩
  · rw [counter]
    exact numbered.bounds _ _ _ (same.mp listed)
  · exact numbered.unique _ _ _ _ _ (same.mp first) (same.mp second)
  · rw [subscriptions] at listed
    obtain ⟨handler, registered⟩ := numbered.handles other used listed
    exact ⟨handler, same.mpr registered⟩
  · rw [history, List.mem_append, List.mem_singleton] at listed
    rcases listed with old | new
    · obtain ⟨handler, registered⟩ := numbered.known other used old
      exact ⟨handler, same.mpr registered⟩
    · cases new
      obtain ⟨handler, registered⟩ := numbered.handles route version handle
      exact ⟨handler, same.mpr registered⟩
  · rw [history]
    exact List.mem_append_left _
      (numbered.superseded _ _ _ _ _ (same.mp first) (same.mp second) less)
  · rw [history]
    exact throughout_concat_iff.mpr ⟨numbered.once, trivial⟩

theorem Coherent.unsubscribe_other (coherent : Coherent state)
    (different : state.workerVersions.lookup route ≠ some version) :
    Coherent { state with history := state.history ++ [.unsubscribed route version] } := by
  refine ⟨fun other used => ?_, fun other handler => ?_, coherent.concurrency⟩
  · have old := coherent.live other used
    simp only [List.mem_append, List.mem_singleton, reduceCtorEq, or_false,
      Item.unsubscribed.injEq, not_or]
    rw [old]
    refine ⟨fun live => ⟨live.1, live.2, ?_⟩, fun live => ⟨live.1, live.2.1⟩⟩
    rintro ⟨rfl, rfl⟩
    exact different (old.mpr live)
  · have old := coherent.stored other handler
    simpa using old

theorem Coherent.unsubscribe_own (coherent : Coherent state)
    (here : state.workerVersions.lookup route = some version) :
    Coherent { state with
      workers := state.workers.erase route
      workerVersions := state.workerVersions.erase route
      workerConcurrency := state.workerConcurrency.erase route
      unsubscribing := route :: state.unsubscribing
      history := state.history ++ [.unsubscribed route version] } := by
  refine ⟨fun other used => ?_, fun other handler => ?_, fun other => ?_⟩
  · have old := coherent.live other used
    simp only [List.mem_append, List.mem_singleton, reduceCtorEq, or_false,
      Item.unsubscribed.injEq, not_or]
    by_cases same : other = route
    · subst same
      rw [AList.lookup_erase]
      refine ⟨nofun, fun live => ?_⟩
      have stored := old.mpr ⟨live.1, live.2.1⟩
      rw [here] at stored
      cases stored
      exact absurd ⟨rfl, rfl⟩ live.2.2
    · rw [AList.lookup_erase_ne same, old]
      simp [same]
  · by_cases same : other = route
    · subst same
      simp
    · have old := coherent.stored other handler
      simp only [AList.lookup_erase_ne same]
      rw [old]
      simp
  · by_cases same : other = route
    · subst same
      simp
    · simp only [AList.lookup_erase_ne same]
      exact coherent.concurrency other

theorem unsubscribe_inv (inv : Inv state) (handle : (route, version) ∈ state.subscriptions) :
    Inv (state.unsubscribe route version) := by
  obtain ⟨handler, registered⟩ := inv.numbered.handles route version handle
  have positive := (inv.numbered.bounds route version handler registered).1
  unfold State.unsubscribe
  split
  · rename_i different
    refine ⟨inv.coherent.unsubscribe_other fun here => different ?_,
      inv.numbered.unsubscribe handle rfl rfl rfl⟩
    rw [here]
    rfl
  · rename_i own
    have here : state.workerVersions.lookup route = some version := by
      cases stored : state.workerVersions.lookup route with
      | none =>
        rw [stored] at own
        have zero : 0 = version := by simpa using own
        rw [← zero] at positive
        cases positive
      | some other =>
        rw [stored] at own
        have same : other = version := by simpa using own
        rw [same]
    exact ⟨inv.coherent.unsubscribe_own here, inv.numbered.unsubscribe handle rfl rfl rfl⟩

theorem step_inv [DecidableEq Handler] {valid : Route → Bool}
    {event : Event Route Handler} (inv : Inv state) (met : Undisturbed state event)
    (stepped : step valid state event = some after) : Inv after := by
  obtain ⟨enabled, rfl⟩ := guarded_eq_some_iff.mp stepped
  have same : ∀ route, state.workers.lookup route = state.workers.lookup route := fun _ => rfl
  cases event with
  | register registration =>
    dsimp only [next]
    split
    · exact inv
    · exact inv.keep same rfl rfl rfl rfl rfl
  | store registration =>
    have stored : Inv (state.store registration) :=
      ⟨store_coherent inv met.1 met.2, store_numbered inv met.1 met.2⟩
    exact stored.keep (fun _ => rfl) rfl rfl rfl rfl rfl
  | unsubscribe route version => exact unsubscribe_inv inv enabled
  | commit restore => exact inv.keep (Table.lookup_fill_of_agree met) rfl rfl rfl rfl rfl
  | _ => exact inv.keep same rfl rfl rfl rfl rfl

theorem Inv.absent (inv : Inv state) (absent : state.workerVersions.lookup route = none) :
    state.workers.lookup route = none ∧ state.workerConcurrency.lookup route = none := by
  refine ⟨?_, (inv.coherent.concurrency route).mpr absent⟩
  rw [Option.eq_none_iff_forall_ne_some]
  intro handler stored
  obtain ⟨version, here, _⟩ := (inv.coherent.stored route handler).mp stored
  rw [absent] at here
  cases here

theorem Inv.gone (inv : Inv state) (unsubscribed : .unsubscribed route version ∈ state.history)
    (last : ∀ later handler, .registered route later handler ∈ state.history → later ≤ version) :
    state.workerVersions.lookup route = none := by
  rw [Option.eq_none_iff_forall_ne_some]
  intro stored here
  obtain ⟨⟨handler, registered⟩, kept⟩ := (inv.coherent.live route stored).mp here
  obtain ⟨own, ownRegistered⟩ := inv.numbered.known route version unsubscribed
  have notLater := last stored handler registered
  have different : stored ≠ version := by
    rintro rfl
    exact kept unsubscribed
  have earlier : stored < version := UInt64.lt_of_le_of_ne notLater different
  exact kept (inv.numbered.superseded _ _ _ _ _ registered ownRegistered earlier)

end Steps

/-! ## Runs -/

variable [DecidableEq Handler]

/-- If no handler is stored over another one and no restore copies back what has
changed: the maps have the same routes, an unsubscribed route is in none of
them, and the handler of a route is the one of its only registration. -/
theorem worker_tables_are_coherent {valid : Route → Bool} {events : List (Event Route Handler)}
    {final : State Route Handler} (met : Along (step valid) Undisturbed initial events)
    (ran : run (step valid) initial events = some final) :
    (∀ route, (final.workers.lookup route = none ↔ final.workerVersions.lookup route = none) ∧
      (final.workerConcurrency.lookup route = none ↔ final.workerVersions.lookup route = none)) ∧
    (∀ route version, .unsubscribed route version ∈ final.history →
      (∀ later handler, .registered route later handler ∈ final.history → later ≤ version) →
      final.workers.lookup route = none ∧
        final.workerVersions.lookup route = none ∧
        final.workerConcurrency.lookup route = none) ∧
    (∀ route handler, final.workers.lookup route = some handler →
      ∃ version, final.workerVersions.lookup route = some version ∧
        .registered route version handler ∈ final.history ∧
        ∀ other otherHandler, .registered other version otherHandler ∈ final.history →
          other = route ∧ otherHandler = handler) ∧
    Throughout Once final.history := by
  have inv := invariant_along Inv step_inv initial_inv met ran
  refine ⟨fun route => ⟨⟨fun absent => ?_, fun absent => ?_⟩,
    inv.coherent.concurrency route⟩, fun route version unsubscribed last => ?_,
    fun route handler stored => ?_, inv.numbered.once⟩
  · rw [Option.eq_none_iff_forall_ne_some]
    intro version here
    obtain ⟨⟨handler, registered⟩, _⟩ := (inv.coherent.live route version).mp here
    have stored := (inv.coherent.stored route handler).mpr ⟨version, here, registered⟩
    rw [absent] at stored
    cases stored
  · exact (inv.absent absent).1
  · have absent := inv.gone unsubscribed last
    exact ⟨(inv.absent absent).1, absent, (inv.absent absent).2⟩
  · obtain ⟨version, here, registered⟩ := (inv.coherent.stored route handler).mp stored
    refine ⟨version, here, registered, fun other otherHandler listed => ?_⟩
    obtain ⟨sameRoute, sameHandler⟩ := inv.numbered.unique _ _ _ _ _ registered listed
    exact ⟨sameRoute.symm, sameHandler.symm⟩

def renewedRun : List (Event Nat Nat) :=
  [.register ⟨0, 1, 7⟩, .acknowledge ⟨0, 1, 7⟩, .store ⟨0, 1, 7⟩,
    .snapshot [0], .restored ⟨[(0, 7)], [0], []⟩, .commit ⟨[(0, 7)], [], [0]⟩,
    .unsubscribe 0 1, .unsubscribed 0, .register ⟨0, 2, 8⟩,
    .acknowledge ⟨0, 2, 8⟩, .store ⟨0, 2, 8⟩]

theorem renewedRun_is_coherent : ∃ final, run (step fun _ => true) initial renewedRun = some final ∧
      final.workers.lookup 0 = some 8 ∧
      (∃ version, final.workerVersions.lookup 0 = some version ∧
        .registered 0 version 8 ∈ final.history ∧
        ∀ other otherHandler, .registered other version otherHandler ∈ final.history →
          other = 0 ∧ otherHandler = 8) ∧
      Throughout Once final.history := by
  obtain ⟨final, ran, seen⟩ : ∃ final, run (step fun _ => true) initial renewedRun = some final ∧
        final.workers.lookup 0 = some 8 := by
    decide +kernel
  obtain ⟨_, _, stored, once⟩ := worker_tables_are_coherent (by decide +kernel) ran
  exact ⟨final, ran, seen, stored 0 8 seen, once⟩

/-- The worker is unsubscribed between the two sections of a restore. -/
def staleRestoreRun : List (Event Nat Nat) :=
  [.register ⟨0, 1, 7⟩, .acknowledge ⟨0, 1, 7⟩, .store ⟨0, 1, 7⟩,
    .snapshot [0], .unsubscribe 0 1, .unsubscribed 0,
    .restored ⟨[(0, 7)], [0], []⟩, .commit ⟨[(0, 7)], [], [0]⟩]

/-- Two calls have looked for the route before either has stored it. -/
def doubledRun : List (Event Nat Nat) :=
  [.register ⟨0, 1, 7⟩, .register ⟨0, 1, 8⟩, .acknowledge ⟨0, 1, 7⟩,
    .acknowledge ⟨0, 1, 8⟩, .store ⟨0, 1, 7⟩, .store ⟨0, 1, 8⟩]

/-- With no call in progress, a route that was unsubscribed is among the
handlers only; and two registrations of a route have succeeded with no
`Unsubscribe` between them. -/
theorem worker_tables_come_apart :
    (∃ final, run (step fun _ => true) initial staleRestoreRun = some final ∧
      final.quiet = true ∧ .unsubscribed 0 1 ∈ final.history ∧
      final.workers.lookup 0 = some 7 ∧
      final.workerVersions.lookup 0 = none ∧
      final.workerConcurrency.lookup 0 = none) ∧
    (∃ final, run (step fun _ => true) initial doubledRun = some final ∧
      final.quiet = true ∧
      final.history = [.registered 0 1 7, .registered 0 2 8]) := by
  refine ⟨⟨_, rfl, rfl, ?_, rfl, rfl, rfl⟩, ⟨_, rfl, rfl, rfl⟩⟩
  decide

end FitzGo.Domains.RpcWorkers
