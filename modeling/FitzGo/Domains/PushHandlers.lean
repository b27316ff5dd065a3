import Mathlib.Logic.Function.Basic
import FitzGo.Library.StepMachine

/-!
# Push handlers and the connection they are installed on

A client installs its push handlers when they are first needed, and
`ReplaceConnection` installs them again if a flag says so. Notice, queue,
stream, rpc and lease hold one mutex in both functions; KV holds it in the first
only to read the connection, and schedule has another mutex there.
-/

namespace FitzGo.Domains.PushHandlers

open StepMachine

inductive Client
  | kv
  | notice
  | queue
  | stream
  | schedule
  | lease
  | rpc

inductive Handler
  | kvNotify
  | noticeNotify
  | queueNotify
  | streamNotify
  | scheduleNotify
  | leaseNotify
  | leaseAcquire
  | rpcResponse
  | rpcRequest
  | rpcLifecycle
  deriving DecidableEq

/-- The functions that install handlers on first use: `initNotifyHandler` and
its like, `initRPCHandler`, and the `acquireOnce` of `Acquire`. -/
inductive Installer
  | kvNotify
  | noticeNotify
  | queueNotify
  | streamNotify
  | scheduleNotify
  | leaseNotify
  | leaseAcquire
  | rpc
  deriving DecidableEq

def installers : Client → List Installer
  | .kv => [.kvNotify]
  | .notice => [.noticeNotify]
  | .queue => [.queueNotify]
  | .stream => [.streamNotify]
  | .schedule => [.scheduleNotify]
  | .lease => [.leaseNotify, .leaseAcquire]
  | .rpc => [.rpc]

def handlers : Installer → List Handler
  | .kvNotify => [.kvNotify]
  | .noticeNotify => [.noticeNotify]
  | .queueNotify => [.queueNotify]
  | .streamNotify => [.streamNotify]
  | .scheduleNotify => [.scheduleNotify]
  | .leaseNotify => [.leaseNotify]
  | .leaseAcquire => [.leaseAcquire]
  | .rpc => [.rpcResponse, .rpcRequest, .rpcLifecycle]

def owner : Handler → Installer
  | .kvNotify => .kvNotify
  | .noticeNotify => .noticeNotify
  | .queueNotify => .queueNotify
  | .streamNotify => .streamNotify
  | .scheduleNotify => .scheduleNotify
  | .leaseNotify => .leaseNotify
  | .leaseAcquire => .leaseAcquire
  | .rpcResponse | .rpcRequest | .rpcLifecycle => .rpc

variable {handler : Handler} {installer : Installer}

private theorem mem_handlers_iff : handler ∈ handlers installer ↔ owner handler = installer := by
  cases handler <;> cases installer <;> decide

/-- The installer holds the mutex of `ReplaceConnection` to its end. -/
def holdsMutex : Installer → Bool
  | .noticeNotify | .queueNotify | .streamNotify | .leaseNotify | .rpc => true
  | .kvNotify | .scheduleNotify | .leaseAcquire => false

/-- The installer takes that mutex to read the connection. -/
def locksToRead : Installer → Bool
  | .noticeNotify | .queueNotify | .streamNotify | .leaseNotify | .rpc
  | .kvNotify => true
  | .scheduleNotify | .leaseAcquire => false

def flagged : Installer → Bool
  | .leaseAcquire => false
  | .kvNotify | .noticeNotify | .queueNotify | .streamNotify
  | .scheduleNotify | .leaseNotify | .rpc => true

/-- Where an installer is: not yet used, with the connection that it has read
and the handlers it has still to register there, done. -/
inductive Phase
  | fresh
  | running (conn : Nat) (left : List Handler)
  | done
  deriving DecidableEq

def Phase.isRunning : Phase → Bool
  | .running _ _ => true
  | .fresh | .done => false

def Phase.conn? : Phase → Option Nat
  | .running conn _ => some conn
  | .fresh | .done => none

/-- `replacing` is `ReplaceConnection` between setting the connection and
looking at the flag. -/
structure State where
  conn : Nat
  replacing : Bool
  phases : Installer → Phase
  installed : Handler → Nat → Bool

def initial : State where
  conn := 0
  replacing := false
  phases _ := .fresh
  installed _ _ := false

inductive Event
  | read (installer : Installer)
  | register (installer : Installer) (conn : Nat) (handler : Handler) (left : List Handler)
  | finish (installer : Installer) (conn : Nat)
  | replaceConn
  | reregister

def Enabled (client : Client) (state : State) : Event → Prop
  | .read installer =>
    installer ∈ installers client ∧
      state.phases installer = .fresh ∧
      (locksToRead installer = true → state.replacing = false)
  | .register installer conn handler left =>
    state.phases installer = .running conn (handler :: left)
  | .finish installer conn => state.phases installer = .running conn []
  | .replaceConn =>
    state.replacing = false ∧
      ∀ installer ∈ installers client, holdsMutex installer = true →
        (state.phases installer).isRunning = false
  | .reregister => state.replacing = true

instance (client : Client) (state : State) (event : Event) :
    Decidable (Enabled client state event) := by
  cases event <;> dsimp only [Enabled] <;> infer_instance

/-- `RegisterNotifyHandler` and the other functions that register. -/
def State.install (state : State) (handler : Handler) (conn : Nat) : Handler → Nat → Bool :=
  fun one on => state.installed one on || (decide (one = handler) && decide (on = conn))

/-- The end of `ReplaceConnection`: the handlers of every installer whose flag
is set are registered on the new connection. -/
def State.reinstall (state : State) : Handler → Nat → Bool :=
  fun handler on =>
    state.installed handler on || (flagged (owner handler) &&
        decide (state.phases (owner handler) = .done) &&
        decide (on = state.conn))

def next (state : State) : Event → State
  | .read installer =>
    { state with
      phases := Function.update state.phases installer (.running state.conn (handlers installer)) }
  | .register installer conn handler left =>
    { state with
      installed := state.install handler conn
      phases := Function.update state.phases installer (.running conn left) }
  | .finish installer _ => { state with phases := Function.update state.phases installer .done }
  | .replaceConn => { state with conn := state.conn + 1, replacing := true }
  | .reregister => { state with installed := state.reinstall, replacing := false }

def step (client : Client) : State → Event → Option State :=
  guarded (Enabled client) next

/-! ## What is claimed -/

def Quiet (client : Client) (state : State) : Prop :=
  state.replacing = false ∧
    ∀ installer ∈ installers client, (state.phases installer).isRunning = false

instance (client : Client) (state : State) : Decidable (Quiet client state) :=
  inferInstanceAs (Decidable (_ ∧ _))

/-- What was ever installed is installed on the current connection. -/
def Follows (state : State) : Prop :=
  ∀ handler conn, state.installed handler conn = true → state.installed handler state.conn = true

/-- The connection is replaced before the first `Acquire` only, and when
`ReplaceConnection` looks at the flag, no first use of KV or schedule that has
read an earlier connection has still to set it. -/
def InTime (client : Client) (state : State) : Event → Prop
  | .replaceConn => state.phases .leaseAcquire = .fresh
  | .reregister =>
    ∀ installer ∈ installers client, holdsMutex installer = false →
      ∀ conn ∈ (state.phases installer).conn?, conn = state.conn
  | .read _ | .register _ _ _ _ | .finish _ _ => True

instance (client : Client) (state : State) (event : Event) :
    Decidable (InTime client state event) := by
  cases event <;> dsimp only [InTime] <;> infer_instance

/-! ## The invariant -/

structure Running (state : State) (installer : Installer) (conn : Nat)
    (left : List Handler) : Prop where
  current : conn = state.conn ∨ (state.replacing = true ∧ flagged installer = true ∧
    holdsMutex installer = false)
  own : ∀ handler ∈ left, owner handler = installer
  registered : ∀ handler, owner handler = installer →
    handler ∈ left ∨ state.installed handler conn = true

/-- An installer that is done is installed on the current connection, or
`ReplaceConnection` will see its flag. -/
def Done (state : State) (installer : Installer) : Prop :=
  (state.replacing = true ∧ flagged installer = true) ∨
    ∀ handler, owner handler = installer → state.installed handler state.conn = true

structure Inv (client : Client) (state : State) : Prop where
  mine : ∀ installer, state.phases installer ≠ .fresh → installer ∈ installers client
  owned : ∀ handler conn, state.installed handler conn = true →
    state.phases (owner handler) ≠ .fresh
  running : ∀ installer conn left, state.phases installer = .running conn left →
    Running state installer conn left
  done : ∀ installer, state.phases installer = .done → Done state installer

theorem initial_inv (client : Client) : Inv client initial where
  mine installer used := absurd rfl used
  owned handler conn here := by
    cases here
  running installer conn left here := by
    cases here
  done installer here := by
    cases here

variable {client : Client} {state : State}

private theorem installed_install {one : Handler} {conn on : Nat} :
    state.install handler conn one on = true ↔
      state.installed one on = true ∨ (one = handler ∧ on = conn) := by
  simp [State.install]

private theorem installed_reinstall {on : Nat} :
    state.reinstall handler on = true ↔ state.installed handler on = true ∨
      (flagged (owner handler) = true ∧
      state.phases (owner handler) = .done ∧ on = state.conn) := by
  simp [State.reinstall, and_assoc]

section

variable (inv : Inv client state)
include inv

theorem Inv.move {phase : Phase} {installed : Handler → Nat → Bool}
    (member : installer ∈ installers client) (busy : phase ≠ .fresh)
    (grown : ∀ handler on, state.installed handler on = true → installed handler on = true)
    (own : ∀ handler on, installed handler on = true →
      state.installed handler on = true ∨ owner handler = installer)
    (running : ∀ conn left, phase = .running conn left →
      Running { state with installed } installer conn left)
    (done : phase = .done → Done { state with installed } installer) :
    Inv client { state with
        phases := Function.update state.phases installer phase
        installed } := by
  refine ⟨fun other used => ?_, fun handler on here => ?_,
    fun other conn left here => ?_, fun other here => ?_⟩
  · by_cases same : other = installer
    · rw [same]
      exact member
    · simp only [Function.update_of_ne same] at used
      exact inv.mine other used
  · by_cases same : owner handler = installer
    · simp only [same, Function.update_self]
      exact busy
    · simp only [Function.update_of_ne same]
      rcases own handler on here with old | mine
      · exact inv.owned handler on old
      · exact absurd mine same
  · by_cases same : other = installer
    · subst same
      simp only [Function.update_self] at here
      exact { running conn left here with }
    · simp only [Function.update_of_ne same] at here
      have before := inv.running other conn left here
      refine { before with registered := fun handler mine => ?_ }
      exact (before.registered handler mine).imp_right (grown handler conn)
  · by_cases same : other = installer
    · subst same
      simp only [Function.update_self] at here
      exact done here
    · simp only [Function.update_of_ne same] at here
      refine (inv.done other here).imp_right fun everywhere handler mine => ?_
      exact grown handler state.conn (everywhere handler mine)

private theorem read_inv (member : installer ∈ installers client) :
    Inv client (next state (.read installer)) := by
  apply inv.move member
  · simp
  · exact fun _ _ here => here
  · exact fun _ _ here => Or.inl here
  · intro conn left same
    cases same
    refine ⟨Or.inl rfl, fun handler listed => ?_, fun handler mine => ?_⟩
    · exact mem_handlers_iff.mp listed
    · exact Or.inl (mem_handlers_iff.mpr mine)
  · intro impossible
    cases impossible

theorem register_inv {conn : Nat} {left : List Handler}
    (here : state.phases installer = .running conn (handler :: left)) :
    Inv client (next state (.register installer conn handler left)) := by
  have used : state.phases installer ≠ .fresh := by
    simp [here]
  have before := inv.running installer conn _ here
  have mine : owner handler = installer := before.own handler List.mem_cons_self
  apply inv.move (inv.mine installer used)
  · simp
  · intro one on old
    exact installed_install.mpr (Or.inl old)
  · intro one on now
    rcases installed_install.mp now with old | ⟨rfl, _⟩
    · exact Or.inl old
    · exact Or.inr mine
  · intro on rest same
    cases same
    refine ⟨before.current, fun one listed => ?_, fun one own => ?_⟩
    · exact before.own one (List.mem_cons_of_mem _ listed)
    · rcases before.registered one own with listed | old
      · rcases List.mem_cons.mp listed with rfl | later
        · exact Or.inr (installed_install.mpr (Or.inr ⟨rfl, rfl⟩))
        · exact Or.inl later
      · exact Or.inr (installed_install.mpr (Or.inl old))
  · intro impossible
    cases impossible

private theorem finish_inv {conn : Nat} (here : state.phases installer = .running conn []) :
    Inv client (next state (.finish installer conn)) := by
  have used : state.phases installer ≠ .fresh := by
    simp [here]
  have before := inv.running installer conn [] here
  apply inv.move (inv.mine installer used)
  · simp
  · exact fun _ _ old => old
  · exact fun _ _ old => Or.inl old
  · intro on rest same
    cases same
  · intro _
    rcases before.current with rfl | ⟨replacing, flag, _⟩
    · right
      intro handler mine
      rcases before.registered handler mine with listed | installed
      · cases listed
      · exact installed
    · exact Or.inl ⟨replacing, flag⟩

end

theorem flagged_of_ne (different : installer ≠ .leaseAcquire) : flagged installer = true := by
  cases installer with
  | leaseAcquire => exact absurd rfl different
  | _ => rfl

private theorem replaceConn_inv (inv : Inv client state)
    (unlocked : ∀ installer ∈ installers client, holdsMutex installer = true →
      (state.phases installer).isRunning = false) (unused : state.phases .leaseAcquire = .fresh) :
    Inv client (next state .replaceConn) := by
  have flag : ∀ installer, state.phases installer ≠ .fresh → flagged installer = true := by
    intro installer used
    apply flagged_of_ne
    rintro rfl
    exact used unused
  refine ⟨inv.mine, inv.owned, fun installer conn left here => ?_, fun installer here => ?_⟩
  · have phase : state.phases installer = .running conn left := here
    have used : state.phases installer ≠ .fresh := by
      simp [phase]
    have before := inv.running installer conn left phase
    have free : holdsMutex installer = false := by
      cases holds : holdsMutex installer with
      | false => rfl
      | true =>
        have waits := unlocked installer (inv.mine installer used) holds
        simp [phase, Phase.isRunning] at waits
    exact ⟨Or.inr ⟨rfl, flag installer used, free⟩, before.own, before.registered⟩
  · have used : state.phases installer ≠ .fresh := by
      have phase : state.phases installer = .done := here
      simp [phase]
    exact Or.inl ⟨rfl, flag installer used⟩

theorem reregister_inv (inv : Inv client state)
    (read : ∀ installer ∈ installers client, holdsMutex installer = false →
      ∀ conn ∈ (state.phases installer).conn?, conn = state.conn) :
    Inv client (next state .reregister) := by
  refine ⟨inv.mine, fun handler on here => ?_,
    fun installer conn left here => ?_, fun installer here => ?_⟩
  · rcases installed_reinstall.mp here with old | ⟨_, phase, _⟩
    · exact inv.owned handler on old
    · simp [next, phase]
  · have phase : state.phases installer = .running conn left := here
    have used : state.phases installer ≠ .fresh := by
      simp [phase]
    have before := inv.running installer conn left phase
    refine ⟨Or.inl ?_, before.own, fun handler mine => ?_⟩
    · rcases before.current with same | ⟨_, _, free⟩
      · exact same
      · apply read installer (inv.mine installer used) free
        simp [phase, Phase.conn?]
    · exact (before.registered handler mine).imp_right fun installed =>
        installed_reinstall.mpr (Or.inl installed)
  · have phase : state.phases installer = .done := here
    right
    intro handler mine
    apply installed_reinstall.mpr
    rcases inv.done installer phase with ⟨_, flag⟩ | everywhere
    · subst mine
      exact Or.inr ⟨flag, phase, rfl⟩
    · exact Or.inl (everywhere handler mine)

/-! ## Runs -/

theorem step_inv {after : State} {event : Event} (inv : Inv client state)
    (met : InTime client state event)
    (stepped : step client state event = some after) : Inv client after := by
  obtain ⟨enabled, rfl⟩ := guarded_eq_some_iff.mp stepped
  cases event with
  | read installer => exact read_inv inv enabled.1
  | register installer conn handler left => exact register_inv inv enabled
  | finish installer conn => exact finish_inv inv enabled
  | replaceConn => exact replaceConn_inv inv enabled.2 met
  | reregister => exact reregister_inv inv met

/-- Whenever no call is in progress, every handler that the client has ever
installed is installed on its connection. -/
theorem handlers_follow_the_connection {events : List Event} {final : State}
    (met : Along (step client) (InTime client) initial events)
    (ran : run (step client) initial events = some final)
    (quiet : Quiet client final) : Follows final := by
  have inv := invariant_along (Inv client) step_inv (initial_inv client) met ran
  intro handler conn installed
  have used := inv.owned handler conn installed
  have stopped := quiet.2 (owner handler) (inv.mine _ used)
  cases phase : final.phases (owner handler) with
  | fresh => exact absurd phase used
  | running on left => simp [phase, Phase.isRunning] at stopped
  | done =>
    rcases inv.done (owner handler) phase with ⟨replacing, _⟩ | everywhere
    · rw [quiet.1] at replacing
      cases replacing
    · exact everywhere handler rfl

/-- The first `Subscribe` has read the connection when it is replaced, but sets
its flag before `ReplaceConnection` looks at it. -/
def kvRun : List Event :=
  [.read .kvNotify, .replaceConn, .register .kvNotify 0 .kvNotify [], .finish .kvNotify 0,
    .reregister, .replaceConn, .reregister]

theorem kvRun_follows : ∃ final, run (step .kv) initial kvRun = some final ∧
      Follows final ∧ final.installed .kvNotify 2 = true := by
  obtain ⟨final, ran, quiet, installed⟩ : ∃ final, run (step .kv) initial kvRun = some final ∧
        Quiet .kv final ∧ final.installed .kvNotify 2 = true := by
    decide +kernel
  exact ⟨final, ran, handlers_follow_the_connection (by decide +kernel) ran quiet, installed⟩

def acquireRun : List Event :=
  [.read .leaseAcquire, .register .leaseAcquire 0 .leaseAcquire [],
    .finish .leaseAcquire 0, .replaceConn, .reregister]

/-- The first `Subscribe` has read the connection when it is replaced, and
`ReplaceConnection` finds the flag unset. -/
def firstUseRun (installer : Installer) (handler : Handler) : List Event :=
  [.read installer, .replaceConn, .reregister,
    .register installer 0 handler [], .finish installer 0]

/-- The handler for deferred grants stays on the first connection, and so does
the notify handler of KV or schedule if its installation races with the
replacement. -/
theorem handlers_stay_on_the_first_connection :
    (∃ final, run (step .lease) initial acquireRun = some final ∧
      Quiet .lease final ∧ ¬ Follows final) ∧
    (∃ final, run (step .kv) initial (firstUseRun .kvNotify .kvNotify) = some final ∧
      Quiet .kv final ∧ ¬ Follows final) ∧
    ∃ final, run (step .schedule) initial
        (firstUseRun .scheduleNotify .scheduleNotify) = some final ∧
      Quiet .schedule final ∧ ¬ Follows final := by
  have stays : ∀ {client : Client} {events : List Event} (handler : Handler),
      (∃ final, run (step client) initial events = some final ∧ Quiet client final ∧
        final.conn = 1 ∧ final.installed handler 0 = true ∧
        final.installed handler 1 = false) →
      ∃ final, run (step client) initial events = some final ∧
        Quiet client final ∧ ¬ Follows final := by
    rintro client events handler ⟨final, ran, quiet, conn, first, second⟩
    refine ⟨final, ran, quiet, fun follows => ?_⟩
    have now := follows handler 0 first
    rw [conn, second] at now
    cases now
  exact ⟨stays .leaseAcquire (by decide +kernel), stays .kvNotify (by decide +kernel),
    stays .scheduleNotify (by decide +kernel)⟩

end FitzGo.Domains.PushHandlers
