import FitzGo.Client.SessionSteps

/-!
# Every established session carries the registrations
-/

namespace FitzGo.Client.Sessions

open StepMachine

private theorem step_carries {state final : State} {event : Event} (inv : Carries state)
    (carrying : Carrying state event) (stepped : step state event = some final) :
    Carries final := by
  obtain ⟨enabled, rfl⟩ := guarded_eq_some_iff.mp stepped
  cases event with
  | lose conn => exact inv.lose conn
  | monitorClear conn => exact inv.monitorClear enabled.1 enabled.2
  | connectStore conn =>
    obtain ⟨_, free, fresh⟩ := enabled
    exact inv.connectStore free fresh (fun domain => carrying domain (mem_allDomains domain))
  | connectReplace conn domain left => exact inv.connectReplace enabled carrying
  | connectReport conn =>
    have atConnect : state.connect.conn? = some conn := by
      rw [enabled]
      rfl
    exact inv.connectReport atConnect carrying
  | loopStore conn => exact inv.loopStore enabled.2
  | loopReplace conn domain left => exact inv.loopReplace enabled
  | loopReplaced conn => exact inv.loopReplaced enabled
  | restoreBegin conn domain left => exact inv.restoreBegin enabled.1
  | restoreSend conn domain left key via todo done => exact inv.restoreSend enabled.1 enabled.2
  | restoreAck conn domain left key via todo done => exact inv.restoreAck enabled.1
  | restoreCommit conn domain left done => exact inv.restoreCommit enabled carrying
  | restoreFail conn => exact (inv.lose conn).loopIdle
  | loopReport conn => exact inv.loopReport enabled
  | insert call domain key conn =>
    apply Carries.calls
    apply inv.changeTables
    intro other registration member
    by_cases same : other = domain
    · subst same
      rw [Function.update_self] at member
      rcases mem_insertInto member with old | new
      · exact Or.inl old
      · rw [new]
        exact Or.inr carrying
    · rw [Function.update_of_ne same] at member
      exact Or.inl member
  | unsubscribe domain registration =>
    apply inv.changeTables
    intro other candidate member
    by_cases same : other = domain
    · subst same
      rw [Function.update_self] at member
      exact Or.inl (List.mem_of_mem_erase member)
    · rw [Function.update_of_ne same] at member
      exact Or.inl member
  | _ => exact inv.calls _ _

/-- The last session that was reported, while its connection is alive, has
every registration of the tables acknowledged on its connection, and a
`Subscribe` that returns at once has found such a registration. -/
structure SessionComplete (state : State) : Prop where
  registrations : ∀ conn, state.established = some conn → state.alive conn = true →
    ∀ domain, ∀ registration ∈ state.table domain, registration.acked = conn
  reuse : ∀ conn, state.established = some conn → state.alive conn = true →
    ∀ call domain key after, step state (.subscribe call domain key) = some after →
    after.calls call = .finished → state.current = some conn ∧
    ∃ registration ∈ state.table domain, registration.key = key ∧ registration.acked = conn

private theorem exists_of_reuse {state after : State} {call : Nat} {domain : Domain} {key : String}
    (stepped : step state (.subscribe call domain key) = some after)
    (returned : after.calls call = .finished) :
    ∃ registration ∈ state.table domain, registration.key = key := by
  obtain ⟨_, same⟩ := guarded_eq_some_iff.mp stepped
  rw [← same] at returned
  simp only [next, Function.update_self] at returned
  split at returned
  · rename_i reuses
    have known : key ∈ (state.table domain).map Registration.key := (of_decide_eq_true reuses).2
    exact List.mem_map.mp known
  · contradiction

theorem reported_session_carries_registrations (events : List Event) (final : State)
    (ran : run step initial events = some final) (carrying : Along step Carrying initial events) :
    SessionComplete final := by
  have inv : Carries final := invariant_along Carries step_carries initial_carries carrying ran
  constructor
  · intro conn isEstablished isAlive
    exact (inv.established conn isEstablished isAlive).2
  · intro conn isEstablished isAlive call domain key after stepped returned
    obtain ⟨current, acked⟩ := inv.established conn isEstablished isAlive
    obtain ⟨registration, member, sameKey⟩ := exists_of_reuse stepped returned
    exact ⟨current, registration, member, sameKey, acked domain registration member⟩

/-- One event for each domain, which also has the domains after it. -/
def eachDomain (event : Domain → List Domain → List Event) : List Domain → List Event
  | [] => []
  | domain :: left => event domain left ++ eachDomain event left

def connectRun (conn : Nat) : List Event :=
  .connectStore conn :: eachDomain (fun domain left => [.connectReplace conn domain left])
      allDomains ++ [.connectReport conn]

def subscribeRun (call : Nat) (domain : Domain) (key : String) (conn : Nat) : List Event :=
  [.subscribe call domain key, .send call domain key conn,
    .ack call domain key conn, .insert call domain key conn]

def restoreRun (conn : Nat) (key? : Option String)
    (domain : Domain) (left : List Domain) : List Event :=
  match key? with
  | none => [.restoreBegin conn domain left, .restoreCommit conn domain left []]
  | some key =>
    [.restoreBegin conn domain left, .restoreSend conn domain left key conn [] [],
      .restoreAck conn domain left key conn [] [],
      .restoreCommit conn domain left [⟨key, conn⟩]]

def reconnectRun (conn : Nat) (keys : Domain → Option String) : List Event :=
  .loopStore conn :: eachDomain (fun domain left => [.loopReplace conn domain left])
      allDomains ++ .loopReplaced conn ::
    eachDomain (fun domain => restoreRun conn (keys domain) domain) allDomains ++ [.loopReport conn]

def oneOfEach : Domain → Option String
  | .kv => some "a"
  | .lease => some "l"
  | .rpc => some "r"
  | .notice | .queue | .stream | .schedule => none

/-- Registrations of a registry, of the lease client and of the RPC client, a
loss, and the reconnect. -/
def reconnectedRun : List Event :=
  connectRun 0 ++ subscribeRun 0 .kv "a" 0 ++
    subscribeRun 1 .lease "l" 0 ++ subscribeRun 2 .rpc "r" 0 ++
    [.lose 0, .monitorClear 0] ++ reconnectRun 1 oneOfEach

theorem reconnectedRun_carries_registrations : ∃ final,
      run step initial reconnectedRun = some final ∧
        final.established = some 1 ∧ final.alive 1 = true ∧
        final.table .kv = [⟨"a", 1⟩] ∧ final.table .lease = [⟨"l", 1⟩] ∧
        final.table .rpc = [⟨"r", 1⟩] ∧ SessionComplete final := by
  simp only [← and_assoc]
  apply exists_and_kept
  · simp only [and_assoc]
    decide +kernel
  · rintro final ⟨⟨⟨⟨⟨ran, -⟩, -⟩, -⟩, -⟩, -⟩
    exact reported_session_carries_registrations reconnectedRun final ran (by decide +kernel)

def connectedAgainRun : List Event :=
  connectRun 0 ++ subscribeRun 0 .kv "a" 0 ++ [.lose 0, .monitorClear 0] ++ connectRun 1

theorem second_connect_leaves_registrations_behind : ∃ final,
      run step initial connectedAgainRun = some final ∧
        final.established = some 1 ∧ final.alive 1 = true ∧
        final.table .kv = [⟨"a", 0⟩] ∧
        (step final (.subscribe 1 .kv "a")).map (fun after => after.calls 1) = some .finished ∧
        ¬ SessionComplete final := by
  simp only [← and_assoc]
  apply exists_and_kept
  · simp only [and_assoc]
    decide +kernel
  rintro final ⟨⟨⟨⟨-, established⟩, alive⟩, kv⟩, -⟩ complete
  have acked := complete.registrations 1 established alive .kv ⟨"a", 0⟩
    (by rw [kv]; exact List.mem_singleton_self _)
  contradiction

end FitzGo.Client.Sessions
