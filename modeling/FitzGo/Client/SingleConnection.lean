import FitzGo.Client.Turns

/-!
# One open connection
-/

namespace FitzGo.Client.Lifecycle

open StepMachine

structure Settled (state : State) : Prop where
  connectDials : state.connect ≠ .dialing
  loopDials : state.loop ≠ .dialing
  attaches : ∀ caller, state.attach? caller = none

def OpenIsCurrent (state : State) : Prop :=
  ∀ conn, state.conns conn = .open → state.current = some conn

/-- Taking turns keeps the loop from storing over an open connection, and with
that every connection has its owner. -/
structure Orderly (state : State) : Prop where
  monitored : Monitored state
  alone : LoopAlone state
  owned : Owned state

private theorem initial_orderly : Orderly initial :=
  ⟨initial_monitored, initial_loopAlone, initial_owned⟩

private theorem step_orderly {config : Config} {state final : State} {event : Event}
    (inv : Orderly state) (turns : TakesTurns state event)
    (stepped : step config state event = some final) : Orderly final := by
  have overwrites : OverwritesNoOpen state event :=
    inv.alone.overwritesNoOpen (guarded_eq_some_iff.mp stepped).1
  exact
    { monitored := step_monitored inv.monitored stepped
      alone := step_loopAlone inv.monitored inv.alone turns stepped
      owned := step_owned inv.owned overwrites stepped }

theorem open_connection_is_current (config : Config) (events : List Event) (final : State)
    (ran : run (step config) initial events = some final)
    (turns : Along (step config) TakesTurns initial events) (settled : Settled final) :
    OpenIsCurrent final := by
  have inv : Orderly final := invariant_along Orderly step_orderly initial_orderly turns ran
  intro conn isOpen
  rcases inv.owned.owned conn isOpen with
    current | ⟨caller, phase, attach, _⟩
  · exact current
  · rw [settled.attaches caller] at attach
    contradiction

def attachRun (caller : Caller) (conn : Nat) : List Event :=
  match caller with
  | .connect =>
    [.attachLock .connect conn, .attachCheckClosed .connect conn,
      .attachCheckCurrent conn, .attachStore .connect conn,
      .attachUnlock .connect conn, .attachMonitor .connect conn]
  | .loop =>
    [.attachLock .loop conn, .attachCheckClosed .loop conn,
      .attachStore .loop conn, .attachUnlock .loop conn,
      .attachMonitor .loop conn]

def connectRun (conn : Nat) : List Event :=
  [.connectEnter, .connectLook, .connectDial conn] ++ attachRun .connect conn

def lossRun (conn : Nat) : List Event :=
  [.lose conn, .monitorCompare conn, .monitorSwap conn,
    .monitorPass conn, .monitorEnter conn, .loopCheck]

def defaultConfig : Config where
  reconnectEnabled := true
  maxReconnects := 0
  reconnectTimeout := 0

def reconnectedRun : List Event :=
  connectRun 0 ++ lossRun 0 ++ [.connectEnter, .connectLook, .connectDial 1, .loopDial 2] ++
    attachRun .loop 2 ++
    [.attachLock .connect 1, .attachCheckClosed .connect 1,
      .attachCheckCurrent 1, .attachRefuse .connect 1,
      .restoreDone 2, .loopClear true]

theorem reconnectedRun_has_one_open_connection : ∃ final,
      run (step defaultConfig) initial reconnectedRun = some final ∧
        final.conns 1 = .ended ∧ final.conns 2 = .open ∧
        OpenIsCurrent final := by
  refine ⟨_, rfl, rfl, rfl, ?_⟩
  apply open_connection_is_current defaultConfig reconnectedRun _ rfl
  · decide
  · exact ⟨nofun, nofun, fun caller => by cases caller <;> rfl⟩

/-- While the loop dials connection 2, a `Connect` attaches connection 1; the
loop then stores its own over it. -/
def overwritingRun : List Event :=
  connectRun 0 ++ lossRun 0 ++ connectRun 1 ++ .loopDial 2 ::
    attachRun .loop 2 ++ [.restoreDone 2, .loopClear true]

theorem loop_overwrites_open_connection : ∃ final,
      run (step defaultConfig) initial overwritingRun = some final ∧
        Settled final ∧ final.current = some 2 ∧ final.conns 1 = .open ∧
        ¬ OpenIsCurrent final := by
  refine ⟨_, rfl, ?_, rfl, rfl, ?_⟩
  · exact ⟨nofun, nofun, fun caller => by cases caller <;> rfl⟩
  · intro current
    exact absurd (current 1 rfl) (by decide)

end FitzGo.Client.Lifecycle
