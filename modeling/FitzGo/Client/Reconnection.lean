import FitzGo.Client.SingleConnection

/-!
# Reconnection is not given up

While nothing is current, a monitor is on its way to `beginReconnect` or a
reconnect loop is running. After a success the loop must not clear its flag when
the monitor of the new connection has been turned away by it.
-/

namespace FitzGo.Client.Lifecycle

open StepMachine

/-- The monitor has cleared its connection and will call `beginReconnect`. -/
def Monitor.onItsWay : Monitor → Bool
  | .swapped | .entering => true
  | .absent | .waiting | .matched | .finished => false

/-- Somebody has, or looks after, a current connection. -/
def Pursued (state : State) : Prop :=
  state.current ≠ none ∨ state.loop ≠ .idle ∨
    ∃ conn ∈ state.started, (state.monitors conn).onItsWay = true

/-- When the loop clears its flag after a success, a connection is current or
a monitor is on its way. -/
def ClearsPursued (state : State) : Event → Prop
  | .loopClear true =>
    state.current ≠ none ∨ ∃ conn ∈ state.started, (state.monitors conn).onItsWay = true
  | _ => True

instance (state : State) (event : Event) : Decidable (ClearsPursued state event) := by
  unfold ClearsPursued
  split <;> infer_instance

/-- Reconnect is enabled, without a limit and without a timeout. -/
structure Config.Persistent (config : Config) : Prop where
  enabled : config.reconnectEnabled = true
  unlimited : config.maxReconnects ≤ 0
  untimed : config.reconnectTimeout ≤ 0

def Begun (state : State) : Prop :=
  state.connected = true ∨
    ∃ conn phase, state.attach? .connect = some (conn, phase) ∧ phase.hasStored = true

structure Pursuing (state : State) : Prop where
  closeIdle : state.close = .idle
  ctxLive : state.reconnectCtxDone = false
  notLeaving : state.loop ≠ .leaving false
  notRefused : ∀ conn, state.attach? .loop ≠ some (conn, .refused)
  pursued : Begun state → Pursued state

/-- No goroutine of a monitor or of a reconnect loop has a step left, and none
is about to be started. -/
structure Quiescent (state : State) : Prop where
  loopIdle : state.loop = .idle
  monitors : ∀ conn, state.monitors conn = .absent ∨ state.monitors conn = .finished ∨
    state.monitors conn = .waiting ∧ state.conns conn ≠ .ended
  started : ∀ conn phase, state.attach? .connect = some (conn, phase) → phase.hasStored = false

/-- The current connection is alive, or no `Connect` has succeeded. -/
def Connected (state : State) : Prop :=
  state.connected = true → ∃ conn, state.current = some conn ∧ state.conns conn = .open

private theorem initial_pursuing : Pursuing initial := by
  refine
    { closeIdle := rfl
      ctxLive := rfl
      notLeaving := nofun
      notRefused := nofun
      pursued := ?_ }
  rintro (connected | ⟨_, _, attached, _⟩)
  · contradiction
  · contradiction

theorem flags_of_next {config : Config} {state : State} {event : Event}
    (notClosed : (next config state event).closed = false)
    (notMismatched : (next config state event).mismatched = false) :
    state.closed = false ∧ state.mismatched = false := by
  cases event with
  | closeFlag => contradiction
  | loopDialFail mismatch | restoreFail conn mismatch =>
    exact ⟨notClosed, (Bool.or_eq_false_iff.mp notMismatched).1⟩
  | _ => exact ⟨notClosed, notMismatched⟩

theorem Pursued.of_monitor {state final : State} {conn : Nat}
    (idleMonitor : (state.monitors conn).onItsWay = false) (current : final.current = state.current)
    (loop : final.loop = state.loop) (started : ∀ found ∈ state.started, found ∈ final.started)
    (monitors : ∀ found, found ≠ conn → final.monitors found = state.monitors found)
    (pursued : Pursued state) : Pursued final := by
  rcases pursued with isCurrent | running | ⟨found, member, onItsWay⟩
  · exact Or.inl (current ▸ isCurrent)
  · exact Or.inr (Or.inl (loop ▸ running))
  · have different : found ≠ conn := by
      intro same
      rw [same, idleMonitor] at onItsWay
      contradiction
    refine Or.inr (Or.inr ⟨found, started found member, ?_⟩)
    rw [monitors found different]
    exact onItsWay

section Steps

variable {state final : State} (inv : Pursuing state)
include inv

theorem Pursuing.frame (sameClose : final.close = state.close)
    (sameCtx : final.reconnectCtxDone = state.reconnectCtxDone)
    (sameLoop : final.loop = state.loop) (begun : Begun final → Begun state ∨ Pursued final)
    (pursued : Pursued state → Pursued final) : Pursuing final := by
  refine
    { closeIdle := sameClose.trans inv.closeIdle
      ctxLive := sameCtx.trans inv.ctxLive
      notLeaving := ?_
      notRefused := ?_
      pursued := ?_ }
  · rw [sameLoop]
    exact inv.notLeaving
  · intro conn attached
    change final.loop.attach? = _ at attached
    rw [sameLoop] at attached
    exact inv.notRefused conn attached
  · intro begunNow
    rcases begun begunNow with begunBefore | already
    · exact pursued (inv.pursued begunBefore)
    · exact already

theorem Pursuing.loopMoves (sameClose : final.close = state.close)
    (sameCtx : final.reconnectCtxDone = state.reconnectCtxDone)
    (running : final.loop ≠ .idle) (notLeaving : final.loop ≠ .leaving false)
    (notRefused : ∀ conn, final.attach? .loop ≠ some (conn, .refused)) : Pursuing final :=
  { closeIdle := sameClose.trans inv.closeIdle
    ctxLive := sameCtx.trans inv.ctxLive
    notLeaving := notLeaving
    notRefused := notRefused
    pursued := fun _ => Or.inr (Or.inl running) }

variable {config : Config}

theorem Pursuing.quiet {event : Event} (enabled : Enabled config state event)
    (quiet : event.quiet = true) (sameClose : (next config state event).close = state.close)
    (sameCtx : (next config state event).reconnectCtxDone = state.reconnectCtxDone)
    (sameLoop : (next config state event).loop = state.loop)
    (connected : (next config state event).connected = true →
      state.connected = true ∨ Pursued (next config state event))
    (pursued : Pursued state → Pursued (next config state event)) :
    Pursuing (next config state event) := by
  apply inv.frame sameClose sameCtx sameLoop
  · rintro (connectedNow | ⟨conn, phase, attached, stored⟩)
    · rcases connected connectedNow with before | already
      · exact Or.inl (Or.inl before)
      · exact Or.inr already
    · rw [attach?_of_quiet enabled quiet] at attached
      exact Or.inl (Or.inr ⟨conn, phase, attached, stored⟩)
  · exact pursued

variable {conn : Nat} {caller : Caller}

theorem Pursuing.attachMoves {before phase : Attach}
    (attached : state.attach? caller = some (conn, before))
    (stored : phase.hasStored = true → before.hasStored = true)
    (admitted : caller = .loop → phase ≠ .refused) :
    Pursuing (state.setAttach caller conn phase) := by
  cases caller with
  | connect =>
    refine inv.frame rfl rfl rfl ?_ ?_
    · rintro (connected | ⟨found, at_, attach, hasStored⟩)
      · exact Or.inl (Or.inl connected)
      · rw [attach?_setAttach_self, Option.some.injEq, Prod.mk.injEq] at attach
        obtain ⟨_, samePhase⟩ := attach
        rw [← samePhase] at hasStored
        exact Or.inl (Or.inr ⟨conn, before, attached, stored hasStored⟩)
    · exact fun pursued => pursued
  | loop =>
    refine inv.loopMoves rfl rfl nofun nofun ?_
    intro found attach
    rw [attach?_setAttach_self, Option.some.injEq, Prod.mk.injEq] at attach
    exact admitted rfl attach.2

theorem Pursuing.attachStore : Pursuing
      { state.setAttach caller conn .stored with current := some conn } := by
  cases caller with
  | connect =>
    refine inv.frame rfl rfl rfl ?_ ?_
    · exact fun _ => Or.inr (Or.inl nofun)
    · exact fun _ => Or.inl nofun
  | loop => exact inv.loopMoves rfl rfl nofun nofun nofun

theorem Pursuing.attachMonitor (attached : state.attach? caller = some (conn, .unlocked))
    (unstarted : state.monitors conn = .absent) :
    Pursuing (next config state (.attachMonitor caller conn)) := by
  cases caller with
  | connect =>
    refine inv.frame rfl rfl rfl ?_ ?_
    · exact fun _ => Or.inl (Or.inr ⟨conn, .unlocked, attached, rfl⟩)
    · apply Pursued.of_monitor
      · rw [unstarted]
        rfl
      · rfl
      · rfl
      · exact fun found member => List.mem_cons_of_mem conn member
      · exact fun found different => Function.update_of_ne different _ _
  | loop => exact inv.loopMoves rfl rfl nofun nofun nofun

theorem Pursuing.attachRefuse (attached : state.attach? caller = some (conn, .refused)) :
    Pursuing (next config state (.attachRefuse caller conn)) := by
  cases caller with
  | connect =>
    refine inv.frame rfl rfl rfl ?_ ?_
    · rintro (connected | ⟨_, _, attach, _⟩)
      · exact Or.inl (Or.inl connected)
      · contradiction
    · exact fun pursued => pursued
  | loop => exact absurd attached (inv.notRefused conn)

theorem Pursuing.connectDial :
    Pursuing ((state.openConn conn).setAttach .connect conn .entering) := by
  refine inv.frame rfl rfl rfl ?_ (fun pursued => pursued)
  rintro (connected | ⟨_, _, attach, hasStored⟩)
  · exact Or.inl (Or.inl connected)
  · rw [attach?_setAttach_self, Option.some.injEq, Prod.mk.injEq] at attach
    rw [← attach.2] at hasStored
    contradiction

theorem Pursuing.loopCheck (persistent : config.Persistent)
    (notClosed : state.closed = false) : Pursuing (next config state .loopCheck) := by
  have goesOn : (next config state .loopCheck).loop = .dialing := by
    have allowed : config.attemptAllowed state.attempt = true :=
      decide_eq_true (Or.inl persistent.unlimited)
    simp only [next, allowed, notClosed, inv.ctxLive,
      Bool.false_eq_true, not_false_eq_true, and_self, if_true]
  refine inv.loopMoves rfl rfl ?_ ?_ ?_
  · rw [goesOn]
    simp
  · rw [goesOn]
    simp
  · intro conn attach
    change Loop.attach? _ = _ at attach
    rw [goesOn] at attach
    contradiction

theorem Pursuing.monitorEnter (enabled : state.monitors conn = .entering)
    (notClosed : state.closed = false) : Pursuing (next config state (.monitorEnter conn)) := by
  by_cases running : state.reconnecting = true
  · have turnedAway : state.reconnecting = true ∨ state.closed = true := Or.inl running
    have sameLoop : (next config state (.monitorEnter conn)).loop = state.loop := by
      simp only [next, if_pos turnedAway]
    have stillRunning : (next config state (.monitorEnter conn)).loop ≠ .idle := by
      rw [sameLoop]
      exact of_decide_eq_true running
    refine inv.quiet enabled rfl rfl ?_ sameLoop (fun was => Or.inl was)
      (fun _ => Or.inr (Or.inl stillRunning))
    simp only [State.reconnectCtxDone, next, if_pos turnedAway]
    rfl
  · have starts : ¬ (state.reconnecting = true ∨ state.closed = true) := by
      rw [notClosed]
      simpa only [Bool.false_eq_true, or_false] using running
    have atTop : (next config state (.monitorEnter conn)).loop = .attempting := by
      simp only [next, if_neg starts]
    refine
      { closeIdle := inv.closeIdle
        ctxLive := ?_
        notLeaving := ?_
        notRefused := ?_
        pursued := ?_ }
    · have live := (Bool.or_eq_false_iff.mp inv.ctxLive).1
      simp only [State.reconnectCtxDone, next, if_neg starts, Bool.or_false]
      exact live
    · rw [atTop]
      simp
    · intro found attach
      change Loop.attach? _ = _ at attach
      rw [atTop] at attach
      contradiction
    · intro _
      rw [Pursued, atTop]
      simp

end Steps

section Run

variable {config : Config} {state final : State} {event : Event}

private theorem step_pursuing (persistent : config.Persistent) (monitored : Monitored state)
    (inv : Pursuing state) (clears : ClearsPursued state event)
    (notClosed : final.closed = false) (notMismatched : final.mismatched = false)
    (stepped : step config state event = some final) : Pursuing final := by
  obtain ⟨enabled, nextEq⟩ := guarded_eq_some_iff.mp stepped
  subst nextEq
  have wasNotClosed : state.closed = false := (flags_of_next notClosed notMismatched).1
  cases event with
  | connectLook =>
    apply inv.quiet enabled rfl rfl rfl rfl
    · intro connectedNow
      rcases Bool.or_eq_true_iff.mp connectedNow with was | isCurrent
      · exact Or.inl was
      · exact Or.inr (Or.inl (Option.isSome_iff_ne_none.mp isCurrent))
    · exact fun pursued => pursued
  | connectDial conn => exact inv.connectDial
  | attachLock caller conn => exact inv.attachMoves enabled.1 nofun nofun
  | attachCheckClosed caller conn =>
    dsimp only [next]
    rw [wasNotClosed]
    exact inv.attachMoves enabled nofun nofun
  | attachCheckCurrent conn =>
    apply inv.attachMoves enabled
    · intro hasStored
      split at hasStored <;> contradiction
    · exact nofun
  | attachStore caller conn => exact inv.attachStore
  | attachUnlock caller conn => exact inv.attachMoves enabled (fun _ => rfl) nofun
  | attachMonitor caller conn =>
    exact inv.attachMonitor enabled (monitored.unstarted caller conn .unlocked enabled)
  | attachRefuse caller conn => exact inv.attachRefuse enabled
  | monitorCompare conn =>
    apply inv.quiet enabled rfl rfl rfl rfl (fun was => Or.inl was)
    apply Pursued.of_monitor
    · rw [enabled.1]
      rfl
    · rfl
    · rfl
    · exact fun _ member => member
    · exact fun found different => Function.update_of_ne different _ _
  | monitorSwap conn | monitorPass conn =>
    have listed : conn ∈ state.started := monitored.listed conn (present_of_eq enabled nofun)
    apply inv.quiet enabled rfl rfl rfl rfl (fun was => Or.inl was)
    intro _
    refine Or.inr (Or.inr ⟨conn, listed, ?_⟩)
    dsimp only [next, State.setMonitor]
    simp only [Function.update_self, wasNotClosed, persistent.enabled]
    rfl
  | monitorEnter conn => exact inv.monitorEnter enabled wasNotClosed
  | loopCheck => exact inv.loopCheck persistent wasNotClosed
  | loopDial conn | restoreDone conn | loopTimer => exact inv.loopMoves rfl rfl nofun nofun nofun
  | loopDialFail mismatch | restoreFail conn mismatch =>
    have noMismatch : mismatch = false := (Bool.or_eq_false_iff.mp notMismatched).2
    subst noMismatch
    exact inv.loopMoves rfl rfl nofun nofun nofun
  | loopCancelled =>
    have live := inv.ctxLive
    rw [enabled.2] at live
    contradiction
  | loopTimeout => exact absurd enabled.1 (Int.not_lt.mpr persistent.untimed)
  | loopClear success =>
    cases success with
    | false => exact absurd enabled inv.notLeaving
    | true =>
      refine { inv with
          notLeaving := nofun
          notRefused := nofun
          pursued := ?_ }
      intro _
      rcases clears with isCurrent | onItsWay
      · exact Or.inl isCurrent
      · exact Or.inr (Or.inr onItsWay)
  | closeFlag => contradiction
  | closeCancel | closeLoad | closeConn conn? => exact nomatch inv.closeIdle.symm.trans enabled
  | _ => exact inv.quiet enabled rfl rfl rfl rfl (fun was => Or.inl was) (fun pursued => pursued)

/-- The invariant of a run: the part on the loop holds while the client is not
closed and has met no version mismatch. -/
structure Attended (state : State) : Prop where
  monitored : Monitored state
  pursuing : state.closed = false → state.mismatched = false → Pursuing state

private theorem initial_attended : Attended initial :=
  ⟨initial_monitored, fun _ _ => initial_pursuing⟩

private theorem step_attended (persistent : config.Persistent) (inv : Attended state)
    (clears : ClearsPursued state event) (stepped : step config state event = some final) :
    Attended final := by
  refine ⟨step_monitored inv.monitored stepped, ?_⟩
  intro notClosed notMismatched
  have flags : state.closed = false ∧ state.mismatched = false := by
    obtain ⟨_, nextEq⟩ := guarded_eq_some_iff.mp stepped
    rw [← nextEq] at notClosed notMismatched
    exact flags_of_next notClosed notMismatched
  exact step_pursuing persistent inv.monitored
    (inv.pursuing flags.1 flags.2) clears notClosed notMismatched stepped

theorem open_of_current {conn : Nat} (monitored : Monitored state) (quiescent : Quiescent state)
    (current : state.current = some conn) : state.conns conn = .open := by
  have used : state.conns conn ≠ .unused := fun unused => (monitored.unused conn unused).2.1 current
  have notEnded : state.conns conn ≠ .ended := by
    rcases monitored.watched conn current with
      watching | ⟨caller, phase, attached, stored⟩
    · rcases quiescent.monitors conn with
        absent | finished | ⟨_, notEnded⟩
      · rw [absent] at watching
        contradiction
      · rw [finished] at watching
        contradiction
      · exact notEnded
    · cases caller with
      | connect =>
        rw [quiescent.started conn phase attached] at stored
        contradiction
      | loop =>
        change state.loop.attach? = _ at attached
        rw [quiescent.loopIdle] at attached
        contradiction
  cases status : state.conns conn with
  | unused => exact absurd status used
  | «open» => rfl
  | ended => exact absurd status notEnded

private theorem not_onItsWay_of_quiescent {conn : Nat} (quiescent : Quiescent state) :
    (state.monitors conn).onItsWay ≠ true := by
  rcases quiescent.monitors conn with absent | finished | ⟨waiting, _⟩
  · rw [absent]
    nofun
  · rw [finished]
    nofun
  · rw [waiting]
    nofun

end Run

theorem reconnection_is_never_abandoned (config : Config) (persistent : config.Persistent)
    (events : List Event) (final : State) (ran : run (step config) initial events = some final)
    (clears : Along (step config) ClearsPursued initial events) (notClosed : final.closed = false)
    (notMismatched : final.mismatched = false) (quiescent : Quiescent final) : Connected final := by
  have inv : Attended final :=
    invariant_along Attended (step_attended persistent) initial_attended clears ran
  intro connected
  have pursued : Pursued final := (inv.pursuing notClosed notMismatched).pursued (Or.inl connected)
  rcases pursued with isCurrent | running | ⟨conn, _, onItsWay⟩
  · obtain ⟨conn, current⟩ := Option.ne_none_iff_exists'.mp isCurrent
    exact ⟨conn, current, open_of_current inv.monitored quiescent current⟩
  · exact absurd quiescent.loopIdle running
  · exact absurd onItsWay (not_onItsWay_of_quiescent quiescent)

private theorem defaultConfig_persistent : defaultConfig.Persistent :=
  ⟨rfl, by decide, by decide⟩

/-- The connection of the first reconnect is lost while the loop restores; the
loop has returned before its monitor asks for another one. -/
def reconnectedTwiceRun : List Event :=
  connectRun 0 ++ lossRun 0 ++ .loopDial 1 :: attachRun .loop 1 ++
    [.lose 1, .monitorCompare 1, .restoreDone 1, .loopClear true,
      .monitorSwap 1, .monitorPass 1, .monitorEnter 1, .loopCheck,
      .loopDial 2] ++
    attachRun .loop 2 ++ [.restoreDone 2, .loopClear true]

theorem reconnectedTwiceRun_is_connected : ∃ final,
      run (step defaultConfig) initial reconnectedTwiceRun = some final ∧
        final.connected = true ∧ Quiescent final ∧ Connected final := by
  have quiescent : ∀ final, run (step defaultConfig) initial reconnectedTwiceRun =
          some final → Quiescent final := by
    rintro _ ⟨⟩
    refine ⟨rfl, ?_, nofun⟩
    rintro (_ | _ | _ | conn)
    · exact Or.inr (Or.inl rfl)
    · exact Or.inr (Or.inl rfl)
    · exact Or.inr (Or.inr ⟨rfl, nofun⟩)
    · exact Or.inl rfl
  exact ⟨_, rfl, rfl, quiescent _ rfl,
    reconnection_is_never_abandoned defaultConfig defaultConfig_persistent
      reconnectedTwiceRun _ rfl (by decide) rfl rfl (quiescent _ rfl)⟩

/-- The monitor of the new connection is turned away by the flag of the loop
that has just restored the subscriptions on it. -/
def abandonedRun : List Event :=
  connectRun 0 ++ lossRun 0 ++ .loopDial 1 :: attachRun .loop 1 ++
    [.restoreDone 1, .lose 1, .monitorCompare 1, .monitorSwap 1,
      .monitorPass 1, .monitorEnter 1, .loopClear true]

theorem reconnection_is_abandoned_after_restore : ∃ final,
      run (step defaultConfig) initial abandonedRun = some final ∧
        final.closed = false ∧ final.mismatched = false ∧
        final.connected = true ∧ final.current = none ∧
        final.conns 1 = .ended ∧ Quiescent final ∧
        ¬ Connected final := by
  refine ⟨_, rfl, rfl, rfl, rfl, rfl, rfl, ⟨rfl, ?_, nofun⟩, ?_⟩
  · rintro (_ | _ | conn)
    · exact Or.inr (Or.inl rfl)
    · exact Or.inr (Or.inl rfl)
    · exact Or.inl rfl
  · intro isConnected
    obtain ⟨_, current, _⟩ := isConnected rfl
    contradiction

end FitzGo.Client.Lifecycle
