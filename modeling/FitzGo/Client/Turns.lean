import FitzGo.Client.Ownership
import FitzGo.Client.Monitors

/-!
# `Connect` and the reconnect loop take turns

The loop stores its connection without a look at the current one. It finds no
open connection there when it has started without one and when `Connect` has
stored none since.
-/

namespace FitzGo.Client.Lifecycle

open StepMachine

def Loop.settled : Loop → Bool
  | .idle | .leaving _ => true
  | .attempting | .dialing | .attaching _ _ | .restoring _
  | .backoff => false

/-- `Connect` stores its connection while no reconnect is under way, and a
reconnect loop starts while no open connection is current. -/
def TakesTurns (state : State) : Event → Prop
  | .attachStore .connect _ => state.loop.settled = true
  | .monitorEnter _ => state.reconnecting = true ∨ ∀ conn ∈ state.current, state.conns conn ≠ .open
  | _ => True

instance (state : State) (event : Event) : Decidable (TakesTurns state event) := by
  rcases event with ⟨⟩
  case attachStore caller _ => rcases caller with ⟨⟩ <;> dsimp only [TakesTurns] <;> infer_instance
  all_goals
    dsimp only [TakesTurns]
    infer_instance

/-- An open current connection, during a reconnect, is the loop's own. -/
def Loop.stored? : Loop → Option Nat
  | .attaching conn phase => if phase.hasStored then some conn else none
  | .restoring conn => some conn
  | .idle | .leaving _ | .attempting | .dialing | .backoff => none

def LoopAlone (state : State) : Prop :=
  state.loop.settled = true ∨
    ∀ conn, state.current = some conn → state.conns conn = .open → state.loop.stored? = some conn

theorem initial_loopAlone : LoopAlone initial :=
  Or.inl rfl

theorem loop_of_attach? {state : State} {conn : Nat} {phase : Attach}
    (attached : state.attach? .loop = some (conn, phase)) : state.loop = .attaching conn phase := by
  change state.loop.attach? = some (conn, phase) at attached
  cases atLoop : state.loop with
  | attaching found at_ =>
    rw [atLoop] at attached
    cases attached
    rfl
  | _ =>
    rw [atLoop] at attached
    contradiction

variable {config : Config}

theorem LoopAlone.overwritesNoOpen {state : State} {event : Event} (alone : LoopAlone state)
    (enabled : Enabled config state event) : OverwritesNoOpen state event := by
  unfold OverwritesNoOpen
  split
  · rename_i conn
    have atStore : state.loop = .attaching conn .admitted := loop_of_attach? enabled
    rw [LoopAlone, atStore] at alone
    intro other isCurrent isOpen
    rcases alone with settled | own
    · contradiction
    · cases own other isCurrent isOpen
  · trivial

section Steps

variable {state final : State} (inv : LoopAlone state)
include inv

theorem LoopAlone.frame (sameLoop : final.loop = state.loop)
    (current : ∀ conn, final.current = some conn → state.current = some conn)
    (opens : ∀ conn, final.current = some conn → final.conns conn = .open →
      state.conns conn = .open) : LoopAlone final := by
  unfold LoopAlone
  rw [sameLoop]
  rcases inv with settled | own
  · exact Or.inl settled
  · right
    intro conn isCurrent isOpen
    exact own conn (current conn isCurrent) (opens conn isCurrent isOpen)

section Loop

variable {before : Loop} (atLoop : state.loop = before) (running : before.settled = false)
  (sameCurrent : final.current = state.current)
include atLoop running sameCurrent

theorem LoopAlone.loopMoves (opens : ∀ conn, final.current = some conn → final.conns conn = .open →
      state.conns conn = .open)
    (own : ∀ conn, before.stored? = some conn →
      final.conns conn = .open → final.loop.stored? = some conn) : LoopAlone final := by
  subst atLoop
  rcases inv with settled | alone
  · rw [running] at settled
    contradiction
  · right
    intro conn isCurrent isOpen
    have wasCurrent : state.current = some conn := sameCurrent ▸ isCurrent
    exact own conn (alone conn wasCurrent (opens conn isCurrent isOpen)) isOpen

theorem LoopAlone.fail {mismatch : Bool}
    (opens : ∀ conn, final.conns conn = .open → state.conns conn = .open)
    (ended : ∀ conn, before.stored? = some conn → final.conns conn ≠ .open)
    (moved : final.loop = if mismatch then .leaving false else .backoff) : LoopAlone final := by
  cases mismatch with
  | true =>
    left
    rw [moved]
    rfl
  | false =>
    apply inv.loopMoves atLoop running sameCurrent (fun conn _ => opens conn)
    intro conn isStored isOpen
    exact absurd isOpen (ended conn isStored)

end Loop

theorem LoopAlone.attachMoves {caller : Caller} {conn : Nat} {before phase : Attach}
    (attached : state.attach? caller = some (conn, before))
    (stored : before.hasStored = true → phase.hasStored = true) :
    LoopAlone (state.setAttach caller conn phase) := by
  cases caller with
  | connect => exact inv.frame rfl (fun _ isCurrent => isCurrent) (fun _ _ isOpen => isOpen)
  | loop =>
    refine inv.loopMoves (loop_of_attach? attached) rfl rfl (fun _ _ isOpen => isOpen) ?_
    intro found isStored _
    change (if before.hasStored = true then some conn else none) = some found at isStored
    change (if phase.hasStored = true then some conn else none) = some found
    by_cases has : before.hasStored = true
    · rw [if_pos has] at isStored
      rw [if_pos (stored has)]
      exact isStored
    · rw [if_neg has] at isStored
      contradiction

theorem LoopAlone.dial {caller : Caller} {conn : Nat} (monitored : Monitored state)
    (fresh : state.conns conn = .unused) (dials : caller = .loop → state.loop = .dialing) :
    LoopAlone ((state.openConn conn).setAttach caller conn .entering) := by
  have opens : ∀ found, state.current = some found → (state.openConn conn).conns found = .open →
        state.conns found = .open := by
    intro found isCurrent isOpen
    have different : found ≠ conn := by
      intro same
      rw [same] at isCurrent
      exact (monitored.unused conn fresh).2.1 isCurrent
    exact (Function.update_of_ne different _ _).symm.trans isOpen
  cases caller with
  | connect => exact inv.frame rfl (fun _ isCurrent => isCurrent) opens
  | loop =>
    refine inv.loopMoves (dials rfl) rfl rfl opens ?_
    intro found isStored _
    contradiction

theorem LoopAlone.monitorEnter {conn : Nat} (turns : TakesTurns state (.monitorEnter conn)) :
    LoopAlone (next config state (.monitorEnter conn)) := by
  by_cases turnedAway : state.reconnecting = true ∨ state.closed = true
  · refine inv.frame ?_ (fun _ isCurrent => isCurrent) (fun _ _ isOpen => isOpen)
    simp only [next, if_pos turnedAway]
  · right
    intro found isCurrent isOpen
    rcases turns with running | noneOpen
    · exact absurd (Or.inl running) turnedAway
    · exact absurd isOpen (noneOpen found isCurrent)

end Steps

theorem step_loopAlone {state final : State} {event : Event}
    (monitored : Monitored state) (inv : LoopAlone state) (turns : TakesTurns state event)
    (stepped : step config state event = some final) : LoopAlone final := by
  obtain ⟨enabled, nextEq⟩ := guarded_eq_some_iff.mp stepped
  subst nextEq
  cases event with
  | connectDial conn => exact inv.dial monitored enabled.2 nofun
  | loopDial conn => exact inv.dial monitored enabled.2 (fun _ => enabled.1)
  | attachLock caller conn => exact inv.attachMoves enabled.1 nofun
  | attachCheckClosed | attachCheckCurrent => exact inv.attachMoves enabled nofun
  | attachStore caller conn =>
    cases caller with
    | connect => exact Or.inl turns
    | loop => exact Or.inr (fun _ isCurrent _ => isCurrent)
  | attachUnlock caller conn => exact inv.attachMoves enabled (fun _ => rfl)
  | attachMonitor caller conn =>
    cases caller with
    | connect => exact inv.frame rfl (fun _ isCurrent => isCurrent) (fun _ _ isOpen => isOpen)
    | loop =>
      refine inv.loopMoves (loop_of_attach? enabled) rfl rfl (fun _ _ isOpen => isOpen) ?_
      intro found isStored _
      exact isStored
  | attachRefuse caller conn =>
    cases caller with
    | connect => exact inv.frame rfl (fun _ isCurrent => isCurrent) (fun _ _ => open_of_endConn)
    | loop => exact Or.inl rfl
  | monitorSwap conn =>
    exact inv.frame rfl (fun _ isCurrent => (current_of_monitorSwap isCurrent).1)
      (fun _ _ isOpen => isOpen)
  | monitorEnter conn => exact inv.monitorEnter turns
  | loopCheck =>
    by_cases goesOn :
        config.attemptAllowed state.attempt ∧ ¬ state.closed ∧ ¬ state.reconnectCtxDone
    · refine inv.loopMoves enabled rfl rfl (fun _ _ isOpen => isOpen) ?_
      intro found isStored _
      contradiction
    · left
      simp only [next, if_neg goesOn]
      rfl
  | loopDialFail mismatch =>
    refine inv.fail enabled rfl rfl (fun _ isOpen => isOpen) ?_ rfl
    intro found isStored
    contradiction
  | restoreDone | loopCancelled | loopClear => exact Or.inl rfl
  | restoreFail conn mismatch =>
    refine inv.fail enabled rfl rfl (fun _ => open_of_endConn) ?_ rfl
    intro found isStored isOpen
    have same : conn = found := Option.some.inj isStored
    have ended : (state.endConn conn).conns found = .ended := by
      rw [same]
      exact Function.update_self _ _ _
    cases ended.symm.trans isOpen
  | loopTimer =>
    refine inv.loopMoves enabled rfl rfl (fun _ _ isOpen => isOpen) ?_
    intro found isStored _
    contradiction
  | lose | connectEnter | connectLook | connectDialFail | monitorCompare
  | monitorPass | loopTimeout | closeFlag | closeCancel | closeLoad
  | closeConn =>
    exact inv.frame rfl (fun _ isCurrent => isCurrent) (fun found _ => open_of_quiet rfl found)

end FitzGo.Client.Lifecycle
