import FitzGo.Client.Attaching

/-!
# Who owns an open connection

An open connection is the current one, or it belongs to the `attachConnection`
that has not stored it yet. The loop does not look for a current connection, so
it must not find an open one where it stores its own.
-/

namespace FitzGo.Client.Lifecycle

open StepMachine

/-- The loop does not store over a connection that is still open. -/
def OverwritesNoOpen (state : State) : Event → Prop
  | .attachStore .loop _ => ∀ conn ∈ state.current, state.conns conn ≠ .open
  | _ => True

instance (state : State) (event : Event) : Decidable (OverwritesNoOpen state event) := by
  unfold OverwritesNoOpen
  split <;> infer_instance

/-- The mutex has one holder, and an open connection an owner. -/
structure Owned (state : State) : Prop where
  exclusive : ∀ caller other, state.holdsMu caller = true →
    state.holdsMu other = true → caller = other
  vacant : ∀ conn, state.attach? .connect = some (conn, .vacant) → state.current = none
  woken : ∀ conn, state.monitors conn = .matched → state.conns conn = .ended
  owned : Held state.current state

theorem initial_owned : Owned initial := by
  constructor
  · intro caller other holds
    cases caller <;> contradiction
  all_goals
    intro conn impossible
    contradiction

section Steps

variable {state final : State} (inv : Owned state)
include inv

theorem Owned.frame (sameAttach : ∀ caller, final.attach? caller = state.attach? caller)
    (sameCurrent : final.current = state.current)
    (opens : ∀ conn, final.conns conn = .open → state.conns conn = .open)
    (woken : ∀ conn, final.monitors conn = .matched → final.conns conn = .ended) : Owned final := by
  have sameHolder : ∀ caller, final.holdsMu caller = state.holdsMu caller := by
    intro caller
    unfold State.holdsMu
    rw [sameAttach caller]
  refine
    { exclusive := ?_
      vacant := ?_
      woken := woken
      owned := ?_ }
  · intro caller other
    rw [sameHolder caller, sameHolder other]
    exact inv.exclusive caller other
  · intro conn
    rw [sameAttach, sameCurrent]
    exact inv.vacant conn
  · rw [sameCurrent]
    exact inv.owned.frame sameAttach opens

variable {config : Config}

theorem Owned.quiet {event : Event} (enabled : Enabled config state event)
    (quiet : event.quiet = true) (sameCurrent : (next config state event).current = state.current)
    (woken : ∀ conn, (next config state event).monitors conn = .matched →
      state.conns conn = .ended) : Owned (next config state event) :=
  inv.frame (attach?_of_quiet enabled quiet) sameCurrent (open_of_quiet quiet)
    (fun conn matched => ended_of_quiet quiet (woken conn matched))

variable {conn : Nat}

theorem Owned.woken_of_update {monitor : Monitor}
    (ended : monitor = .matched → state.conns conn = .ended) :
    ∀ found, Function.update state.monitors conn monitor found = .matched →
      state.conns found = .ended := by
  intro found matched
  by_cases same : found = conn
  · rw [same, Function.update_self] at matched
    rw [same]
    exact ended matched
  · rw [Function.update_of_ne same] at matched
    exact inv.woken found matched

variable {caller : Caller}

theorem Owned.attachMoves {before phase : Attach}
    (attached : state.attach? caller = some (conn, before))
    (holds : phase.holdsMu = true → before.holdsMu = true ∨ state.muFree = true)
    (vacant : caller = .connect → phase = .vacant → state.current = none)
    (owns : before.owns = true → phase.owns = true) :
    Owned (state.setAttach caller conn phase) := by
  have heldBefore : ∀ other, (state.setAttach caller conn phase).holdsMu other = true →
        state.holdsMu other = true ∨ other = caller ∧ state.muFree = true := by
    intro other holder
    by_cases same : other = caller
    · rw [same, holdsMu_setAttach_self] at holder
      rcases holds holder with already | free
      · rw [same, holdsMu_of_attach attached]
        exact Or.inl already
      · exact Or.inr ⟨same, free⟩
    · rw [holdsMu_setAttach_of_ne same] at holder
      exact Or.inl holder
  have notHeld : ∀ other, state.muFree = true → state.holdsMu other ≠ true := by
    intro other free
    unfold State.muFree at free
    cases other <;> simp_all
  refine
    { exclusive := ?_
      vacant := ?_
      woken := inv.woken
      owned := ?_ }
  · intro first second firstHolds secondHolds
    rcases heldBefore first firstHolds with firstHeld | ⟨first, free⟩
    · rcases heldBefore second secondHolds with secondHeld | ⟨_, free⟩
      · exact inv.exclusive first second firstHeld secondHeld
      · exact absurd firstHeld (notHeld first free)
    · rcases heldBefore second secondHolds with secondHeld | ⟨second, _⟩
      · exact absurd secondHeld (notHeld _ free)
      · exact first.trans second.symm
  · intro found isVacant
    rcases attach?_setAttach_eq_some isVacant with
      ⟨own, _, atVacant⟩ | ⟨_, stays⟩
    · exact vacant own.symm atVacant.symm
    · exact inv.vacant found stays
  · exact inv.owned.attachMoves attached owns

theorem Owned.exclusive_of
    (heldBefore : ∀ other, final.holdsMu other = true → state.holdsMu other = true)
    (first second : Caller) (firstHolds : final.holdsMu first = true)
    (secondHolds : final.holdsMu second = true) : first = second :=
  inv.exclusive first second (heldBefore first firstHolds) (heldBefore second secondHolds)

theorem Owned.dial {caller : Caller} {conn : Nat} (free : state.attach? caller = none)
    (unused : state.conns conn = .unused) :
    Owned ((state.openConn conn).setAttach caller conn .entering) := by
  have heldBefore :
      ∀ other, ((state.openConn conn).setAttach caller conn .entering).holdsMu other = true →
          state.holdsMu other = true := by
    intro other holder
    by_cases same : other = caller
    · rw [same, holdsMu_setAttach_self] at holder
      contradiction
    · rw [holdsMu_setAttach_of_ne same] at holder
      exact holder
  refine
    { exclusive := inv.exclusive_of heldBefore
      vacant := ?_
      woken := ?_
      owned := ?_ }
  · intro found isVacant
    rcases attach?_setAttach_eq_some isVacant with
      ⟨_, _, impossible⟩ | ⟨_, stays⟩
    · contradiction
    · exact inv.vacant found stays
  · intro found matched
    have ended : state.conns found = .ended := inv.woken found matched
    have different : found ≠ conn := by
      intro same
      rw [same, unused] at ended
      contradiction
    exact (Function.update_of_ne different _ _).trans ended
  · exact inv.owned.dial free

theorem Owned.attachStore (attached : state.attach? caller = some (conn, caller.beforeStore))
    (overwrites : caller = .loop → ∀ other ∈ state.current, state.conns other ≠ .open) :
    Owned { state.setAttach caller conn .stored with current := some conn } := by
  have holds : state.holdsMu caller = true := by
    rw [holdsMu_of_attach attached]
    cases caller <;> rfl
  have notOpen : ∀ other, state.current = some other → state.conns other ≠ .open := by
    cases caller with
    | connect =>
      intro other isCurrent
      have noCurrent : state.current = none := inv.vacant conn attached
      rw [noCurrent] at isCurrent
      contradiction
    | loop => exact overwrites rfl
  have heldBefore : ∀ other, (state.setAttach caller conn .stored).holdsMu other = true →
          state.holdsMu other = true := by
    intro other holder
    by_cases same : other = caller
    · rw [same]
      exact holds
    · rwa [holdsMu_setAttach_of_ne same] at holder
  refine
    { exclusive := inv.exclusive_of heldBefore
      vacant := ?_
      woken := inv.woken
      owned := ?_ }
  · intro found isVacant
    have attachNow :
        (state.setAttach caller conn .stored).attach? .connect = some (found, .vacant) := isVacant
    rcases attach?_setAttach_eq_some attachNow with
      ⟨_, _, impossible⟩ | ⟨different, stays⟩
    · contradiction
    · have otherHolds : state.holdsMu .connect = true := by
        rw [holdsMu_of_attach stays]
        rfl
      exact absurd (inv.exclusive .connect caller otherHolds holds) different
  · intro found isOpen
    rcases inv.owned found isOpen with current | ⟨owner, at_, attach, own⟩
    · exact absurd isOpen (notOpen found current)
    · by_cases same : owner = caller
      · rw [same, attached, Option.some.injEq, Prod.mk.injEq] at attach
        exact Or.inl (congrArg some attach.1)
      · refine Or.inr ⟨owner, at_, ?_, own⟩
        exact (attach?_setAttach_of_ne same).trans attach

theorem Owned.attachLeaves {phase : Attach} (attached : state.attach? caller = some (conn, phase))
    (leaves : Leaves state final caller) (sameCurrent : final.current = state.current)
    (opens : ∀ found, final.conns found = .open → state.conns found = .open)
    (woken : ∀ found, final.monitors found = .matched → final.conns found = .ended)
    (closed : phase.owns = true → final.conns conn ≠ .open) : Owned final := by
  have heldBefore : ∀ other, final.holdsMu other = true → state.holdsMu other = true := by
    intro other holder
    obtain ⟨found, at_, attach, holdsNow⟩ := attach_of_holdsMu holder
    rw [holdsMu_of_attach (leaves.stays attach).2]
    exact holdsNow
  refine
    { exclusive := inv.exclusive_of heldBefore
      vacant := ?_
      woken := woken
      owned := ?_ }
  · intro found isVacant
    rw [sameCurrent]
    exact inv.vacant found (leaves.stays isVacant).2
  · rw [sameCurrent]
    exact inv.owned.attachLeaves attached leaves opens closed

theorem Owned.monitorSwap (matched : state.monitors conn = .matched) : Owned
      { state.setMonitor conn .swapped with
        current :=
          if state.current = some conn then none else state.current } := by
  have ended : state.conns conn = .ended := inv.woken conn matched
  refine
    { exclusive := inv.exclusive
      vacant := ?_
      woken := ?_
      owned := ?_ }
  · intro found isVacant
    have noCurrent : state.current = none := inv.vacant found isVacant
    simp only [noCurrent, reduceCtorEq, if_false]
  · exact inv.woken_of_update (fun _ => ended)
  · intro found isOpen
    rcases inv.owned found isOpen with current | owner
    · left
      have different : found ≠ conn := by
        intro same
        have isOpenHere : state.conns found = .open := isOpen
        rw [same, ended] at isOpenHere
        contradiction
      have notConn : state.current ≠ some conn := by
        rw [current]
        exact fun same => different (Option.some.inj same)
      simp only [if_neg notConn]
      exact current
    · exact Or.inr owner

theorem Owned.attachMonitor (attached : state.attach? caller = some (conn, .unlocked)) :
    Owned (next config state (.attachMonitor caller conn)) :=
  inv.attachLeaves attached attachMonitor_leaves rfl
    (fun _ isOpen => isOpen) (inv.woken_of_update nofun) nofun

theorem Owned.attachRefuse (attached : state.attach? caller = some (conn, .refused)) :
    Owned (next config state (.attachRefuse caller conn)) := by
  refine inv.attachLeaves attached attachRefuse_leaves rfl
    (fun _ => open_of_endConn) ?_ (fun _ => attachRefuse_ends)
  intro found matched
  have ended : state.conns found = .ended := inv.woken found matched
  rcases endConn_conns state conn found with endedNow | same
  · exact endedNow
  · exact same.trans ended

end Steps

theorem step_owned {config : Config} {state final : State} {event : Event}
    (inv : Owned state) (overwrites : OverwritesNoOpen state event)
    (stepped : step config state event = some final) : Owned final := by
  obtain ⟨enabled, nextEq⟩ := guarded_eq_some_iff.mp stepped
  subst nextEq
  cases event with
  | connectDial conn => exact inv.dial (attach?_of_connectDial enabled) enabled.2
  | loopDial conn => exact inv.dial (attach?_of_loopDial enabled) enabled.2
  | attachLock caller conn =>
    exact inv.attachMoves enabled.1 (fun _ => Or.inr enabled.2) nofun (fun owns => owns)
  | attachCheckClosed caller conn =>
    apply inv.attachMoves enabled
    · exact fun _ => Or.inl rfl
    · intro _ isVacant
      split at isVacant <;> contradiction
    · intro _
      split <;> rfl
  | attachCheckCurrent conn =>
    apply inv.attachMoves enabled
    · exact fun _ => Or.inl rfl
    · intro _ isVacant
      split at isVacant
      · contradiction
      · rename_i notCurrent
        exact Option.not_isSome_iff_eq_none.mp notCurrent
    · intro _
      split <;> rfl
  | attachStore caller conn =>
    apply inv.attachStore enabled
    intro isLoop
    subst isLoop
    exact overwrites
  | attachUnlock caller conn => exact inv.attachMoves enabled nofun nofun nofun
  | attachMonitor caller conn => exact inv.attachMonitor enabled
  | attachRefuse caller conn => exact inv.attachRefuse enabled
  | monitorSwap conn => exact inv.monitorSwap enabled
  | monitorCompare conn => exact inv.quiet enabled rfl rfl (inv.woken_of_update fun _ => enabled.2)
  | monitorPass conn =>
    apply inv.quiet enabled rfl rfl
    apply inv.woken_of_update
    intro isMatched
    split at isMatched <;> contradiction
  | monitorEnter conn => exact inv.quiet enabled rfl rfl (inv.woken_of_update nofun)
  | lose | connectEnter | connectLook | connectDialFail | loopCheck
  | loopDialFail | restoreDone | restoreFail | loopTimer | loopCancelled
  | loopTimeout | loopClear | closeFlag | closeCancel | closeLoad
  | closeConn => exact inv.quiet enabled rfl rfl inv.woken

end FitzGo.Client.Lifecycle
