import FitzGo.Client.Attaching

/-!
# The current connection is watched

From its store on, a current connection has a monitor, or the
`attachConnection` that has stored it is about to start one.
-/

namespace FitzGo.Client.Lifecycle

open StepMachine

def Attach.hasStored : Attach → Bool
  | .stored | .unlocked => true
  | .entering | .locked | .admitted | .vacant | .refused => false

def Monitor.watches : Monitor → Bool
  | .waiting | .matched => true
  | .absent | .swapped | .entering | .finished => false

/-- The current connection has a monitor, or an attacher that starts one. -/
structure Monitored (state : State) : Prop where
  unused : ∀ conn, state.conns conn = .unused →
    state.monitors conn = .absent ∧ state.current ≠ some conn ∧
    ∀ caller phase, state.attach? caller ≠ some (conn, phase)
  apart : ∀ caller other conn phase otherPhase, state.attach? caller = some (conn, phase) →
    state.attach? other = some (conn, otherPhase) → caller = other
  unstarted : ∀ caller conn phase, state.attach? caller = some (conn, phase) →
    state.monitors conn = .absent
  listed : ∀ conn, state.monitors conn ≠ .absent → conn ∈ state.started
  watched : ∀ conn, state.current = some conn → (state.monitors conn).watches = true ∨
    ∃ caller phase, state.attach? caller = some (conn, phase) ∧ phase.hasStored = true

theorem initial_monitored : Monitored initial := by
  constructor
  · intro conn _
    refine ⟨rfl, nofun, ?_⟩
    intro caller phase attached
    cases caller <;> contradiction
  · intro caller _ _ _ _ attached
    cases caller <;> contradiction
  · intro caller _ _ attached
    cases caller <;> contradiction
  · intro conn present
    exact absurd rfl present
  · intro conn current
    contradiction

section Steps

variable {state final : State} (inv : Monitored state)
include inv

theorem Monitored.frame (sameAttach : ∀ caller, final.attach? caller = state.attach? caller)
    (unused : ∀ conn, final.conns conn = .unused → state.conns conn = .unused)
    (sameStarted : final.started = state.started)
    (current : ∀ conn, final.current = some conn → state.current = some conn)
    (absent : ∀ conn, final.monitors conn = .absent ↔ state.monitors conn = .absent)
    (watches : ∀ conn, final.current = some conn → (state.monitors conn).watches = true →
      (final.monitors conn).watches = true) : Monitored final := by
  constructor
  · intro conn isUnused
    obtain ⟨noMonitor, notCurrent, notAttached⟩ := inv.unused conn (unused conn isUnused)
    refine ⟨(absent conn).mpr noMonitor, fun isCurrent => notCurrent (current conn isCurrent), ?_⟩
    intro caller phase
    rw [sameAttach]
    exact notAttached caller phase
  · intro caller other
    rw [sameAttach, sameAttach]
    exact inv.apart caller other
  · intro caller conn phase attached
    rw [sameAttach] at attached
    exact (absent conn).mpr (inv.unstarted caller conn phase attached)
  · intro conn present
    rw [sameStarted]
    exact inv.listed conn fun isAbsent => present ((absent conn).mpr isAbsent)
  · intro conn isCurrent
    rcases inv.watched conn (current conn isCurrent) with
      watching | ⟨caller, phase, attached, stored⟩
    · exact Or.inl (watches conn isCurrent watching)
    · refine Or.inr ⟨caller, phase, ?_, stored⟩
      rw [sameAttach]
      exact attached

variable {config : Config}

theorem Monitored.quiet {event : Event} (enabled : Enabled config state event)
    (quiet : event.quiet = true) (sameCurrent : (next config state event).current = state.current)
    (sameMonitors : (next config state event).monitors = state.monitors)
    (sameStarted : (next config state event).started = state.started) :
    Monitored (next config state event) := by
  apply inv.frame (attach?_of_quiet enabled quiet)
  · exact unused_of_quiet quiet
  · exact sameStarted
  · intro conn isCurrent
    rwa [sameCurrent] at isCurrent
  · intro conn
    rw [sameMonitors]
  · intro conn _ watching
    rwa [sameMonitors]

variable {conn : Nat}

/-- A monitor that runs moves on; it stops watching only when its connection
is not the current one. -/
theorem Monitored.monitorMoves {event : Event} {monitor : Monitor}
    (enabled : Enabled config state event) (quiet : event.quiet = true)
    (present : state.monitors conn ≠ .absent)
    (moved : (next config state event).monitors = Function.update state.monitors conn monitor)
    (sameStarted : (next config state event).started = state.started)
    (current : ∀ found, (next config state event).current = some found →
      state.current = some found) (stillPresent : monitor ≠ .absent)
    (watches : (next config state event).current = some conn →
      (state.monitors conn).watches = true → monitor.watches = true) :
    Monitored (next config state event) := by
  apply inv.frame (attach?_of_quiet enabled quiet)
  · exact unused_of_quiet quiet
  · exact sameStarted
  · exact current
  · intro found
    rw [moved]
    by_cases same : found = conn
    · rw [same, Function.update_self]
      exact iff_of_false stillPresent present
    · rw [Function.update_of_ne same]
  · intro found isCurrent watching
    rw [moved]
    by_cases same : found = conn
    · rw [same] at isCurrent watching
      rw [same, Function.update_self]
      exact watches isCurrent watching
    · rwa [Function.update_of_ne same]

variable {caller : Caller}

theorem Monitored.attachMoves {before phase : Attach}
    (attached : state.attach? caller = some (conn, before))
    (stored : before.hasStored = true → phase.hasStored = true) :
    Monitored (state.setAttach caller conn phase) := by
  have wasAttached :
      ∀ other found at_, (state.setAttach caller conn phase).attach? other = some (found, at_) →
        ∃ earlier, state.attach? other = some (found, earlier) := by
    intro other found at_ attach
    rcases attach?_setAttach_eq_some attach with
      ⟨own, sameConn, _⟩ | ⟨_, stays⟩
    · rw [own, sameConn]
      exact ⟨before, attached⟩
    · exact ⟨at_, stays⟩
  refine
    { unused := ?_
      apart := ?_
      unstarted := ?_
      listed := inv.listed
      watched := ?_ }
  · intro found isUnused
    obtain ⟨noMonitor, notCurrent, notAttached⟩ := inv.unused found isUnused
    refine ⟨noMonitor, notCurrent, ?_⟩
    intro other at_ attach
    obtain ⟨earlier, attachBefore⟩ := wasAttached other found at_ attach
    exact notAttached other earlier attachBefore
  · intro first second found at_ otherAt firstAttach secondAttach
    obtain ⟨earlier, firstBefore⟩ := wasAttached first found at_ firstAttach
    obtain ⟨otherEarlier, secondBefore⟩ := wasAttached second found otherAt secondAttach
    exact inv.apart first second found earlier otherEarlier firstBefore secondBefore
  · intro other found at_ attach
    obtain ⟨earlier, attachBefore⟩ := wasAttached other found at_ attach
    exact inv.unstarted other found earlier attachBefore
  · intro found isCurrent
    rcases inv.watched found isCurrent with
      watching | ⟨owner, at_, attach, hasStored⟩
    · exact Or.inl watching
    · right
      by_cases same : owner = caller
      · rw [same, attached, Option.some.injEq, Prod.mk.injEq] at attach
        obtain ⟨sameConn, samePhase⟩ := attach
        refine ⟨caller, phase, ?_, stored (samePhase ▸ hasStored)⟩
        rw [← sameConn]
        exact attach?_setAttach_self
      · refine ⟨owner, at_, ?_, hasStored⟩
        rw [attach?_setAttach_of_ne same]
        exact attach

theorem Monitored.attachStore (attached : state.attach? caller = some (conn, caller.beforeStore)) :
    Monitored { state.setAttach caller conn .stored with current := some conn } := by
  have moved : Monitored (state.setAttach caller conn .stored) :=
    inv.attachMoves attached (fun _ => rfl)
  refine { moved with
      unused := ?_
      watched := ?_ }
  · intro found isUnused
    obtain ⟨noMonitor, _, notAttached⟩ := moved.unused found isUnused
    refine ⟨noMonitor, ?_, notAttached⟩
    intro isCurrent
    have same : conn = found := Option.some.inj isCurrent
    rw [← same] at notAttached
    exact notAttached caller .stored attach?_setAttach_self
  · intro found isCurrent
    have same : conn = found := Option.some.inj isCurrent
    rw [← same]
    exact Or.inr ⟨caller, .stored, attach?_setAttach_self, rfl⟩

theorem Monitored.dial {caller : Caller} {conn : Nat} (free : state.attach? caller = none)
    (fresh : state.conns conn = .unused) :
    Monitored ((state.openConn conn).setAttach caller conn .entering) := by
  obtain ⟨noMonitor, _, notAttached⟩ := inv.unused conn fresh
  refine
    { unused := ?_
      apart := ?_
      unstarted := ?_
      listed := inv.listed
      watched := ?_ }
  · intro found isUnused
    have different : found ≠ conn := by
      intro same
      rw [same] at isUnused
      have isOpen : (state.openConn conn).conns conn = .open := Function.update_self _ _ _
      exact nomatch isOpen.symm.trans isUnused
    have wasUnused : state.conns found = .unused :=
      (Function.update_of_ne different _ _).symm.trans isUnused
    obtain ⟨noMonitor, notCurrent, notAttachedBefore⟩ := inv.unused found wasUnused
    refine ⟨noMonitor, notCurrent, ?_⟩
    intro other at_ attach
    rcases attach?_setAttach_eq_some attach with
      ⟨_, sameConn, _⟩ | ⟨_, stays⟩
    · exact different sameConn
    · exact notAttachedBefore other at_ stays
  · intro first second found at_ otherAt firstAttach secondAttach
    rcases attach?_setAttach_eq_some firstAttach with
      ⟨firstOwn, firstConn, _⟩ | ⟨_, firstStays⟩
    · rcases attach?_setAttach_eq_some secondAttach with
        ⟨secondOwn, _, _⟩ | ⟨_, secondStays⟩
      · exact firstOwn.trans secondOwn.symm
      · rw [firstConn] at secondStays
        exact absurd secondStays (notAttached second otherAt)
    · rcases attach?_setAttach_eq_some secondAttach with
        ⟨_, secondConn, _⟩ | ⟨_, secondStays⟩
      · rw [secondConn] at firstStays
        exact absurd firstStays (notAttached first at_)
      · exact inv.apart first second found at_ otherAt firstStays secondStays
  · intro other found at_ attach
    rcases attach?_setAttach_eq_some attach with
      ⟨_, sameConn, _⟩ | ⟨_, stays⟩
    · rw [sameConn]
      exact noMonitor
    · exact inv.unstarted other found at_ stays
  · intro found isCurrent
    rcases inv.watched found isCurrent with
      watching | ⟨owner, at_, attach, hasStored⟩
    · exact Or.inl watching
    · have notCaller : owner ≠ caller := by
        intro sameCaller
        rw [sameCaller, free] at attach
        contradiction
      refine Or.inr ⟨owner, at_, ?_, hasStored⟩
      rw [attach?_setAttach_of_ne notCaller]
      exact attach

theorem Monitored.attachLeaves {phase : Attach}
    (attached : state.attach? caller = some (conn, phase)) (leaves : Leaves state final caller)
    (unused : ∀ found, final.conns found = .unused → state.conns found = .unused)
    (sameCurrent : final.current = state.current)
    (sameMonitors : ∀ found, found ≠ conn → final.monitors found = state.monitors found)
    (grows : ∀ found ∈ state.started, found ∈ final.started)
    (listed : final.monitors conn ≠ .absent → conn ∈ final.started)
    (watches : phase.hasStored = true → (final.monitors conn).watches = true) :
    Monitored final := by
  constructor
  · intro found isUnused
    obtain ⟨noMonitor, notCurrent, notAttached⟩ := inv.unused found (unused found isUnused)
    have different : found ≠ conn := by
      intro same
      rw [same] at notAttached
      exact notAttached caller phase attached
    rw [sameMonitors found different, sameCurrent]
    refine ⟨noMonitor, notCurrent, ?_⟩
    intro other at_ attach
    exact notAttached other at_ (leaves.stays attach).2
  · intro first second found at_ otherAt firstAttach secondAttach
    exact inv.apart first second found at_ otherAt
      (leaves.stays firstAttach).2 (leaves.stays secondAttach).2
  · intro other found at_ attach
    obtain ⟨notCaller, attachBefore⟩ := leaves.stays attach
    have different : found ≠ conn := by
      intro same
      rw [same] at attachBefore
      exact notCaller (inv.apart other caller conn at_ phase attachBefore attached)
    rw [sameMonitors found different]
    exact inv.unstarted other found at_ attachBefore
  · intro found present
    by_cases same : found = conn
    · rw [same] at present ⊢
      exact listed present
    · rw [sameMonitors found same] at present
      exact grows found (inv.listed found present)
  · intro found isCurrent
    rw [sameCurrent] at isCurrent
    rcases inv.watched found isCurrent with
      watching | ⟨owner, at_, attach, hasStored⟩
    · have different : found ≠ conn := by
        intro same
        rw [same, inv.unstarted caller conn phase attached] at watching
        contradiction
      rw [sameMonitors found different]
      exact Or.inl watching
    · by_cases same : owner = caller
      · rw [same, attached, Option.some.injEq, Prod.mk.injEq] at attach
        obtain ⟨sameConn, samePhase⟩ := attach
        rw [← sameConn]
        exact Or.inl (watches (samePhase ▸ hasStored))
      · refine Or.inr ⟨owner, at_, ?_, hasStored⟩
        rw [leaves.others owner same]
        exact attach

theorem Monitored.attachMonitor (attached : state.attach? caller = some (conn, .unlocked)) :
    Monitored (next config state (.attachMonitor caller conn)) := by
  have waiting : (next config state (.attachMonitor caller conn)).monitors conn = .waiting :=
    Function.update_self _ _ _
  refine inv.attachLeaves attached attachMonitor_leaves (fun _ isUnused => isUnused) rfl ?_ ?_ ?_ ?_
  · intro found different
    exact Function.update_of_ne different _ _
  · intro found member
    exact List.mem_cons_of_mem conn member
  · exact fun _ => List.mem_cons_self
  · intro _
    rw [waiting]
    rfl

theorem Monitored.attachRefuse (attached : state.attach? caller = some (conn, .refused)) :
    Monitored (next config state (.attachRefuse caller conn)) := by
  refine inv.attachLeaves attached attachRefuse_leaves ?_ rfl
    (fun _ _ => rfl) (fun _ member => member) (inv.listed conn) nofun
  intro found isUnused
  rcases endConn_conns state conn found with ended | same
  · exact nomatch ended.symm.trans isUnused
  · exact same.symm.trans isUnused

end Steps

theorem present_of_eq {state : State} {conn : Nat} {monitor : Monitor}
    (isAt : state.monitors conn = monitor) (present : monitor ≠ .absent) :
    state.monitors conn ≠ .absent :=
  fun isAbsent => present (isAt.symm.trans isAbsent)

theorem current_of_monitorSwap {config : Config} {state : State} {conn found : Nat}
    (isCurrent : (next config state (.monitorSwap conn)).current = some found) :
    state.current = some found ∧ found ≠ conn := by
  simp only [next] at isCurrent
  split at isCurrent
  · contradiction
  · rename_i other
    exact ⟨isCurrent, fun same => other (same ▸ isCurrent)⟩

theorem step_monitored {config : Config} {state final : State} {event : Event}
    (inv : Monitored state) (stepped : step config state event = some final) : Monitored final := by
  obtain ⟨enabled, nextEq⟩ := guarded_eq_some_iff.mp stepped
  subst nextEq
  cases event with
  | connectDial conn => exact inv.dial (attach?_of_connectDial enabled) enabled.2
  | loopDial conn => exact inv.dial (attach?_of_loopDial enabled) enabled.2
  | attachLock caller conn => exact inv.attachMoves enabled.1 nofun
  | attachCheckClosed | attachCheckCurrent => exact inv.attachMoves enabled nofun
  | attachStore caller conn => exact inv.attachStore enabled
  | attachUnlock caller conn => exact inv.attachMoves enabled (fun _ => rfl)
  | attachMonitor caller conn => exact inv.attachMonitor enabled
  | attachRefuse caller conn => exact inv.attachRefuse enabled
  | monitorCompare conn =>
    apply inv.monitorMoves enabled rfl (present_of_eq enabled.1 nofun) rfl rfl
    · exact fun _ isCurrent => isCurrent
    · split <;> exact nofun
    · intro isCurrent _
      have found : state.current = some conn := isCurrent
      rw [if_pos found]
      rfl
  | monitorSwap conn =>
    apply inv.monitorMoves enabled rfl (present_of_eq enabled nofun) rfl rfl
    · exact fun _ isCurrent => (current_of_monitorSwap isCurrent).1
    · exact nofun
    · exact fun isCurrent _ => absurd rfl (current_of_monitorSwap isCurrent).2
  | monitorPass conn =>
    apply inv.monitorMoves enabled rfl (present_of_eq enabled nofun) rfl rfl
    · exact fun _ isCurrent => isCurrent
    · split <;> exact nofun
    · intro _ watching
      rw [show state.monitors conn = .swapped from enabled] at watching
      contradiction
  | monitorEnter conn =>
    apply inv.monitorMoves enabled rfl (present_of_eq enabled nofun) rfl rfl
    · exact fun _ isCurrent => isCurrent
    · exact nofun
    · intro _ watching
      rw [show state.monitors conn = .entering from enabled] at watching
      contradiction
  | lose | connectEnter | connectLook | connectDialFail | loopCheck
  | loopDialFail | restoreDone | restoreFail | loopTimer | loopCancelled
  | loopTimeout | loopClear | closeFlag | closeCancel | closeLoad
  | closeConn => exact inv.quiet enabled rfl rfl rfl rfl

end FitzGo.Client.Lifecycle
