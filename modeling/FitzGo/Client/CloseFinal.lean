import FitzGo.Client.SingleConnection

/-!
# `Close` is final

An `attachConnection` that has found the flag unset may still store its
connection later; when none is at that point while `Close` loads the current
connection, whoever still has a connection gives it up.
-/

namespace FitzGo.Client.Lifecycle

open StepMachine

def Attach.mayStore : Attach → Bool
  | .admitted | .vacant => true
  | .entering | .locked | .stored | .unlocked | .refused => false

def Close.pastLoad : Close → Bool
  | .loaded _ | .finished => true
  | .idle | .flagged | .cancelled => false

def Close.loaded? : Close → Option Nat
  | .loaded conn? => conn?
  | .idle | .flagged | .cancelled | .finished => none

def NoneMayStore (state : State) : Prop :=
  ∀ caller conn phase, state.attach? caller = some (conn, phase) → phase.mayStore = false

def State.mayStore (state : State) (caller : Caller) : Bool :=
  (state.attach? caller).any fun attach => attach.2.mayStore

/-- `Close` loads the current connection while no `attachConnection` is between
its look at the flag and its store. -/
def LoadsAfterStores (state : State) : Event → Prop
  | .closeLoad => state.mayStore .connect = false ∧ state.mayStore .loop = false
  | _ => True

def FindsEveryConnection (state : State) (event : Event) : Prop :=
  OverwritesNoOpen state event ∧ LoadsAfterStores state event

instance (state : State) (event : Event) : Decidable (FindsEveryConnection state event) := by
  unfold FindsEveryConnection LoadsAfterStores
  split <;> infer_instance

private theorem noneMayStore_of_mayStore {state : State} (connect : state.mayStore .connect = false)
    (loop : state.mayStore .loop = false) : NoneMayStore state := by
  intro caller conn phase attached
  have mayNot : state.mayStore caller = false := by
    cases caller
    · exact connect
    · exact loop
  unfold State.mayStore at mayNot
  rw [attached] at mayNot
  exact mayNot

variable {phase : Attach}

theorem NoneMayStore.setAttach {state : State} (noStore : NoneMayStore state) (caller : Caller)
    (conn : Nat) (never : phase.mayStore = false) :
    NoneMayStore (state.setAttach caller conn phase) := by
  intro other found at_ attach
  rcases attach?_setAttach_eq_some attach with
    ⟨_, _, samePhase⟩ | ⟨_, stays⟩
  · rw [samePhase]
    exact never
  · exact noStore other found at_ stays

structure Shut (state : State) : Prop where
  closed : state.closed = true
  pastLoad : state.close.pastLoad = true
  noStore : NoneMayStore state
  held : Held state.close.loaded? state

section Steps

variable {state final : State} (inv : Shut state)
include inv

theorem Shut.congr (sameClosed : final.closed = state.closed)
    (sameClose : final.close = state.close)
    (noStore : NoneMayStore final) (held : Held state.close.loaded? final) : Shut final where
  closed := sameClosed.trans inv.closed
  pastLoad := sameClose ▸ inv.pastLoad
  noStore := noStore
  held := sameClose ▸ held

theorem Shut.frame (sameAttach : ∀ caller, final.attach? caller = state.attach? caller)
    (opens : ∀ conn, final.conns conn = .open → state.conns conn = .open)
    (sameClosed : final.closed = state.closed) (sameClose : final.close = state.close) :
    Shut final := by
  refine inv.congr sameClosed sameClose ?_ (inv.held.frame sameAttach opens)
  intro caller conn phase attached
  rw [sameAttach] at attached
  exact inv.noStore caller conn phase attached

variable {config : Config}

theorem Shut.quiet {event : Event} (enabled : Enabled config state event)
    (quiet : event.quiet = true) (sameClosed : (next config state event).closed = state.closed)
    (sameClose : (next config state event).close = state.close) : Shut (next config state event) :=
  inv.frame (attach?_of_quiet enabled quiet) (open_of_quiet quiet) sameClosed sameClose

variable {caller : Caller} {conn : Nat}

theorem Shut.attachMoves {before : Attach}
    (attached : state.attach? caller = some (conn, before))
    (owns : before.owns = true → phase.owns = true) (noStore : phase.mayStore = false) :
    Shut (state.setAttach caller conn phase) :=
  { inv with
    noStore := inv.noStore.setAttach caller conn noStore
    held := inv.held.attachMoves attached owns }

theorem Shut.dial {caller : Caller} (free : state.attach? caller = none) :
    Shut ((state.openConn conn).setAttach caller conn .entering) := by
  have noStore : NoneMayStore (state.openConn conn) := inv.noStore
  exact { inv with
    noStore := noStore.setAttach caller conn rfl
    held := inv.held.dial free }

theorem Shut.attachLeaves
    (attached : state.attach? caller = some (conn, phase)) (leaves : Leaves state final caller)
    (opens : ∀ found, final.conns found = .open → state.conns found = .open)
    (ended : phase.owns = true → final.conns conn ≠ .open)
    (sameClosed : final.closed = state.closed) (sameClose : final.close = state.close) :
    Shut final := by
  refine inv.congr sameClosed sameClose ?_ (inv.held.attachLeaves attached leaves opens ended)
  intro other found at_ attach
  exact inv.noStore other found at_ (leaves.stays attach).2

theorem Shut.closeConn {conn? : Option Nat}
    (loaded : state.close = .loaded conn?) : Shut (next config state (.closeConn conn?)) := by
  refine { inv with
      pastLoad := rfl
      held := ?_ }
  intro conn isOpen
  have stillOpen : conn? ≠ some conn ∧ state.conns conn = .open := by
    simp only [next] at isOpen
    split at isOpen
    · contradiction
    · exact ⟨by assumption, isOpen⟩
  rcases inv.held conn stillOpen.2 with isLoaded | owner
  · rw [loaded] at isLoaded
    exact absurd isLoaded stillOpen.1
  · exact Or.inr owner

theorem Shut.not_attachStore :
    state.attach? caller ≠ some (conn, caller.beforeStore) := by
  intro attached
  have mayNot := inv.noStore caller conn _ attached
  cases caller <;> contradiction

theorem Shut.kept {event : Event}
    (stepped : step config state event = some final) : Shut final := by
  obtain ⟨enabled, nextEq⟩ := guarded_eq_some_iff.mp stepped
  subst nextEq
  have notBefore : state.close ≠ .idle ∧ state.close ≠ .flagged ∧ state.close ≠ .cancelled := by
    have past := inv.pastLoad
    refine ⟨?_, ?_, ?_⟩ <;>
      · intro isBefore
        rw [isBefore] at past
        contradiction
  cases event with
  | connectDial conn => exact inv.dial (attach?_of_connectDial enabled)
  | loopDial conn => exact inv.dial (attach?_of_loopDial enabled)
  | attachLock caller conn => exact inv.attachMoves enabled.1 (fun owns => owns) rfl
  | attachCheckClosed caller conn =>
    apply inv.attachMoves enabled
    · intro _
      split <;> rfl
    · rw [inv.closed]
      rfl
  | attachCheckCurrent conn => exact nomatch inv.noStore .connect conn .admitted enabled
  | attachStore caller conn => exact absurd enabled inv.not_attachStore
  | attachUnlock caller conn => exact inv.attachMoves enabled nofun rfl
  | attachMonitor caller conn =>
    exact inv.attachLeaves enabled attachMonitor_leaves (fun _ isOpen => isOpen) nofun rfl rfl
  | attachRefuse caller conn =>
    exact inv.attachLeaves enabled attachRefuse_leaves
      (fun _ => open_of_endConn) (fun _ => attachRefuse_ends) rfl rfl
  | closeFlag => exact absurd enabled notBefore.1
  | closeCancel => exact absurd enabled notBefore.2.1
  | closeLoad => exact absurd enabled notBefore.2.2
  | closeConn conn? => exact inv.closeConn enabled
  | lose | connectEnter | connectLook | connectDialFail | monitorCompare
  | monitorSwap | monitorPass | monitorEnter | loopCheck | loopDialFail
  | restoreDone | restoreFail | loopTimer | loopCancelled | loopTimeout
  | loopClear => exact inv.quiet enabled rfl rfl rfl

end Steps

theorem Shut.run_stores_nothing {config : Config} {caller : Caller} {conn : Nat} :
    ∀ {more : List Event} {state later : State}, Shut state →
      run (step config) state more = some later →
      .attachStore caller conn ∉ more
  | [], _, _, _, _ => List.not_mem_nil
  | event :: rest, state, later, shut, ran => by
      obtain ⟨middle, stepped, ranRest⟩ := run_cons_eq_some ran
      intro member
      rcases List.mem_cons.mp member with now | afterwards
      · rw [← now] at stepped
        obtain ⟨enabled, _⟩ := guarded_eq_some_iff.mp stepped
        exact shut.not_attachStore enabled
      · exact (shut.kept stepped).run_stores_nothing ranRest afterwards

structure Finishing (state : State) : Prop where
  owned : Owned state
  flagged : state.close ≠ .idle → state.closed = true
  shut : state.close.pastLoad = true → Shut state

private theorem initial_finishing : Finishing initial :=
  { owned := initial_owned
    flagged := fun notIdle => absurd rfl notIdle
    shut := nofun }

private theorem shut_of_closeLoad {state : State} (inv : Finishing state)
    (cancelled : state.close = .cancelled) (noStore : NoneMayStore state) :
    Shut { state with close := .loaded state.current } :=
  { closed := inv.flagged (by rw [cancelled]; exact nofun)
    pastLoad := rfl
    noStore := noStore
    held := inv.owned.owned }

private theorem step_finishing {config : Config} {state final : State} {event : Event}
    (inv : Finishing state) (finds : FindsEveryConnection state event)
    (stepped : step config state event = some final) : Finishing final := by
  have owned : Owned final := step_owned inv.owned finds.1 stepped
  by_cases past : state.close.pastLoad = true
  · have shut : Shut final := (inv.shut past).kept stepped
    exact
      { owned := owned
        flagged := fun _ => shut.closed
        shut := fun _ => shut }
  · obtain ⟨enabled, nextEq⟩ := guarded_eq_some_iff.mp stepped
    subst nextEq
    cases event with
    | closeFlag => exact ⟨owned, fun _ => rfl, nofun⟩
    | closeCancel =>
      have flagged : state.closed = true :=
        inv.flagged (by rw [show state.close = .flagged from enabled]; nofun)
      exact ⟨owned, fun _ => flagged, nofun⟩
    | closeLoad =>
      have shut := shut_of_closeLoad inv enabled (noneMayStore_of_mayStore finds.2.1 finds.2.2)
      exact ⟨owned, fun _ => shut.closed, fun _ => shut⟩
    | closeConn conn? =>
      rw [show state.close = .loaded conn? from enabled] at past
      exact absurd rfl past
    | _ => exact ⟨owned, inv.flagged, fun pastNow => absurd pastNow past⟩

/-- After `Close`: nothing is left open once `Connect` and the loop have
returned, and no later step stores a connection. -/
structure ClosedForGood (config : Config) (state : State) : Prop where
  nothingOpen : state.connect = .idle → state.loop = .idle → ∀ conn, state.conns conn ≠ .open
  neverStores : ∀ more later, run (step config) state more = some later →
    ∀ caller conn, .attachStore caller conn ∉ more

theorem close_is_final (config : Config) (events : List Event) (final : State)
    (ran : run (step config) initial events = some final)
    (finds : Along (step config) FindsEveryConnection initial events)
    (returned : final.close = .finished) : ClosedForGood config final := by
  have inv : Finishing final := invariant_along Finishing step_finishing initial_finishing finds ran
  have shut : Shut final := inv.shut (by rw [returned]; rfl)
  constructor
  · intro connectIdle loopIdle conn isOpen
    have held := shut.held conn isOpen
    rw [returned] at held
    rcases held with isLoaded | ⟨caller, phase, attached, _⟩
    · contradiction
    · cases caller with
      | connect =>
        change final.connect.attach? = _ at attached
        rw [connectIdle] at attached
        contradiction
      | loop =>
        change final.loop.attach? = _ at attached
        rw [loopIdle] at attached
        contradiction
  · intro more later ranOn caller conn
    exact shut.run_stores_nothing ranOn

def closedRun : List Event :=
  connectRun 0 ++ lossRun 0 ++
    [.connectEnter, .connectLook, .loopDial 1, .closeFlag, .connectDial 2,
      .closeCancel, .closeLoad, .closeConn none,
      .attachLock .loop 1, .attachCheckClosed .loop 1,
      .attachRefuse .loop 1, .loopClear false,
      .attachLock .connect 2, .attachCheckClosed .connect 2,
      .attachRefuse .connect 2]

theorem closedRun_is_final : ∃ final, run (step defaultConfig) initial closedRun = some final ∧
        final.close = .finished ∧ final.connect = .idle ∧
        final.loop = .idle ∧ ClosedForGood defaultConfig final :=
  ⟨_, rfl, rfl, rfl, rfl, close_is_final defaultConfig closedRun _ rfl (by decide) rfl⟩

/-- `attachConnection` has found the client not closed; `Close` runs through
before the store. -/
def overtakenRun : List Event :=
  [.connectEnter, .connectLook, .connectDial 0, .attachLock .connect 0,
    .attachCheckClosed .connect 0, .closeFlag, .closeCancel, .closeLoad,
    .closeConn none, .attachCheckCurrent 0, .attachStore .connect 0,
    .attachUnlock .connect 0, .attachMonitor .connect 0]

theorem connection_is_open_after_close : ∃ final,
      run (step defaultConfig) initial overtakenRun = some final ∧
        final.close = .finished ∧ final.connect = .idle ∧
        final.loop = .idle ∧ final.current = some 0 ∧
        final.conns 0 = .open ∧ ¬ ClosedForGood defaultConfig final :=
  ⟨_, rfl, rfl, rfl, rfl, rfl, rfl, fun closed => closed.nothingOpen rfl rfl 0 rfl⟩

end FitzGo.Client.Lifecycle
