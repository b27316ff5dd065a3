import FitzGo.Client.Lifecycle

/-!
# What a step does to the connections

A connection is opened by a dial, and belongs to the `attachConnection` that
follows until it is stored or closed. Every other step is quiet: it opens no
connection and leaves both `attachConnection` calls where they are.
-/

namespace FitzGo.Client.Lifecycle

/-- The connection belongs to its `attachConnection`, and is not stored. -/
def Attach.owns : Attach → Bool
  | .entering | .locked | .admitted | .vacant | .refused => true
  | .stored | .unlocked => false

section Attaching

variable {state : State} {caller other : Caller} {conn : Nat} {phase : Attach}

@[simp]
theorem attach?_setAttach_self :
    (state.setAttach caller conn phase).attach? caller = some (conn, phase) := by
  cases caller <;> rfl

theorem attach?_setAttach_of_ne (different : other ≠ caller) :
    (state.setAttach caller conn phase).attach? other = state.attach? other := by
  cases caller <;> cases other
  · exact absurd rfl different
  · rfl
  · rfl
  · exact absurd rfl different

theorem attach?_setAttach_eq_some {found : Nat} {at_ : Attach}
    (attached : (state.setAttach caller conn phase).attach? other = some (found, at_)) :
    other = caller ∧ found = conn ∧ at_ = phase ∨
      other ≠ caller ∧ state.attach? other = some (found, at_) := by
  by_cases same : other = caller
  · rw [same, attach?_setAttach_self, Option.some.injEq, Prod.mk.injEq] at attached
    exact Or.inl ⟨same, attached.1.symm, attached.2.symm⟩
  · rw [attach?_setAttach_of_ne same] at attached
    exact Or.inr ⟨same, attached⟩

theorem holdsMu_of_attach (attached : state.attach? caller = some (conn, phase)) :
    state.holdsMu caller = phase.holdsMu := by
  unfold State.holdsMu
  rw [attached]
  rfl

theorem attach_of_holdsMu (holds : state.holdsMu caller = true) :
    ∃ found at_, state.attach? caller = some (found, at_) ∧ at_.holdsMu = true := by
  unfold State.holdsMu at holds
  cases attach : state.attach? caller with
  | none =>
    rw [attach] at holds
    contradiction
  | some found =>
    rw [attach] at holds
    exact ⟨found.1, found.2, rfl, holds⟩

theorem holdsMu_setAttach_self :
    (state.setAttach caller conn phase).holdsMu caller = phase.holdsMu :=
  holdsMu_of_attach attach?_setAttach_self

theorem holdsMu_setAttach_of_ne (different : other ≠ caller) :
    (state.setAttach caller conn phase).holdsMu other = state.holdsMu other := by
  unfold State.holdsMu
  rw [attach?_setAttach_of_ne different]

end Attaching

section Ending

variable {state : State} {conn found : Nat}

theorem endConn_conns (state : State) (conn found : Nat) :
    (state.endConn conn).conns found = .ended ∨
      (state.endConn conn).conns found = state.conns found := by
  by_cases same : found = conn
  · rw [same]
    exact Or.inl (Function.update_self _ _ _)
  · exact Or.inr (Function.update_of_ne same _ _)

theorem open_of_endConn (isOpen : (state.endConn conn).conns found = .open) :
    state.conns found = .open := by
  rcases endConn_conns state conn found with ended | same
  · rw [ended] at isOpen
    contradiction
  · rwa [same] at isOpen

end Ending

/-- The event is not a step of `attachConnection` or of the dial before it. -/
def Event.quiet : Event → Bool
  | .connectDial _ | .loopDial _ | .attachLock _ _
  | .attachCheckClosed _ _ | .attachCheckCurrent _ | .attachStore _ _
  | .attachUnlock _ _ | .attachMonitor _ _ | .attachRefuse _ _ => false
  | .lose _ | .connectEnter | .connectLook | .connectDialFail
  | .monitorCompare _ | .monitorSwap _ | .monitorPass _ | .monitorEnter _
  | .loopCheck | .loopDialFail _ | .restoreDone _ | .restoreFail _ _
  | .loopTimer | .loopCancelled | .loopTimeout | .loopClear _ | .closeFlag
  | .closeCancel | .closeLoad | .closeConn _ => true

section Quiet

variable {config : Config} {state : State} {event : Event}

section

variable (enabled : Enabled config state event)
include enabled

variable (quiet : event.quiet = true)
include quiet

private theorem connectAttach?_of_quiet :
    (next config state event).connect.attach? = state.connect.attach? := by
  cases event with
  | connectEnter | connectLook =>
    rw [show state.connect = _ from enabled]
    simp only [next]
    split <;> rfl
  | connectDialFail =>
    rw [show state.connect = .dialing from enabled]
    rfl
  | connectDial | loopDial | attachLock | attachCheckClosed
  | attachCheckCurrent | attachStore | attachUnlock | attachMonitor
  | attachRefuse => contradiction
  | _ => rfl

theorem loopAttach?_of_quiet : (next config state event).loop.attach? = state.loop.attach? := by
  cases event with
  | monitorEnter conn =>
    simp only [next]
    split
    · rfl
    · rename_i notRunning
      have idle : state.loop = .idle := by
        have clear : state.reconnecting = false := Bool.eq_false_iff.mpr fun running =>
            notRunning (Or.inl running)
        exact Decidable.of_not_not (of_decide_eq_false clear)
      rw [idle]
      rfl
  | loopCheck =>
    rw [show state.loop = .attempting from enabled]
    simp only [next]
    split <;> rfl
  | loopDialFail mismatch | restoreFail conn mismatch =>
    rw [show state.loop = _ from enabled]
    cases mismatch <;> rfl
  | restoreDone | loopTimer | loopClear =>
    rw [show state.loop = _ from enabled]
    rfl
  | loopCancelled =>
    rw [enabled.1]
    rfl
  | connectDial | loopDial | attachLock | attachCheckClosed
  | attachCheckCurrent | attachStore | attachUnlock | attachMonitor
  | attachRefuse => contradiction
  | _ => rfl

theorem attach?_of_quiet : ∀ caller, (next config state event).attach? caller = state.attach? caller
  | .connect => connectAttach?_of_quiet enabled quiet
  | .loop => loopAttach?_of_quiet enabled quiet

end

variable (quiet : event.quiet = true)
include quiet

theorem conns_of_quiet (conn : Nat) : (next config state event).conns conn = .ended ∨
      (next config state event).conns conn = state.conns conn := by
  cases event with
  | lose lost => exact endConn_conns state lost conn
  | restoreFail lost mismatch => exact endConn_conns state lost conn
  | closeConn conn? =>
    simp only [next]
    split
    · exact Or.inl rfl
    · exact Or.inr rfl
  | connectDial | loopDial | attachLock | attachCheckClosed
  | attachCheckCurrent | attachStore | attachUnlock | attachMonitor
  | attachRefuse => contradiction
  | _ => exact Or.inr rfl

theorem open_of_quiet (conn : Nat)
    (isOpen : (next config state event).conns conn = .open) : state.conns conn = .open := by
  rcases conns_of_quiet quiet conn with ended | same
  · rw [ended] at isOpen
    contradiction
  · rwa [same] at isOpen

theorem unused_of_quiet (conn : Nat)
    (isUnused : (next config state event).conns conn = .unused) : state.conns conn = .unused := by
  rcases conns_of_quiet quiet conn with ended | same
  · rw [ended] at isUnused
    contradiction
  · rwa [same] at isUnused

theorem ended_of_quiet {conn : Nat}
    (ended : state.conns conn = .ended) : (next config state event).conns conn = .ended := by
  rcases conns_of_quiet quiet conn with endedNow | same
  · exact endedNow
  · rw [same]
    exact ended

end Quiet

section Leaving

variable {config : Config} {state final : State} {caller other : Caller} {conn : Nat}

theorem attach?_of_connectDial (enabled : Enabled config state (.connectDial conn)) :
    state.attach? .connect = none := by
  change state.connect.attach? = none
  rw [enabled.1]
  rfl

theorem attach?_of_loopDial (enabled : Enabled config state (.loopDial conn)) :
    state.attach? .loop = none := by
  change state.loop.attach? = none
  rw [enabled.1]
  rfl

/-- `attachConnection` of this caller has returned, and the other one is where
it was. -/
structure Leaves (state final : State) (caller : Caller) : Prop where
  gone : final.attach? caller = none
  others : ∀ other, other ≠ caller → final.attach? other = state.attach? other

theorem attachMonitor_leaves :
    Leaves state (next config state (.attachMonitor caller conn)) caller := by
  constructor
  · cases caller <;> rfl
  · intro other different
    cases caller <;> cases other <;> first | rfl | exact absurd rfl different

theorem attachRefuse_leaves :
    Leaves state (next config state (.attachRefuse caller conn)) caller := by
  constructor
  · cases caller <;> rfl
  · intro other different
    cases caller <;> cases other <;> first | rfl | exact absurd rfl different

theorem Leaves.stays {found : Nat} {at_ : Attach} (leaves : Leaves state final caller)
    (attach : final.attach? other = some (found, at_)) :
    other ≠ caller ∧ state.attach? other = some (found, at_) := by
  have notCaller : other ≠ caller := by
    intro same
    rw [same, leaves.gone] at attach
    contradiction
  rw [leaves.others other notCaller] at attach
  exact ⟨notCaller, attach⟩

theorem attachRefuse_ends : (next config state (.attachRefuse caller conn)).conns conn ≠ .open := by
  have ended : (state.endConn conn).conns conn = .ended := Function.update_self _ _ _
  exact fun isOpen => nomatch ended.symm.trans isOpen

end Leaving

/-- Every open connection is the kept one, or belongs to an
`attachConnection`. -/
def Held (kept : Option Nat) (state : State) : Prop :=
  ∀ conn, state.conns conn = .open →
    kept = some conn ∨ ∃ caller phase, state.attach? caller = some (conn, phase) ∧ phase.owns = true

section Holding

variable {kept : Option Nat} {state final : State} (held : Held kept state)
include held

theorem Held.frame (sameAttach : ∀ caller, final.attach? caller = state.attach? caller)
    (opens : ∀ conn, final.conns conn = .open → state.conns conn = .open) : Held kept final := by
  intro conn isOpen
  simp only [sameAttach]
  exact held conn (opens conn isOpen)

variable {caller : Caller} {conn : Nat}

theorem Held.attachMoves {before phase : Attach}
    (attached : state.attach? caller = some (conn, before))
    (owns : before.owns = true → phase.owns = true) :
    Held kept (state.setAttach caller conn phase) := by
  intro found isOpen
  rcases held found isOpen with isKept | ⟨owner, at_, attach, own⟩
  · exact Or.inl isKept
  · right
    by_cases same : owner = caller
    · rw [same, attached, Option.some.injEq, Prod.mk.injEq] at attach
      obtain ⟨sameConn, samePhase⟩ := attach
      refine ⟨caller, phase, ?_, owns (samePhase ▸ own)⟩
      rw [← sameConn]
      exact attach?_setAttach_self
    · refine ⟨owner, at_, ?_, own⟩
      rw [attach?_setAttach_of_ne same]
      exact attach

theorem Held.dial (free : state.attach? caller = none) :
    Held kept ((state.openConn conn).setAttach caller conn .entering) := by
  intro found isOpen
  by_cases same : found = conn
  · rw [same]
    exact Or.inr ⟨caller, .entering, attach?_setAttach_self, rfl⟩
  · have wasOpen : state.conns found = .open := (Function.update_of_ne same _ _).symm.trans isOpen
    rcases held found wasOpen with isKept | ⟨owner, at_, attach, own⟩
    · exact Or.inl isKept
    · have notCaller : owner ≠ caller := by
        intro sameCaller
        rw [sameCaller, free] at attach
        contradiction
      refine Or.inr ⟨owner, at_, ?_, own⟩
      rw [attach?_setAttach_of_ne notCaller]
      exact attach

theorem Held.attachLeaves {phase : Attach}
    (attached : state.attach? caller = some (conn, phase)) (leaves : Leaves state final caller)
    (opens : ∀ found, final.conns found = .open → state.conns found = .open)
    (closed : phase.owns = true → final.conns conn ≠ .open) : Held kept final := by
  intro found isOpen
  rcases held found (opens found isOpen) with
    isKept | ⟨owner, at_, attach, own⟩
  · exact Or.inl isKept
  · by_cases same : owner = caller
    · rw [same, attached, Option.some.injEq, Prod.mk.injEq] at attach
      obtain ⟨sameConn, samePhase⟩ := attach
      rw [← sameConn] at isOpen
      exact absurd isOpen (closed (samePhase ▸ own))
    · refine Or.inr ⟨owner, at_, ?_, own⟩
      exact (leaves.others owner same).trans attach

end Holding

end FitzGo.Client.Lifecycle
