import FitzGo.Client.ManagedLeaseSafety

/-!
# The tokens of a managed lease

The supervisor makes its calls of the lease one after the other, so the token
that a call has read is still that of the handle when the call takes the mutex.
-/

namespace FitzGo.Client.ManagedLease

open StepMachine Domains
open Domains.Handles (Conn LeaseOperation)

/-- No call has a token of its own: the supervisor has no use for
`ExtendWithToken` and `ReleaseWithToken`. -/
structure Plain (lease : LeaseTokens.State) : Prop where
  waiting : ∀ call ∈ lease.waiting, call.given = none
  holder : ∀ call phase, lease.holder = some (call, phase) → call.given = none
  sent : ∀ call token, .sent call token ∈ lease.trace → call.given = none

theorem Plain.next {lease : LeaseTokens.State} {event : LeaseTokens.Event} (plain : Plain lease)
    (enabled : LeaseTokens.Enabled lease event)
    (unset : ∀ operation ttlSecs given, event = .start operation ttlSecs given → given = none) :
    Plain (LeaseTokens.next lease event) := by
  cases event with
  | start operation ttlSecs given =>
    refine { plain with waiting := fun call listed => ?_ }
    rcases List.mem_append.mp listed with old | new
    · exact plain.waiting call old
    · rw [List.mem_singleton] at new
      subst new
      exact unset operation ttlSecs given rfl
  | lock call conn =>
    have others : ∀ other ∈ lease.waiting.erase call, other.given = none :=
      fun other left => plain.waiting other (List.mem_of_mem_erase left)
    dsimp only [LeaseTokens.next]
    rcases LeaseTokens.lock_cases lease call conn with ⟨failure, _, result⟩ | ⟨_, result⟩
    · rw [result]
      exact { plain with waiting := others }
    · rw [result]
      refine { plain with waiting := others, holder := fun holder phase held => ?_ }
      cases held
      exact plain.waiting call enabled.1
  | send call =>
    refine ⟨plain.waiting, fun holder phase held => ?_, fun other token member => ?_⟩
    · cases held
      exact plain.holder call .checked enabled
    · rcases List.mem_append.mp member with old | new
      · exact plain.sent other token old
      · cases List.mem_singleton.mp new
        exact plain.holder call .checked enabled
  | fail call phase => exact { plain with holder := nofun }
  | reply call payload now =>
    dsimp only [LeaseTokens.next]
    rcases LeaseTokens.reply_cases lease call payload now with
      ⟨token, expiry, _, _, result⟩ | ⟨outcome, _, result⟩
    · rw [result]
      refine { plain with holder := nofun, sent := fun other sent member => ?_ }
      rcases List.mem_append.mp member with old | new
      · exact plain.sent other sent old
      · cases List.mem_singleton.mp new
    · rw [result]
      exact { plain with holder := nofun }

/-- A call that waits for the mutex has read the token that the handle has. -/
structure Private (acquired : UInt64) (state : State) : Prop where
  tokens : LeaseTokens.Inv acquired.toNat state.lease
  plain : Plain state.lease
  upToDate : ∀ call purpose, state.pc = .operating call none purpose →
    call.seen = LeaseTokens.renewals state.lease.trace

section Private

variable {acquired : UInt64} {state : State}

section

variable (owned : Private acquired state)
include owned

theorem Private.move {event : LeaseTokens.Event} (enabled : LeaseTokens.Enabled state.lease event)
    (met : LeaseTokens.Undisturbed state.lease event)
    (started : ∀ operation ttlSecs given, event ≠ .start operation ttlSecs given)
    {pc : Pc} {history : List Item}
    (busy : ∀ call purpose, pc ≠ .operating call none purpose) :
    Private acquired { state with
        lease := LeaseTokens.next state.lease event
        pc
        history } where
  tokens := LeaseTokens.step_inv owned.tokens met (guarded_eq_some_iff.mpr ⟨enabled, rfl⟩)
  plain := owned.plain.next enabled fun _ _ _ same => absurd same (started _ _ _)
  upToDate call purpose here := absurd here (busy call purpose)

theorem Private.rest {after : State} (lease : after.lease = state.lease)
    (idle : after.pc = state.pc ∨ ∀ call purpose, after.pc ≠ .operating call none purpose) :
    Private acquired after := by
  refine ⟨lease ▸ owned.tokens, lease ▸ owned.plain, fun call purpose here => ?_⟩
  rw [lease]
  rcases idle with same | busy
  · exact owned.upToDate call purpose (same ▸ here)
  · exact absurd here (busy call purpose)

theorem operate_private (operation : LeaseOperation) (ttlSecs : UInt64) (purpose : Purpose) :
    Private acquired (state.operate operation ttlSecs purpose) where
  tokens := LeaseTokens.start_inv owned.tokens operation ttlSecs none
  plain := by
    have enabled : LeaseTokens.Enabled state.lease (.start operation ttlSecs none) := trivial
    refine owned.plain.next enabled fun _ _ given same => ?_
    cases same
    rfl
  upToDate call purpose here := by
    cases here
    rfl

end

private theorem lockedPc_ne (lease : LeaseTokens.State) (locked : LeaseTokens.Call)
    (conn : Conn) (aim : Purpose) (call : LeaseTokens.Call) (purpose : Purpose) :
    lockedPc lease locked conn aim ≠ .operating call none purpose := by
  unfold lockedPc
  split <;> simp

theorem concludeLoss_ne (loss : Error) (outcome : ManagedLeaseOutcome) (call : LeaseTokens.Call)
    (purpose : Purpose) : concludeLoss loss outcome ≠ .operating call none purpose := by
  unfold concludeLoss
  repeat' split
  all_goals simp

private theorem concludeRelease_ne (parent : Option Error) (outcome : ManagedLeaseOutcome)
    (releaseErr : Option Error) (call : LeaseTokens.Call) (purpose : Purpose) :
    concludeRelease parent outcome releaseErr ≠ .operating call none purpose := by
  unfold concludeRelease
  repeat' split
  all_goals simp

theorem finishRenewal_private (owned : Private acquired state) (result : LeaseTokens.Outcome)
    (watching : Bool) : Private acquired (state.finishRenewal result watching) := by
  unfold State.finishRenewal
  split
  · exact owned.rest rfl (Or.inr (by simp))
  · exact owned.rest rfl (Or.inr (by simp))

private theorem finalize_private (owned : Private acquired state)
    (ttlSecs : UInt64) (outcome : ManagedLeaseOutcome) :
    Private acquired (next ttlSecs state (.finalize outcome)) := by
  dsimp only [next]
  split
  · exact owned.rest rfl (Or.inr (concludeLoss_ne _ outcome))
  · exact operate_private owned .release 0 (.release outcome)

private theorem step_private {ttlSecs : UInt64} {after : State} {event : Event}
    (owned : Private acquired state) (stepped : step ttlSecs state event = some after) :
    Private acquired after := by
  obtain ⟨enabled, rfl⟩ := guarded_eq_some_iff.mp stepped
  cases event with
  | propagate cause =>
    exact owned.rest (cancelCallback_lease cause) (Or.inl (cancelCallback_pc cause))
  | takeResult | takeParent | signal =>
    exact owned.rest (cancelCallback_lease _) (Or.inr (by simp [next]))
  | takeTick watching =>
    have idle : Private acquired { state with fired := false } := owned.rest rfl (Or.inl rfl)
    exact operate_private idle .extend ttlSecs (.renewal watching)
  | lock call conn purpose =>
    apply owned.move enabled.2
    · exact fun _ _ => owned.upToDate call purpose enabled.1
    · simp
    · exact lockedPc_ne state.lease call conn purpose
  | send call purpose | fail call phase purpose | reply call payload now purpose =>
    exact owned.move enabled.2 trivial (by simp) (by simp)
  | finishRenewal result watching => exact finishRenewal_private owned result watching
  | collect loss => exact owned.rest rfl (Or.inr (by simp [next]))
  | finalize outcome => exact finalize_private owned ttlSecs outcome
  | finishRelease result outcome => exact owned.rest rfl (Or.inr (concludeRelease_ne _ outcome _))
  | _ => exact owned.rest rfl (Or.inl rfl)

/-- With one supervisor no renewal overtakes the read of the token: every RENEW
and the RELEASE have the token of the last renewal before them. -/
theorem managed_requests_have_the_live_token
    {ttlSecs : UInt64} {expiresAt : Int64} {events : List Event} {final : State}
    (ran : run (step ttlSecs) (initial acquired expiresAt) events = some final) :
    ∀ before call token after, final.lease.trace = before ++ .sent call token :: after →
      token = LeaseTokens.latest acquired.toNat before := by
  have start : Private acquired (initial acquired expiresAt) := by
    refine ⟨LeaseTokens.initial_inv acquired expiresAt, ⟨nofun, nofun, nofun⟩, fun _ _ here => ?_⟩
    cases here
  have owned := invariant_of_run (Private acquired) step_private start ran
  intro before call token after split
  refine owned.tokens.serialised before call token after split (owned.plain.sent call token ?_)
  rw [split]
  exact List.mem_append_right _ List.mem_cons_self

theorem lostRun_is_serialised : ∃ final, run (step 30) (initial 7 0) lostRun = some final ∧
      ∀ before call token after, final.lease.trace = before ++ .sent call token :: after →
      token = LeaseTokens.latest 7 before := by
  apply exists_and_kept
  · exact Option.isSome_iff_exists.mp (by decide +kernel)
  · exact fun _ => managed_requests_have_the_live_token

end Private

end FitzGo.Client.ManagedLease
