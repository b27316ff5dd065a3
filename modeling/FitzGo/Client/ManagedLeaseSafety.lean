import FitzGo.Client.ManagedLease

/-!
# What a managed lease sends, and what its callback is told

The place of the supervisor says which of the requests and failures are in the
history, and every step keeps that.
-/

namespace FitzGo.Client.ManagedLease

open StepMachine Histories Domains
open Domains.Handles (Conn LeaseOperation)

/-! ## The invariant -/

/-- What the place of `WithLease` says about the history. -/
def PcInv (history : List Item) : Pc → Prop
  | .selecting _ | .operated _ (.renewal _) => .renewalFailed ∉ history ∧ .sent .release ∉ history
  | .operating call _ (.renewal _) =>
    (.renewalFailed ∉ history ∧ .sent .release ∉ history) ∧ call.operation = .extend
  | .lost loss => loss.is .leaseLost = true
  | .signalled loss => loss.is .leaseLost = true ∧ Told history
  | .finalizing outcome =>
    match outcome.leaseLoss with
    | none =>
      (.renewalFailed ∉ history ∧ .sent .release ∉ history) ∧
        ∃ panicVal, .callbackEnded panicVal ∈ history
    | some loss =>
      loss.is .leaseLost = true ∧ Told history ∧
        ∀ value, outcome.callbackPanic = some value → .callbackEnded (some value) ∈ history
  | .operating call phase (.release _) =>
    .renewalFailed ∉ history ∧ call.operation = .release ∧
      (∃ panicVal, .callbackEnded panicVal ∈ history) ∧
      (phase ≠ some .awaiting → .sent .release ∉ history)
  | .operated _ (.release _) => .renewalFailed ∉ history
  | .returned error =>
    .renewalFailed ∈ history → Told history ∧ ∃ loss, error = some loss ∧ loss.is .leaseLost = true
  | .panicked value =>
    .renewalFailed ∈ history → Told history ∧ .callbackEnded (some value) ∈ history

def Item.isBenign : Item → Bool
  | .callbackEnded _ | .parentCancelled | .contextCancelled _ => true
  | .sent _ | .renewalFailed => false

variable {history : List Item}

theorem told_append (told : Told history) (item : Item) : Told (history ++ [item]) :=
  Occurs.append told [item]

variable {pc : Pc} {item : Item}

theorem PcInv.append_benign (here : PcInv history pc) (benign : item.isBenign = true) :
    PcInv (history ++ [item]) pc := by
  have failed : .renewalFailed ∈ history ++ [item] ↔ Item.renewalFailed ∈ history := by
    cases item <;> simp [Item.isBenign] at benign ⊢
  have released : .sent .release ∈ history ++ [item] ↔ Item.sent .release ∈ history := by
    cases item <;> simp [Item.isBenign] at benign ⊢
  have kept : ∀ {old : Item}, old ∈ history → old ∈ history ++ [item] :=
    fun listed => List.mem_append_left _ listed
  cases pc with
  | selecting watching => simpa only [PcInv, failed, released] using here
  | operating call phase purpose =>
    cases purpose with
    | renewal watching => simpa only [PcInv, failed, released] using here
    | release outcome =>
      simp only [PcInv, failed, released] at here ⊢
      obtain ⟨unfailed, operation, ⟨panicVal, ended⟩, unsent⟩ := here
      exact ⟨unfailed, operation, ⟨panicVal, kept ended⟩, unsent⟩
  | operated result purpose =>
    cases purpose with
    | renewal watching => simpa only [PcInv, failed, released] using here
    | release outcome => simpa only [PcInv, failed] using here
  | lost loss => exact here
  | signalled loss => exact ⟨here.1, told_append here.2 item⟩
  | finalizing outcome =>
    cases loss : outcome.leaseLoss with
    | none =>
      simp only [PcInv, loss, failed, released] at here ⊢
      obtain ⟨quiet, panicVal, ended⟩ := here
      exact ⟨quiet, panicVal, kept ended⟩
    | some lost =>
      simp only [PcInv, loss] at here ⊢
      obtain ⟨isLost, told, panics⟩ := here
      exact ⟨isLost, told_append told item, fun value same => kept (panics value same)⟩
  | returned error =>
    simp only [PcInv, failed] at here ⊢
    intro lost
    exact ⟨told_append (here lost).1 item, (here lost).2⟩
  | panicked value =>
    simp only [PcInv, failed] at here ⊢
    intro lost
    exact ⟨told_append (here lost).1 item, kept (here lost).2⟩

structure Core (acquired : UInt64) (state : State) : Prop where
  authority : state.authority = acquired.toNat
  requests : Throughout Lawful state.history
  parent : ∀ cause, state.parent = some cause → .parentCancelled ∈ state.history
  ended : ∀ outcome, state.callback = .ended outcome →
    .callbackEnded outcome.panicVal ∈ state.history
  result : ∀ outcome, state.callbackResult = some outcome →
    .callbackEnded outcome.panicVal ∈ state.history

structure Inv (acquired : UInt64) (state : State) : Prop extends Core acquired state where
  told : state.pc.isSupervising = true → ∀ cause, state.cause = some cause → Told state.history
  here : PcInv state.history state.pc

private theorem admissionAuthority_encode (acquired : UInt64) :
    admissionAuthority (BigEndian.encode 8 acquired.toNat) = acquired.toNat := by
  have length := BigEndian.length_encode 8 acquired.toNat
  have whole : (BigEndian.encode 8 acquired.toNat).take 8 = BigEndian.encode 8 acquired.toNat := by
    apply List.take_of_length_le
    omega
  rw [admissionAuthority, whole]
  exact BigEndian.decode_encode_of_lt acquired.toNat_lt

theorem initial_inv (acquired : UInt64) (expiresAt : Int64) :
    Inv acquired (initial acquired expiresAt) where
  authority := admissionAuthority_encode acquired
  requests := throughout_nil
  parent cause here := by
    cases here
  ended outcome here := by
    cases here
  result outcome here := by
    cases here
  told _ cause here := by
    cases here
  here := by
    simp [initial, PcInv]

/-! ## What happens beside the supervisor -/

section Steps

variable {acquired : UInt64} {state : State}

theorem lawful_of_benign (benign : item.isBenign = true) : Lawful history item := by
  cases item with
  | sent operation => cases benign
  | _ => trivial

theorem Core.append (core : Core acquired state) (lawful : Lawful state.history item) :
    Core acquired { state with history := state.history ++ [item] } where
  authority := core.authority
  requests := throughout_concat_iff.mpr ⟨core.requests, lawful⟩
  parent cause here := List.mem_append_left _ (core.parent cause here)
  ended outcome here := List.mem_append_left _ (core.ended outcome here)
  result outcome here := List.mem_append_left _ (core.result outcome here)

section

variable (inv : Inv acquired state)
include inv

theorem Inv.append_benign (benign : item.isBenign = true) :
    Inv acquired { state with history := state.history ++ [item] } where
  toCore := inv.toCore.append (lawful_of_benign benign)
  told supervising cause cancelled := told_append (inv.told supervising cause cancelled) item
  here := inv.here.append_benign benign

theorem endCallback_inv (outcome : CallbackOutcome) : Inv acquired (state.endCallback outcome) := by
  have grown : Inv acquired
      { state with history := state.history ++ [.callbackEnded outcome.panicVal] } :=
    inv.append_benign rfl
  refine { grown with ended := fun other here => ?_ }
  cases here
  exact List.mem_append_right _ List.mem_cons_self

private theorem deliver_inv {outcome : CallbackOutcome} (here : state.callback = .ended outcome) :
    Inv acquired { state with
        callback := .delivered
        callbackResult := some outcome } := by
  refine { inv with ended := fun other impossible => ?_, result := fun other same => ?_ }
  · cases impossible
  · cases same
    exact inv.ended outcome here

private theorem cancelParent_inv (cause : Error) : Inv acquired { state with
        parent := some cause
        history := state.history ++ [.parentCancelled] } := by
  have grown : Inv acquired { state with history := state.history ++ [.parentCancelled] } :=
    inv.append_benign rfl
  refine { grown with parent := fun other _ => ?_ }
  exact List.mem_append_right _ List.mem_cons_self

end

/-! ## Cancelling the callback's context -/

theorem cancelCallback_cases (state : State) (cause : Error) :
    (∃ earlier, state.cause = some earlier ∧ state.cancelCallback cause = state) ∨
    (state.cause = none ∧
      state.cancelCallback cause = { state with
          cause := some cause
          history := state.history ++ [.contextCancelled cause] }) := by
  cases cancelled : state.cause with
  | none => exact Or.inr ⟨rfl, by simp [State.cancelCallback, cancelled]⟩
  | some earlier => exact Or.inl ⟨earlier, rfl, by simp [State.cancelCallback, cancelled]⟩

theorem cancelCallback_core (core : Core acquired state) (cause : Error) :
    Core acquired (state.cancelCallback cause) := by
  rcases cancelCallback_cases state cause with
    ⟨_, _, result⟩ | ⟨_, result⟩
  · rw [result]
    exact core
  · rw [result]
    have grown := core.append (lawful_of_benign
      (show (Item.contextCancelled cause).isBenign = true from rfl))
    exact { grown with }

theorem cancelCallback_here (here : PcInv state.history pc)
    (cause : Error) : PcInv (state.cancelCallback cause).history pc := by
  rcases cancelCallback_cases state cause with
    ⟨_, _, result⟩ | ⟨_, result⟩
  · rw [result]
    exact here
  · rw [result]
    exact here.append_benign rfl

variable {cause : Error}

theorem cancelCallback_told (reason : cause.is .leaseLost = true ∨ .parentCancelled ∈ state.history)
    (earlier : ∀ cause, state.cause = some cause → Told state.history) :
    Told (state.cancelCallback cause).history := by
  rcases cancelCallback_cases state cause with
    ⟨_, cancelled, result⟩ | ⟨_, result⟩
  · rw [result]
    exact earlier _ cancelled
  · rw [result]
    exact occurs_concat ⟨cause, rfl, reason⟩

@[simp]
theorem cancelCallback_pc (cause : Error) : (state.cancelCallback cause).pc = state.pc := by
  unfold State.cancelCallback
  split <;> rfl

@[simp]
theorem cancelCallback_lease (cause : Error) :
    (state.cancelCallback cause).lease = state.lease := by
  unfold State.cancelCallback
  split <;> rfl

section

variable (inv : Inv acquired state)
include inv

theorem propagate_inv (cancelled : state.parent = some cause) :
    Inv acquired (state.cancelCallback cause) where
  toCore := cancelCallback_core inv.toCore cause
  told supervising _ _ := by
    rw [cancelCallback_pc] at supervising
    exact cancelCallback_told (Or.inr (inv.parent cause cancelled)) (inv.told supervising)
  here := by
    rw [cancelCallback_pc]
    exact cancelCallback_here inv.here cause

/-! ## The supervisor -/

variable {watching : Bool}

private theorem takeResult_inv {outcome : CallbackOutcome}
    (selecting : state.pc = .selecting watching) (sent : state.callbackResult = some outcome) :
    Inv acquired { state.cancelCallback .canceled with
        callbackResult := none
        pc := .finalizing
          { callbackErr := outcome.err
            callbackPanic := outcome.panicVal
            leaseLoss := none } } := by
  have core := cancelCallback_core inv.toCore .canceled
  have quiet := inv.here
  rw [selecting] at quiet
  have place : PcInv state.history (.finalizing
        { callbackErr := outcome.err
          callbackPanic := outcome.panicVal
          leaseLoss := none }) :=
    ⟨quiet, outcome.panicVal, inv.result outcome sent⟩
  refine { core with
    result := fun other impossible => ?_
    told := fun supervising => ?_
    here := cancelCallback_here place .canceled }
  · cases impossible
  · cases supervising

private theorem takeParent_inv (selecting : state.pc = .selecting true)
    (cancelled : state.parent = some cause) :
    Inv acquired { state.cancelCallback cause with pc := .selecting false } := by
  have after := propagate_inv inv cancelled
  have place := after.here
  rw [cancelCallback_pc, selecting] at place
  have told := after.told
  rw [cancelCallback_pc, selecting] at told
  exact { after with told := told, here := place }

theorem Inv.move {lease : LeaseTokens.State} {token : Bytes} {fired : Bool}
    (supervising : pc.isSupervising = true → state.pc.isSupervising = true)
    (place : PcInv state.history pc) : Inv acquired { state with lease, token, fired, pc } :=
  { inv with
    told := fun now => inv.told (supervising now)
    here := place }

end

variable {call : LeaseTokens.Call} {purpose : Purpose} {phase : Option LeaseTokens.Phase}

theorem PcInv.operated (here : PcInv history (.operating call phase purpose))
    (result : LeaseTokens.Outcome) : PcInv history (.operated result purpose) := by
  cases purpose with
  | _ => exact here.1

private theorem takeTick_inv (inv : Inv acquired state)
    (selecting : state.pc = .selecting watching) (ttlSecs : UInt64) :
    Inv acquired ({ state with fired := false }.operate .extend ttlSecs (.renewal watching)) := by
  have quiet := inv.here
  rw [selecting] at quiet
  apply inv.move
  · intro _
    rw [selecting]
    rfl
  · exact ⟨quiet, rfl⟩

variable {result : LeaseTokens.Outcome}

theorem isSupervising_operated (operating : state.pc = .operating call phase purpose)
    (supervising : (Pc.operated result purpose).isSupervising = true) :
    state.pc.isSupervising = true := by
  rw [operating]
  cases purpose with
  | renewal watching => rfl
  | release outcome => cases supervising

theorem isSupervising_operating {phase after : Option LeaseTokens.Phase}
    (operating : state.pc = .operating call phase purpose)
    (supervising : (Pc.operating call after purpose).isSupervising = true) :
    state.pc.isSupervising = true := by
  rw [operating]
  cases purpose with
  | renewal watching => rfl
  | release outcome => cases supervising

section

variable (inv : Inv acquired state)
include inv

theorem operated_inv (operating : state.pc = .operating call phase purpose)
    (lease : LeaseTokens.State) (result : LeaseTokens.Outcome) :
    Inv acquired { state with lease, pc := .operated result purpose } := by
  have here := inv.here
  rw [operating] at here
  exact inv.move (isSupervising_operated operating) (here.operated result)

theorem lock_inv {conn : Conn}
    (operating : state.pc = .operating call none purpose) (lease : LeaseTokens.State) :
    Inv acquired { state with
        lease
        pc := lockedPc state.lease call conn purpose } := by
  have here := inv.here
  rw [operating] at here
  have checked : PcInv state.history (.operating call (some .checked) purpose) := by
    cases purpose with
    | renewal watching => exact here
    | release outcome =>
      obtain ⟨unfailed, operation, ended, unsent⟩ := here
      exact ⟨unfailed, operation, ended, fun _ => unsent (by simp)⟩
  unfold lockedPc
  split
  · exact operated_inv inv operating lease _
  · exact inv.move (isSupervising_operating operating) checked
  · exact inv.move (isSupervising_operating operating) checked

theorem send_inv
    (operating : state.pc = .operating call (some .checked) purpose) (lease : LeaseTokens.State) :
    Inv acquired { state with
        lease
        pc := .operating call (some .awaiting) purpose
        history := state.history ++ [.sent call.operation] } := by
  have here := inv.here
  rw [operating] at here
  have told : (Pc.operating call (some .awaiting) purpose).isSupervising =
      true → ∀ cause, state.cause = some cause →
      Told (state.history ++ [.sent call.operation]) := by
    intro supervising cause cancelled
    have before := isSupervising_operating operating supervising
    exact told_append (inv.told before cause cancelled) _
  cases purpose with
  | renewal watching =>
    obtain ⟨⟨unfailed, unreleased⟩, operation⟩ := here
    rw [operation] at told ⊢
    have grown := inv.toCore.append (show Lawful state.history (.sent .extend) from unfailed)
    refine { grown with told := told, here := ⟨?_, operation⟩ }
    simp [unfailed, unreleased]
  | release outcome =>
    obtain ⟨unfailed, operation, ⟨panicVal, ended⟩, unsent⟩ := here
    rw [operation] at told ⊢
    have unreleased := unsent (by simp)
    have grown := inv.toCore.append (show Lawful state.history (.sent .release) from
        ⟨⟨panicVal, ended⟩, unfailed, unreleased⟩)
    refine { grown with told := told, here := ⟨?_, operation,
      ⟨panicVal, List.mem_append_left _ ended⟩, fun again => ?_⟩ }
    · simp [unfailed]
    · exact absurd rfl again

theorem finishRenewal_inv (operated : state.pc = .operated result (.renewal watching)) :
    Inv acquired (state.finishRenewal result watching) := by
  have here := inv.here
  rw [operated] at here
  have supervising : state.pc.isSupervising = true := by
    rw [operated]
    rfl
  unfold State.finishRenewal
  split
  · exact inv.move (fun _ => supervising) here
  · have grown := inv.toCore.append (show Lawful state.history .renewalFailed from trivial)
    refine { grown with
      told := fun _ cause cancelled => ?_
      here := ?_ }
    · exact told_append (inv.told supervising cause cancelled) _
    · simp [PcInv, Error.is]

variable {loss : Error}

theorem signal_inv (lost : state.pc = .lost loss) :
    Inv acquired { state.cancelCallback loss with pc := .signalled loss } := by
  have isLost := inv.here
  rw [lost] at isLost
  have told := cancelCallback_told (Or.inl isLost) (inv.told (by rw [lost]; rfl))
  have core := cancelCallback_core inv.toCore loss
  exact { core with
    told := fun _ _ _ => told
    here := ⟨isLost, told⟩ }

theorem collect_inv (signalled : state.pc = .signalled loss) : Inv acquired { state with
        callbackResult := none
        pc := .finalizing
          { callbackErr := state.callbackResult.bind fun outcome => outcome.err
            callbackPanic := state.callbackResult.bind fun outcome => outcome.panicVal
            leaseLoss := some loss } } := by
  have here := inv.here
  rw [signalled] at here
  refine { inv with
    result := fun outcome impossible => ?_
    told := fun supervising => ?_
    here := ⟨here.1, here.2, fun value panicking => ?_⟩ }
  · cases impossible
  · cases supervising
  · obtain ⟨outcome, sent, same⟩ := Option.bind_eq_some_iff.mp panicking
    have ended := inv.result outcome sent
    rw [same] at ended
    exact ended

variable {outcome : ManagedLeaseOutcome}

theorem concludeLoss_inv (finalizing : state.pc = .finalizing outcome)
    (lost : outcome.leaseLoss = some loss) :
    Inv acquired { state with pc := concludeLoss loss outcome } := by
  have here := inv.here
  rw [finalizing] at here
  simp only [PcInv, lost] at here
  obtain ⟨isLost, told, panics⟩ := here
  unfold concludeLoss
  split
  · rename_i value panicking
    apply inv.move
    · intro supervising
      cases supervising
    · exact fun _ => ⟨told, panics value panicking⟩
  · split
    · apply inv.move
      · intro supervising
        cases supervising
      · exact fun _ => ⟨told, loss, rfl, isLost⟩
    · rename_i err _ _ _
      apply inv.move
      · intro supervising
        cases supervising
      · refine fun _ => ⟨told, .join loss err, rfl, ?_⟩
        simp [Error.is, isLost]
  · apply inv.move
    · intro supervising
      cases supervising
    · exact fun _ => ⟨told, loss, rfl, isLost⟩

theorem finalize_inv {ttlSecs : UInt64} (finalizing : state.pc = .finalizing outcome) :
    Inv acquired (next ttlSecs state (.finalize outcome)) := by
  dsimp only [next]
  split
  · rename_i loss lost
    exact concludeLoss_inv inv finalizing lost
  · rename_i kept
    have here := inv.here
    rw [finalizing] at here
    simp only [PcInv, kept] at here
    obtain ⟨⟨unfailed, unreleased⟩, ended⟩ := here
    apply inv.move
    · intro supervising
      cases supervising
    · exact ⟨unfailed, rfl, ended, fun _ => unreleased⟩

theorem finishRelease_inv (operated : state.pc = .operated result (.release outcome)) : Inv acquired
      { state with
        pc := concludeRelease state.parent outcome (releaseError result) } := by
  have unfailed := inv.here
  rw [operated] at unfailed
  unfold concludeRelease
  repeat' split
  all_goals
    apply inv.move
    · intro supervising
      cases supervising
    · exact fun failed => absurd failed unfailed

end

theorem step_inv {ttlSecs : UInt64} {after : State} {event : Event} (inv : Inv acquired state)
    (stepped : step ttlSecs state event = some after) : Inv acquired after := by
  obtain ⟨enabled, rfl⟩ := guarded_eq_some_iff.mp stepped
  cases event with
  | callbackReturns err | callbackPanics value => exact endCallback_inv inv _
  | deliver outcome => exact deliver_inv inv enabled
  | cancelParent cause => exact cancelParent_inv inv cause
  | propagate cause => exact propagate_inv inv enabled
  | fire => exact { inv with }
  | takeResult outcome watching => exact takeResult_inv inv enabled.1 enabled.2
  | takeParent cause => exact takeParent_inv inv enabled.1 enabled.2
  | takeTick watching => exact takeTick_inv inv enabled.1 ttlSecs
  | lock call conn purpose => exact lock_inv inv enabled.1 _
  | send call purpose => exact send_inv inv enabled.1 _
  | finishRenewal result watching => exact finishRenewal_inv inv enabled
  | signal loss => exact signal_inv inv enabled
  | collect loss => exact collect_inv inv enabled
  | finalize outcome => exact finalize_inv inv enabled
  | finishRelease result outcome => exact finishRelease_inv inv enabled
  | _ => exact operated_inv inv enabled.1 _ _

end Steps

/-! ## After a failed renewal -/

section Finishing

variable {ttlSecs : UInt64} {state : State}

theorem Finishes.cons {after : State} {event : Event} {steps : Nat}
    (stepped : step ttlSecs state event = some after)
    (rest : Finishes ttlSecs steps after) : Finishes ttlSecs (steps + 1) state := by
  obtain ⟨events, final, length, ran, ends⟩ := rest
  refine ⟨event :: events, final, ?_, ?_, ends⟩
  · rw [List.length_cons, length]
  · rw [run_cons, stepped]
    exact ran

theorem finishes_of_isOver (ends : state.pc.isOver = true) : Finishes ttlSecs 0 state :=
  ⟨[], state, rfl, rfl, ends⟩

theorem concludeLoss_isOver (loss : Error) (outcome : ManagedLeaseOutcome) :
    (concludeLoss loss outcome).isOver = true := by
  unfold concludeLoss
  repeat' split
  all_goals rfl

variable {loss : Error}

theorem finalizing_finishes {outcome : ManagedLeaseOutcome}
    (finalizing : state.pc = .finalizing outcome)
    (lost : outcome.leaseLoss = some loss) : Finishes ttlSecs 1 state := by
  have stepped : step ttlSecs state (.finalize outcome) =
      some { state with pc := concludeLoss loss outcome } := by
    apply guarded_eq_some_iff.mpr
    refine ⟨finalizing, ?_⟩
    simp only [next, lost]
  exact .cons stepped (finishes_of_isOver (concludeLoss_isOver loss outcome))

theorem signalled_finishes (signalled : state.pc = .signalled loss) : Finishes ttlSecs 2 state := by
  have stepped : step ttlSecs state (.collect loss) = some (next ttlSecs state (.collect loss)) :=
    guarded_eq_some_iff.mpr ⟨signalled, rfl⟩
  exact .cons stepped (finalizing_finishes rfl rfl)

theorem lost_finishes (lost : state.pc = .lost loss) : Finishes ttlSecs 3 state := by
  have stepped : step ttlSecs state (.signal loss) = some (next ttlSecs state (.signal loss)) :=
    guarded_eq_some_iff.mpr ⟨lost, rfl⟩
  exact .cons stepped (signalled_finishes rfl)

theorem failed_finishes (here : PcInv state.history state.pc)
    (failed : .renewalFailed ∈ state.history) : ∃ steps ≤ 3, Finishes ttlSecs steps state := by
  cases pc : state.pc with
  | selecting watching =>
    rw [pc] at here
    exact absurd failed here.1
  | operating call phase purpose =>
    rw [pc] at here
    cases purpose with
    | renewal watching => exact absurd failed here.1.1
    | release outcome => exact absurd failed here.1
  | operated result purpose =>
    rw [pc] at here
    cases purpose with
    | renewal watching => exact absurd failed here.1
    | release outcome => exact absurd failed here
  | lost loss => exact ⟨3, by decide, lost_finishes pc⟩
  | signalled loss => exact ⟨2, by decide, signalled_finishes pc⟩
  | finalizing outcome =>
    rw [pc] at here
    cases lost : outcome.leaseLoss with
    | none =>
      simp only [PcInv, lost] at here
      exact absurd failed here.1.1
    | some loss => exact ⟨1, by decide, finalizing_finishes pc lost⟩
  | _ => exact ⟨0, by decide, finishes_of_isOver (by rw [pc]; rfl)⟩

end Finishing

/-! ## Runs -/

/-- Releases, renewals and the callback's context in every state that one
`WithLease` reaches. -/
theorem managed_lease_is_supervised {acquired ttlSecs : UInt64} {expiresAt : Int64}
    {events : List Event} {final : State}
    (ran : run (step ttlSecs) (initial acquired expiresAt) events = some final) :
    Supervised acquired ttlSecs final := by
  have inv := invariant_of_run (Inv acquired) step_inv (initial_inv acquired expiresAt) ran
  refine ⟨inv.requests, failed_finishes inv.here, fun failed ends => ?_,
    fun failed error returned => ?_, fun failed value panicked => ?_,
    inv.authority⟩
  · have here := inv.here
    cases pc : final.pc with
    | returned error | panicked value =>
      rw [pc] at here
      exact (here failed).1
    | _ => simp [pc, Pc.isOver] at ends
  · have here := inv.here
    rw [returned] at here
    exact (here failed).2
  · have here := inv.here
    rw [panicked] at here
    exact (here failed).2

def renewalCall (id token seen : Nat) : LeaseTokens.Call where
  id := id
  operation := .extend
  ttlSecs := 30
  given := none
  token := BigEndian.encode 8 token
  seen := seen

def renewing (call : LeaseTokens.Call) : List Event :=
  [.fire, .takeTick true, .lock call LeaseTokens.liveConn (.renewal true),
    .send call (.renewal true)]

def lostError : Error :=
  .join .leaseLost (.operation .requestFailed)

/-- The first renewal rotates the token, the second one fails, and the callback
honours its context too late to be heard. -/
def lostRun : List Event :=
  renewing (renewalCall 0 7 0) ++ [.reply (renewalCall 0 7 0) (LeaseTokens.renewedWith 8) 100
      (.renewal true),
      .finishRenewal (.extended 8 130) true] ++
    renewing (renewalCall 1 8 1) ++
    [.fail (renewalCall 1 8 1) .awaiting (.renewal true),
      .finishRenewal .requestFailed true, .signal lostError,
      .callbackReturns (some .canceled), .collect lostError,
      .finalize
        { callbackErr := none
          callbackPanic := none
          leaseLoss := some lostError }]

theorem lostRun_is_supervised : ∃ final, run (step 30) (initial 7 0) lostRun = some final ∧
      Supervised 7 30 final ∧
      (final.pc, final.history) = (.returned (some lostError),
          [.sent .extend, .sent .extend, .renewalFailed,
            .contextCancelled lostError, .callbackEnded none]) ∧
      final.token = BigEndian.encode 8 8 := by
  apply exists_kept_and
  · decide +kernel
  · intro final ran
    exact managed_lease_is_supervised ran

end FitzGo.Client.ManagedLease
