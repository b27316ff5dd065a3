import FitzGo.Subscriptions.ClientCalls

/-!
# The broker's patterns and the registry's

The UNSUBSCRIBE of kv, queue, stream and schedule names the pattern, and it is
written after the registry has forgotten it. The two agree when no SUBSCRIBE
overtakes an UNSUBSCRIBE that is due.
-/

namespace FitzGo.Subscriptions.Heap

namespace Registry

variable {H Pattern E : Type} [LinearOrder Pattern]
variable {registry : Registry H Pattern}
variable {pattern : Pattern} {handler : H} {handlerID : UInt64}

@[simp]
theorem byPattern_attemptSubscribe :
    (registry.attemptSubscribe pattern handler).1.byPattern = registry.byPattern := by
  cases found : registry.byPattern.lookup pattern with
  | some pointer => simp [attemptSubscribe_of_some found, addHandler, setEntry, counted]
  | none =>
    by_cases listed : pattern ∈ registry.pending
    · simp [attemptSubscribe_of_pending found listed]
    · simp [attemptSubscribe_of_new found listed]

private theorem lookup_unsubscribe (target : Pattern) :
    (registry.unsubscribe pattern handlerID).1.byPattern.lookup target =
      if target = pattern ∧ (registry.unsubscribe pattern handlerID).2 = true then none
      else registry.byPattern.lookup target := by
  rcases unsubscribe_cases registry pattern handlerID with
    ⟨done, -⟩ | ⟨registered, removed, -, -, ⟨-, done⟩ | ⟨-, done⟩⟩
  · simp [done]
  · simp [done, dropHandler, setEntry]
  · by_cases same : target = pattern
    · subst same
      simp [done, Registry.remove]
    · have kept := AList.lookup_erase_ne (s := registry.byPattern) same
      simp [done, same, Registry.remove, dropHandler, setEntry, kept]

theorem isSome_lookup_of_unsubscribe (last : (registry.unsubscribe pattern handlerID).2 = true) :
    (registry.byPattern.lookup pattern).isSome = true := by
  rcases unsubscribe_cases registry pattern handlerID with
    ⟨done, -⟩ | ⟨registered, removed, here, -, -⟩
  · rw [done] at last
    cases last
  · simp [here]

end Registry

namespace Exclusion

variable {H Pattern E : Type} [LinearOrder Pattern] [Inhabited Pattern]

theorem next_pending {state : State H Pattern E} {event : Event H Pattern E}
    (alone : event.isRestore = false) (pending : Pending state) : Pending (next state event) := by
  cases event with
  | attempt call pattern handler => exact attempt_pending pending pattern handler
  | wireAnswers call result =>
    cases here : state.subscribes call with
    | calling pattern handler =>
      simp only [next, wireAnswers, here]
      exact answered_pending pending result here
    | answered pattern handler second => simpa [next, wireAnswers, here] using pending
    | _ => simpa [next, wireAnswers, here] using pending
  | publish call =>
    cases here : state.subscribes call with
    | answered pattern handler result =>
      simp only [next, publish, here]
      exact publish_pending pending here
    | _ => simpa [next, publish, here] using pending
  | unsubscribe pattern handlerID =>
    apply pending.of_registry Registry.unsubscribe_kept.1
    intro name absent
    exact Registry.lookup_unsubscribe_of_none absent
  | clear =>
    have cleared : state.registry.clear.1.pending = state.registry.pending := rfl
    apply pending.of_registry cleared
    intro name absent
    exact Registry.lookup_clear name
  | _ => cases alone

end Exclusion

namespace Clients

open Connection (Domain)
open StepMachine

variable {H E : Type}

/-- No call of `Subscribe` is between its two sections, and no UNSUBSCRIBE is
due. -/
def Quiet (state : State H E) : Prop :=
  (∀ call, (state.core.subscribes call).pendingPattern = none) ∧ state.due = []

def AnswersWithSuccess (_ : State H E) : Event H E → Prop
  | .wireAnswers _ result => result.isOk = true
  | .attempt _ _ _ | .write _ | .publish _ | .lookUp _ | .unsubscribe _
  | .remove _ _ | .writeUnsubscribe _ | .unsubscribeAll | .notify _
  | .launched _ | .saturated _ => True

/-- The answer to the call has an id that no entry has. -/
def FreshID (state : State H E) (call : Nat) : Prop :=
  match state.core.subscribes call with
  | .answered _ _ (.ok subID) => (state.core.registry.live subID).isSome = false
  | .answered _ _ (.error _) | .idle | .calling _ _ | .returned _ => True

instance (state : State H E) (call : Nat) : Decidable (FreshID state call) := by
  unfold FreshID
  split <;> infer_instance

/-- A SUBSCRIBE is written only if no UNSUBSCRIBE of its pattern is due, and it
is answered with an id that is not in use. -/
def InOrder (state : State H E) : Event H E → Prop
  | .write call => ∀ pattern ∈ (state.core.subscribes call).pendingPattern, pattern ∉ state.due
  | .publish call => FreshID state call
  | .attempt _ _ _ | .wireAnswers _ _ | .lookUp _ | .unsubscribe _
  | .remove _ _ | .writeUnsubscribe _ | .unsubscribeAll | .notify _
  | .launched _ | .saturated _ => True

instance (state : State H E) (event : Event H E) : Decidable (AnswersWithSuccess state event) := by
  rcases event with ⟨⟩ <;> dsimp only [AnswersWithSuccess] <;> infer_instance

instance (state : State H E) (event : Event H E) : Decidable (InOrder state event) := by
  rcases event with ⟨⟩ <;> dsimp only [InOrder] <;> infer_instance

/-- The pattern of a SUBSCRIBE that the call has written and not yet entered
into the registry. -/
def State.sent (state : State H E) (call : Nat) : Option String :=
  if state.written call = true then (state.core.subscribes call).pendingPattern
  else none

structure Agrees (state : State H E) : Prop where
  registered : ∀ pattern, state.broker pattern = true ↔
    (state.core.registry.byPattern.lookup pattern).isSome = true ∨
    pattern ∈ state.due ∨ ∃ call, state.sent call = some pattern
  answered : ∀ call pattern handler result,
    state.core.subscribes call = .answered pattern handler result →
    state.written call = true ∧ result.isOk = true
  leaving : ∀ pattern ∈ state.due, state.core.registry.byPattern.lookup pattern = none ∧
    ∀ call, state.sent call ≠ some pattern
  single : state.due.Nodup

private theorem initial_agrees : Agrees (initial : State H E) where
  registered pattern := by
    simp [initial, Exclusion.initial, Registry.new, State.sent]
  answered call pattern handler result here := by
    cases here
  leaving pattern member := by
    cases member
  single := List.nodup_nil

variable {domain : Domain} {state : State H E}

/-! ## What the steps do to it -/

variable {after : State H E}

theorem Agrees.keep (agrees : Agrees state)
    (broker : after.broker = state.broker) (due : after.due = state.due)
    (patterns : ∀ pattern, (after.core.registry.byPattern.lookup pattern).isSome =
      (state.core.registry.byPattern.lookup pattern).isSome)
    (sent : ∀ call, after.sent call = state.sent call)
    (answered : ∀ call pattern handler result,
      after.core.subscribes call = .answered pattern handler result →
      after.written call = true ∧ result.isOk = true) : Agrees after where
  registered pattern := by
    simp only [broker, due, patterns, sent]
    exact agrees.registered pattern
  answered := answered
  leaving pattern member := by
    rw [due] at member
    obtain ⟨absent, unsent⟩ := agrees.leaving pattern member
    have none := patterns pattern
    rw [absent, Option.isSome_none, Option.isSome_eq_false_iff] at none
    refine ⟨Option.isNone_iff_eq_none.mp none, fun call => ?_⟩
    rw [sent]
    exact unsent call
  single := by
    rw [due]
    exact agrees.single

@[simp]
theorem broker_subscribed (call : Nat) (pattern : String) :
    (state.subscribed call pattern).broker = state.broker := by
  unfold State.subscribed
  split <;> rfl

@[simp]
theorem due_subscribed (call : Nat) (pattern : String) :
    (state.subscribed call pattern).due = state.due := by
  unfold State.subscribed
  split <;> rfl

@[simp]
theorem written_subscribed (call : Nat) (pattern : String) :
    (state.subscribed call pattern).written = state.written := by
  unfold State.subscribed
  split <;> rfl

variable {phase : Exclusion.SubscribeCall H String E}

private theorem pendingPattern_of_isIdle
    (idle : phase.isIdle = true) : phase.pendingPattern = none := by
  cases phase with
  | idle => rfl
  | _ => cases idle

variable {call : Nat}

theorem Agrees.answered_setSubscribe (agrees : Agrees state)
    {core : Exclusion.State H String E} {written : Nat → Bool}
    (calls : core.subscribes = state.core.subscribes)
    (others : ∀ other, other ≠ call → written other = state.written other)
    (unanswered : phase.isAnswered = false) :
    ∀ other pattern handler result, (core.setSubscribe call phase).subscribes other =
      .answered pattern handler result → written other = true ∧ result.isOk = true := by
  intro other pattern handler result here
  by_cases same : other = call
  · subst same
    rw [Exclusion.subscribes_setSubscribe_self] at here
    rw [here] at unanswered
    cases unanswered
  · rw [Exclusion.subscribes_setSubscribe_of_ne same, calls] at here
    rw [others other same]
    exact agrees.answered other pattern handler result here

theorem isAnswered_afterAttempt (pattern : String) (handler : H) (attempted : Registry.Attempt) :
    (Exclusion.SubscribeCall.afterAttempt pattern handler attempted :
      Exclusion.SubscribeCall H String E).isAnswered = false := by
  cases attempted <;> rfl

variable {pattern : String}

private theorem attempt_agrees (agrees : Agrees state) {handler : H}
    (idle : (state.core.subscribes call).isIdle = true) :
    Agrees (next domain state (.attempt call pattern handler)) := by
  have core : (next domain state (.attempt call pattern handler)).core =
        Exclusion.next state.core (.attempt call pattern handler) := by
    simp [next, nextCore, coreEvent]
  have written : (next domain state (.attempt call pattern handler)).written =
        Function.update state.written call false := by
    simp [next]
  refine agrees.keep (by simp [next]) (by simp [next]) ?_ ?_ ?_
  · intro name
    rw [core]
    simp [Exclusion.next, Exclusion.State.setSubscribe, Exclusion.State.setRegistry]
  · intro other
    unfold State.sent
    rw [core, written]
    by_cases same : other = call
    · subst same
      simp [pendingPattern_of_isIdle idle]
    · rw [Function.update_of_ne same]
      simp only [Exclusion.next]
      rw [Exclusion.subscribes_setSubscribe_of_ne same]
      rfl
  · rw [core, written]
    apply agrees.answered_setSubscribe rfl
    · intro other different
      exact Function.update_of_ne different false state.written
    · exact isAnswered_afterAttempt pattern handler _

theorem exists_sent_iff (others : ∀ other, other ≠ call → after.sent other = state.sent other)
    (before : state.sent call ≠ some pattern) (now : after.sent call ≠ some pattern) :
    (∃ other, after.sent other = some pattern) ↔ ∃ other, state.sent other = some pattern := by
  have same : ∀ other, after.sent other = some pattern ↔ state.sent other = some pattern := by
    intro other
    by_cases self : other = call
    · subst self
      simp [before, now]
    · rw [others other self]
  simp only [same]

theorem unsent_of_others (others : ∀ other, other ≠ call → after.sent other = state.sent other)
    (unsent : ∀ other, state.sent other ≠ some pattern)
    (now : after.sent call ≠ some pattern) : ∀ other, after.sent other ≠ some pattern := by
  intro other mine
  by_cases self : other = call
  · rw [self] at mine
    exact now mine
  · exact unsent other ((others other self).symm.trans mine)

private theorem write_agrees (agrees : Agrees state)
    (calling : (state.core.subscribes call).isCalling = true)
    (order : ∀ pattern ∈ (state.core.subscribes call).pendingPattern, pattern ∉ state.due) :
    Agrees (next domain state (.write call)) := by
  obtain ⟨pattern, handler, here⟩ := Exclusion.SubscribeCall.eq_calling_of_isCalling calling
  have undue : pattern ∉ state.due := by
    apply order
    simp [here, Exclusion.SubscribeCall.pendingPattern]
  let after : State H E := { state with
      written := Function.update state.written call true
      broker := Function.update state.broker pattern true }
  have sentMine : after.sent call = some pattern := by
    simp [after, State.sent, here, Exclusion.SubscribeCall.pendingPattern]
  have sentOther : ∀ other, other ≠ call → after.sent other = state.sent other := by
    intro other different
    simp [after, State.sent, Function.update_of_ne different]
  have moved : next domain state (.write call) = after := by
    simp [next, here, after]
  rw [moved]
  refine ⟨fun name => ?_, ?_, ?_, agrees.single⟩
  · by_cases same : name = pattern
    · subst same
      simp only [after, Function.update_self, true_iff]
      exact Or.inr (Or.inr ⟨call, sentMine⟩)
    · have before : state.sent call ≠ some name := by
        simp [State.sent, here, Exclusion.SubscribeCall.pendingPattern, Ne.symm same]
      have now : after.sent call ≠ some name := by
        simp [sentMine, Ne.symm same]
      rw [exists_sent_iff sentOther before now]
      simp only [after, Function.update_of_ne same]
      exact agrees.registered name
  · intro other name second result answered
    have different : other ≠ call := by
      intro self
      subst self
      have both := here.symm.trans answered
      cases both
    simp only [after, Function.update_of_ne different]
    exact agrees.answered other name second result answered
  · intro name member
    obtain ⟨absent, unsent⟩ := agrees.leaving name member
    refine ⟨absent, unsent_of_others sentOther unsent ?_⟩
    rw [sentMine]
    intro mine
    cases mine
    exact undue member

private theorem wireAnswers_agrees (agrees : Agrees state) {result : Except E UInt64}
    (calling : (state.core.subscribes call).isCalling = true)
    (written : result.isOk = true → state.written call = true) (success : result.isOk = true) :
    Agrees (next domain state (.wireAnswers call result)) := by
  obtain ⟨pattern, handler, here⟩ := Exclusion.SubscribeCall.eq_calling_of_isCalling calling
  have core : (next domain state (.wireAnswers call result)).core =
        state.core.setSubscribe call (.answered pattern handler result) := by
    simp [next, nextCore, coreEvent, Exclusion.next, Exclusion.wireAnswers, here]
  refine agrees.keep rfl rfl ?_ ?_ ?_
  · intro name
    rw [core]
    rfl
  · intro other
    unfold State.sent
    rw [core]
    by_cases same : other = call
    · subst same
      rw [Exclusion.subscribes_setSubscribe_self, here]
      rfl
    · rw [Exclusion.subscribes_setSubscribe_of_ne same]
      rfl
  · intro other name second answer answered
    rw [core] at answered
    by_cases same : other = call
    · subst same
      rw [Exclusion.subscribes_setSubscribe_self] at answered
      cases answered
      exact ⟨written success, success⟩
    · rw [Exclusion.subscribes_setSubscribe_of_ne same] at answered
      exact agrees.answered other name second answer answered

theorem publish_core (domain : Domain) {handler : H} {subID : UInt64}
    (here : state.core.subscribes call = .answered pattern handler (.ok subID))
    (fresh : FreshID state call) :
    (next domain state (.publish call)).core = (state.core.setRegistry
      ((state.core.registry.dropPending pattern).register pattern subID handler)).setSubscribe call
      (.returned (.ok (subID, state.core.registry.handlerID))) := by
  have unused : ¬ (state.core.registry.live subID).isSome = true := by
    simp only [FreshID, here] at fresh
    simp [fresh]
  simp [next, nextCore, coreEvent, here, Exclusion.next,
    Exclusion.publish, Registry.publish, unused]

theorem publish_agrees (agrees : Agrees state)
    (answered : (state.core.subscribes call).isAnswered = true)
    (fresh : FreshID state call) : Agrees (next domain state (.publish call)) := by
  obtain ⟨pattern, handler, result, here⟩ :=
    Exclusion.SubscribeCall.eq_answered_of_isAnswered answered
  obtain ⟨written, success⟩ := agrees.answered call pattern handler result here
  cases result with
  | error error => cases success
  | ok subID =>
    have sentMine : state.sent call = some pattern := by
      simp [State.sent, written, here, Exclusion.SubscribeCall.pendingPattern]
    have undue : pattern ∉ state.due := fun member =>
      (agrees.leaving pattern member).2 call sentMine
    have core := publish_core domain here fresh
    have rest : (next domain state (.publish call)).broker = state.broker ∧
          (next domain state (.publish call)).due = state.due ∧
          (next domain state (.publish call)).written = state.written := by
      simp [next, here]
    obtain ⟨sameBroker, sameDue, sameWritten⟩ := rest
    have sentMineAfter : (next domain state (.publish call)).sent call = none := by
      unfold State.sent
      rw [core, Exclusion.subscribes_setSubscribe_self]
      simp [Exclusion.SubscribeCall.pendingPattern]
    have sentOther : ∀ other, other ≠ call →
        (next domain state (.publish call)).sent other = state.sent other := by
      intro other different
      unfold State.sent
      rw [core, sameWritten, Exclusion.subscribes_setSubscribe_of_ne different]
      rfl
    have patterns : ∀ name,
        (next domain state (.publish call)).core.registry.byPattern.lookup name =
          if name = pattern then some ⟨pattern, state.core.registry.allocated⟩
          else state.core.registry.byPattern.lookup name := by
      intro name
      rw [core]
      exact Registry.lookup_register name
    refine ⟨fun name => ?_, ?_, ?_, ?_⟩
    · rw [sameBroker, sameDue, patterns]
      by_cases same : name = pattern
      · subst same
        have old := (agrees.registered name).mpr (Or.inr (Or.inr ⟨call, sentMine⟩))
        simp [old]
      · have before : state.sent call ≠ some name := by
          simp [sentMine, Ne.symm same]
        have now : (next domain state (.publish call)).sent call ≠ some name := by
          simp [sentMineAfter]
        rw [exists_sent_iff sentOther before now, if_neg same]
        exact agrees.registered name
    · rw [core, sameWritten]
      exact agrees.answered_setSubscribe rfl (fun _ _ => rfl) rfl
    · intro name member
      rw [sameDue] at member
      obtain ⟨absent, unsent⟩ := agrees.leaving name member
      have different : name ≠ pattern := by
        intro same
        subst same
        exact undue member
      refine ⟨by rw [patterns, if_neg different, absent], unsent_of_others sentOther unsent ?_⟩
      simp [sentMineAfter]
    · rw [sameDue]
      exact agrees.single

theorem unsubscribed_agrees (domain : Domain) (agrees : Agrees state)
    (pending : Exclusion.Pending state.core) (pattern : String) (handlerID : UInt64) :
    Agrees (state.unsubscribed domain (state.core.setRegistry
      (state.core.registry.unsubscribe pattern handlerID).1) pattern
      (state.core.registry.unsubscribe pattern handlerID).2) := by
  cases last : (state.core.registry.unsubscribe pattern handlerID).2 with
  | false =>
    refine agrees.keep rfl rfl ?_ (fun _ => rfl) agrees.answered
    intro name
    simp [State.unsubscribed, Exclusion.State.setRegistry, Registry.lookup_unsubscribe, last]
  | true =>
    have present := Registry.isSome_lookup_of_unsubscribe last
    have undue : pattern ∉ state.due := by
      intro member
      rw [(agrees.leaving pattern member).1] at present
      cases present
    have unsent : ∀ call, state.sent call ≠ some pattern := by
      intro call mine
      unfold State.sent at mine
      split at mine
      · have listed := pending.listed call pattern mine
        rw [pending.absent pattern listed] at present
        cases present
      · cases mine
    refine ⟨fun name => ?_, agrees.answered, ?_, ?_⟩
    · have old := agrees.registered name
      by_cases same : name = pattern
      · subst same
        simp [State.unsubscribed, old, present]
      · simp only [State.unsubscribed, old, Exclusion.State.setRegistry,
          Registry.lookup_unsubscribe, same, false_and, if_false,
          if_true, List.mem_cons, false_or]
        rfl
    · intro name member
      simp only [State.unsubscribed, if_true, List.mem_cons] at member
      rcases member with same | old
      · subst same
        refine ⟨?_, unsent⟩
        simp [State.unsubscribed, Exclusion.State.setRegistry, Registry.lookup_unsubscribe, last]
      · obtain ⟨absent, others⟩ := agrees.leaving name old
        refine ⟨?_, others⟩
        simp [State.unsubscribed, Exclusion.State.setRegistry, Registry.lookup_unsubscribe, absent]
    · simp [State.unsubscribed, undue, agrees.single]

theorem writeUnsubscribe_agrees (agrees : Agrees state)
    (member : pattern ∈ state.due) : Agrees (next domain state (.writeUnsubscribe pattern)) := by
  obtain ⟨absent, unsent⟩ := agrees.leaving pattern member
  refine ⟨fun name => ?_, agrees.answered, ?_, agrees.single.erase pattern⟩
  · have old := agrees.registered name
    have left : name ∈ state.due.erase pattern ↔ name ≠ pattern ∧ name ∈ state.due :=
      agrees.single.mem_erase_iff
    by_cases same : name = pattern
    · subst same
      simp only [next, Function.update_self, left, absent]
      simp only [Bool.false_eq_true, Option.isSome_none, ne_eq,
        not_true_eq_false, false_and, false_or, false_iff, not_exists]
      exact unsent
    · simp only [next, Function.update_of_ne same, old, left]
      simp only [ne_eq, same, not_false_eq_true, true_and]
      rfl
  · intro name left
    exact agrees.leaving name (List.mem_of_mem_erase left)

/-! ## Runs -/

structure BrokerInv (state : State H E) : Prop where
  pending : Exclusion.Pending state.core
  agrees : Agrees state

variable {event : Event H E}

theorem next_pending (ready : Ready domain state event)
    (pending : Exclusion.Pending state.core) :
    Exclusion.Pending (next domain state event).core := by
  rw [core_next ready]
  unfold nextCore
  split
  · exact pending
  · rename_i part here
    exact Exclusion.next_pending (isRestore_coreEvent here) pending

theorem step_brokerInv (keyed : domain ≠ .notice) (inv : BrokerInv state)
    (success : AnswersWithSuccess state event) (order : InOrder state event)
    (stepped : step domain state event = some after) : BrokerInv after := by
  obtain ⟨⟨ready, admitted⟩, rfl⟩ := guarded_eq_some_iff.mp stepped
  refine ⟨next_pending ready inv.pending, ?_⟩
  have agrees := inv.agrees
  cases event with
  | attempt call pattern handler =>
    have idle : (state.core.subscribes call).isIdle = true := admitted.1
    exact attempt_agrees agrees idle
  | write call => exact write_agrees agrees ready.1 order
  | wireAnswers call result =>
    have calling : (state.core.subscribes call).isCalling = true := admitted
    exact wireAnswers_agrees agrees calling ready success
  | publish call =>
    have answered : (state.core.subscribes call).isAnswered = true := admitted
    exact publish_agrees agrees answered order
  | unsubscribe call =>
    obtain ⟨handle, here⟩ := Option.isSome_iff_exists.mp ready.1
    have unsubscribed :=
      unsubscribed_agrees domain agrees inv.pending handle.pattern handle.handlerID
    simpa [next, here, nextCore, coreEvent, Exclusion.next] using unsubscribed
  | remove pattern handlerID =>
    have unsubscribed := unsubscribed_agrees domain agrees inv.pending pattern handlerID
    exact { unsubscribed with }
  | writeUnsubscribe pattern => exact writeUnsubscribe_agrees agrees ready
  | unsubscribeAll => exact absurd ready.1 keyed
  | _ => exact { agrees with }

/-- The clients whose UNSUBSCRIBE names the pattern: whenever no call is in
progress, the broker has the patterns that the registry has. -/
theorem broker_has_the_registered_patterns {events : List (Event H E)} {final : State H E}
    (keyed : domain ∈ [.queue, .kv, .stream, .schedule])
    (success : Along (step domain) AnswersWithSuccess initial events)
    (order : Along (step domain) InOrder initial events)
    (ran : run (step domain) initial events = some final) (quiet : Quiet final) (pattern : String) :
    final.broker pattern = true ↔ (final.core.registry.byPattern.lookup pattern).isSome = true := by
  have notNotice : domain ≠ .notice := by
    rintro rfl
    simp at keyed
  have start : BrokerInv (initial : State H E) := ⟨Exclusion.initial_inv.pending, initial_agrees⟩
  have inv : BrokerInv final := by
    refine invariant_along BrokerInv ?_ start (along_and success order) ran
    intro state after event inv met stepped
    exact step_brokerInv notNotice inv met.1 met.2 stepped
  have unsent : ∀ call, final.sent call ≠ some pattern := by
    intro call
    simp [State.sent, quiet.1 call]
  have agrees := inv.agrees.registered pattern
  simpa [quiet.2, unsent] using agrees

def resubscribedRun : List (Event Bool Unit) :=
  [.attempt 0 "a" true, .write 0, .wireAnswers 0 (.ok 1), .publish 0, .lookUp ⟨0, "a", 1⟩,
    .attempt 1 "a" false, .lookUp ⟨1, "a", 2⟩,
    .unsubscribe 0, .unsubscribe 1, .writeUnsubscribe "a",
    .attempt 2 "a" true, .write 2, .wireAnswers 2 (.ok 1), .publish 2,
    .lookUp ⟨2, "a", 3⟩]

theorem resubscribedRun_quiet {final : State Bool Unit}
    (ran : run (step .queue) initial resubscribedRun = some final) : Quiet final := by
  constructor
  · intro call
    have returned : (run (step .queue) initial resubscribedRun).map
          (fun state => (state.core.subscribes call).pendingPattern) = some none := by
      match call with
      | 0 | 1 | 2 => decide +kernel
      | _ + 3 => rfl
    simpa [ran] using returned
  · have written : (run (step .queue) initial resubscribedRun).map State.due = some [] := by
      decide +kernel
    simpa [ran] using written

theorem resubscribedRun_agrees : ∃ final, run (step .queue) initial resubscribedRun = some final ∧
      (final.broker "a" = true ↔ (final.core.registry.byPattern.lookup "a").isSome = true) := by
  have ran : (run (step .queue) initial resubscribedRun).isSome = true := by
    decide +kernel
  obtain ⟨final, ran⟩ := Option.isSome_iff_exists.mp ran
  refine ⟨final, ran, ?_⟩
  exact broker_has_the_registered_patterns (by simp) (by decide +kernel)
    (by decide +kernel) ran (resubscribedRun_quiet ran) "a"

/-- The second `Subscribe` writes between the two parts of the `Unsubscribe`. -/
def overtakingRun : List (Event Bool Unit) :=
  [.attempt 0 "a" true, .write 0, .wireAnswers 0 (.ok 1), .publish 0, .lookUp ⟨0, "a", 1⟩,
    .unsubscribe 0,
    .attempt 1 "a" false, .write 1, .writeUnsubscribe "a",
    .wireAnswers 1 (.ok 2), .publish 1, .lookUp ⟨1, "a", 2⟩]

/-- The broker does as it is told and answers everything with success, no call
is in progress, and it does not have the pattern that the registry has. -/
theorem overtaken_unsubscribe_drops_the_pattern :
    ∃ final, run (step .queue) initial overtakingRun = some final ∧
      Along (step .queue) AnswersWithSuccess initial overtakingRun ∧
      Quiet final ∧ final.broker "a" = false ∧
      (final.core.registry.byPattern.lookup "a").isSome = true := by
  obtain ⟨final, ran, due, dropped, registered⟩ :
      ∃ final, run (step .queue) initial overtakingRun = some final ∧
        final.due = [] ∧ final.broker "a" = false ∧
        (final.core.registry.byPattern.lookup "a").isSome = true := by
    decide +kernel
  refine ⟨final, ran, by decide +kernel, ⟨?_, due⟩, dropped, registered⟩
  intro call
  have returned : (run (step .queue) initial overtakingRun).map
        (fun state => (state.core.subscribes call).pendingPattern) = some none := by
    match call with
    | 0 | 1 => decide +kernel
    | _ + 2 => rfl
  simpa [ran] using returned

end Clients
end FitzGo.Subscriptions.Heap
