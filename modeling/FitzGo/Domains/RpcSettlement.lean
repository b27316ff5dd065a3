import FitzGo.Domains.RpcInvocationOrder

/-!
# The settlement of worker requests

The goroutine that consumes the job of an invocation takes it out of
`activeInvocations` and writes a terminal RESPONSE or an acknowledgement. For a
job that the pool drops nothing is written.
-/

namespace FitzGo.Domains.RpcInvocations

open StepMachine Threads

variable {Id : Type} [DecidableEq Id]
variable {state : State Id} {thread number : Nat} {action : Action Id}
variable {choice : Choice} {rest more : List (Action Id)} {next : Client Id}
variable {operation : Operation Id} {program : List (Action Id)}
variable {invocation : Invocation Id} {id : Id}

def Job.thread? : Job → Option Nat
  | .rejected thread | .running thread => some thread
  | _ => none

def Consumed (state : State Id) (invocation : Invocation Id) : Prop :=
  invocation.job = .dropped ∨
    ∃ thread, invocation.job.thread? = some thread ∧ state.programs thread = []

def Answered (client : Client Id) (id : Id) : Prop :=
  .terminalResponse id ∈ client.written ∨ .cleanupAck id ∈ client.written

def Settled (client : Client Id) (number : Nat) (id : Id) : Prop :=
  client.activeInvocations.lookup id ≠ some number ∧ Answered client id

instance (client : Client Id) (number : Nat) (id : Id) : Decidable (Settled client number id) :=
  inferInstanceAs (Decidable (_ ∧ (_ ∨ _)))

/-- A section that takes the invocation out of `activeInvocations`, now or
later. -/
def removes (number : Nat) (action : Action Id) : Prop :=
  ∃ part, action = .work number part

def answers (number : Nat) (id : Id) (action : Action Id) : Prop :=
  (∃ part, part ≠ .finishWorkerInvocation ∧ action = .work number part) ∨
    action = .sendTerminal id ∨ action = .sendWorkerCleanupAck id

structure Settling (state : State Id) (number : Nat) (id : Id) (thread : Nat) : Prop where
  removal : state.shared.activeInvocations.lookup id ≠ some number ∨
    Owes (removes number) state.programs thread
  answer : Answered state.shared id ∨ Owes (answers number id) state.programs thread

/-- Writes succeed, and the connection supports cancellation. -/
def Healthy : Event (Operation Id) Choice → Prop
  | .advance _ choice => choice.supportsRPCCancellation ∧ choice.sent
  | .start _ => True

/-- A job is dropped only when its invocation is settled. -/
def DropsSettled (state : State Id) : Event (Operation Id) Choice → Prop
  | .start (.dropJob number) => ∀ invocation ∈ state.shared.invocations[number]?,
    Settled state.shared number invocation.correlationID
  | .start _ | .advance _ _ => True

instance (state : State Id) (event : Event (Operation Id) Choice) :
    Decidable (DropsSettled state event) := by
  cases event with
  | start operation => cases operation <;> dsimp only [DropsSettled] <;> infer_instance
  | advance thread choice => exact instDecidableTrue

theorem Answered.perform (answered : Answered state.shared id)
    (performed : perform state.shared thread action choice =
      some (next, more)) : Answered next id := by
  have grows {frame : Frame Id} (earlier : frame ∈ state.shared.written) :
      frame ∈ next.written := by
    rcases perform_writes performed with
      same | ⟨other, -, added⟩ | ⟨other, -, added⟩
    · rw [same]
      exact earlier
    · rw [added]
      exact List.mem_append_left _ earlier
    · rw [added]
      exact List.mem_append_left _ earlier
  exact answered.imp grows grows

private theorem answered_of_sends (healthy : choice.supportsRPCCancellation ∧ choice.sent)
    (sends : action = .sendTerminal id ∨ action = .sendWorkerCleanupAck id)
    (performed : perform state.shared thread action choice =
      some (next, more)) : Answered next id := by
  rcases sends with rfl | rfl
  · cases performed
    rw [if_pos healthy.2]
    exact Or.inl (List.mem_append_right _ List.mem_cons_self)
  · cases performed
    rw [if_pos healthy]
    exact Or.inr (List.mem_append_right _ List.mem_cons_self)

theorem Settling.answer_resume {owner : Nat} (settling : Settling state number id owner)
    (healthy : choice.supportsRPCCancellation ∧ choice.sent)
    (running : state.programs thread = action :: rest)
    (performed : perform state.shared thread action choice = some (next, more))
    (other : ∀ part, part ≠ .finishWorkerInvocation → action ≠ .work number part) :
    Answered next id ∨ Owes (answers number id)
      (Function.update state.programs thread (more ++ rest)) owner := by
  rcases settling.answer with answered | owes
  · exact Or.inl (answered.perform performed)
  · refine owes.resume running fun wants => Or.inl ?_
    rcases wants with ⟨part, early, same⟩ | sends
    · exact absurd same (other part early)
    · exact answered_of_sends healthy sends performed

/-- What is left to do after a section has put `more` before the rest of its
thread. -/
structure Leaves (number : Nat) (id : Id) (finished : Bool) (more : List (Action Id)) : Prop where
  removal : finished = true ∨ ∃ new ∈ more, removes number new
  answer : ∃ new ∈ more, answers number id new

omit [DecidableEq Id] in
theorem leaves_work {finished : Bool} (part : Part) (early : part ≠ .finishWorkerInvocation) :
    Leaves number id finished [.work number part] :=
  ⟨Or.inr ⟨_, List.mem_cons_self, part, rfl⟩, ⟨_, List.mem_cons_self, Or.inl ⟨part, early, rfl⟩⟩⟩

omit [DecidableEq Id] in
private theorem leaves_settle {finished : Bool} (invocation : Invocation Id) :
    Leaves number invocation.correlationID finished (invocation.settle number) :=
  ⟨Or.inr ⟨_, List.mem_cons_of_mem _ List.mem_cons_self, _, rfl⟩,
    ⟨_, List.mem_cons_self, Or.inr (Or.inl rfl)⟩⟩

variable {part : Part}

omit [DecidableEq Id] in
private theorem work_leaves {consumer : Nat}
    (life : Life invocation (some thread) (some part)) (number : Nat) (active accepted : Bool)
    (consumed : (invocation.work number thread active accepted part).1.job.thread? =
      some consumer) :
    consumer = thread ∧ Leaves number invocation.correlationID part.finishes
      (invocation.work number thread active accepted part).2 := by
  unfold Invocation.work at consumed ⊢
  cases life with
  | launching fresh job =>
    cases accepted with
    | true => cases consumed
    | false =>
      cases consumed
      exact ⟨rfl, Or.inr ⟨_, List.mem_cons_self, _, rfl⟩,
        ⟨_, List.mem_cons_of_mem _ List.mem_cons_self, Or.inr (Or.inl rfl)⟩⟩
  | storing fresh job =>
    cases consumed
    refine ⟨rfl, ?_⟩
    dsimp only
    split
    · exact ⟨Or.inr ⟨_, List.mem_cons_self, _, rfl⟩,
        ⟨_, List.mem_cons_of_mem _ List.mem_cons_self, Or.inr (Or.inr rfl)⟩⟩
    · exact leaves_work .checkContext nofun
  | running run reached =>
    have mine {consumer : Nat} (here : invocation.job.thread? = some consumer) :
        consumer = thread := by
      rw [run.job] at here
      exact (Option.some.inj here).symm
    cases part with
    | launch | storeCancel | finishWorkerInvocation => cases reached
    | checkContext =>
      refine ⟨mine consumed, ?_⟩
      dsimp only
      split
      · exact leaves_settle invocation
      · exact leaves_work .callHandler nofun
    | callHandler => exact ⟨mine consumed, leaves_work .handlerReturn nofun⟩
    | handlerReturn => exact ⟨mine consumed, leaves_work .checkCancellation nofun⟩
    | checkCancellation =>
      refine ⟨mine consumed, ?_⟩
      dsimp only
      split
      · exact leaves_work .finishCanceled nofun
      · exact leaves_settle invocation
    | finishCanceled =>
      refine ⟨mine consumed, Or.inl rfl, ?_⟩
      dsimp only
      rw [if_pos reached.2]
      exact ⟨_, List.mem_cons_self, Or.inr (Or.inr rfl)⟩

private theorem inactive_of_finishes {client : Client Id}
    (finishes : part.finishes = true) (accepted : Bool) :
    (client.work invocation number thread accepted part).1.activeInvocations.lookup
      invocation.correlationID ≠ some number := by
  dsimp only [Client.work]
  by_cases active : client.activeInvocations.lookup invocation.correlationID = some number
  · rw [if_pos ⟨decide_eq_true active, finishes⟩, AList.lookup_erase]
    exact nofun
  · rw [if_neg fun both => active (of_decide_eq_true both.1)]
    exact active

omit [DecidableEq Id] in
theorem job_work_ne {active accepted : Bool} (life : Life invocation (some thread) (some part)) :
    (invocation.work number thread active accepted part).1.job ≠ .dropped := by
  cases life with
  | launching | storing => cases accepted <;> exact nofun
  | running run =>
    have kept : invocation.job ≠ .dropped := by
      rw [run.job]
      exact nofun
    cases part with
    | launch => cases accepted <;> exact nofun
    | storeCancel => exact nofun
    | _ => exact kept

/-- Every invocation whose job was rejected or is run is settled by the thread
that does it, and the others lose no job before they are settled. -/
structure Due (state : State Id) : Prop where
  dropped : ∀ {number : Nat} {invocation}, state.shared.invocations[number]? = some invocation →
    invocation.job = .dropped → Settled state.shared number invocation.correlationID
  settling : ∀ {number : Nat} {invocation consumer},
    state.shared.invocations[number]? = some invocation → invocation.job.thread? = some consumer →
    Settling state number invocation.correlationID consumer

private theorem due_initial : Due (initial : State Id) where
  dropped present := by cases present
  settling present := by cases present

theorem Due.resume (due : Due state) (orderly : Orderly state)
    (healthy : choice.supportsRPCCancellation ∧ choice.sent)
    (running : state.programs thread = action :: rest)
    (performed : perform state.shared thread action choice = some (next, more)) :
    Due (state.resume thread next (more ++ rest)) := by
  -- what the section did to an invocation that is there after it
  have both {number : Nat} {changed : Invocation Id}
      (present : next.invocations[number]? = some changed) :
      (changed.job = .dropped → Settled next number changed.correlationID) ∧
        ∀ consumer, changed.job.thread? = some consumer →
        Settling (state.resume thread next (more ++ rest)) number
          changed.correlationID consumer := by
    cases before : state.shared.invocations[number]? with
    | none =>
      obtain ⟨id, -, -, rfl⟩ := perform_born performed before present
      exact ⟨nofun, nofun⟩
    | some invocation =>
      obtain ⟨owner, stage, ordered⟩ := orderly.ordered before
      have named := Client.ids_getElem? before
      by_cases mine : ∃ part, action = .work number part
      · obtain ⟨part, rfl⟩ := mine
        obtain ⟨same, here, done⟩ := perform_work performed
        cases before.symm.trans here
        cases done
        cases (Client.invocations_adjust_self before _).symm.trans present
        rw [correlationID_work]
        by_cases last : part = .finishWorkerInvocation
        · subst last
          refine ⟨fun dropped => ⟨inactive_of_finishes rfl _, ?_⟩,
            fun consumer consumed => ⟨Or.inl (inactive_of_finishes rfl _), ?_⟩⟩
          · exact (due.dropped before dropped).2.perform performed
          · refine (due.settling before consumed).answer_resume healthy running performed ?_
            intro part early same
            cases same
            exact early rfl
        · obtain ⟨rfl, rfl, -⟩ := ordered.head running last
          refine ⟨fun dropped => ?_, fun consumer consumed => ?_⟩
          · exact absurd dropped (job_work_ne ordered.life)
          · obtain ⟨rfl, leaves⟩ := work_leaves ordered.life number _ _ consumed
            refine ⟨?_, ?_⟩
            · rcases leaves.removal with finishes | ⟨new, member, wants⟩
              · exact Or.inl (inactive_of_finishes finishes _)
              · exact Or.inr (owes_of_mem member wants)
            · obtain ⟨new, member, wants⟩ := leaves.answer
              exact Or.inr (owes_of_mem member wants)
      · have other (part : Part) : action ≠ .work number part := fun same => mine ⟨part, same⟩
        obtain ⟨touchedInvocation, there, touched, -⟩ :=
          perform_passes orderly.sound before other performed
        cases there.symm.trans present
        rw [touched.job, touched.id]
        refine ⟨fun dropped => ?_, fun consumer consumed => ?_⟩
        · obtain ⟨inactive, answered⟩ := due.dropped before dropped
          exact ⟨(perform_change performed).inactive named inactive, answered.perform performed⟩
        · have settling := due.settling before consumed
          refine ⟨?_, settling.answer_resume healthy running performed fun part _ => other part⟩
          rcases settling.removal with inactive | owes
          · exact Or.inl ((perform_change performed).inactive named inactive)
          · exact owes.resume running fun ⟨part, same⟩ => absurd same (other part)
  exact ⟨fun present => (both present).1, fun present consumed => (both present).2 _ consumed⟩

theorem Due.begin (due : Due state) (unstarted : state.programs state.started = [])
    (started : start state.shared operation = some (next, program))
    (met : DropsSettled state (.start operation)) : Due (state.begin next program) := by
  obtain ⟨active, ids, written⟩ := start_keeps started
  have settled {number : Nat} {id : Id} (before : Settled state.shared number id) :
      Settled next number id := by
    rw [Settled, Answered, active, written]
    exact before
  have both {number : Nat} {changed : Invocation Id}
      (present : next.invocations[number]? = some changed) :
      (changed.job = .dropped → Settled next number changed.correlationID) ∧
        ∀ consumer, changed.job.thread? = some consumer →
        Settling (state.begin next program) number changed.correlationID consumer := by
    cases before : state.shared.invocations[number]? with
    | none =>
      have there := Client.ids_getElem? present
      rw [ids, Client.ids_eq_none_iff.mpr before] at there
      cases there
    | some invocation =>
      have begins := start_begins before started
      cases begins with
      | takes queued taken =>
        cases taken.symm.trans present
        exact ⟨nofun, nofun⟩
      | drops dropped queued there =>
        subst dropped
        cases there.symm.trans present
        exact ⟨fun _ => settled (met invocation before), nofun⟩
      | touches there touched silent =>
        cases there.symm.trans present
        rw [touched.job, touched.id]
        refine ⟨fun dropped => settled (due.dropped before dropped), fun consumer consumed => ?_⟩
        have settling := due.settling before consumed
        refine ⟨?_, ?_⟩
        · refine settling.removal.imp (fun inactive => ?_) fun owes => owes.begin unstarted program
          rw [System.begin, active]
          exact inactive
        · refine settling.answer.imp (fun answered => ?_) fun owes => owes.begin unstarted program
          rw [System.begin, Answered, written]
          exact answered
  exact ⟨fun present => (both present).1, fun present consumed => (both present).2 _ consumed⟩

/-- On a connection whose writes succeed, with no job dropped before its
invocation is settled, the invocation of a consumed job is not active any more,
and it was answered. -/
theorem consumed_requests_are_settled {events : List (Event (Operation Id) Choice)}
    (healthy : ∀ event ∈ events, Healthy event)
    (drops : Along machine.step DropsSettled (initial : State Id) events)
    (ran : run machine.step (initial : State Id) events = some state)
    (present : state.shared.invocations[number]? = some invocation)
    (consumed : Consumed state invocation) :
    state.shared.activeInvocations.lookup invocation.correlationID ≠ some number ∧
      (.terminalResponse invocation.correlationID ∈ state.shared.written ∨
      .cleanupAck invocation.correlationID ∈ state.shared.written) := by
  have kept : Due state ∧ Orderly state ∧ state.Unstarted := by
    have along : Along machine.step (fun state event => Healthy event ∧ DropsSettled state event)
        initial events :=
      along_mono (fun _ event member met => ⟨healthy event member, met⟩) drops
    refine invariant_along (fun state : State Id =>
      Due state ∧ Orderly state ∧ state.Unstarted) ?_
      ⟨due_initial, orderly_initial, fun _ _ => rfl⟩ along ran
    rintro state next event ⟨due, orderly, unstarted⟩ ⟨healthy, met⟩ stepped
    refine ⟨?_, orderly.step unstarted stepped, unstarted.step stepped⟩
    cases event with
    | start operation =>
      obtain ⟨next, program, started, rfl⟩ := step_start_eq_some stepped
      exact due.begin (unstarted _ (Nat.le_refl _)) started met
    | advance thread choice =>
      obtain ⟨action, rest, next, more, running, performed, rfl⟩ := step_advance_eq_some stepped
      exact due.resume orderly healthy running performed
  rcases consumed with dropped | ⟨thread, job, idle⟩
  · exact kept.1.dropped present dropped
  · have settling := kept.1.settling present job
    have nothing {wanted : Action Id → Prop} : ¬ Owes wanted state.programs thread := by
      rintro ⟨action, member, -⟩
      rw [idle] at member
      cases member
    exact ⟨settling.removal.resolve_right nothing, settling.answer.resolve_right nothing⟩

/-- The handler of the first request runs after its timeout; the job of the
second is dropped after a cancellation has settled it. -/
def expiredRun : List (Event (Operation Nat) Choice) :=
  [.start (.request 7), .advance 0 {}, .advance 0 {}, .start (.timeOut 0),
    .start (.takeJob 0), .advance 2 {}, .advance 2 {}, .advance 2 {}, .advance 2 {},
    .advance 2 {}, .start (.request 8), .advance 3 {}, .advance 3 {}, .start (.timeOut 1),
    .start (.lifecycle 2 8 1), .advance 5 {}, .advance 5 {}, .start (.dropJob 1)]

theorem expiredRun_is_settled : ∃ final, run machine.step initial expiredRun = some final ∧
      (final.shared.activeInvocations.lookup 7 ≠ some 0 ∧
      (.terminalResponse 7 ∈ final.shared.written ∨ .cleanupAck 7 ∈ final.shared.written)) ∧
      final.shared.activeInvocations.lookup 8 ≠ some 1 ∧
      (.terminalResponse 8 ∈ final.shared.written ∨ .cleanupAck 8 ∈ final.shared.written) := by
  obtain ⟨final, ran, idle, ⟨first, present, named, job⟩, second, there, called, dropped⟩ :
      ∃ final, run machine.step initial expiredRun = some final ∧ final.programs 2 = [] ∧
        (∃ invocation, final.shared.invocations[0]? = some invocation ∧
          invocation.correlationID = 7 ∧ invocation.job = .running 2) ∧
        ∃ invocation, final.shared.invocations[1]? = some invocation ∧
          invocation.correlationID = 8 ∧ invocation.job = .dropped := by
    decide +kernel
  have healthy : ∀ event ∈ expiredRun, Healthy event := by
    simp [expiredRun, Healthy]
  have drops : Along machine.step DropsSettled initial expiredRun := by
    decide +kernel
  have ended := consumed_requests_are_settled healthy drops ran present
    (Or.inr ⟨2, job ▸ rfl, idle⟩)
  have cancelled := consumed_requests_are_settled healthy drops ran there (Or.inl dropped)
  rw [named] at ended
  rw [called] at cancelled
  exact ⟨final, ran, ended, cancelled⟩

/-- The pool drops a job whose context expired in the queue: its invocation stays
active, and nothing is written for it. -/
theorem dropped_request_is_not_settled :
    ∃ events final invocation, (∀ event ∈ events, Healthy event) ∧
      run machine.step (initial : State Nat) events = some final ∧
      final.shared.invocations[0]? = some invocation ∧ Consumed final invocation ∧
      final.shared.activeInvocations.lookup invocation.correlationID = some 0 ∧
      final.shared.written = [] := by
  obtain ⟨final, ran, present, active, unwritten⟩ :
      ∃ final, run machine.step (initial : State Nat) [.start (.request 7), .advance 0 {},
          .advance 0 {}, .start (.timeOut 0), .start (.dropJob 0)] = some final ∧
        final.shared.invocations[0]? = some
          { (newInvocation 7).setJob .dropped with timedOut := true } ∧
        final.shared.activeInvocations.lookup 7 = some 0 ∧ final.shared.written = [] := by
    decide +kernel
  exact ⟨_, final, _, by simp [Healthy], ran, present, Or.inl rfl, active, unwritten⟩

end FitzGo.Domains.RpcInvocations
