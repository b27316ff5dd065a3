import FitzGo.Domains.RpcInvocationLife

/-!
# Cancellations and handlers

Before the callback stores its cancel function, whoever marks the invocation
keeps its handler from starting. After that a notice only calls the cancel
function, and the callback itself writes the acknowledgement.
-/

namespace FitzGo.Domains.RpcInvocations

open StepMachine Threads

variable {Id : Type} [DecidableEq Id]
variable {state : State Id} {thread number : Nat} {action : Action Id}
variable {choice : Choice} {rest more : List (Action Id)} {next : Client Id}
variable {operation : Operation Id} {program : List (Action Id)}
variable {invocation : Invocation Id} {owner : Option Nat}
variable {stage : Option Part}

/-- Whatever an acknowledgement stands for holds as soon as somebody is going to
write one. -/
structure Acknowledged (state : State Id) (id : Id) (holds : Prop) : Prop where
  promised : Everywhere (fun action => action = .sendWorkerCleanupAck id → holds) state.programs
  written : .cleanupAck id ∈ state.shared.written → holds

theorem Acknowledged.resume {id : Id} {before after : Prop}
    (acknowledged : Acknowledged state id before) (running : state.programs thread = action :: rest)
    (performed : perform state.shared thread action choice = some (next, more))
    (kept : before → after) (new : .sendWorkerCleanupAck id ∈ more → after) :
    Acknowledged (state.resume thread next (more ++ rest)) id after := by
  constructor
  · refine Everywhere.resume (acknowledged.promised.mono fun _ promise sent => kept (promise sent))
      running ?_
    rintro _ member rfl
    exact new member
  · intro sent
    change _ ∈ next.written at sent
    rcases perform_writes performed with
      same | ⟨other, -, added⟩ | ⟨other, rfl, added⟩
    · rw [same] at sent
      exact kept (acknowledged.written sent)
    · rw [added, List.mem_append, List.mem_singleton] at sent
      exact kept (acknowledged.written (sent.resolve_right nofun))
    · rw [added, List.mem_append, List.mem_singleton] at sent
      rcases sent with earlier | last
      · exact kept (acknowledged.written earlier)
      · cases last
        exact kept (acknowledged.promised.head running rfl)

omit [DecidableEq Id] in
theorem Acknowledged.begin {id : Id} {before after : Prop}
    (acknowledged : Acknowledged state id before)
    (started : start state.shared operation = some (next, program))
    (kept : before → after) : Acknowledged (state.begin next program) id after := by
  constructor
  · refine Everywhere.update
      (acknowledged.promised.mono fun _ promise sent => kept (promise sent)) ?_
    rintro _ member rfl
    exact absurd rfl ((start_program started member).2 id)
  · intro sent
    exact kept (acknowledged.written ((start_keeps started).2.2 ▸ sent))

/-- One invocation in a state: its stage, with an acknowledgement only when the
handler is not going to run any more. -/
structure Ordered (state : State Id) (number : Nat)
    (invocation : Invocation Id) (owner : Option Nat)
    (stage : Option Part) : Prop where
  present : state.shared.invocations[number]? = some invocation
  sole : Sole (ofInvocation number) state.programs owner (sections number stage)
  life : Life invocation owner stage
  acknowledged : Acknowledged state invocation.correlationID (invocation.Clean stage)

def Continues (state : State Id) (number : Nat)
    (invocation : Invocation Id) (stage : Option Part) : Prop :=
  ∃ changed owner stage', Ordered state number changed owner stage' ∧
      (invocation.Barred stage → changed.Barred stage')

section

variable (ordered : Ordered state number invocation owner stage)
include ordered

omit [DecidableEq Id] in
theorem Ordered.head {part : Part} (running : state.programs thread = .work number part :: rest)
    (own : part ≠ .finishWorkerInvocation) :
    owner = some thread ∧ stage = some part ∧ rest.filter (ofInvocation number) = [] := by
  obtain ⟨owned, same⟩ := ordered.sole.head running (decide_eq_true ⟨rfl, own⟩)
  cases stage with
  | none => cases same
  | some here =>
    obtain ⟨first, others⟩ := List.cons.inj same
    cases first
    exact ⟨owned, rfl, others.symm⟩

theorem Ordered.resume
    (sound : Sound state.shared) (running : state.programs thread = action :: rest)
    (performed : perform state.shared thread action choice = some (next, more)) :
    Continues (state.resume thread next (more ++ rest)) number invocation stage := by
  obtain ⟨bound, -⟩ := List.getElem?_eq_some_iff.mp ordered.present
  by_cases mine : ∃ part, action = .work number part
  · obtain ⟨part, rfl⟩ := mine
    obtain ⟨same, present, done⟩ := perform_work performed
    cases ordered.present.symm.trans present
    cases done
    by_cases last : part = .finishWorkerInvocation
    · subst last
      refine ⟨invocation, owner, stage,
        ⟨Client.invocations_adjust_self present _, ?_, ordered.life, ?_⟩,
        fun barred => barred⟩
      · exact ordered.sole.resume running (decide_eq_false (by simp)) rfl
      · exact ordered.acknowledged.resume running performed
          (fun clean => clean) fun member => nomatch member
    · obtain ⟨rfl, rfl, alone⟩ := ordered.head running last
      obtain ⟨stage', advances⟩ := work_advances ordered.life number
        (state.shared.activeInvocations.lookup invocation.correlationID =
          some number) choice.accepted
      have barred (before : invocation.Barred (some part)) :=
        advances.waits (before.waits (Or.inl nofun))
      have sole := ordered.sole.take thread (fun _ own => (Option.some.inj own).symm)
        ((invocation.work number thread
          (state.shared.activeInvocations.lookup invocation.correlationID =
            some number) choice.accepted part).2 ++ rest)
      rw [List.filter_append, alone, List.append_nil, advances.emitted] at sole
      refine ⟨_, _, stage', ⟨Client.invocations_adjust_self present _, sole,
        advances.life, ?_⟩, barred⟩
      rw [correlationID_work]
      exact ordered.acknowledged.resume running performed
        (fun clean => clean.imp advances.returned barred)
        advances.acknowledged
  · have other (part : Part) : action ≠ .work number part := fun same => mine ⟨part, same⟩
    have foreign : ofInvocation number action = false := by
      cases action with
      | work another part =>
        refine decide_eq_false fun own => other part ?_
        rw [own.1]
      | _ => rfl
    obtain ⟨changed, present, touched, acknowledged⟩ :=
      perform_passes sound ordered.present other performed
    have life := touched.life ordered.life
    refine ⟨changed, owner, stage, ⟨present, ordered.sole.resume running foreign
        (perform_silent sound performed other fun _ _ => Nat.ne_of_lt bound),
      life, ?_⟩, touched.barred⟩
    rw [touched.id]
    refine ordered.acknowledged.resume running performed touched.clean fun member => ?_
    have waits := acknowledged member
    exact Or.inr ⟨life.idle_of_unstored waits.1, Or.inl waits⟩

omit [DecidableEq Id] in
theorem Ordered.begin (unstarted : state.programs state.started = [])
    (started : start state.shared operation = some (next, program)) :
    Continues (state.begin next program) number invocation stage := by
  have begins := start_begins ordered.present started
  cases begins with
  | takes queued present =>
    obtain ⟨fresh, rfl⟩ := ordered.life.queued_of_job queued
    have sole := ordered.sole.release.take state.started
      (fun _ own => nomatch own) [.work number .storeCancel]
    rw [filter_work number .storeCancel nofun] at sole
    exact ⟨_, _, some .storeCancel, ⟨present, sole, .storing ⟨fresh.unstored, fresh.idle⟩ rfl,
      ordered.acknowledged.begin started fun clean => clean.setJob queued _ _⟩,
      fun barred => barred.setJob queued _ _⟩
  | drops dropped queued present =>
    obtain ⟨fresh, rfl⟩ := ordered.life.queued_of_job queued
    exact ⟨_, owner, none, ⟨present, ordered.sole.keep (by rw [unstarted]),
      .dropped ⟨fresh.unstored, fresh.idle⟩ rfl,
      ordered.acknowledged.begin started fun clean => clean.setJob queued _ _⟩,
      fun barred => barred.setJob queued _ _⟩
  | touches present touched silent =>
    refine ⟨_, owner, stage, ⟨present, ordered.sole.keep (by rw [unstarted, silent]; rfl),
      touched.life ordered.life, ?_⟩, touched.barred⟩
    rw [touched.id]
    exact ordered.acknowledged.begin started touched.clean

end

structure Orderly (state : State Id) : Prop where
  sound : Sound state.shared
  known : ∀ id, Acknowledged state id (id ∈ state.shared.ids)
  unborn : ∀ {number}, state.shared.invocations[number]? = none →
    Sole (ofInvocation number) state.programs none []
  ordered : ∀ {number invocation}, state.shared.invocations[number]? = some invocation →
    ∃ owner stage, Ordered state number invocation owner stage

theorem orderly_initial : Orderly (initial : State Id) where
  sound :=
    { named := fun found => by
        rw [initial, System.idle, newClient, AList.lookup_empty] at found
        cases found
      distinct := List.nodup_nil }
  known := fun _ =>
    ⟨fun _ _ member => absurd member List.not_mem_nil, fun sent => absurd sent List.not_mem_nil⟩
  unborn := fun _ => sole_nil_iff.mpr fun _ => rfl
  ordered := fun present => nomatch present

variable {client : Client Id}

theorem perform_born
    (performed : perform client thread action choice = some (next, more))
    (unborn : client.invocations[number]? = none)
    (born : next.invocations[number]? = some invocation) :
    ∃ id, action = .activate id ∧ number = client.invocations.length ∧
      invocation = newInvocation id := by
  rcases (perform_change performed).ids with ⟨ids, -⟩ | ⟨id, rfl, -, -⟩
  · have there := Client.ids_getElem? born
    rw [ids, Client.ids_eq_none_iff.mpr unborn] at there
    cases there
  · obtain ⟨-, -, grown, -⟩ := perform_activate performed
    rw [grown] at born
    have last : number = client.invocations.length := by
      obtain ⟨bound, -⟩ := List.getElem?_eq_some_iff.mp born
      rw [List.length_append, List.length_singleton] at bound
      exact Nat.le_antisymm (Nat.le_of_lt_succ bound) (List.getElem?_eq_none_iff.mp unborn)
    subst last
    rw [List.getElem?_concat_length] at born
    exact ⟨id, rfl, rfl, (Option.some.inj born).symm⟩

theorem Orderly.resume (orderly : Orderly state) (running : state.programs thread = action :: rest)
    (performed : perform state.shared thread action choice = some (next, more)) :
    Orderly (state.resume thread next (more ++ rest)) where
  sound := (perform_change performed).sound orderly.sound
  known := by
    intro id
    have grows (known : id ∈ state.shared.ids) : id ∈ next.ids :=
      (perform_change performed).mem_ids known
    refine (orderly.known id).resume running performed grows fun member => ?_
    exact grows ((perform_emits orderly.sound performed member).2 rfl)
  unborn := by
    intro number unborn
    have before := (perform_change performed).unborn unborn
    have sole := orderly.unborn before
    have other (part : Part) : action ≠ .work number part := by
      rintro rfl
      obtain ⟨invocation, present, -⟩ := perform_work performed
      cases before.symm.trans present
    have foreign : ofInvocation number action = false := by
      cases mine : ofInvocation number action with
      | false => rfl
      | true => cases (sole.head running mine).1
    refine sole.resume running foreign (perform_silent orderly.sound performed other ?_)
    rintro id rfl rfl
    obtain ⟨-, -, grown, -⟩ := perform_activate performed
    have last : next.invocations[state.shared.invocations.length]? = some (newInvocation id) := by
      rw [grown]
      exact List.getElem?_concat_length
    exact nomatch last.symm.trans unborn
  ordered := by
    intro number invocation present
    cases before : state.shared.invocations[number]? with
    | some earlier =>
      obtain ⟨owner, stage, ordered⟩ := orderly.ordered before
      obtain ⟨changed, owner', stage', after, -⟩ := ordered.resume orderly.sound running performed
      cases after.present.symm.trans present
      exact ⟨owner', stage', after⟩
    | none =>
      obtain ⟨id, rfl, rfl, rfl⟩ := perform_born performed before present
      obtain ⟨fresh, -, -, rfl⟩ := perform_activate performed
      have quiet := sole_nil_iff.mp (orderly.unborn before) thread
      rw [running, List.filter_cons_of_neg Bool.noConfusion] at quiet
      have sole := (orderly.unborn before).take thread (fun _ own => nomatch own)
        ([.work state.shared.invocations.length .launch] ++ rest)
      rw [List.filter_append, quiet, List.append_nil, filter_work _ .launch nofun] at sole
      exact ⟨some thread, some .launch, present, sole, .launching ⟨rfl, rfl⟩ rfl,
        (orderly.known id).resume running performed (fun known => absurd known fresh) (by simp)⟩

theorem Orderly.begin (orderly : Orderly state) (unstarted : state.programs state.started = [])
    (started : start state.shared operation = some (next, program)) :
    Orderly (state.begin next program) := by
  obtain ⟨active, ids, -⟩ := start_keeps started
  have absent {number : Nat} (unborn : next.invocations[number]? = none) :
      state.shared.invocations[number]? = none := by
    rw [← Client.ids_eq_none_iff, ← ids]
    exact Client.ids_eq_none_iff.mpr unborn
  refine ⟨⟨fun found => ?_, ?_⟩, fun id => ?_, fun unborn => ?_, ?_⟩
  · change next.activeInvocations.lookup _ = _ at found
    change next.ids[_]? = _
    rw [active] at found
    rw [ids]
    exact orderly.sound.named found
  · exact ids ▸ orderly.sound.distinct
  · exact (orderly.known id).begin started fun known => ids ▸ known
  · refine (orderly.unborn (absent unborn)).keep ?_
    rw [unstarted]
    refine List.filter_eq_nil_iff.mpr fun first member mine => ?_
    exact (start_program started member).1 mine (absent unborn)
  · intro number invocation present
    cases before : state.shared.invocations[number]? with
    | some earlier =>
      obtain ⟨owner, stage, ordered⟩ := orderly.ordered before
      obtain ⟨changed, owner', stage', after, -⟩ := ordered.begin unstarted started
      cases after.present.symm.trans present
      exact ⟨owner', stage', after⟩
    | none =>
      have there : next.ids[number]? = _ := Client.ids_getElem? present
      rw [ids, Client.ids_eq_none_iff.mpr before] at there
      cases there

variable {after : State Id} {event : Event (Operation Id) Choice}

theorem Orderly.step (orderly : Orderly state) (unstarted : state.Unstarted)
    (stepped : machine.step state event = some after) : Orderly after := by
  cases event with
  | start operation =>
    obtain ⟨next, program, started, rfl⟩ := step_start_eq_some stepped
    exact orderly.begin (unstarted _ (Nat.le_refl _)) started
  | advance thread choice =>
    obtain ⟨action, rest, next, more, running, performed, rfl⟩ := step_advance_eq_some stepped
    exact orderly.resume running performed

private theorem orderly_of_run {events : List (Event (Operation Id) Choice)}
    (ran : run machine.step (initial : State Id) events = some state) : Orderly state :=
  Threads.invariant_of_run Orderly
    (fun orderly unstarted started => orderly.begin unstarted started)
    (fun orderly running performed => orderly.resume running performed)
    orderly_initial ran

/-! ## A handler that cannot start any more -/

def Stopped (state : State Id) (number : Nat) : Prop :=
  ∃ invocation owner stage, Ordered state number invocation owner stage ∧ invocation.Barred stage

theorem Stopped.step (orderly : Orderly state) (unstarted : state.Unstarted)
    (stopped : Stopped state number)
    (stepped : machine.step state event = some after) : Stopped after number := by
  obtain ⟨invocation, owner, stage, ordered, barred⟩ := stopped
  cases event with
  | start operation =>
    obtain ⟨next, program, started, rfl⟩ := step_start_eq_some stepped
    obtain ⟨changed, owner', stage', after, kept⟩ :=
      ordered.begin (unstarted _ (Nat.le_refl _)) started
    exact ⟨changed, owner', stage', after, kept barred⟩
  | advance thread choice =>
    obtain ⟨action, rest, next, more, running, performed, rfl⟩ := step_advance_eq_some stepped
    obtain ⟨changed, owner', stage', after, kept⟩ := ordered.resume orderly.sound running performed
    exact ⟨changed, owner', stage', after, kept barred⟩

omit [DecidableEq Id] in
theorem Stopped.idle (stopped : Stopped state number) :
    state.shared.invocations[number]?.map Invocation.handler = some .notStarted := by
  obtain ⟨invocation, owner, stage, ordered, barred⟩ := stopped
  rw [ordered.present, Option.map_some, barred.1]

/-- In every state that can follow, the handler has not started. -/
def NeverStarts (state : State Id) (number : Nat) : Prop :=
  ∀ later final, run machine.step state later = some final →
    final.shared.invocations[number]?.map Invocation.handler = some .notStarted

theorem Stopped.neverStarts (orderly : Orderly state)
    (unstarted : state.Unstarted) (stopped : Stopped state number) : NeverStarts state number := by
  intro later final ran
  have kept : Orderly final ∧ final.Unstarted ∧ Stopped final number := by
    refine StepMachine.invariant_of_run (fun state : State Id =>
        Orderly state ∧ state.Unstarted ∧ Stopped state number)
      ?_ ⟨orderly, unstarted, stopped⟩ ran
    rintro before after event ⟨orderly, unstarted, stopped⟩ stepped
    exact ⟨orderly.step unstarted stepped, unstarted.step stepped,
      stopped.step orderly unstarted stepped⟩
  exact kept.2.2.idle

/-- A cancel notice or `ClosePendingRPCs` is about to take the lock, the
invocation is active, and its callback has not stored its cancel function. -/
structure Overtakes (state : State Id) (thread number : Nat)
    (invocation : Invocation Id) : Prop where
  cancels : ∃ rest, state.programs thread = .cancelNotice invocation.correlationID :: rest ∨
    state.programs thread = .closePendingRPCs :: rest
  active : state.shared.activeInvocations.lookup invocation.correlationID = some number
  unstored : invocation.cancelStored = false

private theorem perform_requests
    (present : client.invocations[number]? = some invocation)
    (active : client.activeInvocations.lookup invocation.correlationID = some number)
    (cancels : action = .cancelNotice invocation.correlationID ∨ action = .closePendingRPCs)
    (performed : perform client thread action choice = some (next, more)) :
    next.invocations[number]? = some invocation.requestCancellation := by
  rcases cancels with rfl | rfl
  · simp only [perform, Client.cancelNotice, active] at performed
    split at performed <;> cases performed <;> exact Client.invocations_adjust_self present _
  · simp only [perform, Client.closePendingRPCs] at performed
    split at performed
    · cases performed
      have member : number ∈ Table.values client.activeInvocations :=
        Table.mem_values_iff.mpr ⟨_, active⟩
      change (client.adjust _ _).invocations[number]? = _
      rw [Client.invocations_adjust, present, Option.map_some, if_pos member]
    · cases performed

theorem Overtakes.stopped (orderly : Orderly state)
    (present : state.shared.invocations[number]? = some invocation)
    (overtakes : Overtakes state thread number invocation)
    (stepped : machine.step state (.advance thread choice) = some after) :
    Stopped after number := by
  obtain ⟨action, rest, next, more, running, performed, rfl⟩ := step_advance_eq_some stepped
  have cancels : action = .cancelNotice invocation.correlationID ∨ action = .closePendingRPCs := by
    obtain ⟨others, notice | lost⟩ := overtakes.cancels
    · rw [running] at notice
      exact Or.inl (List.cons.inj notice).1
    · rw [running] at lost
      exact Or.inr (List.cons.inj lost).1
  have marked := perform_requests present overtakes.active cancels performed
  obtain ⟨owner, stage, ordered⟩ := (orderly.resume running performed).ordered marked
  exact ⟨_, owner, stage, ordered, ordered.life.idle_of_unstored overtakes.unstored,
    Or.inl ⟨overtakes.unstored, rfl⟩⟩

/-- A cancellation that takes the lock before the callback stores its cancel
function keeps the handler from starting, and an acknowledgement is written only
when the handler has returned or is never going to start. -/
theorem cancellations_are_ordered {events : List (Event (Operation Id) Choice)}
    (ran : run machine.step (initial : State Id) events = some state)
    (present : state.shared.invocations[number]? = some invocation) :
    (∀ {thread choice after}, Overtakes state thread number invocation →
        machine.step state (.advance thread choice) = some after →
        NeverStarts after number) ∧
      (.cleanupAck invocation.correlationID ∈ state.shared.written →
        invocation.handler = .returned ∨ NeverStarts state number) := by
  have orderly := orderly_of_run ran
  have unstarted := unstarted_of_run ran
  constructor
  · intro thread choice after overtakes stepped
    exact (overtakes.stopped orderly present stepped).neverStarts
      (orderly.step unstarted stepped) (unstarted.step stepped)
  · intro sent
    obtain ⟨owner, stage, ordered⟩ := orderly.ordered present
    rcases ordered.acknowledged.written sent with returned | barred
    · exact Or.inl returned
    · exact Or.inr (Stopped.neverStarts orderly unstarted
        ⟨invocation, owner, stage, ordered, barred⟩)

def noticedRun : List (Event (Operation Nat) Choice) :=
  [.start (.request 7), .advance 0 {}, .advance 0 {}, .start (.lifecycle 2 7 1)]

theorem noticedRun_never_starts : ∃ before invocation after,
      run machine.step initial noticedRun = some before ∧
        Overtakes before 1 0 invocation ∧
        machine.step before (.advance 1 {}) = some after ∧
        NeverStarts after 0 := by
  obtain ⟨before, ran, present, notice, active, after, stepped, -⟩ :
      ∃ before, run machine.step initial noticedRun = some before ∧
        before.shared.invocations[0]? = some ((newInvocation 7).setJob .queued) ∧
        before.programs 1 = [.cancelNotice 7] ∧
        before.shared.activeInvocations.lookup 7 = some 0 ∧
        ∃ after, machine.step before (.advance 1 {}) = some after ∧ True := by
    decide +kernel
  have overtakes : Overtakes before 1 0 ((newInvocation 7).setJob .queued) :=
    ⟨⟨[], Or.inl notice⟩, active, rfl⟩
  exact ⟨before, _, after, ran, overtakes, stepped,
    (cancellations_are_ordered ran present).1 overtakes stepped⟩

end FitzGo.Domains.RpcInvocations
