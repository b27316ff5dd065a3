import FitzGo.Domains.RpcInvocations

/-!
# The life of an invocation

An invocation has at most one section of its own to be run, which takes it to
its next stage. A section of somebody else changes at most the marks of its
cancellation and of its contexts.
-/

namespace FitzGo.Domains.RpcInvocations

open StepMachine Threads

variable {Id : Type}

/-! ## The stages -/

section Life

variable {number : Nat} {invocation changed : Invocation Id}
variable {owner : Option Nat} {stage : Option Part}

def ofInvocation (number : Nat) : Action Id → Bool
  | .work other part => decide (other = number ∧ part ≠ .finishWorkerInvocation)
  | _ => false

structure Invocation.Fresh (invocation : Invocation Id) : Prop where
  unstored : invocation.cancelStored = false
  idle : invocation.handler = .notStarted

structure Invocation.RunBy (invocation : Invocation Id) (thread : Nat) : Prop where
  stored : invocation.cancelStored = true
  job : invocation.job = .running thread

/-- What the next section of the callback says about its invocation. -/
def Invocation.Reached (invocation : Invocation Id) : Option Part → Prop
  | some .checkContext | some .callHandler => invocation.handler = .notStarted
  | some .handlerReturn => invocation.handler = .running
  | some .checkCancellation => invocation.handler = .returned
  | some .finishCanceled => invocation.handler = .returned ∧ invocation.cancellationRequested = true
  | some _ => False
  | none => invocation.handler ≠ .running

/-- The stages of an invocation, each with the one section that is to be run and
the thread that runs it. -/
inductive Life (invocation : Invocation Id) : Option Nat → Option Part → Prop
  | launching {thread : Nat} (fresh : invocation.Fresh) (job : invocation.job = .unlaunched) :
      Life invocation (some thread) (some .launch)
  | queued {owner : Option Nat} (fresh : invocation.Fresh)
      (job : invocation.job = .queued) : Life invocation owner none
  | rejected {thread : Nat} (fresh : invocation.Fresh) (job : invocation.job = .rejected thread) :
      Life invocation (some thread) none
  | dropped {owner : Option Nat} (fresh : invocation.Fresh)
      (job : invocation.job = .dropped) : Life invocation owner none
  | storing {thread : Nat} (fresh : invocation.Fresh) (job : invocation.job = .taken) :
      Life invocation (some thread) (some .storeCancel)
  | running {thread : Nat} {stage : Option Part}
      (run : invocation.RunBy thread) (reached : invocation.Reached stage) :
      Life invocation (some thread) stage

def Job.consumed : Job → Bool
  | .rejected _ | .running _ | .dropped => true
  | _ => false

def Invocation.Waits (invocation : Invocation Id) : Prop :=
  invocation.cancelStored = false ∧ invocation.cancellationRequested = true

/-- The handler has not started, and nothing can start it: either the callback
is going to find the cancellation, or there is no callback left. -/
def Invocation.Barred (invocation : Invocation Id) (stage : Option Part) : Prop :=
  invocation.handler = .notStarted ∧
    (invocation.Waits ∨ stage = none ∧ invocation.job.consumed = true)

def Invocation.Clean (invocation : Invocation Id) (stage : Option Part) : Prop :=
  invocation.handler = .returned ∨ invocation.Barred stage

structure Touched (invocation changed : Invocation Id) : Prop where
  id : changed.correlationID = invocation.correlationID
  stored : changed.cancelStored = invocation.cancelStored
  job : changed.job = invocation.job
  handler : changed.handler = invocation.handler
  requested : invocation.cancellationRequested = true → changed.cancellationRequested = true

theorem Touched.refl (invocation : Invocation Id) : Touched invocation invocation :=
  ⟨rfl, rfl, rfl, rfl, fun requested => requested⟩

theorem Touched.request (invocation : Invocation Id) :
    Touched invocation invocation.requestCancellation :=
  ⟨rfl, rfl, rfl, rfl, fun _ => rfl⟩

theorem Touched.cancel (invocation : Invocation Id) :
    Touched invocation { invocation with canceled := true } :=
  ⟨rfl, rfl, rfl, rfl, fun requested => requested⟩

section

variable (touched : Touched invocation changed)
include touched

theorem Touched.fresh (fresh : invocation.Fresh) : changed.Fresh :=
  ⟨touched.stored.trans fresh.unstored, touched.handler.trans fresh.idle⟩

theorem Touched.life (life : Life invocation owner stage) : Life changed owner stage := by
  cases life with
  | launching fresh job => exact .launching (touched.fresh fresh) (touched.job.trans job)
  | queued fresh job => exact .queued (touched.fresh fresh) (touched.job.trans job)
  | rejected fresh job => exact .rejected (touched.fresh fresh) (touched.job.trans job)
  | dropped fresh job => exact .dropped (touched.fresh fresh) (touched.job.trans job)
  | storing fresh job => exact .storing (touched.fresh fresh) (touched.job.trans job)
  | running run reached =>
    refine .running ⟨touched.stored.trans run.stored, touched.job.trans run.job⟩ ?_
    cases stage with
    | none => exact fun now => reached (touched.handler.symm.trans now)
    | some part =>
      cases part with
      | finishCanceled => exact ⟨touched.handler.trans reached.1, touched.requested reached.2⟩
      | launch | storeCancel | finishWorkerInvocation => exact reached
      | _ => exact touched.handler.trans reached

theorem Touched.barred (barred : invocation.Barred stage) : changed.Barred stage := by
  refine ⟨touched.handler.trans barred.1, barred.2.imp ?_ ?_⟩
  · exact fun waits => ⟨touched.stored.trans waits.1, touched.requested waits.2⟩
  · exact fun left => ⟨left.1, touched.job ▸ left.2⟩

theorem Touched.clean (clean : invocation.Clean stage) : changed.Clean stage :=
  clean.imp (fun returned => touched.handler.trans returned) touched.barred

end

theorem Life.idle_of_unstored (life : Life invocation owner stage)
    (unstored : invocation.cancelStored = false) : invocation.handler = .notStarted := by
  cases life with
  | launching fresh | queued fresh | rejected fresh | dropped fresh
  | storing fresh => exact fresh.idle
  | running run =>
    rw [run.stored] at unstored
    cases unstored

theorem Life.queued_of_job (life : Life invocation owner stage)
    (job : invocation.job = .queued) : invocation.Fresh ∧ stage = none := by
  cases life with
  | queued fresh => exact ⟨fresh, rfl⟩
  | launching _ other | rejected _ other | dropped _ other
  | storing _ other => cases job.symm.trans other
  | running run => cases job.symm.trans run.job

theorem Invocation.Barred.waits (barred : invocation.Barred stage)
    (left : stage ≠ none ∨ invocation.job = .queued) : invocation.Waits := by
  rcases barred.2 with waits | ⟨nothing, consumed⟩
  · exact waits
  · rcases left with more | queued
    · exact absurd nothing more
    · rw [queued] at consumed
      cases consumed

theorem Invocation.Barred.setJob (barred : invocation.Barred stage)
    (queued : invocation.job = .queued) (job : Job) (stage' : Option Part) :
    (invocation.setJob job).Barred stage' :=
  ⟨barred.1, Or.inl (barred.waits (Or.inr queued))⟩

theorem Invocation.Clean.setJob (clean : invocation.Clean stage) (queued : invocation.job = .queued)
    (job : Job) (stage' : Option Part) : (invocation.setJob job).Clean stage' :=
  clean.imp (fun returned => returned) fun barred => barred.setJob queued job stage'

end Life

/-! ## The sections of an invocation -/

section Work

variable {number thread : Nat} {invocation : Invocation Id}
variable {active accepted : Bool} {part : Part}

def sections (number : Nat) (stage : Option Part) : List (Action Id) :=
  (stage.map (.work number)).toList

/-- A section of the invocation's own takes it to the next stage. -/
structure Advances (number thread : Nat) (invocation : Invocation Id)
    (done : Invocation Id × List (Action Id)) (stage : Option Part) :
    Prop where
  emitted : done.2.filter (ofInvocation number) = sections number stage
  life : Life done.1 (some thread) stage
  returned : invocation.handler = .returned → done.1.handler = .returned
  waits : invocation.Waits → done.1.Barred stage
  acknowledged : .sendWorkerCleanupAck invocation.correlationID ∈ done.2 → done.1.Clean stage

theorem filter_work (number : Nat) (part : Part) (own : part ≠ .finishWorkerInvocation) :
    [(.work number part : Action Id)].filter (ofInvocation number) = sections number (some part) :=
  List.filter_cons_of_pos (decide_eq_true ⟨rfl, own⟩)

private theorem filter_settle (invocation : Invocation Id) (number : Nat) :
    (invocation.settle number).filter (ofInvocation number) = [] := by
  simp [Invocation.settle, ofInvocation]

theorem work_advances (life : Life invocation (some thread) (some part)) (number : Nat)
    (active accepted : Bool) :
    ∃ stage, Advances number thread invocation
      (invocation.work number thread active accepted part) stage := by
  cases life with
  | launching fresh job =>
    refine ⟨none, ?_⟩
    unfold Invocation.work
    cases accepted with
    | true =>
      exact ⟨rfl, .queued ⟨fresh.unstored, fresh.idle⟩ rfl, fun returned => returned,
        fun waits => ⟨fresh.idle, Or.inl waits⟩, by simp⟩
    | false =>
      exact ⟨by simp [ofInvocation, sections], .rejected ⟨fresh.unstored, fresh.idle⟩ rfl,
        fun returned => returned,
        fun waits => ⟨fresh.idle, Or.inl waits⟩,
        fun _ => Or.inr ⟨fresh.idle, Or.inr ⟨rfl, rfl⟩⟩⟩
  | storing fresh job =>
    -- the section that decides: a request is found, or the handler may start
    unfold Invocation.work
    have idle : (invocation.store thread).handler = .notStarted := fresh.idle
    cases requested : invocation.cancellationRequested with
    | true =>
      exact ⟨none, by simp [ofInvocation, sections],
        .running ⟨rfl, rfl⟩ (by simp [Invocation.Reached, idle]),
        fun returned => returned,
        fun _ => ⟨idle, Or.inr ⟨rfl, rfl⟩⟩,
        fun _ => Or.inr ⟨idle, Or.inr ⟨rfl, rfl⟩⟩⟩
    | false =>
      exact ⟨some .checkContext, filter_work number _ nofun,
        .running ⟨rfl, rfl⟩ idle, fun returned => returned,
        fun waits => (by cases requested.symm.trans waits.2), by simp⟩
  | running run reached =>
    have unwaiting (waits : invocation.Waits) : False := by
      cases run.stored.symm.trans waits.1
    have later (handler : Handler) : (invocation.setHandler handler).RunBy thread :=
      ⟨run.stored, run.job⟩
    unfold Invocation.work
    cases part with
    | launch | storeCancel | finishWorkerInvocation => cases reached
    | checkContext =>
      have idle : invocation.handler = .notStarted := reached
      dsimp only
      split
      · exact ⟨none, filter_settle _ _, .running run (by simp [Invocation.Reached, idle]),
          fun returned => returned, fun waits => (unwaiting waits).elim,
          fun _ => Or.inr ⟨idle, Or.inr ⟨rfl, by rw [run.job]; rfl⟩⟩⟩
      · exact ⟨some .callHandler, filter_work number _ nofun,
          .running run idle, fun returned => returned,
          fun waits => (unwaiting waits).elim, by simp⟩
    | callHandler =>
      have idle : invocation.handler = .notStarted := reached
      exact ⟨some .handlerReturn, filter_work number _ nofun, .running (later _) rfl,
        fun returned => (by cases idle.symm.trans returned),
        fun waits => (unwaiting waits).elim, by simp⟩
    | handlerReturn =>
      exact ⟨some .checkCancellation, filter_work number _ nofun,
        .running (later _) rfl, fun _ => rfl,
        fun waits => (unwaiting waits).elim, by simp⟩
    | checkCancellation =>
      have returned : invocation.handler = .returned := reached
      dsimp only
      split
      next found =>
        exact ⟨some .finishCanceled, filter_work number _ nofun,
          .running run ⟨returned, found.2⟩, fun _ => returned,
          fun waits => (unwaiting waits).elim, by simp⟩
      · exact ⟨none, filter_settle _ _, .running run (by simp [Invocation.Reached, returned]),
          fun _ => returned, fun waits => (unwaiting waits).elim,
          fun _ => Or.inl returned⟩
    | finishCanceled =>
      dsimp only
      exact ⟨none, by split <;> rfl, .running run (by simp [Invocation.Reached, reached.1]),
        fun _ => reached.1, fun waits => (unwaiting waits).elim,
        fun _ => Or.inl reached.1⟩

theorem correlationID_work : (invocation.work number thread active accepted part).1.correlationID =
      invocation.correlationID := by
  cases part with
  | launch =>
    unfold Invocation.work
    dsimp only
    split <;> rfl
  | _ => rfl

theorem mem_work {emitted : Action Id}
    (member : emitted ∈ (invocation.work number thread active accepted part).2) :
    (∃ part, emitted = .work number part) ∨ emitted = .sendTerminal invocation.correlationID ∨
      emitted = .sendWorkerCleanupAck invocation.correlationID := by
  cases part <;> grind [Invocation.work, Invocation.settle]

end Work

/-! ## The active invocations -/

section Active

variable [DecidableEq Id]
variable {client next : Client Id} {thread number : Nat}
variable {action : Action Id} {choice : Choice} {more : List (Action Id)}
variable {invocation : Invocation Id}
variable {operation : Operation Id} {program : List (Action Id)}

/-- An active invocation is under its own correlation id, which no other
invocation has. -/
structure Sound (client : Client Id) : Prop where
  named : ∀ {id number}, client.activeInvocations.lookup id = some number →
    client.ids[number]? = some id
  distinct : client.ids.Nodup

variable {id : Id}

theorem Sound.unique (sound : Sound client) {first second : Nat}
    (one : client.ids[first]? = some id)
    (other : client.ids[second]? = some id) : first = second := by
  obtain ⟨bound, -⟩ := List.getElem?_eq_some_iff.mp one
  exact (List.getElem?_inj bound sound.distinct).mp (one.trans other.symm)

structure Change (client next : Client Id) (action : Action Id) : Prop where
  active : ∀ {id number}, next.activeInvocations.lookup id = some number →
    client.activeInvocations.lookup id = some number ∨
    action = .activate id ∧ number = client.ids.length
  ids : next.ids = client.ids ∧ (∀ id, action ≠ .activate id) ∨
    ∃ id, action = .activate id ∧ id ∉ client.ids ∧ next.ids = client.ids ++ [id]

theorem perform_activate
    (performed : perform client thread (.activate id) choice = some (next, more)) :
    id ∉ client.ids ∧ next.activeInvocations =
      client.activeInvocations.insert id client.invocations.length ∧
      next.invocations = client.invocations ++ [newInvocation id] ∧
      more = [.work client.invocations.length .launch] := by
  simp only [perform] at performed
  split at performed
  · cases performed
  next fresh =>
    cases performed
    exact ⟨fresh, rfl, rfl, rfl⟩

theorem perform_work {part : Part}
    (performed : perform client thread (.work number part) choice = some (next, more)) :
    ∃ invocation, client.invocations[number]? = some invocation ∧
      client.work invocation number thread choice.accepted part = (next, more) :=
  Option.map_eq_some_iff.mp performed

theorem perform_change (performed : perform client thread action choice = some (next, more)) :
    Change client next action := by
  -- a section that only forgets active invocations
  have fewer {next : Client Id} (new : ∀ id, action ≠ .activate id) (active : ∀ {id number},
        next.activeInvocations.lookup id = some number →
          client.activeInvocations.lookup id = some number)
      (ids : next.ids = client.ids) : Change client next action :=
    ⟨fun found => Or.inl (active found), Or.inl ⟨ids, new⟩⟩
  cases action with
  | activate id =>
    obtain ⟨fresh, active, grown, -⟩ := perform_activate performed
    have length : client.ids.length = client.invocations.length := List.length_map _
    refine ⟨fun found => ?_, Or.inr ⟨id, rfl, fresh, ?_⟩⟩
    · rw [active, Table.lookup_insert_eq_some_iff, ← length] at found
      rcases found with ⟨rfl, rfl⟩ | ⟨-, before⟩
      · exact Or.inr ⟨rfl, rfl⟩
      · exact Or.inl before
    · rw [Client.ids, grown]
      exact List.map_append
  | work number part =>
    obtain ⟨invocation, present, done⟩ := perform_work performed
    cases done
    refine fewer nofun (fun found => ?_) (client.ids_adjust fun own there => ?_)
    · dsimp only [Client.work] at found
      split at found
      · exact (Table.lookup_erase_eq_some_iff.mp found).2
      · exact found
    · cases List.mem_singleton.mp own
      cases present.symm.trans there
      exact correlationID_work
  | sendTerminal id | sendWorkerCleanupAck id =>
    cases performed
    exact fewer nofun (fun found => by split at found <;> exact found) (by split <;> rfl)
  | cancelNotice id =>
    simp only [perform, Client.cancelNotice] at performed
    split at performed
    · cases performed
      exact fewer nofun (fun found => found) rfl
    · split at performed
      · cases performed
        exact fewer nofun (fun found => found) (client.ids_adjust fun _ _ => rfl)
      · cases performed
        exact fewer nofun (fun found => (Table.lookup_erase_eq_some_iff.mp found).2)
          (client.ids_adjust fun _ _ => rfl)
  | cancel number =>
    cases performed
    exact fewer nofun (fun found => found) (client.ids_adjust fun _ _ => rfl)
  | closePendingRPCs =>
    simp only [perform, Client.closePendingRPCs] at performed
    split at performed
    · cases performed
      refine fewer nofun (fun found => ?_) (client.ids_adjust fun _ _ => rfl)
      rw [AList.lookup_empty] at found
      cases found
    · cases performed

section

variable (change : Change client next action)
include change

theorem Change.ids_getElem?
    (named : client.ids[number]? = some id) : next.ids[number]? = some id := by
  rcases change.ids with ⟨ids, -⟩ | ⟨other, -, -, ids⟩
  · rw [ids]
    exact named
  · obtain ⟨bound, -⟩ := List.getElem?_eq_some_iff.mp named
    rw [ids, List.getElem?_append_left bound]
    exact named

theorem Change.mem_ids (known : id ∈ client.ids) : id ∈ next.ids := by
  obtain ⟨number, named⟩ := List.mem_iff_getElem?.mp known
  exact List.mem_of_getElem? (change.ids_getElem? named)

theorem Change.unborn
    (unborn : next.invocations[number]? = none) : client.invocations[number]? = none := by
  cases present : client.invocations[number]? with
  | none => rfl
  | some invocation =>
    have named := change.ids_getElem? (Client.ids_getElem? present)
    rw [Client.ids_eq_none_iff.mpr unborn] at named
    cases named

theorem Change.sound (sound : Sound client) : Sound next := by
  constructor
  · intro id number found
    rcases change.active found with before | ⟨rfl, rfl⟩
    · exact change.ids_getElem? (sound.named before)
    · rcases change.ids with ⟨-, other⟩ | ⟨other, same, -, ids⟩
      · exact absurd rfl (other id)
      · cases same
        rw [ids]
        exact List.getElem?_concat_length
  · rcases change.ids with ⟨ids, -⟩ | ⟨other, -, fresh, ids⟩
    · rw [ids]
      exact sound.distinct
    · rw [ids]
      refine List.nodup_append.mpr ⟨sound.distinct, List.nodup_singleton other, ?_⟩
      rintro first member _ last rfl
      exact fresh (List.mem_singleton.mp last ▸ member)

theorem Change.inactive (named : client.ids[number]? = some id)
    (inactive : client.activeInvocations.lookup id ≠ some number) :
    next.activeInvocations.lookup id ≠ some number := by
  intro found
  rcases change.active found with before | ⟨rfl, rfl⟩
  · exact inactive before
  · rw [List.getElem?_eq_none (Nat.le_refl _)] at named
    cases named

end

omit [DecidableEq Id] in
theorem start_keeps (started : start client operation = some (next, program)) :
    next.activeInvocations = client.activeInvocations ∧
      next.ids = client.ids ∧ next.written = client.written := by
  cases operation with
  | request id | connectionLost =>
    cases started
    exact ⟨rfl, rfl, rfl⟩
  | takeJob number | dropJob number =>
    simp only [start] at started
    split at started
    · cases started
    · split at started
      · cases started
        exact ⟨rfl, client.ids_adjust fun _ _ => rfl, rfl⟩
      · cases started
  | timeOut number | expireBudget number =>
    cases started
    exact ⟨rfl, client.ids_adjust fun _ _ => rfl, rfl⟩
  | lifecycle kind id value =>
    simp only [start] at started
    split at started <;> cases started <;> exact ⟨rfl, rfl, rfl⟩

end Active

/-! ## What a section does to an invocation -/

section Sections

variable [DecidableEq Id]
variable {client next : Client Id} {thread number : Nat}
variable {action : Action Id} {choice : Choice} {more : List (Action Id)}
variable {invocation : Invocation Id} {stage : Option Part}
variable {operation : Operation Id} {program : List (Action Id)}

omit [DecidableEq Id] in
theorem Client.touched_adjust (present : client.invocations[number]? = some invocation)
    (which : List Nat) {change : Invocation Id → Invocation Id}
    (touches : ∀ invocation, Touched invocation (change invocation)) :
    ∃ changed, (client.adjust which change).invocations[number]? = some changed ∧
      Touched invocation changed := by
  rw [Client.invocations_adjust, present]
  refine ⟨_, rfl, ?_⟩
  split
  · exact touches invocation
  · exact Touched.refl invocation

theorem perform_emits (sound : Sound client)
    (performed : perform client thread action choice = some (next, more))
    {emitted : Action Id} (member : emitted ∈ more) :
    (∀ {number}, ofInvocation number emitted = true → (∃ part, action = .work number part) ∨
      ∃ id, action = .activate id ∧ number = client.invocations.length) ∧
      ∀ {id}, emitted = .sendWorkerCleanupAck id → id ∈ client.ids := by
  cases action with
  | activate id =>
    obtain ⟨-, -, -, rfl⟩ := perform_activate performed
    cases List.mem_singleton.mp member
    exact ⟨fun mine => Or.inr ⟨id, rfl, (of_decide_eq_true mine).1.symm⟩, nofun⟩
  | work other part =>
    obtain ⟨invocation, present, done⟩ := perform_work performed
    cases done
    rcases mem_work member with ⟨later, rfl⟩ | rfl | rfl
    · refine ⟨fun mine => Or.inl ⟨part, ?_⟩, nofun⟩
      rw [(of_decide_eq_true mine).1]
    · exact ⟨nofun, nofun⟩
    · refine ⟨nofun, ?_⟩
      rintro id same
      cases same
      exact List.mem_of_getElem? (Client.ids_getElem? present)
  | sendTerminal id | sendWorkerCleanupAck id | cancel other =>
    cases performed
    cases member
  | cancelNotice id =>
    simp only [perform, Client.cancelNotice] at performed
    split at performed
    · cases performed
      cases member
    next active =>
      split at performed <;> cases performed <;> cases List.mem_singleton.mp member
      · exact ⟨nofun, nofun⟩
      · refine ⟨nofun, ?_⟩
        rintro _ same
        cases same
        exact List.mem_of_getElem? (sound.named active)
  | closePendingRPCs =>
    simp only [perform, Client.closePendingRPCs] at performed
    split at performed
    · cases performed
      obtain ⟨other, -, rfl⟩ := List.mem_map.mp member
      exact ⟨nofun, nofun⟩
    · cases performed

theorem perform_silent (sound : Sound client)
    (performed : perform client thread action choice = some (next, more))
    (other : ∀ part, action ≠ .work number part)
    (born : ∀ id, action = .activate id → number ≠ client.invocations.length) :
    more.filter (ofInvocation number) = [] := by
  refine List.filter_eq_nil_iff.mpr fun emitted member mine => ?_
  rcases (perform_emits sound performed member).1 mine with
    ⟨part, same⟩ | ⟨id, activates, new⟩
  · exact other part same
  · exact born id activates new

theorem perform_passes (sound : Sound client)
    (present : client.invocations[number]? = some invocation)
    (other : ∀ part, action ≠ .work number part)
    (performed : perform client thread action choice = some (next, more)) :
    ∃ changed, next.invocations[number]? = some changed ∧ Touched invocation changed ∧
      (.sendWorkerCleanupAck invocation.correlationID ∈ more → changed.Waits) := by
  cases action with
  | activate id =>
    obtain ⟨-, -, grown, rfl⟩ := perform_activate performed
    obtain ⟨bound, -⟩ := List.getElem?_eq_some_iff.mp present
    refine ⟨invocation, ?_, .refl invocation, by simp⟩
    rw [grown, List.getElem?_append_left bound]
    exact present
  | work another part =>
    have different : number ≠ another := by
      rintro rfl
      exact other part rfl
    obtain ⟨worked, there, done⟩ := perform_work performed
    cases done
    refine ⟨invocation, ?_, .refl invocation, fun member => ?_⟩
    · exact (client.invocations_adjust_of_ne different _).trans present
    · rcases mem_work member with ⟨later, same⟩ | same | same
      · cases same
      · cases same
      · have id := (Action.sendWorkerCleanupAck.inj same).symm
        refine absurd (sound.unique (Client.ids_getElem? present) ?_) different
        rw [← id]
        exact Client.ids_getElem? there
  | sendTerminal id | sendWorkerCleanupAck id =>
    cases performed
    refine ⟨invocation, ?_, .refl invocation, by simp⟩
    split <;> exact present
  | cancelNotice id =>
    simp only [perform, Client.cancelNotice] at performed
    split at performed
    · cases performed
      exact ⟨invocation, present, .refl invocation, by simp⟩
    next another active =>
      obtain ⟨changed, there, touched⟩ := Client.touched_adjust present [another] Touched.request
      split at performed
      · cases performed
        exact ⟨changed, there, touched, by simp⟩
      next unstored =>
        cases performed
        refine ⟨changed, there, touched, fun sent => ?_⟩
        have same : invocation.correlationID = id := by simpa using sent
        have own : another = number :=
          sound.unique (sound.named active) (same ▸ Client.ids_getElem? present)
        subst own
        rw [Client.invocations_adjust_self present] at there
        cases there
        refine ⟨?_, rfl⟩
        rw [present] at unstored
        simpa [Invocation.requestCancellation] using unstored
  | cancel another =>
    cases performed
    obtain ⟨changed, there, touched⟩ := Client.touched_adjust present [another] Touched.cancel
    exact ⟨changed, there, touched, by simp⟩
  | closePendingRPCs =>
    simp only [perform, Client.closePendingRPCs] at performed
    split at performed
    · cases performed
      obtain ⟨changed, there, touched⟩ :=
        Client.touched_adjust present (Table.values client.activeInvocations) Touched.request
      exact ⟨changed, there, touched, by simp⟩
    · cases performed

/-- What an operation does to an invocation: the pool takes or drops its job,
or it is only touched. -/
inductive Begins (operation : Operation Id) (next : Client Id) (number : Nat)
    (invocation : Invocation Id) : List (Action Id) → Prop
  | takes (queued : invocation.job = .queued) (present : next.invocations[number]? =
        some (invocation.setJob .taken)) :
      Begins operation next number invocation (sections number (some .storeCancel))
  | drops (dropped : operation = .dropJob number) (queued : invocation.job = .queued)
      (present : next.invocations[number]? = some (invocation.setJob .dropped)) :
      Begins operation next number invocation []
  | touches {program : List (Action Id)} {changed : Invocation Id}
      (present : next.invocations[number]? = some changed)
      (touched : Touched invocation changed)
      (silent : program.filter (ofInvocation number) = []) :
      Begins operation next number invocation program

omit [DecidableEq Id] in
theorem start_begins (present : client.invocations[number]? = some invocation)
    (started : start client operation = some (next, program)) :
    Begins operation next number invocation program := by
  have touches {which : Nat} {change : Invocation Id → Invocation Id}
      (touched : ∀ invocation, Touched invocation (change invocation)) :
      Begins operation (client.adjust [which] change) number invocation [] := by
    obtain ⟨changed, there, touched⟩ := Client.touched_adjust present [which] touched
    exact .touches there touched rfl
  cases operation with
  | request id | connectionLost =>
    cases started
    exact .touches present (.refl invocation) rfl
  | takeJob another =>
    simp only [start] at started
    split at started
    · cases started
    next there =>
      split at started
      next queued =>
        cases started
        by_cases same : number = another
        · subst same
          cases present.symm.trans there
          exact .takes queued (Client.invocations_adjust_self present _)
        · refine .touches ((client.invocations_adjust_of_ne same _).trans present)
            (.refl invocation) (List.filter_cons_of_neg ?_)
          exact fun mine => same (of_decide_eq_true mine).1.symm
      · cases started
  | dropJob another =>
    simp only [start] at started
    split at started
    · cases started
    next there =>
      split at started
      next expired =>
        cases started
        by_cases same : number = another
        · subst same
          cases present.symm.trans there
          exact .drops rfl expired.1 (Client.invocations_adjust_self present _)
        · exact .touches ((client.invocations_adjust_of_ne same _).trans present)
            (.refl invocation) rfl
      · cases started
  | timeOut another | expireBudget another =>
    cases started
    exact touches fun _ => ⟨rfl, rfl, rfl, rfl, fun requested => requested⟩
  | lifecycle kind id value =>
    simp only [start] at started
    split at started <;> cases started <;> exact .touches present (.refl invocation) rfl

omit [DecidableEq Id] in
theorem start_program (started : start client operation = some (next, program))
    {first : Action Id} (member : first ∈ program) :
    (∀ {number}, ofInvocation number first = true → client.invocations[number]? ≠ none) ∧
      ∀ id, first ≠ .sendWorkerCleanupAck id := by
  cases operation with
  | request id | connectionLost =>
    cases started
    cases List.mem_singleton.mp member
    exact ⟨nofun, nofun⟩
  | takeJob another =>
    simp only [start] at started
    split at started
    · cases started
    next there =>
      split at started <;> cases started
      cases List.mem_singleton.mp member
      refine ⟨fun mine absent => ?_, nofun⟩
      cases (of_decide_eq_true mine).1
      cases there.symm.trans absent
  | dropJob another =>
    simp only [start] at started
    split at started
    · cases started
    · split at started <;> cases started
      cases member
  | timeOut another | expireBudget another =>
    cases started
    cases member
  | lifecycle kind id value =>
    simp only [start] at started
    split at started <;> cases started
    · cases List.mem_singleton.mp member
      exact ⟨nofun, nofun⟩
    · cases member

theorem Client.written_cancelNotice (client : Client Id) (id : Id) :
    (client.cancelNotice id).1.written = client.written := by
  unfold Client.cancelNotice
  split
  · rfl
  · dsimp only
    split <;> rfl

theorem perform_writes (performed : perform client thread action choice = some (next, more)) :
    next.written = client.written ∨ (∃ id, action = .sendTerminal id ∧
      next.written = client.written ++ [.terminalResponse id]) ∨
      ∃ id, action = .sendWorkerCleanupAck id ∧
      next.written = client.written ++ [.cleanupAck id] := by
  cases action with
  | work number part =>
    obtain ⟨invocation, -, done⟩ := perform_work performed
    cases done
    exact Or.inl rfl
  | sendTerminal id =>
    cases performed
    split
    · exact Or.inr (Or.inl ⟨id, rfl, rfl⟩)
    · exact Or.inl rfl
  | sendWorkerCleanupAck id =>
    cases performed
    split
    · exact Or.inr (Or.inr ⟨id, rfl, rfl⟩)
    · exact Or.inl rfl
  | cancelNotice id =>
    have same := client.written_cancelNotice id
    simp only [perform] at performed
    rw [Option.some.inj performed] at same
    exact Or.inl same
  | cancel number =>
    cases performed
    exact Or.inl rfl
  | activate | closePendingRPCs =>
    simp only [perform, Client.closePendingRPCs] at performed
    split at performed <;> cases performed
    exact Or.inl rfl

end Sections

end FitzGo.Domains.RpcInvocations
