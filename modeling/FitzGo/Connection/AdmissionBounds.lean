import FitzGo.Connection.Admission

/-!
# Slots and queues stay within their bounds
-/

namespace FitzGo.Connection.Admission

open StepMachine Counting Handshake

def State.number (state : State) (phases : Phase → Bool) (kind : Kind) : Nat :=
  tally (Operation.Is phases kind) state.operations state.issued

structure Admits (config : Config) (state : State) : Prop where
  slots : ∀ kind, state.number Phase.occupies kind ≤
    min config.maxInFlight state.session.maxInFlight
  waiting : ∀ kind, state.number Phase.waits kind ≤ config.maxQueueSize
  releases : ∀ index kind chan, state.operations index = ⟨kind, .holding chan⟩ →
    state.field kind = chan ∧ 0 < (state.semaphores chan).length
  nothingLeft : (∀ index < state.issued, (state.operations index).phase = .returned) →
    ∀ kind, (state.semaphore kind).length = 0 ∧ state.queuedCount kind = 0

/-! ## The invariant -/

structure Negotiated (config : Config) (state : State) : Prop where
  once : state.session.serverHello = true → state.loop = .running →
    state.session.protocolVersion ≠ 0
  started : state.started = true → state.session.serverHello = true
  before : state.started = false → state.issued = 0
  slots : state.session.slots =
      if state.session.serverHello then min config.maxInFlight state.session.maxInFlight
      else config.maxInFlight

structure Accounted (config : Config) (state : State) : Prop where
  apart : state.field .request ≠ state.field .oneWay
  made : ∀ kind, state.field kind < state.created
  capacity : ∀ kind, (state.semaphore kind).capacity = state.session.slots
  within : ∀ kind, (state.semaphore kind).length ≤ (state.semaphore kind).capacity
  own : ∀ index chan, (state.operations index).phase.chan? = some chan →
    state.field (state.operations index).kind = chan
  unused : ∀ index, state.issued ≤ index → (state.operations index).phase = .idle
  tokens : ∀ kind, (state.semaphore kind).length = state.number Phase.occupies kind
  counter : ∀ kind, state.queuedCount kind = (state.number Phase.counted kind : Int)
  bounded : ∀ kind, state.number Phase.queued kind ≤ config.maxQueueSize

structure Inv (config : Config) (state : State) : Prop where
  negotiated : Negotiated config state
  accounted : Accounted config state

/-! ## Counting one operation -/

section Counts

variable {state : State} (phases : Phase → Bool) {kind : Kind}

private theorem weight_is (phase : Phase) :
    weight (Operation.Is phases kind) ⟨kind, phase⟩ = (phases phase).toNat := by
  cases holds : phases phase with
  | false => exact if_neg fun is => Bool.eq_false_iff.mp holds is.2
  | true => exact if_pos ⟨rfl, holds⟩

private theorem weight_other {other : Kind} (different : other ≠ kind) (phase : Phase) :
    weight (Operation.Is phases kind) ⟨other, phase⟩ = 0 :=
  if_neg fun is => different is.1

private theorem number_setPhase {index : Nat} {old : Phase} (new : Phase)
    (issued : index < state.issued) (present : state.operations index = ⟨kind, old⟩) :
    (state.setPhase index kind new).number phases kind + (phases old).toNat =
      state.number phases kind + (phases new).toNat := by
  have moved := tally_update (Operation.Is phases kind) state.operations issued ⟨kind, new⟩
  rw [present, weight_is, weight_is] at moved
  exact moved

private theorem number_setPhase_other {index : Nat} {old : Phase} {other : Kind} (new : Phase)
    (different : other ≠ kind) (issued : index < state.issued)
    (present : state.operations index = ⟨other, old⟩) :
    (state.setPhase index other new).number phases kind = state.number phases kind := by
  have moved := tally_update (Operation.Is phases kind) state.operations issued ⟨other, new⟩
  rw [present, weight_other phases different, weight_other phases different] at moved
  exact moved

end Counts

theorem initial_inv (config : Config) (frameSizeLimit : Nat) :
    Inv config (initial config frameSizeLimit) where
  negotiated :=
    { once := fun impossible => nomatch impossible
      started := fun impossible => nomatch impossible
      before := fun _ => rfl
      slots := rfl }
  accounted :=
    { apart := Nat.zero_ne_one
      made := fun
        | .request => Nat.zero_lt_two
        | .oneWay => Nat.one_lt_two
      capacity := fun _ => rfl
      within := fun _ => Nat.zero_le _
      own := fun _ _ impossible => nomatch impossible
      unused := fun _ _ => rfl
      tokens := fun _ => rfl
      counter := fun _ => rfl
      bounded := fun _ => Nat.zero_le _ }

/-! ## Steps of the operations -/

section Steps

variable {config : Config} {state : State} {index : Nat} {kind : Kind} {old : Phase}

section

variable (accounted : Accounted config state)
include accounted

section

variable (present : state.operations index = ⟨kind, old⟩)
include present

section

variable (active : old ≠ .idle)
include active

theorem Accounted.issued_of_phase : index < state.issued := by
  by_contra beyond
  have idle := accounted.unused index (not_lt.mp beyond)
  rw [present] at idle
  exact active idle

variable {new : Phase}

/-- The rule for the steps of one operation. Its semaphore and its queue
counter follow what the phase says about them, and it enters the queue only
within the bound. -/
theorem Accounted.move {final : State} (session : final.session = state.session)
    (field : final.field = state.field) (created : final.created = state.created)
    (issued : final.issued = state.issued)
    (operations : final.operations = (state.setPhase index kind new).operations)
    (otherSemaphores : ∀ other ≠ kind, final.semaphore other = state.semaphore other)
    (capacity : (final.semaphore kind).capacity = (state.semaphore kind).capacity)
    (length : (final.semaphore kind).length + old.occupies.toNat =
      (state.semaphore kind).length + new.occupies.toNat)
    (within : (final.semaphore kind).length ≤ (state.semaphore kind).capacity)
    (otherCounters : ∀ other ≠ kind, final.queuedCount other = state.queuedCount other)
    (counter : final.queuedCount kind + old.counted.toNat =
      state.queuedCount kind + new.counted.toNat)
    (own : ∀ chan, new.chan? = some chan → state.field kind = chan)
    (enters : new.queued = true → old.queued = true ∨
      final.queuedCount kind ≤ (config.maxQueueSize : Int)) : Accounted config final := by
  have below := accounted.issued_of_phase present active
  have numbers (phases : Phase → Bool) (other : Kind) :
      final.number phases other = (state.setPhase index kind new).number phases other := by
    unfold State.number
    rw [operations, issued]
    rfl
  have moved (phases : Phase → Bool) := number_setPhase phases new below present
  have stays (phases : Phase → Bool) {other : Kind} (different : other ≠ kind) :=
    number_setPhase_other phases new different.symm below present
  refine
    { apart := field ▸ accounted.apart
      made := ?_, capacity := ?_, within := ?_, own := ?_, unused := ?_
      tokens := ?_, counter := ?_, bounded := ?_ }
  · rw [field, created]
    exact accounted.made
  · intro other
    rw [session]
    by_cases same : other = kind
    · subst same
      rw [capacity, accounted.capacity]
    · rw [otherSemaphores other same, accounted.capacity]
  · intro other
    by_cases same : other = kind
    · subst same
      rw [capacity]
      exact within
    · rw [otherSemaphores other same]
      exact accounted.within other
  · intro other chan
    rw [operations, field]
    by_cases same : other = index
    · subst same
      simp only [State.setPhase, Function.update_self]
      exact own chan
    · simp only [State.setPhase, Function.update_of_ne same]
      exact accounted.own other chan
  · intro other beyond
    rw [issued] at beyond
    have different : other ≠ index := by omega
    rw [operations]
    simp only [State.setPhase, Function.update_of_ne different]
    exact accounted.unused other beyond
  · intro other
    rw [numbers]
    by_cases same : other = kind
    · subst same
      have tokens := accounted.tokens other
      have change := moved Phase.occupies
      omega
    · rw [otherSemaphores other same, stays _ same]
      exact accounted.tokens other
  · intro other
    rw [numbers]
    by_cases same : other = kind
    · subst same
      have count := accounted.counter other
      have change := moved Phase.counted
      omega
    · rw [otherCounters other same, stays _ same]
      exact accounted.counter other
  · intro other
    rw [numbers]
    by_cases same : other = kind
    · subst same
      have count := accounted.counter other
      have bounded := accounted.bounded other
      have change := moved Phase.queued
      have counts := moved Phase.counted
      have fewer : (state.setPhase index other new).number Phase.queued other ≤
            (state.setPhase index other new).number Phase.counted other := by
        refine tally_mono _ ?_ _ _
        rintro ⟨entryKind, phase⟩ ⟨isKind, isQueued⟩
        refine ⟨isKind, ?_⟩
        cases phase <;> first | rfl | exact isQueued
      cases queued : new.queued with
      | false =>
        rw [queued] at change
        simp only [Bool.toNat_false] at change
        omega
      | true =>
        rcases enters queued with wasQueued | room
        · rw [queued, wasQueued] at change
          omega
        · omega
    · rw [stays _ same]
      exact accounted.bounded other

theorem Accounted.setPhase (occupies : new.occupies = old.occupies)
    (counted : new.counted = old.counted) (queued : new.queued = true → old.queued = true)
    (own : ∀ chan, new.chan? = some chan → state.field kind = chan) :
    Accounted config (state.setPhase index kind new) := by
  refine accounted.move present active rfl rfl rfl rfl rfl (fun _ _ => rfl) rfl
      ?_ (accounted.within kind) (fun _ _ => rfl) ?_ own
      fun isQueued => Or.inl (queued isQueued)
  · rw [occupies]
    rfl
  · rw [counted]
    rfl

theorem Accounted.setLength {length : Nat}
    (tokens : length + old.occupies.toNat = (state.semaphore kind).length + new.occupies.toNat)
    (within : length ≤ (state.semaphore kind).capacity)
    (counted : new.counted = old.counted) (queued : new.queued = true → old.queued = true)
    (own : ∀ chan, new.chan? = some chan → state.field kind = chan) :
    Accounted config ((state.setPhase index kind new).setLength (state.field kind) length) := by
  have updated :
      ((state.setPhase index kind new).setLength (state.field kind) length).semaphore kind =
        { state.semaphore kind with length } :=
    Function.update_self _ _ _
  refine accounted.move present active rfl rfl rfl rfl rfl ?_ ?_ ?_ ?_
      (fun _ _ => rfl) ?_ own fun isQueued => Or.inl (queued isQueued)
  · intro other different
    have apart : state.field other ≠ state.field kind := by
      cases other <;> cases kind <;> first
        | contradiction
        | exact accounted.apart
        | exact accounted.apart.symm
    exact Function.update_of_ne apart _ _
  · rw [updated]
  · rw [updated]
    exact tokens
  · rw [updated]
    exact within
  · rw [counted]
    rfl

theorem Accounted.setQueued {queued : Int} (occupies : new.occupies = old.occupies)
    (counter : queued + old.counted.toNat = state.queuedCount kind + new.counted.toNat)
    (own : ∀ chan, new.chan? = some chan → state.field kind = chan)
    (enters : new.queued = true → old.queued = true ∨ queued ≤ (config.maxQueueSize : Int)) :
    Accounted config ((state.setPhase index kind new).setQueued kind queued) := by
  have updated :
      ((state.setPhase index kind new).setQueued kind queued).queuedCount kind = queued :=
    Function.update_self _ _ _
  refine accounted.move present active rfl rfl rfl rfl rfl (fun _ _ => rfl) rfl
      ?_ (accounted.within kind) ?_ ?_ own ?_
  · rw [occupies]
    rfl
  · intro other different
    exact Function.update_of_ne different _ _
  · rw [updated]
    exact counter
  · rw [updated]
    exact enters

end

theorem Accounted.field_of_chan {chan : Nat} (has : old.chan? = some chan) :
    state.field kind = chan := by
  have own := accounted.own index chan
  rw [present] at own
  exact own has

end

theorem Accounted.issue : Accounted config (next config state (.issue kind)) := by
  have numbers (phases : Phase → Bool) (notCounted : phases .admitting = false) (other : Kind) :
      (next config state (.issue kind)).number phases other = state.number phases other := by
    have added :=
      tally_update_size (Operation.Is phases other) state.operations state.issued ⟨kind, .admitting⟩
    have nothing : weight (Operation.Is phases other) ⟨kind, .admitting⟩ = 0 :=
      if_neg fun is => Bool.eq_false_iff.mp notCounted is.2
    rw [nothing] at added
    exact added
  refine { accounted with own := ?_, unused := ?_, tokens := ?_, counter := ?_, bounded := ?_ }
  · intro other chan
    simp only [next]
    by_cases same : other = state.issued
    · rw [same, Function.update_self]
      exact fun impossible => nomatch impossible
    · rw [Function.update_of_ne same]
      exact accounted.own other chan
  · intro other beyond
    have later : state.issued + 1 ≤ other := beyond
    have different : other ≠ state.issued := by omega
    simp only [next]
    rw [Function.update_of_ne different]
    exact accounted.unused other (by omega)
  · intro other
    rw [numbers _ rfl]
    exact accounted.tokens other
  · intro other
    rw [numbers _ rfl]
    exact accounted.counter other
  · intro other
    rw [numbers _ rfl]
    exact accounted.bounded other

theorem Accounted.withSession {session : Session} (slots : session.slots = state.session.slots)
    (loop : Loop) (started : Bool) : Accounted config { state with session, loop, started } :=
  { accounted with
    capacity other := (accounted.capacity other).trans slots.symm }

end

private theorem created_le_newField (state : State) (kind : Kind) :
    state.created ≤ state.newField kind ∧ state.newField kind < state.created + 2 := by
  cases kind <;> simp only [State.newField] <;> omega

theorem Accounted.negotiate (accounted : Accounted config state) (unissued : state.issued = 0)
    (session : Session) : Accounted config (state.negotiate session) := by
  by_cases slots : session.slots = state.session.slots
  · rw [State.negotiate, if_pos slots]
    exact accounted.withSession slots state.loop state.started
  · rw [State.negotiate, if_neg slots]
    have idle (other : Nat) : (state.operations other).phase = .idle :=
      accounted.unused other (by omega)
    have fresh (other : Kind) :
        (if state.created ≤ state.newField other then (⟨session.slots, 0⟩ : Semaphore)
        else
          state.semaphores (state.newField other)) =
          ⟨session.slots, 0⟩ :=
      if_pos (created_le_newField state other).1
    have absent (phases : Phase → Bool) (other : Kind) :
        tally (Operation.Is phases other) state.operations state.issued = 0 := by
      rw [unissued]
      rfl
    exact { accounted with
        apart := Nat.ne_of_lt (Nat.lt_succ_self _)
        made := fun other => (created_le_newField state other).2
        capacity := fun other => congrArg Semaphore.capacity (fresh other)
        within := fun other => (congrArg Semaphore.length (fresh other)).le.trans (Nat.zero_le _)
        own := fun other chan has => by
          rw [idle other] at has
          contradiction
        tokens := fun other =>
          (congrArg Semaphore.length (fresh other)).trans (absent _ other).symm }

end Steps

/-! ## Steps of the handshake -/

section Frames

variable {config : Config} {state : State}

section

variable {session : Session} {loop : Loop} (inv : Inv config state)
  (slots : session.slots = state.session.slots)
  (maxInFlight : session.maxInFlight = state.session.maxInFlight)
  (serverHello : session.serverHello = state.session.serverHello)
include inv slots maxInFlight serverHello

theorem Inv.withSession
    (protocolVersion : session.protocolVersion = state.session.protocolVersion) :
    Inv config { state with session } := by
  refine ⟨⟨?_, ?_, inv.negotiated.before, ?_⟩,
    inv.accounted.withSession slots state.loop state.started⟩
  · rw [serverHello, protocolVersion]
    exact inv.negotiated.once
  · rw [serverHello]
    exact inv.negotiated.started
  · rw [slots, serverHello, maxInFlight]
    exact inv.negotiated.slots

theorem Inv.negotiate (protocolVersion : session.protocolVersion = state.session.protocolVersion) :
    Inv config (state.negotiate session) := by
  rw [State.negotiate, if_pos slots]
  exact inv.withSession slots maxInFlight serverHello protocolVersion

theorem Inv.stops (stopped : loop ≠ .running) : Inv config { state with session, loop } := by
  refine ⟨⟨fun _ running => absurd running stopped, ?_, inv.negotiated.before,
      ?_⟩, inv.accounted.withSession slots loop state.started⟩
  · rw [serverHello]
    exact inv.negotiated.started
  · rw [slots, serverHello, maxInFlight]
    exact inv.negotiated.slots

end

theorem Inv.hello (inv : Inv config state) (running : state.loop = .running)
    {data : Bytes} {hello : Hello} (ids : List Nat)
    (wellFormed : WellFormedHello data hello) (first : state.session.protocolVersion = 0) :
    Inv config (state.negotiate (state.session.acceptHello config.maxMessageBytes hello ids)) := by
  have unseen : state.session.serverHello = false := by
    by_contra seen
    exact inv.negotiated.once (Bool.eq_true_of_not_eq_false seen) running first
  have notStarted : state.started = false := by
    by_contra started
    have seen := inv.negotiated.started (Bool.eq_true_of_not_eq_false started)
    rw [unseen] at seen
    contradiction
  have unissued := inv.negotiated.before notStarted
  have slots := inv.negotiated.slots
  rw [unseen] at slots
  have kept (session : Session) : (state.negotiate session).session = session ∧
        (state.negotiate session).started = state.started ∧
        (state.negotiate session).issued = state.issued := by
    unfold State.negotiate
    split <;> exact ⟨rfl, rfl, rfl⟩
  obtain ⟨sameSession, sameStarted, sameIssued⟩ :=
    kept (state.session.acceptHello config.maxMessageBytes hello ids)
  refine ⟨⟨?_, ?_, ?_, ?_⟩, inv.accounted.negotiate unissued _⟩
  · intro _ _
    rw [sameSession]
    change hello.version ≠ 0
    rw [wellFormed.version]
    decide
  · intro _
    rw [sameSession]
    rfl
  · intro _
    rw [sameIssued]
    exact unissued
  · rw [sameSession]
    change (if hello.maxInFlight < state.session.slots then hello.maxInFlight
        else state.session.slots) =
        min config.maxInFlight hello.maxInFlight
    rw [slots]
    simp only [Bool.false_eq_true, if_false]
    split <;> omega

theorem frame_inv (inv : Inv config state) {data : Bytes}
    (running : state.loop = .running) : Inv config (next config state (.frame data)) := by
  simp only [next]
  split
  · exact inv.stops rfl rfl rfl Loop.noConfusion
  · rename_i session response dispatched
    cases dispatched_of_ok dispatched with
    | hello ids wellFormed first => exact inv.hello running ids wellFormed first
    | goAway | phase | push | final => exact inv.negotiate rfl rfl rfl rfl

end Frames

variable {config : Config}

theorem Inv.operates {state final : State} (inv : Inv config state)
    (session : final.session = state.session) (loop : final.loop = state.loop)
    (started : final.started = state.started) (issued : final.issued = state.issued)
    (accounted : Accounted config final) : Inv config final := by
  refine ⟨⟨?_, ?_, ?_, ?_⟩, accounted⟩
  · rw [session, loop]
    exact inv.negotiated.once
  · rw [session, started]
    exact inv.negotiated.started
  · rw [started, issued]
    exact inv.negotiated.before
  · rw [session]
    exact inv.negotiated.slots

/-! ## Runs -/

theorem step_inv {state final : State} {event : Event} (inv : Inv config state)
    (stepped : step config state event = some final) : Inv config final := by
  obtain ⟨enabled, rfl⟩ := guarded_eq_some_iff.mp stepped
  have negotiated := inv.negotiated
  have accounted := inv.accounted
  cases event with
  | frame => exact frame_inv inv enabled
  | stopReading | exit => exact inv.stops rfl rfl rfl Loop.noConfusion
  | startReturns =>
    exact ⟨⟨negotiated.once, fun _ => enabled, nofun, negotiated.slots⟩,
        accounted.withSession rfl state.loop true⟩
  | correlate => exact inv.withSession rfl rfl rfl rfl
  | issue =>
    refine ⟨⟨negotiated.once, negotiated.started, ?_, negotiated.slots⟩, accounted.issue⟩
    intro notStarted
    rw [next] at notStarted
    exact nomatch notStarted.symm.trans enabled
  | take index kind =>
    refine inv.operates rfl rfl rfl rfl ?_
    exact accounted.setLength enabled.1 Phase.noConfusion rfl enabled.2 rfl
        nofun fun _ has => Option.some.inj has
  | refuse index kind =>
    refine inv.operates rfl rfl rfl rfl ?_
    exact accounted.setPhase enabled Phase.noConfusion rfl rfl nofun nofun
  | pass index kind =>
    refine inv.operates rfl rfl rfl rfl ?_
    exact accounted.setPhase enabled.1 Phase.noConfusion rfl rfl nofun nofun
  | enqueue index kind =>
    refine inv.operates rfl rfl rfl rfl ?_
    by_cases full : state.queuedCount kind + 1 > config.maxQueueSize
    · rw [next, if_pos full]
      exact accounted.setQueued enabled Phase.noConfusion rfl (by simp [Phase.counted]) nofun nofun
    · rw [next, if_neg full]
      exact accounted.setQueued enabled Phase.noConfusion rfl
          (by simp [Phase.counted]) (fun _ has => Option.some.inj has)
          fun _ => Or.inr (not_lt.mp full)
  | takeWaiting index kind chan =>
    refine inv.operates rfl rfl rfl rfl ?_
    obtain ⟨present, free⟩ := enabled
    obtain rfl := accounted.field_of_chan present rfl
    exact accounted.setLength present Phase.noConfusion rfl free rfl
        (fun _ => rfl) fun _ has => Option.some.inj has
  | giveUp index kind chan =>
    refine inv.operates rfl rfl rfl rfl ?_
    exact accounted.setPhase enabled Phase.noConfusion rfl rfl (fun _ => rfl) nofun
  | settle index kind chan =>
    refine inv.operates rfl rfl rfl rfl ?_
    obtain rfl := accounted.field_of_chan enabled rfl
    exact accounted.setQueued enabled Phase.noConfusion rfl
        (by simp [Phase.counted]) (fun _ has => Option.some.inj has) nofun
  | release index kind chan =>
    refine inv.operates rfl rfl rfl rfl ?_
    obtain ⟨present, filled⟩ := enabled
    exact accounted.setLength present Phase.noConfusion (Nat.sub_add_cancel filled)
        ((Nat.sub_le _ _).trans (accounted.within kind)) rfl nofun nofun
  | _ =>
    refine inv.operates rfl rfl rfl rfl ?_
    exact accounted.setQueued enabled Phase.noConfusion rfl (by simp [Phase.counted]) nofun nofun

theorem Inv.admits {state : State} (inv : Inv config state) : Admits config state where
  slots kind := by
    have within := inv.accounted.within kind
    rw [inv.accounted.tokens, inv.accounted.capacity, inv.negotiated.slots] at within
    by_cases seen : state.session.serverHello = true
    · rw [if_pos seen] at within
      exact within
    · -- before the HELLO there are no operations
      have notStarted : state.started = false := Bool.eq_false_iff.mpr fun started =>
          seen (inv.negotiated.started started)
      unfold State.number
      rw [inv.negotiated.before notStarted]
      exact Nat.zero_le _
  waiting kind := by
    refine le_trans ?_ (inv.accounted.bounded kind)
    refine tally_mono _ ?_ _ _
    rintro ⟨entryKind, phase⟩ ⟨isKind, waits⟩
    refine ⟨isKind, ?_⟩
    cases phase <;> first | rfl | exact waits
  releases index kind chan present := by
    have same := inv.accounted.field_of_chan present rfl
    refine ⟨same, ?_⟩
    have issued := inv.accounted.issued_of_phase present Phase.noConfusion
    have tokens := inv.accounted.tokens kind
    rw [State.semaphore, same] at tokens
    rw [tokens]
    exact tally_pos _ issued (by rw [present]; exact ⟨rfl, rfl⟩)
  nothingLeft returned kind := by
    have absent (phases : Phase → Bool) (notReturned : phases .returned = false) :
        state.number phases kind = 0 := by
      refine tally_eq_zero _ fun index issued is => ?_
      have holds := is.2
      rw [returned index issued, notReturned] at holds
      contradiction
    rw [inv.accounted.tokens, inv.accounted.counter, absent _ rfl, absent _ rfl]
    exact ⟨rfl, rfl⟩

/-- Outbound admission stays within its bounds in every run. -/
theorem admission_stays_within_bounds (config : Config) (frameSizeLimit : Nat) {events : List Event}
    {final : State} (ran : run (step config) (initial config frameSizeLimit) events = some final) :
    Admits config final :=
  (invariant_of_run (Inv config) step_inv (initial_inv config frameSizeLimit) ran).admits

def narrowConfig : Config := ⟨0, 1, 1⟩

def contendedRun : List Event :=
  [.frame (sampleHello 1024), .startReturns, .issue .request,
    .issue .request, .issue .request, .take 0 .request, .pass 1 .request,
    .pass 2 .request, .enqueue 1 .request, .enqueue 2 .request,
    .reject 2 .request, .release 0 .request 0,
    .takeWaiting 1 .request 0, .settle 1 .request 0,
    .release 1 .request 0]

theorem contendedRun_stays_within_bounds : ∃ final, run (step narrowConfig)
          (initial narrowConfig transportMaxFrameSize) contendedRun =
        some final ∧
      Admits narrowConfig final := by
  have succeeds : (run (step narrowConfig) (initial narrowConfig transportMaxFrameSize)
        contendedRun).isSome = true := by
    decide +kernel
  obtain ⟨final, ran⟩ := Option.isSome_iff_exists.mp succeeds
  exact ⟨final, ran, admission_stays_within_bounds narrowConfig transportMaxFrameSize ran⟩

end FitzGo.Connection.Admission
