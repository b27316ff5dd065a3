import FitzGo.Domains.RpcCalls

/-!
# What the maps of the RPC client keep

The keys of `cancelRequested` and `pendingRPCs` stay among those of `calls`, and
the keys of `cancelTimers` among those of `cancelRequested`. The timer is
stored in a second section, when the request for it may be gone.
-/

namespace FitzGo.Domains.RpcCalls

open StepMachine Threads

variable {Id : Type} [DecidableEq Id]
variable {client next : Client Id} {thread : Nat} {action : Action Id}
variable {choice : Choice} {more : List (Action Id)}

/-! ## What the maps keep -/

section Coherence

variable {maps maps' : Maps Id} {ids ids' : List Id}

/-- Every key of `cancelRequested` and of `pendingRPCs` is a key of `calls`, and
every key of `cancelTimers` one of `cancelRequested`. A stream is the one of the
call under its key, and a call is under its own correlation id, which no other
call has. -/
structure Maps.Coherent (maps : Maps Id) (ids : List Id) : Prop where
  requested : ∀ {id}, id ∈ maps.cancelRequested → id ∈ maps.calls
  pending : ∀ {id number}, maps.pendingRPCs.lookup id = some number →
    maps.calls.lookup id = some number
  timed : ∀ {id}, id ∈ maps.cancelTimers → id ∈ maps.cancelRequested
  named : ∀ {id number}, maps.calls.lookup id = some number → ids[number]? = some id
  distinct : ids.Nodup

theorem Maps.Coherent.injective (coherent : maps.Coherent ids) {first second : Id} {number : Nat}
    (one : maps.calls.lookup first = some number)
    (other : maps.calls.lookup second = some number) : first = second := by
  have named := coherent.named one
  rw [coherent.named other] at named
  exact (Option.some.inj named).symm

variable {id : Id}

theorem Maps.Coherent.unique (coherent : maps.Coherent ids) {first second : Nat}
    (one : ids[first]? = some id) (other : ids[second]? = some id) : first = second := by
  obtain ⟨bound, -⟩ := List.getElem?_eq_some_iff.mp one
  exact (List.getElem?_inj bound coherent.distinct).mp (one.trans other.symm)

/-- What a section knows about the call it holds. While a cancellation that was
requested waits for its second section, the call either left or is still marked. -/
def Sound (maps : Maps Id) (ids : List Id) : Action Id → Prop
  | .startTimer id call _ | .storeTimer id call _ _ =>
    ids[call]? = some id ∧ (maps.calls.lookup id = some call → maps.requested id = true)
  | .finishCall id _ stream _ => ids[stream]? = some id
  | _ => True

/-- The sections that take an id out of `pendingRPCs`. -/
def Action.Drops (id : Id) : Action Id → Prop
  | .finishCall other _ _ _ | .cancelPendingRPC other
  | .finishCancellation other _ => other = id
  | _ => False

inductive Section (maps : Maps Id) (ids : List Id) : Action Id → Maps Id → List Id → Prop
  | keep (action : Action Id) : Section maps ids action maps ids
  | register (id : Id) (fresh : id ∉ ids) :
      Section maps ids (.register id) (maps.register id ids.length) (ids ++ [id])
  | dropPending (action : Action Id) {id : Id} (drops : action.Drops id) :
      Section maps ids action (maps.dropPending id) ids
  | drop (action : Action Id) {id : Id} (drops : action.Drops id) :
      Section maps ids action (maps.drop id) ids
  | request (action : Action Id) {id : Id} {call : Nat}
      (registered : maps.calls.lookup id = some call) :
      Section maps ids action (maps.request id) ids
  | storeTimer {id : Id} {call : Nat} (timer : Nat) (stream : Option Nat)
      (registered : maps.calls.lookup id = some call) :
      Section maps ids (.storeTimer id call timer stream) (maps.storeTimer id timer) ids
  | clear : Section maps ids .closePendingRPCs Maps.empty ids

theorem Maps.mem_cancelRequested
    (requested : maps.requested id = true) : id ∈ maps.cancelRequested := by
  unfold Maps.requested at requested
  cases found : maps.cancelRequested.lookup id with
  | none =>
    rw [found] at requested
    cases requested
  | some marked => exact AList.lookup_isSome.mp (Option.isSome_iff_exists.mpr ⟨marked, found⟩)

theorem Maps.requested_request (maps : Maps Id) (id other : Id) :
    (maps.request id).requested other =
      if other = id then true else maps.requested other := by
  unfold Maps.requested Maps.request
  by_cases same : other = id
  · subst same
    simp
  · simp [same]

theorem Maps.requested_drop (maps : Maps Id) {other : Id} (different : other ≠ id) :
    (maps.drop id).requested other = maps.requested other := by
  unfold Maps.requested Maps.drop
  rw [AList.lookup_erase_ne different]

variable {call : Nat}

section

variable (coherent : maps.Coherent ids)
include coherent

theorem Maps.Coherent.register (fresh : id ∉ ids) :
    (maps.register id ids.length).Coherent (ids ++ [id]) where
  requested := fun marked => (AList.mem_insert _).mpr (Or.inr (coherent.requested marked))
  pending := by
    intro other number found
    rw [Maps.register, Table.lookup_insert_eq_some_iff] at found ⊢
    rcases found with here | ⟨different, before⟩
    · exact Or.inl here
    · exact Or.inr ⟨different, coherent.pending before⟩
  timed := coherent.timed
  named := by
    intro other number found
    rw [Maps.register, Table.lookup_insert_eq_some_iff] at found
    rcases found with ⟨rfl, rfl⟩ | ⟨different, before⟩
    · exact List.getElem?_concat_length
    · have named := coherent.named before
      obtain ⟨bound, -⟩ := List.getElem?_eq_some_iff.mp named
      rw [List.getElem?_append_left bound]
      exact named
  distinct := by
    refine List.nodup_append.mpr ⟨coherent.distinct, List.nodup_singleton id, ?_⟩
    rintro other member _ last rfl
    exact fresh (List.mem_singleton.mp last ▸ member)

theorem Maps.Coherent.dropPending (id : Id) : (maps.dropPending id).Coherent ids :=
  { coherent with
    pending := fun found => coherent.pending (Table.lookup_erase_eq_some_iff.mp found).2 }

theorem Maps.Coherent.drop (id : Id) : (maps.drop id).Coherent ids where
  requested := by
    intro other marked
    obtain ⟨different, before⟩ := AList.mem_erase.mp marked
    exact AList.mem_erase.mpr ⟨different, coherent.requested before⟩
  pending := by
    intro other number found
    obtain ⟨different, before⟩ := Table.lookup_erase_eq_some_iff.mp found
    exact Table.lookup_erase_eq_some_iff.mpr ⟨different, coherent.pending before⟩
  timed := by
    intro other running
    obtain ⟨different, before⟩ := AList.mem_erase.mp running
    exact AList.mem_erase.mpr ⟨different, coherent.timed before⟩
  named := fun found => coherent.named (Table.lookup_erase_eq_some_iff.mp found).2
  distinct := coherent.distinct

theorem Maps.Coherent.request (registered : maps.calls.lookup id = some call) :
    (maps.request id).Coherent ids where
  requested := by
    intro other marked
    rcases (AList.mem_insert _).mp marked with rfl | before
    · exact AList.lookup_isSome.mp (Option.isSome_iff_exists.mpr ⟨call, registered⟩)
    · exact coherent.requested before
  pending := coherent.pending
  timed := fun running => (AList.mem_insert _).mpr (Or.inr (coherent.timed running))
  named := coherent.named
  distinct := coherent.distinct

theorem Maps.Coherent.storeTimer
    (marked : id ∈ maps.cancelRequested) (timer : Nat) : (maps.storeTimer id timer).Coherent ids :=
  { coherent with
    timed := by
      intro other running
      rcases (AList.mem_insert _).mp running with rfl | before
      · exact marked
      · exact coherent.timed before }

end

theorem Maps.coherent_empty (distinct : ids.Nodup) : (Maps.empty : Maps Id).Coherent ids where
  requested := fun marked => absurd marked (AList.notMem_empty _)
  pending := fun found => by
    rw [Maps.empty, AList.lookup_empty] at found
    cases found
  timed := fun running => absurd running (AList.notMem_empty _)
  named := fun found => by
    rw [Maps.empty, AList.lookup_empty] at found
    cases found
  distinct := distinct

variable (change : Section maps ids action maps' ids')
include change

theorem Section.coherent
    (coherent : maps.Coherent ids) (sound : Sound maps ids action) : maps'.Coherent ids' := by
  cases change with
  | keep => exact coherent
  | register id fresh => exact coherent.register fresh
  | dropPending => exact coherent.dropPending _
  | drop => exact coherent.drop _
  | request _ registered => exact coherent.request registered
  | storeTimer timer stream registered =>
    exact coherent.storeTimer (Maps.mem_cancelRequested (sound.2 registered)) timer
  | clear => exact Maps.coherent_empty coherent.distinct

/-- The mark of a call that is still registered stays: `finishCall` does not
touch it, and everything else takes the call out with it. -/
theorem Section.marked (named : ids[call]? = some id)
    (marked : maps.calls.lookup id = some call → maps.requested id = true) :
    maps'.calls.lookup id = some call → maps'.requested id = true := by
  intro registered
  cases change with
  | register other fresh =>
    rw [Maps.register, Table.lookup_insert_eq_some_iff] at registered
    rcases registered with ⟨rfl, -⟩ | ⟨-, before⟩
    · exact absurd (List.mem_of_getElem? named) fresh
    · exact marked before
  | drop =>
    obtain ⟨different, before⟩ := Table.lookup_erase_eq_some_iff.mp registered
    rw [Maps.requested_drop maps different]
    exact marked before
  | request =>
    rw [Maps.requested_request]
    split
    · rfl
    · exact marked registered
  | clear =>
    rw [Maps.empty, AList.lookup_empty] at registered
    cases registered
  | _ => exact marked registered

theorem Section.named (named : ids[call]? = some id) : ids'[call]? = some id := by
  cases change with
  | register other fresh =>
    obtain ⟨bound, -⟩ := List.getElem?_eq_some_iff.mp named
    rw [List.getElem?_append_left bound]
    exact named
  | _ => exact named

theorem Section.sound
    {other : Action Id} (sound : Sound maps ids other) : Sound maps' ids' other := by
  cases other with
  | startTimer id call stream | storeTimer id call timer stream =>
    exact ⟨change.named sound.1, change.marked sound.1 sound.2⟩
  | finishCall id outcome stream error => exact change.named sound
  | _ => trivial

end Coherence

/-! ## The sections of the machine -/

/-- What a section does to the client, and what it puts before the rest of its
thread: `perform` read by its results. -/
inductive Performs (client : Client Id) (thread : Nat) :
    Action Id → Client Id → List (Action Id) → Prop
  | register {id} (fresh : id ∉ client.ids) :
      Performs client thread (.register id) (client.register id).1 [.submit client.objects.length]
  | submitted (number) : Performs client thread (.submit number) client [.setStopContext number]
  | refused {number call} (here : client.objects[number]? = some call) :
      Performs client thread (.submit number) (client.adjust [number] Call.refuse)
        [.finishCall call.correlationID .requestNotSent number none]
  | setStopContext (number) : Performs client thread (.setStopContext number)
        (client.adjust [number] fun call => { call with returned := true }) []
  | ignored (id payload) : Performs client thread (.handleRPCResponse id payload) client []
  | responded {id stream payload} (pending : client.maps.pendingRPCs.lookup id = some stream)
      (goesOn : ¬ (reactTo id stream payload).1 = true) :
      Performs client thread (.handleRPCResponse id payload) client (reactTo id stream payload).2
  | ended {id stream payload} (pending : client.maps.pendingRPCs.lookup id = some stream) :
      Performs client thread (.handleRPCResponse id payload)
        (client.adjust [stream] Call.finish) (reactTo id stream payload).2
  | enqueue (number frame) : Performs client thread (.enqueue number frame)
        (client.adjust [number] fun call => { call with stream := call.stream.enqueue frame }) []
  | closeStream (number error) : Performs client thread (.closeStream number error)
        (client.adjust [number] fun call =>
          { call with stream := call.stream.closeWithError error }) []
  | finishRequested (id outcome stream error) :
      Performs client thread (.finishCall id outcome stream error)
        { client with maps := client.maps.dropPending id } [.closeStream stream error]
  | finishCall (id outcome stream error) :
      Performs client thread (.finishCall id outcome stream error)
        (({ client with maps := client.maps.drop id }).adjust
          (client.maps.calls.lookup id).toList (Call.leave thread))
        ((client.maps.cancelTimers.lookup id).toList.map .stopTimer ++
          (client.maps.calls.lookup id).toList.map (.complete · outcome) ++
          [.closeStream stream error])
  | completed {number call} (outcome)
      (here : client.objects[number]? = some call) (done : call.completed = true) :
      Performs client thread (.complete number outcome) client []
  | complete (number outcome) : Performs client thread (.complete number outcome)
        (client.adjust [number] fun call => { call with completed := true })
        [.send number outcome]
  | send (number outcome) : Performs client thread (.send number outcome)
        (client.adjust [number] fun call =>
          { call with cancellation := call.cancellation ++ [outcome] })
        [.closeCancellation number]
  | closeCancellation (number) : Performs client thread (.closeCancellation number)
        (client.adjust [number] fun call => { call with cancellationClosed := true }) []
  | next {number call context result stream iterator} (here : client.objects[number]? = some call)
      (taken : call.iterator.next context call.stream = some (result, stream, iterator))
      {more} (follows : ∀ new ∈ more, new = .cancelPendingRPC call.correlationID) :
      Performs client thread (.next number)
        (client.adjust [number] fun call => { call with stream, iterator }) more
  | cancelAbsent {id} (absent : client.maps.calls.lookup id = none) :
      Performs client thread (.cancelPendingRPC id)
        (({ client with maps := client.maps.dropPending id }).adjust
          (client.maps.pendingRPCs.lookup id).toList Call.finish)
        ((client.maps.pendingRPCs.lookup id).toList.map (.closeStream · none))
  | cancelAgain (id) : Performs client thread (.cancelPendingRPC id) client []
  | cancelPendingRPC {id call} (registered : client.maps.calls.lookup id = some call) :
      Performs client thread (.cancelPendingRPC id)
        (({ client with maps := client.maps.request id }).adjust [call] Call.finish)
        [.startTimer id call (client.maps.pendingRPCs.lookup id)]
  | startTimer (id call stream) : Performs client thread (.startTimer id call stream)
        { client with timers := client.timers ++ [some id] }
        [.storeTimer id call client.timers.length stream]
  | unsupported (id call stream) : Performs client thread (.startTimer id call stream) client
        [.finishCancellation id .unsupported]
  | timerLate (id call timer stream) :
      Performs client thread (.storeTimer id call timer stream) client [.stopTimer timer]
  | storeTimer {id call} (timer stream) (registered : client.maps.calls.lookup id = some call) :
      Performs client thread (.storeTimer id call timer stream)
        { client with maps := client.maps.storeTimer id timer } [.sendCancellation id stream]
  | sendCancellation (id stream) : Performs client thread (.sendCancellation id stream) client
        (stream.toList.map (.closeStream · none))
  | sendFailed (id stream outcome) :
      Performs client thread (.sendCancellation id stream) client [.finishCancellation id outcome]
  | finishCancellation (id outcome) : Performs client thread (.finishCancellation id outcome)
        ((({ client with maps := client.maps.drop id }).adjust
          (client.maps.calls.lookup id).toList (Call.leave thread)).adjust
          (client.maps.pendingRPCs.lookup id).toList Call.finish)
        ((client.maps.cancelTimers.lookup id).toList.map .stopTimer ++
          (client.maps.pendingRPCs.lookup id).toList.map (.closeStream · none) ++
          (client.maps.calls.lookup id).toList.map (.complete · outcome))
  | stopTimer (timer) : Performs client thread (.stopTimer timer)
        { client with timers := client.timers.set timer none } []
  | nothingPending (nothing : client.maps.pendingRPCs.entries = []) :
      Performs client thread .closePendingRPCs client []
  | closePendingRPCs {timers calls pending : List Nat} (ranges : Ranges calls client.maps.calls)
      (streams : Ranges pending client.maps.pendingRPCs) :
      Performs client thread .closePendingRPCs
        (({ client with maps := Maps.empty }).adjust calls (Call.leave thread))
        (timers.map .stopTimer ++ calls.map (.complete · .connectionClosed) ++
          pending.map (.closeStream · (some .connectionClosed)))

theorem performs_of_perform (performed : perform client thread action choice = some (next, more)) :
    Performs client thread action next more := by
  cases action with
  | setStopContext | enqueue | closeStream | send | closeCancellation | finishCancellation
  | stopTimer =>
    cases performed
    constructor
  | register id =>
    simp only [perform] at performed
    split at performed
    · cases performed
    next fresh =>
      cases performed
      exact .register fresh
  | submit number =>
    simp only [perform] at performed
    split at performed
    · cases performed
    · cases performed
      exact .submitted number
    next here _ =>
      cases performed
      exact .refused here
  | handleRPCResponse id payload =>
    simp only [perform, Client.handleRPCResponse] at performed
    split at performed
    · cases performed
      exact .ignored id payload
    · split at performed
      · cases performed
        exact .ignored id payload
      next stream pending =>
        cases performed
        split
        · exact .ended pending
        next goesOn => exact .responded pending goesOn
  | finishCall id outcome stream error =>
    simp only [perform, Client.finishCall] at performed
    split at performed
    · cases performed
      exact .finishRequested id outcome stream error
    · cases performed
      exact .finishCall id outcome stream error
  | complete number outcome =>
    simp only [perform] at performed
    split at performed
    · cases performed
    next call here =>
      split at performed
      next done =>
        cases performed
        exact .completed outcome here done
      · cases performed
        exact .complete number outcome
  | next number =>
    simp only [perform] at performed
    split at performed
    · cases performed
    next call here =>
      split at performed
      · cases performed
      next taken =>
        cases performed
        refine .next here taken fun new member => ?_
        split at member
        · cases member
        · exact List.mem_singleton.mp member
  | cancelPendingRPC id =>
    simp only [perform, Client.cancelPendingRPC] at performed
    split at performed
    next absent =>
      cases performed
      exact .cancelAbsent absent
    next call registered =>
      split at performed
      · cases performed
        exact .cancelAgain id
      · cases performed
        exact .cancelPendingRPC registered
  | startTimer id call stream =>
    simp only [perform] at performed
    split at performed
    · cases performed
      exact .startTimer id call stream
    · cases performed
      exact .unsupported id call stream
  | storeTimer id call timer stream =>
    simp only [perform, Client.storeTimer] at performed
    split at performed
    · cases performed
      exact .timerLate id call timer stream
    next registered =>
      cases performed
      exact .storeTimer timer stream (not_not.mp registered)
  | sendCancellation id stream =>
    simp only [perform, Client.sendCancellation] at performed
    split at performed
    · cases performed
      exact .sendCancellation id stream
    · cases performed
      exact .sendFailed id stream _
    · cases performed
      exact .sendFailed id stream _
  | closePendingRPCs =>
    simp only [perform, Client.closePendingRPCs] at performed
    split at performed
    next nothing =>
      cases performed
      exact .nothingPending nothing.1
    · split at performed
      next ordered =>
        cases performed
        exact .closePendingRPCs ordered.2.1 ordered.2.2
      · cases performed

theorem Section.adjust {changed : Client Id}
    (change : Section client.maps client.ids action changed.maps changed.ids) (which : List Nat)
    {update : Call Id → Call Id} (same : ∀ call, (update call).correlationID = call.correlationID) :
    Section client.maps client.ids action (changed.adjust which update).maps
      (changed.adjust which update).ids := by
  rw [Client.ids_adjust changed which same]
  exact change

theorem perform_section (performed : perform client thread action choice = some (next, more)) :
    Section client.maps client.ids action next.maps next.ids := by
  cases performs_of_perform performed with
  | @register id fresh =>
    have length : client.objects.length = client.ids.length := (List.length_map _).symm
    have ids : (client.objects ++ [newCall id]).map Call.correlationID = client.ids ++ [id] :=
      List.map_append
    dsimp only [Client.register, Client.ids] at *
    rw [ids, length]
    exact .register id fresh
  | finishRequested => exact .dropPending _ rfl
  | finishCall | finishCancellation =>
    repeat refine Section.adjust ?_ _ fun _ => rfl
    exact .drop _ rfl
  | cancelAbsent =>
    refine Section.adjust ?_ _ fun _ => rfl
    exact .dropPending _ rfl
  | cancelPendingRPC registered => exact (Section.request _ registered).adjust _ fun _ => rfl
  | storeTimer timer stream registered => exact .storeTimer timer stream registered
  | closePendingRPCs => exact Section.clear.adjust _ fun _ => rfl
  | refused | setStopContext | ended | enqueue | closeStream | complete | send
  | closeCancellation | next => exact (Section.keep _).adjust _ fun _ => rfl
  | _ => exact .keep _

theorem perform_sound (coherent : client.maps.Coherent client.ids)
    (sound : Sound client.maps client.ids action)
    (performed : perform client thread action choice = some (next, more)) :
    ∀ new ∈ more, Sound next.maps next.ids new := by
  have change := perform_section performed
  cases performs_of_perform performed with
  | refused here => exact List.forall_mem_singleton.mpr (change.named (Client.ids_getElem? here))
  | responded pending | ended pending =>
    have named := change.named (coherent.named (coherent.pending pending))
    intro new member
    rcases mem_reactTo member with ⟨frame, rfl⟩ | ⟨error, rfl, -⟩
    · trivial
    · exact named
  | next here taken follows =>
    intro new member
    cases follows new member
    trivial
  | cancelPendingRPC registered =>
    refine List.forall_mem_singleton.mpr ⟨change.named (coherent.named registered), fun _ => ?_⟩
    rw [Client.maps_adjust, Maps.requested_request, if_pos rfl]
  | startTimer => exact List.forall_mem_singleton.mpr sound
  | _ => simp [Sound, or_imp, forall_and]

variable {operation : Operation Id} {program : List (Action Id)}

/-- The sections with which an operation starts. Only `Close` closes a stream
at once. -/
inductive Entry (client : Client Id) : Action Id → Prop
  | register (id : Id) : Entry client (.register id)
  | handleRPCResponse (id : Id) (payload : Bytes) : Entry client (.handleRPCResponse id payload)
  | finishCancellation (id : Id) (outcome : CancellationOutcome) :
      Entry client (.finishCancellation id outcome)
  | next (number : Nat) : Entry client (.next number)
  | closeStream {number : Nat} {call : Call Id} (here : client.objects[number]? = some call)
      (ended : call.ended = true) :
      Entry client (.closeStream number none)
  | cancelPendingRPC (id : Id) : Entry client (.cancelPendingRPC id)
  | closePendingRPCs : Entry client .closePendingRPCs

omit [DecidableEq Id] in
theorem start_spec (begun : start client operation = some (next, program)) :
    next.maps = client.maps ∧ (next.objects = client.objects ∨
      ∃ number, next.objects = (client.adjust [number] Call.shut).objects ∧
      operation = .close number) ∧ ∀ action ∈ program, Entry next action := by
  cases operation with
  | call id =>
    cases begun
    exact ⟨rfl, Or.inl rfl, List.forall_mem_singleton.mpr (.register id)⟩
  | response id payload =>
    cases begun
    exact ⟨rfl, Or.inl rfl, List.forall_mem_singleton.mpr (.handleRPCResponse id payload)⟩
  | lifecycle kind id value =>
    simp only [start] at begun
    split at begun
    · cases begun
      exact ⟨rfl, Or.inl rfl, List.forall_mem_nil _⟩
    · split at begun
      · cases begun
        exact ⟨rfl, Or.inl rfl, List.forall_mem_nil _⟩
      · cases begun
        exact ⟨rfl, Or.inl rfl, List.forall_mem_singleton.mpr (.finishCancellation id _)⟩
  | next number =>
    simp only [start] at begun
    split at begun
    · cases begun
    · split at begun
      · cases begun
        exact ⟨rfl, Or.inl rfl, List.forall_mem_singleton.mpr (.next number)⟩
      · cases begun
  | close number =>
    simp only [start] at begun
    split at begun
    · cases begun
    next call here =>
      split at begun
      · cases begun
        have shut : (client.adjust [number] Call.shut).objects[number]? = some call.shut := by
          rw [Client.objects_adjust, here, Option.map_some, if_pos List.mem_cons_self]
        exact ⟨rfl, Or.inr ⟨number, rfl, rfl⟩, List.forall_mem_cons.mpr
          ⟨.closeStream shut rfl, List.forall_mem_singleton.mpr (.cancelPendingRPC _)⟩⟩
      · cases begun
  | contextDone number =>
    simp only [start] at begun
    split at begun
    · cases begun
    · cases begun
      exact ⟨rfl, Or.inl rfl, List.forall_mem_singleton.mpr (.cancelPendingRPC _)⟩
  | timer timer =>
    simp only [start] at begun
    split at begun
    next id _ =>
      cases begun
      exact ⟨rfl, Or.inl rfl, List.forall_mem_singleton.mpr (.finishCancellation id _)⟩
    · cases begun
  | connectionLost =>
    cases begun
    exact ⟨rfl, Or.inl rfl, List.forall_mem_singleton.mpr .closePendingRPCs⟩

omit [DecidableEq Id] in
private theorem start_ids (begun : start client operation = some (next, program)) :
    next.ids = client.ids := by
  obtain ⟨-, same | ⟨number, shut, -⟩, -⟩ := start_spec begun
  · rw [Client.ids, same]
    rfl
  · rw [Client.ids, shut]
    exact Client.ids_adjust _ _ fun _ => rfl

structure Mapped (state : State Id) : Prop where
  coherent : state.shared.maps.Coherent state.shared.ids
  sound : Everywhere (Sound state.shared.maps state.shared.ids) state.programs

theorem mapped_initial : Mapped (initial : State Id) where
  coherent := Maps.coherent_empty List.nodup_nil
  sound := fun _ _ member => by cases member

theorem Mapped.begin {state : State Id} (mapped : Mapped state)
    (begun : start state.shared operation = some (next, program)) :
    Mapped (state.begin next program) := by
  have maps := (start_spec begun).1
  have ids := start_ids begun
  have entries : ∀ action ∈ program, Sound next.maps next.ids action := by
    intro action member
    cases (start_spec begun).2.2 action member <;> trivial
  refine ⟨?_, ?_⟩
  · rw [System.begin, maps, ids]
    exact mapped.coherent
  · refine Everywhere.update ?_ entries
    rw [System.begin, maps, ids]
    exact mapped.sound

theorem Mapped.resume {state : State Id} (mapped : Mapped state) {rest : List (Action Id)}
    (running : state.programs thread = action :: rest)
    (performed : perform state.shared thread action choice = some (next, more)) :
    Mapped (state.resume thread next (more ++ rest)) := by
  have sound := mapped.sound.head running
  have change := perform_section performed
  have everywhere : Everywhere (Sound next.maps next.ids) state.programs :=
    mapped.sound.mono fun _ => change.sound
  exact
    { coherent := change.coherent mapped.coherent sound
      sound := everywhere.resume running (perform_sound mapped.coherent sound performed) }

end FitzGo.Domains.RpcCalls
