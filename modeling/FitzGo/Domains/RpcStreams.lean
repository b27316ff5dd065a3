import FitzGo.Domains.RpcOutcomes

/-!
# The end of a response stream

A stream that is no longer pending is closed, or some thread still has to close
it, with the error of a lost connection unless a response or a cancellation
ended the call.
-/

namespace FitzGo.Domains.RpcCalls

open StepMachine Threads

variable {Id : Type}
variable {client next : Client Id} {thread number : Nat} {action : Action Id}
variable {choice : Choice} {more rest : List (Action Id)}
variable {call call' : Call Id} {programs : Nat → List (Action Id)}

theorem Call.correlationID_leave (thread : Nat) (call : Call Id) :
    (call.leave thread).correlationID = call.correlationID :=
  rfl

/-! ## What a section does to one call -/

/-- What a section may do to a call. -/
structure Evolves (action : Action Id) (number : Nat) (call call' : Call Id) : Prop where
  correlationID : call'.correlationID = call.correlationID
  ended : call.ended = true → call'.ended = true
  refused : call'.refused = call.refused ∨ action = .submit number ∧ call'.refused = true
  returned : call'.returned = call.returned ∨ action = .setStopContext number
  stream : call'.stream.closed = call.stream.closed ∧ call'.stream.err = call.stream.err ∨
    ∃ error, action = .closeStream number error ∧ call'.stream = call.stream.closeWithError error

theorem Evolves.refl (action : Action Id) (number : Nat) (call : Call Id) :
    Evolves action number call call :=
  ⟨rfl, id, Or.inl rfl, Or.inl rfl, Or.inl ⟨rfl, rfl⟩⟩

variable {which : List Nat} {change : Call Id → Call Id}

theorem evolves_adjust
    (present : (client.adjust which change).objects[number]? = some call')
    (changes : ∀ call, client.objects[number]? = some call → number ∈ which →
      Evolves action number call (change call)) :
    ∃ call, client.objects[number]? = some call ∧ Evolves action number call call' := by
  rw [Client.objects_adjust] at present
  obtain ⟨call, before, rfl⟩ := Option.map_eq_some_iff.mp present
  refine ⟨call, before, ?_⟩
  split
  next member => exact changes call before member
  · exact .refl action number call

private theorem evolves_leave
    (present : (client.adjust which (Call.leave thread)).objects[number]? = some call') :
    ∃ call, client.objects[number]? = some call ∧ Evolves action number call call' :=
  evolves_adjust present fun _ _ _ => ⟨rfl, id, Or.inl rfl, Or.inl rfl, Or.inl ⟨rfl, rfl⟩⟩

theorem evolves_finish (present : (client.adjust which Call.finish).objects[number]? = some call') :
    ∃ call, client.objects[number]? = some call ∧ Evolves action number call call' :=
  evolves_adjust present fun _ _ _ => ⟨rfl, fun _ => rfl, Or.inl rfl, Or.inl rfl, Or.inl ⟨rfl, rfl⟩⟩

section Performed

variable [DecidableEq Id] (performed : perform client thread action choice = some (next, more))
include performed

theorem perform_evolves (present : next.objects[number]? = some call') :
    (∃ call, client.objects[number]? = some call ∧ Evolves action number call call') ∨
      ∃ id, action = .register id ∧ number = client.objects.length ∧ call' = newCall id := by
  cases performs_of_perform performed with
  | @register id fresh =>
    dsimp only [Client.register] at present
    by_cases old : number < client.objects.length
    · rw [List.getElem?_append_left old] at present
      exact Or.inl ⟨call', present, .refl _ _ _⟩
    · have within := (List.getElem?_eq_some_iff.mp present).1
      have last : number = client.objects.length := by
        rw [List.length_append, List.length_singleton] at within
        omega
      subst last
      rw [List.getElem?_concat_length] at present
      exact Or.inr ⟨id, rfl, rfl, (Option.some.inj present).symm⟩
  | refused =>
    refine Or.inl (evolves_adjust present fun call _ member => ?_)
    cases List.mem_singleton.mp member
    exact ⟨rfl, id, Or.inr ⟨rfl, rfl⟩, Or.inl rfl, Or.inl ⟨rfl, rfl⟩⟩
  | setStopContext =>
    refine Or.inl (evolves_adjust present fun call _ member => ?_)
    cases List.mem_singleton.mp member
    exact ⟨rfl, id, Or.inl rfl, Or.inr rfl, Or.inl ⟨rfl, rfl⟩⟩
  | enqueue other frame =>
    exact Or.inl (evolves_adjust present fun call _ _ =>
      ⟨rfl, id, Or.inl rfl, Or.inl rfl,
        Or.inl ⟨call.stream.closed_enqueue frame, call.stream.err_enqueue frame⟩⟩)
  | closeStream other error =>
    refine Or.inl (evolves_adjust present fun call _ member => ?_)
    cases List.mem_singleton.mp member
    exact ⟨rfl, id, Or.inl rfl, Or.inl rfl, Or.inr ⟨error, rfl, rfl⟩⟩
  | next before taken =>
    have kept := Iterator.next_keeps_end taken
    refine Or.inl (evolves_adjust present fun call here member => ?_)
    cases List.mem_singleton.mp member
    rw [before] at here
    cases here
    exact ⟨rfl, id, Or.inl rfl, Or.inl rfl, Or.inl kept⟩
  | ended | cancelAbsent | cancelPendingRPC => exact Or.inl (evolves_finish present)
  | finishCall | closePendingRPCs => exact Or.inl (evolves_leave present)
  | finishCancellation =>
    rw [Client.objects_adjust, Client.objects_adjust, Option.map_map] at present
    obtain ⟨call, before, rfl⟩ := Option.map_eq_some_iff.mp present
    refine Or.inl ⟨call, before, ?_⟩
    rw [Function.comp_apply]
    split
    · split <;> exact ⟨rfl, fun _ => rfl, Or.inl rfl, Or.inl rfl, Or.inl ⟨rfl, rfl⟩⟩
    · split <;> exact ⟨rfl, fun ended => ended, Or.inl rfl, Or.inl rfl, Or.inl ⟨rfl, rfl⟩⟩
  | complete | send | closeCancellation =>
    exact Or.inl (evolves_adjust present fun _ _ _ =>
      ⟨rfl, id, Or.inl rfl, Or.inl rfl, Or.inl ⟨rfl, rfl⟩⟩)
  | _ => exact Or.inl ⟨call', present, .refl _ _ _⟩

/-! ## Every stream that left `pendingRPCs` is closed or about to be -/

def closes (number : Nat) (action : Action Id) : Prop :=
  ∃ error, action = .closeStream number error

variable {id : Id}

private theorem closes_of_drops (coherent : client.maps.Coherent client.ids)
    (sound : Sound client.maps client.ids action) (drops : action.Drops id)
    (pending : client.maps.pendingRPCs.lookup id = some number) :
    next.maps.pendingRPCs.lookup id = some number ∨ ∃ new ∈ more, closes number new := by
  have registered := coherent.pending pending
  cases performs_of_perform performed with
  | finishRequested other outcome stream error | finishCall other outcome stream error =>
    cases drops
    cases coherent.unique sound (coherent.named registered)
    exact Or.inr ⟨.closeStream number error, by simp, error, rfl⟩
  | cancelAbsent absent =>
    cases drops
    cases absent.symm.trans registered
  | cancelAgain | cancelPendingRPC => exact Or.inl pending
  | finishCancellation other outcome =>
    cases drops
    exact Or.inr ⟨.closeStream number none, by simp [pending], none, rfl⟩
  | _ => cases drops

omit performed in
private theorem closes_of_closePendingRPCs
    (performed : perform client thread .closePendingRPCs choice = some (next, more))
    (pending : client.maps.pendingRPCs.lookup id = some number) :
    ∃ new ∈ more, closes number new := by
  have listed : number ∈ Table.values client.maps.pendingRPCs :=
    Table.mem_values_iff.mpr ⟨id, pending⟩
  cases performs_of_perform performed with
  | nothingPending nothing =>
    rw [Table.values, nothing] at listed
    cases listed
  | closePendingRPCs ranges streams =>
    refine ⟨.closeStream number (some .connectionClosed), ?_, _, rfl⟩
    exact List.mem_append_right _ (List.mem_map_of_mem (streams.mem_iff.mpr listed))

omit performed in
theorem nothing_pending_of_closePendingRPCs
    (performed : perform client thread .closePendingRPCs choice =
      some (next, more)) (id : Id) : next.maps.pendingRPCs.lookup id = none := by
  cases performs_of_perform performed with
  | nothingPending nothing =>
    unfold AList.lookup
    rw [nothing]
    rfl
  | closePendingRPCs => exact AList.lookup_empty id

private theorem perform_pending (coherent : client.maps.Coherent client.ids)
    (sound : Sound client.maps client.ids action)
    (pending : client.maps.pendingRPCs.lookup id = some number) :
    next.maps.pendingRPCs.lookup id = some number ∨ ∃ new ∈ more, closes number new := by
  by_cases drops : action.Drops id
  · exact closes_of_drops performed coherent sound drops pending
  · have change := perform_section performed
    generalize next.maps = maps' at change ⊢
    generalize next.ids = ids' at change
    cases change with
    | register other fresh =>
      have named := coherent.named (coherent.pending pending)
      have different : id ≠ other := by
        rintro rfl
        exact fresh (List.mem_of_getElem? named)
      left
      rw [Maps.register, AList.lookup_insert_ne different]
      exact pending
    | dropPending _ dropsOther | drop _ dropsOther =>
      left
      dsimp only [Maps.dropPending, Maps.drop]
      rw [AList.lookup_erase_ne]
      · exact pending
      · rintro rfl
        exact drops dropsOther
    | clear => exact Or.inr (closes_of_closePendingRPCs performed pending)
    | _ => exact Or.inl pending

theorem pending_of_perform (bound : number < client.objects.length)
    (pending : next.maps.pendingRPCs.lookup id = some number) :
    client.maps.pendingRPCs.lookup id = some number := by
  have change := perform_section performed
  have length : client.objects.length = client.ids.length := (List.length_map _).symm
  generalize next.maps = maps' at change pending
  generalize next.ids = ids' at change
  cases change with
  | keep | request | storeTimer => exact pending
  | register other fresh =>
    rw [Maps.register, Table.lookup_insert_eq_some_iff] at pending
    rcases pending with ⟨-, last⟩ | ⟨-, before⟩
    · omega
    · exact before
  | clear =>
    rw [Maps.empty, AList.lookup_empty] at pending
    cases pending
  | _ => exact (Table.lookup_erase_eq_some_iff.mp pending).2

private theorem closed_of_closes (closing : closes number action)
    (present : next.objects[number]? = some call') : call'.stream.closed = true := by
  obtain ⟨error, rfl⟩ := closing
  cases performed
  rw [Client.objects_adjust] at present
  obtain ⟨call, before, rfl⟩ := Option.map_eq_some_iff.mp present
  rw [if_pos List.mem_cons_self]
  exact ResponseStream.closed_closeWithError _ _

/-- A stream that is not pending is closed or about to be. -/
def Covered (client : Client Id) (programs : Nat → List (Action Id)) : Prop :=
  ∀ number call, client.objects[number]? = some call →
    client.maps.pendingRPCs.lookup call.correlationID = some number ∨
      call.stream.closed = true ∨ Somewhere (closes number) programs

theorem Covered.resume (covered : Covered client programs)
    (coherent : client.maps.Coherent client.ids) (sound : Sound client.maps client.ids action)
    (running : programs thread = action :: rest) :
    Covered next (Function.update programs thread (more ++ rest)) := by
  intro number call' present
  rcases perform_evolves performed present with
    ⟨call, before, evolves⟩ | ⟨id, rfl, rfl, rfl⟩
  · rw [evolves.correlationID]
    rcases covered number call before with pending | closed | somewhere
    · rcases perform_pending performed coherent sound pending with
        kept | ⟨new, member, closing⟩
      · exact Or.inl kept
      · exact Or.inr (Or.inr (somewhere_update (List.mem_append_left rest member) closing))
    · refine Or.inr (Or.inl ?_)
      rcases evolves.stream with ⟨same, -⟩ | ⟨error, -, stream⟩
      · exact same.trans closed
      · rw [stream]
        exact ResponseStream.closed_closeWithError _ _
    · by_cases closing : closes number action
      · exact Or.inr (Or.inl (closed_of_closes performed closing present))
      · exact Or.inr (Or.inr (somewhere.resume running closing))
  · left
    simp only [perform] at performed
    split at performed
    · cases performed
    · cases performed
      exact AList.lookup_insert _

/-! ## Why a stream was closed -/

/-- The call has ended, or was refused. -/
def Excused (client : Client Id) (number : Nat) : Prop :=
  ∃ call, client.objects[number]? = some call ∧ (call.ended = true ∨ call.refused = true)

/-- A section that closes a stream, now or later, does it for a lost connection
or for a call that is excused. -/
def Justified (client : Client Id) : Action Id → Prop
  | .closeStream number error | .finishCall _ _ number error =>
    error = some .connectionClosed ∨ Excused client number
  | .startTimer _ _ stream | .storeTimer _ _ _ stream
  | .sendCancellation _ stream => ∀ number, stream = some number → Excused client number
  | _ => True

theorem present_of_perform (before : client.objects[number]? = some call) :
    ∃ call', next.objects[number]? = some call' ∧ Evolves action number call call' := by
  have named := (perform_section performed).named (Client.ids_getElem? before)
  rw [Client.ids, List.getElem?_map] at named
  obtain ⟨call', present, -⟩ := Option.map_eq_some_iff.mp named
  refine ⟨call', present, ?_⟩
  rcases perform_evolves performed present with
    ⟨same, here, evolves⟩ | ⟨id, -, rfl, -⟩
  · rw [before] at here
    cases here
    exact evolves
  · rw [List.getElem?_eq_none (Nat.le_refl _)] at before
    cases before

theorem Excused.perform (excused : Excused client number) : Excused next number := by
  obtain ⟨call, before, reason⟩ := excused
  obtain ⟨call', present, evolves⟩ := present_of_perform performed before
  refine ⟨call', present, ?_⟩
  rcases reason with ended | refused
  · exact Or.inl (evolves.ended ended)
  · rcases evolves.refused with same | ⟨-, now⟩
    · exact Or.inr (same.trans refused)
    · exact Or.inr now

omit [DecidableEq Id] performed in
theorem Justified.mono (justified : Justified client action)
    (grows : ∀ number, Excused client number → Excused next number) : Justified next action := by
  cases action with
  | closeStream number error => exact justified.imp_right (grows number)
  | finishCall id outcome number error => exact justified.imp_right (grows number)
  | startTimer id call stream | storeTimer id call timer stream
  | sendCancellation id stream => exact fun number here => grows number (justified number here)
  | _ => trivial

omit [DecidableEq Id] performed in
private theorem excused_of_adjust
    (named : client.ids[number]? = some id) (member : number ∈ which)
    (excuses : ∀ call, (change call).ended = true ∨ (change call).refused = true) :
    Excused (client.adjust which change) number := by
  rw [Client.ids, List.getElem?_map] at named
  obtain ⟨call, here, -⟩ := Option.map_eq_some_iff.mp named
  refine ⟨change call, ?_, excuses call⟩
  rw [Client.objects_adjust, here, Option.map_some, if_pos member]

omit [DecidableEq Id] performed in
theorem justified_of_mem_map {numbers : List Nat} {build : Nat → Action Id}
    (each : ∀ number ∈ numbers, Justified client (build number)) :
    ∀ new ∈ numbers.map build, Justified client new := by
  intro new member
  obtain ⟨number, listed, rfl⟩ := List.mem_map.mp member
  exact each number listed

theorem perform_justified (coherent : client.maps.Coherent client.ids)
    (justified : Justified client action) : ∀ new ∈ more, Justified next new := by
  cases performs_of_perform performed with
  | refused here =>
    exact List.forall_mem_singleton.mpr (Or.inr
      (excused_of_adjust (Client.ids_getElem? here) List.mem_cons_self fun _ => Or.inr rfl))
  | responded pending goesOn =>
    intro new member
    rcases mem_reactTo member with ⟨frame, rfl⟩ | ⟨error, rfl, ends⟩
    · trivial
    · exact absurd ends goesOn
  | ended pending =>
    intro new member
    rcases mem_reactTo member with ⟨frame, rfl⟩ | ⟨error, rfl, -⟩
    · trivial
    · exact Or.inr (excused_of_adjust
        (coherent.named (coherent.pending pending)) List.mem_cons_self fun _ => Or.inl rfl)
  | finishRequested id outcome stream error | finishCall id outcome stream error =>
    have later : Justified _ (.closeStream stream error : Action Id) :=
      justified.imp_right fun excused => excused.perform performed
    simpa [Justified, or_imp, forall_and] using later
  | next here taken follows =>
    intro new member
    cases follows new member
    trivial
  | cancelAbsent absent =>
    refine justified_of_mem_map fun number listed => ?_
    cases absent.symm.trans (coherent.pending (Option.mem_toList.mp listed))
  | cancelPendingRPC registered =>
    refine List.forall_mem_singleton.mpr fun number pending => ?_
    cases registered.symm.trans (coherent.pending pending)
    exact excused_of_adjust (coherent.named registered) List.mem_cons_self fun _ => Or.inl rfl
  | startTimer | storeTimer => exact List.forall_mem_singleton.mpr justified
  | sendCancellation =>
    exact justified_of_mem_map fun number listed =>
      Or.inr (justified number (Option.mem_toList.mp listed))
  | finishCancellation id outcome =>
    refine List.forall_mem_append.mpr ⟨List.forall_mem_append.mpr
      ⟨justified_of_mem_map fun _ _ => trivial,
        justified_of_mem_map fun number listed => Or.inr ?_⟩,
      justified_of_mem_map fun _ _ => trivial⟩
    have named := coherent.named (coherent.pending (Option.mem_toList.mp listed))
    rw [← Client.ids_adjust client (client.maps.calls.lookup id).toList
      (Call.correlationID_leave thread)] at named
    exact excused_of_adjust named listed fun _ => Or.inl rfl
  | _ => simp [Justified, or_imp, forall_and]

/-- A stream that is closed was closed for a lost connection, or its call is
excused. -/
def Explained (client : Client Id) : Prop :=
  ∀ number call, client.objects[number]? = some call →
    call.stream.closed = true → call.stream.err = some .connectionClosed ∨ Excused client number

theorem Explained.perform (explained : Explained client) (justified : Justified client action) :
    Explained next := by
  intro number call' present closed
  rcases perform_evolves performed present with
    ⟨call, before, evolves⟩ | ⟨id, -, -, rfl⟩
  · rcases evolves.stream with ⟨same, err⟩ | ⟨error, rfl, stream⟩
    · rw [err]
      exact (explained number call before (same.symm.trans closed)).imp_right
        fun excused => excused.perform performed
    · rw [stream, ResponseStream.err_closeWithError]
      split
      next already =>
        exact (explained number call before already).imp_right
          fun excused => excused.perform performed
      · exact justified.imp_right fun excused => excused.perform performed
  · cases closed

/-! ## A call returns an iterator or an error -/

def calling (number : Nat) : Action Id → Bool
  | .submit other | .setStopContext other => decide (other = number)
  | _ => false

inductive Calling (number : Nat) (call : Call Id) : List (Action Id) → Prop
  | submitting (returned : call.returned = false) (refused : call.refused = false) :
      Calling number call [.submit number]
  | returning (returned : call.returned = false) (refused : call.refused = false) :
      Calling number call [.setStopContext number]
  | finished (once : call.returned = true → call.refused = false) : Calling number call []

structure Callers (client : Client Id) (programs : Nat → List (Action Id)) : Prop where
  absent : ∀ {number : Nat}, client.objects[number]? = none → Sole (calling number) programs none []
  calls : ∀ {number : Nat} {call}, client.objects[number]? = some call →
    ∃ owner stage, Calling number call stage ∧ Sole (calling number) programs owner stage

theorem filter_calling (foreign : calling number action = false)
    (old : ∀ id, action = .register id → number ≠ client.objects.length) :
    more.filter (calling number) = [] := by
  refine List.filter_eq_nil_iff.mpr ?_
  cases performs_of_perform performed with
  | register =>
    exact List.forall_mem_singleton.mpr (decide_eq_true_iff.not.mpr (Ne.symm (old _ rfl)))
  | submitted =>
    exact List.forall_mem_singleton.mpr (decide_eq_true_iff.not.mpr (of_decide_eq_false foreign))
  | responded | ended =>
    intro new member
    rcases mem_reactTo member with ⟨frame, rfl⟩ | ⟨error, rfl, -⟩ <;> exact Bool.false_ne_true
  | next here taken follows =>
    intro new member
    cases follows new member
    exact Bool.false_ne_true
  | _ => simp [calling, or_imp, forall_and]

variable {stage : List (Action Id)}

omit [DecidableEq Id] performed in
theorem Calling.same (calling : Calling number call stage)
    (returned : call'.returned = call.returned) (refused : call'.refused = call.refused) :
    Calling number call' stage := by
  cases calling with
  | submitting unreturned unrefused =>
    exact .submitting (returned.trans unreturned) (refused.trans unrefused)
  | returning unreturned unrefused =>
    exact .returning (returned.trans unreturned) (refused.trans unrefused)
  | finished once =>
    refine .finished fun now => ?_
    rw [returned] at now
    exact refused.trans (once now)

theorem Calling.perform (calls : Calling number call (action :: stage))
    (before : client.objects[number]? = some call) (present : next.objects[number]? = some call') :
    stage = [] ∧ Calling number call' (more.filter (calling number)) := by
  cases calls with
  | submitting unreturned unrefused =>
    refine ⟨rfl, ?_⟩
    simp only [RpcCalls.perform, before] at performed
    split at performed
    · cases performed
    · cases performed
      rw [before] at present
      cases present
      have own : calling number (.setStopContext number : Action Id) = true := decide_eq_true rfl
      rw [List.filter_cons_of_pos own]
      exact .returning unreturned unrefused
    · cases performed
      rw [Client.objects_adjust, before, Option.map_some, if_pos List.mem_cons_self] at present
      cases present
      refine .finished fun now => ?_
      cases unreturned.symm.trans now
  | returning unreturned unrefused =>
    cases performed
    rw [Client.objects_adjust, before, Option.map_some, if_pos List.mem_cons_self] at present
    cases present
    exact ⟨rfl, .finished fun _ => unrefused⟩

theorem Callers.resume (callers : Callers client programs)
    (running : programs thread = action :: rest) :
    Callers next (Function.update programs thread (more ++ rest)) := by
  refine ⟨?_, ?_⟩
  · intro number missing
    have before : client.objects[number]? = none := by
      cases found : client.objects[number]? with
      | none => rfl
      | some call =>
        obtain ⟨call', present, -⟩ := present_of_perform performed found
        rw [missing] at present
        cases present
    have sole := callers.absent before
    have foreign : calling number action = false := by
      cases mine : calling number action with
      | false => rfl
      | true => cases (sole.head running mine).1
    refine sole.resume running foreign (filter_calling performed foreign ?_)
    rintro id rfl rfl
    simp only [perform] at performed
    split at performed
    · cases performed
    · cases performed
      rw [List.getElem?_concat_length] at missing
      cases missing
  · intro number call' present
    rcases perform_evolves performed present with
      ⟨call, before, evolves⟩ | ⟨id, rfl, rfl, rfl⟩
    · obtain ⟨owner, stage, calls, sole⟩ := callers.calls before
      cases mine : calling number action with
      | false =>
        refine ⟨owner, stage, ?_, sole.resume running mine (filter_calling performed mine ?_)⟩
        · refine calls.same ?_ ?_
          · refine evolves.returned.resolve_right ?_
            rintro rfl
            exact of_decide_eq_false mine rfl
          · refine evolves.refused.resolve_right ?_
            rintro ⟨rfl, -⟩
            exact of_decide_eq_false mine rfl
        · rintro id - rfl
          rw [List.getElem?_eq_none (Nat.le_refl _)] at before
          cases before
      | true =>
        obtain ⟨rfl, rfl⟩ := sole.head running mine
        obtain ⟨nothing, calls'⟩ := calls.perform performed before present
        have taken := sole.take thread (fun _ own => (Option.some.inj own).symm) (more ++ rest)
        rw [List.filter_append, nothing, List.append_nil] at taken
        exact ⟨some thread, _, calls', taken⟩
    · have sole := callers.absent (List.getElem?_eq_none (Nat.le_refl _))
      have nothing := sole_nil_iff.mp sole thread
      have taken := sole.take thread (fun _ own => by cases own) (more ++ rest)
      rw [running, List.filter_cons_of_neg Bool.false_ne_true] at nothing
      simp only [perform] at performed
      split at performed
      · cases performed
      · cases performed
        have own : calling client.objects.length
            (.submit client.objects.length : Action Id) = true :=
          decide_eq_true rfl
        rw [List.filter_append, nothing, List.append_nil, List.filter_cons_of_pos own] at taken
        exact ⟨some thread, _, .submitting rfl rfl, taken⟩

end Performed

/-! ## Over a whole run -/

variable {operation : Operation Id} {program : List (Action Id)}

theorem start_call (begun : start client operation = some (next, program))
    (present : next.objects[number]? = some call') :
    ∃ call, client.objects[number]? = some call ∧ call'.correlationID = call.correlationID ∧
      call'.stream = call.stream ∧ call'.returned = call.returned ∧
      call'.refused = call.refused := by
  obtain ⟨-, same | ⟨closed, shut, -⟩, -⟩ := start_spec begun
  · rw [same] at present
    exact ⟨call', present, rfl, rfl, rfl, rfl⟩
  · rw [shut, Client.objects_adjust] at present
    obtain ⟨call, before, rfl⟩ := Option.map_eq_some_iff.mp present
    refine ⟨call, before, ?_⟩
    split <;> exact ⟨rfl, rfl, rfl, rfl⟩

theorem Excused.start (excused : Excused client number)
    (begun : start client operation = some (next, program)) : Excused next number := by
  obtain ⟨call, before, reason⟩ := excused
  obtain ⟨-, same | ⟨closed, shut, -⟩, -⟩ := start_spec begun
  · exact ⟨call, same ▸ before, reason⟩
  · refine ⟨if number ∈ [closed] then call.shut else call, ?_, ?_⟩
    · rw [shut, Client.objects_adjust, before]
      rfl
    · split
      · exact Or.inl rfl
      · exact reason

theorem absent_of_start (begun : start client operation = some (next, program))
    (missing : next.objects[number]? = none) : client.objects[number]? = none := by
  obtain ⟨-, same | ⟨closed, shut, -⟩, -⟩ := start_spec begun
  · rw [← same]
    exact missing
  · rw [shut, Client.objects_adjust] at missing
    exact Option.map_eq_none_iff.mp missing

variable [DecidableEq Id]

structure Accounted (state : State Id) : Prop extends Settled state where
  covered : Covered state.shared state.programs
  justified : Everywhere (Justified state.shared) state.programs
  explained : Explained state.shared
  callers : Callers state.shared state.programs

variable {state : State Id}

theorem Accounted.resume (accounted : Accounted state)
    (running : state.programs thread = action :: rest)
    (performed : perform state.shared thread action choice = some (next, more)) :
    Accounted (state.resume thread next (more ++ rest)) := by
  have justified := accounted.justified.head running
  have everywhere : Everywhere (Justified next) state.programs :=
    accounted.justified.mono fun _ other => other.mono fun _ excused => excused.perform performed
  exact
    { toMapped := accounted.toMapped.resume running performed
      custody := accounted.custody.resume accounted.coherent running performed
      covered := accounted.covered.resume performed accounted.coherent
        (accounted.sound.head running) running
      justified := everywhere.resume running
        (perform_justified performed accounted.coherent justified)
      explained := accounted.explained.perform performed justified
      callers := accounted.callers.resume performed running }

theorem Accounted.begin (accounted : Accounted state)
    (unstarted : state.programs state.started = [])
    (begun : start state.shared operation = some (next, program)) :
    Accounted (state.begin next program) := by
  have maps := (start_spec begun).1
  have quiet : ∀ number, program.filter (calling number) =
      (state.programs state.started).filter (calling number) := by
    intro number
    rw [unstarted]
    refine List.filter_eq_nil_iff.mpr fun action member => ?_
    cases (start_spec begun).2.2 action member <;> exact Bool.false_ne_true
  refine
    { toMapped := accounted.toMapped.begin begun
      custody := accounted.custody.begin unstarted begun
      covered := ?_
      justified := ?_
      explained := ?_
      callers := ⟨?_, ?_⟩ }
  · intro number call' present
    obtain ⟨call, before, correlationID, stream, -, -⟩ := start_call begun present
    rw [correlationID, stream, System.begin, maps]
    refine (accounted.covered number call before).imp_right
      fun other => other.imp_right fun somewhere => ?_
    refine somewhere.update fun action member => ?_
    rw [unstarted] at member
    cases member
  · have everywhere : Everywhere (Justified next) state.programs :=
      accounted.justified.mono fun _ other => other.mono fun _ excused => excused.start begun
    refine everywhere.update fun action member => ?_
    cases (start_spec begun).2.2 action member with
    | closeStream here ended => exact Or.inr ⟨_, here, Or.inl ended⟩
    | _ => trivial
  · intro number call' present closed
    obtain ⟨call, before, -, stream, -, -⟩ := start_call begun present
    rw [stream] at closed ⊢
    exact (accounted.explained number call before closed).imp_right
      fun excused => excused.start begun
  · intro number missing
    exact (accounted.callers.absent (absent_of_start begun missing)).keep (quiet number)
  · intro number call' present
    obtain ⟨call, before, -, -, returned, refused⟩ := start_call begun present
    obtain ⟨owner, stage, calls, sole⟩ := accounted.callers.calls before
    exact ⟨owner, stage, calls.same returned refused, sole.keep (quiet number)⟩

theorem accounted_initial : Accounted (initial : State Id) where
  toSettled := settled_initial
  covered := fun _ _ present => by cases present
  justified := fun _ _ member => by cases member
  explained := fun _ _ present => by cases present
  callers :=
    { absent := fun _ => sole_nil_iff.mpr fun _ => rfl
      calls := fun present => by cases present }

theorem Accounted.unrefused (accounted : Accounted state)
    (present : state.shared.objects[number]? = some call)
    (returned : call.returned = true) : call.refused = false := by
  obtain ⟨owner, stage, calls, -⟩ := accounted.callers.calls present
  cases calls with
  | submitting unreturned refused | returning unreturned refused => exact refused
  | finished once => exact once returned

theorem accounted_of_run {events : List (Event (Operation Id) Choice)}
    {final : State Id} (ran : run machine.step initial events = some final) : Accounted final :=
  Threads.invariant_of_run Accounted
    (fun accounted unstarted begun => accounted.begin unstarted begun)
    (fun accounted running performed => accounted.resume running performed)
    accounted_initial ran

end FitzGo.Domains.RpcCalls
