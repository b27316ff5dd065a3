import FitzGo.Domains.RpcCallMaps

/-!
# The outcome of a call

Whoever takes a call out of `calls` owes it an outcome. The debt goes through
the sections of `complete`, all in the thread that took the call out, and ends
with the cancellation channel closed after one outcome.
-/

namespace FitzGo.Domains.RpcCalls

open StepMachine Threads

variable {Id : Type} [DecidableEq Id]
variable {client next : Client Id} {thread number : Nat} {action : Action Id}
variable {choice : Choice} {more rest : List (Action Id)}
variable {call call' : Call Id} {programs : Nat → List (Action Id)}

def completes (number : Nat) : Action Id → Bool
  | .complete other _ | .send other _ | .closeCancellation other => decide (other = number)
  | _ => false

inductive Completing (number : Nat) (call : Call Id) : List (Action Id) → Prop
  | owed (outcome : CancellationOutcome) (completed : call.completed = false)
      (received : call.cancellation = [])
      (unclosed : call.cancellationClosed = false) :
      Completing number call [.complete number outcome]
  | sending (outcome : CancellationOutcome) (completed : call.completed = true)
      (received : call.cancellation = [])
      (unclosed : call.cancellationClosed = false) :
      Completing number call [.send number outcome]
  | closing (outcome : CancellationOutcome) (completed : call.completed = true)
      (received : call.cancellation = [outcome])
      (unclosed : call.cancellationClosed = false) :
      Completing number call [.closeCancellation number]
  | finished (outcome : CancellationOutcome) (completed : call.completed = true)
      (received : call.cancellation = [outcome])
      (closed : call.cancellationClosed = true) :
      Completing number call []

/-- A call is registered and nobody owes it anything, or one thread took it out
and owes it its outcome. -/
inductive Held (number : Nat) (call : Call Id) (maps : Maps Id)
    (programs : Nat → List (Action Id)) : Prop
  | registered (staying : call.leftBy = none)
      (here : maps.calls.lookup call.correlationID = some number)
      (completed : call.completed = false) (received : call.cancellation = [])
      (unclosed : call.cancellationClosed = false)
      (sole : Sole (completes number) programs none [])
  | left {thread : Nat} {stage : List (Action Id)} (by_ : call.leftBy = some thread)
      (gone : maps.calls.lookup call.correlationID ≠ some number)
      (completing : Completing number call stage)
      (sole : Sole (completes number) programs (some thread) stage)

structure Custody (client : Client Id) (programs : Nat → List (Action Id)) : Prop where
  absent : ∀ {number}, client.objects[number]? = none → Sole (completes number) programs none []
  held : ∀ {number call}, client.objects[number]? = some call →
    Held number call client.maps programs

/-- Two states of a call that a thread which owes it an outcome cannot tell
apart. -/
structure SameStanding (call call' : Call Id) : Prop where
  correlationID : call'.correlationID = call.correlationID
  completed : call'.completed = call.completed
  cancellation : call'.cancellation = call.cancellation
  cancellationClosed : call'.cancellationClosed = call.cancellationClosed

omit [DecidableEq Id] in
theorem SameStanding.trans {last : Call Id} (first : SameStanding call call')
    (second : SameStanding call' last) : SameStanding call last where
  correlationID := second.correlationID.trans first.correlationID
  completed := second.completed.trans first.completed
  cancellation := second.cancellation.trans first.cancellation
  cancellationClosed := second.cancellationClosed.trans first.cancellationClosed

omit [DecidableEq Id] in
theorem Completing.same {stage : List (Action Id)} (completing : Completing number call stage)
    (same : SameStanding call call') : Completing number call' stage := by
  cases completing with
  | owed outcome completed received unclosed =>
    exact .owed outcome (same.completed.trans completed) (same.cancellation.trans received)
      (same.cancellationClosed.trans unclosed)
  | sending outcome completed received unclosed =>
    exact .sending outcome (same.completed.trans completed) (same.cancellation.trans received)
      (same.cancellationClosed.trans unclosed)
  | closing outcome completed received unclosed =>
    exact .closing outcome (same.completed.trans completed) (same.cancellation.trans received)
      (same.cancellationClosed.trans unclosed)
  | finished outcome completed received closed =>
    exact .finished outcome (same.completed.trans completed) (same.cancellation.trans received)
      (same.cancellationClosed.trans closed)

variable {maps : Maps Id} {program : List (Action Id)}

theorem Held.stay {maps' : Maps Id} (held : Held number call maps programs)
    (same : SameStanding call call') (left : call'.leftBy = call.leftBy)
    (lookup : maps'.calls.lookup call.correlationID = some number ↔
      maps.calls.lookup call.correlationID = some number)
    (silent : program.filter (completes number) = (programs thread).filter (completes number)) :
    Held number call' maps' (Function.update programs thread program) := by
  cases held with
  | registered staying here completed received unclosed sole =>
    refine .registered (left.trans staying) ?_ (same.completed.trans completed)
      (same.cancellation.trans received)
      (same.cancellationClosed.trans unclosed) (sole.keep silent)
    rw [same.correlationID]
    exact lookup.mpr here
  | left by_ gone completing sole =>
    refine .left (left.trans by_) ?_ (completing.same same) (sole.keep silent)
    rw [same.correlationID]
    exact fun here => gone (lookup.mp here)

variable {outcome : CancellationOutcome}

theorem Held.leave {maps' : Maps Id} (held : Held number call maps programs)
    (here : maps.calls.lookup call.correlationID = some number) (same : SameStanding call call')
    (left : call'.leftBy = some thread) (gone : maps'.calls.lookup call.correlationID ≠ some number)
    (running : programs thread = action :: rest)
    (owed : more.filter (completes number) = [.complete number outcome]) :
    Held number call' maps' (Function.update programs thread (more ++ rest)) := by
  cases held with
  | registered staying here completed received unclosed sole =>
    have nothing : rest.filter (completes number) = [] := by
      have none_ := sole_nil_iff.mp sole thread
      rw [running] at none_
      exact List.filter_eq_nil_iff.mpr fun other member =>
        List.filter_eq_nil_iff.mp none_ other (List.mem_cons_of_mem _ member)
    have taken := sole.take thread (fun other own => by cases own) (more ++ rest)
    rw [List.filter_append, owed, nothing, List.append_nil] at taken
    refine .left left ?_ (.owed outcome (same.completed.trans completed)
      (same.cancellation.trans received)
      (same.cancellationClosed.trans unclosed)) taken
    rw [same.correlationID]
    exact gone
  | left by_ gone completing sole => exact absurd here gone

/-! ## Sections that take calls out -/

/-- A section that takes the calls `gone` out of the map and owes each of them
its outcome. -/
structure Leaves (client next : Client Id) (thread : Nat) (gone : List Nat)
    (more : List (Action Id)) : Prop where
  present : ∀ {number : Nat} {call'}, next.objects[number]? = some call' →
    ∃ call, client.objects[number]? = some call ∧ SameStanding call call' ∧
      call'.leftBy = if number ∈ gone then some thread else call.leftBy
  absent : ∀ {number : Nat}, next.objects[number]? = none → client.objects[number]? = none
  lookup : ∀ {id number}, next.maps.calls.lookup id = some number ↔
    client.maps.calls.lookup id = some number ∧ number ∉ gone
  registered : ∀ number ∈ gone, ∃ id, client.maps.calls.lookup id = some number
  owed : ∀ number ∈ gone, ∃ outcome, more.filter (completes number) = [.complete number outcome]
  silent : ∀ number ∉ gone, more.filter (completes number) = []

theorem Custody.leaves {gone : List Nat} (custody : Custody client programs)
    (coherent : client.maps.Coherent client.ids) (leaves : Leaves client next thread gone more)
    (running : programs thread = action :: rest)
    (other : ∀ number, completes number action = false) :
    Custody next (Function.update programs thread (more ++ rest)) where
  absent := by
    intro number missing
    have before := leaves.absent missing
    have staying : number ∉ gone := by
      intro member
      obtain ⟨id, registered⟩ := leaves.registered number member
      have named := coherent.named registered
      rw [Client.ids, List.getElem?_map, before] at named
      cases named
    exact (custody.absent before).resume running (other number) (leaves.silent number staying)
  held := by
    intro number call' present
    obtain ⟨call, before, same, left⟩ := leaves.present present
    have held := custody.held before
    by_cases member : number ∈ gone
    · rw [if_pos member] at left
      obtain ⟨id, registered⟩ := leaves.registered number member
      have own : call.correlationID = id := by
        have named := coherent.named registered
        rw [Client.ids_getElem? before] at named
        exact Option.some.inj named
      obtain ⟨outcome, owed⟩ := leaves.owed number member
      refine held.leave (own ▸ registered) same left ?_ running owed
      exact fun here => (leaves.lookup.mp here).2 member
    · rw [if_neg member] at left
      have lookup : next.maps.calls.lookup call.correlationID = some number ↔
            client.maps.calls.lookup call.correlationID = some number :=
        ⟨fun here => (leaves.lookup.mp here).1, fun here => leaves.lookup.mpr ⟨here, member⟩⟩
      refine held.stay same left lookup ?_
      rw [running, List.filter_append, leaves.silent number member, List.nil_append,
        List.filter_cons_of_neg (by rw [other]; exact Bool.false_ne_true)]

/-- A change of calls that no thread which owes an outcome can tell. -/
def Keeps (change : Call Id → Call Id) : Prop :=
  ∀ call, SameStanding call (change call) ∧ (change call).leftBy = call.leftBy

variable {numbers : List Nat}

omit [DecidableEq Id] in
private theorem filter_completes_map (distinct : numbers.Nodup)
    (outcome : CancellationOutcome) (number : Nat) :
    (numbers.map fun other => (.complete other outcome : Action Id)).filter (completes number) =
      if number ∈ numbers then [.complete number outcome] else [] := by
  induction numbers with
  | nil => rfl
  | cons first others ih =>
    obtain ⟨fresh, distinctOthers⟩ := List.nodup_cons.mp distinct
    have tail := ih distinctOthers
    by_cases same : first = number
    · subst same
      rw [if_neg fresh] at tail
      rw [List.map_cons, List.filter_cons_of_pos (by simp [completes]), tail,
        if_pos List.mem_cons_self]
    · rw [List.map_cons, List.filter_cons_of_neg (by simp [completes, same]), tail]
      have member : number ∈ first :: others ↔ number ∈ others :=
        List.mem_cons.trans (or_iff_right (Ne.symm same))
      simp only [member]

omit [DecidableEq Id] in
private theorem filter_self (action : Action Id) (mine : completes number action = true) :
    [action].filter (completes number) = [action] :=
  List.filter_cons_of_pos mine

def Silent (new : List (Action Id)) : Prop :=
  ∀ number, new.filter (completes number) = []

omit [DecidableEq Id] in
theorem silent_of_forall {new : List (Action Id)}
    (other : ∀ action ∈ new, ∀ number, completes number action = false) : Silent new := by
  intro number
  refine List.filter_eq_nil_iff.mpr fun action member => ?_
  rw [other action member number]
  exact Bool.false_ne_true

omit [DecidableEq Id] in
theorem Silent.append {first second : List (Action Id)}
    (before : Silent first) (after : Silent second) : Silent (first ++ second) := by
  intro number
  rw [List.filter_append, before number, after number, List.nil_append]

omit [DecidableEq Id] in
private theorem silent_map {build : Nat → Action Id}
    (other : ∀ which number, completes number (build which) = false) :
    Silent (numbers.map build) := by
  refine silent_of_forall fun action member number => ?_
  obtain ⟨which, -, rfl⟩ := List.mem_map.mp member
  exact other which number

theorem leaves_unchanged (objects : next.objects = client.objects)
    (calls : next.maps.calls = client.maps.calls) (silent : Silent more) :
    Leaves client next thread [] more where
  present := by
    intro number call here
    rw [objects] at here
    exact ⟨call, here, ⟨rfl, rfl, rfl, rfl⟩, (if_neg List.not_mem_nil).symm⟩
  absent := fun missing => objects ▸ missing
  lookup := by
    intro id number
    rw [calls]
    exact (and_iff_left List.not_mem_nil).symm
  registered := List.forall_mem_nil _
  owed := List.forall_mem_nil _
  silent := fun number _ => silent number

variable {before : List (Action Id)} {gone : List Nat} {after : List (Action Id)}

theorem leaves_gone (objects : next.objects = (client.adjust gone (Call.leave thread)).objects)
    (lookup : ∀ {id number}, next.maps.calls.lookup id = some number ↔
      client.maps.calls.lookup id = some number ∧ number ∉ gone)
    (registered : ∀ number ∈ gone, ∃ id, client.maps.calls.lookup id = some number)
    (distinct : gone.Nodup) (first : Silent before) (last : Silent after) :
    Leaves client next thread gone (before ++ gone.map (.complete · outcome) ++ after) := by
  have owed : ∀ number,
      (before ++ gone.map (Action.complete · outcome) ++ after).filter (completes number) =
        if number ∈ gone then [.complete number outcome] else [] := by
    intro number
    rw [List.filter_append, List.filter_append, first number, last number,
      List.nil_append, List.append_nil]
    exact filter_completes_map distinct outcome number
  refine ⟨?_, ?_, lookup, registered, fun number member => ⟨outcome, ?_⟩, fun number staying => ?_⟩
  · intro number call' here
    rw [objects, Client.objects_adjust] at here
    obtain ⟨call, before, rfl⟩ := Option.map_eq_some_iff.mp here
    refine ⟨call, before, ?_⟩
    split <;> exact ⟨⟨rfl, rfl, rfl, rfl⟩, rfl⟩
  · intro number missing
    rw [objects, Client.objects_adjust] at missing
    exact Option.map_eq_none_iff.mp missing
  · rw [owed, if_pos member]
  · rw [owed, if_neg staying]

variable {change : Call Id → Call Id}

theorem Leaves.adjust {middle : Client Id}
    (leaves : Leaves client middle thread gone more) (which : List Nat) (keeps : Keeps change) :
    Leaves client (middle.adjust which change) thread gone more where
  present := by
    intro number call' here
    rw [Client.objects_adjust] at here
    obtain ⟨call, present, rfl⟩ := Option.map_eq_some_iff.mp here
    obtain ⟨before, found, same, left⟩ := leaves.present present
    refine ⟨before, found, ?_⟩
    split
    · obtain ⟨kept, leftBy⟩ := keeps call
      exact ⟨same.trans kept, leftBy.trans left⟩
    · exact ⟨same, left⟩
  absent := by
    intro number missing
    rw [Client.objects_adjust] at missing
    exact leaves.absent (Option.map_eq_none_iff.mp missing)
  lookup := leaves.lookup
  registered := leaves.registered
  owed := leaves.owed
  silent := leaves.silent

theorem leaves_adjust (which : List Nat)
    (objects : next.objects = (client.adjust which change).objects)
    (calls : next.maps.calls = client.maps.calls) (silent : Silent more)
    (keeps : Keeps change) : Leaves client next thread [] more := by
  have adjusted : Leaves client (client.adjust which change) thread [] more :=
    (leaves_unchanged rfl rfl silent).adjust which keeps
  exact { adjusted with
      present := fun here => adjusted.present (objects ▸ here)
      absent := fun missing => adjusted.absent (objects ▸ missing)
      lookup := by
        intro id number
        rw [calls]
        exact adjusted.lookup }

section

variable (coherent : client.maps.Coherent client.ids)
include coherent

private theorem lookup_drop_iff (id : Id) {other : Id} {number : Nat} :
    (client.maps.drop id).calls.lookup other = some number ↔
      client.maps.calls.lookup other = some number ∧
      number ∉ (client.maps.calls.lookup id).toList := by
  rw [Maps.drop, Table.lookup_erase_eq_some_iff, Option.mem_toList]
  constructor
  · rintro ⟨different, here⟩
    exact ⟨here, fun dropped => different (coherent.injective here dropped)⟩
  · rintro ⟨here, staying⟩
    refine ⟨?_, here⟩
    rintro rfl
    exact staying here

private theorem leaves_drop (thread : Nat) (id : Id) (outcome : CancellationOutcome)
    (first : Silent before) (last : Silent after) :
    Leaves client (({ client with maps := client.maps.drop id }).adjust
        (client.maps.calls.lookup id).toList (Call.leave thread))
      thread (client.maps.calls.lookup id).toList
      (before ++ (client.maps.calls.lookup id).toList.map (.complete · outcome) ++ after) := by
  have objects : (({ client with maps := client.maps.drop id }).adjust
          (client.maps.calls.lookup id).toList (Call.leave thread)).objects =
        (client.adjust (client.maps.calls.lookup id).toList (Call.leave thread)).objects :=
    rfl
  refine leaves_gone objects (lookup_drop_iff coherent id) ?_ ?_ first last
  · intro number member
    exact ⟨id, Option.mem_toList.mp member⟩
  · cases client.maps.calls.lookup id with
    | none => exact List.nodup_nil
    | some number => exact List.nodup_singleton number

private theorem leaves_clear (ranges : Ranges gone client.maps.calls)
    (first : Silent before) (last : Silent after) :
    Leaves client (({ client with maps := Maps.empty }).adjust gone (Call.leave thread))
      thread gone (before ++ gone.map (.complete · outcome) ++ after) := by
  have objects : (({ client with maps := Maps.empty }).adjust gone (Call.leave thread)).objects =
        (client.adjust gone (Call.leave thread)).objects :=
    rfl
  have member : ∀ number, number ∈ gone ↔ ∃ id, client.maps.calls.lookup id = some number := by
    intro number
    exact ranges.mem_iff.trans Table.mem_values_iff
  have distinct : gone.Nodup := ranges.nodup_iff.mpr (Table.nodup_values coherent.injective)
  refine leaves_gone objects ?_ (fun number => (member number).mp) distinct first last
  intro id number
  rw [Client.maps_adjust, Maps.empty, AList.lookup_empty]
  constructor
  · intro impossible
    cases impossible
  · rintro ⟨here, staying⟩
    exact absurd ((member number).mpr ⟨id, here⟩) staying

/-- The sections of `complete` and the registration of a call have lemmas of
their own. -/
def Action.plain : Action Id → Bool
  | .register _ | .complete _ _ | .send _ _ | .closeCancellation _ => false
  | _ => true

theorem perform_leaves (plain : action.plain = true)
    (performed : perform client thread action choice = some (next, more)) :
    ∃ gone, Leaves client next thread gone more := by
  cases performs_of_perform performed with
  | register | completed | complete | send | closeCancellation => cases plain
  | @responded id stream payload | @ended id stream payload =>
    have silent : Silent (reactTo id stream payload).2 := by
      refine silent_of_forall fun new member number => ?_
      rcases mem_reactTo member with ⟨frame, rfl⟩ | ⟨error, rfl, -⟩ <;> rfl
    first
    | exact ⟨[], leaves_unchanged rfl rfl silent⟩
    | exact ⟨[], leaves_adjust _ rfl rfl silent fun _ => ⟨⟨rfl, rfl, rfl, rfl⟩, rfl⟩⟩
  | finishCall id outcome =>
    exact ⟨_, leaves_drop coherent thread id outcome (silent_map fun _ _ => rfl) fun _ => rfl⟩
  | next here taken follows =>
    refine ⟨[], leaves_adjust _ rfl rfl (silent_of_forall fun new member _ => ?_)
      fun _ => ⟨⟨rfl, rfl, rfl, rfl⟩, rfl⟩⟩
    cases follows new member
    rfl
  | cancelAbsent =>
    refine ⟨[], Leaves.adjust ?_ _ fun _ => ⟨⟨rfl, rfl, rfl, rfl⟩, rfl⟩⟩
    exact leaves_unchanged rfl rfl (silent_map fun _ _ => rfl)
  | cancelPendingRPC =>
    refine ⟨[], Leaves.adjust ?_ _ fun _ => ⟨⟨rfl, rfl, rfl, rfl⟩, rfl⟩⟩
    exact leaves_unchanged rfl rfl fun _ => rfl
  | sendCancellation => exact ⟨[], leaves_unchanged rfl rfl (silent_map fun _ _ => rfl)⟩
  | finishCancellation id outcome =>
    have silent : Silent ((client.maps.cancelTimers.lookup id).toList.map .stopTimer ++
          (client.maps.pendingRPCs.lookup id).toList.map
            fun stream => (.closeStream stream none : Action Id)) :=
      (silent_map fun _ _ => rfl).append (silent_map fun _ _ => rfl)
    have dropped := leaves_drop coherent thread id outcome silent (fun _ => rfl : Silent [])
    rw [List.append_nil] at dropped
    exact ⟨_, dropped.adjust _ fun _ => ⟨⟨rfl, rfl, rfl, rfl⟩, rfl⟩⟩
  | closePendingRPCs ranges =>
    exact ⟨_, leaves_clear coherent ranges (silent_map fun _ _ => rfl) (silent_map fun _ _ => rfl)⟩
  | refused | setStopContext | enqueue | closeStream =>
    exact ⟨[], leaves_adjust _ rfl rfl (fun _ => rfl) fun _ => ⟨⟨rfl, rfl, rfl, rfl⟩, rfl⟩⟩
  | _ => exact ⟨[], leaves_unchanged rfl rfl fun _ => rfl⟩

end

/-! ## The outcome over a whole run -/

theorem Custody.register {id : Id} (custody : Custody client programs)
    (fresh : id ∉ client.ids) (running : programs thread = .register id :: rest) :
    Custody (client.register id).1
      (Function.update programs thread ((client.register id).2 ++ rest)) := by
  have resume : ∀ {number owner stage}, Sole (completes number) programs owner stage →
      Sole (completes number) (Function.update programs thread ((client.register id).2 ++ rest))
        owner stage :=
    fun sole => sole.resume running rfl rfl
  refine ⟨?_, ?_⟩
  · intro number missing
    refine resume (custody.absent ?_)
    rw [List.getElem?_eq_none_iff] at missing ⊢
    simp only [Client.register, List.length_append] at missing
    omega
  · intro number call present
    simp only [Client.register] at present ⊢
    by_cases old : number < client.objects.length
    · rw [List.getElem?_append_left old] at present
      have held := custody.held present
      have different : call.correlationID ≠ id := by
        rintro rfl
        exact fresh (List.mem_of_getElem? (Client.ids_getElem? present))
      refine held.stay ⟨rfl, rfl, rfl, rfl⟩ rfl ?_ ?_
      · rw [Maps.register, AList.lookup_insert_ne different]
      · rw [running]
        rfl
    · have within : number < (client.objects ++ [newCall id]).length :=
        (List.getElem?_eq_some_iff.mp present).1
      have last : number = client.objects.length := by
        rw [List.length_append, List.length_singleton] at within
        omega
      subst last
      rw [List.getElem?_concat_length] at present
      cases present
      have unheld : client.objects[client.objects.length]? = none :=
        List.getElem?_eq_none (Nat.le_refl _)
      exact .registered rfl (AList.lookup_insert _) rfl rfl rfl (resume (custody.absent unheld))

theorem Custody.progress (custody : Custody client programs)
    (running : programs thread = action :: rest) (mine : completes number action = true)
    (foreign : ∀ other ≠ number, completes other action = false ∧
      more.filter (completes other) = [])
    (kept : ∀ call, (change call).correlationID = call.correlationID ∧
      (change call).leftBy = call.leftBy)
    (advances : ∀ call stage, client.objects[number]? = some call →
      Completing number call (action :: stage) → stage = [] ∧
      Completing number (change call) (more.filter (completes number))) :
    Custody (client.adjust [number] change) (Function.update programs thread (more ++ rest)) := by
  have same : ∀ other ≠ number, (more ++ rest).filter (completes other) =
        (programs thread).filter (completes other) := by
    intro other different
    obtain ⟨elsewhere, silent⟩ := foreign other different
    rw [running, List.filter_append, silent, List.nil_append,
      List.filter_cons_of_neg (by rw [elsewhere]; exact Bool.false_ne_true)]
  refine ⟨?_, ?_⟩
  · intro other missing
    rw [Client.objects_adjust, Option.map_eq_none_iff] at missing
    have sole := custody.absent missing
    refine sole.keep (same other ?_)
    rintro rfl
    cases (sole.head running mine).1
  · intro other call' present
    rw [Client.objects_adjust] at present
    obtain ⟨call, before, rfl⟩ := Option.map_eq_some_iff.mp present
    have held := custody.held before
    by_cases here : other = number
    · subst here
      rw [if_pos List.mem_cons_self]
      obtain ⟨correlationID, leftBy⟩ := kept call
      cases held with
      | registered staying _ completed received unclosed sole => cases (sole.head running mine).1
      | left by_ gone completing sole =>
        obtain ⟨own, stage⟩ := sole.head running mine
        cases own
        subst stage
        obtain ⟨nothing, completing'⟩ := advances call _ before completing
        have taken := sole.take thread (fun _ own => (Option.some.inj own).symm) (more ++ rest)
        rw [List.filter_append, nothing, List.append_nil] at taken
        refine .left (leftBy.trans by_) ?_ completing' taken
        rw [correlationID]
        exact gone
    · rw [if_neg fun member => here (List.mem_singleton.mp member)]
      exact held.stay ⟨rfl, rfl, rfl, rfl⟩ rfl Iff.rfl (same other here)

theorem Custody.owing (custody : Custody client programs)
    (running : programs thread = action :: rest) (mine : completes number action = true)
    (present : client.objects[number]? = some call) :
    ∃ stage, Completing number call (action :: stage) := by
  cases custody.held present with
  | registered staying here completed received unclosed sole => cases (sole.head running mine).1
  | left by_ gone completing sole =>
    obtain ⟨-, stage⟩ := sole.head running mine
    exact ⟨_, stage ▸ completing⟩

omit [DecidableEq Id] in
theorem Action.completes_of_plain (plain : action.plain = true)
    (number : Nat) : completes number action = false := by
  cases action with
  | register id | complete number outcome | send number outcome
  | closeCancellation number => cases plain
  | _ => rfl

theorem Custody.resume (custody : Custody client programs)
    (coherent : client.maps.Coherent client.ids) (running : programs thread = action :: rest)
    (performed : perform client thread action choice = some (next, more)) :
    Custody next (Function.update programs thread (more ++ rest)) := by
  cases plain : action.plain with
  | true =>
    obtain ⟨gone, leaves⟩ := perform_leaves coherent plain performed
    exact custody.leaves coherent leaves running (Action.completes_of_plain plain)
  | false =>
    cases performs_of_perform performed with
    | register fresh => exact custody.register fresh running
    | completed outcome present done =>
      obtain ⟨stage, owing⟩ := custody.owing running (decide_eq_true rfl) present
      cases owing with
      | owed _ completed => cases completed.symm.trans done
    | complete number outcome =>
      refine custody.progress running (decide_eq_true rfl)
        (fun other different => by simp [completes, Ne.symm different]) (fun _ => ⟨rfl, rfl⟩) ?_
      intro call stage _ owing
      cases owing with
      | owed _ completed received unclosed =>
        rw [filter_self (.send number outcome) (decide_eq_true rfl)]
        exact ⟨rfl, .sending outcome rfl received unclosed⟩
    | send number outcome =>
      refine custody.progress running (decide_eq_true rfl)
        (fun other different => by simp [completes, Ne.symm different]) (fun _ => ⟨rfl, rfl⟩) ?_
      intro call stage _ owing
      cases owing with
      | sending _ completed received unclosed =>
        rw [filter_self (.closeCancellation number) (decide_eq_true rfl)]
        refine ⟨rfl, .closing outcome completed ?_ unclosed⟩
        rw [received, List.nil_append]
    | closeCancellation number =>
      refine custody.progress running (decide_eq_true rfl)
        (fun other different => by simp [completes, Ne.symm different]) (fun _ => ⟨rfl, rfl⟩) ?_
      intro call stage _ owing
      cases owing with
      | closing outcome completed received unclosed =>
        exact ⟨rfl, .finished outcome completed received rfl⟩
    | _ => cases plain

variable {state : State Id}

theorem Custody.begin (custody : Custody state.shared state.programs)
    (unstarted : state.programs state.started = []) {operation : Operation Id}
    (begun : start state.shared operation = some (next, program)) :
    Custody next (Function.update state.programs state.started program) := by
  obtain ⟨maps, objects, entries⟩ := start_spec begun
  have silent : Silent program := by
    refine silent_of_forall fun action member number => ?_
    cases entries action member <;> rfl
  have leaves : Leaves state.shared next state.started [] program := by
    have calls : next.maps.calls = state.shared.maps.calls := by rw [maps]
    rcases objects with same | ⟨number, shut, -⟩
    · exact leaves_unchanged same calls silent
    · exact leaves_adjust [number] shut calls silent fun _ => ⟨⟨rfl, rfl, rfl, rfl⟩, rfl⟩
  have quiet : ∀ number, program.filter (completes number) =
      (state.programs state.started).filter (completes number) := by
    intro number
    rw [unstarted, silent number]
    rfl
  refine ⟨?_, ?_⟩
  · intro number missing
    exact (custody.absent (leaves.absent missing)).keep (quiet number)
  · intro number call' present
    obtain ⟨call, before, same, left⟩ := leaves.present present
    rw [if_neg List.not_mem_nil] at left
    refine (custody.held before).stay same left ?_ (quiet number)
    rw [maps]

structure Settled (state : State Id) : Prop extends Mapped state where
  custody : Custody state.shared state.programs

theorem settled_initial : Settled (initial : State Id) where
  toMapped := mapped_initial
  custody :=
    { absent := fun _ => sole_nil_iff.mpr fun _ => rfl
      held := fun present => by cases present }

theorem settled_of_run {events : List (Event (Operation Id) Choice)}
    {final : State Id} (ran : run machine.step initial events = some final) : Settled final := by
  refine Threads.invariant_of_run Settled ?_ ?_ settled_initial ran
  · intro state operation next program settled unstarted begun
    exact
      { toMapped := settled.toMapped.begin begun
        custody := settled.custody.begin unstarted begun }
  · intro state thread action rest choice next more settled running performed
    exact
      { toMapped := settled.toMapped.resume running performed
        custody := settled.custody.resume settled.coherent running performed }

structure Maps.Nested (maps : Maps Id) : Prop where
  requested : ∀ id ∈ maps.cancelRequested, id ∈ maps.calls
  pending : ∀ id ∈ maps.pendingRPCs, id ∈ maps.calls
  timers : ∀ id ∈ maps.cancelTimers, id ∈ maps.cancelRequested

/-- The cancellation channel of one call: at most one outcome, then the close,
and both once the operation that took the call out of `calls` has finished. -/
structure OneOutcome (state : State Id) (number : Nat) (call : Call Id) : Prop where
  once : call.cancellation.length ≤ 1
  closed_after : call.cancellationClosed = true → call.cancellation.length = 1
  then_closed : call.cancellation ≠ [] → call.cancellationClosed = true ∨
    ∃ thread, .closeCancellation number ∈ state.programs thread
  delivered : state.shared.maps.calls.lookup call.correlationID ≠ some number →
    ∃ thread, call.leftBy = some thread ∧ (state.programs thread = [] →
    call.cancellation.length = 1 ∧ call.cancellationClosed = true)

theorem Maps.Coherent.nested {ids : List Id} (coherent : maps.Coherent ids) : maps.Nested where
  requested := fun _ => coherent.requested
  pending := by
    intro id here
    obtain ⟨number, found⟩ := Option.isSome_iff_exists.mp (AList.lookup_isSome.mpr here)
    exact AList.lookup_isSome.mp (Option.isSome_iff_exists.mpr ⟨number, coherent.pending found⟩)
  timers := fun _ => coherent.timed

theorem oneOutcome_of_unsent (received : call.cancellation = [])
    (unclosed : call.cancellationClosed = false) (left : call.leftBy = some thread)
    (unfinished : state.programs thread ≠ []) : OneOutcome state number call where
  once := by
    rw [received]
    exact Nat.zero_le 1
  closed_after := by
    intro closed
    rw [unclosed] at closed
    cases closed
  then_closed := fun nonempty => absurd received nonempty
  delivered := fun _ => ⟨thread, left, fun idle => absurd idle unfinished⟩

theorem Held.oneOutcome (held : Held number call state.shared.maps state.programs) :
    OneOutcome state number call := by
  cases held with
  | registered staying here completed received unclosed sole =>
    refine ⟨?_, ?_, ?_, fun gone => absurd here gone⟩
    · rw [received]
      exact Nat.zero_le 1
    · intro closed
      rw [unclosed] at closed
      cases closed
    · exact fun nonempty => absurd received nonempty
  | @left thread stage by_ gone completing sole =>
    have pending : ∀ action ∈ stage, action ∈ state.programs thread := by
      intro action member
      have own := sole thread
      rw [if_pos rfl] at own
      rw [← own] at member
      exact List.mem_of_mem_filter member
    cases completing with
    | owed outcome completed received unclosed
    | sending outcome completed received unclosed =>
      exact oneOutcome_of_unsent received unclosed by_
        (List.ne_nil_of_mem (pending _ List.mem_cons_self))
    | closing outcome completed received unclosed =>
      have closing := pending _ List.mem_cons_self
      refine ⟨?_, ?_, ?_, ?_⟩
      · rw [received]
        exact Nat.le_refl 1
      · intro _
        rw [received]
        rfl
      · exact fun _ => Or.inr ⟨thread, closing⟩
      · exact fun _ => ⟨thread, by_, fun idle => absurd idle (List.ne_nil_of_mem closing)⟩
    | finished outcome completed received closed =>
      have one : call.cancellation.length = 1 := by
        rw [received]
        rfl
      exact
        { once := Nat.le_of_eq one
          closed_after := fun _ => one
          then_closed := fun _ => Or.inl closed
          delivered := fun _ => ⟨thread, by_, fun _ => ⟨one, closed⟩⟩ }

/-- Over every run the keys of the maps are nested, and every call gets its
outcome once. -/
theorem calls_are_booked {events : List (Event (Operation Id) Choice)}
    {final : State Id} (ran : run machine.step initial events = some final) :
    final.shared.maps.Nested ∧
      ∀ number call, final.shared.objects[number]? = some call → OneOutcome final number call := by
  have settled := settled_of_run ran
  exact ⟨settled.coherent.nested, fun _ _ present => (settled.custody.held present).oneOutcome⟩

/-- A cancellation waits for the broker while the last response arrives, and the
loss of the connection decides it. -/
def cancelledRun : List (Event (Operation Nat) Choice) :=
  [.start (.call 5), .advance 0 {}, .advance 0 {}, .advance 0 {},
    .start (.contextDone 0), .advance 1 {}, .advance 1 {}, .advance 1 {},
    .start (.response 5 [0, 0, 0, 0, 0, 0, 0, 0, 1, 0, 0, 0, 0]),
    .advance 2 {}, .advance 2 {}, .advance 2 {},
    .start .connectionLost, .advance 3 { timers := [0], calls := [0] },
    .advance 3 {}, .advance 3 {}, .advance 3 {}, .advance 3 {},
    .start (.lifecycle 4 5 2), .advance 4 {}]

theorem cancelledRun_is_booked : ∃ final call, run machine.step initial cancelledRun = some final ∧
      final.shared.objects[0]? = some call ∧
      call.cancellation = [.connectionClosed] ∧ final.programs 3 = [] ∧
      final.shared.maps.Nested ∧ OneOutcome final 0 call := by
  obtain ⟨final, ran, idle, call, here, received⟩ :
      ∃ final, run machine.step initial cancelledRun = some final ∧
        final.programs 3 = [] ∧ ∃ call, final.shared.objects[0]? = some call ∧
          call.cancellation = [.connectionClosed] := by
    decide +kernel
  obtain ⟨nested, once⟩ := calls_are_booked ran
  exact ⟨final, call, ran, here, received, idle, nested, once 0 call here⟩

end FitzGo.Domains.RpcCalls
