import FitzGo.Domains.RpcStreams

/-!
# RPC calls and the end of their connection

When the dispatch loop of a connection ends, its monitor looks whether the
connection is still the client's and then closes every pending call.
-/

namespace FitzGo.Domains.RpcOrphans

open StepMachine Threads
open RpcCalls (Action Call Choice Client Operation SendResult)

/-- How far `attachConnection`, and then `monitorConnection`, has come. -/
inductive Monitor
  | attached
  | replaced
  | waiting
  | current
  | swapped
  | cleaning
  | returned
  deriving DecidableEq

/-- A connection; `cleaner` is the thread of its monitor's `ClosePendingRPCs`. -/
structure Connection where
  done : Bool
  transportClosed : Bool
  monitor : Monitor
  cleaner : Option Nat
  deriving DecidableEq

def newConnection : Connection where
  done := false
  transportClosed := false
  monitor := .attached
  cleaner := none

variable {Id : Type}

/-- `current` is the connection of the client and `rpcConn` that of its RPC
client. `sending` and `admitted` are about the threads of `Call`: the connection
they write on and whether they have a slot. `written` has every call whose
REQUEST was written, with the connection. -/
structure State (Id : Type) where
  rpc : RpcCalls.State Id
  connections : List Connection
  current : Option Nat
  rpcConn : Option Nat
  sending : Nat → Option Nat
  admitted : Nat → Bool
  written : List (Nat × Nat)

def initial : State Id where
  rpc := RpcCalls.initial
  connections := []
  current := none
  rpcConn := none
  sending := fun _ => none
  admitted := fun _ => false
  written := []

inductive Admission
  | slot
  | contextDone
  | connectionDone
  | queueFull

inductive Event (Id : Type)
  | rpc (event : Threads.Event (Operation Id) Choice)
  | attach
  | replaceConnection (conn : Nat)
  | startMonitor (conn : Nat)
  | disconnect (conn : Nat)
  | closeTransport (conn : Nat)
  | look (conn : Nat)
  | swap (conn : Nat)
  | cleanUp (conn : Nat)
  | finishMonitor (conn : Nat)
  | take (thread : Nat)
  | acquire (thread : Nat) (admission : Admission)
  | write (thread : Nat) (result : SendResult)

def State.submitting (state : State Id) (thread : Nat) : Option Nat :=
  match state.rpc.programs thread with
  | .submit number :: _ => some number
  | _ => none

def State.setConnection (state : State Id) (conn : Nat) (connection : Connection) : State Id :=
  { state with connections := state.connections.set conn connection }

def State.ordinary (state : State Id) : Threads.Event (Operation Id) Choice → Bool
  | .start .connectionLost => false
  | .start _ => true
  | .advance thread _ => (state.submitting thread).isNone

variable [DecidableEq Id]

def State.submit (state : State Id) (thread : Nat) (result : SendResult) : Option (State Id) :=
  (RpcCalls.machine.step state.rpc
      (.advance thread { sent := result })).map fun rpc => { state with rpc }

def step (state : State Id) : Event Id → Option (State Id)
  | .rpc event =>
    if state.ordinary event then
      (RpcCalls.machine.step state.rpc event).map fun rpc => { state with rpc }
    else none
  | .attach =>
    some { state with
      connections := state.connections ++ [newConnection]
      current := some state.connections.length }
  | .replaceConnection conn =>
    match state.connections[conn]? with
    | some connection =>
      if connection.monitor = .attached then
        some { state.setConnection conn { connection with monitor := .replaced } with
          rpcConn := some conn }
      else none
    | none => none
  | .startMonitor conn =>
    match state.connections[conn]? with
    | some connection =>
      if connection.monitor = .replaced then
        some (state.setConnection conn { connection with monitor := .waiting })
      else none
    | none => none
  | .disconnect conn =>
    match state.connections[conn]? with
    | some connection => some (state.setConnection conn { connection with done := true })
    | none => none
  | .closeTransport conn =>
    match state.connections[conn]? with
    | some connection => some (state.setConnection conn { connection with transportClosed := true })
    | none => none
  | .look conn =>
    match state.connections[conn]? with
    | some connection =>
      if connection.monitor = .waiting ∧ connection.done then
        some (state.setConnection conn
          (if state.current = some conn then { connection with monitor := .current }
          else { connection with monitor := .returned, cleaner := none }))
      else none
    | none => none
  | .swap conn =>
    match state.connections[conn]? with
    | some connection =>
      if connection.monitor = .current then
        some { state.setConnection conn { connection with monitor := .swapped } with
          current :=
            if state.current = some conn then none else state.current }
      else none
    | none => none
  | .cleanUp conn =>
    match state.connections[conn]? with
    | some connection =>
      if connection.monitor = .swapped then
        (RpcCalls.machine.step state.rpc (.start .connectionLost)).map fun rpc =>
            { state.setConnection conn
                { connection with
                  monitor := .cleaning
                  cleaner := some state.rpc.started } with
              rpc }
      else none
    | none => none
  | .finishMonitor conn =>
    match state.connections[conn]? with
    | some connection =>
      if connection.monitor = .cleaning ∧ (connection.cleaner.map state.rpc.programs) = some [] then
        some (state.setConnection conn { connection with monitor := .returned })
      else none
    | none => none
  | .take thread =>
    if (state.submitting thread).isSome ∧ state.sending thread = none ∧ state.rpcConn.isSome then
      some { state with sending := Function.update state.sending thread state.rpcConn }
    else none
  | .acquire thread admission =>
    match state.sending thread with
    | none => none
    | some conn =>
      if state.admitted thread then none
      else
        match admission with
        | .slot => some { state with admitted := Function.update state.admitted thread true }
        | .contextDone | .queueFull => state.submit thread .failed
        | .connectionDone =>
          -- the select takes this case only once `done` is closed
          if (state.connections[conn]?.map Connection.done) = some true
          then state.submit thread .connectionClosed
          else none
  | .write thread result =>
    match state.sending thread, state.submitting thread with
    | some conn, some number =>
      if ¬ state.admitted thread then none
      else
        match result with
        | .ok =>
          if (state.connections[conn]?.map Connection.transportClosed) = some false then
            (state.submit thread .ok).map fun next =>
              { next with written := (number, conn) :: next.written }
          else none
        | failure => state.submit thread failure
    | _, _ => none

/-! ## The condition -/

def State.cleaner (state : State Id) (conn : Nat) : Option Nat :=
  state.connections[conn]?.bind Connection.cleaner

def State.monitor (state : State Id) (conn : Nat) : Option Monitor :=
  state.connections[conn]?.map Connection.monitor

/-- The monitor has emptied the maps, or has returned without. -/
def State.swept (state : State Id) (conn : Nat) : Bool :=
  match state.cleaner conn with
  | none => decide (state.monitor conn = some .returned)
  | some thread => decide (.closePendingRPCs ∉ state.rpc.programs thread)

def State.pending (state : State Id) (number : Nat) : Bool :=
  match state.rpc.shared.objects[number]? with
  | none => false
  | some call => decide (state.rpc.shared.maps.pendingRPCs.lookup call.correlationID = some number)

/-- A monitor finds its connection current, or no call pending that was written
on it, and no REQUEST of a call that is still pending is written on a connection
whose monitor will not close it. -/
def Timely (state : State Id) : Event Id → Prop
  | .look conn => state.current = some conn ∨
      ∀ pair ∈ state.written, pair.2 = conn → state.pending pair.1 = false
  | .write thread .ok =>
    match state.sending thread, state.submitting thread with
    | some conn, some number => state.swept conn = false ∨ state.pending number = false
    | _, _ => True
  | _ => True

instance (state : State Id) (event : Event Id) : Decidable (Timely state event) := by
  cases event with
  | write thread result =>
    cases result with
    | ok =>
      dsimp only [Timely]
      split <;> infer_instance
    | _ =>
      dsimp only [Timely]
      infer_instance
  | _ =>
    dsimp only [Timely]
    infer_instance

/-! ## What a step does -/

/-- The monitor of a connection returns after its `ClosePendingRPCs`, or
without one. -/
inductive Watched (state next : State Id) (conn : Nat) : Prop
  | cleaning (cleaner : next.cleaner conn = state.cleaner conn)
      (monitor : next.monitor conn = some .returned →
        state.monitor conn = some .returned ∨ (state.cleaner conn).map state.rpc.programs = some [])
  | left (cleaner : next.cleaner conn = none)
      (drained : ∀ number, (number, conn) ∈ state.written → state.pending number = false)

inductive Effect (state next : State Id) : Prop
  | quiet (rpc : next.rpc = state.rpc) (written : next.written = state.written)
      (watched : ∀ conn, Watched state next conn)
  | advanced {event : Threads.Event (Operation Id) Choice}
      (stepped : RpcCalls.machine.step state.rpc event = some next.rpc)
      (written : next.written = state.written)
      (connections : next.connections = state.connections)
  | cleaned {conn : Nat} (stepped : RpcCalls.machine.step state.rpc (.start .connectionLost) =
        some next.rpc)
      (written : next.written = state.written)
      (cleaner : ∀ other, next.cleaner other =
        if other = conn then some state.rpc.started else state.cleaner other)
      (monitor : ∀ other, next.monitor other = some .returned →
        other ≠ conn ∧ state.monitor other = some .returned)
  | wrote {thread number : Nat} (conn : Nat) {rest : List (Action Id)}
      (running : state.rpc.programs thread = .submit number :: rest)
      (timely : state.swept conn = true → state.pending number = false)
      (stepped : RpcCalls.machine.step state.rpc (.advance thread { sent := .ok }) = some next.rpc)
      (written : next.written = (number, conn) :: state.written)
      (connections : next.connections = state.connections)

section Connections

variable {state next : State Id} {conn : Nat} {connection : Connection}

section

variable {changed : Connection} (here : state.connections[conn]? = some connection)
include here

omit [DecidableEq Id] in
theorem getElem?_setConnection (changed : Connection) (other : Nat) :
    (state.setConnection conn changed).connections[other]? =
      if other = conn then some changed else state.connections[other]? := by
  unfold State.setConnection
  rw [List.getElem?_set]
  by_cases same : other = conn
  · rw [if_pos same.symm, if_pos same, if_pos (List.getElem?_eq_some_iff.mp here).1]
  · rw [if_neg (Ne.symm same), if_neg same]

variable (connections : next.connections = (state.setConnection conn changed).connections)
include connections

omit [DecidableEq Id] in
theorem cleaner_setConnection (other : Nat) :
    next.cleaner other = if other = conn then changed.cleaner else state.cleaner other := by
  rw [State.cleaner, connections, getElem?_setConnection here]
  split <;> rfl

omit [DecidableEq Id] in
theorem monitor_setConnection (other : Nat) :
    next.monitor other = if other = conn then some changed.monitor else state.monitor other := by
  rw [State.monitor, connections, getElem?_setConnection here]
  split <;> rfl

theorem effect_of_watched (rpc : next.rpc = state.rpc) (written : next.written = state.written)
    (watched : Watched state next conn) : Effect state next := by
  refine .quiet rpc written fun other => ?_
  by_cases same : other = conn
  · exact same ▸ watched
  · have cleaner := cleaner_setConnection here connections other
    have monitor := monitor_setConnection here connections other
    rw [if_neg same] at cleaner monitor
    exact .cleaning cleaner fun returned => Or.inl (monitor.symm.trans returned)

theorem effect_of_setConnection
    (rpc : next.rpc = state.rpc) (written : next.written = state.written)
    (cleaner : changed.cleaner = connection.cleaner)
    (monitor : changed.monitor = .returned → connection.monitor = .returned ∨
      (connection.cleaner).map state.rpc.programs = some []) : Effect state next := by
  have own : state.cleaner conn = connection.cleaner := by
    rw [State.cleaner, here]
    rfl
  have cleaners := cleaner_setConnection here connections conn
  have monitors := monitor_setConnection here connections conn
  rw [if_pos rfl] at cleaners monitors
  refine effect_of_watched here connections rpc written (.cleaning ?_ fun returned => ?_)
  · rw [cleaners, cleaner, own]
  · rw [own, State.monitor, here]
    exact (monitor (Option.some.inj (monitors.symm.trans returned))).imp_left (congrArg some)

end

omit [DecidableEq Id] in
private theorem cleaner_attach (state : State Id) (conn : Nat) :
    (state.connections ++ [newConnection])[conn]?.bind Connection.cleaner = state.cleaner conn := by
  unfold State.cleaner
  rw [List.getElem?_append]
  split
  · rfl
  next later =>
    rw [List.getElem?_eq_none (not_lt.mp later), List.getElem?_singleton]
    split <;> rfl

omit [DecidableEq Id] in
private theorem monitor_attach (returned : (state.connections ++ [newConnection])[conn]?.map
      Connection.monitor = some .returned) : state.monitor conn = some .returned := by
  rw [List.getElem?_append] at returned
  split at returned
  · exact returned
  · rw [List.getElem?_singleton] at returned
    split at returned <;> cases returned

private theorem effect_of_submit {thread : Nat} {result : SendResult}
    (submitted : state.submit thread result = some next) : Effect state next := by
  obtain ⟨rpc, ran, rfl⟩ := Option.map_eq_some_iff.mp submitted
  exact .advanced ran rfl rfl

omit [DecidableEq Id] in
private theorem running_of_submitting {thread number : Nat}
    (submitting : state.submitting thread = some number) :
    ∃ rest, state.rpc.programs thread = .submit number :: rest := by
  unfold State.submitting at submitting
  split at submitting
  next other rest running =>
    cases submitting
    exact ⟨rest, running⟩
  · cases submitting

theorem step_effect {event : Event Id} (timely : Timely state event)
    (stepped : step state event = some next) : Effect state next := by
  cases event with
  | rpc event =>
    simp only [step] at stepped
    split at stepped
    · obtain ⟨rpc, ran, rfl⟩ := Option.map_eq_some_iff.mp stepped
      exact .advanced ran rfl rfl
    · cases stepped
  | attach =>
    cases stepped
    exact .quiet rfl rfl fun conn =>
      .cleaning (cleaner_attach state conn) fun returned => Or.inl (monitor_attach returned)
  | disconnect conn | closeTransport conn =>
    simp only [step] at stepped
    split at stepped
    next connection here =>
      cases stepped
      exact effect_of_setConnection here rfl rfl rfl rfl Or.inl
    · cases stepped
  | look conn =>
    simp only [step] at stepped
    split at stepped
    next connection here =>
      split at stepped
      · cases stepped
        by_cases found : state.current = some conn
        · rw [if_pos found]
          exact effect_of_setConnection here rfl rfl rfl rfl nofun
        · rw [if_neg found]
          refine effect_of_watched here rfl rfl rfl (.left ?_ fun number member => ?_)
          · rw [cleaner_setConnection here rfl, if_pos rfl]
          · exact (timely.resolve_left found) (number, conn) member rfl
      · cases stepped
    · cases stepped
  | cleanUp conn =>
    simp only [step] at stepped
    split at stepped
    next connection here =>
      split at stepped
      · obtain ⟨rpc, ran, rfl⟩ := Option.map_eq_some_iff.mp stepped
        refine .cleaned ran rfl (cleaner_setConnection here rfl) fun other returned => ?_
        have same := (monitor_setConnection here rfl other).symm.trans returned
        split at same
        · cases same
        next different => exact ⟨different, same⟩
      · cases stepped
    · cases stepped
  | finishMonitor conn =>
    simp only [step] at stepped
    split at stepped
    next connection here =>
      split at stepped
      next finished =>
        cases stepped
        exact effect_of_setConnection here rfl rfl rfl rfl fun _ => Or.inr finished.2
      · cases stepped
    · cases stepped
  | take thread =>
    simp only [step] at stepped
    split at stepped
    · cases stepped
      exact .quiet rfl rfl fun _ => .cleaning rfl Or.inl
    · cases stepped
  | acquire thread admission =>
    simp only [step] at stepped
    split at stepped
    · cases stepped
    · split at stepped
      · cases stepped
      · split at stepped
        · cases stepped
          exact .quiet rfl rfl fun _ => .cleaning rfl Or.inl
        · exact effect_of_submit stepped
        · exact effect_of_submit stepped
        · split at stepped
          · exact effect_of_submit stepped
          · cases stepped
  | write thread result =>
    simp only [step] at stepped
    split at stepped
    next conn number sending submitting =>
      split at stepped
      · cases stepped
      · split at stepped
        · split at stepped
          · obtain ⟨middle, submitted, rfl⟩ := Option.map_eq_some_iff.mp stepped
            obtain ⟨rpc, ran, rfl⟩ := Option.map_eq_some_iff.mp submitted
            obtain ⟨rest, running⟩ := running_of_submitting submitting
            simp only [Timely, sending, submitting] at timely
            refine .wrote conn running ?_ ran rfl rfl
            intro swept
            exact timely.resolve_left (by rw [swept]; exact nofun)
          · cases stepped
        · exact effect_of_submit stepped
    · cases stepped
  | _ =>
    simp only [step] at stepped
    split at stepped
    next connection here =>
      split at stepped
      · cases stepped
        exact effect_of_setConnection here rfl rfl rfl rfl nofun
      · cases stepped
    · cases stepped

end Connections

/-! ## What a step of the RPC client does to the pending calls -/

section Pending

variable {rpc rpc' : RpcCalls.State Id}
variable {event : Threads.Event (Operation Id) Choice} {number thread : Nat}

/-- The stream of a call is in `pendingRPCs`. -/
def Pending (rpc : RpcCalls.State Id) (number : Nat) : Prop :=
  ∃ call, rpc.shared.objects[number]? = some call ∧
    rpc.shared.maps.pendingRPCs.lookup call.correlationID = some number

theorem State.pending_eq_true_iff (state : State Id) (number : Nat) :
    state.pending number = true ↔ Pending state.rpc number := by
  unfold State.pending Pending
  cases state.rpc.shared.objects[number]? with
  | _ => simp

variable (stepped : RpcCalls.machine.step rpc event = some rpc')
include stepped

theorem pending_of_rpc_step (bound : number < rpc.shared.objects.length)
    (pending : Pending rpc' number) : Pending rpc number := by
  obtain ⟨call', present, here⟩ := pending
  cases event with
  | start operation =>
    obtain ⟨next, program, begun, rfl⟩ := step_start_eq_some stepped
    have maps := (RpcCalls.start_spec begun).1
    obtain ⟨call, before, correlationID, -⟩ := RpcCalls.start_call begun present
    rw [System.begin, maps, correlationID] at here
    exact ⟨call, before, here⟩
  | advance thread choice =>
    obtain ⟨action, rest, next, more, running, performed, rfl⟩ := step_advance_eq_some stepped
    rcases RpcCalls.perform_evolves performed present with
      ⟨call, before, evolves⟩ | ⟨id, -, rfl, -⟩
    · rw [evolves.correlationID] at here
      exact ⟨call, before, RpcCalls.pending_of_perform performed bound here⟩
    · exact absurd bound (Nat.lt_irrefl _)

private theorem sweeps_of_rpc_step
    (started : thread < rpc.started) (before : .closePendingRPCs ∈ rpc.programs thread)
    (after : .closePendingRPCs ∉ rpc'.programs thread) : ¬ Pending rpc' number := by
  cases event with
  | start operation =>
    obtain ⟨next, program, begun, rfl⟩ := step_start_eq_some stepped
    rw [System.programs_begin_of_lt started] at after
    exact absurd before after
  | advance running choice =>
    obtain ⟨action, rest, next, more, here, performed, rfl⟩ := step_advance_eq_some stepped
    by_cases same : thread = running
    · subst same
      rw [here] at before
      rcases List.mem_cons.mp before with rfl | later
      · rintro ⟨call, present, pending⟩
        have nothing := RpcCalls.nothing_pending_of_closePendingRPCs performed call.correlationID
        cases nothing.symm.trans pending
      · refine absurd ?_ after
        rw [System.programs_resume_self]
        exact List.mem_append_right more later
    · rw [System.programs_resume_of_ne same] at after
      exact absurd before after

private theorem unpending_of_rpc_step
    (bound : number < rpc.shared.objects.length) (started : thread < rpc.started)
    (before : .closePendingRPCs ∉ rpc.programs thread → ¬ Pending rpc number)
    (after : .closePendingRPCs ∉ rpc'.programs thread) : ¬ Pending rpc' number := by
  by_cases swept : .closePendingRPCs ∈ rpc.programs thread
  · exact sweeps_of_rpc_step stepped started swept after
  · exact fun pending => before swept (pending_of_rpc_step stepped bound pending)

theorem bound_of_rpc_step
    (bound : number < rpc.shared.objects.length) : number < rpc'.shared.objects.length := by
  by_contra outside
  have missing : rpc'.shared.objects[number]? = none :=
    List.getElem?_eq_none (Nat.le_of_not_lt outside)
  have before := List.getElem?_eq_getElem bound
  cases event with
  | start operation =>
    obtain ⟨next, program, begun, rfl⟩ := step_start_eq_some stepped
    have absent := RpcCalls.absent_of_start begun missing
    rw [before] at absent
    cases absent
  | advance thread choice =>
    obtain ⟨action, rest, next, more, running, performed, rfl⟩ := step_advance_eq_some stepped
    obtain ⟨call', present, -⟩ := RpcCalls.present_of_perform performed before
    cases missing.symm.trans present

end Pending

/-! ## Over a whole run -/

/-- The call is known, and not pending once the monitor of the connection has
emptied the maps or has returned without. -/
structure Parted (state : State Id) (number conn : Nat) : Prop where
  known : number < state.rpc.shared.objects.length
  swept : ∀ thread, state.cleaner conn = some thread →
    .closePendingRPCs ∉ state.rpc.programs thread → ¬ Pending state.rpc number
  left : state.cleaner conn = none → state.monitor conn = some .returned →
    ¬ Pending state.rpc number

structure Inv (state : State Id) : Prop where
  reached : ∃ events, run RpcCalls.machine.step RpcCalls.initial events = some state.rpc
  written : ∀ number conn, (number, conn) ∈ state.written → Parted state number conn
  cleaners : ∀ conn thread, state.cleaner conn = some thread → thread < state.rpc.started
  returned : ∀ conn thread, state.monitor conn = some .returned →
    state.cleaner conn = some thread → state.rpc.programs thread = []

theorem inv_initial : Inv (initial : State Id) where
  reached := ⟨[], rfl⟩
  written := nofun
  cleaners := nofun
  returned := nofun

section Preservation

variable {state next : State Id} {event : Threads.Event (Operation Id) Choice}
variable {conn number thread : Nat}

section

variable (inv : Inv state) (stepped : RpcCalls.machine.step state.rpc event = some next.rpc)
include inv stepped

theorem Inv.reach :
    ∃ events, run RpcCalls.machine.step RpcCalls.initial events = some next.rpc := by
  obtain ⟨events, ran⟩ := inv.reached
  refine ⟨events ++ [event], ?_⟩
  rw [run_append, ran]
  simp only [Option.bind_some, run_cons, stepped, run_nil]

theorem Parted.advance (parted : Parted state number conn)
    (cleaner : next.cleaner conn = state.cleaner conn)
    (monitor : next.monitor conn = some .returned → state.monitor conn = some .returned) :
    Parted next number conn where
  known := bound_of_rpc_step stepped parted.known
  swept := by
    intro thread cleans after
    rw [cleaner] at cleans
    exact unpending_of_rpc_step stepped parted.known
      (inv.cleaners conn thread cleans) (parted.swept thread cleans) after
  left := by
    intro uncleaned returned pending
    rw [cleaner] at uncleaned
    have before := pending_of_rpc_step stepped parted.known pending
    exact parted.left uncleaned (monitor returned) before

theorem Inv.returned_of_step (cleans : state.cleaner conn = some thread)
    (returned : state.monitor conn = some .returned) : next.rpc.programs thread = [] :=
  finished_of_step stepped (inv.cleaners conn thread cleans)
    (inv.returned conn thread returned cleans)

theorem Inv.advance (connections : next.connections = state.connections)
    (written : ∀ number conn, (number, conn) ∈ next.written → Parted state number conn) :
    Inv next := by
  have cleaner : ∀ conn, next.cleaner conn = state.cleaner conn := by
    intro conn
    rw [State.cleaner, connections]
    rfl
  have monitor : ∀ conn, next.monitor conn = state.monitor conn := by
    intro conn
    rw [State.monitor, connections]
    rfl
  refine ⟨inv.reach stepped, ?_, ?_, ?_⟩
  · intro number conn member
    exact (written number conn member).advance inv stepped (cleaner conn) (monitor conn).symm.trans
  · intro conn thread cleans
    rw [cleaner] at cleans
    exact Nat.lt_of_lt_of_le (inv.cleaners conn thread cleans) (started_le_of_step stepped)
  · intro conn thread returned cleans
    rw [monitor] at returned
    rw [cleaner] at cleans
    exact inv.returned_of_step stepped cleans returned

end

theorem program_of_connectionLost
    (stepped : RpcCalls.machine.step state.rpc (.start .connectionLost) = some next.rpc) :
    next.rpc.programs state.rpc.started = [.closePendingRPCs] ∧
      next.rpc.started = state.rpc.started + 1 := by
  obtain ⟨client, program, begun, same⟩ := step_start_eq_some stepped
  cases begun
  rw [same]
  exact ⟨Function.update_self _ _ _, rfl⟩

theorem known_of_submit {choice : Choice} {rest : List (Action Id)}
    (running : state.rpc.programs thread = .submit number :: rest)
    (stepped : RpcCalls.machine.step state.rpc (.advance thread choice) = some next.rpc) :
    number < state.rpc.shared.objects.length := by
  obtain ⟨action, rest, client, more, here, performed, -⟩ := step_advance_eq_some stepped
  rw [running] at here
  cases here
  by_contra outside
  have missing : state.rpc.shared.objects[number]? = none :=
    List.getElem?_eq_none (Nat.le_of_not_lt outside)
  simp only [RpcCalls.machine, RpcCalls.perform, missing] at performed
  cases performed

theorem Watched.cleaner (watched : Watched state next conn)
    (cleans : next.cleaner conn = some thread) : state.cleaner conn = some thread ∧
      (next.monitor conn = some .returned →
        state.monitor conn = some .returned ∨ state.rpc.programs thread = []) := by
  cases watched with
  | cleaning cleaner monitor =>
    rw [cleaner] at cleans
    rw [cleans, Option.map_some, Option.some.injEq] at monitor
    exact ⟨cleans, monitor⟩
  | left cleaner drained =>
    rw [cleaner] at cleans
    cases cleans

theorem Parted.watch (parted : Parted state number conn)
    (rpc : next.rpc = state.rpc) (watched : Watched state next conn)
    (member : (number, conn) ∈ state.written) : Parted next number conn := by
  cases watched with
  | cleaning cleaner monitor =>
    refine ⟨rpc ▸ parted.known, by rw [rpc, cleaner]; exact parted.swept, ?_⟩
    intro uncleaned returned
    rw [cleaner] at uncleaned
    rw [uncleaned] at monitor
    rw [rpc]
    exact parted.left uncleaned ((monitor returned).resolve_right nofun)
  | left cleaner drained =>
    have unpending : ¬ Pending next.rpc number := by
      rw [rpc, ← state.pending_eq_true_iff, drained number member]
      exact Bool.false_ne_true
    exact ⟨rpc ▸ parted.known, fun _ _ _ => unpending, fun _ _ => unpending⟩

theorem Inv.step {event : Event Id} (inv : Inv state)
    (timely : Timely state event) (stepped : step state event = some next) : Inv next := by
  cases step_effect timely stepped with
  | quiet rpc written watched =>
    refine ⟨rpc ▸ inv.reached, ?_, ?_, ?_⟩
    · intro number conn member
      rw [written] at member
      exact (inv.written number conn member).watch rpc (watched conn) member
    · intro conn thread cleans
      rw [rpc]
      exact inv.cleaners conn thread ((watched conn).cleaner cleans).1
    · intro conn thread returned cleans
      obtain ⟨before, finished⟩ := (watched conn).cleaner cleans
      rw [rpc]
      exact (finished returned).elim (inv.returned conn thread · before) id
  | advanced ran written connections =>
    exact inv.advance ran connections fun number conn member =>
      inv.written number conn (written ▸ member)
  | @cleaned conn ran written cleaner monitor =>
    refine ⟨inv.reach ran, ?_, ?_, ?_⟩
    · intro number other member
      rw [written] at member
      have parted := inv.written number other member
      by_cases same : other = conn
      · refine ⟨bound_of_rpc_step ran parted.known, ?_, ?_⟩
        · intro thread cleans after
          rw [cleaner, if_pos same] at cleans
          cases cleans
          rw [(program_of_connectionLost ran).1] at after
          exact absurd List.mem_cons_self after
        · intro _ returned
          exact absurd same (monitor other returned).1
      · exact parted.advance inv ran ((cleaner other).trans (if_neg same)) fun returned =>
          (monitor other returned).2
    · intro other thread cleans
      rw [cleaner] at cleans
      split at cleans
      · cases cleans
        rw [(program_of_connectionLost ran).2]
        exact Nat.lt_succ_self _
      · exact Nat.lt_of_lt_of_le (inv.cleaners other thread cleans) (started_le_of_step ran)
    · intro other thread returned cleans
      obtain ⟨different, before⟩ := monitor other returned
      rw [cleaner, if_neg different] at cleans
      exact inv.returned_of_step ran cleans before
  | @wrote _ sent conn _ running timely ran written connections =>
    refine inv.advance ran connections fun number other member => ?_
    rw [written] at member
    rcases List.mem_cons.mp member with new | old
    · cases new
      have unpending (emptied : state.swept conn = true) : ¬ Pending state.rpc sent := by
        rw [← state.pending_eq_true_iff, timely emptied]
        exact Bool.false_ne_true
      refine ⟨known_of_submit running ran, ?_, ?_⟩
      · intro thread cleans swept
        apply unpending
        rw [State.swept, cleans]
        exact decide_eq_true swept
      · intro uncleaned returned
        apply unpending
        rw [State.swept, uncleaned]
        exact decide_eq_true returned
    · exact inv.written number other old

end Preservation

theorem next_of_closed {stream : RpcCalls.ResponseStream}
    (closed : stream.closed = true) (ctx : Option RpcCalls.ContextError)
    (iterator : RpcCalls.Iterator) : (iterator.next ctx stream).isSome := by
  unfold RpcCalls.Iterator.next
  split
  · rfl
  · split
    · rfl
    · split
      · rfl
      · split <;> rfl

/-- Every call whose REQUEST was written on a connection is over once the
monitor of that connection has returned, unless a thread that has taken its
stream before is still about to close it. -/
theorem written_calls_are_ended {events : List (Event Id)} {final : State Id}
    (timely : Along step Timely initial events) (ran : run step initial events = some final)
    {number conn : Nat} {call : Call Id} {connection : Connection}
    (written : (number, conn) ∈ final.written)
    (present : final.rpc.shared.objects[number]? = some call) (returned : call.returned = true)
    (here : final.connections[conn]? = some connection) (finished : connection.monitor = .returned)
    (idle : ∀ thread < final.rpc.started, connection.cleaner ≠ some thread →
      ∀ error, .closeStream number error ∉ final.rpc.programs thread) :
    call.stream.closed = true ∧
      (∀ ctx iterator, (RpcCalls.Iterator.next ctx call.stream iterator).isSome) ∧
      (call.ended = false →
        call.stream.err = some .connectionClosed ∧
          ∀ iterator : RpcCalls.Iterator, iterator.done = false →
            ∃ last, RpcCalls.readAll call.stream iterator (call.stream.frames.length + 1) =
                some (call.stream.frames, last) ∧
                last.err = some (.stream .connectionClosed)) := by
  have inv : Inv final :=
    invariant_along Inv (fun holds met stepped => holds.step met stepped) inv_initial timely ran
  obtain ⟨rpcEvents, rpcRan⟩ := inv.reached
  have accounted := RpcCalls.accounted_of_run rpcRan
  have monitor : final.monitor conn = some .returned := by
    rw [State.monitor, here, Option.map_some, finished]
  have own : final.cleaner conn = connection.cleaner := by
    rw [State.cleaner, here]
    rfl
  have parted := inv.written number conn written
  have unpending : ¬ Pending final.rpc number := by
    cases cleans : final.cleaner conn with
    | none => exact parted.left cleans monitor
    | some thread =>
      apply parted.swept thread cleans
      rw [inv.returned conn thread monitor cleans]
      exact List.not_mem_nil
  have closed : call.stream.closed = true := by
    rcases accounted.covered number call present with
      pending | closed | ⟨other, action, member, error, rfl⟩
    · exact absurd ⟨call, present, pending⟩ unpending
    · exact closed
    · have started : other < final.rpc.started := by
        by_contra later
        rw [unstarted_of_run rpcRan other (Nat.le_of_not_lt later)] at member
        cases member
      refine absurd member (idle other started ?_ error)
      intro same
      rw [inv.returned conn other monitor (own.trans same)] at member
      cases member
  refine ⟨closed, next_of_closed closed, fun unended => ?_⟩
  have err : call.stream.err = some .connectionClosed := by
    rcases accounted.explained number call present closed with
      lost | ⟨same, again, reason⟩
    · exact lost
    · rw [present] at again
      cases again
      have unrefused := accounted.unrefused present returned
      rw [unended, unrefused] at reason
      exact absurd reason (by decide)
  refine ⟨err, fun iterator unfinished => ?_⟩
  have stream : call.stream =
      { frames := call.stream.frames, closed := true,
        err := some .connectionClosed } := by
    rw [← closed, ← err]
  obtain ⟨last, read, lastErr⟩ :=
    RpcCalls.readAll_of_closed call.stream.frames .connectionClosed unfinished
  exact ⟨last, stream ▸ read, lastErr⟩

def lostRun : List (Event Nat) :=
  [.attach, .replaceConnection 0, .startMonitor 0, .rpc (.start (.call 5)), .rpc (.advance 0 {}),
    .take 0, .acquire 0 .slot, .write 0 .ok, .rpc (.advance 0 {}),
    .disconnect 0, .look 0, .swap 0, .cleanUp 0,
    .rpc (.advance 1 { calls := [0], pending := [0] }), .rpc (.advance 1 {}),
    .rpc (.advance 1 {}), .rpc (.advance 1 {}), .rpc (.advance 1 {}),
    .finishMonitor 0]

theorem lostRun_ends_the_call : ∃ final call, run step initial lostRun = some final ∧
      final.rpc.shared.objects[0]? = some call ∧
      call.stream.closed = true ∧
      call.stream.err = some .connectionClosed := by
  obtain ⟨final, ran, here, written, finished, two, call, present, returned, unended⟩ :
      ∃ final, run step initial lostRun = some final ∧
        final.connections[0]? =
          some { done := true, transportClosed := false,
                 monitor := .returned, cleaner := some 1 } ∧
        (0, 0) ∈ final.written ∧ final.rpc.programs 0 = [] ∧ final.rpc.started = 2 ∧
        ∃ call, final.rpc.shared.objects[0]? = some call ∧
          call.returned = true ∧ call.ended = false := by
    decide +kernel
  obtain ⟨closed, -, lost⟩ := written_calls_are_ended (by decide +kernel) ran
      written present returned here rfl <| by
        intro thread started other error
        rw [two] at started
        have first : thread = 0 := by
          have different : thread ≠ 1 := fun same => other (same ▸ rfl)
          omega
        rw [first, finished]
        exact List.not_mem_nil
  exact ⟨final, call, ran, present, closed, (lost unended).1⟩

/-- The connection ends and its monitor empties the maps before `Call` registers.
The connection is still the RPC client's, the select takes the free slot and the
transport is open. -/
def orphanedRun : List (Event Nat) :=
  [.attach, .replaceConnection 0, .startMonitor 0,
    .disconnect 0, .look 0, .swap 0, .cleanUp 0, .rpc (.advance 0 {}),
    .finishMonitor 0,
    .rpc (.start (.call 5)), .rpc (.advance 1 {}),
    .take 1, .acquire 1 .slot, .write 1 .ok, .rpc (.advance 1 {})]

/-- The iterator was returned, its connection and the monitor are done, every
thread has finished, and nobody closes the stream. -/
theorem late_call_is_orphaned : ∃ final call connection, run step initial orphanedRun = some final ∧
      (0, 0) ∈ final.written ∧
      final.rpc.shared.objects[0]? = some call ∧ call.returned = true ∧
      final.connections[0]? = some connection ∧ connection.done = true ∧
      connection.monitor = .returned ∧
      (final.rpc.started = 2 ∧ final.rpc.programs 0 = [] ∧ final.rpc.programs 1 = []) ∧
      call.stream.closed = false ∧
      RpcCalls.Iterator.next none call.stream call.iterator = none := by
  obtain ⟨final, ran, written, idle, ⟨call, present, returned, unclosed, waits⟩,
      connection, here, done, monitor⟩ :
      ∃ final, run step initial orphanedRun = some final ∧ (0, 0) ∈ final.written ∧
        (final.rpc.started = 2 ∧ final.rpc.programs 0 = [] ∧ final.rpc.programs 1 = []) ∧
        (∃ call, final.rpc.shared.objects[0]? = some call ∧ call.returned = true ∧
          call.stream.closed = false ∧
          (RpcCalls.Iterator.next none call.stream call.iterator).isNone = true) ∧
        ∃ connection, final.connections[0]? = some connection ∧
          connection.done = true ∧ connection.monitor = .returned := by
    decide +kernel
  exact ⟨final, call, connection, ran, written, present, returned, here, done,
    monitor, idle, unclosed, Option.isNone_iff_eq_none.mp waits⟩

end FitzGo.Domains.RpcOrphans
