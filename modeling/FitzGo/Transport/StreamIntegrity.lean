import FitzGo.Transport.Write

/-!
# Integrity of the outbound stream

A frame is cut when its write ends after some but not all of its bytes were
sent. No send path closes or poisons the transport after a cut.
-/

namespace FitzGo.Transport

open StepMachine

private theorem scratchChunks_flatten : ∀ (bound : Nat) (bytes : Bytes), bytes.length ≤ bound →
      (scratchChunks bound bytes).flatten = bytes
  | 0, bytes, short => by
      have empty : bytes = [] := List.length_eq_zero_iff.mp (Nat.le_zero.mp short)
      rw [empty]
      rfl
  | bound + 1, bytes, short => by
      by_cases empty : bytes = []
      · simp [scratchChunks, empty]
      · have shorter : (bytes.drop 1024).length ≤ bound := by
          rw [List.length_drop]
          omega
        rw [scratchChunks, if_neg empty, List.flatten_cons,
          scratchChunks_flatten bound _ shorter, List.take_append_drop]

private theorem pieces_flatten (kind : Kind) (operation : Operation) :
    (pieces kind operation).flatten = frameOf kind operation := by
  cases kind with
  | tcp => simp [pieces, frameOf]
  | websocket =>
    have sameLength : (masked operation).length ≤ operation.payload.length := by
      simp [masked]
    rw [pieces, frameOf, List.flatten_cons, scratchChunks_flatten _ _ sameLength]

/-- The mutex holder has sent an initial part of its frame, and more is to
come. -/
structure Writing (kind : Kind) (writer : Writer) : Prop where
  split : writer.sent ++ (writer.buffer ++ writer.later.flatten) = frameOf kind writer.operation
  pending : writer.buffer ≠ []

variable {operation : Operation}

private theorem startWriting_writing {kind : Kind} {writer : Writer}
    (started : startWriting kind operation = some writer) :
    Writing kind writer ∧ writer.sent = [] := by
  have whole := pieces_flatten kind operation
  cases kind with
  | tcp | websocket =>
    simp only [startWriting, pieces, Option.some.injEq] at started
    subst started
    refine ⟨⟨?_, by simp [BigEndian.encode, websocketHeader]⟩, rfl⟩
    simpa [pieces] using whole

def transmitted (log : List Record) : List Record :=
  log.filter fun record => record.sent ≠ []

def Record.Whole (kind : Kind) (record : Record) : Prop :=
  record.sent = frameOf kind record.operation

instance (kind : Kind) (record : Record) : Decidable (record.Whole kind) :=
  inferInstanceAs (Decidable (_ = _))

private theorem transmitted_concat_nil (log : List Record) (operation : Operation) :
    transmitted (log ++ [⟨operation, []⟩]) = transmitted log := by
  simp [transmitted]

theorem transmitted_concat (log : List Record) {record : Record} (some_sent : record.sent ≠ []) :
    transmitted (log ++ [record]) = transmitted log ++ [record] := by
  simp [transmitted, some_sent]

def writerBytes (writer : Option Writer) : Bytes :=
  writer.elim [] Writer.sent

/-- The stream has at most one cut frame, at its end and on a dead socket. -/
structure Sound (kind : Kind) (wire : Bytes) (log : List Record)
    (writer : Option Writer) (socketDead : Bool) : Prop where
  wireEq : wire = log.flatMap Record.sent ++ writerBytes writer
  writing : ∀ current, writer = some current → Writing kind current
  partials : ∀ record ∈ log, record.sent <+: frameOf kind record.operation
  alive : socketDead = false → ∀ record ∈ transmitted log, record.Whole kind
  ordered : ∀ record ∈ (transmitted log).dropLast, record.Whole kind
  sealedByCut : (∃ record ∈ transmitted log, ¬ record.Whole kind) → writerBytes writer = []

section Sound

variable {kind : Kind} {wire : Bytes} {log : List Record} {socketDead : Bool}

theorem Sound.die {writer : Option Writer} (sound : Sound kind wire log writer socketDead) :
    Sound kind wire log writer true :=
  { sound with alive := fun impossible => absurd impossible (by decide) }

theorem Sound.start (sound : Sound kind wire log none socketDead) :
    Sound kind wire log (startWriting kind operation) socketDead := by
  have nothingSent : writerBytes (startWriting kind operation) = [] := by
    cases started : startWriting kind operation with
    | none => rfl
    | some writer => exact (startWriting_writing started).2
  exact { sound with
      wireEq := by rw [nothingSent]; exact sound.wireEq
      writing := fun _ started => (startWriting_writing started).1
      sealedByCut := fun _ => nothingSent }

theorem Sound.progress {current next : Writer} {chunk : Bytes}
    (sound : Sound kind wire log (some current) false) (sentEq : next.sent = current.sent ++ chunk)
    (writing : Writing kind next) : Sound kind (wire ++ chunk) log (some next) false :=
  { sound with
    wireEq := by
      rw [sound.wireEq, List.append_assoc]
      exact congrArg _ sentEq.symm
    writing := by
      intro other same
      injection same with sameWriter
      exact sameWriter ▸ writing
    sealedByCut := by
      rintro ⟨record, member, cut⟩
      exact absurd (sound.alive rfl record member) cut }

theorem Sound.finish {current : Writer} {chunk : Bytes} {deadAfter : Bool}
    (sound : Sound kind wire log (some current) socketDead)
    (partialFrame : current.sent ++ chunk <+: frameOf kind current.operation)
    (deadTakesNothing : socketDead = true → chunk = [])
    (staysDead : deadAfter = false → socketDead = false)
    (uncut : deadAfter = false → current.sent ++ chunk = [] ∨
      current.sent ++ chunk = frameOf kind current.operation) :
    Sound kind (wire ++ chunk) (log ++ [⟨current.operation, current.sent ++ chunk⟩])
      none deadAfter := by
  have earlierWhole : current.sent ++ chunk ≠ [] →
        ∀ record ∈ transmitted log, record.Whole kind := by
    intro nonempty record member
    cases aliveOrDead : socketDead with
    | false => exact sound.alive aliveOrDead record member
    | true =>
      by_contra cut
      have noBytes : current.sent = [] := sound.sealedByCut ⟨record, member, cut⟩
      have noChunk : chunk = [] := deadTakesNothing aliveOrDead
      exact nonempty (by rw [noBytes, noChunk]; rfl)
  have transmittedEq : transmitted (log ++ [⟨current.operation, current.sent ++ chunk⟩]) =
        if current.sent ++ chunk = [] then transmitted log
        else transmitted log ++ [⟨current.operation, current.sent ++ chunk⟩] := by
    by_cases empty : current.sent ++ chunk = []
    · rw [if_pos empty, empty, transmitted_concat_nil]
    · rw [if_neg empty, transmitted_concat log empty]
  refine
    { wireEq := ?_
      writing := fun _ impossible => nomatch impossible
      partials := ?_
      alive := ?_
      ordered := ?_
      sealedByCut := fun _ => rfl }
  · rw [sound.wireEq]
    simp [writerBytes]
  · intro record member
    rcases List.mem_append.mp member with earlier | last
    · exact sound.partials record earlier
    · rw [List.mem_singleton.mp last]
      exact partialFrame
  · intro lives record member
    rw [transmittedEq] at member
    by_cases empty : current.sent ++ chunk = []
    · rw [if_pos empty] at member
      exact sound.alive (staysDead lives) record member
    · rw [if_neg empty] at member
      rcases List.mem_append.mp member with earlier | last
      · exact earlierWhole empty record earlier
      · rw [List.mem_singleton.mp last]
        exact (uncut lives).resolve_left empty
  · intro record member
    rw [transmittedEq] at member
    by_cases empty : current.sent ++ chunk = []
    · rw [if_pos empty] at member
      exact sound.ordered record member
    · rw [if_neg empty, List.dropLast_concat] at member
      exact earlierWhole empty record member

end Sound

def Intact (kind : Kind) (state : Outbound) : Prop :=
  Sound kind state.wire state.log state.writer state.socketDead

/-- The answer does not end the write inside its frame while the socket
lives on. -/
def AnswerCutsNoFrame (kind : Kind) (socketDead : Bool) (count : Nat) (status : Status) :
    Option Writer → Prop
  | none => True
  | some writer =>
    socketDead = false →
    status = .failed ∨ status = .ok ∧ count = 0 →
      writer.sent ++ writer.buffer.take count = [] ∨
        writer.sent ++ writer.buffer.take count = frameOf kind writer.operation

instance (kind : Kind) (socketDead : Bool) (count : Nat) (status : Status) :
    (writer : Option Writer) → Decidable (AnswerCutsNoFrame kind socketDead count status writer)
  | none => isTrue trivial
  | some writer =>
    inferInstanceAs (Decidable (socketDead = false →
          status = .failed ∨ status = .ok ∧ count = 0 →
            writer.sent ++ writer.buffer.take count = [] ∨
              writer.sent ++ writer.buffer.take count = frameOf kind writer.operation))

def CutsNoFrame (kind : Kind) (state : Outbound) : WriteEvent → Prop
  | .answer count status => AnswerCutsNoFrame kind state.socketDead count status state.writer
  | _ => True

instance (kind : Kind) (state : Outbound) :
    (event : WriteEvent) → Decidable (CutsNoFrame kind state event)
  | .answer count status =>
    inferInstanceAs (Decidable (AnswerCutsNoFrame kind state.socketDead count status state.writer))
  | .enter _ => isTrue trivial
  | .lock _ => isTrue trivial
  | .abandon => isTrue trivial
  | .closeSocket => isTrue trivial
  | .socketDies => isTrue trivial

section Steps

variable {kind : Kind} {state next : Outbound}

private theorem enter_intact (intact : Intact kind state)
    (entered : enter kind state operation = some next) : Intact kind next := by
  unfold enter at entered
  obtain ⟨_, nextEq⟩ := Option.ite_none_right_eq_some.mp entered
  rw [← Option.some.inj nextEq]
  exact intact

private theorem flatten_dropWhile_isEmpty (buffers : List Bytes) :
    (buffers.dropWhile List.isEmpty).flatten = buffers.flatten := by
  induction buffers with
  | nil => rfl
  | cons head tail ih =>
    cases head with
    | nil => simpa using ih
    | cons byte rest => rfl

private theorem head_dropWhile_isEmpty {buffers later : List Bytes} {buffer : Bytes}
    (shape : buffers.dropWhile List.isEmpty = buffer :: later) : buffer ≠ [] := by
  have nonempty : buffers.dropWhile List.isEmpty ≠ [] := by
    rw [shape]
    exact List.cons_ne_nil buffer later
  have headFails := List.head_dropWhile_not List.isEmpty nonempty
  simpa [shape] using headFails

private theorem nextBuffer_intact {current : Writer} {chunk : Bytes}
    (sound : Sound kind state.wire state.log (some current) false)
    (writing : (current.sent ++ chunk) ++ current.later.flatten =
      frameOf kind current.operation) (alive : next.socketDead = false)
    (wireEq : next.wire = state.wire ++ chunk) (logEq : next.log = state.log) :
    Intact kind (nextBuffer next current.operation (current.sent ++ chunk) current.later) := by
  unfold nextBuffer
  have sameBytes := flatten_dropWhile_isEmpty current.later
  cases shape : current.later.dropWhile List.isEmpty with
  | nil =>
    have complete : current.sent ++ chunk = frameOf kind current.operation := by
      rw [shape] at sameBytes
      rw [← writing, ← sameBytes]
      simp
    have ended :
        Sound kind (state.wire ++ chunk) (state.log ++ [⟨current.operation, current.sent ++ chunk⟩])
          none false :=
      sound.finish (complete ▸ List.prefix_rfl) (fun impossible => nomatch impossible)
        (fun _ => rfl) (fun _ => Or.inr complete)
    simpa only [Intact, finish, alive, wireEq, logEq] using ended
  | cons buffer later =>
    have split : Writing kind ⟨current.operation, current.sent ++ chunk, buffer, later⟩ := by
      refine ⟨?_, head_dropWhile_isEmpty shape⟩
      rw [shape, List.flatten_cons] at sameBytes
      simp only [sameBytes]
      exact writing
    have progressed := sound.progress rfl split
    simpa only [Intact, alive, wireEq, logEq] using progressed

private theorem answer_cases {count : Nat} {status : Status}
    (answered : answer state count status = some next) :
    ∃ current, state.writer = some current ∧ count ≤ current.buffer.length ∧
      (state.socketDead = true → count = 0 ∧ status ≠ .ok) ∧
      (let taken : Outbound := { state with
            wire := state.wire ++ current.buffer.take count
            socketDead := state.socketDead || status = .reset }
        let sent := current.sent ++ current.buffer.take count
        ((status ≠ .ok ∨ count = 0) ∧ next = finish taken current.operation sent) ∨
          (status = .ok ∧
            ((current.buffer.drop count = [] ∧
                next = nextBuffer taken current.operation sent current.later) ∨
              (current.buffer.drop count ≠ [] ∧
                next =
                  { taken with
                    writer := some ⟨current.operation, sent, current.buffer.drop count,
                          current.later⟩ })))) := by
  unfold answer at answered
  cases holder : state.writer with
  | none => simp [holder] at answered
  | some current =>
    simp only [holder] at answered
    obtain ⟨allowed, answered⟩ := Option.ite_none_left_eq_some.mp answered
    refine ⟨current, rfl, ?_, ?_, ?_⟩
    · omega
    · intro dead
      by_contra wrong
      apply allowed
      right
      refine ⟨dead, ?_⟩
      by_contra neither
      apply wrong
      exact ⟨by_contra fun positive => neither (Or.inl positive), fun isOk => neither (Or.inr isOk)⟩
    · by_cases ends : status ≠ .ok ∨ count = 0
      · rw [if_pos ends] at answered
        exact Or.inl ⟨ends, (Option.some.inj answered).symm⟩
      · rw [if_neg ends] at answered
        have isOk : status = .ok := by
          by_contra notOk
          exact ends (Or.inl notOk)
        by_cases whole : current.buffer.drop count = []
        · rw [if_pos whole] at answered
          exact Or.inr ⟨isOk, Or.inl ⟨whole, (Option.some.inj answered).symm⟩⟩
        · rw [if_neg whole] at answered
          exact Or.inr ⟨isOk, Or.inr ⟨whole, (Option.some.inj answered).symm⟩⟩

private theorem answer_intact {count : Nat} {status : Status} (intact : Intact kind state)
    (cutsNoFrame : AnswerCutsNoFrame kind state.socketDead count status state.writer)
    (answered : answer state count status = some next) : Intact kind next := by
  obtain ⟨current, holder, fits, deadFails, outcome⟩ := answer_cases answered
  unfold Intact at intact
  rw [holder] at intact cutsNoFrame
  have writing : Writing kind current := intact.writing current rfl
  have split : (current.sent ++ current.buffer.take count) ++
          (current.buffer.drop count ++ current.later.flatten) =
        frameOf kind current.operation := by
    rw [← writing.split, List.append_assoc, ← List.append_assoc (current.buffer.take count),
      List.take_append_drop]
  rcases outcome with ⟨ends, nextEq⟩ | ⟨isOk, outcome⟩
  · subst nextEq
    apply intact.finish
    · exact ⟨_, split⟩
    · intro dead
      rw [(deadFails dead).1, List.take_zero]
    · intro alive
      exact (Bool.or_eq_false_iff.mp alive).1
    · intro alive
      obtain ⟨aliveBefore, notReset⟩ := Bool.or_eq_false_iff.mp alive
      apply cutsNoFrame aliveBefore
      cases status with
      | ok => exact Or.inr ⟨rfl, ends.resolve_left (fun no => no rfl)⟩
      | failed => exact Or.inl rfl
      | reset => exact absurd notReset (by decide)
  · subst isOk
    have alive : state.socketDead = false := by
      cases deadOrAlive : state.socketDead with
      | false => rfl
      | true => exact absurd rfl (deadFails deadOrAlive).2
    rw [alive] at intact
    rcases outcome with ⟨whole, nextEq⟩ | ⟨more, nextEq⟩
    · subst nextEq
      rw [whole, List.nil_append] at split
      exact nextBuffer_intact intact split (by simp [alive]) rfl rfl
    · subst nextEq
      have progressed : Sound kind (state.wire ++ current.buffer.take count) state.log (some
              ⟨current.operation, current.sent ++ current.buffer.take count,
                current.buffer.drop count, current.later⟩)
            false :=
        intact.progress rfl ⟨split, more⟩
      simpa [Intact, alive] using progressed

theorem writeStep_intact {event : WriteEvent} (intact : Intact kind state)
    (cutsNoFrame : CutsNoFrame kind state event)
    (stepped : writeStep kind state event = some next) : Intact kind next := by
  cases event with
  | enter operation => exact enter_intact intact stepped
  | answer count status => exact answer_intact intact cutsNoFrame stepped
  | lock index =>
    simp only [writeStep] at stepped
    cases holder : state.writer with
    | some current => simp [holder] at stepped
    | none =>
      cases chosen : state.waiting[index]? with
      | none => simp [holder, chosen] at stepped
      | some operation =>
        simp only [holder, chosen, Option.some.injEq] at stepped
        subst stepped
        unfold Intact at intact
        rw [holder] at intact
        exact intact.start
  | abandon =>
    simp only [writeStep] at stepped
    cases holder : state.writer with
    | none => simp [holder] at stepped
    | some current =>
      simp only [holder] at stepped
      obtain ⟨nothing, nextEq⟩ := Option.ite_none_right_eq_some.mp stepped
      rw [← Option.some.inj nextEq]
      unfold Intact at intact
      rw [holder] at intact
      have noBytes : current.sent ++ [] = [] := by
        rw [nothing]
        rfl
      have ended :
          Sound kind (state.wire ++ []) (state.log ++ [⟨current.operation, current.sent ++ []⟩])
            none state.socketDead :=
        intact.finish (by rw [noBytes]; exact List.nil_prefix)
          (fun _ => rfl) id (fun _ => Or.inl noBytes)
      simpa [Intact, finish, nothing] using ended
  | closeSocket =>
    simp only [writeStep] at stepped
    obtain ⟨_, nextEq⟩ := Option.ite_none_right_eq_some.mp stepped
    rw [← Option.some.inj nextEq]
    exact intact.die
  | socketDies =>
    simp only [writeStep, Option.some.injEq] at stepped
    rw [← stepped]
    exact intact.die

end Steps

theorem initial_intact (kind : Kind) : Intact kind Outbound.initial where
  wireEq := rfl
  writing := fun _ impossible => nomatch impossible
  partials := by simp [Outbound.initial]
  alive := by simp [Outbound.initial, transmitted]
  ordered := by simp [Outbound.initial, transmitted]
  sealedByCut := fun _ => rfl

/-- The frames of a run with bytes on the wire, the one being written
included, in the order in which they were written. -/
def framesOnWire (state : Outbound) : List Record :=
  transmitted (state.log ++
      (state.writer.map fun writer => (⟨writer.operation, writer.sent⟩ : Record)).toList)

theorem transmitted_flatMap_sent (log : List Record) :
    (transmitted log).flatMap Record.sent = log.flatMap Record.sent := by
  induction log with
  | nil => rfl
  | cons head tail ih =>
    by_cases empty : head.sent = []
    · have skipped : transmitted (head :: tail) = transmitted tail := by
        simp [transmitted, empty]
      rw [skipped, List.flatMap_cons, empty, List.nil_append, ih]
    · have kept : transmitted (head :: tail) = head :: transmitted tail := by
        simp [transmitted, empty]
      rw [kept, List.flatMap_cons, List.flatMap_cons, ih]

variable {state : Outbound}

theorem framesOnWire_whole {kind : Kind} (intact : Intact kind state) :
    ∀ record ∈ (framesOnWire state).dropLast, record.Whole kind := by
  intro record member
  cases holder : state.writer with
  | none =>
    have logOnly : framesOnWire state = transmitted state.log := by
      simp [framesOnWire, holder]
    rw [logOnly] at member
    exact intact.ordered record member
  | some current =>
    by_cases empty : current.sent = []
    · have logOnly : framesOnWire state = transmitted state.log := by
        simp [framesOnWire, holder, transmitted, empty]
      rw [logOnly] at member
      exact intact.ordered record member
    · have joined :
          framesOnWire state = transmitted state.log ++ [⟨current.operation, current.sent⟩] := by
        simp [framesOnWire, holder, transmitted, empty]
      rw [joined, List.dropLast_concat] at member
      by_contra cut
      have nothing := intact.sealedByCut ⟨record, member, cut⟩
      rw [holder] at nothing
      exact empty nothing

theorem framesOnWire_partials {kind : Kind} (intact : Intact kind state) :
    ∀ record ∈ framesOnWire state, record.sent <+: frameOf kind record.operation := by
  intro record member
  have inHistory := (List.mem_filter.mp member).1
  rcases List.mem_append.mp inHistory with earlier | current
  · exact intact.partials record earlier
  · rw [Option.mem_toList] at current
    obtain ⟨writer, holder, recordEq⟩ := Option.map_eq_some_iff.mp current
    rw [← recordEq]
    exact ⟨_, (intact.writing writer holder).split⟩

theorem wire_eq_framesOnWire {kind : Kind} (intact : Intact kind state) :
    state.wire = (framesOnWire state).flatMap Record.sent := by
  rw [framesOnWire, transmitted_flatMap_sent, List.flatMap_append, intact.wireEq]
  cases state.writer with
  | _ => simp [writerBytes]

/-- In a run in which no write ends inside its frame on a live socket, the wire
carries complete frames and then at most one partial frame. -/
theorem wire_is_whole_frames_then_at_most_one_cut (kind : Kind) (events : List WriteEvent)
    (final : Outbound) (ran : run (writeStep kind) Outbound.initial events = some final)
    (cutsNoFrame : Along (writeStep kind) (CutsNoFrame kind) Outbound.initial events) :
    final.wire = (framesOnWire final).flatMap Record.sent ∧
      (∀ record ∈ framesOnWire final, record.sent <+: frameOf kind record.operation) ∧
      ∀ record ∈ (framesOnWire final).dropLast, record.Whole kind := by
  have intact : Intact kind final :=
    invariant_along (Intact kind) writeStep_intact (initial_intact kind) cutsNoFrame ran
  exact ⟨wire_eq_framesOnWire intact, framesOnWire_partials intact, framesOnWire_whole intact⟩

section Samples

def sampleRequest (payload : Bytes) : Operation :=
  ⟨.request, payload, fun _ => 0⟩

def undisturbedRun : List WriteEvent :=
  [.enter (sampleRequest [7, 8]), .lock 0, .answer 6 .ok, .answer 2 .ok,
    .enter ⟨.close, closePayload, fun _ => 0⟩, .lock 0, .answer 6 .ok,
    .answer 1 .ok, .socketDies, .answer 0 .failed, .closeSocket]

theorem wire_of_undisturbedRun : ∃ final,
      run (writeStep .websocket) Outbound.initial undisturbedRun = some final ∧
      final.wire = [0x82, 0x82, 0, 0, 0, 0, 7, 8, 0x88, 0x82, 0, 0, 0, 0, 3] ∧
      ∀ record ∈ (framesOnWire final).dropLast, record.Whole .websocket :=
  ⟨_, rfl, by decide,
    (wire_is_whole_frames_then_at_most_one_cut .websocket undisturbedRun _ rfl (by decide)).2.2⟩

/-- The deadline of a request expires inside its frame; the next request is
written behind the cut. -/
def cutRun : List WriteEvent :=
  [.enter (sampleRequest [7, 8]), .lock 0, .answer 4 .ok, .answer 1 .failed,
    .enter (sampleRequest [9]), .lock 0, .answer 4 .ok, .answer 1 .ok]

def cutCloseRun : List WriteEvent :=
  [.enter (sampleRequest [7, 8]), .lock 0, .answer 6 .ok, .answer 1 .failed,
    .enter ⟨.close, closePayload, fun _ => 0⟩, .lock 0, .answer 6 .ok,
    .answer 2 .ok]

theorem cut_frame_is_written_over : (∃ final,
      run (writeStep .tcp) Outbound.initial cutRun = some final ∧
        final.wire = [0, 0, 0, 2, 7, 0, 0, 0, 1, 9] ∧
        ¬ ∀ record ∈ (framesOnWire final).dropLast, record.Whole .tcp) ∧
    ∃ final, run (writeStep .websocket) Outbound.initial cutCloseRun = some final ∧
        final.wire = [0x82, 0x82, 0, 0, 0, 0, 7, 0x88, 0x82, 0, 0, 0, 0, 3, 232] ∧
        ¬ ∀ record ∈ (framesOnWire final).dropLast, record.Whole .websocket :=
  ⟨⟨_, rfl, by decide, by decide⟩, ⟨_, rfl, by decide, by decide⟩⟩

end Samples

end FitzGo.Transport
