import FitzGo.Transport.Read

/-!
# Reading a stream of wire messages

As long as every deadline falls between two messages, a `Read` returns the next
binary payload, or times out and stands at the start of a message again.
-/

namespace FitzGo.Transport

open BufferedReader

/-- A message of the peer. Over TCP every message is a binary one. -/
structure WireMessage where
  opcode : Opcode
  payload : Bytes

/-- The seven-bit length of a WebSocket frame, in its shortest form. -/
def shortLength (length : Nat) : Nat :=
  if length < 126 then length
  else if length < 256 ^ 2 then 126
  else 127

def extLength (length : Nat) : Bytes :=
  if length < 126 then []
  else if length < 256 ^ 2 then BigEndian.encode 2 length
  else BigEndian.encode 8 length

def encode : Kind → WireMessage → Bytes
  | .tcp, message => BigEndian.encode 4 message.payload.length ++ message.payload
  | .websocket, message =>
    (0x80 ||| message.opcode.toByte) :: UInt8.ofNat (shortLength message.payload.length) ::
      (extLength message.payload.length ++ message.payload)

def WellFormed : Kind → WireMessage → Prop
  | .tcp, message => message.opcode = .binary ∧ message.payload.length < 256 ^ 4
  | .websocket, message =>
    message.payload.length < 2 ^ 63 ∧ (message.opcode.isControl → message.payload.length ≤ 125)

instance (kind : Kind) (message : WireMessage) : Decidable (WellFormed kind message) :=
  match kind with
  | .tcp => inferInstanceAs (Decidable (_ ∧ _))
  | .websocket => inferInstanceAs (Decidable (_ ∧ _))

def frames (messages : List WireMessage) : List Bytes :=
  messages.filterMap fun message =>
    if message.opcode = .binary then some message.payload else none

variable {message : WireMessage}

theorem frames_cons_binary (binary : message.opcode = .binary) (rest : List WireMessage) :
    frames (message :: rest) = message.payload :: frames rest := by
  simp [frames, binary]

private theorem frames_cons_of_ne (other : message.opcode ≠ .binary)
    (rest : List WireMessage) : frames (message :: rest) = frames rest := by
  simp [frames, other]

theorem encode_length_pos (kind : Kind) (message : WireMessage) :
    0 < (encode kind message).length := by
  cases kind with
  | tcp =>
    simp only [encode, List.length_append, BigEndian.length_encode]
    omega
  | websocket => simp [encode]

/-- `next` stands at the start of `rest`, what is left of `messages`. -/
structure Resumes (kind : Kind) (messages rest : List WireMessage)
    (inbound next : Inbound) : Prop where
  remaining : rest <:+ messages
  standing : At (encode kind) rest 0 next.reader
  checks : true ∈ next.expired → true ∈ inbound.expired

def ReturnsNext (kind : Kind) (messages : List WireMessage) (inbound : Inbound)
    (frame : Bytes) (next : Inbound) : Prop :=
  ∃ rest, Resumes kind messages rest inbound next ∧ frames messages = frame :: frames rest

/-- A `Read` that timed out has skipped no binary payload. -/
def LosesNothing (kind : Kind) (messages : List WireMessage) (inbound : Inbound)
    (error : ReadError) (next : Inbound) : Prop :=
  error = .deadlineExceeded →
    Dead next.reader ∨
      ∃ rest, Resumes kind messages rest inbound next ∧ frames messages = frames rest

variable {inbound : Inbound}

theorem mem_of_checkContext
    (later : true ∈ inbound.checkContext.2.expired) : true ∈ inbound.expired :=
  List.mem_of_mem_tail later

private theorem mem_of_checkContext_expired
    (expired : inbound.checkContext.1 = true) : true ∈ inbound.expired := by
  unfold Inbound.checkContext at expired
  cases script : inbound.expired with
  | nil => simp [script] at expired
  | cons head tail =>
    have headTrue : head = true := by
      simpa [script] using expired
    exact List.mem_cons.mpr (Or.inl headTrue.symm)

theorem contextFirst_ensures {α : Type} {outcome : ReadOutcome α} {returns : α → Inbound → Prop}
    {fails : ReadError → Inbound → Prop} (ensures : outcome.Ensures returns fails) :
    (contextFirst outcome).Ensures returns fun error next =>
      ∃ cause before, fails cause before ∧ next.reader = before.reader ∧
          (true ∈ next.expired → true ∈ before.expired) ∧
          (error = .deadlineExceeded →
            cause = .deadlineExceeded ∨ cause = .io .deadline ∨ true ∈ before.expired) := by
  cases outcome with
  | done value next => exact ensures
  | blocked => trivial
  | failed cause before =>
    by_cases timedOut : cause = .io .deadline
    · rw [contextFirst, if_pos timedOut]
      exact ⟨cause, before, ensures, rfl, id, fun _ => Or.inr (Or.inl timedOut)⟩
    · rw [contextFirst, if_neg timedOut]
      refine ⟨cause, before, ensures, rfl, mem_of_checkContext, ?_⟩
      intro reported
      by_cases expired : before.checkContext.1 = true
      · exact Or.inr (Or.inr (mem_of_checkContext_expired expired))
      · rw [if_neg expired] at reported
        exact Or.inl reported

theorem readFull_ensures {want : Nat} {returns : Bytes → Reader → Prop} {expires : Reader → Prop}
    (ensures : (BufferedReader.readFull want inbound.reader).Ensures returns (Stopped expires)) :
    (inbound.readFull want).Ensures
      (fun bytes next => returns bytes next.reader ∧ next.expired = inbound.expired)
      (fun error next =>
        (Dead next.reader ∨ expires next.reader) ∧ error ≠ .deadlineExceeded ∧
          next.expired = inbound.expired) := by
  unfold Inbound.readFull
  cases outcome : BufferedReader.readFull want inbound.reader with
  | blocked => trivial
  | done bytes reader =>
    rw [outcome] at ensures
    exact ⟨ensures, rfl⟩
  | failed cause reader =>
    rw [outcome] at ensures
    refine ⟨?_, by simp, rfl⟩
    cases cause with
    | deadline => exact Or.inr ensures
    | broken => exact Or.inl ensures

variable {kind : Kind} {messages : List WireMessage} {next : Inbound}

theorem Resumes.refl (standing : At (encode kind) messages 0 next.reader)
    (checks : true ∈ next.expired → true ∈ inbound.expired) :
    Resumes kind messages messages inbound next :=
  ⟨List.suffix_refl messages, standing, checks⟩

theorem Resumes.of_checkContext {rest : List WireMessage}
    (resumes : Resumes kind messages rest inbound.checkContext.2 next) :
    Resumes kind messages rest inbound next :=
  ⟨resumes.remaining, resumes.standing, fun later => mem_of_checkContext (resumes.checks later)⟩

variable {error : ReadError}

theorem losesNothing_of_standing
    (standing : Dead next.reader ∨ At (encode kind) messages 0 next.reader)
    (checks : true ∈ next.expired → true ∈ inbound.expired) :
    LosesNothing kind messages inbound error next := by
  intro _
  rcases standing with dead | standing
  · exact Or.inl dead
  · exact Or.inr ⟨messages, Resumes.refl standing checks, rfl⟩

theorem unlessExpired_ensures {next : Inbound → ReadOutcome Bytes}
    (standing : At (encode kind) messages 0 inbound.reader)
    (ensures : At (encode kind) messages 0 inbound.checkContext.2.reader →
      (next inbound.checkContext.2).Ensures (ReturnsNext kind messages inbound.checkContext.2)
      (LosesNothing kind messages inbound.checkContext.2)) :
    (unlessExpired inbound next).Ensures (ReturnsNext kind messages inbound)
      (LosesNothing kind messages inbound) := by
  unfold unlessExpired
  by_cases expired : inbound.checkContext.1 = true
  · rw [if_pos expired]
    exact losesNothing_of_standing (Or.inr standing) mem_of_checkContext
  · rw [if_neg expired]
    refine (ensures standing).mono ?_ ?_
    · rintro frame next ⟨rest, resumes, framesEq⟩
      exact ⟨rest, resumes.of_checkContext, framesEq⟩
    · intro error next loses reported
      rcases loses reported with dead | ⟨rest, resumes, framesEq⟩
      · exact Or.inl dead
      · exact Or.inr ⟨rest, resumes.of_checkContext, framesEq⟩

section Tcp

private theorem tcp_length_ensures {rest : List WireMessage} (wellFormed : WellFormed .tcp message)
    (standing : At (encode .tcp) (message :: rest) 0 inbound.reader) :
    (contextFirst (inbound.readFull 4)).Ensures
      (fun lengthBuf next =>
        BigEndian.decode lengthBuf = message.payload.length ∧
          At (encode .tcp) (message :: rest) 4 next.reader ∧
          next.expired = inbound.expired)
      (LosesNothing .tcp (message :: rest) inbound) := by
  have inside : 0 + 4 ≤ (encode .tcp message).length := by
    simp [encode]
  have header := contextFirst_ensures <| readFull_ensures (readFull_within_message standing inside)
  refine header.mono ?_ ?_
  · rintro lengthBuf next ⟨⟨bytesEq, standingNext⟩, checks⟩
    refine ⟨?_, standingNext, checks⟩
    have lengthBytes : lengthBuf = BigEndian.encode 4 message.payload.length := by
      rw [bytesEq, encode, List.drop_zero]
      exact List.take_left' (BigEndian.length_encode 4 _)
    rw [lengthBytes, BigEndian.decode_encode_of_lt wellFormed.2]
  · rintro error next ⟨cause, before, ⟨stopped, _, same⟩, readerEq, checks, _⟩
    refine losesNothing_of_standing ?_ ?_
    · rw [readerEq]
      exact stopped.imp id And.right
    · rw [← same]
      exact checks

private theorem tcp_body_ensures {rest : List WireMessage} {before : Inbound}
    (wellFormed : WellFormed .tcp message) (checksBefore : before.expired = inbound.expired)
    (standing : At (encode .tcp) (message :: rest) 4 before.reader) :
    (contextFirst (before.readFull message.payload.length)).Ensures
      (ReturnsNext .tcp (message :: rest) inbound)
      (LosesNothing .tcp (message :: rest) inbound) := by
  have whole : 4 + message.payload.length = (encode .tcp message).length := by
    simp [encode]
  have body := contextFirst_ensures <| readFull_ensures (readFull_within_message standing whole.le)
  refine body.mono ?_ ?_
  · rintro frame next ⟨⟨bytesEq, standingNext⟩, checks⟩
    rw [whole] at standingNext
    have payloadEq : frame = message.payload := by
      rw [bytesEq, encode, List.drop_left' (BigEndian.length_encode 4 _), List.take_length]
    refine ⟨rest, ⟨List.suffix_cons message rest, ?_, ?_⟩, ?_⟩
    · exact at_end_of_message (encode_length_pos .tcp message) standingNext
    · rw [checks, checksBefore]
      exact id
    · rw [payloadEq, frames_cons_binary wellFormed.1]
  · rintro error next ⟨cause, last, ⟨stopped, _, _⟩, readerEq, _, _⟩ _
    rcases stopped with dead | ⟨impossible, _⟩
    · exact Or.inl (readerEq ▸ dead)
    · exact absurd impossible (by decide)

private theorem tcp_after_messages_ensures (standing : At (encode .tcp) [] 0 inbound.reader) :
    (contextFirst (inbound.readFull 4)).Ensures
      (fun _ _ => False) (LosesNothing .tcp [] inbound) := by
  have header := contextFirst_ensures <| readFull_ensures
        (readFull_after_messages standing (by decide : 0 < 4))
  refine header.mono ?_ ?_
  · rintro lengthBuf next ⟨impossible, _⟩
    exact impossible
  · rintro error next ⟨cause, before, ⟨stopped, _, same⟩, readerEq, checks, _⟩
    refine losesNothing_of_standing (readerEq ▸ stopped) ?_
    rw [← same]
    exact checks

theorem tcpRead_ensures {limit : Nat} (wellFormed : ∀ message ∈ messages, WellFormed .tcp message)
    (standing : At (encode .tcp) messages 0 inbound.reader) :
    (tcpRead limit inbound).Ensures (ReturnsNext .tcp messages inbound)
      (LosesNothing .tcp messages inbound) := by
  apply unlessExpired_ensures standing
  intro standingNext
  cases messages with
  | nil =>
    exact (tcp_after_messages_ensures standingNext).bind fun _ _ impossible => impossible.elim
  | cons message rest =>
    have wellFormedHead : WellFormed .tcp message := wellFormed message List.mem_cons_self
    refine (tcp_length_ensures wellFormedHead standingNext).bind ?_
    rintro lengthBuf next ⟨lengthEq, standingBody, checks⟩
    simp only [lengthEq]
    by_cases tooLarge : limit < message.payload.length
    · rw [if_pos tooLarge]
      intro reported
      exact absurd reported (by decide)
    · rw [if_neg tooLarge]
      exact tcp_body_ensures wellFormedHead checks standingBody

end Tcp

section Websocket

private theorem seven_bits : ∀ length < 128, UInt8.ofNat length &&& 0x80 = 0 ∧
      (UInt8.ofNat length &&& 0x7F).toNat = length := by
  decide

private theorem parseHeader_encoded (opcode : Opcode) {short : Nat} (fits : short < 128) :
    parseHeader (0x80 ||| opcode.toByte) (UInt8.ofNat short) = .ok (opcode, short) := by
  obtain ⟨unmasked, shortEq⟩ := seven_bits short fits
  have opcodeEq : parseOpcode ((0x80 ||| opcode.toByte) &&& 0x0F) = .ok opcode := by
    cases opcode <;> decide
  have reserved : (0x80 ||| opcode.toByte) &&& 0x70 = 0 := by
    cases opcode <;> decide
  have final : (0x80 ||| opcode.toByte) &&& 0x80 ≠ 0 := by
    cases opcode <;> decide
  simp only [parseHeader, reserved, opcodeEq, final, unmasked, shortEq,
    ne_eq, not_true_eq_false, if_false]

private theorem shortLength_lt (length : Nat) : shortLength length < 128 := by
  unfold shortLength
  split
  · omega
  · split <;> omega

theorem websocket_length (message : WireMessage) :
    (encode .websocket message).length = 2 + (extLength message.payload.length).length +
      message.payload.length := by
  simp only [encode, List.length_cons, List.length_append]
  omega

variable {rest : List WireMessage}

private abbrev LengthRead (message : WireMessage) (rest : List WireMessage) (inbound : Inbound)
    (length : Nat) (next : Inbound) : Prop :=
  length = message.payload.length ∧
    At (encode .websocket) (message :: rest) (2 + (extLength message.payload.length).length)
      next.reader ∧
    next.expired = inbound.expired

private abbrev Cut (inbound : Inbound) (error : ReadError) (next : Inbound) : Prop :=
  Dead next.reader ∧ error ≠ .deadlineExceeded ∧ next.expired = inbound.expired

private theorem extended_ensures {width : Nat} (shape :
      extLength message.payload.length = BigEndian.encode width message.payload.length)
    (fits : message.payload.length < 256 ^ width)
    (standing : At (encode .websocket) (message :: rest) 2 inbound.reader) :
    ((inbound.readFull width).bind fun extLen next =>
        (Outcome.done (BigEndian.decode extLen) next : ReadOutcome Nat)).Ensures
      (LengthRead message rest inbound) (Cut inbound) := by
  have widthEq : (extLength message.payload.length).length = width := by
    rw [shape, BigEndian.length_encode]
  have inside : 2 + width ≤ (encode .websocket message).length := by
    rw [websocket_length, widthEq]
    omega
  have field := readFull_ensures (readFull_within_message standing inside)
  refine Outcome.Ensures.bind (field.mono (fun _ _ => id) ?_) ?_
  · rintro error next ⟨stopped, notDeadline, checks⟩
    rcases stopped with dead | ⟨impossible, _⟩
    · exact ⟨dead, notDeadline, checks⟩
    · exact absurd impossible (by decide)
  · rintro extLen next ⟨⟨bytesEq, standingNext⟩, checks⟩
    refine ⟨?_, widthEq.symm ▸ standingNext, checks⟩
    have extBytes : extLen = BigEndian.encode width message.payload.length := by
      rw [bytesEq, encode, shape]
      exact List.take_left' (BigEndian.length_encode width _)
    rw [extBytes, BigEndian.decode_encode_of_lt fits]

private theorem readLength_ensures (fits : message.payload.length < 256 ^ 8)
    (standing : At (encode .websocket) (message :: rest) 2 inbound.reader) :
    (readLength (shortLength message.payload.length) inbound).Ensures
      (LengthRead message rest inbound) (Cut inbound) := by
  by_cases small : message.payload.length < 126
  · have shortEq : shortLength message.payload.length = message.payload.length := if_pos small
    have noField : extLength message.payload.length = [] := if_pos small
    rw [readLength, shortEq, if_neg (by omega), if_neg (by omega)]
    refine ⟨rfl, ?_, rfl⟩
    rw [noField]
    exact standing
  · by_cases middle : message.payload.length < 256 ^ 2
    · have shortEq : shortLength message.payload.length = 126 := by
        rw [shortLength, if_neg small, if_pos middle]
      have field :
          extLength message.payload.length = BigEndian.encode 2 message.payload.length := by
        rw [extLength, if_neg small, if_pos middle]
      rw [readLength, shortEq, if_pos rfl]
      exact extended_ensures field middle standing
    · have shortEq : shortLength message.payload.length = 127 := by
        rw [shortLength, if_neg small, if_neg middle]
      have field :
          extLength message.payload.length = BigEndian.encode 8 message.payload.length := by
        rw [extLength, if_neg small, if_neg middle]
      rw [readLength, shortEq, if_neg (by decide), if_pos rfl]
      exact extended_ensures field fits standing

/-- Where a rejected or interrupted `readFrame` leaves the reader. -/
def FrameStopped (message : WireMessage) (rest : List WireMessage) (limit : Nat)
    (inbound : Inbound) (error : ReadError) (next : Inbound) : Prop :=
  (Dead next.reader ∨
    At (encode .websocket) (message :: rest) 0 next.reader ∨
    error = .frameTooLarge ∧ message.opcode.isControl = false ∧ limit < message.payload.length) ∧
    error ≠ .deadlineExceeded ∧
    next.expired = inbound.expired

private theorem length_lt_of_wellFormed
    (wellFormed : WellFormed .websocket message) : message.payload.length < 256 ^ 8 := by
  have bounded : message.payload.length < 2 ^ 63 := wellFormed.1
  omega

private theorem control_length_le (wellFormed : WellFormed .websocket message) :
    (message.opcode.isControl && decide (125 < message.payload.length)) = false := by
  have bounded : message.opcode.isControl → message.payload.length ≤ 125 := wellFormed.2
  simpa using bounded

variable {limit : Nat}

private abbrev FrameRead (message : WireMessage) (rest : List WireMessage) (inbound : Inbound)
    (frame : Opcode × Bytes) (next : Inbound) : Prop :=
  frame = (message.opcode, message.payload) ∧ At (encode .websocket) rest 0 next.reader ∧
    next.expired = inbound.expired

private theorem payload_ensures {before : Inbound} (checksBefore : before.expired = inbound.expired)
    (standing :
      At (encode .websocket) (message :: rest) (2 + (extLength message.payload.length).length)
        before.reader) :
    ((before.readFull message.payload.length).bind fun payload next =>
          (Outcome.done (message.opcode, payload) next : ReadOutcome (Opcode × Bytes))).Ensures
      (FrameRead message rest inbound)
      (FrameStopped message rest limit inbound) := by
  have whole := (websocket_length message).symm
  have body := readFull_ensures (readFull_within_message standing whole.le)
  refine Outcome.Ensures.bind (body.mono (fun _ _ => id) ?_) ?_
  · rintro error next ⟨stopped, notDeadline, checks⟩
    rcases stopped with dead | ⟨impossible, _⟩
    · exact ⟨Or.inl dead, notDeadline, checks.trans checksBefore⟩
    · omega
  · rintro payload next ⟨⟨bytesEq, standingNext⟩, checks⟩
    rw [whole] at standingNext
    have payloadEq : payload = message.payload := by
      have tailShape :
          (encode .websocket message).drop (2 + (extLength message.payload.length).length) =
            message.payload := by
        rw [Nat.add_comm, encode, List.drop_succ_cons, List.drop_succ_cons, List.drop_left]
      rw [bytesEq, tailShape, List.take_length]
    refine ⟨by rw [payloadEq], ?_, checks.trans checksBefore⟩
    exact at_end_of_message (encode_length_pos .websocket message) standingNext

theorem readFrame_ensures (wellFormed : WellFormed .websocket message)
    (standing : At (encode .websocket) (message :: rest) 0 inbound.reader) :
    (readFrame limit inbound).Ensures
      (FrameRead message rest inbound)
      (FrameStopped message rest limit inbound) := by
  have inside : 0 + 2 ≤ (encode .websocket message).length := by
    rw [websocket_length]
    omega
  have header := readFull_ensures (readFull_within_message standing inside)
  refine Outcome.Ensures.bind (header.mono (fun _ _ => id) ?_) ?_
  · rintro error next ⟨stopped, notDeadline, checks⟩
    refine ⟨?_, notDeadline, checks⟩
    rcases stopped with dead | ⟨_, standingNext⟩
    · exact Or.inl dead
    · exact Or.inr (Or.inl standingNext)
  · rintro header next ⟨⟨bytesEq, standingNext⟩, checks⟩
    have headerBytes : header =
          [0x80 ||| message.opcode.toByte, UInt8.ofNat (shortLength message.payload.length)] := by
      rw [bytesEq]
      rfl
    have parsed : parseHeader (header.getD 0 0) (header.getD 1 0) =
          .ok (message.opcode, shortLength message.payload.length) := by
      rw [headerBytes]
      exact parseHeader_encoded message.opcode (shortLength_lt _)
    rw [parsed]
    have length := readLength_ensures (length_lt_of_wellFormed wellFormed) standingNext
    refine Outcome.Ensures.bind (length.mono (fun _ _ => id) ?_) ?_
    · rintro error last ⟨dead, notDeadline, checksLast⟩
      exact ⟨Or.inl dead, notDeadline, checksLast.trans checks⟩
    · rintro length last ⟨rfl, standingLast, checksLast⟩
      rw [control_length_le wellFormed]
      by_cases tooLarge :
          (!message.opcode.isControl && decide (limit < message.payload.length)) = true
      · rw [if_neg Bool.false_ne_true, if_pos tooLarge]
        refine ⟨Or.inr (Or.inr ?_), by simp, checksLast.trans checks⟩
        exact ⟨rfl, by simpa using tooLarge⟩
      · rw [if_neg Bool.false_ne_true, if_neg tooLarge]
        exact payload_ensures (checksLast.trans checks) standingLast

private theorem readFrame_after_messages_ensures
    (standing : At (encode .websocket) [] 0 inbound.reader) :
    (readFrame limit inbound).Ensures (fun _ _ => False)
      (fun error next =>
        (Dead next.reader ∨ At (encode .websocket) [] 0 next.reader) ∧ error ≠ .deadlineExceeded ∧
          next.expired = inbound.expired) := by
  have header := readFull_ensures (readFull_after_messages standing (by decide : 0 < 2))
  exact header.bind fun _ _ impossible => impossible.1.elim

/-- The frame size limit admits every data message, or no context check is
ever made late. -/
def Punctual (limit : Nat) (messages : List WireMessage) (inbound : Inbound) : Prop :=
  true ∈ inbound.expired →
    ∀ message ∈ messages, message.opcode.isControl = false → message.payload.length ≤ limit

theorem Punctual.tail {limit : Nat} {rest : List WireMessage}
    {next : Inbound} (punctual : Punctual limit (message :: rest) inbound)
    (checks : true ∈ next.expired → true ∈ inbound.expired) : Punctual limit rest next := by
  intro later other member
  exact punctual (checks later) other (List.mem_cons_of_mem _ member)

private theorem ensures_after_control {before : Inbound} {outcome : ReadOutcome Bytes}
    (control : message.opcode ≠ .binary) (checks : true ∈ before.expired → true ∈ inbound.expired)
    (ensures : outcome.Ensures (ReturnsNext .websocket rest before)
      (LosesNothing .websocket rest before)) :
    outcome.Ensures (ReturnsNext .websocket (message :: rest) inbound)
      (LosesNothing .websocket (message :: rest) inbound) := by
  have skipped := frames_cons_of_ne control rest
  have resumed : ∀ {remaining : List WireMessage} {next : Inbound},
        Resumes .websocket rest remaining before next →
        Resumes .websocket (message :: rest) remaining inbound next := by
    intro remaining next resumes
    exact ⟨resumes.remaining.trans (List.suffix_cons message rest),
        resumes.standing, fun later => checks (resumes.checks later)⟩
  refine ensures.mono ?_ ?_
  · rintro frame next ⟨remaining, resumes, framesEq⟩
    exact ⟨remaining, resumed resumes, skipped.trans framesEq⟩
  · intro error next loses reported
    rcases loses reported with dead | ⟨remaining, resumes, framesEq⟩
    · exact Or.inl dead
    · exact Or.inr ⟨remaining, resumed resumes, skipped.trans framesEq⟩

private theorem websocket_frame_ensures (wellFormed : WellFormed .websocket message)
    (punctual : Punctual limit (message :: rest) inbound)
    (standing : At (encode .websocket) (message :: rest) 0 inbound.reader) :
    (contextFirst (readFrame limit inbound)).Ensures
      (FrameRead message rest inbound)
      (LosesNothing .websocket (message :: rest) inbound) := by
  have frame := contextFirst_ensures
      (readFrame_ensures wellFormed standing : (readFrame limit inbound).Ensures _ _)
  refine frame.mono (fun _ _ => id) ?_
  rintro error next ⟨cause, before, ⟨stopped, notDeadline, same⟩, readerEq, checks, late⟩ reported
  rcases stopped with
    dead | standingBefore | ⟨rejected, data, tooLarge⟩
  · exact Or.inl (readerEq ▸ dead)
  · refine Or.inr ⟨message :: rest, Resumes.refl ?_ ?_, rfl⟩
    · rw [readerEq]
      exact standingBefore
    · rw [← same]
      exact checks
  · have checkedLate : true ∈ before.expired := by
      simpa [rejected] using late reported
    rw [same] at checkedLate
    have admitted := punctual checkedLate message List.mem_cons_self data
    omega

private theorem websocket_after_messages_ensures
    (standing : At (encode .websocket) [] 0 inbound.reader) :
    (contextFirst (readFrame limit inbound)).Ensures
      (fun _ _ => False) (LosesNothing .websocket [] inbound) := by
  have frame := contextFirst_ensures
      (readFrame_after_messages_ensures standing : (readFrame limit inbound).Ensures _ _)
  refine frame.mono (fun _ _ => id) ?_
  rintro error next ⟨cause, before, ⟨stopped, _, same⟩, readerEq, checks, _⟩
  refine losesNothing_of_standing (readerEq ▸ stopped) ?_
  rw [← same]
  exact checks

private theorem losesNothing_of_ne {next : Inbound} (other : error ≠ .deadlineExceeded) :
    LosesNothing kind messages inbound error next :=
  fun reported => absurd reported other

/-- The loop over control frames, by induction on the frames it may read. -/
theorem websocketReadLoop_ensures (frameBound : Nat) :
    ∀ {messages : List WireMessage} {inbound : Inbound},
      (∀ message ∈ messages, WellFormed .websocket message) →
      Punctual limit messages inbound → At (encode .websocket) messages 0 inbound.reader →
      (websocketReadLoop limit frameBound inbound).Ensures (ReturnsNext .websocket messages inbound)
      (LosesNothing .websocket messages inbound) := by
  induction frameBound with
  | zero =>
    intro messages inbound _ _ _
    trivial
  | succ frameBound ih =>
    intro messages inbound wellFormed punctual standing
    apply unlessExpired_ensures standing
    intro standingHere
    cases messages with
    | nil =>
      exact
        (websocket_after_messages_ensures standingHere).bind fun _ _ impossible => impossible.elim
    | cons message rest =>
      have wellFormedRest : ∀ later ∈ rest, WellFormed .websocket later := fun later member =>
          wellFormed later (List.mem_cons_of_mem message member)
      have punctualHere : Punctual limit (message :: rest) inbound.checkContext.2 :=
        fun later => punctual (mem_of_checkContext later)
      have frame :=
        websocket_frame_ensures (wellFormed message List.mem_cons_self) punctualHere standingHere
      refine frame.bind ?_
      rintro ⟨opcode, payload⟩ next ⟨frameEq, standingNext, checks⟩
      injection frameEq with opcodeEq payloadEq
      have continues : ∀ {last : Inbound}, last.reader = next.reader →
            last.expired = next.expired →
            message.opcode ≠ .binary →
            (websocketReadLoop limit frameBound last).Ensures
              (ReturnsNext .websocket (message :: rest) inbound.checkContext.2)
              (LosesNothing .websocket (message :: rest) inbound.checkContext.2) := by
        intro last readerEq expiredEq control
        have checksLast : true ∈ last.expired → true ∈ inbound.checkContext.2.expired := by
          rw [expiredEq, checks]
          exact id
        exact ensures_after_control control checksLast
            (ih wellFormedRest (punctualHere.tail checksLast) (readerEq ▸ standingNext))
      subst opcodeEq payloadEq
      obtain ⟨opcode, payload⟩ := message
      cases opcode with
      | pong => exact continues rfl rfl (by simp)
      | ping =>
        change (if next.writePong.1 then _ else _ : ReadOutcome Bytes).Ensures _ _
        by_cases failed : next.writePong.1 = true
        · rw [if_pos failed]
          exact losesNothing_of_ne (by decide)
        · rw [if_neg failed]
          exact continues rfl rfl (by simp)
      | binary =>
        change (if limit < payload.length then _ else _ : ReadOutcome Bytes).Ensures _ _
        by_cases tooLarge : limit < payload.length
        · rw [if_pos tooLarge]
          exact losesNothing_of_ne (by decide)
        · rw [if_neg tooLarge]
          refine ⟨rest, ⟨List.suffix_cons _ rest, standingNext, ?_⟩, frames_cons_binary rfl rest⟩
          rw [checks]
          exact id
      | _ => exact losesNothing_of_ne (by decide)

theorem websocketRead_ensures (wellFormed : ∀ message ∈ messages, WellFormed .websocket message)
    (punctual : Punctual limit messages inbound)
    (standing : At (encode .websocket) messages 0 inbound.reader) :
    (websocketRead limit inbound).Ensures (ReturnsNext .websocket messages inbound)
      (LosesNothing .websocket messages inbound) := by
  apply unlessExpired_ensures standing
  intro standingHere
  exact websocketReadLoop_ensures _ wellFormed
      (fun later => punctual (mem_of_checkContext later)) standingHere

end Websocket

theorem read_ensures {limit : Nat} (wellFormed : ∀ message ∈ messages, WellFormed kind message)
    (punctual : kind = .websocket → Punctual limit messages inbound)
    (standing : At (encode kind) messages 0 inbound.reader) :
    (read kind limit inbound).Ensures (ReturnsNext kind messages inbound)
      (LosesNothing kind messages inbound) := by
  cases kind with
  | tcp => exact tcpRead_ensures wellFormed standing
  | websocket => exact websocketRead_ensures wellFormed (punctual rfl) standing

section DeadReader

/-- After a permanent failure no `Read` returns a frame. -/
def StaysDead (_ : ReadError) (next : Inbound) : Prop :=
  Dead next.reader

variable (dead : Dead inbound.reader)
include dead

private theorem inbound_readFull_of_dead {want : Nat} (positive : 0 < want) :
    inbound.readFull want = .failed (.io .broken) inbound := by
  rw [Inbound.readFull, readFull_of_dead dead positive]

private theorem unlessExpired_of_dead {next : Inbound → ReadOutcome Bytes}
    (ensures : Dead inbound.checkContext.2.reader →
      (next inbound.checkContext.2).Ensures (fun _ _ => False) StaysDead) :
    (unlessExpired inbound next).Ensures (fun _ _ => False) StaysDead := by
  unfold unlessExpired
  by_cases expired : inbound.checkContext.1 = true
  · rw [if_pos expired]
    exact dead
  · rw [if_neg expired]
    exact ensures dead

private theorem contextFirst_of_dead {α : Type} :
    (contextFirst (.failed error inbound : ReadOutcome α)).Ensures
      (fun _ _ => False) StaysDead := by
  by_cases timedOut : error = .io .deadline
  · rw [contextFirst, if_pos timedOut]
    exact dead
  · rw [contextFirst, if_neg timedOut]
    exact dead

theorem read_of_dead {limit : Nat} : (read kind limit inbound).Ensures
      (fun _ _ => False) StaysDead := by
  cases kind with
  | tcp =>
    unfold read tcpRead
    apply unlessExpired_of_dead dead
    intro deadHere
    rw [inbound_readFull_of_dead deadHere (by decide)]
    exact (contextFirst_of_dead deadHere).bind fun _ _ impossible => impossible.elim
  | websocket =>
    unfold read websocketRead
    apply unlessExpired_of_dead dead
    intro deadHere
    apply unlessExpired_of_dead deadHere
    intro deadLoop
    rw [readFrame, inbound_readFull_of_dead deadLoop (by decide)]
    exact (contextFirst_of_dead deadLoop).bind fun _ _ impossible => impossible.elim

end DeadReader

section Bound

private theorem readFull_bytesLeft (inbound : Inbound) (want : Nat) :
    (inbound.readFull want).Ensures (fun _ next => bytesLeft next + want ≤ bytesLeft inbound)
      (fun _ _ => True) := by
  have delivers :
      Delivers (fun _ => True) (inbound.reader.buffered ++ arrived inbound.reader.network)
        inbound.reader :=
    ⟨List.prefix_rfl, expiresOnlyAt_of_forall (fun _ => trivial) _ _⟩
  have counted : (BufferedReader.readFull want inbound.reader).Ensures _ _ :=
    fill_ensures _ _ delivers
  refine (readFull_ensures counted).mono ?_ (fun _ _ _ => trivial)
  rintro bytes next ⟨⟨enough, _, remaining⟩, _⟩
  have fewer := remaining.inOrder.length_le
  rw [List.length_drop] at fewer
  unfold bytesLeft
  omega

private theorem readLength_bytesLeft (short : Nat) (inbound : Inbound) :
    (readLength short inbound).Ensures (fun _ next => bytesLeft next ≤ bytesLeft inbound)
      (fun _ _ => True) := by
  have extended : ∀ width, ((inbound.readFull width).bind fun extLen next =>
            (Outcome.done (BigEndian.decode extLen) next : ReadOutcome Nat)).Ensures
          (fun _ next => bytesLeft next ≤ bytesLeft inbound)
          (fun _ _ => True) := by
    intro width
    refine (readFull_bytesLeft inbound width).bind ?_
    intro extLen next fewer
    exact (Nat.le_add_right _ _).trans fewer
  unfold readLength
  by_cases two : short = 126
  · rw [if_pos two]
    exact extended 2
  · by_cases eight : short = 127
    · rw [if_neg two, if_pos eight]
      exact extended 8
    · rw [if_neg two, if_neg eight]
      exact Nat.le_refl _

private theorem readFrame_bytesLeft (limit : Nat) (inbound : Inbound) :
    (readFrame limit inbound).Ensures (fun _ next => bytesLeft next < bytesLeft inbound)
      (fun _ _ => True) := by
  refine (readFull_bytesLeft inbound 2).bind ?_
  intro header next fewerHeader
  cases parseHeader (header.getD 0 0) (header.getD 1 0) with
  | error error => trivial
  | ok parsed =>
    obtain ⟨opcode, short⟩ := parsed
    refine (readLength_bytesLeft short next).bind ?_
    intro length last fewerLength
    by_cases control : (opcode.isControl && decide (125 < length)) = true
    · rw [if_pos control]
      trivial
    · by_cases tooLarge : (!opcode.isControl && decide (limit < length)) = true
      · rw [if_neg control, if_pos tooLarge]
        trivial
      · rw [if_neg control, if_neg tooLarge]
        refine (readFull_bytesLeft last length).bind ?_
        intro payload final fewerPayload
        change bytesLeft final < bytesLeft inbound
        omega

theorem websocketReadLoop_enough (limit : Nat) :
    ∀ (frameBound : Nat) (inbound : Inbound), bytesLeft inbound < frameBound →
      websocketReadLoop limit (frameBound + 1) inbound =
      websocketReadLoop limit frameBound inbound := by
  intro frameBound
  induction frameBound with
  | zero =>
    intro inbound impossible
    exact absurd impossible (Nat.not_lt_zero _)
  | succ frameBound ih =>
    intro inbound enough
    rw [websocketReadLoop, websocketReadLoop]
    by_cases expired : inbound.checkContext.1 = true
    · rw [unlessExpired, unlessExpired, if_pos expired, if_pos expired]
    · rw [unlessExpired, unlessExpired, if_neg expired, if_neg expired]
      have frame := contextFirst_ensures (readFrame_bytesLeft limit inbound.checkContext.2)
      refine frame.bind_congr ?_
      rintro ⟨opcode, payload⟩ next fewer
      have shorter : bytesLeft next < frameBound :=
        Nat.lt_of_lt_of_le fewer (Nat.le_of_lt_succ enough)
      cases opcode with
      | pong => exact ih next shorter
      | ping =>
        have agree := ih next.writePong.2 shorter
        simp only [agree]
      | _ => rfl

end Bound

end FitzGo.Transport
