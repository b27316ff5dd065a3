import FitzGo.Transport.Framing

/-!
# The dispatch loop under read timeouts

With a positive `ReadTimeout` a `Read` that returns the context's deadline error
is followed by another `Read`; every other error ends the loop. What
dispatching does with a frame is a parameter.
-/

namespace FitzGo.Connection

open BufferedReader Transport

variable {δ : Type}

/-- What `dispatchTransportFrame` does to the connection: `none` ends the
loop, and `limit` is the frame size limit it has set on the transport. -/
structure FrameSink (δ : Type) where
  limit : δ → Nat
  dispatch : δ → Bytes → Option δ

/-- The frames handed to `dispatchTransportFrame` in a number of iterations. -/
def dispatchLoop (sink : FrameSink δ) (kind : Kind) (readTimeout : Int) :
    (iterations : Nat) → δ → Inbound → List Bytes
  | 0, _, _ => []
  | iterations + 1, state, inbound =>
    match read kind (sink.limit state) inbound with
    | .done frame inbound =>
      frame ::
        match sink.dispatch state frame with
        | none => []
        | some state => dispatchLoop sink kind readTimeout iterations state inbound
    | .failed error inbound =>
      if 0 < readTimeout ∧ error = .deadlineExceeded then
        dispatchLoop sink kind readTimeout iterations state inbound
      else []
    | .blocked => []

/-- The peer sends `messages`, and a part of their bytes arrives. -/
structure Sends (kind : Kind) (messages : List WireMessage) (inbound : Inbound) : Prop where
  wellFormed : ∀ message ∈ messages, WellFormed kind message
  nothingBuffered : inbound.reader.buffered = []
  inOrder : arrived inbound.reader.network <+: messages.flatMap (encode kind)

/-- No deadline expires while a message is partly read. The second part is
about the WebSocket transport alone: it turns the rejection of an oversized
message into the context's error if the context has expired meanwhile. -/
structure TimeoutsBetweenMessages (sink : FrameSink δ) (kind : Kind)
    (messages : List WireMessage) (inbound : Inbound) : Prop where
  expiries : ExpiresOnlyAt (Boundary (encode kind) messages) 0 inbound.reader.network
  punctual : kind = .websocket → ∀ state, Punctual (sink.limit state) messages inbound

private structure Aligned (sink : FrameSink δ) (kind : Kind)
    (messages : List WireMessage) (inbound : Inbound) : Prop where
  wellFormed : ∀ message ∈ messages, WellFormed kind message
  punctual : kind = .websocket → ∀ state, Punctual (sink.limit state) messages inbound
  standing : At (encode kind) messages 0 inbound.reader

private theorem Aligned.resumes {sink : FrameSink δ} {kind : Kind}
    {messages rest : List WireMessage} {inbound next : Inbound}
    (aligned : Aligned sink kind messages inbound)
    (resumes : Resumes kind messages rest inbound next) : Aligned sink kind rest next where
  wellFormed message member := aligned.wellFormed message (resumes.remaining.subset member)
  punctual websocket state later message member :=
    aligned.punctual websocket state (resumes.checks later) message
      (resumes.remaining.subset member)
  standing := resumes.standing

private theorem dispatchLoop_of_dead (sink : FrameSink δ) (kind : Kind) (readTimeout : Int)
    (iterations : Nat) :
    ∀ (state : δ) {inbound : Inbound}, Dead inbound.reader →
      dispatchLoop sink kind readTimeout iterations state inbound = [] := by
  induction iterations with
  | zero =>
    intro state inbound _
    rfl
  | succ iterations ih =>
    intro state inbound dead
    have reads : (read kind (sink.limit state) inbound).Ensures (fun _ _ => False) StaysDead :=
      read_of_dead dead
    rw [dispatchLoop]
    cases outcome : read kind (sink.limit state) inbound with
    | blocked => rfl
    | done frame next =>
      rw [outcome] at reads
      exact reads.elim
    | failed error next =>
      rw [outcome] at reads
      have deadNext : Dead next.reader := reads
      simp only [ih state deadNext, ite_self]

private theorem dispatchLoop_of_aligned
    (sink : FrameSink δ) (kind : Kind) (readTimeout : Int) (iterations : Nat) :
    ∀ (state : δ) {messages : List WireMessage} {inbound : Inbound},
      Aligned sink kind messages inbound →
      dispatchLoop sink kind readTimeout iterations state inbound <+: frames messages := by
  induction iterations with
  | zero =>
    intro state messages inbound _
    exact List.nil_prefix
  | succ iterations ih =>
    intro state messages inbound aligned
    have reads : (read kind (sink.limit state) inbound).Ensures (ReturnsNext kind messages inbound)
          (LosesNothing kind messages inbound) :=
      read_ensures aligned.wellFormed (fun websocket => aligned.punctual websocket state)
        aligned.standing
    rw [dispatchLoop]
    cases outcome : read kind (sink.limit state) inbound with
    | blocked => exact List.nil_prefix
    | done frame next =>
      rw [outcome] at reads
      obtain ⟨rest, resumes, framesEq⟩ := reads
      rw [framesEq, List.prefix_cons_inj]
      cases sink.dispatch state frame with
      | none => exact List.nil_prefix
      | some stateNext => exact ih stateNext (aligned.resumes resumes)
    | failed error next =>
      rw [outcome] at reads
      by_cases continues : 0 < readTimeout ∧ error = .deadlineExceeded
      · simp only [if_pos continues]
        rcases reads continues.2 with
          dead | ⟨rest, resumes, framesEq⟩
        · rw [dispatchLoop_of_dead sink kind readTimeout iterations state dead]
          exact List.nil_prefix
        · rw [framesEq]
          exact ih state (aligned.resumes resumes)
      · simp only [if_neg continues]
        exact List.nil_prefix

/-- If no deadline expires inside a message, the frames handed over are the
messages sent, in order and byte for byte, however the bytes are cut into
arrivals. -/
theorem dispatched_frames_are_sent_in_order (sink : FrameSink δ) (kind : Kind) (readTimeout : Int)
    (messages : List WireMessage) (inbound : Inbound) (sends : Sends kind messages inbound)
    (between : TimeoutsBetweenMessages sink kind messages inbound) (iterations : Nat) (state : δ) :
    dispatchLoop sink kind readTimeout iterations state inbound <+: frames messages := by
  refine dispatchLoop_of_aligned sink kind readTimeout iterations state
      ⟨sends.wellFormed, between.punctual, ?_⟩
  refine ⟨?_, ?_⟩
  · rw [sends.nothingBuffered]
    exact sends.inOrder
  · rw [sends.nothingBuffered]
    simp only [Nat.zero_add]
    exact between.expiries

def acceptingSink : FrameSink Unit where
  limit _ := 2 ^ 20
  dispatch state _ := some state

/-- A wire message of eighteen bytes; its last three bytes read as a WebSocket
frame. -/
def sampleMessage : WireMessage where
  opcode := .binary
  payload := [0x01, 0xF8, 0, 0, 0, 0, 0, 0, 0, 0, 0, 0, 0, 0, 3, 0x82, 1, 0xFF]

/-- The sample message arrives in two chunks, the first of `cut` bytes, with a
read deadline expiring between them. -/
def interrupted (kind : Kind) (cut : Nat) : Inbound where
  reader :=
    { buffered := []
      network := [.arrive ((encode kind sampleMessage).take cut), .expire,
          .arrive ((encode kind sampleMessage).drop cut)] }
  expired := []
  pongFailed := []

/-- Over TCP an empty frame is handed over that nobody sent, and over
WebSocket the tail of a payload. -/
theorem read_timeout_inside_message_invents_frames : (WellFormed .tcp sampleMessage ∧
      arrived (interrupted .tcp 7).reader.network = encode .tcp sampleMessage ∧
      dispatchLoop acceptingSink .tcp 1 2 () (interrupted .tcp 7) = [[]] ∧
      ¬ dispatchLoop acceptingSink .tcp 1 2 () (interrupted .tcp 7) <+: frames [sampleMessage]) ∧
    (WellFormed .websocket sampleMessage ∧
      arrived (interrupted .websocket 17).reader.network = encode .websocket sampleMessage ∧
      dispatchLoop acceptingSink .websocket 1 2 () (interrupted .websocket 17) = [[0xFF]] ∧
      ¬ dispatchLoop acceptingSink .websocket 1 2 () (interrupted .websocket 17) <+:
          frames [sampleMessage]) := by
  decide

def timedBetween (kind : Kind) : Inbound where
  reader :=
    { buffered := []
      network :=
        [.arrive (encode kind sampleMessage), .expire, .arrive (encode kind sampleMessage)] }
  expired := []
  pongFailed := []

theorem dispatched_frames_with_timeout_between_messages :
    dispatchLoop acceptingSink .tcp 1 3 () (timedBetween .tcp) =
        [sampleMessage.payload, sampleMessage.payload] ∧
      dispatchLoop acceptingSink .tcp 1 3 () (timedBetween .tcp) <+:
        frames [sampleMessage, sampleMessage] := by
  refine ⟨by decide, ?_⟩
  refine dispatched_frames_are_sent_in_order acceptingSink .tcp 1
      [sampleMessage, sampleMessage] (timedBetween .tcp)
      ⟨by decide, rfl, by decide⟩ ⟨?_, ?_⟩ 3 ()
  · exact ⟨⟨1, by decide⟩, trivial⟩
  · intro impossible
    exact Kind.noConfusion impossible

end FitzGo.Connection
