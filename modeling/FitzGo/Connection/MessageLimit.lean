import FitzGo.Connection.Handshake

/-!
# The negotiated message limit

Inbound the limit is enforced by the transport, by `dispatchTransportFrame` and
by the decoder; outbound by the encoders and by each send function.
-/

namespace FitzGo.Connection.Handshake

open Protocol

/-! ## Outbound frames -/

inductive SendKind
  | request
  | requestWithWriter
  | fireAndForget
  | fireAndForgetWithWriter
  deriving DecidableEq

inductive SendError
  | encodeFrame
  | encodeFrameWithWriter (error : EncodeError)
  | exceedsNegotiatedLimit (limit : Nat)
  deriving DecidableEq

/-- The one-way functions take no flags. -/
def SendKind.flags (flags : UInt8) : SendKind → UInt8
  | .request | .requestWithWriter => flags
  | .fireAndForget | .fireAndForgetWithWriter => 0

/-- The encoder that a send function calls. The payload writers append the
payload, and `SendFireAndForgetWithWriter` has it in a buffer of its own first. -/
def SendKind.encode (messageType : UInt16) (flags : UInt8) (correlationID : UInt64)
    (payload : Bytes) : SendKind → Except SendError Bytes
  | .request =>
    match
      encodeFrameOwnedWithHeader ⟨messageType, flags, correlationID, payload⟩
    with
    | none => .error .encodeFrame
    | some frame => .ok frame
  | .requestWithWriter =>
    match
      encodeFrameWithHeaderAndPayloadWriter messageType flags correlationID (some (· ++ payload))
    with
    | .error error => .error (.encodeFrameWithWriter error)
    | .ok frame => .ok frame
  | .fireAndForget | .fireAndForgetWithWriter =>
    match
      encodeFrameOwnedWithHeader ⟨messageType, 0, correlationID, payload⟩
    with
    | none => .error .encodeFrame
    | some frame => .ok frame

/-- The frame that a send function puts on the wire once its slot and its
correlation id are there. -/
def outboundFrame (session : Session) (kind : SendKind) (messageType : UInt16) (flags : UInt8)
    (correlationID : UInt64) (payload : Bytes) : Except SendError Bytes :=
  match kind.encode messageType flags correlationID payload with
  | .error error => .error error
  | .ok frame =>
    if toUint32 frame.length > session.maxMessageBytes then
      .error (.exceedsNegotiatedLimit session.maxMessageBytes)
    else .ok frame

/-! ## Inbound frames -/

inductive InboundError
  | frameTooLarge
  | dispatch (error : DispatchError)
  deriving DecidableEq

def InboundError.isForSize : InboundError → Bool
  | .frameTooLarge => true
  | .dispatch .exceedsNegotiatedLimit => true
  | .dispatch (.decode .exceedsMaximumSize) => true
  | .dispatch _ => false

def receive (configured : Int) (session : Session) (data : Bytes) :
    Except InboundError (Session × Bool) :=
  if session.frameSizeLimit < data.length then .error .frameTooLarge
  else
    match dispatchTransportFrame configured session data with
    | .error error => .error (.dispatch error)
    | .ok result => .ok result

/-- What happens to a session after its HELLO: frames come in, and requests
enter their correlation ids. -/
inductive Traffic
  | inbound (data : Bytes)
  | registered (id : UInt64)

/-- The session after some traffic; the loop ends at the first frame that is
refused. -/
def afterTraffic (configured : Int) : Session → List Traffic → Session
  | session, [] => session
  | session, .inbound data :: rest =>
    match receive configured session data with
    | .error _ => session
    | .ok (after, _) => afterTraffic configured after rest
  | session, .registered id :: rest =>
    afterTraffic configured { session with correlated := id :: session.correlated } rest

/-! ## The limit that is wanted -/

/-- The smallest of one mebibyte, the server's limit and the configured limit,
if there is one. -/
def effectiveLimit (configured : Int) (serverLimit : Nat) : Nat :=
  if 0 < configured then min (min maxMessageSize serverLimit) configured.toNat
  else min maxMessageSize serverLimit

structure Enforces (configured : Int) (session : Session) (limit : Nat) : Prop where
  rejectsLonger : ∀ data : Bytes, limit < data.length →
    ∃ error, receive configured session data = .error error
  admitsShorter : ∀ data : Bytes, data.length ≤ limit →
    ∀ error, receive configured session data = .error error → error.isForSize = false
  sendsShorter : ∀ kind messageType flags correlationID payload frame,
    outboundFrame session kind messageType flags correlationID payload = .ok frame →
    frame.length = encodedLength payload ∧ frame.length ≤ limit
  sendsAll : ∀ (kind : SendKind) messageType flags correlationID payload,
    kind.flags flags &&& ~~~validFlags = 0 → encodedLength payload ≤ limit → ∃ frame,
    outboundFrame session kind messageType flags correlationID payload = .ok frame

/-- The conversion to `uint32` does not bring the configured limit below the
other two. -/
def NarrowsHarmlessly (configured : Int) (serverLimit : Nat) : Prop :=
  configured < 2 ^ 32 ∨ min maxMessageSize serverLimit ≤ toUint32 configured

instance (configured : Int) (serverLimit : Nat) :
    Decidable (NarrowsHarmlessly configured serverLimit) :=
  inferInstanceAs (Decidable (_ ∨ _))

/-! ## The stored limit -/

private theorem toUint32_of_small {value : Int} (positive : 0 < value) (small : value < 2 ^ 32) :
    toUint32 value = value.toNat := by
  unfold toUint32
  rw [Int.emod_eq_of_lt positive.le small]

theorem toUint32_length {bytes : Bytes} (short : bytes.length ≤ maxMessageSize) :
    toUint32 bytes.length = bytes.length := by
  unfold toUint32
  have small : (bytes.length : Int) < 2 ^ 32 := by
    unfold maxMessageSize at short
    omega
  rw [Int.emod_eq_of_lt (Int.natCast_nonneg _) small, Int.toNat_natCast]

variable {serverLimit : Nat} {configured : Int}

private theorem localLimit_eq_effectiveLimit (harmless : NarrowsHarmlessly configured serverLimit) :
    localLimit configured serverLimit = effectiveLimit configured serverLimit := by
  unfold localLimit effectiveLimit
  by_cases positive : 0 < configured
  · simp only [positive, true_and, if_true]
    by_cases small : configured < 2 ^ 32
    · rw [toUint32_of_small positive small]
      split <;> omega
    · have above := harmless.resolve_left small
      have large : maxMessageSize ≤ configured.toNat := by
        unfold maxMessageSize
        omega
      rw [if_neg (not_lt.mpr above)]
      omega
  · simp only [positive, false_and, if_false]

private theorem localLimit_of_harmful (harmful : ¬ NarrowsHarmlessly configured serverLimit) :
    localLimit configured serverLimit < effectiveLimit configured serverLimit := by
  unfold NarrowsHarmlessly at harmful
  push Not at harmful
  obtain ⟨large, below⟩ := harmful
  have positive : 0 < configured := by omega
  unfold localLimit effectiveLimit
  rw [if_pos ⟨positive, below⟩, if_pos positive]
  have above : maxMessageSize ≤ configured.toNat := by
    unfold maxMessageSize
    omega
  omega

private theorem headerLen_le_effectiveLimit (serverAllows : headerLen ≤ serverLimit)
    (large : 2 ^ 32 ≤ configured) : headerLen ≤ effectiveLimit configured serverLimit := by
  unfold effectiveLimit maxMessageSize
  unfold headerLen at *
  split <;> omega

private theorem effectiveLimit_pos (serverAllows : headerLen ≤ serverLimit) :
    0 < effectiveLimit configured serverLimit := by
  unfold effectiveLimit maxMessageSize
  unfold headerLen at serverAllows
  split <;> omega

private theorem effectiveLimit_le (configured : Int) (serverLimit : Nat) :
    effectiveLimit configured serverLimit ≤ maxMessageSize := by
  unfold effectiveLimit
  split <;> omega

/-! ## Encoders -/

variable {payload : Bytes} {flags : UInt8} {correlationID : UInt64} {messageType : UInt16}

theorem encode_eq_ok {kind : SendKind}
    {frame : Bytes}
    (encoded : kind.encode messageType flags correlationID payload = .ok frame) :
    frame.length = encodedLength payload ∧ frame.length ≤ maxMessageSize := by
  have sized (message : Frame) (owned : message.payload = payload)
      (short : ¬ payload.length > maxPayloadSize)
      (same : encodeMessage message = frame) :
      frame.length = encodedLength payload ∧ frame.length ≤ maxMessageSize := by
    have length : frame.length = encodedLength payload := by
      rw [← same, length_encodeMessage, owned]
    refine ⟨length, ?_⟩
    rw [length]
    unfold encodedLength
    unfold maxPayloadSize maxMessageSize headerLen at *
    omega
  cases kind with
  | requestWithWriter =>
    simp only [SendKind.encode, encodeFrameWithHeaderAndPayloadWriter_append] at encoded
    split at encoded
    · contradiction
    · rename_i written
      split at written
      · contradiction
      · split at written
        · contradiction
        · rename_i short
          exact sized _ rfl short ((Except.ok.inj written).trans (Except.ok.inj encoded))
  | _ =>
    simp only [SendKind.encode, encodeFrameOwnedWithHeader] at encoded
    split at encoded
    · contradiction
    · rename_i owned
      split at owned
      · contradiction
      · rename_i admitted
        push Not at admitted
        exact sized _ rfl (not_lt.mpr admitted.1)
            ((Option.some.inj owned).trans (Except.ok.inj encoded))

theorem encode_eq_ok_iff {kind : SendKind}
    {frame : Bytes} :
    kind.encode messageType flags correlationID payload = .ok frame ↔
      decodeMessage frame = .ok ⟨messageType, kind.flags flags, correlationID, payload⟩ := by
  rw [decodeMessage_eq_ok_iff]
  cases kind with
  | requestWithWriter =>
    simp only [SendKind.encode, encodeFrameWithHeaderAndPayloadWriter_append,
      encodeFrameOwnedWithHeader, SendKind.flags]
    grind
  | _ =>
    simp only [SendKind.encode, SendKind.flags]
    split <;> simp_all

/-- A send function lets a frame out exactly if the frame is within the limit
and the decoder reads the message of the call from it. -/
theorem outbound_frames_decode_to_their_message (session : Session) (kind : SendKind)
    (messageType : UInt16) (flags : UInt8) (correlationID : UInt64) (payload frame : Bytes) :
    outboundFrame session kind messageType flags correlationID payload = .ok frame ↔
      decodeMessage frame = .ok ⟨messageType, kind.flags flags, correlationID, payload⟩ ∧
        frame.length ≤ session.maxMessageBytes := by
  rw [← encode_eq_ok_iff]
  constructor
  · intro sent
    unfold outboundFrame at sent
    split at sent
    · cases sent
    · rename_i encoded
      split_ifs at sent with large
      cases sent
      rw [toUint32_length (encode_eq_ok encoded).2] at large
      exact ⟨encoded, Nat.not_lt.mp large⟩
  · rintro ⟨encoded, short⟩
    simp only [outboundFrame, encoded]
    rw [toUint32_length (encode_eq_ok encoded).2, if_neg (Nat.not_lt.mpr short)]

theorem exists_encode (kind : SendKind) (messageType : UInt16)
    (correlationID : UInt64) (supported : kind.flags flags &&& ~~~validFlags = 0)
    (short : encodedLength payload ≤ maxMessageSize) :
    ∃ frame, kind.encode messageType flags correlationID payload = .ok frame := by
  have small : ¬ payload.length > maxPayloadSize := by
    unfold encodedLength at short
    unfold maxPayloadSize
    omega
  have owned (message : Frame) (same : message.payload = payload)
      (valid : message.flags &&& ~~~validFlags = 0) :
      encodeFrameOwnedWithHeader message = some (encodeMessage message) := by
    refine if_neg ?_
    rw [same]
    push Not
    exact ⟨not_lt.mp small, valid⟩
  cases kind with
  | request =>
    refine ⟨encodeMessage ⟨messageType, flags, correlationID, payload⟩, ?_⟩
    simp only [SendKind.encode, owned ⟨_, flags, _, _⟩ rfl supported]
  | requestWithWriter =>
    refine ⟨encodeMessage ⟨messageType, flags, correlationID, payload⟩, ?_⟩
    have valid : ¬ flags &&& ~~~validFlags ≠ 0 := not_not.mpr supported
    simp only [SendKind.encode, encodeFrameWithHeaderAndPayloadWriter_append, if_neg valid,
      if_neg small]
  | fireAndForget | fireAndForgetWithWriter =>
    refine ⟨encodeMessage ⟨messageType, 0, correlationID, payload⟩, ?_⟩
    simp only [SendKind.encode, owned ⟨_, 0, _, _⟩ rfl supported]

/-! ## Sessions with a stored limit -/

/-- The limit has been stored where the connection and the transport read it,
and no further HELLO can change it. -/
structure Stores (session : Session) (limit : Nat) : Prop where
  message : session.maxMessageBytes = limit
  frame : session.frameSizeLimit = setMaxFrameSize limit
  established : session.protocolVersion ≠ 0

section Sessions

variable {configured : Int} {session : Session} {limit : Nat}

theorem Stores.dispatched (stores : Stores session limit) {data : Bytes} {after : Session}
    {response : Bool} (dispatched : Dispatched configured session data after response) :
    Stores after limit := by
  cases dispatched with
  | hello _ _ first => exact absurd first stores.established
  | goAway | phase | push => exact stores
  | final => exact ⟨stores.message, stores.frame, stores.established⟩

variable {data : Bytes}

theorem dispatch_of_receive {after : Session} {response : Bool}
    (received : receive configured session data = .ok (after, response)) :
    dispatchTransportFrame configured session data = .ok (after, response) := by
  unfold receive at received
  split at received
  · contradiction
  · split at received
    · contradiction
    · rename_i dispatched
      exact dispatched.trans (congrArg _ (Except.ok.inj received))

theorem Stores.afterTraffic : ∀ {session : Session} (traffic : List Traffic),
      Stores session limit → Stores (afterTraffic configured session traffic) limit
  | _, [], stores => stores
  | session, .inbound data :: rest, stores => by
      rw [Handshake.afterTraffic]
      cases received : receive configured session data with
      | error error => exact stores
      | ok result =>
        obtain ⟨after, response⟩ := result
        have dispatched := dispatched_of_ok (dispatch_of_receive received)
        exact Stores.afterTraffic rest (stores.dispatched dispatched)
  | session, .registered id :: rest, stores => by
      rw [Handshake.afterTraffic]
      exact Stores.afterTraffic rest ⟨stores.message, stores.frame, stores.established⟩
theorem Stores.frameSizeLimit (stores : Stores session limit) (positive : 0 < limit) :
    session.frameSizeLimit = limit :=
  stores.frame.trans (if_neg positive.ne')

variable {error : DispatchError}

theorem dispatchDecoded_not_isForSize
    {frame : Frame} {core : Bytes} {ids : List Nat}
    (failed : dispatchDecoded configured session frame core ids = .error error) :
    (InboundError.dispatch error).isForSize = false := by
  simp only [dispatchDecoded, Session.dispatchHello, checkHello,
    Session.dispatchRejection, Session.dispatchGoAway,
    Session.dispatchCorrelated] at failed
  split at failed
  · -- HELLO: the error is one of its checks
    split at failed
    · exact (Except.error.inj failed) ▸ rfl
    · split at failed
      · rename_i checked
        repeat' split at checked
        all_goals first
          | contradiction
          | exact (Except.error.inj failed) ▸ (Except.error.inj checked) ▸ rfl
      · contradiction
  · repeat' split at failed
    all_goals first
      | contradiction
      | exact (Except.error.inj failed) ▸ rfl

theorem decodeFrame_not_isForSize (short : data.length ≤ maxMessageSize)
    (failed : decodeFrame data = .error error) :
    (InboundError.dispatch error).isForSize = false := by
  unfold decodeFrame at failed
  split at failed
  · rename_i decodeError decoded
    obtain rfl := Except.error.inj failed
    simp only [decodeMessage, if_neg (not_lt.mpr short)] at decoded
    repeat' split at decoded
    all_goals first
      | contradiction
      | exact (Except.error.inj decoded) ▸ rfl
  · split at failed
    · exact (Except.error.inj failed) ▸ rfl
    · contradiction

theorem Stores.admitsShorter (stores : Stores session limit) (positive : 0 < limit)
    (bounded : limit ≤ maxMessageSize) (short : data.length ≤ limit) {error : InboundError}
    (failed : receive configured session data = .error error) : error.isForSize = false := by
  have withinFrame : ¬ session.frameSizeLimit < data.length := by
    rw [stores.frameSizeLimit positive]
    omega
  have withinMessage : ¬ (0 < session.maxMessageBytes ∧ session.maxMessageBytes < data.length) := by
    rw [stores.message]
    omega
  simp only [receive, if_neg withinFrame] at failed
  split at failed
  · rename_i dispatchError dispatched
    obtain rfl := Except.error.inj failed
    simp only [dispatchTransportFrame, if_neg withinMessage] at dispatched
    split at dispatched
    · rename_i decodeError decoded
      obtain rfl := Except.error.inj dispatched
      exact decodeFrame_not_isForSize (short.trans bounded) decoded
    · exact dispatchDecoded_not_isForSize dispatched
  · contradiction

theorem Stores.enforces (stores : Stores session limit) (positive : 0 < limit)
    (bounded : limit ≤ maxMessageSize) : Enforces configured session limit where
  rejectsLonger data long := by
    refine ⟨.frameTooLarge, if_pos ?_⟩
    rw [stores.frameSizeLimit positive]
    exact long
  admitsShorter data short error failed := stores.admitsShorter positive bounded short failed
  sendsShorter kind messageType flags correlationID payload frame sent := by
    unfold outboundFrame at sent
    split at sent
    · contradiction
    · rename_i encodedFrame encoded
      split at sent
      · contradiction
      · rename_i within
        obtain rfl := Except.ok.inj sent
        obtain ⟨length, short⟩ := encode_eq_ok encoded
        rw [toUint32_length short, stores.message] at within
        exact ⟨length, not_lt.mp within⟩
  sendsAll kind messageType flags correlationID payload supported short := by
    obtain ⟨frame, encoded⟩ :=
      exists_encode kind messageType correlationID supported (short.trans bounded)
    obtain ⟨length, within⟩ := encode_eq_ok encoded
    refine ⟨frame, ?_⟩
    simp only [outboundFrame, encoded]
    refine if_neg ?_
    rw [toUint32_length within, stores.message, length]
    exact not_lt.mpr short

/-- A stored limit below the wanted one refuses a frame that should pass: an
inbound one if it is positive, an outbound one if it is zero. -/
theorem Stores.not_enforces {stored : Nat} (stores : Stores session stored) (below : stored < limit)
    (header : headerLen ≤ limit) : ¬ Enforces configured session limit := by
  intro enforces
  by_cases zero : stored = 0
  · obtain ⟨frame, sent⟩ := enforces.sendsAll .fireAndForget 0 0 0 [] (by decide) header
    obtain ⟨length, _⟩ := enforces.sendsShorter _ _ _ _ _ _ sent
    unfold outboundFrame at sent
    split at sent
    · contradiction
    · rename_i encodedFrame encoded
      obtain ⟨encodedIs, within⟩ := encode_eq_ok encoded
      rw [toUint32_length within, stores.message, zero, encodedIs] at sent
      contradiction
  · have long : session.frameSizeLimit < (List.replicate limit (0 : UInt8)).length := by
      rw [stores.frameSizeLimit (Nat.pos_of_ne_zero zero), List.length_replicate]
      exact below
    have refused : receive configured session (List.replicate limit 0) = .error .frameTooLarge :=
      if_pos long
    have notForSize := enforces.admitsShorter _ (by rw [List.length_replicate]) _ refused
    contradiction

end Sessions

/-! ## The HELLO -/

theorem dispatch_of_wellFormedHello {configured : Int} {session after : Session} {data : Bytes}
    {response : Bool} {hello : Hello} (wellFormed : WellFormedHello data hello)
    (dispatched : dispatchTransportFrame configured session data = .ok (after, response)) :
    ∃ ids, after = session.acceptHello configured hello ids := by
  obtain ⟨frame, core, ids, decoded, opened, isHello, _, _, _, parsed⟩ := wellFormed.decodes
  have decodedFrame : decodeFrame data = .ok (frame, core, ids) :=
    decodeFrame_eq_ok_iff.mpr ⟨decoded, opened⟩
  unfold dispatchTransportFrame at dispatched
  split at dispatched
  · contradiction
  · simp only [decodedFrame, dispatchDecoded, if_pos isHello] at dispatched
    obtain ⟨other, checked, _, accepted, _⟩ := dispatchHello_eq_ok dispatched
    obtain ⟨_, sameHello, _⟩ := checkHello_eq_ok_iff.mp checked
    rw [← sameHello, parsed] at accepted
    exact ⟨ids, accepted⟩

theorem Stores.of_hello {configured : Int} {session negotiated : Session} {data : Bytes}
    {response : Bool} {hello : Hello} (wellFormed : WellFormedHello data hello)
    (received : receive configured session data = .ok (negotiated, response)) :
    Stores negotiated (localLimit configured hello.maxMessageBytes) := by
  obtain ⟨ids, rfl⟩ := dispatch_of_wellFormedHello wellFormed (dispatch_of_receive received)
  refine ⟨rfl, rfl, ?_⟩
  change hello.version ≠ 0
  rw [wellFormed.version]
  decide

/-- After a HELLO the session enforces the smallest of the three limits for as
long as it lasts, exactly when the configured limit survives its conversion. -/
theorem negotiated_limit_is_enforced_iff (configured : Int) {session negotiated : Session}
    {data : Bytes} {response : Bool} {hello : Hello} (wellFormed : WellFormedHello data hello)
    (received : receive configured session data = .ok (negotiated, response)) :
    (∀ traffic, Enforces configured (afterTraffic configured negotiated traffic)
        (effectiveLimit configured hello.maxMessageBytes)) ↔
      NarrowsHarmlessly configured hello.maxMessageBytes := by
  have stores := Stores.of_hello wellFormed received
  constructor
  · intro enforces
    by_contra harmful
    have large : 2 ^ 32 ≤ configured := by
      unfold NarrowsHarmlessly at harmful
      push Not at harmful
      exact harmful.1
    exact stores.not_enforces (localLimit_of_harmful harmful)
        (headerLen_le_effectiveLimit wellFormed.messageLimit large)
        (enforces [])
  · intro harmless traffic
    rw [localLimit_eq_effectiveLimit harmless] at stores
    exact (stores.afterTraffic traffic).enforces (effectiveLimit_pos wellFormed.messageLimit)
        (effectiveLimit_le configured hello.maxMessageBytes)

theorem sampleHello_wellFormed : WellFormedHello (sampleHello 64) ⟨3, 0, 64, 4, 9⟩ where
  decodes := by
    refine ⟨⟨2, 4, 0, (sampleHello 64).drop 15⟩, ((sampleHello 64).drop 19).take 22, [], ?_⟩
    decide +kernel
  version := rfl
  capabilities := rfl
  messageLimit := by decide
  inFlight := by decide

/-- A configured limit of 48 bytes below a server limit of 64. -/
theorem sampleHello_limit_is_enforced : ∃ negotiated,
      receive 48 (Session.new 256 transportMaxFrameSize) (sampleHello 64) = .ok (negotiated, true) ∧
        ∀ traffic, Enforces 48 (afterTraffic 48 negotiated traffic) 48 := by
  have received : receive 48 (Session.new 256 transportMaxFrameSize) (sampleHello 64) =
        .ok ((Session.new 256 transportMaxFrameSize).acceptHello 48 ⟨3, 0, 64, 4, 9⟩ [], true) := by
    decide +kernel
  exact ⟨_, received, (negotiated_limit_is_enforced_iff 48 sampleHello_wellFormed
        received).mpr (by decide)⟩

/-- With `MaxMessageBytes` at 2 ^ 32 the stored limit is zero: an inbound frame
of 75 bytes passes a limit of 64, and the shortest request is refused. -/
theorem configured_limit_is_lost_in_conversion : ∃ negotiated,
      receive (2 ^ 32) (Session.new 256 transportMaxFrameSize) (sampleHello 64) =
        .ok (negotiated, true) ∧
      effectiveLimit (2 ^ 32) 64 = 64 ∧
      (sampleNotify 60).length = 75 ∧
      receive (2 ^ 32) negotiated (sampleNotify 60) = .ok (negotiated, true) ∧
      encodedLength [] = 15 ∧
      outboundFrame negotiated .request 100 0 1 [] = .error (.exceedsNegotiatedLimit 0) := by
  refine ⟨(Session.new 256 transportMaxFrameSize).acceptHello (2 ^ 32) ⟨3, 0, 64, 4, 9⟩ [], ?_⟩
  decide +kernel

end FitzGo.Connection.Handshake
