import FitzGo.Library.BigEndian
import FitzGo.Library.BufferedReader

/-!
# Wire-3 messages

A message is a header of fifteen bytes (type, flags, correlation id, payload
length) and the payload. The encoders refuse payloads above `maxPayloadSize`;
`decodeMessage` accepts exactly one complete message.
-/

namespace FitzGo.Protocol

def headerLen : Nat := 15

def maxMessageSize : Nat := 2 ^ 20

def maxPayloadSize : Nat := maxMessageSize - headerLen

def flagAckRequested : UInt8 := 1

def flagResponseFinal : UInt8 := 2

def flagExtensionsPresent : UInt8 := 4

def validFlags : UInt8 :=
  flagAckRequested ||| flagResponseFinal ||| flagExtensionsPresent

def messageTypeHello : UInt16 := 2

def messageTypeConnectRejected : UInt16 := 3

def messageTypeGoAway : UInt16 := 4

def messageTypeRpcSubscribeWorker : UInt16 := 300

def messageTypeRpcResponse : UInt16 := 303

def messageTypeRpcCancellation : UInt16 := 304

def messageTypeRpcLifecycle : UInt16 := 305

structure Frame where
  messageType : UInt16
  flags : UInt8
  correlationID : UInt64
  payload : Bytes
  deriving DecidableEq

def encodedLength (payload : Bytes) : Nat :=
  headerLen + payload.length

/-! ## Encoders -/

def encodeMessage (frame : Frame) : Bytes :=
  BigEndian.encode 2 frame.messageType.toNat ++ frame.flags ::
    (BigEndian.encode 8 frame.correlationID.toNat ++
      (BigEndian.encode 4 frame.payload.length ++ frame.payload))

theorem length_encodeMessage (frame : Frame) :
    (encodeMessage frame).length = encodedLength frame.payload := by
  simp only [encodeMessage, encodedLength, headerLen, List.length_append,
    List.length_cons, BigEndian.length_encode]
  omega

/-- `none` is the nil buffer of the source. -/
def encodeFrameOwnedWithHeader (frame : Frame) : Option Bytes :=
  if frame.payload.length > maxPayloadSize ∨ frame.flags &&& ~~~validFlags ≠ 0 then none
  else some (encodeMessage frame)

inductive EncodeError
  | nilWriter
  | unsupportedFlags (flags : UInt8)
  | messageTooLarge (size : Nat)
  deriving DecidableEq

/-- The writer works on the buffer that has the type, the flags and twelve
zeros, which are then overwritten. A nil writer is `none`. -/
def encodeFrameWithHeaderAndPayloadWriter (messageType : UInt16) (flags : UInt8)
    (correlationID : UInt64) (writePayload : Option (Bytes → Bytes)) : Except EncodeError Bytes :=
  match writePayload with
  | none => .error .nilWriter
  | some write =>
    if flags &&& ~~~validFlags ≠ 0 then .error (.unsupportedFlags flags)
    else
      let header := BigEndian.encode 2 messageType.toNat ++ flags :: List.replicate 12 0
      let result := write header
      let payloadLen := result.length - header.length
      if payloadLen > maxPayloadSize then .error (.messageTooLarge (payloadLen + headerLen))
      else
        .ok (result.take 3 ++ (BigEndian.encode 8 correlationID.toNat ++
          (BigEndian.encode 4 payloadLen ++ result.drop headerLen)))

theorem encodeFrameWithHeaderAndPayloadWriter_append (messageType : UInt16) (flags : UInt8)
    (correlationID : UInt64) (payload : Bytes) :
    encodeFrameWithHeaderAndPayloadWriter messageType flags correlationID
        (some (· ++ payload)) =
      if flags &&& ~~~validFlags ≠ 0 then .error (.unsupportedFlags flags)
      else if payload.length > maxPayloadSize then
        .error (.messageTooLarge (payload.length + headerLen))
      else .ok (encodeMessage ⟨messageType, flags, correlationID, payload⟩) := by
  dsimp only [encodeFrameWithHeaderAndPayloadWriter]
  rw [List.length_append, Nat.add_sub_cancel_left]
  rfl

/-! ## The decoder -/

inductive DecodeError
  | exceedsMaximumSize
  | truncatedHeader (got : Nat)
  | unsupportedFlags (flags : UInt8)
  | lengthMismatch (length size : Nat)
  deriving DecidableEq

def decodeMessage (data : Bytes) : Except DecodeError Frame :=
  if data.length > maxMessageSize then .error .exceedsMaximumSize
  else if data.length < headerLen then .error (.truncatedHeader data.length)
  else
    let flags := data.getD 2 0
    if flags &&& ~~~validFlags ≠ 0 then .error (.unsupportedFlags flags)
    else
      let length := BigEndian.decode ((data.drop 11).take 4)
      if length + headerLen ≠ data.length then
        .error (.lengthMismatch length (data.length - headerLen))
      else
        .ok
          { messageType := UInt16.ofNat (BigEndian.decode (data.take 2))
            flags := flags
            correlationID := UInt64.ofNat (BigEndian.decode ((data.drop 3).take 8))
            payload := data.drop headerLen }

theorem decodeMessage_encodeMessage {frame : Frame} (valid : frame.flags &&& ~~~validFlags = 0)
    (fits : frame.payload.length ≤ maxPayloadSize) :
    decodeMessage (encodeMessage frame) = .ok frame := by
  have length := length_encodeMessage frame
  simp only [encodedLength, maxPayloadSize] at length fits
  have typeFits : frame.messageType.toNat < 256 ^ 2 := UInt16.toNat_lt _
  have messageType : BigEndian.decode ((encodeMessage frame).take 2) = frame.messageType.toNat :=
    BigEndian.decode_encode_of_lt typeFits
  have idFits : frame.correlationID.toNat < 256 ^ 8 := UInt64.toNat_lt _
  have id : BigEndian.decode (((encodeMessage frame).drop 3).take 8) = frame.correlationID.toNat :=
    BigEndian.decode_encode_of_lt idFits
  have sizeFits : frame.payload.length < 256 ^ 4 := by
    simp only [maxMessageSize] at fits
    omega
  have size : BigEndian.decode (((encodeMessage frame).drop 11).take 4) = frame.payload.length :=
    BigEndian.decode_encode_of_lt sizeFits
  have flags : (encodeMessage frame).getD 2 0 = frame.flags := rfl
  have payload : (encodeMessage frame).drop headerLen = frame.payload := rfl
  simp only [decodeMessage, messageType, id, size, flags, payload, valid]
  have header : headerLen ≤ maxMessageSize := by decide
  rw [if_neg (by omega), if_neg (by omega), if_neg (by simp), if_neg (by omega)]
  simp

private theorem encode_of_decodeMessage {data : Bytes} {frame : Frame}
    (decoded : decodeMessage data = .ok frame) :
    encodeFrameOwnedWithHeader frame = some data := by
  simp only [decodeMessage] at decoded
  split_ifs at decoded with large short invalid mismatch
  cases decoded
  simp only [headerLen] at short mismatch ⊢
  have fits : ¬ (data.drop 15).length > maxPayloadSize := by
    rw [List.length_drop, maxPayloadSize, headerLen]
    omega
  have size : (data.drop 15).length = BigEndian.decode ((data.drop 11).take 4) := by
    rw [List.length_drop]
    omega
  have payload : data.drop 15 = (data.drop 11).drop 4 := by rw [List.drop_drop]
  have rest : data.drop 11 = (data.drop 3).drop 8 := by rw [List.drop_drop]
  have flags : data.getD 2 0 :: data.drop 3 = data.drop 2 := by
    rw [List.drop_eq_getElem_cons (i := 2) (by omega), List.getD_eq_getElem?_getD,
      List.getElem?_eq_getElem, Option.getD_some]
  rw [encodeFrameOwnedWithHeader, if_neg (not_or.mpr ⟨fits, invalid⟩), encodeMessage]
  dsimp only
  rw [UInt16.toNat_ofNat_of_lt' (BigEndian.decode_take_lt 2 data),
    UInt64.toNat_ofNat_of_lt' (BigEndian.decode_take_lt 8 _), size, payload,
    BigEndian.encode_decode_take (by rw [List.length_drop]; omega), rest,
    BigEndian.encode_decode_take (by rw [List.length_drop]; omega), flags,
    BigEndian.encode_decode_take (by omega)]

/-- `decodeMessage` accepts exactly what the encoder writes. -/
theorem decodeMessage_eq_ok_iff {data : Bytes} {frame : Frame} :
    decodeMessage data = .ok frame ↔ encodeFrameOwnedWithHeader frame = some data := by
  refine ⟨encode_of_decodeMessage, fun encoded => ?_⟩
  simp only [encodeFrameOwnedWithHeader] at encoded
  split_ifs at encoded with refused
  obtain ⟨fits, valid⟩ := not_or.mp refused
  cases encoded
  exact decodeMessage_encodeMessage (not_not.mp valid) (Nat.not_lt.mp fits)

end FitzGo.Protocol
