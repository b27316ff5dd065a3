import FitzGo.Protocol.Extensions

/-!
# The TTL enqueue writer

`enqueueWriterWithTTL` writes the extension envelope into a buffer that others
have written to: four zeros, which it overwrites with the length of the core
once that is written, the core and the one field.
-/

namespace FitzGo.Domains.Enqueue

open FitzGo.Protocol

def enqueuePayloadWriter (route body : Bytes) (delaySeconds : UInt64) (buf : Bytes) : Bytes :=
  let hasDelay : UInt8 := if delaySeconds > 0 then 1 else 0
  let buf := buf ++ BigEndian.encode 4 route.length ++ route
  let buf := buf ++ BigEndian.encode 4 body.length ++ body
  let buf := buf ++ [hasDelay]
  if hasDelay = 1 then buf ++ BigEndian.encode 8 delaySeconds.toNat else buf

def putUint32 (buf : Bytes) (start value : Nat) : Bytes :=
  buf.take start ++ BigEndian.encode 4 value ++ buf.drop (start + 4)

def enqueueWriterWithTTL (route body : Bytes) (delaySeconds : UInt64) (ttlHours : UInt32)
    (buf : Bytes) : Bytes :=
  let start := buf.length
  let buf := enqueuePayloadWriter route body delaySeconds (buf ++ [0, 0, 0, 0])
  let buf := putUint32 buf start (buf.length - start - 4)
  buf ++ [0, 1, 0, 0, 0, 4] ++ BigEndian.encode 4 ttlHours.toNat

def ttlField (ttlHours : UInt32) : Bytes :=
  [0, 1, 0, 0, 0, 4] ++ BigEndian.encode 4 ttlHours.toNat

/-- The core with its length, and the TTL as the one extension. -/
def ttlEnvelope (core : Bytes) (ttlHours : UInt32) : Bytes :=
  BigEndian.encode 4 core.length ++ core ++ ttlField ttlHours

variable {route body core encoded : Bytes} {delaySeconds : UInt64} {ttlHours : UInt32}

private theorem enqueuePayloadWriter_eq_append (buf : Bytes) :
    enqueuePayloadWriter route body delaySeconds buf =
      buf ++ enqueuePayloadWriter route body delaySeconds [] := by
  unfold enqueuePayloadWriter
  by_cases delayed : delaySeconds > 0 <;> simp [delayed]

private theorem enqueueWriterWithTTL_eq_append (buf : Bytes) :
    enqueueWriterWithTTL route body delaySeconds ttlHours buf =
      buf ++ ttlEnvelope (enqueuePayloadWriter route body delaySeconds []) ttlHours := by
  simp only [enqueueWriterWithTTL, putUint32, ttlEnvelope, ttlField]
  rw [enqueuePayloadWriter_eq_append]
  simp

private theorem encodeExtensions_ttl
    (succeeds : encodeExtensions core [⟨1, BigEndian.encode 4 ttlHours.toNat⟩] = .ok encoded) :
    core.length + 14 ≤ maxPayloadSize ∧ encoded = ttlEnvelope core ttlHours := by
  simp only [encodeExtensions, sizeOfFields, BigEndian.length_encode] at succeeds
  rw [if_neg (by simp)] at succeeds
  split at succeeds
  · cases succeeds
  · rename_i size sum
    rw [if_neg (by decide)] at sum
    cases sum
    split at succeeds
    · cases succeeds
    · cases succeeds
      refine ⟨by omega, ?_⟩
      have header : [0, 1, 0, 0, 0, 4] = BigEndian.encode 2 1 ++ BigEndian.encode 4 4 := by decide
      rw [List.flatMap_singleton, BigEndian.length_encode, ttlEnvelope, ttlField, header]
      rfl

theorem decodeExtensions_ttl (frame : Frame) (notHello : frame.messageType ≠ messageTypeHello)
    (extended : frame.flags &&& flagExtensionsPresent ≠ 0) (fits : core.length < 256 ^ 4)
    (payload : frame.payload = ttlEnvelope core ttlHours) :
    frame.payload.drop (4 + core.length) = ttlField ttlHours ∧
      decodeExtensions frame = .ok (core, []) := by
  have header : (BigEndian.encode 4 core.length ++ core).length = 4 + core.length := by
    rw [List.length_append, BigEndian.length_encode]
  have coreLength : BigEndian.decode (frame.payload.take 4) = core.length := by
    rw [payload, ttlEnvelope, List.append_assoc, List.take_left' (BigEndian.length_encode 4 _),
      BigEndian.decode_encode_of_lt fits]
  have taken : (frame.payload.take (4 + core.length)).drop 4 = core := by
    rw [payload, ttlEnvelope, List.take_left' header, List.drop_left' (BigEndian.length_encode 4 _)]
  have field : frame.payload.drop (4 + core.length) = ttlField ttlHours := by
    rw [payload, ttlEnvelope, List.drop_left' header]
  have length : frame.payload.length = 4 + core.length + 10 := by
    rw [payload, ttlEnvelope, List.length_append, header]
    rfl
  refine ⟨field, ?_⟩
  simp only [decodeExtensions, if_neg extended, coreLength, field, taken, decide_eq_false notHello]
  rw [if_neg (by omega), if_neg (by omega), length]
  simp [decodeFields, ttlField, BigEndian.decode]

/-- The writer appends what the codec encodes, and the decoder finds core and TTL. -/
theorem ttl_writer_agrees_with_the_codec
    (succeeds : encodeExtensions (enqueuePayloadWriter route body delaySeconds [])
      [⟨1, BigEndian.encode 4 ttlHours.toNat⟩] = .ok encoded) :
    (∀ buf, enqueueWriterWithTTL route body delaySeconds ttlHours buf = buf ++ encoded) ∧
      ∀ messageType flags correlationID, messageType ≠ messageTypeHello →
        flags &&& ~~~validFlags = 0 → flags &&& flagExtensionsPresent ≠ 0 →
        ∃ data frame ttl, encodeFrameWithHeaderAndPayloadWriter messageType flags correlationID
            (some (enqueueWriterWithTTL route body delaySeconds ttlHours)) = .ok data ∧
          decodeMessage data = .ok frame ∧
          decodeExtensions frame = .ok (enqueuePayloadWriter route body delaySeconds [], []) ∧
          frame.payload.drop (4 + (enqueuePayloadWriter route body delaySeconds []).length) =
            [0, 1, 0, 0, 0, 4] ++ ttl ∧ BigEndian.decode ttl = ttlHours.toNat := by
  obtain ⟨fits, rfl⟩ := encodeExtensions_ttl succeeds
  refine ⟨enqueueWriterWithTTL_eq_append, ?_⟩
  intro messageType flags correlationID notHello valid extended
  have appends : enqueueWriterWithTTL route body delaySeconds ttlHours = (· ++ ttlEnvelope
      (enqueuePayloadWriter route body delaySeconds []) ttlHours) :=
    funext enqueueWriterWithTTL_eq_append
  rw [appends]
  generalize enqueuePayloadWriter route body delaySeconds [] = core at fits ⊢
  let frame : Frame := ⟨messageType, flags, correlationID, ttlEnvelope core ttlHours⟩
  have short : frame.payload.length ≤ maxPayloadSize := by
    simpa [frame, ttlEnvelope, ttlField, Nat.add_comm, Nat.add_left_comm] using fits
  have small : core.length < 256 ^ 4 := by
    simp only [maxPayloadSize, maxMessageSize] at fits
    omega
  obtain ⟨field, decoded⟩ := decodeExtensions_ttl frame notHello extended small rfl
  refine ⟨encodeMessage frame, frame, _, ?_, decodeMessage_encodeMessage valid short, decoded,
    field, BigEndian.decode_encode_of_lt ttlHours.toNat_lt⟩
  rw [encodeFrameWithHeaderAndPayloadWriter_append]
  rw [if_neg (not_not_intro valid), if_neg (Nat.not_lt.mpr short)]

theorem ttl_writer_keeps_the_buffer :
    enqueueWriterWithTTL [113] [] 0 5 [9] =
      [9, 0, 0, 0, 10, 0, 0, 0, 1, 113, 0, 0, 0, 0, 0, 0, 1, 0, 0, 0, 4, 0, 0, 0, 5] :=
  (ttl_writer_agrees_with_the_codec rfl).1 [9]

end FitzGo.Domains.Enqueue
