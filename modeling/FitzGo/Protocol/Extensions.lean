import FitzGo.Protocol.Frame

/-!
# The extension envelope

With the extension flag a payload is a core with its length, followed by at
least one field of an id, a length and a value. Only HELLO has a registered
field, the list of capabilities; it must be there exactly once.
-/

namespace FitzGo.Protocol

def capabilityQueueMessageTTL : Nat := 1

def capabilityQueueNack : Nat := 2

inductive ExtensionError
  | helloWithoutExtensions
  | truncatedCoreLength
  | coreExceedsBounds
  | truncatedHeader
  | invalidField
  | duplicateCapabilities
  | capabilityLengthMismatch
  | capabilitiesNotAscending
  | missingCapabilities
  deriving DecidableEq

structure Extension where
  id : UInt16
  value : Bytes

inductive EncodeExtensionsError
  | notAscending
  | exceedsMessageLimit

/-- The loop that checks the ids and adds up the size. -/
def sizeOfFields : (previous : UInt16) → (size : Nat) → List Extension → Option Nat
  | _, size, [] => some size
  | previous, size, field :: rest =>
    if field.id ≤ previous then none
    else sizeOfFields field.id (size + (6 + field.value.length)) rest

def encodeExtensions (core : Bytes) (fields : List Extension) :
    Except EncodeExtensionsError Bytes :=
  if fields.length = 0 then .ok core
  else
    match sizeOfFields 0 (4 + core.length) fields with
    | none => .error .notAscending
    | some size =>
      if size > maxPayloadSize then .error .exceedsMessageLimit
      else
        .ok (BigEndian.encode 4 core.length ++ core ++ fields.flatMap fun field =>
          BigEndian.encode 2 field.id.toNat ++ BigEndian.encode 4 field.value.length ++ field.value)

/-- The known ones among `count` capability numbers, which must ascend. -/
def decodeCapabilities : (count : Nat) → Bytes → (previous : Nat) → Except ExtensionError (List Nat)
  | 0, _, _ => .ok []
  | count + 1, values, previous =>
    let value := BigEndian.decode (values.take 4)
    if value ≤ previous then .error .capabilitiesNotAscending
    else
      match decodeCapabilities count (values.drop 4) value with
      | .error error => .error error
      | .ok rest =>
        if value = capabilityQueueMessageTTL ∨ value = capabilityQueueNack then .ok (value :: rest)
        else .ok rest

/-- The loop over the fields. `seen` holds the capabilities once their field
has been met. Every field takes six bytes or more, so the length of the
payload bounds the number of iterations. -/
def decodeFields (handshake : Bool) : (fuel : Nat) → (rest : Bytes) → (seen : Option (List Nat)) →
      Except ExtensionError (Option (List Nat))
  | 0, _, seen => .ok seen
  | fuel + 1, rest, seen =>
    if rest.length = 0 then .ok seen
    else if rest.length < 6 then .error .truncatedHeader
    else
      let id := BigEndian.decode (rest.take 2)
      let size := BigEndian.decode ((rest.drop 2).take 4)
      let value := rest.drop 6
      if id = 0 ∨ size > value.length then .error .invalidField
      else if handshake = true ∧ id = 1 then
        if seen.isSome ∨ size < 2 then .error .duplicateCapabilities
        else
          let count := BigEndian.decode (value.take 2)
          if size ≠ 2 + 4 * count then .error .capabilityLengthMismatch
          else
            match decodeCapabilities count (value.drop 2) 0 with
            | .error error => .error error
            | .ok known => decodeFields handshake fuel (value.drop size) (some known)
      else decodeFields handshake fuel (value.drop size) seen

/-- The core of the payload, and the capabilities of a HELLO. -/
def decodeExtensions (frame : Frame) : Except ExtensionError (Bytes × List Nat) :=
  let handshake := decide (frame.messageType = messageTypeHello)
  if frame.flags &&& flagExtensionsPresent = 0 then
    if handshake then .error .helloWithoutExtensions
    else .ok (frame.payload, [])
  else
    let payload := frame.payload
    if payload.length < 4 then .error .truncatedCoreLength
    else
      let coreEnd := 4 + BigEndian.decode (payload.take 4)
      if coreEnd ≥ payload.length then .error .coreExceedsBounds
      else
        match
          decodeFields handshake payload.length (payload.drop coreEnd) none
        with
        | .error error => .error error
        | .ok none =>
          if handshake then .error .missingCapabilities
          else .ok ((payload.take coreEnd).drop 4, [])
        | .ok (some known) => .ok ((payload.take coreEnd).drop 4, known)

/-- More fuel than there are bytes changes nothing: the loop ends at the end of
the payload, not because the fuel has run out. -/
theorem decodeFields_of_le (handshake : Bool) :
    ∀ (fuel extra : Nat) (rest : Bytes) (seen : Option (List Nat)), rest.length ≤ fuel →
        decodeFields handshake (fuel + extra) rest seen = decodeFields handshake fuel rest seen
  | 0, extra, rest, seen, short => by
      have empty : rest.length = 0 := Nat.le_zero.mp short
      cases extra with
      | zero => rfl
      | succ extra =>
        rw [Nat.zero_add]
        simp only [decodeFields, if_pos empty]
  | fuel + 1, extra, rest, seen, short => by
      have shorter (size : Nat) (notEmpty : ¬ rest.length = 0) :
          ((rest.drop 6).drop size).length ≤ fuel := by
        simp only [List.length_drop]
        omega
      rw [Nat.add_right_comm]
      simp only [decodeFields]
      by_cases empty : rest.length = 0
      · rw [if_pos empty, if_pos empty]
      · simp only [if_neg empty, decodeFields_of_le handshake fuel extra _ _ (shorter _ empty)]

end FitzGo.Protocol
