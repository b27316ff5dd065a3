import FitzGo.Protocol.Extensions

/-!
# Dispatching one transport frame

HELLO negotiates the session, CONNECT_REJECTED and GOAWAY report, and every
other message goes to the multiplexer: a correlated one must be expected, an
uncorrelated one is handed to `Dispatch` whatever it is.
-/

namespace FitzGo.Connection.Handshake

open Protocol

/-! ## Readers of response.go -/

def readU16BE (payload : Bytes) (offset : Nat) : Option (Nat × Nat) :=
  if offset + 2 > payload.length then none
  else some (BigEndian.decode ((payload.drop offset).take 2), offset + 2)

def readU32BE (payload : Bytes) (offset : Nat) : Option (Nat × Nat) :=
  if offset + 4 > payload.length then none
  else some (BigEndian.decode ((payload.drop offset).take 4), offset + 4)

def readString (payload : Bytes) (offset : Nat) : Option (Bytes × Nat) :=
  match readU32BE payload offset with
  | none => none
  | some (length, offset) =>
    if offset + length > payload.length then none
    else some ((payload.drop offset).take length, offset + length)

/-! ## The session -/

def transportMaxFrameSize : Nat := 2 ^ 24

/-- `slots` is the capacity of both outbound semaphores; `correlated` holds the
ids in the multiplexer's map, abandoned ones included. -/
structure Session where
  maxMessageBytes : Nat
  maxInFlight : Nat
  sessionID : Nat
  slots : Nat
  protocolVersion : Nat
  capabilities : Nat
  activeCapabilityIDs : Nat
  nextCorrelationID : Nat
  correlated : List UInt64
  frameSizeLimit : Nat
  serverHello : Bool
  deriving DecidableEq

/-- A connection before its HELLO. The frame size limit of the transport is
the one set by `SetMaxFrameSize` when it was dialled. -/
def Session.new (maxInFlightRequests frameSizeLimit : Nat) : Session where
  maxMessageBytes := maxMessageSize
  maxInFlight := 0
  sessionID := 0
  slots := maxInFlightRequests
  protocolVersion := 0
  capabilities := 0
  activeCapabilityIDs := 0
  nextCorrelationID := 0
  correlated := []
  frameSizeLimit := frameSizeLimit
  serverHello := false

structure Hello where
  version : Nat
  capabilities : Nat
  maxMessageBytes : Nat
  maxInFlight : Nat
  sessionID : Nat
  deriving DecidableEq

inductive DispatchError
  | exceedsNegotiatedLimit
  | decode (error : DecodeError)
  | extensions (error : ExtensionError)
  | repeatedHello
  | malformedHello
  | unsupportedVersion (version : Nat)
  | legacyCapabilityBits
  | invalidLimits
  | rejectionWithCorrelation
  | truncatedRejection
  | malformedRejection
  | rejected (code : Nat) (message : Bytes)
  | goAwayWithCorrelation
  | truncatedGoAway
  | malformedGoAway
  | unexpectedCorrelation (id : UInt64)
  deriving DecidableEq

def toUint32 (value : Int) : Nat :=
  (value % 2 ^ 32).toNat

def localLimit (configured : Int) (serverLimit : Nat) : Nat :=
  let limit := min maxMessageSize serverLimit
  if 0 < configured ∧ toUint32 configured < limit then toUint32 configured
  else limit

def setMaxFrameSize (bytes : Nat) : Nat :=
  if bytes = 0 then transportMaxFrameSize else bytes

def parseHello (core : Bytes) : Hello where
  version := BigEndian.decode (core.take 2)
  capabilities := BigEndian.decode ((core.drop 2).take 4)
  maxMessageBytes := BigEndian.decode ((core.drop 6).take 4)
  maxInFlight := BigEndian.decode ((core.drop 10).take 4)
  sessionID := BigEndian.decode ((core.drop 14).take 8)

def checkHello (frame : Frame) (core : Bytes) : Except DispatchError Hello :=
  if frame.correlationID ≠ 0 ∨ frame.flags ≠ flagExtensionsPresent ∨ core.length ≠ 22 then
    .error .malformedHello
  else
    let hello := parseHello core
    if hello.version ≠ 3 then .error (.unsupportedVersion hello.version)
    else if hello.capabilities ≠ 0 then .error .legacyCapabilityBits
    else if hello.maxMessageBytes < headerLen ∨ hello.maxInFlight = 0 then .error .invalidLimits
    else .ok hello

namespace Session

def acceptHello (configured : Int) (session : Session) (hello : Hello)
    (capabilityIDs : List Nat) : Session :=
  let limit := localLimit configured hello.maxMessageBytes
  { session with
    maxMessageBytes := limit
    maxInFlight := hello.maxInFlight
    sessionID := hello.sessionID
    slots :=
      if hello.maxInFlight < session.slots then hello.maxInFlight
      else session.slots
    protocolVersion := hello.version
    capabilities := hello.capabilities
    activeCapabilityIDs := capabilityIDs.foldl (fun mask id => mask ||| 1 <<< id) 0
    nextCorrelationID := 0
    frameSizeLimit := setMaxFrameSize limit
    serverHello := true }

def dispatchHello (configured : Int) (session : Session) (frame : Frame) (core : Bytes)
    (capabilityIDs : List Nat) : Except DispatchError (Session × Bool) :=
  if session.protocolVersion ≠ 0 then .error .repeatedHello
  else
    match checkHello frame core with
    | .error error => .error error
    | .ok hello => .ok (session.acceptHello configured hello capabilityIDs, true)

/-- CONNECT_REJECTED ends the loop with the rejection, or with an error about
its own form. -/
def dispatchRejection (frame : Frame) (core : Bytes) : DispatchError :=
  if frame.correlationID ≠ 0 then .rejectionWithCorrelation
  else
    match readU16BE core 0 with
    | none => .truncatedRejection
    | some (code, offset) =>
      match readString core offset with
      | none => .malformedRejection
      | some (message, finish) =>
        if finish ≠ core.length then .malformedRejection
        else .rejected code message

def dispatchGoAway (session : Session) (frame : Frame) (core : Bytes) :
    Except DispatchError (Session × Bool) :=
  if frame.correlationID ≠ 0 then .error .goAwayWithCorrelation
  else
    match readU16BE core 0 with
    | none => .error .truncatedGoAway
    | some (_, offset) =>
      match readU32BE core offset with
      | none => .error .truncatedGoAway
      | some (_, offset) =>
        match readString core offset with
        | none => .error .malformedGoAway
        | some (_, finish) =>
          if finish ≠ core.length then .error .malformedGoAway
          else .ok (session, false)

/-- `DispatchCorrelated`: a final frame takes its id out of the map. -/
def dispatchCorrelated (session : Session) (id : UInt64) (final : Bool) :
    Except DispatchError (Session × Bool) :=
  if id ∈ session.correlated then
    if final then .ok ({ session with correlated := session.correlated.erase id }, true)
    else .ok (session, true)
  else .error (.unexpectedCorrelation id)

end Session

/-- A message with its envelope opened: the payload is the core. -/
def decodeFrame (data : Bytes) : Except DispatchError (Frame × Bytes × List Nat) :=
  match decodeMessage data with
  | .error error => .error (.decode error)
  | .ok frame =>
    match decodeExtensions frame with
    | .error error => .error (.extensions error)
    | .ok (core, capabilityIDs) => .ok (frame, core, capabilityIDs)

/-- `Multiplexer.Dispatch` delivers to handlers and to the legacy request
queues; it touches nothing of the session. -/
def dispatchDecoded (configured : Int) (session : Session) (frame : Frame) (core : Bytes)
    (capabilityIDs : List Nat) : Except DispatchError (Session × Bool) :=
  if frame.messageType = messageTypeHello then
    session.dispatchHello configured frame core capabilityIDs
  else if frame.messageType = messageTypeConnectRejected then
    .error (Session.dispatchRejection frame core)
  else if frame.messageType = messageTypeGoAway then session.dispatchGoAway frame core
  else if frame.correlationID ≠ 0 then
    session.dispatchCorrelated frame.correlationID (decide (frame.flags &&& flagResponseFinal ≠ 0))
  else .ok (session, true)

def dispatchTransportFrame (configured : Int) (session : Session) (data : Bytes) :
    Except DispatchError (Session × Bool) :=
  if 0 < session.maxMessageBytes ∧ session.maxMessageBytes < data.length then
    .error .exceedsNegotiatedLimit
  else
    match decodeFrame data with
    | .error error => .error error
    | .ok (frame, core, capabilityIDs) =>
      dispatchDecoded configured session frame core capabilityIDs

structure WellFormedHello (data : Bytes) (hello : Hello) : Prop where
  decodes : ∃ frame core capabilityIDs, decodeMessage data = .ok frame ∧
    decodeExtensions frame = .ok (core, capabilityIDs) ∧
    frame.messageType = messageTypeHello ∧ frame.correlationID = 0 ∧
    frame.flags = flagExtensionsPresent ∧ core.length = 22 ∧ parseHello core = hello
  version : hello.version = 3
  capabilities : hello.capabilities = 0
  messageLimit : headerLen ≤ hello.maxMessageBytes
  inFlight : hello.maxInFlight ≠ 0

/-! ## What the dispatch functions establish -/

variable {core : Bytes}

theorem decodeFrame_eq_ok_iff {data : Bytes} {frame : Frame} {ids : List Nat} :
    decodeFrame data = .ok (frame, core, ids) ↔ decodeMessage data = .ok frame ∧
      decodeExtensions frame = .ok (core, ids) := by
  unfold decodeFrame
  constructor
  · intro decoded
    cases message : decodeMessage data with
    | error error =>
      rw [message] at decoded
      contradiction
    | ok decodedFrame =>
      rw [message] at decoded
      cases envelope : decodeExtensions decodedFrame with
      | error error =>
        simp only [envelope] at decoded
        contradiction
      | ok parts =>
        simp only [envelope, Except.ok.injEq, Prod.mk.injEq] at decoded
        obtain ⟨rfl, sameCore, sameIDs⟩ := decoded
        exact ⟨rfl, by rw [envelope, ← sameCore, ← sameIDs]⟩
  · rintro ⟨message, envelope⟩
    simp only [message, envelope]

theorem checkHello_eq_ok_iff {frame : Frame} {hello : Hello} : checkHello frame core = .ok hello ↔
      (frame.correlationID = 0 ∧ frame.flags = flagExtensionsPresent ∧ core.length = 22) ∧
      parseHello core = hello ∧ hello.version = 3 ∧
      hello.capabilities = 0 ∧ headerLen ≤ hello.maxMessageBytes ∧ hello.maxInFlight ≠ 0 := by
  simp only [checkHello]
  constructor
  · intro checked
    split at checked
    · contradiction
    · rename_i shape
      split at checked
      · contradiction
      · rename_i version
        split at checked
        · contradiction
        · rename_i capabilities
          split at checked
          · contradiction
          · rename_i limits
            obtain rfl := Except.ok.inj checked
            push Not at shape version capabilities limits
            exact ⟨shape, rfl, version, capabilities, limits⟩
  · rintro ⟨shape, rfl, version, capabilities, limits⟩
    rw [if_neg (by push Not; exact shape), if_neg (not_not.mpr version),
      if_neg (not_not.mpr capabilities), if_neg (by push Not; exact limits)]

/-- An uncorrelated message that is not one of the connection's own: a
notification, a push, a legacy response or an unknown type. -/
def isPush (data : Bytes) : Bool :=
  match decodeFrame data with
  | .error _ => false
  | .ok (frame, _, _) =>
    decide (frame.messageType ≠ messageTypeHello ∧
        frame.messageType ≠ messageTypeConnectRejected ∧
        frame.messageType ≠ messageTypeGoAway ∧
        frame.correlationID = 0)

/-- What a frame has been when its dispatch succeeds, with the session after it
and whether it counts as a response. -/
inductive Dispatched (configured : Int) (session : Session) (data : Bytes) : Session → Bool → Prop
  | hello {hello : Hello} (capabilityIDs : List Nat) (wellFormed : WellFormedHello data hello)
      (first : session.protocolVersion = 0) :
      Dispatched configured session data (session.acceptHello configured hello capabilityIDs) true
  | goAway : Dispatched configured session data session false
  | phase {id : UInt64} (expected : id ∈ session.correlated) :
      Dispatched configured session data session true
  | final {id : UInt64} (expected : id ∈ session.correlated) : Dispatched configured session data
        { session with correlated := session.correlated.erase id } true
  | push (isPush : isPush data = true) : Dispatched configured session data session true

section Dispatch

variable {configured : Int} {session after : Session} {data : Bytes} {response : Bool}
  {frame : Frame} {ids : List Nat}

theorem dispatchHello_eq_ok
    (dispatched : session.dispatchHello configured frame core ids = .ok (after, response)) :
    ∃ hello, checkHello frame core = .ok hello ∧ session.protocolVersion = 0 ∧
      after = session.acceptHello configured hello ids ∧ response = true := by
  unfold Session.dispatchHello at dispatched
  split at dispatched
  · contradiction
  · rename_i first
    split at dispatched
    · contradiction
    · rename_i hello checked
      obtain ⟨rfl, rfl⟩ := Prod.mk.inj (Except.ok.inj dispatched)
      exact ⟨hello, checked, not_not.mp first, rfl, rfl⟩

private theorem dispatched_of_hello (decoded : decodeFrame data = .ok (frame, core, ids))
    (isHello : frame.messageType = messageTypeHello)
    (dispatched : session.dispatchHello configured frame core ids = .ok (after, response)) :
    Dispatched configured session data after response := by
  obtain ⟨hello, checked, first, rfl, rfl⟩ := dispatchHello_eq_ok dispatched
  obtain ⟨message, envelope⟩ := decodeFrame_eq_ok_iff.mp decoded
  obtain ⟨⟨correlation, flags, length⟩, parsed, version, capabilities,
    messageLimit, inFlight⟩ := checkHello_eq_ok_iff.mp checked
  exact .hello ids
    { decodes := ⟨frame, core, ids, message, envelope, isHello, correlation, flags, length, parsed⟩
      version, capabilities, messageLimit, inFlight }
    first

private theorem dispatched_of_goAway
    (dispatched : session.dispatchGoAway frame core = .ok (after, response)) :
    Dispatched configured session data after response := by
  unfold Session.dispatchGoAway at dispatched
  repeat' split at dispatched
  all_goals first
    | contradiction
    | obtain ⟨rfl, rfl⟩ := Prod.mk.inj (Except.ok.inj dispatched)
      exact .goAway

private theorem dispatched_of_correlated {id : UInt64} {final : Bool}
    (dispatched : session.dispatchCorrelated id final = .ok (after, response)) :
    Dispatched configured session data after response := by
  unfold Session.dispatchCorrelated at dispatched
  split at dispatched
  · rename_i expected
    split at dispatched
    · obtain ⟨rfl, rfl⟩ := Prod.mk.inj (Except.ok.inj dispatched)
      exact .final expected
    · obtain ⟨rfl, rfl⟩ := Prod.mk.inj (Except.ok.inj dispatched)
      exact .phase expected
  · contradiction

private theorem dispatched_of_decoded (decoded : decodeFrame data = .ok (frame, core, ids))
    (dispatched : dispatchDecoded configured session frame core ids =
      .ok (after, response)) : Dispatched configured session data after response := by
  unfold dispatchDecoded at dispatched
  split at dispatched
  · rename_i isHello
    exact dispatched_of_hello decoded isHello dispatched
  · rename_i notHello
    split at dispatched
    · contradiction
    · rename_i notRejection
      split at dispatched
      · exact dispatched_of_goAway dispatched
      · rename_i notGoAway
        split at dispatched
        · exact dispatched_of_correlated dispatched
        · rename_i uncorrelated
          obtain ⟨rfl, rfl⟩ := Prod.mk.inj (Except.ok.inj dispatched)
          refine .push ?_
          simp only [isPush, decoded]
          exact decide_eq_true ⟨notHello, notRejection, notGoAway, not_not.mp uncorrelated⟩

theorem dispatched_of_ok
    (dispatched : dispatchTransportFrame configured session data = .ok (after, response)) :
    Dispatched configured session data after response := by
  unfold dispatchTransportFrame at dispatched
  split at dispatched
  · contradiction
  · split at dispatched
    · contradiction
    · rename_i frame core ids decoded
      exact dispatched_of_decoded decoded dispatched

end Dispatch

def sampleHello (messageLimit : Nat) : Bytes :=
  [0, 2, 4, 0, 0, 0, 0, 0, 0, 0, 0, 0, 0, 0, 34, 0, 0, 0, 22,
    0, 3, 0, 0, 0, 0] ++ BigEndian.encode 4 messageLimit ++
    [0, 0, 0, 4, 0, 0, 0, 0, 0, 0, 0, 9, 0, 1, 0, 0, 0, 2, 0, 0]

def sampleNotify (size : UInt8) : Bytes :=
  [1, 0xF8, 0, 0, 0, 0, 0, 0, 0, 0, 0, 0, 0, 0, size] ++ List.replicate size.toNat 0

end FitzGo.Connection.Handshake
