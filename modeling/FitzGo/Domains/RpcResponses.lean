import FitzGo.Connection.StandardResponse

/-!
# The responses of an RPC call

A RESPONSE frame carries a sequence number, a flag that ends the stream and a
body. The caller's frames wait in a stream until `Next` takes them; the end of
the stream, with or without an error, is seen once they are all taken.
-/

namespace FitzGo.Domains.RpcCalls

open Connection (ResponseError parseStandardResponse)

structure ResponseFrame where
  body : Bytes
  sequence : Nat
  deriving DecidableEq

structure DecodedRPCResponse where
  sequence : Nat
  streamEnd : Bool
  body : Bytes

inductive ResponseDecodeError
  | tooShort (length : Nat)
  | unsupportedFlags (flags : UInt8)
  | bodyLength (bodyLen remaining : Nat)
  deriving DecidableEq

def decodeRPCResponsePayload (payload : Bytes) : Except ResponseDecodeError DecodedRPCResponse :=
  if payload.length < 13 then .error (.tooShort payload.length)
  else
    let flags := payload.getD 8 0
    let bodyLen := BigEndian.decode ((payload.drop 9).take 4)
    if flags &&& ~~~1 ≠ 0 then .error (.unsupportedFlags flags)
    else if bodyLen ≠ payload.length - 13 then .error (.bodyLength bodyLen (payload.length - 13))
    else
      .ok
        { sequence := BigEndian.decode (payload.take 8)
          streamEnd := flags &&& 1 != 0
          body := payload.drop 13 }

/-- The errors that `mapRPCError` puts in front of a domain error. -/
inductive RPCSentinel
  | rpcTimeout
  | noWorkers
  | rpcBackpressure
  deriving DecidableEq

def RpcBackpressure : Nat := 6005
def RpcTimeout : Nat := 6007
def RpcWorkerNotFound : Nat := 6050
def RpcRouteNotRegistered : Nat := 6051

inductive StreamError
  | malformed (error : ResponseDecodeError)
  | response (sentinel : Option RPCSentinel) (error : ResponseError)
  | connectionClosed
  deriving DecidableEq

def mapRPCError (error : ResponseError) : StreamError :=
  match error with
  | .domain domainErr =>
    if domainErr.code = RpcTimeout then .response (some .rpcTimeout) error
    else if domainErr.code = RpcWorkerNotFound ∨ domainErr.code = RpcRouteNotRegistered then
      .response (some .noWorkers) error
    else if domainErr.code = RpcBackpressure then .response (some .rpcBackpressure) error
    else .response none error
  | error => .response none error

/-- The error of a terminal frame, whose body starts with status 1. -/
def DecodedRPCResponse.terminalErr (response : DecodedRPCResponse) : Option ResponseError :=
  if response.streamEnd ∧ response.body.head? = some 1 then
    match parseStandardResponse response.body with
    | .error error => some error
    | .ok _ => none
  else none

/-! ## The stream -/

/-- `responseStream`, with the frames from its head on. -/
structure ResponseStream where
  frames : List ResponseFrame
  closed : Bool
  err : Option StreamError

def newResponseStream : ResponseStream where
  frames := []
  closed := false
  err := none

def ResponseStream.enqueue (stream : ResponseStream) (frame : ResponseFrame) : ResponseStream :=
  if stream.closed then stream
  else { stream with frames := stream.frames ++ [frame] }

def ResponseStream.closeWithError (stream : ResponseStream)
    (err : Option StreamError) : ResponseStream :=
  if stream.closed then stream
  else { stream with closed := true, err := err }

section

variable (stream : ResponseStream)
include stream

@[simp]
theorem ResponseStream.closed_enqueue (frame : ResponseFrame) :
    (stream.enqueue frame).closed = stream.closed := by
  unfold ResponseStream.enqueue
  split <;> rfl

@[simp]
theorem ResponseStream.err_enqueue (frame : ResponseFrame) :
    (stream.enqueue frame).err = stream.err := by
  unfold ResponseStream.enqueue
  split <;> rfl

@[simp]
theorem ResponseStream.closed_closeWithError
    (err : Option StreamError) : (stream.closeWithError err).closed = true := by
  unfold ResponseStream.closeWithError
  split
  next already => exact already
  · rfl

theorem ResponseStream.err_closeWithError (err : Option StreamError) :
    (stream.closeWithError err).err =
      if stream.closed then stream.err else err := by
  unfold ResponseStream.closeWithError
  split <;> rfl

end

/-! ## The iterator -/

inductive ContextError
  | canceled
  | deadlineExceeded

inductive CallError
  | stream (error : StreamError)
  | context (error : ContextError)

structure Iterator where
  current : Option ResponseFrame
  err : Option CallError
  done : Bool

def newIterator : Iterator where
  current := none
  err := none
  done := false

/-- What one call of `Next` returns, with the stream and the iterator it leaves
behind; `none` while it waits. The context is the caller's. -/
def Iterator.next (ctx : Option ContextError) (stream : ResponseStream)
    (iterator : Iterator) : Option (Bool × ResponseStream × Iterator) :=
  if iterator.done then some (false, stream, iterator)
  else
    match ctx with
    | some error =>
      some (false, stream, { iterator with err := some (.context error), done := true })
    | none =>
      match stream.frames with
      | frame :: rest =>
        some (true, { stream with frames := rest }, { iterator with current := some frame })
      | [] =>
        if stream.closed then
          match stream.err with
          | some error =>
            some (false, stream, { iterator with err := some (.stream error), done := true })
          | none => some (false, stream, { iterator with done := true })
        else none

theorem Iterator.next_keeps_end {ctx : Option ContextError} {stream stream' : ResponseStream}
    {iterator iterator' : Iterator} {more : Bool}
    (taken : iterator.next ctx stream = some (more, stream', iterator')) :
    stream'.closed = stream.closed ∧ stream'.err = stream.err := by
  unfold Iterator.next at taken
  split at taken
  · cases taken
    exact ⟨rfl, rfl⟩
  · split at taken
    · cases taken
      exact ⟨rfl, rfl⟩
    · split at taken
      · cases taken
        exact ⟨rfl, rfl⟩
      · split at taken
        · split at taken
          · cases taken
            exact ⟨rfl, rfl⟩
          · cases taken
            exact ⟨rfl, rfl⟩
        · cases taken

/-- `for it.Next() { … }` while the context lives: the frames it saw and the
iterator after it. `none` when it waits or takes more than `calls` calls. -/
def readAll (stream : ResponseStream) (iterator : Iterator) :
    (calls : Nat) → Option (List ResponseFrame × Iterator)
  | 0 => none
  | calls + 1 =>
    match iterator.next none stream with
    | none => none
    | some (false, _, iterator') => some ([], iterator')
    | some (true, stream', iterator') =>
      (readAll stream' iterator' calls).map fun seen => (iterator'.current.toList ++ seen.1, seen.2)

/-- On a closed stream the loop ends. It has seen every frame, and `Err` is the
error of the stream. -/
theorem readAll_of_closed (frames : List ResponseFrame) (error : StreamError)
    {iterator : Iterator} (unfinished : iterator.done = false) :
    ∃ last, readAll { frames, closed := true, err := some error } iterator
          (frames.length + 1) = some (frames, last) ∧
        last.err = some (.stream error) := by
  induction frames generalizing iterator with
  | nil =>
    refine ⟨{ iterator with err := some (.stream error), done := true }, ?_, rfl⟩
    simp [readAll, Iterator.next, unfinished]
  | cons frame rest ih =>
    obtain ⟨current, previous, done⟩ := iterator
    cases unfinished
    obtain ⟨last, read, err⟩ := @ih ⟨some frame, previous, false⟩ rfl
    refine ⟨last, ?_, err⟩
    rw [List.length_cons, readAll]
    simp [Iterator.next, read]

end FitzGo.Domains.RpcCalls
