import Mathlib.Data.Fintype.Basic
import Mathlib.Data.List.OfFn
import FitzGo.Library.StepMachine
import FitzGo.Transport.Read

/-!
# The outbound byte stream of one transport

Every sender ends in `Write`, a ping, a pong inside `Read`, or the close frame
of a WebSocket. Two histories keep the bytes on the wire, and for each frame
whose write has ended the part of it that was transmitted.
-/

namespace FitzGo.Transport

inductive Origin
  | connect
  | request
  | oneWay
  | heartbeat
  | pong
  | close
  deriving DecidableEq

structure Operation where
  origin : Origin
  payload : Bytes
  maskKey : Fin 4 → UInt8

def Origin.opcode : Origin → Opcode
  | .connect => .binary
  | .request => .binary
  | .oneWay => .binary
  | .heartbeat => .ping
  | .pong => .pong
  | .close => .close

/-- The header of `writeFrame`, with the mask bit set. -/
def websocketHeader (operation : Operation) : Bytes :=
  let length := operation.payload.length
  (0x80 ||| operation.origin.opcode.toByte) :: (if length < 126 then [UInt8.ofNat length ||| 0x80]
    else if length ≤ 0xFFFF then (126 ||| 0x80) :: BigEndian.encode 2 length
    else (127 ||| 0x80) :: 0 :: 0 :: 0 :: 0 :: BigEndian.encode 4 length) ++
    List.ofFn operation.maskKey

def masked (operation : Operation) : Bytes :=
  operation.payload.mapIdx fun index byte => byte ^^^ operation.maskKey (Fin.ofNat 4 index)

/-- The scratch buffers of `writeFrame`, each of at most 1024 bytes. -/
def scratchChunks : (bound : Nat) → Bytes → List Bytes
  | 0, _ => []
  | bound + 1, bytes =>
    if bytes = [] then []
    else bytes.take 1024 :: scratchChunks bound (bytes.drop 1024)

/-- The buffers handed to `writeAll`, in order. -/
def pieces : Kind → Operation → List Bytes
  | .tcp, operation => [BigEndian.encode 4 operation.payload.length, operation.payload]
  | .websocket, operation =>
    websocketHeader operation :: scratchChunks operation.payload.length (masked operation)

def frameOf : Kind → Operation → Bytes
  | .tcp, operation => BigEndian.encode 4 operation.payload.length ++ operation.payload
  | .websocket, operation => websocketHeader operation ++ masked operation

/-- The holder of the write mutex: the bytes of its frame that reached the
socket, the rest of the buffer in `writeAll`, and the buffers after it. -/
structure Writer where
  operation : Operation
  sent : Bytes
  buffer : Bytes
  later : List Bytes

structure Record where
  operation : Operation
  sent : Bytes

inductive ClosePhase
  | idle
  | flagged
  | frameWritten
  | finished
  deriving DecidableEq

structure Outbound where
  closed : Bool
  socketDead : Bool
  waiting : List Operation
  writer : Option Writer
  closePhase : ClosePhase
  log : List Record
  wire : Bytes

namespace Outbound

def initial : Outbound where
  closed := false
  socketDead := false
  waiting := []
  writer := none
  closePhase := .idle
  log := []
  wire := []

end Outbound

/-- How `conn.Write` returns. After a `reset` the socket takes no byte any
more; after `failed`, say an expired deadline, it still does. -/
inductive Status
  | ok
  | failed
  | reset
  deriving DecidableEq

inductive WriteEvent
  | enter (operation : Operation)
  | lock (index : Nat)
  | abandon
  | answer (count : Nat) (status : Status)
  | closeSocket
  | socketDies

def closePayload : Bytes :=
  BigEndian.encode 2 1000

/-- The checks an operation makes before it waits for the mutex. A pong
checks nothing, and `Close` goes on only if it sets the flag. -/
def admits (kind : Kind) (state : Outbound) (operation : Operation) : Bool :=
  match operation.origin with
  | .connect | .request | .oneWay => !state.closed
  | .heartbeat => kind = .websocket && operation.payload = [] && !state.closed
  | .pong => kind = .websocket
  | .close => operation.payload = closePayload && !state.closed

/-- Pass the checks. A TCP `Close` has no frame to write. -/
def enter (kind : Kind) (state : Outbound) (operation : Operation) : Option Outbound :=
  if admits kind state operation then
    some
      { state with
        closed := state.closed || operation.origin = .close
        closePhase :=
          if operation.origin = .close then .flagged
          else state.closePhase
        waiting :=
          if kind = .tcp ∧ operation.origin = .close then state.waiting
          else state.waiting ++ [operation] }
  else none

def startWriting (kind : Kind) (operation : Operation) : Option Writer :=
  match pieces kind operation with
  | [] => none
  | buffer :: later => some ⟨operation, [], buffer, later⟩

def finish (state : Outbound) (operation : Operation) (sent : Bytes) : Outbound :=
  { state with
    writer := none
    log := state.log ++ [⟨operation, sent⟩]
    closePhase :=
      if operation.origin = .close then .frameWritten
      else state.closePhase }

/-- `writeAll` returned: go on with the next buffer that is not empty. -/
def nextBuffer (state : Outbound) (operation : Operation) (sent : Bytes)
    (later : List Bytes) : Outbound :=
  match later.dropWhile List.isEmpty with
  | [] => finish state operation sent
  | buffer :: later => { state with writer := some ⟨operation, sent, buffer, later⟩ }

def answer (state : Outbound) (count : Nat) (status : Status) : Option Outbound :=
  match state.writer with
  | none => none
  | some writer =>
    if writer.buffer.length < count ∨ state.socketDead ∧ (count ≠ 0 ∨ status = .ok) then none
    else
      let sent := writer.sent ++ writer.buffer.take count
      let rest := writer.buffer.drop count
      let state := { state with
          wire := state.wire ++ writer.buffer.take count
          socketDead := state.socketDead || status = .reset }
      if status ≠ .ok ∨ count = 0 then some (finish state writer.operation sent)
      else if rest = [] then some (nextBuffer state writer.operation sent writer.later)
      else
        some
          { state with
            writer := some ⟨writer.operation, sent, rest, writer.later⟩ }

def writeStep (kind : Kind) (state : Outbound) : WriteEvent → Option Outbound
  | .enter operation => enter kind state operation
  | .lock index =>
    match state.writer, state.waiting[index]? with
    | none, some operation =>
      some
        { state with
          waiting := state.waiting.eraseIdx index
          writer := startWriting kind operation }
    | _, _ => none
  | .abandon =>
    match state.writer with
    | some writer =>
      if writer.sent = [] then some (finish state writer.operation [])
      else none
    | none => none
  | .answer count status => answer state count status
  | .closeSocket =>
    if state.closePhase = .frameWritten ∨ kind = .tcp ∧ state.closePhase = .flagged then
      some { state with socketDead := true, closePhase := .finished }
    else none
  | .socketDies => some { state with socketDead := true }

end FitzGo.Transport
