import FitzGo.Library.BigEndian
import FitzGo.Library.BufferedReader

/-!
# Reading one frame from a transport

The inbound half of `internal/core/transport`. Scripts of the environment are
the answers of the connection, the outcomes of the `ctx.Err()` checks made
between network reads, and the outcomes of the pong writes.
-/

namespace FitzGo.Transport

open BufferedReader

/-- The two implementations of the `Transport` interface. -/
inductive Kind
  | tcp
  | websocket
  deriving DecidableEq

/-- The WebSocket opcodes `readFrame` lets through. -/
inductive Opcode
  | text
  | binary
  | close
  | ping
  | pong
  deriving DecidableEq

namespace Opcode

def toByte : Opcode → UInt8
  | text => 0x1
  | binary => 0x2
  | close => 0x8
  | ping => 0x9
  | pong => 0xA

/-- `opcode >= opcodeClose`. -/
def isControl (opcode : Opcode) : Bool :=
  0x8 ≤ opcode.toByte

end Opcode

/-- The errors of `Read`. `deadlineExceeded` is the context's error, `io` an
error of `io.ReadFull`, and `endOfFile` the answer to a close frame. -/
inductive ReadError
  | deadlineExceeded
  | io (cause : Cause)
  | frameTooLarge
  | reservedBits
  | continuationFrame
  | unsupportedOpcode (opcode : UInt8)
  | fragmentedControl
  | fragmentedFrame
  | maskedFrame
  | controlTooLarge
  | textFrame
  | pongWrite
  | endOfFile
  deriving DecidableEq

/-- What `Read` reads from: the buffered connection and the scripts of the
context checks and of the pong writes. Past its script a check finds the
context live and a write succeeds. -/
structure Inbound where
  reader : Reader
  expired : List Bool
  pongFailed : List Bool

namespace Inbound

def readFull (inbound : Inbound) (want : Nat) : Outcome Inbound ReadError Bytes :=
  match BufferedReader.readFull want inbound.reader with
  | .done bytes reader => .done bytes { inbound with reader }
  | .failed cause reader => .failed (.io cause) { inbound with reader }
  | .blocked => .blocked

def checkContext (inbound : Inbound) : Bool × Inbound :=
  (inbound.expired.headD false, { inbound with expired := inbound.expired.tail })

/-- One pong write; `true` when it failed. -/
def writePong (inbound : Inbound) : Bool × Inbound :=
  (inbound.pongFailed.headD false, { inbound with pongFailed := inbound.pongFailed.tail })

end Inbound

abbrev ReadOutcome := Outcome Inbound ReadError

/-- Return the context's error if it has expired, else continue. -/
def unlessExpired {α : Type} (inbound : Inbound) (next : Inbound → ReadOutcome α) : ReadOutcome α :=
  if inbound.checkContext.1 then .failed .deadlineExceeded inbound.checkContext.2
  else next inbound.checkContext.2

/-- The context's error takes priority over the error of the step. A network
read that failed by deadline failed because the context expired. -/
def contextFirst {α : Type} : ReadOutcome α → ReadOutcome α
  | .failed error inbound =>
    if error = .io .deadline then .failed .deadlineExceeded inbound
    else
      .failed (if inbound.checkContext.1 then .deadlineExceeded else error) inbound.checkContext.2
  | .done value inbound => .done value inbound
  | .blocked => .blocked

/-- `TCPTransport.Read`: four bytes of big-endian length, then the body. -/
def tcpRead (limit : Nat) (inbound : Inbound) : ReadOutcome Bytes :=
  unlessExpired inbound fun inbound =>
    (contextFirst (inbound.readFull 4)).bind fun lengthBuf inbound =>
      let frameLen := BigEndian.decode lengthBuf
      if limit < frameLen then .failed .frameTooLarge inbound
      else contextFirst (inbound.readFull frameLen)

def parseOpcode (byte : UInt8) : Except ReadError Opcode :=
  if byte = 0x2 then .ok .binary
  else if byte = 0x1 then .ok .text
  else if byte = 0x8 then .ok .close
  else if byte = 0x9 then .ok .ping
  else if byte = 0xA then .ok .pong
  else if byte = 0x0 then .error .continuationFrame
  else .error (.unsupportedOpcode byte)

def parseHeader (first second : UInt8) : Except ReadError (Opcode × Nat) :=
  if first &&& 0x70 ≠ 0 then .error .reservedBits
  else
    match parseOpcode (first &&& 0x0F) with
    | .error error => .error error
    | .ok opcode =>
      if first &&& 0x80 = 0 then
        .error (if opcode.isControl then .fragmentedControl
            else .fragmentedFrame)
      else if second &&& 0x80 ≠ 0 then .error .maskedFrame
      else .ok (opcode, (second &&& 0x7F).toNat)

/-- The extended payload length, where the seven-bit length announces one. -/
def readLength (short : Nat) (inbound : Inbound) : ReadOutcome Nat :=
  if short = 126 then
    (inbound.readFull 2).bind fun extLen inbound => .done (BigEndian.decode extLen) inbound
  else if short = 127 then
    (inbound.readFull 8).bind fun extLen inbound => .done (BigEndian.decode extLen) inbound
  else .done short inbound

def readFrame (limit : Nat) (inbound : Inbound) : ReadOutcome (Opcode × Bytes) :=
  (inbound.readFull 2).bind fun header inbound =>
    match parseHeader (header.getD 0 0) (header.getD 1 0) with
    | .error error => .failed error inbound
    | .ok (opcode, short) =>
      (readLength short inbound).bind fun length inbound =>
        if opcode.isControl && decide (125 < length) then .failed .controlTooLarge inbound
        else if !opcode.isControl && decide (limit < length) then .failed .frameTooLarge inbound
        else (inbound.readFull length).bind fun payload inbound => .done (opcode, payload) inbound

/-- The loop of `WebSocketTransport.Read`, for at most `frames` frames. -/
def websocketReadLoop (limit : Nat) : (frames : Nat) → Inbound → ReadOutcome Bytes
  | 0, _ => .blocked
  | frames + 1, inbound =>
    unlessExpired inbound fun inbound =>
      (contextFirst (readFrame limit inbound)).bind fun (opcode, payload) inbound =>
          match opcode with
          | .binary =>
            if limit < payload.length then .failed .frameTooLarge inbound
            else .done payload inbound
          | .text => .failed .textFrame inbound
          | .ping =>
            if inbound.writePong.1 then .failed .pongWrite inbound.writePong.2
            else websocketReadLoop limit frames inbound.writePong.2
          | .pong => websocketReadLoop limit frames inbound
          | .close => .failed .endOfFile inbound

def bytesLeft (inbound : Inbound) : Nat :=
  (inbound.reader.buffered ++ arrived inbound.reader.network).length

/-- `WebSocketTransport.Read`. Every frame takes at least two bytes, so the
bound on the loop is never reached (`websocketReadLoop_enough`). -/
def websocketRead (limit : Nat) (inbound : Inbound) : ReadOutcome Bytes :=
  unlessExpired inbound fun inbound => websocketReadLoop limit (bytesLeft inbound + 1) inbound

/-- `Transport.Read` with the frame size limit in force. -/
def read : Kind → (limit : Nat) → Inbound → ReadOutcome Bytes
  | .tcp => tcpRead
  | .websocket => websocketRead

end FitzGo.Transport
