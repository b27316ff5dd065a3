import FitzGo.Connection.Handshake

/-!
# The response envelope

Every response starts with a status byte.  0 is followed by the payload of the
operation, 1 by a domain error with its code, class, effect and message, and no
other status is known.
-/

namespace FitzGo.Connection

open Handshake (readU16BE readString)

structure DomainError where
  code : Nat
  errorClass : Nat
  effect : Nat
  message : Bytes
  deriving DecidableEq

inductive DomainDecodeError
  | unexpectedEOF
  | invalidClassOrEffect
  | trailingBytes
  deriving DecidableEq

inductive ResponseError
  | tooShort
  | decodeDomainError (error : DomainDecodeError)
  | domain (error : DomainError)
  | unknownStatus (status : UInt8)
  deriving DecidableEq

def readU8 (payload : Bytes) (offset : Nat) : Option (Nat × Nat) :=
  match payload[offset]? with
  | none => none
  | some byte => some (byte.toNat, offset + 1)

def parseTypedDomainError (payload : Bytes) : Except DomainDecodeError DomainError :=
  if payload.length < 8 then .error .unexpectedEOF
  else
    match readU16BE payload 0 with
    | none => .error .unexpectedEOF
    | some (code, offset) =>
      match readU8 payload offset with
      | none => .error .unexpectedEOF
      | some (errorClass, offset) =>
        match readU8 payload offset with
        | none => .error .unexpectedEOF
        | some (effect, offset) =>
          if 10 < errorClass ∨ 2 < effect then .error .invalidClassOrEffect
          else
            match readString payload offset with
            | none => .error .unexpectedEOF
            | some (message, newOffset) =>
              if newOffset ≠ payload.length then .error .trailingBytes
              else .ok { code, errorClass, effect, message }

def parseStandardResponse (payload : Bytes) : Except ResponseError (Bool × Bytes) :=
  match payload with
  | [] => .error .tooShort
  | status :: rest =>
    if status = 1 then
      match parseTypedDomainError rest with
      | .error error => .error (.decodeDomainError error)
      | .ok error => .error (.domain error)
    else if status ≠ 0 then .error (.unknownStatus status)
    else .ok (true, rest)

/-- Without an error the status is 0, and so the flag that callers test is
set. -/
theorem parseStandardResponse_eq_ok_iff {payload remaining : Bytes} {success : Bool} :
    parseStandardResponse payload = .ok (success, remaining) ↔
      payload = 0 :: remaining ∧ success = true := by
  cases payload with
  | nil => simp [parseStandardResponse]
  | cons status rest =>
    by_cases failed : status = 1
    · subst failed
      cases parsed : parseTypedDomainError rest with
      | _ => simp [parseStandardResponse, parsed]
    · by_cases succeeded : status = 0
      · subst succeeded
        simp [parseStandardResponse, eq_comm, and_comm]
      · simp [parseStandardResponse, failed, succeeded]

end FitzGo.Connection
