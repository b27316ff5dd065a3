import FitzGo.Library.BigEndian
import FitzGo.Library.BufferedReader

/-!
# NOTIFY frames

`Multiplexer.Dispatch` parses a NOTIFY payload in one of three shapes and hands
the subscription id, the route and the rest to the handler of the domain. A
malformed payload is dropped.
-/

namespace FitzGo.Connection

/-- The domains whose subscriptions are kept in a `subscriptions.Registry`. -/
inductive Domain
  | kv
  | queue
  | notice
  | stream
  | schedule
  deriving DecidableEq

structure Notification where
  subID : Nat
  route : Bytes
  payload : Bytes
  deriving DecidableEq

/-- A `u32` length at `offset` and that many bytes; the new offset with them. -/
def readU32Bytes (payload : Bytes) (offset : Nat) : Option (Bytes × Nat) :=
  if payload.length < offset + 4 then none
  else
    let length := BigEndian.decode ((payload.drop offset).take 4)
    let start := offset + 4
    if payload.length < start + length then none
    else some ((payload.drop start).take length, start + length)

def notifySubID (payload : Bytes) : Nat :=
  BigEndian.decode (payload.take 8)

/-- The shape of KV and Queue: at least `least` bytes, and after the route
exactly `counters` more. -/
def handleCounters (least counters : Nat) (payload : Bytes) : Option Notification :=
  if payload.length < least then none
  else
    match readU32Bytes payload 8 with
    | none => none
    | some (route, offset) =>
      if payload.length ≠ offset + counters then none
      else some ⟨notifySubID payload, route, payload.drop offset⟩

def handleKVNotify : Bytes → Option Notification :=
  handleCounters (8 + 4 + 8) 8

def handleQueueNotify : Bytes → Option Notification :=
  handleCounters (8 + 4) 24

/-- Notice, Stream and Schedule: the route, and a payload with its length. -/
def handleNotify (payload : Bytes) : Option Notification :=
  if payload.length < 8 then none
  else
    match readU32Bytes payload 8 with
    | none => none
    | some (route, offset) =>
      match readU32Bytes payload offset with
      | none => none
      | some (body, _) => some ⟨notifySubID payload, route, body⟩

def decodeNotify : Domain → Bytes → Option Notification
  | .kv => handleKVNotify
  | .queue => handleQueueNotify
  | .notice | .stream | .schedule => handleNotify

def acceptsPayload : Domain → Bytes → Bool
  | .kv, payload => payload.length = 8
  | .queue, payload => payload.length = 24
  | .notice, _ | .stream, _ | .schedule, _ => true

/-- The length announced at `offset`. -/
def announced (payload : Bytes) (offset : Nat) : Nat :=
  BigEndian.decode ((payload.drop offset).take 4)

/-- Four length bytes at `offset` and that many bytes of data lie within the
payload, up to `next`. -/
def Holds (payload : Bytes) (offset : Nat) (data : Bytes) (next : Nat) : Prop :=
  offset + 4 ≤ payload.length ∧ next ≤ payload.length ∧
    next = offset + 4 + announced payload offset ∧
    data = (payload.take next).drop (offset + 4)

variable {payload data : Bytes} {offset next : Nat}

theorem readU32Bytes_eq_some_iff :
    readU32Bytes payload offset = some (data, next) ↔ Holds payload offset data next := by
  simp only [readU32Bytes, Option.ite_none_left_eq_some, Option.some.injEq, Prod.mk.injEq,
    Nat.not_lt]
  constructor
  · rintro ⟨header, within, rfl, rfl⟩
    refine ⟨header, within, rfl, ?_⟩
    rw [List.drop_take, Nat.add_sub_cancel_left]
  · rintro ⟨header, within, rfl, rfl⟩
    rw [List.drop_take, Nat.add_sub_cancel_left]
    exact ⟨header, within, rfl, rfl⟩

/-- The handler calls of one `Dispatch`, and the drops it counts. -/
structure Handled where
  calls : List Notification
  dropped : Nat
  deriving DecidableEq

def notifyHandle : Nat → Option (Bytes → Option Notification)
  | 111 => some handleKVNotify
  | 209 => some handleQueueNotify
  | 409 | 504 | 609 | 705 => some handleNotify
  | _ => none

/-- The NOTIFY branches of `Dispatch`. -/
def dispatchNotify (registered : Nat → Bool) (msgType : Nat) (payload : Bytes) : Option Handled :=
  (notifyHandle msgType).map fun handle =>
    if registered msgType then
      match handle payload with
      | some notification => ⟨[notification], 0⟩
      | none => ⟨[], 1⟩
    else ⟨[], 0⟩

/-- The tail of a notification takes the rest of the payload. -/
def NotifyTail (msgType : Nat) (payload : Bytes) (offset : Nat) (tail : Bytes) : Prop :=
  if msgType = 111 then payload.length = offset + 8 ∧ tail = payload.drop offset
  else if msgType = 209 then payload.length = offset + 24 ∧ tail = payload.drop offset
  else Holds payload offset tail payload.length

/-- The payload is the notification in the shape of its type, and no more. -/
def ExactNotify (msgType : Nat) (payload : Bytes) (sent : Notification) : Prop :=
  sent.subID = BigEndian.decode (payload.take 8) ∧
    ∃ offset, Holds payload 8 sent.route offset ∧ NotifyTail msgType payload offset sent.payload

variable {sent : Notification} {least counters : Nat}

theorem handleCounters_eq_some_iff (reachable : least ≤ 12 + counters) :
    handleCounters least counters payload = some sent ↔
      sent.subID = BigEndian.decode (payload.take 8) ∧ ∃ offset, Holds payload 8 sent.route offset ∧
        payload.length = offset + counters ∧ sent.payload = payload.drop offset := by
  obtain ⟨subID, route, body⟩ := sent
  simp only [← readU32Bytes_eq_some_iff, handleCounters]
  cases read : readU32Bytes payload 8 with
  | none => simp
  | some found =>
    obtain ⟨route, offset⟩ := found
    obtain ⟨header, _, after, _⟩ := readU32Bytes_eq_some_iff.mp read
    simp only [Option.ite_none_left_eq_some, Option.some.injEq, Prod.mk.injEq,
      Notification.mk.injEq, notifySubID]
    constructor
    · rintro ⟨_, length, rfl, rfl, rfl⟩
      exact ⟨rfl, offset, ⟨rfl, rfl⟩, not_not.mp length, rfl⟩
    · rintro ⟨rfl, _, ⟨rfl, rfl⟩, length, rfl⟩
      exact ⟨by omega, not_not.mpr length, rfl, rfl, rfl⟩

private theorem length_of_handleCounters (reachable : least ≤ 12 + counters)
    (decoded : handleCounters least counters payload = some sent) :
    sent.payload.length = counters := by
  obtain ⟨_, offset, _, length, rest⟩ := (handleCounters_eq_some_iff reachable).mp decoded
  rw [rest, List.length_drop]
  omega

theorem acceptsPayload_of_decodeNotify {domain : Domain} {payload : Bytes}
    {notification : Notification} (decoded : decodeNotify domain payload = some notification) :
    acceptsPayload domain notification.payload = true := by
  cases domain with
  | notice => rfl
  | stream => rfl
  | schedule => rfl
  | _ => exact decide_eq_true (length_of_handleCounters (by decide) decoded)

private theorem handleNotify_eq_some_iff : handleNotify payload = some sent ↔
      sent.subID = BigEndian.decode (payload.take 8) ∧ ∃ offset, Holds payload 8 sent.route offset ∧
        ∃ next, Holds payload offset sent.payload next := by
  obtain ⟨subID, route, body⟩ := sent
  simp only [← readU32Bytes_eq_some_iff, handleNotify]
  cases read : readU32Bytes payload 8 with
  | none => simp
  | some found =>
    obtain ⟨route, offset⟩ := found
    obtain ⟨header, _⟩ := readU32Bytes_eq_some_iff.mp read
    rw [if_neg (by omega)]
    dsimp only
    constructor
    · intro handled
      split at handled
      · contradiction
      · rename_i body next again
        cases handled
        exact ⟨rfl, offset, rfl, next, again⟩
    · rintro ⟨rfl, _, ⟨rfl, rfl⟩, next, again⟩
      simp only [again, notifySubID]

/-- `Dispatch` calls the handler with exact payloads and drops all others. -/
structure DecodedStrictly (registered : Nat → Bool) (msgType : Nat) (payload : Bytes) : Prop where
  handed : ∀ sent, ExactNotify msgType payload sent →
    dispatchNotify registered msgType payload = some ⟨[sent], 0⟩
  dropped : (∀ sent, ¬ ExactNotify msgType payload sent) →
    dispatchNotify registered msgType payload = some ⟨[], 1⟩

variable {msgType : Nat}

theorem decodedStrictly_of_handle {registered : Nat → Bool}
    {handle : Bytes → Option Notification} (present : registered msgType = true)
    (found : notifyHandle msgType = some handle)
    (exact_iff : ∀ sent, handle payload = some sent ↔ ExactNotify msgType payload sent) :
    DecodedStrictly registered msgType payload := by
  constructor
  · intro sent exact
    simp [dispatchNotify, found, present, (exact_iff sent).mpr exact]
  · intro malformed
    have dropped : handle payload = none :=
      Option.eq_none_iff_forall_ne_some.mpr fun sent handled =>
        malformed sent ((exact_iff sent).mp handled)
    simp [dispatchNotify, found, present, dropped]

/-- Nothing follows the body of a payload in the shared shape. -/
def EndsWithBody (payload : Bytes) : Prop :=
  ∀ route offset body next, Holds payload 8 route offset → Holds payload offset body next →
    next = payload.length

/-- The types of the shared shape are decoded strictly just where nothing follows
the body. -/
private theorem shared_decodedStrictly_iff {registered : Nat → Bool}
    (shared : msgType ∈ [409, 504, 609, 705]) (present : registered msgType = true) :
    DecodedStrictly registered msgType payload ↔ EndsWithBody payload := by
  have found : notifyHandle msgType = some handleNotify := by
    simp only [List.mem_cons, List.not_mem_nil, or_false] at shared
    rcases shared with rfl | rfl | rfl | rfl <;> rfl
  have tail (offset : Nat) (body : Bytes) : NotifyTail msgType payload offset body ↔
      Holds payload offset body payload.length := by
    unfold NotifyTail
    rw [if_neg, if_neg] <;> rintro rfl <;> exact absurd shared (by decide)
  constructor
  · intro strict route offset body next first second
    have handled : handleNotify payload = some ⟨_, route, body⟩ :=
      handleNotify_eq_some_iff.mpr ⟨rfl, offset, first, next, second⟩
    by_contra longer
    have malformed : ∀ sent, ¬ ExactNotify msgType payload sent := by
      rintro sent ⟨-, start, again, rest⟩
      rw [tail, again.2.2.1, ← first.2.2.1] at rest
      exact longer (second.2.2.1.trans rest.2.2.1.symm)
    have dropped := strict.dropped malformed
    simp [dispatchNotify, found, present, handled] at dropped
  · intro ends
    refine decodedStrictly_of_handle present found fun sent => ?_
    rw [handleNotify_eq_some_iff]
    refine and_congr_right fun _ => exists_congr fun offset => and_congr_right fun route => ?_
    rw [tail]
    constructor
    · rintro ⟨next, body⟩
      obtain rfl := ends _ _ _ _ route body
      exact body
    · exact fun body => ⟨_, body⟩

/-- A payload is handed over just if it is exact: always for KV and Queue, and in
the shared shape just where nothing follows the body. -/
theorem notifications_are_decoded_strictly {registered : Nat → Bool}
    {payload : Bytes} (isNotify : msgType ∈ [111, 209, 409, 504, 609, 705])
    (present : registered msgType = true) :
    DecodedStrictly registered msgType payload ↔
      (msgType ∉ [111, 209] → EndsWithBody payload) := by
  by_cases counters : msgType ∈ [111, 209]
  · refine iff_of_true ?_ (absurd counters)
    simp only [List.mem_cons, List.not_mem_nil, or_false] at counters
    rcases counters with rfl | rfl
    · exact decodedStrictly_of_handle present rfl fun _ => handleCounters_eq_some_iff (by decide)
    · exact decodedStrictly_of_handle present rfl fun _ => handleCounters_eq_some_iff (by decide)
  · have shared : msgType ∈ [409, 504, 609, 705] :=
      (List.mem_append.mp isNotify).resolve_left counters
    rw [shared_decodedStrictly_iff shared present]
    exact ⟨fun ends _ => ends, fun ends => ends counters⟩

theorem empty_notice_is_handed_over :
    dispatchNotify (fun _ => true) 504 (List.replicate 16 0) = some ⟨[⟨0, [], []⟩], 0⟩ := by
  refine ((notifications_are_decoded_strictly (by decide) rfl).mpr fun _ => ?_).handed _ ?_
  · rintro _ _ _ _ ⟨_, _, rfl, _⟩ ⟨_, _, rfl, _⟩
    decide
  · exact ⟨rfl, 12, ⟨by decide, by decide, rfl, rfl⟩, by decide, le_rfl, rfl, rfl⟩

/-- A byte after the body is ignored, and the handler is called. -/
theorem trailing_byte_is_ignored :
    dispatchNotify (fun _ => true) 504 (List.replicate 17 0) = some ⟨[⟨0, [], []⟩], 0⟩ ∧
      ∀ sent, ¬ ExactNotify 504 (List.replicate 17 0) sent := by
  refine ⟨by decide, ?_⟩
  rintro ⟨subID, route, body⟩ ⟨_, offset, ⟨_, _, rfl, _⟩, _, _, impossible, _⟩
  exact absurd impossible (by decide)

end FitzGo.Connection
