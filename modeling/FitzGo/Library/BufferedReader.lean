import Mathlib.Data.List.Basic

/-!
# Exact reads from a buffered network stream

`readFull` asks for an exact number of bytes and drops what it has collected
when a read fails. `At encode messages consumed` says that the reader stands
`consumed` bytes into the first message and that every deadline still to come
falls on a message boundary.
-/

namespace BufferedReader

universe u v w

abbrev Bytes := List UInt8

inductive Answer
  | arrive (chunk : Bytes)
  | expire
  | fail

inductive Cause
  | deadline
  | broken
  deriving DecidableEq

/-- Bytes already fetched, and the answers the connection will still give. -/
structure Reader where
  buffered : Bytes
  network : List Answer

/-- The result of an operation that may fail or wait for ever. -/
inductive Outcome (σ : Type u) (ε : Type v) (α : Type w)
  | done (value : α) (state : σ)
  | failed (error : ε) (state : σ)
  | blocked

namespace Outcome

variable {σ : Type u} {ε : Type v} {α β : Type w}

/-- Continue after success; failures and waiting are passed on. -/
def bind (outcome : Outcome σ ε α) (next : α → σ → Outcome σ ε β) : Outcome σ ε β :=
  match outcome with
  | .done value state => next value state
  | .failed error state => .failed error state
  | .blocked => .blocked

/-- Postcondition of an operation: what holds when it returns and what holds
when it fails. -/
def Ensures (returns : α → σ → Prop) (fails : ε → σ → Prop) : Outcome σ ε α → Prop
  | .done value state => returns value state
  | .failed error state => fails error state
  | .blocked => True

variable {outcome : Outcome σ ε α} {returns : α → σ → Prop} {fails : ε → σ → Prop}

theorem Ensures.mono {returns' : α → σ → Prop} {fails' : ε → σ → Prop}
    (ensures : outcome.Ensures returns fails)
    (onReturn : ∀ value state, returns value state → returns' value state)
    (onFailure : ∀ error state, fails error state → fails' error state) :
    outcome.Ensures returns' fails' := by
  cases outcome with
  | done value state => exact onReturn value state ensures
  | failed error state => exact onFailure error state ensures
  | blocked => trivial

/-- The sequencing rule. -/
theorem Ensures.bind {returns' : β → σ → Prop}
    {next : α → σ → Outcome σ ε β} (first : outcome.Ensures returns fails)
    (second : ∀ value state, returns value state → (next value state).Ensures returns' fails) :
    (outcome.bind next).Ensures returns' fails := by
  cases outcome with
  | done value state => exact second value state first
  | failed error state => exact first
  | blocked => trivial

/-- Continuations need to agree only where the first operation can lead. -/
theorem Ensures.bind_congr
    {left right : α → σ → Outcome σ ε β} (first : outcome.Ensures returns fails)
    (agree : ∀ value state, returns value state → left value state = right value state) :
    outcome.bind left = outcome.bind right := by
  cases outcome with
  | done value state => exact agree value state first
  | _ => rfl

end Outcome

/-- The bytes the connection still delivers; a failure is permanent. -/
def arrived : List Answer → Bytes
  | [] => []
  | .arrive chunk :: rest => chunk ++ arrived rest
  | .expire :: rest => arrived rest
  | .fail :: _ => []

/-- Collect `want` bytes, fetching while the buffer is too short. -/
def fill (want : Nat) (network : List Answer) (buffered : Bytes) : Outcome Reader Cause Bytes :=
  if want ≤ buffered.length then .done (buffered.take want) ⟨buffered.drop want, network⟩
  else
    match network with
    | [] => .blocked
    | .arrive chunk :: rest => fill want rest (buffered ++ chunk)
    | .expire :: rest => .failed .deadline ⟨[], rest⟩
    | .fail :: rest => .failed .broken ⟨[], .fail :: rest⟩

/-- Read exactly `want` bytes, or fail with the collected bytes dropped. -/
def readFull (want : Nat) (reader : Reader) : Outcome Reader Cause Bytes :=
  fill want reader.network reader.buffered

/-- Every deadline of the script falls on a `safe` position, counted in bytes
from a position `position` bytes before the script starts. -/
def ExpiresOnlyAt (safe : Nat → Prop) : Nat → List Answer → Prop
  | _, [] => True
  | position, .arrive chunk :: rest => ExpiresOnlyAt safe (position + chunk.length) rest
  | position, .expire :: rest => safe position ∧ ExpiresOnlyAt safe position rest
  | _, .fail :: _ => True

/-- The reader will deliver an initial part of `sent`, with deadlines at safe
positions only. -/
structure Delivers (safe : Nat → Prop) (sent : Bytes) (reader : Reader) : Prop where
  inOrder : reader.buffered ++ arrived reader.network <+: sent
  expiry : ExpiresOnlyAt safe reader.buffered.length reader.network

/-- No byte will ever be delivered again. -/
def Dead (reader : Reader) : Prop :=
  reader.buffered = [] ∧ ∃ rest, reader.network = .fail :: rest

theorem expiresOnlyAt_shift (safe : Nat → Prop) (offset : Nat) :
    ∀ (position : Nat) (network : List Answer), ExpiresOnlyAt safe (offset + position) network ↔
        ExpiresOnlyAt (fun next => safe (offset + next)) position network
  | _, [] => Iff.rfl
  | position, .arrive chunk :: rest => by
      simpa only [ExpiresOnlyAt, Nat.add_assoc] using
        expiresOnlyAt_shift safe offset (position + chunk.length) rest
  | position, .expire :: rest => and_congr Iff.rfl (expiresOnlyAt_shift safe offset position rest)
  | _, .fail :: _ => Iff.rfl

variable {safe : Nat → Prop}

theorem expiresOnlyAt_of_forall (always : ∀ position, safe position) :
    ∀ (position : Nat) (network : List Answer), ExpiresOnlyAt safe position network
  | _, [] => trivial
  | position, .arrive chunk :: rest => expiresOnlyAt_of_forall always (position + chunk.length) rest
  | position, .expire :: rest => ⟨always position, expiresOnlyAt_of_forall always position rest⟩
  | _, .fail :: _ => trivial

variable {want : Nat} {network : List Answer} {buffered : Bytes}

theorem fill_of_le (enough : want ≤ buffered.length) :
    fill want network buffered = .done (buffered.take want) ⟨buffered.drop want, network⟩ := by
  rw [fill.eq_def, if_pos enough]

theorem fill_of_lt (short : buffered.length < want) : fill want network buffered =
      match network with
      | [] => .blocked
      | .arrive chunk :: rest => fill want rest (buffered ++ chunk)
      | .expire :: rest => .failed .deadline ⟨[], rest⟩
      | .fail :: rest => .failed .broken ⟨[], .fail :: rest⟩ := by
  rw [fill.eq_def, if_neg (Nat.not_le.mpr short)]

/-- What a failed exact read leaves: `expires` after a deadline, and a dead
reader after a permanent failure. -/
def Stopped (expires : Reader → Prop) : Cause → Reader → Prop
  | .deadline, reader => expires reader
  | .broken, reader => Dead reader

theorem stopped_mono {expires expires' : Reader → Prop}
    (weaken : ∀ reader, expires reader → expires' reader) :
    ∀ cause reader, Stopped expires cause reader → Stopped expires' cause reader
  | .deadline, reader, stopped => weaken reader stopped
  | .broken, _, stopped => stopped

private theorem delivers_take {sent : Bytes} (delivers : Delivers safe sent ⟨buffered, network⟩)
    (enough : want ≤ buffered.length) :
    want ≤ sent.length ∧ buffered.take want = sent.take want ∧
      Delivers (fun next => safe (want + next)) (sent.drop want) ⟨buffered.drop want, network⟩ := by
  obtain ⟨later, sentShape⟩ := delivers.inOrder
  have taken : sent.take want = buffered.take want := by
    rw [← sentShape, List.append_assoc, List.take_append_of_le_length enough]
  have dropped : sent.drop want = (buffered.drop want ++ arrived network) ++ later := by
    rw [← sentShape, List.append_assoc, List.drop_append_of_le_length enough, List.append_assoc]
  have inside : want ≤ sent.length := by
    rw [← sentShape]
    simp only [List.length_append]
    omega
  refine ⟨inside, taken.symm, ⟨⟨later, dropped.symm⟩, ?_⟩⟩
  have lengthShape : want + (buffered.drop want).length = buffered.length := by
    rw [List.length_drop]
    omega
  rw [← expiresOnlyAt_shift, lengthShape]
  exact delivers.expiry

/-- One exact read of a delivered stream. A deadline loses what had been
collected, fewer than `want` bytes, and stands at a safe position. -/
theorem fill_ensures {sent : Bytes} :
    ∀ (network : List Answer) (buffered : Bytes), Delivers safe sent ⟨buffered, network⟩ →
      (fill want network buffered).Ensures
        (fun bytes reader =>
          want ≤ sent.length ∧ bytes = sent.take want ∧
            Delivers (fun next => safe (want + next)) (sent.drop want) reader)
        (Stopped fun reader =>
          ∃ lost, lost < want ∧ safe lost ∧
            Delivers (fun next => safe (lost + next)) (sent.drop lost) reader) := by
  intro network
  induction network with
  | nil =>
    intro buffered delivers
    rcases Nat.lt_or_ge buffered.length want with short | enough
    · rw [fill_of_lt short]
      trivial
    · rw [fill_of_le enough]
      exact delivers_take delivers enough
  | cons answer rest ih =>
    intro buffered delivers
    rcases Nat.lt_or_ge buffered.length want with short | enough
    · rw [fill_of_lt short]
      cases answer with
      | arrive chunk =>
        refine ih (buffered ++ chunk) ⟨?_, ?_⟩
        · simpa [arrived] using delivers.inOrder
        · simpa [ExpiresOnlyAt] using delivers.expiry
      | expire =>
        obtain ⟨safeHere, expiryRest⟩ := delivers.expiry
        obtain ⟨later, sentShape⟩ := delivers.inOrder
        have dropped : sent.drop buffered.length = arrived rest ++ later := by
          rw [← sentShape, List.append_assoc, List.drop_left]
          rfl
        exact ⟨buffered.length, short, safeHere, ⟨later, dropped.symm⟩,
            (expiresOnlyAt_shift safe _ _ _).mp expiryRest⟩
      | fail => exact ⟨rfl, rest, rfl⟩
    · rw [fill_of_le enough]
      exact delivers_take delivers enough

section Messages

variable {Message : Type u} (encode : Message → Bytes)

/-- A byte position at which a message of the stream ends. -/
def Boundary (messages : List Message) (position : Nat) : Prop :=
  ∃ count, position = ((messages.take count).flatMap encode).length

/-- The reader stands `consumed` bytes into the first message. -/
def At (messages : List Message) (consumed : Nat) (reader : Reader) : Prop :=
  Delivers (fun next => Boundary encode messages (consumed + next))
    ((messages.flatMap encode).drop consumed) reader

variable {encode} {position : Nat}

theorem boundary_nil (boundary : Boundary encode ([] : List Message) position) : position = 0 := by
  obtain ⟨count, rfl⟩ := boundary
  simp

variable {message : Message} {rest : List Message}

theorem boundary_cons_eq_zero (boundary : Boundary encode (message :: rest) position)
    (inside : position < (encode message).length) : position = 0 := by
  obtain ⟨count, rfl⟩ := boundary
  cases count with
  | zero => simp
  | succ count =>
    simp only [List.take_succ_cons, List.flatMap_cons, List.length_append] at inside
    omega

theorem boundary_of_boundary_cons (nonempty : 0 < (encode message).length)
    (boundary : Boundary encode (message :: rest) ((encode message).length + position)) :
    Boundary encode rest position := by
  obtain ⟨count, shape⟩ := boundary
  cases count with
  | zero =>
    simp only [List.take_zero, List.flatMap_nil, List.length_nil] at shape
    omega
  | succ count =>
    refine ⟨count, ?_⟩
    simp only [List.take_succ_cons, List.flatMap_cons, List.length_append] at shape
    omega

theorem expiresOnlyAt_mono {safe safe' : Nat → Prop}
    (weaken : ∀ position, safe position → safe' position) :
    ∀ (position : Nat) (network : List Answer), ExpiresOnlyAt safe position network →
      ExpiresOnlyAt safe' position network
  | _, [], _ => trivial
  | position, .arrive chunk :: rest, expiry =>
    expiresOnlyAt_mono weaken (position + chunk.length) rest expiry
  | position, .expire :: rest, expiry =>
    ⟨weaken _ expiry.1, expiresOnlyAt_mono weaken position rest expiry.2⟩
  | _, .fail :: _, _ => trivial

variable {reader : Reader}

theorem at_end_of_message (nonempty : 0 < (encode message).length)
    (standing : At encode (message :: rest) (encode message).length reader) :
    At encode rest 0 reader := by
  refine ⟨?_, expiresOnlyAt_mono ?_ _ _ standing.expiry⟩
  · simpa using standing.inOrder
  · intro position boundary
    simpa using boundary_of_boundary_cons nonempty boundary

/-- An exact read inside the first message returns its next bytes. It can
only time out before the first byte, and then loses nothing. -/
theorem readFull_within_message {consumed want : Nat}
    (standing : At encode (message :: rest) consumed reader)
    (inside : consumed + want ≤ (encode message).length) :
    (readFull want reader).Ensures
      (fun bytes next =>
        bytes = ((encode message).drop consumed).take want ∧
          At encode (message :: rest) (consumed + want) next)
      (Stopped fun next => consumed = 0 ∧ At encode (message :: rest) 0 next) := by
  refine (fill_ensures reader.network reader.buffered standing).mono ?_ (stopped_mono ?_)
  · rintro bytes next ⟨_, taken, delivers⟩
    refine ⟨?_, ?_⟩
    · rw [taken, List.flatMap_cons, List.drop_append_of_le_length (by omega),
        List.take_append_of_le_length (by
          rw [List.length_drop]
          omega)]
    · simpa only [At, List.drop_drop, Nat.add_assoc] using delivers
  · rintro next ⟨lost, short, boundary, delivers⟩
    have nothing : consumed + lost = 0 := boundary_cons_eq_zero boundary (by omega)
    obtain ⟨rfl, rfl⟩ := Nat.add_eq_zero_iff.mp nothing
    exact ⟨rfl, by simpa [At] using delivers⟩

theorem readFull_after_messages {want : Nat} (standing : At encode ([] : List Message) 0 reader)
    (positive : 0 < want) :
    (readFull want reader).Ensures (fun _ _ => False)
      (Stopped fun next => At encode ([] : List Message) 0 next) := by
  refine (fill_ensures reader.network reader.buffered standing).mono ?_ (stopped_mono ?_)
  · rintro bytes next ⟨enough, _, _⟩
    simp at enough
    omega
  · rintro next ⟨lost, _, boundary, delivers⟩
    have nothing : lost = 0 := by
      simpa using boundary_nil boundary
    subst nothing
    simpa [At] using delivers

end Messages

theorem readFull_of_dead {want : Nat} {reader : Reader} (dead : Dead reader) (positive : 0 < want) :
    readFull want reader = .failed .broken reader := by
  obtain ⟨buffered, network⟩ := reader
  obtain ⟨bufferedNil, rest, networkShape⟩ := dead
  simp only at bufferedNil networkShape
  subst bufferedNil networkShape
  exact fill_of_lt (by simpa using positive)

end BufferedReader

export BufferedReader (Bytes)
