import FitzGo.Connection.StandardResponse
import FitzGo.Library.StepMachine

/-!
# The requests of a KV transaction

Each operation checks the handle and the two terminal flags, then its arguments,
and sends; `Commit` and `Rollback` set their flag before they send. `Get` and
`Scan` send inside `RunWithRetry`, the others once.
-/

namespace FitzGo.Domains.KvTransactions

open StepMachine

/-- A `nil` bound is open. -/
structure ScanQuery where
  startKey : Option Bytes
  endKey : Option Bytes
  limit : UInt32
  reverse : Bool
  startExclusive : Bool
  deriving DecidableEq

/-- The operations; a slice may be `nil`. The request of an operation has the
same arguments. -/
inductive Operation
  | get (key : Option Bytes)
  | scan (query : ScanQuery)
  | put (key value : Option Bytes)
  | insert (key value : Option Bytes)
  | delete (key : Option Bytes)
  | deleteRange (startKey endKey : Option Bytes)
  | commit (durability : UInt8)
  | rollback
  deriving DecidableEq

inductive ArgumentError
  | nilKey
  | emptyKey
  | keyTooLarge
  | nilValue
  | valueTooLarge
  | invalidDurability (durability : UInt8)
  deriving DecidableEq

inductive TxError
  | staleHandle
  | committed
  | rolledback
  | readOnlyTransaction
  | argument (error : ArgumentError)
  | request
  deriving DecidableEq

def maxKeySize : Nat := 64 * 1024

def maxValueSize : Nat := 16 * 1024 * 1024

def durabilitySync : UInt8 := 1

def validateKeySize : Option Bytes → Option ArgumentError
  | none => some .nilKey
  | some [] => some .emptyKey
  | some key => if maxKeySize < key.length then some .keyTooLarge else none

def validateValueSize : Option Bytes → Option ArgumentError
  | none => some .nilValue
  | some value => if maxValueSize < value.length then some .valueTooLarge else none

/-- The checks of `scanPayloadWriter`: only a bound that is given is checked. -/
def validateBound : Option Bytes → Option ArgumentError
  | none => none
  | bound => validateKeySize bound

def validateDurability (durability : UInt8) : Option ArgumentError :=
  if durabilitySync < durability then some (.invalidDurability durability) else none

structure Transaction where
  readOnly : Bool
  committed : Bool
  rolledback : Bool
  deriving DecidableEq

def begin (readOnly : Bool) : Transaction where
  readOnly := readOnly
  committed := false
  rolledback := false

def checkLiveHandle (live : Bool) : Option TxError :=
  if live then none else some .staleHandle

def Transaction.checkState (tx : Transaction) (live : Bool) : Option TxError :=
  checkLiveHandle live <|> (if tx.committed then some .committed else none) <|>
    (if tx.rolledback then some .rolledback else none)

def Transaction.checkWritable (tx : Transaction) : Option TxError :=
  if tx.readOnly then some .readOnlyTransaction else none

def Transaction.check (tx : Transaction) (live : Bool) : Operation → Option TxError
  | .get key => tx.checkState live <|> (validateKeySize key).map .argument
  | .scan query => tx.checkState live <|>
    (validateBound query.startKey <|> validateBound query.endKey).map .argument
  | .put key value => tx.checkState live <|>
    (validateKeySize key <|> validateValueSize value).map .argument
  | .insert key value => tx.checkState live <|> tx.checkWritable <|>
    (validateKeySize key <|> validateValueSize value).map .argument
  | .delete key => tx.checkState live <|> tx.checkWritable <|>
    (validateKeySize key).map .argument
  | .deleteRange startKey endKey => tx.checkState live <|> tx.checkWritable <|>
    (validateKeySize startKey <|> validateKeySize endKey).map .argument
  | .commit durability => (validateDurability durability).map .argument <|>
    tx.checkState live <|> tx.checkWritable
  | .rollback => checkLiveHandle live

/-- How `SendRequestWithWriter` and the parse of its response end: nothing is
sent, the request is sent and its response is lost or an error, or it succeeds. -/
inductive Outcome
  | unsent
  | failed
  | answered
  deriving DecidableEq

/-- One attempt of `RunWithRetry`: whether the context has ended before it,
whether its error is retryable, and whether the context or the connection ends
during the delay after it. -/
structure Attempt where
  contextDone : Bool := false
  outcome : Outcome := .answered
  retryable : Bool := true
  interrupted : Bool := false

def Attempt.sent (attempt : Attempt) : Nat :=
  if attempt.outcome = .unsent then 0 else 1

/-- The loop of `RunWithRetry`, with `left` attempts to go: how many requests are
sent, and whether it fails. The attempts to come are a tape. -/
def retryLoop : (left : Nat) → List Attempt → Nat × Bool
  | 0, _ | _, [] => (0, true)
  | left + 1, attempt :: rest =>
    if attempt.contextDone then (0, true)
    else if attempt.outcome = .answered then (attempt.sent, false)
    else if ¬ attempt.retryable ∨ left = 0 ∨ attempt.interrupted then (attempt.sent, true)
    else (attempt.sent + (retryLoop left rest).1, (retryLoop left rest).2)

structure Environment where
  live : Bool := true
  retryEnabled : Bool := true
  retryMaxAttempts : Int := 3
  attempts : List Attempt := [{}]

/-- An operation that does not retry makes one attempt. -/
def Environment.sendOnce (env : Environment) : Nat × Option TxError :=
  let attempt := env.attempts.headD { outcome := .unsent }
  (attempt.sent, if attempt.outcome = .answered then none else some .request)

def Environment.runWithRetry (env : Environment) : Nat × Option TxError :=
  if ¬ env.retryEnabled then env.sendOnce
  else
    let done := retryLoop
      (if env.retryMaxAttempts ≤ 0 then 3 else env.retryMaxAttempts.toNat) env.attempts
    (done.1, if done.2 then some .request else none)

set_option maxRecDepth 2048 in
/-- One operation: the transaction after it, the requests it sends and the error
it returns. -/
def Transaction.perform (tx : Transaction) (env : Environment) (operation : Operation) :
    Transaction × List Operation × Option TxError :=
  let once := (List.replicate env.sendOnce.1 operation, env.sendOnce.2)
  match tx.check env.live operation with
  | some error => (tx, [], some error)
  | none =>
    match operation with
    | .get _ | .scan _ => (tx, List.replicate env.runWithRetry.1 operation, env.runWithRetry.2)
    | .commit _ => ({ tx with committed := true }, once)
    | .rollback =>
      if tx.committed ∨ tx.rolledback then (tx, [], none)
      else ({ tx with rolledback := true }, once)
    | _ => (tx, once)

def Transaction.trace (tx : Transaction) : List (Operation × Environment) → List Operation
  | [] => []
  | (operation, env) :: rest =>
    (tx.perform env operation).2.1 ++ (tx.perform env operation).1.trace rest

variable {tx : Transaction} {env : Environment} {operation : Operation} {live : Bool}

theorem checkState_eq_none :
    tx.checkState live = none ↔ live = true ∧ tx.committed = false ∧ tx.rolledback = false := by
  unfold Transaction.checkState checkLiveHandle
  grind

theorem mem_requests {request : Operation}
    (sent : request ∈ (tx.perform env operation).2.1) : request = operation := by
  revert sent
  fun_cases Transaction.perform <;> grind

/-! ## The end of a transaction -/

set_option maxRecDepth 2048 in
def Operation.isTerminal : Operation → Bool
  | .commit _ | .rollback => true
  | _ => false

def Transaction.ended (tx : Transaction) : Bool :=
  tx.committed || tx.rolledback

/-- Only `Rollback` passes its checks after the end, and it sends nothing. -/
private theorem perform_ended (ended : tx.ended = true) :
    (tx.perform env operation).1 = tx ∧ (tx.perform env operation).2.1 = [] := by
  have refused : tx.checkState env.live ≠ none := by
    grind [checkState_eq_none, Transaction.ended]
  cases operation <;> grind [Transaction.perform, Transaction.check, Transaction.ended]

private theorem trace_ended (ended : tx.ended = true) (calls : List (Operation × Environment)) :
    tx.trace calls = [] := by
  induction calls with
  | nil => rfl
  | cons call rest ih => simp only [Transaction.trace, perform_ended ended, ih, List.append_nil]

private theorem ended_of_sent (terminal : operation.isTerminal = true)
    (sent : (tx.perform env operation).2.1 ≠ []) :
    (tx.perform env operation).1.ended = true ∧ (tx.perform env operation).2.1 = [operation] := by
  have once : env.sendOnce.1 = 0 ∨ env.sendOnce.1 = 1 := by
    grind [Environment.sendOnce, Attempt.sent]
  cases operation <;> grind [Operation.isTerminal, Transaction.perform, Transaction.ended]

private theorem trace_pairwise (tx : Transaction) (calls : List (Operation × Environment)) :
    (tx.trace calls).Pairwise fun earlier _ => earlier.isTerminal = false := by
  induction calls generalizing tx with
  | nil => exact List.Pairwise.nil
  | cons call rest ih =>
    obtain ⟨operation, env⟩ := call
    by_cases terminal : operation.isTerminal = true ∧ (tx.perform env operation).2.1 ≠ []
    · obtain ⟨ended, single⟩ := ended_of_sent terminal.1 terminal.2
      simp [Transaction.trace, single, trace_ended ended]
    · have open_requests : ∀ request ∈ (tx.perform env operation).2.1,
          request.isTerminal = false := by
        grind [mem_requests]
      refine List.pairwise_append.2 ⟨?_, ih _, ?_⟩
      · exact List.Pairwise.imp_of_mem
          (fun member _ _ => open_requests _ member) (List.pairwise_of_forall fun _ _ => trivial)
      · exact fun request member _ _ => open_requests request member

private theorem countP_terminal_le_one {requests : List Operation}
    (ordered : requests.Pairwise fun earlier _ => earlier.isTerminal = false) :
    requests.countP Operation.isTerminal ≤ 1 := by
  induction ordered with
  | nil => simp
  | @cons request rest first _ ih =>
    cases rest with
    | nil => cases request <;> simp [Operation.isTerminal]
    | cons next rest => simpa [List.countP_cons_of_neg, first next List.mem_cons_self] using ih

/-- Whatever the broker and the connection do, a transaction sends at most one
`COMMIT` or `ROLLBACK`, and nothing after it. A durability that does not exist
sends nothing and changes nothing. -/
theorem transaction_requests_end_once (tx : Transaction) (calls : List (Operation × Environment)) :
    ((tx.trace calls).Pairwise fun earlier _ => earlier.isTerminal = false) ∧
      (tx.trace calls).countP Operation.isTerminal ≤ 1 ∧
      ∀ durability env, durabilitySync < durability →
        tx.perform env (.commit durability) =
            (tx, [], some (.argument (.invalidDurability durability))) ∧
          tx.trace ((.commit durability, env) :: calls) = tx.trace calls := by
  refine ⟨trace_pairwise tx calls, countP_terminal_le_one (trace_pairwise tx calls), ?_⟩
  intro durability env invalid
  have refused : tx.perform env (.commit durability) =
      (tx, [], some (.argument (.invalidDurability durability))) := by
    simp [Transaction.perform, Transaction.check, validateDurability, invalid]
  simp [Transaction.trace, refused]

/-- A commit whose response is lost: the rollback after it sends nothing. -/
theorem lost_commit_ends_once : (begin false).trace [(.commit 2, {}),
        (.get (some [1]), { attempts := [{ outcome := .failed }, {}] }),
        (.commit 1, { attempts := [{ outcome := .failed }] }), (.rollback, {}),
        (.put (some [1]) (some [2]), {})] =
      [.get (some [1]), .get (some [1]), .commit 1] ∧
    ((begin false).trace [(.commit 1, {}), (.rollback, {})]).countP Operation.isTerminal ≤ 1 :=
  ⟨by decide, (transaction_requests_end_once _ _).2.1⟩

/-! ## Read-only transactions -/

def Operation.isMutation : Operation → Bool
  | .get _ | .scan _ | .rollback => false
  | _ => true

/-- A `Put` whose arguments pass their checks. `Put` alone of the mutations does
not call `checkWritable`. -/
def Operation.isValidPut : Operation → Bool
  | .put key value => validateKeySize key = none ∧ validateValueSize value = none
  | _ => false

private theorem perform_readOnly : (tx.perform env operation).1.readOnly = tx.readOnly := by
  fun_cases Transaction.perform <;> rfl

/-- A transaction after a call. -/
def step (tx : Transaction) (call : Operation × Environment) : Option Transaction :=
  some (tx.perform call.2 call.1).1

/-- The call is a valid `Put` on an open transaction with a live handle. -/
def PutPasses (tx : Transaction) (call : Operation × Environment) : Prop :=
  call.1.isValidPut = true ∧ tx.ended = false ∧ call.2.live = true

instance (tx : Transaction) (call : Operation × Environment) : Decidable (PutPasses tx call) :=
  inferInstanceAs (Decidable (_ ∧ _))

/-- A mutation on an open transaction with a live handle sends nothing and is
refused, for the read-only transaction or for its arguments. -/
def Refuses (tx : Transaction) (call : Operation × Environment) : Prop :=
  tx.ended = false → call.2.live = true → call.1.isMutation = true →
    ∃ error, tx.perform call.2 call.1 = (tx, [], some error) ∧
      (error = .readOnlyTransaction ∨ ∃ invalid, error = .argument invalid)

variable {call : Operation × Environment}

theorem check_mutation (readOnly : tx.readOnly = true)
    (mutation : call.1.isMutation = true) (noPut : ¬ PutPasses tx call) :
    ∃ error, tx.check call.2.live call.1 = some error ∧ (tx.checkState call.2.live = none →
      error = .readOnlyTransaction ∨ ∃ invalid, error = .argument invalid) := by
  obtain ⟨operation, env⟩ := call
  have refused : tx.checkWritable = some .readOnlyTransaction := by
    simp [Transaction.checkWritable, readOnly]
  cases operation with
  | put key value =>
    have invalid : tx.checkState env.live = none →
        ¬ (validateKeySize key = none ∧ validateValueSize value = none) := by
      intro passes valid
      obtain ⟨live, committed, rolledback⟩ := checkState_eq_none.mp passes
      exact noPut ⟨decide_eq_true valid, by simp [Transaction.ended, committed, rolledback], live⟩
    rcases state : tx.checkState env.live <;> rcases keyError : validateKeySize key <;>
      rcases valueError : validateValueSize value <;> simp_all [Transaction.check]
  | commit durability =>
    rcases state : tx.checkState env.live <;> rcases invalid : validateDurability durability <;>
      simp_all [Transaction.check]
  | _ =>
    rcases state : tx.checkState env.live <;> simp_all [Transaction.check, Operation.isMutation]

theorem refuses_of_noPut (readOnly : tx.readOnly = true)
    (noPut : ¬ PutPasses tx call) : Refuses tx call := by
  intro running live mutation
  obtain ⟨error, refused, cause⟩ := check_mutation readOnly mutation noPut
  refine ⟨error, by simp [Transaction.perform, refused], cause ?_⟩
  grind [checkState_eq_none, Transaction.ended]

/-- A `Put` that passes its checks is sent, or its request fails. -/
theorem noPut_of_refuses (refuses : Refuses tx call) :
    ¬ PutPasses tx call := by
  rintro ⟨valid, running, live⟩
  obtain ⟨operation, env⟩ := call
  cases operation with
  | put key value =>
    obtain ⟨error, refused, cause⟩ := refuses running live rfl
    have passes : tx.check env.live (.put key value) = none := by
      have state : tx.checkState env.live = none := by
        grind [checkState_eq_none, Transaction.ended]
      simp only [Operation.isValidPut, decide_eq_true_eq] at valid
      simp [Transaction.check, state, valid]
    simp only [Transaction.perform, passes, Environment.sendOnce, Prod.mk.injEq] at refused
    grind
  | _ => cases valid

theorem trace_of_noPut {calls : List (Operation × Environment)} (readOnly : tx.readOnly = true)
    (noPut : Along step (fun tx call => ¬ PutPasses tx call) tx calls) :
    Along step Refuses tx calls ∧ ∀ request ∈ tx.trace calls, request.isMutation = false := by
  induction calls generalizing tx with
  | nil => simp [Along, Transaction.trace]
  | cons call rest ih =>
    obtain ⟨now, later⟩ := along_cons_of_step rfl noPut
    obtain ⟨refuses, silent⟩ := ih (perform_readOnly.trans readOnly) later
    refine ⟨⟨refuses_of_noPut readOnly now, refuses⟩, fun request member => ?_⟩
    rcases List.mem_append.1 member with sent | after
    · obtain rfl := mem_requests sent
      by_contra mutation
      obtain ⟨error, refused, _⟩ := check_mutation readOnly (by simpa using mutation) now
      simp [Transaction.perform, refused] at sent
    · exact silent request after

/-- A read-only transaction refuses every mutation and sends none, just if no
valid `Put` comes while it is open and its handle live. -/
theorem read_only_sends_no_mutation (calls : List (Operation × Environment)) :
    (Along step Refuses (begin true) calls ∧
      ∀ request ∈ (begin true).trace calls, request.isMutation = false) ↔
      Along step (fun tx call => ¬ PutPasses tx call) (begin true) calls := by
  constructor
  · intro refuses
    exact along_mono (fun _ _ _ => noPut_of_refuses) refuses.1
  · exact trace_of_noPut rfl

/-- The `Put` comes after the `Rollback`. -/
theorem readOnlyCalls_send_no_mutation : ∃ requests, (begin true).trace
      [(.insert (some [1]) (some [2]), {}), (.get (some [1]), {}), (.rollback, {}),
        (.put (some [1]) (some [2]), {})] = requests ∧
      ∀ request ∈ requests, request.isMutation = false :=
  ⟨_, rfl, ((read_only_sends_no_mutation _).mpr (by decide)).2⟩

/-- A valid `Put` on a read-only transaction is sent and succeeds. -/
theorem put_on_read_only_is_sent : (begin true).perform {} (.put (some [1]) (some [2])) =
      (begin true, [.put (some [1]) (some [2])], none) ∧
      ¬ ∀ request ∈ (begin true).trace [(.put (some [1]) (some [2]), {})],
      request.isMutation = false := by
  decide

/-! ## The bodies of `Get` -/

/-- The variables that the attempts of `Get` share. -/
structure Found where
  value : Option Bytes
  found : Bool
  deriving DecidableEq

/-- An attempt with a successful response; the Boolean says whether it returns
`nil`. A length of 32 bits is an `int`. -/
def Found.read (last : Found) : Bytes → Bool × Found
  | [] => (false, last)
  | flag :: rest =>
    if flag ≠ 1 then (true, ⟨none, false⟩)
    else if rest.length < 4 then (false, ⟨none, true⟩)
    else
      let valueLen := BigEndian.decode (rest.take 4)
      if rest.length < 4 + valueLen then (false, ⟨none, true⟩)
      else (true, ⟨some ((rest.drop 4).take valueLen), true⟩)

def Found.attempt (before : Bool × Found) (body? : Option Bytes) : Bool × Found :=
  body?.elim (false, before.2) before.2.read

/-- What `Get` returns after its attempts; one without a successful response is
`none`, and all but the last were retried. -/
def get (attempts : List (Option Bytes)) : Option Found :=
  let outcome := attempts.foldl Found.attempt (false, ⟨none, false⟩)
  if outcome.1 then some outcome.2 else none

def Encodes (value body : Bytes) : Prop :=
  ∃ length, length.length = 4 ∧ BigEndian.decode length = value.length ∧
    body = 1 :: (length ++ value)

/-- The flag is 0 or 1, and nothing follows the flag 0 or the value. -/
def Framed : Bytes → Prop
  | [] => True
  | flag :: rest =>
    flag = 0 ∧ rest = [] ∨ flag = 1 ∧ rest.length ≤ 4 + BigEndian.decode (rest.take 4)

theorem encodes_cons_iff {value rest : Bytes} : Encodes value (1 :: rest) ↔
      4 + BigEndian.decode (rest.take 4) = rest.length ∧ value = rest.drop 4 := by
  constructor
  · rintro ⟨length, four, field, same⟩
    cases same
    simp [List.take_left' four, List.drop_left' four, field, four]
  · rintro ⟨long, rfl⟩
    refine ⟨rest.take 4, ?_, ?_, ?_⟩
    · rw [List.length_take]
      omega
    · rw [List.length_drop]
      omega
    · rw [List.take_append_drop]

/-- What `Get` returns with this body of its last attempt is what the body says,
and an error if it says nothing. -/
structure ReadStrictly (retried : List (Option Bytes)) (body : Bytes) : Prop where
  notFound : get (retried ++ [some body]) = some ⟨none, false⟩ ↔ body = [0]
  found : ∀ value, get (retried ++ [some body]) = some ⟨some value, true⟩ ↔ Encodes value body
  failed : get (retried ++ [some body]) = none ↔ body ≠ [0] ∧ ∀ value, ¬ Encodes value body

theorem get_concat (retried : List (Option Bytes)) (body : Bytes) :
    ∃ last : Found, get (retried ++ [some body]) =
      if (last.read body).1 then some (last.read body).2 else none := by
  refine ⟨(retried.foldl Found.attempt (false, ⟨none, false⟩)).2, ?_⟩
  simp only [get, List.foldl_concat, Found.attempt, Option.elim_some]

theorem read_value {rest : Bytes} (last : Found)
    (long : 4 + BigEndian.decode (rest.take 4) ≤ rest.length) : last.read (1 :: rest) =
      (true, ⟨some ((rest.drop 4).take (BigEndian.decode (rest.take 4))), true⟩) := by
  rw [Found.read, if_neg (by decide), if_neg (by omega)]
  simp only [if_neg (Nat.not_lt.mpr long)]

theorem readStrictly_of_framed (retried : List (Option Bytes)) {body : Bytes}
    (framed : Framed body) : ReadStrictly retried body := by
  obtain ⟨last, outcome⟩ := get_concat retried body
  cases body with
  | nil => constructor <;> simp [outcome, Found.read, Encodes]
  | cons flag rest =>
    rcases framed with ⟨rfl, rfl⟩ | ⟨rfl, short⟩
    · constructor <;> simp [outcome, Found.read, Encodes]
    · by_cases long : rest.length < 4 + BigEndian.decode (rest.take 4)
      · have truncated := Nat.ne_of_gt long
        by_cases unsized : rest.length < 4 <;> constructor <;>
          simp [outcome, encodes_cons_iff, Found.read, unsized, long, truncated]
      · have whole : (rest.drop 4).take (BigEndian.decode (rest.take 4)) = rest.drop 4 :=
          List.take_of_length_le (by rw [List.length_drop]; omega)
        have ran := read_value last (Nat.not_lt.mp long)
        rw [whole] at ran
        constructor <;> simp [outcome, encodes_cons_iff, ran,
          Nat.le_antisymm (Nat.not_lt.mp long) short, eq_comm]

theorem framed_of_readStrictly {retried : List (Option Bytes)} {body : Bytes}
    (strict : ReadStrictly retried body) : Framed body := by
  obtain ⟨last, outcome⟩ := get_concat retried body
  cases body with
  | nil => trivial
  | cons flag rest =>
    by_cases one : flag = 1
    · subst one
      refine .inr ⟨rfl, ?_⟩
      by_contra longer
      have long : 4 + BigEndian.decode (rest.take 4) ≤ rest.length := by omega
      rw [read_value last long] at outcome
      have encodes := (strict.found _).mp outcome
      rw [encodes_cons_iff] at encodes
      omega
    · have notFound : last.read (flag :: rest) = (true, ⟨none, false⟩) := by
        rw [Found.read, if_pos one]
      rw [notFound] at outcome
      cases strict.notFound.mp outcome
      exact .inl ⟨rfl, rfl⟩

/-- Whatever the retried attempts have left behind, a body is read strictly just
if it is framed. -/
theorem get_is_strict (retried : List (Option Bytes)) (body : Bytes) :
    ReadStrictly retried body ↔ Framed body :=
  ⟨framed_of_readStrictly, readStrictly_of_framed retried⟩

/-- Another flag is read as not found, and bytes behind the value are ignored. -/
theorem corrupt_bodies_are_read : get [some [2]] = some ⟨none, false⟩ ∧
      get [some [1, 0, 0, 0, 0, 9]] = some ⟨some [], true⟩ ∧
      ¬ Encodes [] [1, 0, 0, 0, 0, 9] := by
  refine ⟨by decide, by decide, ?_⟩
  rw [encodes_cons_iff]
  decide

end FitzGo.Domains.KvTransactions
