import FitzGo.Connection.StandardResponse
import FitzGo.Library.StepMachine
import Mathlib.Logic.Function.Basic

/-!
# Settling a queue item

`Complete`, `CompleteWithToken` and `Nack` swap the state of the item from 0 to
1 before they send, store 2 after a success, and swap 1 back to 0 in a deferred
call, before they end their span and return. `Extend` only reads the state.
Any number of calls may run at once.
-/

namespace FitzGo.Domains.QueueItems

open Connection (ResponseError parseStandardResponse)
open StepMachine

/-- `Complete` passes the token of the item. -/
inductive Settling
  | complete
  | completeWithToken (token : UInt64)
  | nack (visibilitySeconds : UInt64)
  deriving DecidableEq

inductive Call
  | settle (settling : Settling)
  | extend (leaseSecs : UInt64)
  deriving DecidableEq

inductive CallError
  | deadHandle
  | nackNotNegotiated
  | staleHandle
  | requestFailed
  | response (error : ResponseError)
  | trailingBytes
  | unexpectedStatus
  deriving DecidableEq

def parseQueueAcknowledgementResponse (payload : Bytes) : Except CallError Bool :=
  match parseStandardResponse payload with
  | .error error => .error (.response error)
  | .ok (success, remaining) =>
    if success ∧ remaining ≠ [] then .error .trailingBytes else .ok success

inductive ItemState
  | free
  | settling
  | settled
  deriving DecidableEq

/-- Where a call is: before a section, each with at most one access to `state`,
or before or after all of them. A call that is `returning` has made its deferred
swap. -/
inductive Phase
  | idle
  | checking (call : Call)
  | loading (leaseSecs : UInt64)
  | extending (leaseSecs : UInt64)
  | swapping (settling : Settling)
  | waiting (settling : Settling)
  | leaving (settling : Settling) (error : Option CallError)
  | returning (settling : Settling) (error : Option CallError)
  | returned (call : Call) (error : Option CallError)
  deriving DecidableEq

/-- What the connection answers: to `CheckLiveHandle`, to `SupportsCapability`,
and to a request, which fails if there is no response. -/
structure Choice where
  live : Bool := true
  supportsNack : Bool := true
  response : Option Bytes := some [0]

def acknowledgement (response : Option Bytes) : Option CallError :=
  match response.map parseQueueAcknowledgementResponse with
  | none => some .requestFailed
  | some (.error error) => some error
  | some (.ok false) => some .unexpectedStatus
  | some (.ok true) => none

/-- One section of a call. -/
def perform (state : ItemState) (choice : Choice) : Phase → ItemState × Phase
  | .checking call =>
    if ¬ choice.live then (state, .returned call (some .deadHandle))
    else
      match call with
      | .extend leaseSecs => (state, .loading leaseSecs)
      | .settle (.nack seconds) =>
        if choice.supportsNack then (state, .swapping (.nack seconds))
        else (state, .returned call (some .nackNotNegotiated))
      | .settle settling => (state, .swapping settling)
  | .loading leaseSecs =>
    if state ≠ .free then (state, .returned (.extend leaseSecs) (some .staleHandle))
    else (state, .extending leaseSecs)
  | .extending leaseSecs => (state, .returned (.extend leaseSecs) (acknowledgement choice.response))
  | .swapping settling =>
    if state = .free then (.settling, .waiting settling)
    else (state, .returned (.settle settling) (some .staleHandle))
  | .waiting settling =>
    (if acknowledgement choice.response = none then .settled else state,
      .leaving settling (acknowledgement choice.response))
  | .leaving settling error =>
    (if state = .settling then .free else state, .returning settling error)
  | .returning settling error => (state, .returned (.settle settling) error)
  | phase => (state, phase)

def sends (state : ItemState) : Phase → Option Call
  | .loading leaseSecs => if state = .free then some (.extend leaseSecs) else none
  | .swapping settling => if state = .free then some (.settle settling) else none
  | _ => none

/-- The state of the item, its calls, and the requests in the order in which
they were sent. -/
structure State where
  state : ItemState
  calls : Nat → Phase
  sent : List (Nat × Call)

def initial : State where
  state := .free
  calls := fun _ => .idle
  sent := []

inductive Event
  | start (number : Nat) (call : Call)
  | advance (number : Nat) (choice : Choice)

def step (state : State) : Event → Option State
  | .start number call =>
    match state.calls number with
    | .idle => some { state with calls := Function.update state.calls number (.checking call) }
    | _ => none
  | .advance number choice =>
    match state.calls number with
    | .idle | .returned _ _ => none
    | phase =>
      some
        { state := (perform state.state choice phase).1
          calls := Function.update state.calls number (perform state.state choice phase).2
          sent := state.sent ++ (sends state.state phase).toList.map (number, ·) }

/-! ## Who holds the item -/

/-- The state of the item that goes with a settling call after its swap; for a
call that succeeded this is so for good. -/
def Phase.claims : Phase → Option ItemState
  | .waiting _ => some .settling
  | .leaving _ error => some (if error = none then .settled else .settling)
  | .returning _ none | .returned (.settle _) none => some .settled
  | _ => none

def Phase.early : Phase → Bool
  | .idle | .checking _ | .loading _ | .swapping _ => true
  | _ => false

/-- A settling call is between its decision to send and its return. -/
def Phase.outstanding : Phase → Bool
  | .waiting _ | .leaving _ _ | .returning _ _ => true
  | _ => false

/-- A settling call has decided to send and has not given the item back. One
that succeeds never does. -/
def Held (state : State) (number : Nat) : Prop :=
  (state.calls number).claims ≠ none

/-- The sections that are left to a call that is refused. -/
def Phase.left : Phase → Nat
  | .idle | .checking _ => 2
  | .loading _ | .swapping _ => 1
  | _ => 0

def Event.advances (number : Nat) : Event → Bool
  | .start _ _ => false
  | .advance other _ => other = number

theorem Phase.claims_ne_free (phase : Phase) : phase.claims ≠ some .free := by
  fun_cases Phase.claims <;> grind

/-- What a section does to the state of the item and to the claim of its call. -/
inductive Effect (state : ItemState) : Option ItemState → ItemState → Option ItemState → Prop
  | quiet : Effect state none state none
  | take (free : state = .free) : Effect state none .settling (some .settling)
  | keep (after : ItemState) : Effect state (some state) after (some after)
  | release : Effect state (some state) .free none

variable {state : ItemState} {phase : Phase} {number : Nat}

private theorem perform_effect (choice : Choice)
    (agrees : ∀ claimed, phase.claims = some claimed → claimed = state) :
    Effect state phase.claims (perform state choice phase).1
      (perform state choice phase).2.claims := by
  cases phase with
  | idle | extending leaseSecs => exact .quiet
  | checking call =>
    simp only [perform]
    split
    · cases call <;> exact .quiet
    · repeat' split
      all_goals exact .quiet
  | loading leaseSecs =>
    simp only [perform]
    split <;> exact .quiet
  | swapping settling =>
    simp only [perform]
    split
    next free => exact .take free
    · exact .quiet
  | waiting settling =>
    cases agrees _ rfl
    exact .keep _
  | leaving settling error =>
    cases agrees _ rfl
    cases error with
    | none => exact .keep _
    | some error => exact .release
  | returning settling error =>
    cases error with
    | none =>
      cases agrees _ rfl
      exact .keep _
    | some error => exact .quiet
  | returned call error =>
    cases claimed : (Phase.returned call error).claims with
    | none =>
      simp only [perform, claimed]
      exact .quiet
    | some claim =>
      cases agrees _ claimed
      simp only [perform, claimed]
      exact .keep _

/-- A claim is on the present state and there is at most one, and one if the
item is not free. Whoever has sent is past its request. -/
structure Inv (state : State) : Prop where
  agrees : ∀ number claimed, (state.calls number).claims = some claimed → claimed = state.state
  alone : ∀ first second, (state.calls first).claims ≠ none →
    (state.calls second).claims ≠ none → first = second
  held : state.state ≠ .free → ∃ number, (state.calls number).claims ≠ none
  sent : ∀ entry ∈ state.sent, (state.calls entry.1).early = false

variable {before : State}

theorem Inv.unclaimed (inv : Inv before) (free : before.state = .free)
    (number : Nat) : (before.calls number).claims = none := by
  by_contra holds
  obtain ⟨claim, here⟩ := Option.ne_none_iff_exists'.mp holds
  rw [inv.agrees number claim here, free] at here
  exact Phase.claims_ne_free _ here

theorem Inv.update (inv : Inv before) {after : ItemState}
    (effect : Effect before.state (before.calls number).claims after phase.claims)
    {sent : List (Nat × Call)}
    (past : ∀ entry ∈ sent, (Function.update before.calls number phase entry.1).early = false) :
    Inv ⟨after, Function.update before.calls number phase, sent⟩ := by
  have unclaimed := inv.unclaimed
  obtain ⟨agrees, alone, held, -⟩ := inv
  generalize was : (before.calls number).claims = claim at effect
  generalize is : phase.claims = claim' at effect
  cases effect with
  | quiet =>
    refine ⟨?_, ?_, fun busy => ?_, past⟩
    · grind [Function.update_apply]
    · grind [Function.update_apply]
    · obtain ⟨owner, here⟩ := held busy
      exact ⟨owner, by grind [Function.update_apply]⟩
  | take free | keep after =>
    refine ⟨?_, ?_, fun _ => ⟨number, ?_⟩, past⟩ <;> grind [Function.update_apply]
  | release => refine ⟨?_, ?_, fun busy => absurd rfl busy, past⟩ <;> grind [Function.update_apply]

private theorem perform_early {choice : Choice} {call : Call}
    (past : phase.early = false ∨ sends state phase = some call) :
    (perform state choice phase).2.early = false := by
  fun_cases perform state choice phase <;> grind [Phase.early, sends]

theorem Inv.step {following : State} {event : Event} (inv : Inv before)
    (stepped : step before event = some following) : Inv following := by
  cases event with
  | start number call =>
    simp only [QueueItems.step] at stepped
    split at stepped <;> cases stepped
    next idle =>
      refine inv.update ?_ ?_
      · rw [idle]
        exact .quiet
      · have sent := inv.sent
        grind [Function.update_apply, Phase.early]
  | advance number choice =>
    simp only [QueueItems.step] at stepped
    split at stepped <;> cases stepped
    refine inv.update (perform_effect choice (inv.agrees number)) fun entry member => ?_
    have sent := inv.sent
    grind [Function.update_apply, perform_early]

theorem inv_initial : Inv initial where
  agrees := nofun
  alone := fun _ _ held => absurd rfl held
  held := fun busy => absurd rfl busy
  sent := nofun

/-- A call on an item that is settled gets no further than a refusal. -/
structure Late (number : Nat) (state : State) : Prop where
  settled : state.state = .settled
  refused : (state.calls number).early = true ∨
    ∃ call error, state.calls number = .returned call (some error)
  unsent : ∀ entry ∈ state.sent, entry.1 ≠ number

private theorem perform_settled (choice : Choice) (phase : Phase) :
    (perform .settled choice phase).1 = .settled ∧ sends .settled phase = none ∧
      (phase.early = true → (perform .settled choice phase).2.early = true ∨
      ∃ call error, (perform .settled choice phase).2 = .returned call (some error)) := by
  fun_cases perform .settled choice phase <;> grind [Phase.early, sends]

theorem left_perform (choice : Choice) (early : phase.early = true) (started : phase ≠ .idle) :
    (perform .settled choice phase).2.left + 1 ≤ phase.left := by
  fun_cases perform .settled choice phase <;> grind [Phase.early, Phase.left]

theorem Late.step {following : State} {event : Event} (late : Late number before)
    (stepped : step before event = some following) :
    Late number following ∧ (following.calls number).left +
      (if event.advances number then 1 else 0) ≤ (before.calls number).left := by
  obtain ⟨settled, refused, unsent⟩ := late
  cases event with
  | start other call =>
    simp only [QueueItems.step] at stepped
    split at stepped <;> cases stepped
    refine ⟨⟨settled, ?_, unsent⟩, ?_⟩
    · grind [Function.update_apply, Phase.early]
    · grind [Function.update_apply, Phase.left, Event.advances]
  | advance other choice =>
    simp only [QueueItems.step] at stepped
    split at stepped <;> cases stepped
    next started running =>
      obtain ⟨stays, silent, refuses⟩ := perform_settled choice (before.calls other)
      rw [settled, silent]
      refine ⟨⟨stays, ?_, by simpa using unsent⟩, ?_⟩
      · grind [Function.update_apply]
      · have lower : (before.calls other).early = true → before.calls other ≠ .idle →
            (perform .settled choice (before.calls other)).2.left + 1 ≤
              (before.calls other).left := left_perform choice
        grind [Function.update_apply, Event.advances]

/-- Along the events the call sends nothing. If it has started it has returned
an error, or it has run only one of its two sections and can run the next,
whatever the others do. -/
structure Refused (events : List Event) (state : State) (number : Nat) : Prop where
  unsent : ∀ entry ∈ state.sent, entry.1 ≠ number
  returns : state.calls number = .idle ∨
    (∃ call error, state.calls number = .returned call (some error)) ∨
    events.countP (Event.advances number) < 2 ∧
      ∀ choice, (step state (.advance number choice)).isSome = true

theorem Late.refused_of_run {after : State} {events : List Event}
    (late : Late number before) (ran : run QueueItems.step before events = some after) :
    Refused events after number := by
  have ends := invariant_of_run (Late number) (fun late stepped => (late.step stepped).1) late ran
  have bound := countP_add_le_of_run (Late number) (fun state => (state.calls number).left)
    (Event.advances number) Late.step late ran
  have two : (before.calls number).left ≤ 2 := by
    cases before.calls number <;> simp [Phase.left]
  refine ⟨ends.unsent, ?_⟩
  rcases ends.refused with early | returned
  · cases phase : after.calls number with
    | idle => exact .inl rfl
    | checking | loading | swapping =>
      rw [phase, Phase.left] at bound
      refine .inr (.inr ⟨by omega, fun choice => ?_⟩)
      simp [QueueItems.step, phase]
    | _ => simp [phase, Phase.early] at early
  · exact .inr (.inl returned)

/-- No two settling calls hold the item. A call that starts after one has
succeeded sends nothing and returns an error. An `Extend` that reads the state
while the item is held is refused and has sent nothing. An item that nobody
holds lets the next settling call send. -/
theorem queue_items_are_settled_once {events : List Event} {final : State}
    (ran : run step initial events = some final) :
    (∀ first second, Held final first → Held final second → first = second) ∧
      (∀ number settling, final.calls number = .returned (.settle settling) none →
      ∀ late, final.calls late = .idle → ∀ more after, run step final more = some after →
      Refused more after late) ∧
      (∀ number, Held final number → ∀ other leaseSecs choice after,
      final.calls other = .loading leaseSecs → step final (.advance other choice) = some after →
      after.calls other = .returned (.extend leaseSecs) (some .staleHandle) ∧
      ∀ entry ∈ after.sent, entry.1 ≠ other) ∧
      ((∀ number, ¬ Held final number) → ∀ other settling choice,
      final.calls other = .swapping settling →
      ∃ after, step final (.advance other choice) = some after ∧
      after.calls other = .waiting settling ∧
      after.sent = final.sent ++ [(other, .settle settling)]) := by
  have inv := invariant_of_run Inv Inv.step inv_initial ran
  have unsent : ∀ number, (final.calls number).early = true →
      ∀ entry ∈ final.sent, entry.1 ≠ number := by
    rintro number early entry member rfl
    rw [inv.sent entry member] at early
    cases early
  refine ⟨inv.alone, ?_, ?_, ?_⟩
  · intro number settling succeeded late idle more after later
    have claims : (final.calls number).claims = some .settled := by
      rw [succeeded]
      rfl
    have start : Late late final := ⟨(inv.agrees number _ claims).symm, Or.inl (by rw [idle]; rfl),
        unsent late (by rw [idle]; rfl)⟩
    exact start.refused_of_run later
  · intro number held other leaseSecs choice after loading stepped
    have busy : final.state ≠ .free := fun free => held (inv.unclaimed free number)
    simp only [step, loading, perform, sends, if_pos busy, if_neg busy] at stepped
    cases stepped
    exact ⟨Function.update_self .., by simpa using unsent other (by rw [loading]; rfl)⟩
  · intro unheld other settling choice swapping
    have free : final.state = .free := by_contra fun busy => (inv.held busy).elim unheld
    refine ⟨_, by simp only [step, swapping, perform, sends, if_pos free]; rfl, ?_⟩
    exact ⟨Function.update_self .., rfl⟩

/-- The first call fails and gives the item back, and the second sends. -/
def overlappingRun : List Event :=
  [.start 0 (.settle .complete), .start 1 (.settle .complete), .advance 0 {},
    .advance 0 {}, .advance 0 { response := some [0, 9] }, .advance 0 {},
    .advance 1 {}, .advance 1 {}]

theorem retriedRun_is_settled_once : ∃ final, run step initial
        (overlappingRun ++ [.advance 0 {}, .advance 1 {}, .advance 1 {}, .advance 1 {}]) =
        some final ∧
      final.calls 0 = .returned (.settle .complete) (some .trailingBytes) ∧
      ∃ after, run step final [.start 2 (.settle (.nack 5)), .advance 2 {}, .advance 2 {}] =
      some after ∧
      Refused [.start 2 (.settle (.nack 5)), .advance 2 {}, .advance 2 {}] after 2 := by
  obtain ⟨final, ran, failed, succeeded, idle, after, later, -⟩ : ∃ final, run step initial
        (overlappingRun ++ [.advance 0 {}, .advance 1 {}, .advance 1 {}, .advance 1 {}]) =
        some final ∧
        final.calls 0 = .returned (.settle .complete) (some .trailingBytes) ∧
        final.calls 1 = .returned (.settle .complete) none ∧ final.calls 2 = .idle ∧
        ∃ after, run step final [.start 2 (.settle (.nack 5)), .advance 2 {},
          .advance 2 {}] = some after ∧ True := by
    decide +kernel
  obtain ⟨-, late, -⟩ := queue_items_are_settled_once ran
  exact ⟨final, ran, failed, after, later, late 1 _ succeeded 2 idle _ _ later⟩

/-- The first call has not returned when the second sends. -/
theorem two_calls_are_outstanding : ∃ final, run step initial overlappingRun = some final ∧
      (final.calls 0).outstanding = true ∧ (final.calls 1).outstanding = true := by
  decide +kernel

end FitzGo.Domains.QueueItems
