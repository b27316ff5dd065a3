import Mathlib.Logic.Function.Basic
import FitzGo.Library.StepMachine

/-!
# The completion of a registration

`Complete` sends its argument on a channel of capacity one and closes it, inside
a `sync.Once`. The send does not block, and neither it nor the close panics.
-/

namespace FitzGo.Subscriptions.Completion

open StepMachine

inductive Once
  | fresh
  | running (call : Nat)
  | finished
  deriving DecidableEq

/-- A call of `Complete`: not yet made, made with its argument, inside the
function of the `Once` before the send, before the close and after it,
returned. -/
inductive Caller (V : Type) where
  | idle
  | called (err : V)
  | sending (err : V)
  | closing
  | leaving
  | returned
  deriving DecidableEq

def Caller.inside {V : Type} : Caller V → Bool
  | .sending _ | .closing | .leaving => true
  | .idle | .called _ | .returned => false

/-- `received` is what the receivers got, in order: a value, or `none` from the
closed channel. `first` is the argument of the call that entered first. -/
structure State (V : Type) where
  once : Once
  buffer : List V
  closed : Bool
  callers : Nat → Caller V
  received : List (Option V)
  first : Option V

variable {V : Type}

def new : State V where
  once := .fresh
  buffer := []
  closed := false
  callers _ := .idle
  received := []
  first := none

inductive Event (V : Type) where
  | call (index : Nat) (err : V)
  | enter (index : Nat) (err : V)
  | send (index : Nat) (err : V)
  | close (index : Nat)
  | leave (index : Nat)
  | skip (index : Nat) (err : V)
  | receive

section Machine

variable [DecidableEq V]

def Enabled (state : State V) : Event V → Prop
  | .call index _ => state.callers index = .idle
  | .enter index err => state.callers index = .called err ∧ state.once = .fresh
  | .send index err => state.callers index = .sending err ∧ state.buffer.length < 1
  | .close index => state.callers index = .closing
  | .leave index => state.callers index = .leaving
  | .skip index err => state.callers index = .called err ∧ state.once = .finished
  | .receive => state.buffer ≠ [] ∨ state.closed = true

instance (state : State V) (event : Event V) : Decidable (Enabled state event) := by
  cases event <;> dsimp only [Enabled] <;> infer_instance

def State.setCaller (state : State V) (index : Nat) (caller : Caller V) : State V :=
  { state with callers := Function.update state.callers index caller }

def next (state : State V) : Event V → State V
  | .call index err => state.setCaller index (.called err)
  | .enter index err =>
    { state.setCaller index (.sending err) with
      once := .running index
      first := state.first.or (some err) }
  | .send index err => { state.setCaller index .closing with buffer := state.buffer ++ [err] }
  | .close index => { state.setCaller index .leaving with closed := true }
  | .leave index => { state.setCaller index .returned with once := .finished }
  | .skip index _ => state.setCaller index .returned
  | .receive =>
    match state.buffer with
    | err :: rest =>
      { state with
        buffer := rest
        received := state.received ++ [some err] }
    | [] => { state with received := state.received ++ [none] }

def step : State V → Event V → Option (State V) :=
  guarded Enabled next

end Machine

/-- The value is still in the channel, or the receivers got it first and the
closed channel afterwards. -/
def State.Holds (state : State V) (value : V) : Prop :=
  (state.buffer = [value] ∧ state.received = []) ∨
    (state.buffer = [] ∧ ∃ count, state.received = some value :: List.replicate count none)

/-- The channel yields one value, the argument of the first call, and is closed
after it; nobody blocks in the send or panics, and once a call has returned the
value and the close are there. -/
structure YieldsOnce (state : State V) : Prop where
  received : state.received = [] ∨ ∃ value count, state.first = some value ∧
    state.received = some value :: List.replicate count none
  returned : ∀ index, state.callers index = .returned → ∃ value,
    state.first = some value ∧ state.closed = true ∧ state.Holds value
  sends : ∀ index err, state.callers index = .sending err → state.buffer = [] ∧ state.closed = false
  closes : ∀ index, state.callers index = .closing → state.closed = false

/-- How far the function of the `Once` has come with its value. -/
def State.Reached (state : State V) (value : V) : Caller V → Prop
  | .sending err => err = value ∧ state.buffer = [] ∧ state.closed = false ∧ state.received = []
  | .closing => state.closed = false ∧ state.Holds value
  | .leaving => state.closed = true ∧ state.Holds value
  | .idle | .called _ | .returned => False

/-- The state of the channel, by the state of the `Once`. -/
def State.Channel (state : State V) : Once → Prop
  | .fresh => state.first = none ∧ state.buffer = [] ∧ state.closed = false ∧ state.received = []
  | .running call => ∃ value, state.first = some value ∧ state.Reached value (state.callers call)
  | .finished => ∃ value, state.first = some value ∧ state.closed = true ∧ state.Holds value

structure Inv (state : State V) : Prop where
  channel : state.Channel state.once
  inside : ∀ index, (state.callers index).inside = true → state.once = .running index
  returned : ∀ index, state.callers index = .returned → state.once = .finished

private theorem new_inv : Inv (new : State V) where
  channel := ⟨rfl, rfl, rfl, rfl⟩
  inside index impossible := by simp [new, Caller.inside] at impossible
  returned index impossible := by simp [new] at impossible

section Steps

variable {state : State V} {index : Nat}

@[simp]
theorem callers_setCaller_self (caller : Caller V) :
    (state.setCaller index caller).callers index = caller := by
  simp [State.setCaller]

theorem callers_setCaller_of_ne {other : Nat} (caller : Caller V) (different : other ≠ index) :
    (state.setCaller index caller).callers other = state.callers other := by
  simp [State.setCaller, different]

variable {caller : Caller V}

theorem reached_cases {value : V} (reached : state.Reached value caller) :
    (caller = .sending value ∧ state.buffer = [] ∧ state.closed = false ∧ state.received = []) ∨
      (caller = .closing ∧ state.closed = false ∧ state.Holds value) ∨
      (caller = .leaving ∧ state.closed = true ∧ state.Holds value) := by
  cases caller with
  | sending err =>
    obtain ⟨rfl, rest⟩ := reached
    exact Or.inl ⟨rfl, rest⟩
  | closing => exact Or.inr (Or.inl ⟨rfl, reached⟩)
  | leaving => exact Or.inr (Or.inr ⟨rfl, reached⟩)
  | _ => exact reached.elim

section

variable (inv : Inv state)
include inv

theorem Inv.setOutside (wasOutside : (state.callers index).inside = false)
    (outside : caller.inside = false) (returned : caller = .returned → state.once = .finished) :
    Inv (state.setCaller index caller) where
  channel := by
    change State.Channel _ state.once
    have channel := inv.channel
    cases once : state.once with
    | running call =>
      rw [once] at channel
      obtain ⟨value, first, reached⟩ := channel
      refine ⟨value, first, ?_⟩
      -- the call that is inside is not the one that moves
      have different : call ≠ index := by
        intro same
        rw [same] at reached
        rcases reached_cases reached with
          ⟨phase, _⟩ | ⟨phase, _⟩ | ⟨phase, _⟩
        all_goals
          rw [phase] at wasOutside
          cases wasOutside
      rw [callers_setCaller_of_ne caller different]
      exact reached
    | _ =>
      rw [once] at channel
      exact channel
  inside other nowInside := by
    by_cases same : other = index
    · rw [same, callers_setCaller_self, outside] at nowInside
      cases nowInside
    · rw [callers_setCaller_of_ne caller same] at nowInside
      exact inv.inside other nowInside
  returned other nowReturned := by
    by_cases same : other = index
    · rw [same, callers_setCaller_self] at nowReturned
      exact returned nowReturned
    · rw [callers_setCaller_of_ne caller same] at nowReturned
      exact inv.returned other nowReturned

theorem Inv.setInside {after : State V}
    (inside : (state.callers index).inside = true)
    (callers : after.callers = Function.update state.callers index caller)
    (once : caller.inside = true → after.once = state.once)
    (finished : caller = .returned → after.once = .finished)
    (channel : after.Channel after.once) : Inv after := by
  have running := inv.inside index inside
  refine ⟨channel, fun other nowInside => ?_, fun other nowReturned => ?_⟩
  · by_cases same : other = index
    · subst same
      rw [callers, Function.update_self] at nowInside
      exact (once nowInside).trans running
    · rw [callers, Function.update_of_ne same] at nowInside
      have also := inv.inside other nowInside
      rw [running] at also
      cases also
      exact absurd rfl same
  · by_cases same : other = index
    · rw [callers, same, Function.update_self] at nowReturned
      exact finished nowReturned
    · rw [callers, Function.update_of_ne same] at nowReturned
      have also := inv.returned other nowReturned
      rw [running] at also
      cases also

theorem Inv.reached (inside : (state.callers index).inside = true) :
    ∃ value, state.first = some value ∧ state.Reached value (state.callers index) := by
  have channel := inv.channel
  rw [inv.inside index inside] at channel
  exact channel

theorem Inv.enter {err : V} (fresh : state.once = .fresh) :
    Inv (next state (.enter index err)) := by
  have channel := inv.channel
  rw [fresh] at channel
  obtain ⟨first, buffer, closed, received⟩ := channel
  refine ⟨⟨err, ?_, ?_⟩, fun other nowInside => ?_, fun other nowReturned => ?_⟩
  · simp [next, first]
  · have moved : (next state (.enter index err)).callers index = .sending err := by
      simp [next, State.setCaller]
    rw [moved]
    exact ⟨rfl, buffer, closed, received⟩
  · by_cases same : other = index
    · rw [same]
      simp [next]
    · have before : (state.callers other).inside = true := by
        simpa [next, State.setCaller, same] using nowInside
      have also := inv.inside other before
      rw [fresh] at also
      cases also
  · by_cases same : other = index
    · simp [next, State.setCaller, same] at nowReturned
    · have before : state.callers other = .returned := by
        simpa [next, State.setCaller, same] using nowReturned
      have also := inv.returned other before
      rw [fresh] at also
      cases also

theorem Inv.send {err : V} (sending : state.callers index = .sending err) :
    Inv (next state (.send index err)) := by
  have inside : (state.callers index).inside = true := by
    rw [sending]
    rfl
  obtain ⟨value, first, reached⟩ := inv.reached inside
  rw [sending] at reached
  obtain ⟨rfl, buffer, closed, received⟩ := reached
  refine inv.setInside inside rfl (fun _ => rfl) nofun ?_
  change State.Channel _ state.once
  rw [inv.inside index inside]
  refine ⟨err, first, ?_⟩
  have moved : (next state (.send index err)).callers index = .closing := by
    simp [next, State.setCaller]
  rw [moved]
  exact ⟨closed, Or.inl ⟨by simp [next, buffer], received⟩⟩

theorem Inv.close (closing : state.callers index = .closing) :
    Inv (next state (.close index)) := by
  have inside : (state.callers index).inside = true := by
    rw [closing]
    rfl
  obtain ⟨value, first, reached⟩ := inv.reached inside
  rw [closing] at reached
  refine inv.setInside inside rfl (fun _ => rfl) nofun ?_
  change State.Channel _ state.once
  rw [inv.inside index inside]
  refine ⟨value, first, ?_⟩
  have moved : (next state (.close index)).callers index = .leaving := by
    simp [next, State.setCaller]
  rw [moved]
  exact ⟨rfl, reached.2⟩

theorem Inv.leave (leaving : state.callers index = .leaving) :
    Inv (next state (.leave index)) := by
  have inside : (state.callers index).inside = true := by
    rw [leaving]
    rfl
  obtain ⟨value, first, reached⟩ := inv.reached inside
  rw [leaving] at reached
  refine inv.setInside inside rfl (fun impossible => ?_) (fun _ => rfl) ?_
  · cases impossible
  · exact ⟨value, first, reached⟩

end

private theorem holds_receive {value : V} (holds : state.Holds value) :
    (next state .receive).Holds value := by
  rcases holds with ⟨buffer, received⟩ | ⟨buffer, count, received⟩
  · right
    refine ⟨by simp [next, buffer], 0, ?_⟩
    simp [next, buffer, received]
  · right
    refine ⟨by simp [next, buffer], count + 1, ?_⟩
    simp [next, buffer, received, List.replicate_succ']

theorem Inv.receive (inv : Inv state) (ready : state.buffer ≠ [] ∨ state.closed = true) :
    Inv (next state .receive) := by
  have kept :
      (next state .receive).once = state.once ∧ (next state .receive).callers = state.callers ∧
        (next state .receive).first = state.first ∧
        (next state .receive).closed = state.closed := by
    cases buffer : state.buffer with
    | _ => simp [next, buffer]
  obtain ⟨once, callers, first, closed⟩ := kept
  have channel := inv.channel
  refine ⟨?_, by rw [once, callers]; exact inv.inside, by rw [once, callers]; exact inv.returned⟩
  rw [once]
  cases here : state.once with
  | fresh =>
    rw [here] at channel
    obtain ⟨_, empty, notClosed, _⟩ := channel
    simp [empty, notClosed] at ready
  | finished =>
    rw [here] at channel
    obtain ⟨value, isFirst, isClosed, holds⟩ := channel
    exact ⟨value, first.trans isFirst, closed.trans isClosed, holds_receive holds⟩
  | running call =>
    rw [here] at channel
    obtain ⟨value, isFirst, reached⟩ := channel
    refine ⟨value, first.trans isFirst, ?_⟩
    rw [callers]
    rcases reached_cases reached with
      ⟨_, empty, notClosed, _⟩ | ⟨phase, notClosed, holds⟩ | ⟨phase, isClosed, holds⟩
    · simp [empty, notClosed] at ready
    · rw [phase]
      exact ⟨closed.trans notClosed, holds_receive holds⟩
    · rw [phase]
      exact ⟨closed.trans isClosed, holds_receive holds⟩

theorem step_inv [DecidableEq V] {after : State V} {event : Event V}
    (inv : Inv state) (stepped : step state event = some after) : Inv after := by
  obtain ⟨enabled, rfl⟩ := guarded_eq_some_iff.mp stepped
  cases event with
  | call index err =>
    have outside : (state.callers index).inside = false := by
      rw [enabled]
      rfl
    exact inv.setOutside outside rfl nofun
  | enter index err => exact inv.enter enabled.2
  | send index err => exact inv.send enabled.1
  | close index => exact inv.close enabled
  | leave index => exact inv.leave enabled
  | skip index err =>
    have outside : (state.callers index).inside = false := by
      rw [enabled.1]
      rfl
    exact inv.setOutside outside rfl (fun _ => enabled.2)
  | receive => exact inv.receive enabled

theorem Inv.yieldsOnce (inv : Inv state) : YieldsOnce state where
  received := by
    have channel := inv.channel
    have ofHolds : ∀ value, state.first = some value → state.Holds value →
        state.received = [] ∨
          ∃ value count, state.first = some value ∧
              state.received = some value :: List.replicate count none := by
      intro value first holds
      rcases holds with ⟨_, received⟩ | ⟨_, count, received⟩
      · exact Or.inl received
      · exact Or.inr ⟨value, count, first, received⟩
    cases here : state.once with
    | fresh =>
      rw [here] at channel
      exact Or.inl channel.2.2.2
    | finished =>
      rw [here] at channel
      obtain ⟨value, first, _, holds⟩ := channel
      exact ofHolds value first holds
    | running call =>
      rw [here] at channel
      obtain ⟨value, first, reached⟩ := channel
      rcases reached_cases reached with
        ⟨_, _, _, received⟩ | ⟨_, _, holds⟩ | ⟨_, _, holds⟩
      · exact Or.inl received
      · exact ofHolds value first holds
      · exact ofHolds value first holds
  returned index here := by
    have channel := inv.channel
    rw [inv.returned index here] at channel
    exact channel
  sends index err here := by
    have inside : (state.callers index).inside = true := by
      rw [here]
      rfl
    obtain ⟨value, _, reached⟩ := inv.reached inside
    rw [here] at reached
    exact ⟨reached.2.1, reached.2.2.1⟩
  closes index here := by
    have inside : (state.callers index).inside = true := by
      rw [here]
      rfl
    obtain ⟨value, _, reached⟩ := inv.reached inside
    rw [here] at reached
    exact reached.1

end Steps

section Runs

variable [DecidableEq V] {events : List (Event V)} {final : State V}
variable (ran : run step new events = some final)
include ran

theorem yieldsOnce_of_run : YieldsOnce final :=
  (invariant_of_run Inv step_inv new_inv ran).yieldsOnce

/-- Nothing happens before the first call of `Complete`. -/
theorem eq_new_of_run (uncalled : ∀ index err, .call index err ∉ events) : final = new := by
  cases events with
  | nil =>
    cases ran
    rfl
  | cons event rest =>
    obtain ⟨_, stepped, _⟩ := run_cons_eq_some ran
    have enabled := (guarded_eq_some_iff.mp stepped).1
    cases event with
    | call index err => exact absurd List.mem_cons_self (uncalled index err)
    | _ => simp [Enabled, new] at enabled

end Runs

end FitzGo.Subscriptions.Completion
