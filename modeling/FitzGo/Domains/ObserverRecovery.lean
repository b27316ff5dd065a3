import FitzGo.Library.Histories
import FitzGo.Library.Threads

/-!
# The recovery of an observer

`triggerBackgroundBootstrap` leaves its request in two flags, and starts a
goroutine unless `recoveryRunning` says that there is one. After a failed
bootstrap the goroutine puts the request back.

A goroutine is a thread of sections. Nothing in the machine keeps two of them
from running.
-/

namespace FitzGo.Domains.ObserverRecovery

open Histories StepMachine Threads

/-- Who holds `refreshMu`: a recovery, or a reconcile or `Observe`. -/
inductive Holder
  | recovery
  | other
  deriving DecidableEq

/-- What is recorded: a request that was left, the start and the success of a
bootstrap, that a goroutine stops, and the closing of the channel. -/
inductive Item
  | requested (number : Nat) (subscribe : Bool)
  | started (bootstrap : Nat) (subscribe : Bool)
  | succeeded (bootstrap : Nat)
  | stopped
  | closed
  deriving DecidableEq

structure Observer where
  closing : Bool
  closed : Bool
  cancelled : Bool
  recoveryRunning : Bool
  recoveryRequested : Bool
  recoveryNeedsSubscribe : Bool
  refresh : Option Holder
  bootstraps : Nat
  triggers : Nat
  history : List Item

def newObserver : Observer where
  closing := false
  closed := false
  cancelled := false
  recoveryRunning := false
  recoveryRequested := false
  recoveryNeedsSubscribe := false
  refresh := none
  bootstraps := 0
  triggers := 0
  history := []

/-- What a goroutine does next. The backoff after a failed bootstrap is time
before the next `select`. -/
inductive Action
  | select
  | consume
  | bootstrap (subscribe : Bool)
  | finish (number : Nat) (subscribe : Bool)
  | check (subscribe failed : Bool)
  | decide (subscribe failed : Bool)
  | stop

inductive Operation
  | trigger (subscribe : Bool)
  | takeRefresh
  | releaseRefresh
  | beginClose
  | close
  | cancel

namespace Observer

/-- The last section of `triggerBackgroundBootstrap`. -/
def trigger (observer : Observer) (subscribe : Bool) : Observer × List Action :=
  if observer.closing then (observer, [])
  else
    ({ observer with
        recoveryRequested := true
        recoveryNeedsSubscribe := observer.recoveryNeedsSubscribe || subscribe
        recoveryRunning := true
        triggers := observer.triggers + 1
        history := observer.history ++ [.requested observer.triggers subscribe] },
      if observer.recoveryRunning then [] else [.select])

def consume (observer : Observer) : Observer :=
  { observer with
    recoveryNeedsSubscribe := false
    recoveryRequested := false }

def bootstrap (observer : Observer) (subscribe : Bool) : Observer :=
  { observer with
    refresh := some .recovery
    bootstraps := observer.bootstraps + 1
    history := observer.history ++ [.started observer.bootstraps subscribe] }

def finish (observer : Observer) (number : Nat) (failed : Bool) : Observer :=
  { observer with
    refresh := none
    history := observer.history ++ if failed then [] else [.succeeded number] }

def leave (observer : Observer) : Observer :=
  { observer with
    recoveryRunning := false
    history := observer.history ++ [.stopped] }

def decide (observer : Observer) (subscribe failed : Bool) : Observer × List Action :=
  if failed then
    ({ observer with
        recoveryRequested := true
        recoveryNeedsSubscribe := observer.recoveryNeedsSubscribe || subscribe },
      [.select])
  else if observer.recoveryRequested then (observer, [.select])
  else (observer.leave, [])

end Observer

def perform (observer : Observer) (_ : Nat) (action : Action) (failed : Bool) :
    Option (Observer × List Action) :=
  match action with
  | .select => some (observer, if observer.closed then [.stop] else [.consume])
  | .consume => some (observer.consume, [.bootstrap observer.recoveryNeedsSubscribe])
  | .bootstrap subscribe =>
    if observer.refresh = none then
      some (observer.bootstrap subscribe, [.finish observer.bootstraps subscribe])
    else none
  | .finish number subscribe => some (observer.finish number failed, [.check subscribe failed])
  | .check subscribe outcome =>
    some (observer,
      if observer.cancelled then [.stop] else [.decide subscribe outcome])
  | .decide subscribe outcome => some (observer.decide subscribe outcome)
  | .stop => some (observer.leave, [])

def start (observer : Observer) : Operation → Option (Observer × List Action)
  | .trigger subscribe => some (observer.trigger subscribe)
  | .takeRefresh =>
    if observer.refresh = none then some ({ observer with refresh := some .other }, [])
    else none
  | .releaseRefresh =>
    if observer.refresh = some .other then some ({ observer with refresh := none }, [])
    else none
  | .beginClose => some ({ observer with closing := true }, [])
  | .close =>
    if observer.closing ∧ ¬ observer.closed then
      some ({ observer with
        closed := true
        history := observer.history ++ [.closed] }, [])
    else none
  | .cancel =>
    if observer.closed then some ({ observer with cancelled := true }, [])
    else none

def machine : Machine Observer Operation Action Bool where
  start := start
  perform := perform

abbrev State := System Observer Action

def initial : State := System.idle newObserver

/-! ## What is claimed -/

def Started (items : List Item) : Prop :=
  ∃ bootstrap subscribe, .started bootstrap subscribe ∈ items

/-- A bootstrap with `subscribe` was started since, and it has succeeded. -/
def Subscribed (items : List Item) : Prop :=
  ∃ bootstrap, .started bootstrap true ∈ items ∧ .succeeded bootstrap ∈ items

/-- A goroutine stops only when every request so far was followed by a
bootstrap, and every request for a new subscription by one that subscribed. -/
def Served (before : List Item) : Item → Prop
  | .stopped => .closed ∉ before → ∀ number subscribe,
      .requested number subscribe ∈ before →
      Started (since (.requested number subscribe) before) ∧
        (subscribe = true → Subscribed (since (.requested number subscribe) before))
  | .requested _ _ | .started _ _ | .succeeded _ | .closed => True

/-- With at most so many steps of its own, its bootstraps ending as given, the
goroutine starts a bootstrap, once whoever holds `refreshMu` lets it go. -/
def Reaches (state : State) (goroutine : Nat) (failed : Bool) (bound : Nat) : Prop :=
  ∃ events final more bootstrap subscribe, events.length ≤ bound ∧
      (∀ event ∈ events, event = .advance goroutine failed ∨ event = .start .releaseRefresh) ∧
      run machine.step state events = some final ∧
      final.shared.history = state.shared.history ++ (more ++ [.started bootstrap subscribe])

/-! ## The requests -/

section Requests

variable {observer after : Observer} {stage stage' : Option Action}
variable {items : List Item} {subscribe failed : Bool}

theorem Started.append (started : Started items) (more : List Item) : Started (items ++ more) := by
  obtain ⟨bootstrap, subscribe, listed⟩ := started
  exact ⟨bootstrap, subscribe, List.mem_append_left _ listed⟩

theorem Subscribed.append (subscribed : Subscribed items) (more : List Item) :
    Subscribed (items ++ more) := by
  obtain ⟨bootstrap, started, succeeded⟩ := subscribed
  exact ⟨bootstrap, List.mem_append_left _ started, List.mem_append_left _ succeeded⟩

def Action.calls : Action → Bool
  | .bootstrap _ => true
  | _ => false

def Action.holds : Action → Bool
  | .finish _ _ => true
  | _ => false

/-- The goroutine has taken a request for a new subscription. It serves it with
a bootstrap that started after the request, or will put it back. -/
def Renews (items : List Item) : Option Action → Prop
  | some (.bootstrap subscribe) => subscribe = true
  | some (.finish number subscribe) => subscribe = true ∧ .started number true ∈ items
  | some (.check subscribe failed) | some (.decide subscribe failed) =>
    subscribe = true ∧ failed = true
  | _ => False

theorem Renews.request (renews : Renews items stage) (more : List Item) :
    Renews (items ++ more) (some (stage.getD .select)) := by
  cases stage with
  | none => cases renews
  | some action =>
    cases action with
    | finish number subscribe => exact ⟨renews.1, List.mem_append_left _ renews.2⟩
    | _ => exact renews

def Item.isInner : Item → Bool
  | .started _ _ | .succeeded _ | .stopped => true
  | .requested _ _ | .closed => false

/-- Where a request is, with what was recorded since it was left: it has been
served, it stands in the flags, or the goroutine has taken it. -/
structure Asked (requested needsSubscribe : Bool) (stage : Option Action)
    (items : List Item) (subscribe : Bool) : Prop where
  start : Started items ∨ requested = true ∨ stage.any Action.calls = true
  renew : subscribe = true → Subscribed items ∨ needsSubscribe = true ∨ Renews items stage

structure Told (observer : Observer) (stage : Option Action) : Prop where
  recorded : .closed ∈ observer.history ↔ observer.closed = true
  asked : observer.closed = false → ∀ {number subscribe},
    .requested number subscribe ∈ observer.history →
    Asked observer.recoveryRequested observer.recoveryNeedsSubscribe stage
    (since (.requested number subscribe) observer.history) subscribe
  served : Throughout Served observer.history

/-- What holds while the only goroutine is about to run `stage`. -/
structure Sound (observer : Observer) (stage : Option Action) : Prop
    extends Told observer stage where
  running : observer.recoveryRunning = stage.isSome
  holder : observer.refresh = some .recovery → stage.any Action.holds = true
  stopping : stage = some .stop → observer.closed = true
  closing : observer.closed = true → observer.closing = true
  cancelled : observer.cancelled = true → observer.closed = true
  needs : observer.recoveryNeedsSubscribe = true → observer.recoveryRequested = true
  pending : observer.recoveryRequested = true → observer.closed = false →
    observer.recoveryRunning = true

theorem Sound.free (sound : Sound observer stage)
    (outside : stage.any Action.holds = false) : observer.refresh ≠ some .recovery := by
  intro held
  have holds := sound.holder held
  rw [outside] at holds
  cases holds

theorem Told.go (told : Told observer stage)
    (same : (after.history, after.closed) = (observer.history, observer.closed))
    (start : observer.closed = false →
      observer.recoveryRequested = true ∨ stage.any Action.calls = true →
      after.recoveryRequested = true ∨ stage'.any Action.calls = true)
    (renew : observer.closed = false → ∀ items : List Item,
      observer.recoveryNeedsSubscribe = true ∨ Renews items stage →
      after.recoveryNeedsSubscribe = true ∨ Renews items stage') : Told after stage' := by
  simp only [Prod.mk.injEq] at same
  obtain ⟨history, closed⟩ := same
  refine ⟨?_, ?_, ?_⟩ <;> rw [history]
  · rw [closed]
    exact told.recorded
  · rw [closed]
    intro opened number subscribe listed
    have asked := told.asked opened listed
    exact ⟨asked.start.imp_right (start opened),
      fun wanted => (asked.renew wanted).imp_right (renew opened _)⟩
  · exact told.served

theorem Told.record (told : Told observer stage) (item : Item)
    (inner : item.isInner = true) (allowed : Served observer.history item)
    (history : after.history = observer.history ++ [item]) (closed : after.closed = observer.closed)
    (start : observer.closed = false → ∀ items : List Item,
      observer.recoveryRequested = true ∨ stage.any Action.calls = true →
      Started (items ++ [item]) ∨ after.recoveryRequested = true ∨ stage'.any Action.calls = true)
    (renew : observer.closed = false → ∀ items : List Item,
      observer.recoveryNeedsSubscribe = true ∨ Renews items stage →
      Subscribed (items ++ [item]) ∨ after.recoveryNeedsSubscribe = true ∨
      Renews (items ++ [item]) stage') : Told after stage' := by
  have old : ∀ {number subscribe}, .requested number subscribe ∈ observer.history ++ [item] →
        .requested number subscribe ∈ observer.history := by
    intro number subscribe listed
    refine (List.mem_append.mp listed).resolve_right fun last => ?_
    cases List.mem_singleton.mp last
    cases inner
  refine ⟨?_, ?_, ?_⟩ <;> rw [history]
  · rw [closed, ← told.recorded, List.mem_append, List.mem_singleton]
    refine or_iff_left ?_
    rintro rfl
    cases inner
  · rw [closed]
    intro opened number subscribe listed
    rw [since_append_of_mem (old listed)]
    have asked := told.asked opened (old listed)
    exact
      { start := asked.start.elim (fun started => Or.inl (started.append _)) (start opened _)
        renew := fun wanted => (asked.renew wanted).elim
          (fun subscribed => Or.inl (subscribed.append _)) (renew opened _) }
  · exact throughout_concat_iff.mpr ⟨told.served, allowed⟩

variable {action : Action}

theorem Sound.halt (sound : Sound observer (some action))
    (outside : action.holds = false) (closed : observer.closed = true) :
    Sound observer (some .stop) := by
  have impossible : observer.closed ≠ false := by
    rw [closed]
    exact Bool.noConfusion
  exact { sound with
    toTold := sound.toTold.go rfl (fun opened => absurd opened impossible)
      (fun opened => absurd opened impossible)
    holder := fun held => absurd held (sound.free outside)
    stopping := fun _ => closed }

theorem Sound.select (sound : Sound observer (some .select)) :
    Sound observer (some (if observer.closed then .stop else .consume)) := by
  split
  next closed => exact sound.halt rfl closed
  · exact { sound with
      toTold := sound.toTold.go rfl (fun _ unserved => unserved) (fun _ _ unserved => unserved)
      holder := fun held => absurd held (sound.free rfl)
      stopping := nofun }

theorem Sound.consume (sound : Sound observer (some .consume)) :
    Sound observer.consume (some (.bootstrap observer.recoveryNeedsSubscribe)) :=
  { sound with
    toTold := sound.toTold.go rfl (fun _ _ => Or.inr rfl)
      (fun _ _ unserved => Or.inr (unserved.resolve_right id))
    holder := fun held => absurd held (sound.free rfl)
    stopping := nofun
    needs := nofun
    pending := nofun }

theorem Sound.bootstrap (sound : Sound observer (some (.bootstrap subscribe))) :
    Sound (observer.bootstrap subscribe) (some (.finish observer.bootstraps subscribe)) := by
  refine { sound with
    toTold := sound.toTold.record (.started _ _) rfl trivial rfl rfl (fun _ _ _ => Or.inl ?_)
      (fun _ _ unserved => Or.inr (unserved.imp_right fun wanted => ?_))
    holder := fun _ => rfl
    stopping := nofun }
  · exact ⟨observer.bootstraps, subscribe, by simp⟩
  · cases wanted
    exact ⟨rfl, by simp⟩

theorem Sound.finish {number : Nat} (sound : Sound observer (some (.finish number subscribe))) :
    Sound (observer.finish number failed) (some (.check subscribe failed)) := by
  have told : Told (observer.finish number failed) (some (.check subscribe failed)) := by
    cases failed with
    | true =>
      refine sound.toTold.go ?_ (fun _ unserved => unserved) (fun _ _ unserved =>
        unserved.imp_right fun wanted => ⟨wanted.1, rfl⟩)
      rw [Observer.finish, if_pos rfl, List.append_nil]
    | false =>
      refine sound.toTold.record (.succeeded _) rfl trivial rfl rfl
        (fun _ _ unserved => Or.inr unserved) (fun _ items unserved => ?_)
      rcases unserved with needs | ⟨_, started⟩
      · exact Or.inr (Or.inl needs)
      · exact Or.inl ⟨number, List.mem_append_left _ started, by simp⟩
  exact { sound with
    toTold := told
    holder := nofun
    stopping := nofun }

theorem Sound.check (sound : Sound observer (some (.check subscribe failed))) : Sound observer
      (some (if observer.cancelled then .stop else .decide subscribe failed)) := by
  split
  next cancelled => exact sound.halt rfl (sound.cancelled cancelled)
  · exact { sound with
      toTold := sound.toTold.go rfl (fun _ unserved => unserved) (fun _ _ unserved => unserved)
      holder := fun held => absurd held (sound.free rfl)
      stopping := nofun }

theorem Sound.leave (sound : Sound observer (some action))
    (idle : action.calls = false) (outside : action.holds = false)
    (nothing : ∀ items, ¬ Renews items (some action))
    (settled : observer.closed = false → observer.recoveryRequested = false) :
    Sound observer.leave none := by
  have unserved : observer.closed = false → ¬ observer.recoveryRequested = true := by
    intro opened
    rw [settled opened]
    exact Bool.false_ne_true
  have begun : observer.closed = false →
      ¬ (observer.recoveryRequested = true ∨ action.calls = true) := by
    rintro opened (requested | calls)
    · exact unserved opened requested
    · rw [idle] at calls
      cases calls
  have renewed : observer.closed = false → ∀ items,
      ¬ (observer.recoveryNeedsSubscribe = true ∨ Renews items (some action)) := by
    rintro opened items (needs | renews)
    · exact unserved opened (sound.needs needs)
    · exact nothing items renews
  have allowed : Served observer.history .stopped := by
    intro unclosed number subscribe listed
    have opened : observer.closed = false := by
      rw [← Bool.not_eq_true, ← sound.recorded]
      exact unclosed
    have asked := sound.asked opened listed
    exact ⟨asked.start.resolve_right (begun opened),
      fun wanted => (asked.renew wanted).resolve_right (renewed opened _)⟩
  exact { sound with
    toTold := sound.toTold.record .stopped rfl allowed rfl rfl
      (fun opened _ waiting => absurd waiting (begun opened))
      (fun opened items waiting => absurd waiting (renewed opened items))
    running := rfl
    holder := fun held => absurd held (sound.free outside)
    stopping := nofun
    pending := fun requested opened => absurd requested (unserved opened) }

theorem Sound.decide (sound : Sound observer (some (.decide subscribe failed))) :
    ∃ stage, (observer.decide subscribe failed).2 = stage.toList ∧
      Sound (observer.decide subscribe failed).1 stage := by
  cases failed with
  | true =>
    refine ⟨some .select, rfl, { sound with
      toTold := sound.toTold.go rfl (fun _ _ => Or.inl rfl) (fun _ _ unserved => Or.inl ?_)
      holder := fun held => absurd held (sound.free rfl)
      stopping := nofun
      needs := fun _ => rfl
      pending := fun _ _ => sound.running }⟩
    rcases unserved with needs | ⟨wanted, _⟩
    · simp [Observer.decide, needs]
    · simp [Observer.decide, wanted]
  | false =>
    cases requested : observer.recoveryRequested with
    | true =>
      simp only [Observer.decide, requested, Bool.false_eq_true, if_true, if_false]
      refine ⟨some .select, rfl, { sound with
        toTold := sound.toTold.go rfl (fun _ unserved => unserved)
          (fun _ _ unserved => unserved.imp_right fun wanted => ?_)
        holder := fun held => absurd held (sound.free rfl)
        stopping := nofun }⟩
      cases wanted.2
    | false =>
      simp only [Observer.decide, requested, Bool.false_eq_true, if_false]
      exact ⟨none, rfl, sound.leave rfl rfl (fun _ renews => by cases renews.2) fun _ => requested⟩

theorem perform_sound {thread : Nat} {more : List Action}
    (sound : Sound observer (some action))
    (performed : perform observer thread action failed = some (after, more)) :
    ∃ stage, more = stage.toList ∧ Sound after stage := by
  cases action with
  | select =>
    cases performed
    exact ⟨_, (apply_ite (fun action => [action]) _ _ _).symm, sound.select⟩
  | consume =>
    cases performed
    exact ⟨_, rfl, sound.consume⟩
  | bootstrap subscribe =>
    simp only [perform] at performed
    split at performed
    · cases performed
      exact ⟨_, rfl, sound.bootstrap⟩
    · cases performed
  | finish number subscribe =>
    cases performed
    exact ⟨_, rfl, sound.finish⟩
  | check subscribe outcome =>
    cases performed
    exact ⟨_, (apply_ite (fun action => [action]) _ _ _).symm, sound.check⟩
  | decide subscribe outcome =>
    have same : observer.decide subscribe outcome = (after, more) := Option.some.inj performed
    simpa only [same] using sound.decide
  | stop =>
    cases performed
    refine ⟨none, rfl, sound.leave rfl rfl (fun _ renews => renews) fun opened => ?_⟩
    rw [sound.stopping rfl] at opened
    cases opened

theorem Sound.request (sound : Sound observer stage) (unclosed : ¬ observer.closing = true)
    (subscribe : Bool) : Sound (observer.trigger subscribe).1 (some (stage.getD .select)) := by
  have opened : observer.closed = false := by
    by_contra closed
    exact unclosed (sound.closing (by simpa using closed))
  simp only [Observer.trigger, if_neg unclosed]
  exact { sound with
      recorded := by simpa using sound.recorded
      asked := by
        intro _ number kind listed
        refine ⟨Or.inr (Or.inl rfl), fun wanted => ?_⟩
        rcases List.mem_append.mp listed with old | new
        · rw [since_append_of_mem old]
          rcases (sound.asked opened old).renew wanted with subscribed | needs | renews
          · exact Or.inl (subscribed.append _)
          · exact Or.inr (Or.inl (by simp [needs]))
          · exact Or.inr (Or.inr (renews.request _))
        · cases List.mem_singleton.mp new
          exact Or.inr (Or.inl (by simp [wanted]))
      served := throughout_concat_iff.mpr ⟨sound.served, trivial⟩
      running := rfl
      holder := fun held => by
        have holds := sound.holder held
        cases stage with
        | none => cases holds
        | some action => exact holds
      stopping := fun stops => by
        cases stage with
        | none => cases stops
        | some action => exact sound.stopping stops
      needs := fun _ => rfl
      pending := fun _ _ => rfl }

theorem start_sound {operation : Operation} {program : List Action} (sound : Sound observer stage)
    (begun : start observer operation = some (after, program)) :
    program = [] ∧ Sound after stage ∨
      stage = none ∧ program = [.select] ∧ Sound after (some .select) := by
  cases operation with
  | trigger subscribe =>
    have same : observer.trigger subscribe = (after, program) := Option.some.inj begun
    by_cases closing : observer.closing = true
    · rw [Observer.trigger, if_pos closing] at same
      cases same
      exact Or.inl ⟨rfl, sound⟩
    · have requested := sound.request closing subscribe
      rw [same] at requested
      rw [Observer.trigger, if_neg closing, sound.running] at same
      cases same
      cases stage with
      | none => exact Or.inr ⟨rfl, rfl, requested⟩
      | some action => exact Or.inl ⟨rfl, requested⟩
  | beginClose =>
    cases begun
    exact Or.inl ⟨rfl, { sound with closing := fun _ => rfl }⟩
  | close =>
    simp only [start] at begun
    split at begun <;> cases begun
    next closing =>
      refine Or.inl ⟨rfl, { sound with
        recorded := by simp
        asked := nofun
        served := throughout_concat_iff.mpr ⟨sound.served, trivial⟩
        stopping := fun _ => rfl
        closing := fun _ => closing.1
        cancelled := fun _ => rfl
        pending := nofun }⟩
  | cancel =>
    simp only [start] at begun
    split at begun <;> cases begun
    next closed => exact Or.inl ⟨rfl, { sound with cancelled := fun _ => closed }⟩
  | _ =>
    simp only [start] at begun
    split at begun <;> cases begun
    exact Or.inl ⟨rfl, { sound with holder := nofun }⟩

end Requests

/-! ## Runs -/

def Inv (state : State) : Prop :=
  ∃ goroutine, ∃ stage : Option Action,
    Sole (fun _ => true) state.programs (some goroutine) stage.toList ∧ Sound state.shared stage

theorem initial_inv : Inv initial := by
  refine ⟨0, none, fun _ => (ite_self _).symm, ?_⟩
  exact
    { recorded := ⟨nofun, nofun⟩
      asked := nofun
      served := throughout_nil
      running := rfl
      holder := nofun
      stopping := nofun
      closing := nofun
      cancelled := nofun
      needs := nofun
      pending := nofun }

section Runs

variable {state : State} {after : Observer} {thread : Nat}

theorem Inv.begin (inv : Inv state) (unstarted : state.programs state.started = [])
    {operation : Operation} {program : List Action}
    (begun : start state.shared operation = some (after, program)) :
    Inv (state.begin after program) := by
  obtain ⟨goroutine, stage, sole, sound⟩ := inv
  rcases start_sound sound begun with ⟨rfl, kept⟩ | ⟨rfl, rfl, spawned⟩
  · refine ⟨goroutine, stage, sole.keep ?_, kept⟩
    rw [unstarted]
  · exact ⟨state.started, some .select, sole.release.take state.started nofun _, spawned⟩

variable {action : Action}

theorem Inv.resume (inv : Inv state) {rest more : List Action}
    {failed : Bool} (running : state.programs thread = action :: rest)
    (performed : perform state.shared thread action failed = some (after, more)) :
    Inv (state.resume thread after (more ++ rest)) := by
  obtain ⟨goroutine, stage, sole, sound⟩ := inv
  obtain ⟨rfl, whole⟩ : goroutine = thread ∧ stage.toList = _ :=
    (sole.head running rfl).imp_left Option.some.inj
  have taken := sole.take _ (fun _ own => (Option.some.inj own).symm) (more ++ rest)
  cases stage with
  | none => cases whole
  | some current =>
    rw [List.filter_true, Option.toList_some, List.cons.injEq] at whole
    obtain ⟨rfl, rfl⟩ := whole
    obtain ⟨stage', rfl, sound'⟩ := perform_sound sound performed
    rw [List.filter_true, List.append_nil] at taken
    rw [List.append_nil]
    exact ⟨_, stage', taken, sound'⟩

private theorem inv_of_run {events : List (Event Operation Bool)}
    (ran : run machine.step initial events = some state) : Inv state :=
  Threads.invariant_of_run Inv (fun inv unstarted begun => inv.begin unstarted begun)
    (fun inv running performed => inv.resume running performed) initial_inv ran

/-! ## Progress -/

variable {failed subscribe outcome : Bool} {bound : Nat} {rest : List Action}

theorem Reaches.step {next : State} {event : Event Operation Bool}
    (reaches : Reaches next thread failed bound) (stepped : machine.step state event = some next)
    (drives : event = .advance thread failed ∨ event = .start .releaseRefresh)
    (recorded : List Item) (history : next.shared.history = state.shared.history ++ recorded) :
    Reaches state thread failed (bound + 1) := by
  obtain ⟨events, final, more, bootstrap, subscribe, short, driven, ran, started⟩ := reaches
  refine ⟨event :: events, final, recorded ++ more, bootstrap, subscribe,
    Nat.succ_le_succ short, List.forall_mem_cons.mpr ⟨drives, driven⟩, ?_, ?_⟩
  · rw [run_cons, stepped]
    exact ran
  · rw [started, history, List.append_assoc, List.append_assoc]

theorem reaches_of_perform {new : Action} (running : state.programs thread = action :: rest)
    (performed : perform state.shared thread action failed = some (after, [new]))
    (recorded : List Item) (history : after.history = state.shared.history ++ recorded)
    (reaches : ∀ next : State, next.shared = after →
      next.programs thread = new :: rest → Reaches next thread failed bound) :
    Reaches state thread failed (bound + 1) := by
  refine (reaches (state.resume thread after (new :: rest)) rfl
    (System.programs_resume_self _ _ _)).step ?_ (Or.inl rfl) recorded history
  simp [Machine.step, machine, running, performed]

theorem Reaches.weaken {larger : Nat} (reaches : Reaches state thread failed bound)
    (le : bound ≤ larger) : Reaches state thread failed larger := by
  obtain ⟨events, final, more, bootstrap, subscribe, short, rest⟩ := reaches
  exact ⟨events, final, more, bootstrap, subscribe, Nat.le_trans short le, rest⟩

section

variable (free : state.shared.refresh = none)
include free

theorem reaches_of_bootstrap (running : state.programs thread = .bootstrap subscribe :: rest) :
    Reaches state thread failed 1 := by
  refine ⟨[.advance thread failed], state.resume thread (state.shared.bootstrap subscribe)
      (.finish state.shared.bootstraps subscribe :: rest),
    [], state.shared.bootstraps, subscribe, Nat.le_refl 1,
    List.forall_mem_singleton.mpr (Or.inl rfl), ?_, rfl⟩
  simp [run_cons, Machine.step, machine, running, perform, free]

theorem reaches_of_consume
    (running : state.programs thread = .consume :: rest) : Reaches state thread failed 2 := by
  refine reaches_of_perform running rfl [] (List.append_nil _).symm fun next shared here => ?_
  exact reaches_of_bootstrap (shared ▸ free) here

variable (opened : state.shared.closed = false)
include opened

theorem reaches_of_select (running : state.programs thread = .select :: rest) :
    Reaches state thread failed 3 := by
  have goes : perform state.shared thread .select failed = some (state.shared, [.consume]) := by
    simp [perform, opened]
  refine reaches_of_perform running goes [] (List.append_nil _).symm fun next shared here => ?_
  exact reaches_of_consume (shared ▸ free) here

theorem reaches_of_decide (requested : state.shared.recoveryRequested = true)
    (running : state.programs thread = .decide subscribe outcome :: rest) :
    Reaches state thread failed 4 := by
  obtain ⟨after, goes, same⟩ : ∃ after : Observer,
      perform state.shared thread (.decide subscribe outcome) failed = some (after, [.select]) ∧
      (after.refresh, after.closed, after.history) =
        (state.shared.refresh, state.shared.closed, state.shared.history) := by
    cases outcome with
    | true => exact ⟨_, rfl, rfl⟩
    | false => exact ⟨state.shared, by simp [perform, Observer.decide, requested], rfl⟩
  simp only [Prod.mk.injEq] at same
  obtain ⟨refresh, closed, history⟩ := same
  refine reaches_of_perform running goes [] ?_ fun next shared here => ?_
  · rw [history, List.append_nil]
  · exact reaches_of_select (by rw [shared, refresh, free]) (by rw [shared, closed, opened]) here

theorem reaches_of_check (lasting : state.shared.cancelled = false)
    (requested : state.shared.recoveryRequested = true)
    (running : state.programs thread = .check subscribe outcome :: rest) :
    Reaches state thread failed 5 := by
  have goes : perform state.shared thread (.check subscribe outcome) failed =
      some (state.shared, [.decide subscribe outcome]) := by
    simp [perform, lasting]
  refine reaches_of_perform running goes [] (List.append_nil _).symm fun next shared here => ?_
  exact reaches_of_decide (shared ▸ free) (shared ▸ opened) (shared ▸ requested) here

end

private theorem reaches_of_finish {number : Nat} (opened : state.shared.closed = false)
    (lasting : state.shared.cancelled = false) (requested : state.shared.recoveryRequested = true)
    (running : state.programs thread = .finish number subscribe :: rest) :
    Reaches state thread failed 6 := by
  refine reaches_of_perform running rfl _ rfl fun next shared here => ?_
  exact reaches_of_check (by rw [shared]; rfl) (by rw [shared]; exact opened)
    (by rw [shared]; exact lasting) (by rw [shared]; exact requested) here

theorem Sound.reaches (sound : Sound state.shared (some action))
    (free : action.holds = false → state.shared.refresh = none)
    (opened : state.shared.closed = false)
    (asked : state.shared.recoveryRequested = true ∨ action.calls = true)
    (running : state.programs thread = [action]) :
    Reaches state thread failed (5 + action.holds.toNat) := by
  have lasting : state.shared.cancelled = false := by
    by_contra cancelled
    rw [sound.cancelled (by simpa using cancelled)] at opened
    cases opened
  cases action with
  | select => exact (reaches_of_select (free rfl) opened running).weaken (Nat.le_add_left 3 2)
  | consume => exact (reaches_of_consume (free rfl) running).weaken (Nat.le_add_left 2 3)
  | bootstrap subscribe =>
    exact (reaches_of_bootstrap (free rfl) running).weaken (Nat.le_add_left 1 4)
  | finish number subscribe =>
    exact reaches_of_finish opened lasting (asked.resolve_right nofun) running
  | check subscribe outcome =>
    exact reaches_of_check (free rfl) opened lasting (asked.resolve_right nofun) running
  | decide subscribe outcome =>
    exact (reaches_of_decide (free rfl) opened (asked.resolve_right nofun)
      running).weaken (Nat.le_add_left 4 1)
  | stop =>
    rw [sound.stopping rfl] at opened
    cases opened

theorem Sound.reaches_of_release (sound : Sound state.shared (some action))
    (unstarted : state.programs state.started = []) (outside : action.holds = false)
    (held : state.shared.refresh = some .other) (opened : state.shared.closed = false)
    (asked : state.shared.recoveryRequested = true ∨ action.calls = true)
    (running : state.programs thread = [action]) : Reaches state thread failed 6 := by
  let next : State := state.begin { state.shared with refresh := none } []
  have stepped : machine.step state (.start .releaseRefresh) = some next := by
    simp [Machine.step, machine, start, held, next]
  have kept : next.programs thread = [action] := by
    have same : next.programs = state.programs := by
      simp [next, System.begin, ← unstarted]
    rw [same, running]
  have released : Sound next.shared (some action) := { sound with holder := by rintro ⟨⟩ }
  have reaches : Reaches next thread failed (5 + action.holds.toNat) :=
    released.reaches (fun _ => rfl) opened asked kept
  rw [outside] at reaches
  exact reaches.step stepped (Or.inr rfl) [] (List.append_nil _).symm

theorem Inv.progress (inv : Inv state) (unstarted : state.programs state.started = [])
    (opened : state.shared.closed = false) {number : Nat}
    (listed : .requested number subscribe ∈ state.shared.history)
    (waiting : ¬ Started (since (.requested number subscribe) state.shared.history))
    (failed : Bool) : ∃ goroutine, Reaches state goroutine failed 6 := by
  obtain ⟨goroutine, stage, sole, sound⟩ := inv
  refine ⟨goroutine, ?_⟩
  have running := sole goroutine
  rw [List.filter_true, if_pos rfl] at running
  have asked := (sound.asked opened listed).start.resolve_left waiting
  cases stage with
  | none =>
    have runs := sound.pending (asked.resolve_right nofun) opened
    rw [sound.running] at runs
    cases runs
  | some action =>
    cases holds : action.holds with
    | true =>
      have reaches : Reaches state goroutine failed (5 + action.holds.toNat) :=
        sound.reaches (fun outside => absurd holds (by rw [outside]; nofun)) opened asked running
      rw [holds] at reaches
      exact reaches
    | false =>
      have free := sound.free holds
      cases held : state.shared.refresh with
      | none =>
        have reaches : Reaches state goroutine failed (5 + action.holds.toNat) :=
          sound.reaches (fun _ => held) opened asked running
        rw [holds] at reaches
        exact reaches.weaken (Nat.le_succ 5)
      | some holder =>
        cases holder with
        | recovery => exact absurd held free
        | other => exact sound.reaches_of_release unstarted holds held opened asked running

end Runs

/-- At most one goroutine has not finished; a goroutine that stops has served
every request so far; with no goroutine nothing is pending; and a request that
no bootstrap has followed yet is at most six steps away from one. -/
theorem recovery_requests_are_served {events : List (Event Operation Bool)}
    {final : State} (ran : run machine.step initial events = some final) :
    (∀ first second, final.programs first ≠ [] → final.programs second ≠ [] → first = second) ∧
    Throughout Served final.shared.history ∧
    (final.shared.closing = false → (∀ goroutine, final.programs goroutine = []) →
      final.shared.recoveryRequested = false ∧ final.shared.recoveryNeedsSubscribe = false) ∧
    (final.shared.closed = false → ∀ number subscribe,
      .requested number subscribe ∈ final.shared.history →
      ¬ Started (since (.requested number subscribe) final.shared.history) →
      ∀ failed, ∃ goroutine, Reaches final goroutine failed 6) := by
  have inv := inv_of_run ran
  have unstarted := unstarted_of_run ran final.started (Nat.le_refl _)
  obtain ⟨goroutine, stage, sole, sound⟩ := id inv
  have own : ∀ other, final.programs other ≠ [] → goroutine = other := by
    intro other busy
    by_contra different
    have idle := sole other
    rw [List.filter_true, if_neg (by simpa using different)] at idle
    exact busy idle
  refine ⟨fun first second one two => (own first one).symm.trans (own second two),
    sound.served, fun unclosed quiet => ?_,
    fun opened number subscribe listed waiting failed =>
      inv.progress unstarted opened listed waiting failed⟩
  have opened : final.shared.closed = false := by
    by_contra closed
    rw [sound.closing (by simpa using closed)] at unclosed
    cases unclosed
  have unrequested : ¬ final.shared.recoveryRequested = true := by
    intro requested
    have running := sound.pending requested opened
    have idle := sole goroutine
    rw [quiet goroutine, if_pos rfl] at idle
    rw [sound.running] at running
    cases stage with
    | none => cases running
    | some action => cases idle
  exact ⟨by simpa using unrequested, by simpa using mt sound.needs unrequested⟩

def retriedRun : List (Event Operation Bool) :=
  [.start (.trigger true), .advance 0 false, .advance 0 false, .advance 0 false,
    .start (.trigger false), .advance 0 true, .advance 0 false, .advance 0 false,
    .advance 0 false, .advance 0 false, .advance 0 false, .advance 0 false,
    .advance 0 false, .advance 0 false]

theorem retriedRun_is_served : ∃ final, run machine.step initial retriedRun = some final ∧
      final.shared.history = [.requested 0 true, .started 0 true, .requested 1 false,
          .started 1 true, .succeeded 1, .stopped] ∧
      (∀ first second, final.programs first ≠ [] → final.programs second ≠ [] → first = second) ∧
      Throughout Served final.shared.history := by
  simp only [← and_assoc (b := _ = _)]
  apply exists_and_kept
  · decide +kernel
  · rintro final ⟨ran, -⟩
    obtain ⟨alone, served, _⟩ := recovery_requests_are_served ran
    exact ⟨alone, served⟩

end FitzGo.Domains.ObserverRecovery
