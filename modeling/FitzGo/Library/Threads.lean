import FitzGo.Library.StepMachine
import Mathlib.Logic.Function.Basic

/-!
# Threads over a shared state

A thread is the list of the sections it still has to run. Running the first is
one step, and what it decides to do next is put before the rest of its thread.
-/

namespace Threads

open StepMachine

variable {Shared Operation Action Choice : Type}

/-- What an operation starts with, and what a section of a thread does. -/
structure Machine (Shared Operation Action Choice : Type) where
  start : Shared → Operation → Option (Shared × List Action)
  perform : Shared → Nat → Action → Choice → Option (Shared × List Action)

structure System (Shared Action : Type) where
  shared : Shared
  programs : Nat → List Action
  started : Nat

inductive Event (Operation Choice : Type)
  | start (operation : Operation)
  | advance (thread : Nat) (choice : Choice)

def System.idle (shared : Shared) : System Shared Action where
  shared := shared
  programs := fun _ => []
  started := 0

def System.begin (system : System Shared Action) (shared : Shared)
    (program : List Action) : System Shared Action where
  shared := shared
  programs := Function.update system.programs system.started program
  started := system.started + 1

def System.resume (system : System Shared Action) (thread : Nat)
    (shared : Shared) (program : List Action) : System Shared Action :=
  { system with
    shared := shared
    programs := Function.update system.programs thread program }

def Machine.step (machine : Machine Shared Operation Action Choice)
    (system : System Shared Action) :
    Event Operation Choice → Option (System Shared Action)
  | .start operation =>
    (machine.start system.shared operation).map fun begun => system.begin begun.1 begun.2
  | .advance thread choice =>
    match system.programs thread with
    | [] => none
    | action :: rest =>
      (machine.perform system.shared thread action choice).map fun done =>
        system.resume thread done.1 (done.2 ++ rest)

variable {machine : Machine Shared Operation Action Choice}
variable {system next : System Shared Action}

theorem step_start_eq_some {operation : Operation}
    (stepped : machine.step system (.start operation) = some next) :
    ∃ shared program, machine.start system.shared operation = some (shared, program) ∧
      next = system.begin shared program := by
  obtain ⟨⟨shared, program⟩, begun, same⟩ := Option.map_eq_some_iff.mp stepped
  exact ⟨shared, program, begun, same.symm⟩

variable {thread : Nat}

theorem step_advance_eq_some {choice : Choice}
    (stepped : machine.step system (.advance thread choice) = some next) :
    ∃ action rest shared more, system.programs thread = action :: rest ∧
      machine.perform system.shared thread action choice = some (shared, more) ∧
      next = system.resume thread shared (more ++ rest) := by
  cases running : system.programs thread with
  | nil =>
    simp only [Machine.step, running] at stepped
    cases stepped
  | cons action rest =>
    simp only [Machine.step, running] at stepped
    obtain ⟨⟨shared, more⟩, done, same⟩ := Option.map_eq_some_iff.mp stepped
    exact ⟨action, rest, shared, more, rfl, done, same.symm⟩

theorem System.programs_begin_of_lt
    (earlier : thread < system.started) (shared : Shared) (program : List Action) :
    (system.begin shared program).programs thread = system.programs thread :=
  Function.update_of_ne (Nat.ne_of_lt earlier) _ _

@[simp]
theorem System.programs_resume_self (thread : Nat) (shared : Shared) (program : List Action) :
    (system.resume thread shared program).programs thread = program :=
  Function.update_self _ _ _

theorem System.programs_resume_of_ne {thread other : Nat}
    (different : other ≠ thread) (shared : Shared) (program : List Action) :
    (system.resume thread shared program).programs other = system.programs other :=
  Function.update_of_ne different _ _

variable {event : Event Operation Choice}

theorem started_le_of_step
    (stepped : machine.step system event = some next) : system.started ≤ next.started := by
  cases event with
  | start operation =>
    obtain ⟨shared, program, -, rfl⟩ := step_start_eq_some stepped
    exact Nat.le_succ _
  | advance thread choice =>
    obtain ⟨action, rest, shared, more, -, -, rfl⟩ := step_advance_eq_some stepped
    exact Nat.le_refl _

theorem finished_of_step
    (stepped : machine.step system event = some next) (earlier : thread < system.started)
    (finished : system.programs thread = []) : next.programs thread = [] := by
  cases event with
  | start operation =>
    obtain ⟨shared, program, -, rfl⟩ := step_start_eq_some stepped
    rw [System.programs_begin_of_lt earlier]
    exact finished
  | advance running choice =>
    obtain ⟨action, rest, shared, more, here, -, rfl⟩ := step_advance_eq_some stepped
    have different : thread ≠ running := by
      rintro rfl
      rw [finished] at here
      cases here
    rw [System.programs_resume_of_ne different]
    exact finished

/-- Threads that were not started have nothing to run. -/
def System.Unstarted (system : System Shared Action) : Prop :=
  ∀ thread, system.started ≤ thread → system.programs thread = []

theorem System.Unstarted.begin (unstarted : system.Unstarted)
    (shared : Shared) (program : List Action) : (system.begin shared program).Unstarted := by
  intro thread later
  have different : thread ≠ system.started := Nat.ne_of_gt later
  exact (Function.update_of_ne different _ _).trans (unstarted thread (Nat.le_of_succ_le later))

theorem System.Unstarted.resume (unstarted : system.Unstarted) {action : Action}
    {rest : List Action}
    (running : system.programs thread = action :: rest) (shared : Shared) (program : List Action) :
    (system.resume thread shared program).Unstarted := by
  intro other later
  have different : other ≠ thread := by
    rintro rfl
    rw [unstarted other later] at running
    cases running
  exact (Function.update_of_ne different _ _).trans (unstarted other later)

theorem System.Unstarted.step (unstarted : system.Unstarted)
    (stepped : machine.step system event = some next) : next.Unstarted := by
  cases event with
  | start operation =>
    obtain ⟨shared, program, -, rfl⟩ := step_start_eq_some stepped
    exact unstarted.begin _ _
  | advance thread choice =>
    obtain ⟨action, rest, shared, more, running, -, rfl⟩ := step_advance_eq_some stepped
    exact unstarted.resume running _ _

variable {events : List (Event Operation Choice)} {final : System Shared Action}

theorem unstarted_of_run
    {shared : Shared}
    (ran : run machine.step (System.idle shared) events = some final) : final.Unstarted :=
  StepMachine.invariant_of_run System.Unstarted
    (fun unstarted stepped => unstarted.step stepped) (fun _ _ => rfl) ran

/-- The invariant rule: an invariant is kept by the start of every operation and
by every section of every thread. -/
theorem invariant_of_run (invariant : System Shared Action → Prop)
    (begins : ∀ {system operation shared program}, invariant system →
      system.programs system.started = [] →
      machine.start system.shared operation = some (shared, program) →
      invariant (system.begin shared program))
    (resumes : ∀ {system thread action rest choice shared more}, invariant system →
      system.programs thread = action :: rest →
      machine.perform system.shared thread action choice = some (shared, more) →
      invariant (system.resume thread shared (more ++ rest)))
    {shared : Shared}
    (initial : invariant (System.idle shared))
    (ran : run machine.step (System.idle shared) events = some final) : invariant final := by
  have both : invariant final ∧ final.Unstarted := by
    refine StepMachine.invariant_of_run (fun system => invariant system ∧ system.Unstarted)
        ?_ ⟨initial, fun _ _ => rfl⟩ ran
    rintro system next event ⟨holds, unstarted⟩ stepped
    refine ⟨?_, unstarted.step stepped⟩
    cases event with
    | start operation =>
      obtain ⟨shared, program, begun, rfl⟩ := step_start_eq_some stepped
      exact begins holds (unstarted _ (Nat.le_refl _)) begun
    | advance thread choice =>
      obtain ⟨action, rest, shared, more, running, done, rfl⟩ := step_advance_eq_some stepped
      exact resumes holds running done
  exact both.1

/-! ## Sections that some thread still has to run -/

section Everywhere

variable {holds : Action → Prop} {programs : Nat → List Action}

def Everywhere (holds : Action → Prop) (programs : Nat → List Action) : Prop :=
  ∀ thread, ∀ action ∈ programs thread, holds action

variable {thread : Nat}

variable (everywhere : Everywhere holds programs)
include everywhere

theorem Everywhere.update {program : List Action} (here : ∀ action ∈ program, holds action) :
    Everywhere holds (Function.update programs thread program) := by
  intro other action member
  by_cases same : other = thread
  · subst same
    rw [Function.update_self] at member
    exact here action member
  · rw [Function.update_of_ne same] at member
    exact everywhere other action member

theorem Everywhere.mono {weaker : Action → Prop}
    (implies : ∀ action, holds action → weaker action) : Everywhere weaker programs :=
  fun thread action member => implies action (everywhere thread action member)

variable {rest : List Action}

theorem Everywhere.resume {action : Action} {more : List Action}
    (running : programs thread = action :: rest) (new : ∀ action ∈ more, holds action) :
    Everywhere holds (Function.update programs thread (more ++ rest)) := by
  refine everywhere.update fun other member => ?_
  rcases List.mem_append.mp member with fresh | old
  · exact new other fresh
  · refine everywhere thread other ?_
    rw [running]
    exact List.mem_cons_of_mem _ old

theorem Everywhere.head {action : Action}
    (running : programs thread = action :: rest) : holds action := by
  refine everywhere thread action ?_
  rw [running]
  exact List.mem_cons_self

end Everywhere

section Somewhere

variable {wanted : Action → Prop} {programs : Nat → List Action}

def Somewhere (wanted : Action → Prop) (programs : Nat → List Action) : Prop :=
  ∃ thread, ∃ action ∈ programs thread, wanted action

variable {thread : Nat} {program : List Action}

theorem somewhere_update {action : Action} (member : action ∈ program)
    (found : wanted action) : Somewhere wanted (Function.update programs thread program) := by
  refine ⟨thread, action, ?_, found⟩
  rw [Function.update_self]
  exact member

theorem Somewhere.update (somewhere : Somewhere wanted programs)
    (kept : ∀ action ∈ programs thread, wanted action → action ∈ program) :
    Somewhere wanted (Function.update programs thread program) := by
  obtain ⟨other, action, member, found⟩ := somewhere
  by_cases same : other = thread
  · subst same
    exact somewhere_update (kept action member found) found
  · refine ⟨other, action, ?_, found⟩
    rw [Function.update_of_ne same]
    exact member

theorem Somewhere.resume (somewhere : Somewhere wanted programs) {action : Action}
    {rest more : List Action}
    (running : programs thread = action :: rest) (other : ¬ wanted action) :
    Somewhere wanted (Function.update programs thread (more ++ rest)) := by
  refine somewhere.update fun candidate member found => ?_
  rw [running] at member
  rcases List.mem_cons.mp member with rfl | later
  · exact absurd found other
  · exact List.mem_append_right more later

end Somewhere

section Owes

variable {wanted : Action → Prop} {programs : Nat → List Action}
variable {thread other : Nat} {action : Action} {rest more : List Action}

/-- A thread still has to run one of the sections wanted. -/
def Owes (wanted : Action → Prop) (programs : Nat → List Action) (thread : Nat) : Prop :=
  ∃ action ∈ programs thread, wanted action

theorem owes_of_mem {new : Action} (member : new ∈ more) (wants : wanted new) :
    Owes wanted (Function.update programs thread (more ++ rest)) thread := by
  refine ⟨new, ?_, wants⟩
  rw [Function.update_self]
  exact List.mem_append_left rest member

theorem Owes.resume {done : Prop} (owes : Owes wanted programs other)
    (running : programs thread = action :: rest)
    (does : wanted action → done ∨ ∃ new ∈ more, wanted new) :
    done ∨ Owes wanted (Function.update programs thread (more ++ rest)) other := by
  obtain ⟨owed, member, wants⟩ := owes
  by_cases same : other = thread
  · subst same
    rw [running] at member
    rcases List.mem_cons.mp member with rfl | later
    · rcases does wants with finished | ⟨new, emitted, wanted⟩
      · exact Or.inl finished
      · exact Or.inr (owes_of_mem emitted wanted)
    · refine Or.inr ⟨owed, ?_, wants⟩
      rw [Function.update_self]
      exact List.mem_append_right more later
  · refine Or.inr ⟨owed, ?_, wants⟩
    rw [Function.update_of_ne same]
    exact member

theorem Owes.begin (owes : Owes wanted programs other) (free : programs thread = [])
    (program : List Action) : Owes wanted (Function.update programs thread program) other := by
  obtain ⟨owed, member, wants⟩ := owes
  have different : other ≠ thread := by
    rintro rfl
    rw [free] at member
    cases member
  refine ⟨owed, ?_, wants⟩
  rw [Function.update_of_ne different]
  exact member

end Owes

/-! ## Sections that only one thread has -/

section Sole

variable {about : Action → Bool} {programs : Nat → List Action}
variable {owner : Option Nat} {stage : List Action}

/-- The sections about something are those of `stage`, and all of them are
`owner`'s. -/
def Sole (about : Action → Bool) (programs : Nat → List Action)
    (owner : Option Nat) (stage : List Action) : Prop :=
  ∀ thread, (programs thread).filter about =
    if owner = some thread then stage else []

variable {thread : Nat}

section

variable (sole : Sole about programs owner stage)
include sole

theorem Sole.keep {program : List Action}
    (same : program.filter about = (programs thread).filter about) :
    Sole about (Function.update programs thread program) owner stage := by
  intro other
  by_cases here : other = thread
  · subst here
    rw [Function.update_self, same]
    exact sole other
  · rw [Function.update_of_ne here]
    exact sole other

variable {rest : List Action}

theorem Sole.resume {action : Action} {more : List Action}
    (running : programs thread = action :: rest)
    (other : about action = false) (silent : more.filter about = []) :
    Sole about (Function.update programs thread (more ++ rest)) owner stage := by
  refine sole.keep ?_
  rw [running, List.filter_append, silent, List.nil_append,
    List.filter_cons_of_neg (by rw [other]; exact Bool.false_ne_true)]

theorem Sole.take
    (thread : Nat) (free : ∀ other, owner = some other → other = thread) (program : List Action) :
    Sole about (Function.update programs thread program) (some thread) (program.filter about) := by
  intro other
  by_cases here : other = thread
  · subst here
    rw [Function.update_self, if_pos rfl]
  · have foreign : owner ≠ some other := fun own => here (free other own)
    have elsewhere : some thread ≠ some other := fun equal => here (Option.some.inj equal).symm
    rw [Function.update_of_ne here, sole other, if_neg foreign, if_neg elsewhere]

theorem Sole.head {action : Action}
    (running : programs thread = action :: rest) (mine : about action = true) :
    owner = some thread ∧ stage = action :: rest.filter about := by
  have here := sole thread
  rw [running, List.filter_cons_of_pos mine] at here
  by_cases own : owner = some thread
  · rw [if_pos own] at here
    exact ⟨own, here.symm⟩
  · rw [if_neg own] at here
    cases here

end

theorem sole_nil_iff :
    Sole about programs none [] ↔ ∀ thread, (programs thread).filter about = [] := by
  unfold Sole
  simp

theorem Sole.release (sole : Sole about programs owner []) : Sole about programs none [] := by
  intro thread
  rw [sole thread, ite_self, ite_self]

end Sole

end Threads
