import FitzGo.Connection.AsyncHandlers

/-!
# Overflow means a full queue

Provided `LaunchAsyncHandler` makes its checks while the connection is open.
-/

namespace FitzGo.Connection.AsyncHandlers

open StepMachine

/-- The condition on one step, read in the state before it: a check of
`LaunchAsyncHandler` finds no sign of a shutdown, unless the queue is full
anyway. -/
def ChecksWhileOpen (capacity : Nat) (state : State) : Event → Prop
  | .check _ domain parent _ _ =>
    state.refuses (state.launchTarget domain parent) parent = false ∨
      state.queueFull capacity (state.launchTarget domain parent) = true
  | .enqueue _ _ parent target _ _ =>
    state.refuses target parent = false ∨ state.queueFull capacity target = true
  | _ => True

instance (capacity : Nat) (state : State) (event : Event) :
    Decidable (ChecksWhileOpen capacity state event) := by
  rcases event with ⟨⟩ <;> dsimp only [ChecksWhileOpen] <;> infer_instance

def MetFullQueue (state : State) (number : Nat) : Prop :=
  ⟨number, true⟩ ∈ state.overflows

instance (state : State) (number : Nat) : Decidable (MetFullQueue state number) :=
  inferInstanceAs (Decidable (_ ∈ _))

structure Inv (state : State) : Prop where
  full : ∀ overflow ∈ state.overflows, overflow.full = true
  completed : ∀ number, state.completion number = some .overflow → MetFullQueue state number
  leaving : ∀ number ∈ state.unsubscribing, MetFullQueue state number
  kept : ∀ number ∈ state.subscribed, number ∈ state.table.map Registration.number ∨
    number ∈ state.unsubscribed ∨ MetFullQueue state number

theorem initial_inv : Inv initial where
  full _ member := nomatch member
  completed _ impossible := nomatch impossible
  leaving _ member := nomatch member
  kept _ member := nomatch member

section Steps

variable {state final : State} {capacity : Nat}

theorem Inv.congr (inv : Inv state)
    (table : final.table.map Registration.number = state.table.map Registration.number)
    (completion : final.completion = state.completion)
    (unsubscribing : final.unsubscribing = state.unsubscribing)
    (subscribed : final.subscribed = state.subscribed)
    (unsubscribed : final.unsubscribed = state.unsubscribed)
    (overflows : final.overflows = state.overflows) : Inv final := by
  refine { full := ?_, completed := ?_, leaving := ?_, kept := ?_ }
  · rw [overflows]
    exact inv.full
  · unfold MetFullQueue
    rw [completion, overflows]
    exact inv.completed
  · unfold MetFullQueue
    rw [unsubscribing, overflows]
    exact inv.leaving
  · unfold MetFullQueue
    rw [subscribed, table, unsubscribed, overflows]
    exact inv.kept

theorem completion_of_complete {number other : Nat} {terminal : Terminal}
    (overflowed : state.complete number terminal other = some .overflow) :
    state.completion other = some .overflow ∨ other = number ∧ terminal = .overflow := by
  unfold State.complete at overflowed
  by_cases same : other = number
  · subst same
    rw [Function.update_self] at overflowed
    cases before : state.completion other with
    | none =>
      rw [before] at overflowed
      exact Or.inr ⟨rfl, Option.some.inj overflowed⟩
    | some earlier =>
      rw [before] at overflowed
      exact Or.inl overflowed
  · rw [Function.update_of_ne same] at overflowed
    exact Or.inl overflowed

private theorem mem_removeFromTable {number other : Nat}
    (member : other ∈ state.table.map Registration.number) (different : other ≠ number) :
    other ∈ (state.removeFromTable number).map Registration.number := by
  obtain ⟨registration, inTable, numberEq⟩ := List.mem_map.mp member
  refine List.mem_map.mpr ⟨registration, ?_, numberEq⟩
  refine List.mem_filter.mpr ⟨inTable, ?_⟩
  rw [numberEq]
  exact decide_eq_true different

private theorem overflow_inv {conn target number : Nat} {loop : Loop} (inv : Inv state)
    (full : state.queueFull capacity target = true) :
    Inv (state.overflow capacity conn target number loop) := by
  have recorded : MetFullQueue (state.overflow capacity conn target number loop) number := by
    unfold MetFullQueue State.overflow
    rw [full]
    exact List.mem_cons_self
  have older : ∀ other, MetFullQueue state other →
        MetFullQueue (state.overflow capacity conn target number loop) other :=
    fun _ met => List.mem_cons_of_mem _ met
  refine { full := ?_, completed := ?_, leaving := ?_, kept := ?_ }
  · intro overflow member
    rcases List.mem_cons.mp member with new | old
    · rw [new]
      exact full
    · exact inv.full overflow old
  · intro other overflowed
    rcases completion_of_complete overflowed with before | ⟨same, _⟩
    · exact older other (inv.completed other before)
    · rw [same]
      exact recorded
  · intro other member
    rcases List.mem_cons.mp member with new | old
    · rw [new]
      exact recorded
    · exact older other (inv.leaving other old)
  · intro other member
    rcases inv.kept other member with inTable | gone | met
    · exact Or.inl inTable
    · exact Or.inr (Or.inl gone)
    · exact Or.inr (Or.inr (older other met))

private theorem remove_inv {number : Nat} {unsubscribed unsubscribing : List Nat} (inv : Inv state)
    (gone : state.unsubscribed ⊆ unsubscribed) (fewer : unsubscribing ⊆ state.unsubscribing)
    (accounted : number ∈ unsubscribed ∨ MetFullQueue state number) :
    Inv { state with
        table := state.removeFromTable number
        completion := state.complete number .unsubscribed
        unsubscribed, unsubscribing } := by
  refine { full := inv.full, completed := ?_, leaving := ?_, kept := ?_ }
  · intro other overflowed
    rcases completion_of_complete overflowed with before | ⟨_, impossible⟩
    · exact inv.completed other before
    · exact nomatch impossible
  · intro other member
    exact inv.leaving other (fewer member)
  · intro other member
    by_cases same : other = number
    · rw [same]
      exact Or.inr accounted
    · rcases inv.kept other member with inTable | before | met
      · exact Or.inl (mem_removeFromTable inTable same)
      · exact Or.inr (Or.inl (gone before))
      · exact Or.inr (Or.inr met)

theorem step_inv {event : Event} (inv : Inv state) (open_ : ChecksWhileOpen capacity state event)
    (stepped : step capacity state event = some final) : Inv final := by
  obtain ⟨enabled, nextEq⟩ := guarded_eq_some_iff.mp stepped
  subst nextEq
  cases event with
  | subscribe registration =>
    refine { inv with kept := ?_ }
    intro other member
    rcases List.mem_cons.mp member with new | old
    · rw [new]
      exact Or.inl List.mem_cons_self
    · rcases inv.kept other old with inTable | rest
      · exact Or.inl (List.mem_cons_of_mem _ inTable)
      · exact Or.inr rest
  | unsubscribe number =>
    exact remove_inv inv (List.subset_cons_self _ _) (fun _ => id) (Or.inl List.mem_cons_self)
  | restored number subID =>
    refine inv.congr ?_ rfl rfl rfl rfl rfl
    simp only [next, List.map_map]
    apply List.map_congr_left
    intro registration _
    simp only [Function.comp_apply]
    split
    · rfl
    · rfl
  | check conn domain parent number left =>
    rw [next]
    split
    · rename_i refused
      rcases open_ with stillOpen | full
      · rw [refused] at stillOpen
        exact nomatch stillOpen
      · exact overflow_inv inv full
    · exact inv.congr rfl rfl rfl rfl rfl rfl
  | enqueue conn domain parent target number left =>
    rw [next]
    split
    · rename_i refused
      rcases open_ with stillOpen | full
      · rw [stillOpen, Bool.false_or] at refused
        exact overflow_inv inv refused
      · exact overflow_inv inv full
    · exact inv.congr rfl rfl rfl rfl rfl rfl
  | removeOverflowed number =>
    exact remove_inv inv (fun _ => id) List.erase_subset (Or.inr (inv.leaving number enabled))
  | _ => exact inv.congr rfl rfl rfl rfl rfl rfl

end Steps

/-- Only a full queue has ended a registration: every refusal that was taken for
an overflow met a full queue, so did every registration completed with an
overflow, and a registration that nobody unsubscribed and that met no full
queue is still in its table. -/
structure OnlySaturationEnds (state : State) : Prop where
  overflows : ∀ overflow ∈ state.overflows, overflow.full = true
  completed : ∀ number, state.completion number = some .overflow → MetFullQueue state number
  kept : ∀ number ∈ state.subscribed, number ∉ state.unsubscribed → ¬ MetFullQueue state number →
    number ∈ state.table.map Registration.number

theorem only_saturation_ends_a_registration (capacity : Nat) (events : List Event) (final : State)
    (ran : run (step capacity) initial events = some final)
    (whileOpen : Along (step capacity) (ChecksWhileOpen capacity) initial events) :
    OnlySaturationEnds final := by
  have inv : Inv final := invariant_along Inv step_inv initial_inv whileOpen ran
  refine
    { overflows := inv.full
      completed := inv.completed
      kept := ?_ }
  intro number member notUnsubscribed neverFull
  rcases inv.kept number member with inTable | gone | met
  · exact inTable
  · exact absurd gone notUnsubscribed
  · exact absurd met neverFull

def saturatedRun : List Event :=
  [.subscribe ⟨0, .notice, 7⟩, .subscribe ⟨1, .lease, 8⟩,
    .notify 0 .notice 7, .check 0 .notice 0 0 [],
    .enqueue 0 .notice 0 0 0 [], .handled 0 .notice 0,
    .notify 0 .notice 7, .check 0 .notice 0 0 [],
    .enqueue 0 .notice 0 0 0 [], .handled 0 .notice 0,
    .removeOverflowed 0, .heartbeatFail 0, .exitState 0, .exitDrain 0,
    .exitCancel 0]

theorem saturatedRun_keeps_the_other_registration : ∃ final,
      run (step 1) initial saturatedRun = some final ∧
        final.completion 0 = some .overflow ∧
        OnlySaturationEnds final ∧
        1 ∈ final.table.map Registration.number :=
  ⟨_, rfl, rfl, only_saturation_ends_a_registration 1 saturatedRun _ rfl (by decide), by decide⟩

/-- The heartbeat fails while the dispatch loop is in `handleNotify`, with an
empty queue. -/
def shutdownRun : List Event :=
  [.subscribe ⟨0, .notice, 7⟩, .notify 0 .notice 7, .heartbeatFail 0,
    .check 0 .notice 0 0 [], .removeOverflowed 0]

theorem shutdown_ends_a_registration : ∃ final, run (step 1024) initial shutdownRun = some final ∧
        (final.conns 0).jobs = [] ∧
        final.completion 0 = some .overflow ∧ final.table = [] ∧
        final.unsubscribed = [] ∧ ¬ OnlySaturationEnds final :=
  ⟨_, rfl, rfl, rfl, rfl, rfl, fun only => absurd (only.completed 0 rfl) (by decide)⟩

end FitzGo.Connection.AsyncHandlers
