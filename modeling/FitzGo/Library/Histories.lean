import Mathlib.Data.List.Basic

/-!
# Histories

A history is a list of what has happened, in the order of time. `Throughout`
says that everything in it was allowed by what came before, `Occurs` that
something happened in a given situation, and `since` is what came after an item.
-/

namespace Histories

universe u

variable {α : Type u}

def Throughout (allowed : List α → α → Prop) (history : List α) : Prop :=
  ∀ before item after, history = before ++ item :: after → allowed before item

def Occurs (situation : List α → α → Prop) (history : List α) : Prop :=
  ∃ before item after, history = before ++ item :: after ∧ situation before item

/-- A place in a history that has grown by one is its end or a place before. -/
theorem concat_eq_append_cons {history before after : List α} {last item : α}
    (split : history ++ [last] = before ++ item :: after) :
    (before = history ∧ item = last) ∨ ∃ rest, history = before ++ item :: rest := by
  rcases List.eq_nil_or_concat after with rfl | ⟨rest, final, rfl⟩
  · obtain ⟨same, ends⟩ := List.append_inj' split rfl
    exact Or.inl ⟨same.symm, (List.singleton_inj.mp ends).symm⟩
  · have regrouped : history ++ [last] = (before ++ item :: rest) ++ [final] := by
      simpa using split
    exact Or.inr ⟨rest, (List.append_inj' regrouped rfl).1⟩

variable {allowed situation : List α → α → Prop} {history : List α}

theorem throughout_nil : Throughout allowed [] := by
  intro before item after split
  cases before <;> cases split

theorem throughout_concat_iff {last : α} :
    Throughout allowed (history ++ [last]) ↔ Throughout allowed history ∧ allowed history last := by
  constructor
  · intro whole
    refine ⟨fun before item after split => ?_, ?_⟩
    · apply whole before item (after ++ [last])
      simp [split]
    · exact whole history last [] rfl
  · rintro ⟨earlier, now⟩ before item after split
    rcases concat_eq_append_cons split with ⟨rfl, rfl⟩ | ⟨rest, old⟩
    · exact now
    · exact earlier before item rest old

theorem occurs_concat {last : α} (now : situation history last) :
    Occurs situation (history ++ [last]) :=
  ⟨history, last, [], rfl, now⟩

theorem Occurs.append (occurs : Occurs situation history) (more : List α) :
    Occurs situation (history ++ more) := by
  obtain ⟨before, item, after, split, now⟩ := occurs
  refine ⟨before, item, after ++ more, ?_, now⟩
  simp [split]

/-! ## What came after an item -/

variable [DecidableEq α]

/-- What came after the first occurrence of `start`. -/
def since (start : α) : List α → List α
  | [] => []
  | item :: rest => if item = start then rest else since start rest

theorem since_append_of_mem {start : α} (started : start ∈ history) (more : List α) :
    since start (history ++ more) = since start history ++ more := by
  induction history with
  | nil => cases started
  | cons first rest ih =>
    by_cases same : first = start
    · simp [since, same]
    · have later : start ∈ rest := by
        rcases List.mem_cons.mp started with rfl | later
        · exact absurd rfl same
        · exact later
      simp [since, same, ih later]

theorem since_concat_of_mem {start : α} (started : start ∈ history) (last : α) :
    since start (history ++ [last]) = since start history ++ [last] :=
  since_append_of_mem started [last]

theorem since_concat_self {start : α} (absent : start ∉ history) :
    since start (history ++ [start]) = [] := by
  induction history with
  | nil => simp [since]
  | cons first rest ih =>
    simp only [List.mem_cons, not_or] at absent
    have different : first ≠ start := fun same => absent.1 same.symm
    simp [since, different, ih absent.2]

end Histories
