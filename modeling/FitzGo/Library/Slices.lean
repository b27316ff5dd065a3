import Mathlib.Data.List.Basic
import Mathlib.Logic.Function.Basic

/-!
# Slices over shared arrays

A slice is a view of the first elements of an array. Appending to a slice that
was cut short writes over what the longer one showed, and an append beyond the
length of the array moves the slice to a new one.
-/

namespace Slices

universe u

structure Slice where
  array : Nat
  len : Nat
  deriving DecidableEq

def Slice.nil : Slice := ⟨0, 0⟩

def Slice.reslice (slice : Slice) (len : Nat) : Slice :=
  { slice with len }

structure Arena (α : Type u) where
  backing : Nat → List α
  arrays : Nat

namespace Arena

variable {α : Type u}

/-- The array of the nil slice has number 0 and no elements. -/
def empty : Arena α := ⟨fun _ => [], 1⟩

def cap (arena : Arena α) (slice : Slice) : Nat :=
  (arena.backing slice.array).length

def contents (arena : Arena α) (slice : Slice) : List α :=
  (arena.backing slice.array).take slice.len

def write (arena : Arena α) (array : Nat) (elements : List α) : Arena α :=
  { arena with backing := Function.update arena.backing array elements }

def allocate (arena : Arena α) (elements : List α) (len : Nat) : Arena α × Slice :=
  ({ arena.write arena.arrays elements with arrays := arena.arrays + 1 }, ⟨arena.arrays, len⟩)

def make [Inhabited α] (arena : Arena α) (len cap : Nat) : Arena α × Slice :=
  arena.allocate (List.replicate cap default) len

def set (arena : Arena α) (slice : Slice) (index : Nat) (value : α) : Arena α :=
  arena.write slice.array ((arena.backing slice.array).set index value)

/-- Within the array the element is written in place; otherwise the elements
move to a new array of at least twice the length. -/
def append [Inhabited α] (arena : Arena α) (slice : Slice) (value : α) : Arena α × Slice :=
  if slice.len < arena.cap slice then
    (arena.set slice slice.len value, slice.reslice (slice.len + 1))
  else
    arena.allocate (arena.contents slice ++ value :: List.replicate (arena.cap slice) default)
      (slice.len + 1)

def appendAll [Inhabited α] (arena : Arena α) (slice : Slice) : List α → Arena α × Slice
  | [] => (arena, slice)
  | value :: rest =>
    let appended := arena.append slice value
    appended.1.appendAll appended.2 rest

/-- An empty slice with room for `size` elements, over the array of `slice` if
that is long enough. -/
def reuse [Inhabited α] (arena : Arena α) (slice : Slice) (size : Nat) : Arena α × Slice :=
  if arena.cap (slice.reslice 0) < size then arena.make 0 size
  else (arena, slice.reslice 0)

def replace (arena : Arena α) (slice : Slice) (elements : List α) : Arena α :=
  arena.write slice.array (elements ++ (arena.backing slice.array).drop slice.len)

@[simp]
theorem backing_write_self (arena : Arena α) (array : Nat) (elements : List α) :
    (arena.write array elements).backing array = elements :=
  Function.update_self ..

variable {arena : Arena α} {slice : Slice}

theorem length_contents (within : slice.len ≤ arena.cap slice) :
    (arena.contents slice).length = slice.len :=
  List.length_take_of_le within

@[simp]
theorem cap_reslice (arena : Arena α) (slice : Slice) (len : Nat) :
    arena.cap (slice.reslice len) = arena.cap slice :=
  rfl

@[simp]
theorem cap_make [Inhabited α] (arena : Arena α) (len cap : Nat) :
    (arena.make len cap).1.cap (arena.make len cap).2 = cap := by
  unfold make allocate Arena.cap
  rw [backing_write_self, List.length_replicate]

@[simp]
theorem cap_set (arena : Arena α) (slice : Slice) (index : Nat) (value : α) :
    (arena.set slice index value).cap slice = arena.cap slice := by
  unfold set Arena.cap
  rw [backing_write_self, List.length_set]

theorem take_contents_set (arena : Arena α) (slice : Slice) (index : Nat) (value : α) :
    ((arena.set slice index value).contents slice).take index =
      (arena.contents slice).take index := by
  unfold contents set
  rw [backing_write_self, List.take_take, List.take_take, List.take_set_of_le (Nat.min_le_left _ _)]

theorem getElem?_contents_set {index : Nat}
    (value : α) (inside : index < slice.len) (within : slice.len ≤ arena.cap slice) :
    ((arena.set slice index value).contents slice)[index]? = some value := by
  unfold contents set
  rw [backing_write_self, List.getElem?_take_of_lt inside,
    List.getElem?_set_self (Nat.lt_of_lt_of_le inside within)]

theorem take_succ_contents_set {index : Nat}
    (value : α) (inside : index < slice.len) (within : slice.len ≤ arena.cap slice) :
    ((arena.set slice index value).contents slice).take (index + 1) =
      (arena.contents slice).take index ++ [value] := by
  rw [List.take_add_one, take_contents_set, getElem?_contents_set value inside within]
  rfl

section Append

variable [Inhabited α] {arena : Arena α} {slice : Slice}

theorem append_of_lt (value : α) (room : slice.len < arena.cap slice) :
    arena.append slice value = (arena.set slice slice.len value, slice.reslice (slice.len + 1)) :=
  if_pos room

theorem contents_append (value : α) (room : slice.len < arena.cap slice) :
    (arena.append slice value).1.contents (arena.append slice value).2 =
      arena.contents slice ++ [value] := by
  rw [append_of_lt value room]
  unfold contents set
  rw [Slice.reslice, backing_write_self, List.take_add_one,
    List.take_set_of_le (Nat.le_refl _), List.getElem?_set_self room]
  rfl

theorem len_append (arena : Arena α) (slice : Slice) (value : α) :
    (arena.append slice value).2.len = slice.len + 1 := by
  unfold append
  split <;> rfl

theorem cap_append (value : α) (room : slice.len < arena.cap slice) :
    (arena.append slice value).1.cap (arena.append slice value).2 = arena.cap slice := by
  rw [append_of_lt value room]
  exact (cap_reslice _ slice _).trans (cap_set arena slice _ value)

theorem contents_appendAll : ∀ (values : List α) {arena : Arena α} {slice : Slice},
      slice.len + values.length ≤ arena.cap slice →
      (arena.appendAll slice values).1.contents (arena.appendAll slice values).2 =
        arena.contents slice ++ values
  | [], arena, slice, _ => (List.append_nil _).symm
  | value :: rest, arena, slice, room => by
      rw [List.length_cons] at room
      have first : slice.len < arena.cap slice := by omega
      have roomRest : (arena.append slice value).2.len + rest.length ≤
            (arena.append slice value).1.cap (arena.append slice value).2 := by
        rw [len_append, cap_append value first]
        omega
      rw [appendAll, contents_appendAll rest roomRest,
        contents_append value first, List.append_assoc]
      rfl

theorem len_appendAll : ∀ (values : List α) (arena : Arena α) (slice : Slice),
      (arena.appendAll slice values).2.len = slice.len + values.length
  | [], _, _ => rfl
  | value :: rest, arena, slice => by
      rw [appendAll, len_appendAll rest, len_append, List.length_cons]
      omega

theorem len_reuse (arena : Arena α) (slice : Slice) (size : Nat) :
    (arena.reuse slice size).2.len = 0 := by
  unfold reuse
  split <;> rfl

theorem contents_reuse (arena : Arena α) (slice : Slice) (size : Nat) :
    (arena.reuse slice size).1.contents (arena.reuse slice size).2 = [] := by
  rw [contents, len_reuse, List.take_zero]

theorem size_le_cap_reuse (arena : Arena α) (slice : Slice) (size : Nat) :
    size ≤ (arena.reuse slice size).1.cap (arena.reuse slice size).2 := by
  unfold reuse
  split
  · exact Nat.le_of_eq (cap_make arena 0 size).symm
  · exact Nat.le_of_not_lt ‹_›

end Append

theorem contents_replace {arena : Arena α} {slice : Slice} {elements : List α}
    (same : elements.length = slice.len) :
    (arena.replace slice elements).contents slice = elements := by
  unfold contents replace
  rw [backing_write_self, List.take_append_of_le_length (by omega), ← same, List.take_length]

end Arena
end Slices
