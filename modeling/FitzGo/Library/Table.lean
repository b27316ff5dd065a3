import Mathlib.Algebra.GroupWithZero.Nat
import Mathlib.Data.List.AList

/-!
# Totals over finite tables

A table gives every key at most one value. Its total adds up a weight of the
values, and changes with an update by the weight of what the key had before and
the weight of what it has now.
-/

namespace Table

universe u v

variable {Key : Type u} {Value : Type v}

def total (weight : Value → Nat) (table : AList fun _ : Key => Value) : Nat :=
  (table.entries.map fun entry => weight entry.2).sum

theorem total_one (table : AList fun _ : Key => Value) :
    total (fun _ => 1) table = table.entries.length := by
  unfold total
  rw [List.map_const', List.sum_replicate_nat, Nat.mul_one]

def values (table : AList fun _ : Key => Value) : List Value :=
  table.entries.map Sigma.snd

variable [DecidableEq Key] {value : Value} {table : AList fun _ : Key => Value}

theorem mem_values_iff : value ∈ values table ↔ ∃ key, table.lookup key = some value := by
  unfold values
  rw [List.mem_map]
  constructor
  · rintro ⟨⟨key, _⟩, member, rfl⟩
    exact ⟨key, AList.mem_lookup_iff.mpr member⟩
  · rintro ⟨key, found⟩
    exact ⟨⟨key, value⟩, AList.mem_lookup_iff.mp found, rfl⟩

theorem lookup_erase_eq_some_iff {key wanted : Key} :
    (table.erase key).lookup wanted = some value ↔
      wanted ≠ key ∧ table.lookup wanted = some value := by
  by_cases same : wanted = key
  · subst same
    simp
  · rw [AList.lookup_erase_ne same]
    simp [same]

theorem lookup_insert_eq_some_iff {key wanted : Key} {new value : Value} :
    (table.insert key new).lookup wanted = some value ↔ (wanted = key ∧ new = value) ∨
        (wanted ≠ key ∧ table.lookup wanted = some value) := by
  by_cases same : wanted = key
  · subst same
    simp
  · rw [AList.lookup_insert_ne same]
    simp [same]

theorem nodup_values
    (injective : ∀ {first second value}, table.lookup first = some value →
      table.lookup second = some value → first = second) : (values table).Nodup := by
  have entries : table.entries.Nodup := table.nodupKeys.nodup
  refine entries.map_on fun first member second other same => ?_
  obtain ⟨key, value⟩ := first
  obtain ⟨otherKey, otherValue⟩ := second
  cases same
  have equal : key = otherKey :=
    injective (AList.mem_lookup_iff.mpr member) (AList.mem_lookup_iff.mpr other)
  rw [equal]

def weightAt (weight : Value → Nat) (table : AList fun _ : Key => Value) (key : Key) : Nat :=
  (table.lookup key).elim 0 weight

variable (weight : Value → Nat)

theorem weightAt_of_lookup {key : Key} (found : table.lookup key = some value) :
    weightAt weight table key = weight value := by
  rw [weightAt, found]
  rfl

theorem weightAt_of_absent {key : Key} (absent : table.lookup key = none) :
    weightAt weight table key = 0 := by
  rw [weightAt, absent]
  rfl

theorem sum_kerase (key : Key) :
    ∀ entries : List (Sigma fun _ : Key => Value),
      ((entries.kerase key).map fun entry => weight entry.2).sum +
          (entries.dlookup key).elim 0 weight =
        (entries.map fun entry => weight entry.2).sum
  | [] => rfl
  | ⟨other, value⟩ :: entries => by
      by_cases same : key = other
      · subst same
        have first : List.kerase key (⟨key, value⟩ :: entries) = entries := List.kerase_cons_eq rfl
        rw [first, List.dlookup_cons_eq, List.map_cons, List.sum_cons]
        exact Nat.add_comm _ _
      · have rest := sum_kerase key entries
        rw [List.kerase_cons_ne same, List.dlookup_cons_ne _ _ same,
          List.map_cons, List.map_cons, List.sum_cons, List.sum_cons, ← rest,
          Nat.add_assoc]

theorem total_erase (table : AList fun _ : Key => Value) (key : Key) :
    total weight (table.erase key) + weightAt weight table key = total weight table :=
  sum_kerase weight key table.entries

theorem total_insert (table : AList fun _ : Key => Value) (key : Key) (value : Value) :
    total weight (table.insert key value) + weightAt weight table key =
      total weight table + weight value := by
  have rest := total_erase weight table key
  have inserted :
      total weight (table.insert key value) = weight value + total weight (table.erase key) := by
    unfold total
    rw [AList.entries_insert, List.map_cons, List.sum_cons]
    rfl
  omega

/-! ## Filling a table -/

section Fill

universe w

variable {Item : Type w} {key : Item → Key} {value : Item → Value}
variable {items : List Item}

/-- A loop that sets the key of every item to its value. -/
def fill (key : Item → Key) (value : Item → Value) (items : List Item)
    (table : AList fun _ : Key => Value) : AList fun _ : Key => Value :=
  items.foldl (fun table item => table.insert (key item) (value item)) table

theorem lookup_fill_of_notMem {wanted : Key} (absent : wanted ∉ items.map key)
    (table : AList fun _ : Key => Value) :
    (fill key value items table).lookup wanted = table.lookup wanted := by
  induction items generalizing table with
  | nil => rfl
  | cons item rest ih =>
    simp only [List.map_cons, List.mem_cons, not_or] at absent
    have restEq := ih absent.2 (table.insert (key item) (value item))
    rw [AList.lookup_insert_ne absent.1] at restEq
    exact restEq

theorem lookup_fill_of_mem {item : Item} (distinct : (items.map key).Nodup) (member : item ∈ items)
    (table : AList fun _ : Key => Value) :
    (fill key value items table).lookup (key item) = some (value item) := by
  induction items generalizing table with
  | nil => cases member
  | cons first rest ih =>
    simp only [List.map_cons, List.nodup_cons] at distinct
    rcases List.mem_cons.mp member with rfl | later
    · have kept : (fill key value rest (table.insert (key item) (value item))).lookup (key item) =
            (table.insert (key item) (value item)).lookup (key item) :=
        lookup_fill_of_notMem distinct.1 _
      rw [AList.lookup_insert] at kept
      exact kept
    · exact ih distinct.2 later _

theorem lookup_insert_of_lookup {present : Key} {found : Value}
    (here : table.lookup present = some found) (wanted : Key) :
    (table.insert present found).lookup wanted = table.lookup wanted := by
  by_cases same : wanted = present
  · rw [same, AList.lookup_insert, here]
  · rw [AList.lookup_insert_ne same]

theorem lookup_fill_of_agree
    (agree : ∀ item ∈ items, table.lookup (key item) = some (value item)) (wanted : Key) :
    (fill key value items table).lookup wanted = table.lookup wanted := by
  induction items generalizing table with
  | nil => rfl
  | cons item rest ih =>
    have unchanged := lookup_insert_of_lookup (agree item List.mem_cons_self)
    have agreeRest : ∀ other ∈ rest, (table.insert (key item) (value item)).lookup (key other) =
          some (value other) := by
      intro other member
      rw [unchanged]
      exact agree other (List.mem_cons_of_mem _ member)
    exact (ih agreeRest).trans (unchanged wanted)

theorem lookup_fill_empty_eq_some_iff {wanted : Key} {found : Value}
    (distinct : (items.map key).Nodup) :
    (fill key value items ∅).lookup wanted = some found ↔
      ∃ item ∈ items, key item = wanted ∧ value item = found := by
  constructor
  · intro here
    by_cases listed : wanted ∈ items.map key
    · obtain ⟨item, member, rfl⟩ := List.mem_map.mp listed
      rw [lookup_fill_of_mem distinct member] at here
      cases here
      exact ⟨item, member, rfl, rfl⟩
    · rw [lookup_fill_of_notMem listed, AList.lookup_empty] at here
      cases here
  · rintro ⟨item, member, rfl, rfl⟩
    exact lookup_fill_of_mem distinct member ∅

end Fill

end Table
