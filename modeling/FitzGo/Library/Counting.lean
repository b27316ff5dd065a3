import Mathlib.Data.Nat.Count
import Mathlib.Logic.Function.Basic

/-!
# Counting the entries of a table

A table gives what each numbered process is doing. `tally` counts those among
the first `size` that satisfy a predicate.
-/

namespace Counting

universe u

variable {Entry : Type u} {table : Nat → Entry} {size : Nat}
  (holds : Entry → Prop) [DecidablePred holds]

/-- The number of the first `size` entries that satisfy `holds`. -/
def tally (table : Nat → Entry) (size : Nat) : Nat :=
  Nat.count (fun index => holds (table index)) size

def weight (entry : Entry) : Nat :=
  if holds entry then 1 else 0

theorem tally_succ (table : Nat → Entry) (size : Nat) :
    tally holds table (size + 1) = tally holds table size + weight holds (table size) :=
  Nat.count_succ _ size

theorem tally_congr {left right : Nat → Entry} (same : ∀ index < size, left index = right index) :
    tally holds left size = tally holds right size := by
  induction size with
  | zero => rfl
  | succ size ih =>
    have below := ih fun index bound => same index (Nat.lt_succ_of_lt bound)
    rw [tally_succ, tally_succ, below, same size (Nat.lt_succ_self size)]

theorem tally_update (table : Nat → Entry) {index : Nat} (bound : index < size) (value : Entry) :
    tally holds (Function.update table index value) size + weight holds (table index) =
      tally holds table size + weight holds value := by
  induction size with
  | zero => exact absurd bound (Nat.not_lt_zero index)
  | succ size ih =>
    rw [tally_succ, tally_succ]
    rcases Nat.lt_succ_iff_lt_or_eq.mp bound with earlier | rfl
    · have kept : Function.update table index value size = table size :=
        Function.update_of_ne earlier.ne' value table
      have below := ih earlier
      rw [kept]
      omega
    · have below :
          tally holds (Function.update table index value) index = tally holds table index :=
        tally_congr holds fun other before => Function.update_of_ne before.ne value table
      rw [Function.update_self, below]
      omega

theorem tally_update_size (table : Nat → Entry) (size : Nat) (value : Entry) :
    tally holds (Function.update table size value) (size + 1) =
      tally holds table size + weight holds value := by
  have below : tally holds (Function.update table size value) size = tally holds table size :=
    tally_congr holds fun other before => Function.update_of_ne before.ne value table
  rw [tally_succ, Function.update_self, below]

theorem tally_eq_zero (nowhere : ∀ index < size, ¬ holds (table index)) :
    tally holds table size = 0 := by
  induction size with
  | zero => rfl
  | succ size ih =>
    have below := ih fun index bound => nowhere index (Nat.lt_succ_of_lt bound)
    rw [tally_succ, below, weight, if_neg (nowhere size (Nat.lt_succ_self size))]

theorem tally_pos {index : Nat} (bound : index < size) (found : holds (table index)) :
    0 < tally holds table size :=
  (Nat.zero_le _).trans_lt (Nat.count_strict_mono found bound)

theorem tally_mono {stronger : Entry → Prop} [DecidablePred stronger]
    (implies : ∀ entry, stronger entry → holds entry) (table : Nat → Entry) (size : Nat) :
    tally stronger table size ≤ tally holds table size :=
  Nat.count_mono_left fun _ _ found => implies _ found

end Counting
