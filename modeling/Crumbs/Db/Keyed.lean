import Mathlib.Data.List.Basic

/-!
# Tables with a Unique Column

A table whose rows are found by a column that is unique, such as a one-to-one reference. The rows
are remembered in the order in which they were inserted.

## Contents

- `Keyed`: the table, with its keys
- `Keyed.put`: inserts or replaces a row
- `Keyed.newestFirst`: the rows, the newest first
-/

namespace Crumbs.Db

/-- Rows by key, and the keys in the order of insertion. -/
structure Keyed (κ ρ : Type) where
  keys : List κ
  rows : κ → Option ρ
  mem_keys : ∀ k, k ∈ keys ↔ (rows k).isSome

namespace Keyed

variable {κ ρ : Type}

def empty : Keyed κ ρ := ⟨[], fun _ => none, fun _ => iff_of_false List.not_mem_nil nofun⟩

/-- The rows, the newest first. -/
def newestFirst (t : Keyed κ ρ) : List ρ := t.keys.reverse.filterMap t.rows

variable [DecidableEq κ]

/-- Replaces the row of a key; if there is none, it is inserted. -/
def put (t : Keyed κ ρ) (k : κ) (r : ρ) : Keyed κ ρ where
  keys := if (t.rows k).isSome then t.keys else t.keys ++ [k]
  rows j := if j = k then some r else t.rows j
  mem_keys j := by
    by_cases hj : j = k
    · subst j
      rw [if_pos rfl]
      refine iff_of_true ?_ rfl
      split
      next h => exact (t.mem_keys k).2 h
      next => exact List.mem_append_right _ List.mem_cons_self
    · rw [if_neg hj, ← t.mem_keys j]
      split
      next => rfl
      next => simp [hj]

@[simp] theorem rows_put_self (t : Keyed κ ρ) (k : κ) (r : ρ) : (t.put k r).rows k = some r :=
  if_pos rfl

theorem rows_put_ne (t : Keyed κ ρ) {j k : κ} (r : ρ) (h : j ≠ k) :
    (t.put k r).rows j = t.rows j := if_neg h

@[simp] theorem put_put (t : Keyed κ ρ) (k : κ) (r r' : ρ) : (t.put k r).put k r' = t.put k r' := by
  simp only [put, if_pos, Option.isSome_some, mk.injEq, true_and]
  funext j
  split <;> rfl

end Keyed

end Crumbs.Db
