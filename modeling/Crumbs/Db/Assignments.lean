import Crumbs.Db.Table
import Mathlib.Logic.Function.Basic

/-!
# Rows of an Owner

A table whose rows belong to owners and give each of them a value. Nothing in the table keeps an
owner from having several rows. Writes that replace all rows of an owner by one make the table a
partial function from owners to values, and the deletions that come with foreign keys keep it one.

## Contents

- `Table.valuesOf`: the values of an owner, the oldest first
- `Table.replaceFor`: the rows of an owner replaced by one
- `Table.Assigns`: the table is a partial function, with a rule for each write
-/

namespace Crumbs.Db

namespace Table

variable {ρ κ β : Type} [DecidableEq κ] (owner : ρ → κ) (value : ρ → β)

/-- The values of an owner, the oldest first. -/
def valuesOf (t : Table ρ) (k : κ) : List β :=
  (t.filter fun r => decide (owner r = k)).map fun e => value e.2

/-- `DELETE` of all rows of the owner of `r`, and `INSERT` of `r`. -/
def replaceFor (t : Table ρ) (r : ρ) : Table ρ :=
  (t.eraseWhere fun r' => decide (owner r' = owner r)).insert r

/-- A query after a delete finds what it found before, but for the deleted rows. -/
theorem filter_eraseWhere (t : Table ρ) (p q : ρ → Bool) :
    (t.eraseWhere q).filter p = (t.filter p).filter fun e => !q e.2 := by
  have hnext : (t.eraseWhere q).next = t.next := rfl
  rw [filter, filter, entries, entries, hnext, List.filter_filterMap, List.filter_filterMap,
    List.filter_filterMap]
  refine List.filterMap_congr fun i _ => ?_
  rw [rows_eraseWhere]
  cases t.rows i with
  | none => rfl
  | some r => cases hq : q r <;> cases hp : p r <;> simp [Option.filter, hq, hp]

variable {owner value} {t : Table ρ} {k : κ} {r : ρ}

theorem valuesOf_insert (t : Table ρ) (r : ρ) (k : κ) :
    (t.insert r).valuesOf owner value k =
      t.valuesOf owner value k ++ if owner r = k then [value r] else [] := by
  rw [valuesOf, filter_insert, List.map_append, ← valuesOf]
  by_cases h : owner r = k <;> simp [h]

/-- A delete takes from an owner the values that no row is left with. -/
theorem valuesOf_eraseWhere (t : Table ρ) {q : ρ → Bool} (keeps : β → Bool)
    (h : ∀ r, owner r = k → (!q r) = keeps (value r)) :
    (t.eraseWhere q).valuesOf owner value k = (t.valuesOf owner value k).filter keeps := by
  rw [valuesOf, filter_eraseWhere, valuesOf, List.filter_map]
  congr 1
  refine List.filter_congr fun e he => ?_
  exact h e.2 (of_decide_eq_true (mem_filter.1 he).2)

/-- An owner whose rows are all deleted. -/
theorem valuesOf_eraseWhere_self (t : Table ρ) (k : κ) :
    (t.eraseWhere fun r => decide (owner r = k)).valuesOf owner value k = [] := by
  have hnone : ∀ r, owner r = k → (!decide (owner r = k)) = false := fun r hr => by simp [hr]
  rw [valuesOf_eraseWhere t (fun _ => false) hnone, List.filter_false]

/-- An owner that has none of the deleted rows. -/
theorem valuesOf_eraseWhere_ne (t : Table ρ) {j k : κ} (h : k ≠ j) :
    (t.eraseWhere fun r => decide (owner r = j)).valuesOf owner value k =
      t.valuesOf owner value k := by
  have hall : ∀ r, owner r = k → (!decide (owner r = j)) = true := fun r hr => by simp [hr, h]
  rw [valuesOf_eraseWhere t (fun _ => true) hall, List.filter_true]

/-- After a replacement the owner has one value, and the others have what they had. -/
theorem valuesOf_replaceFor (t : Table ρ) (r : ρ) (k : κ) :
    (t.replaceFor owner r).valuesOf owner value k =
      if owner r = k then [value r] else t.valuesOf owner value k := by
  rw [replaceFor, valuesOf_insert]
  by_cases h : owner r = k
  · subst k
    rw [valuesOf_eraseWhere_self, if_pos rfl, if_pos rfl, List.nil_append]
  · rw [valuesOf_eraseWhere_ne t (Ne.symm h), if_neg h, if_neg h, List.append_nil]

/-! ## Assignments -/

/-- Every owner has the one value that `a` gives it, or none if `a` gives none. -/
def Assigns (owner : ρ → κ) (value : ρ → β) (t : Table ρ) (a : κ → Option β) : Prop :=
  ∀ k, t.valuesOf owner value k = (a k).toList

variable {a : κ → Option β}

theorem Assigns.head? (h : t.Assigns owner value a) (k : κ) :
    (t.valuesOf owner value k).head? = a k := by
  rw [h k]
  cases a k <;> rfl

theorem Assigns.replaceFor (h : t.Assigns owner value a) (r : ρ) :
    (t.replaceFor owner r).Assigns owner value (Function.update a (owner r) (some (value r))) := by
  intro k
  rw [valuesOf_replaceFor]
  by_cases hk : owner r = k
  · subst k
    rw [if_pos rfl, Function.update_self]
    rfl
  · rw [if_neg hk, Function.update_of_ne (Ne.symm hk), h k]

/-- An owner is deleted, and its rows with it. -/
theorem Assigns.eraseOwner (h : t.Assigns owner value a) (j : κ) :
    (t.eraseWhere fun r => decide (owner r = j)).Assigns owner value (Function.update a j none) := by
  intro k
  by_cases hk : k = j
  · subst k
    rw [valuesOf_eraseWhere_self, Function.update_self]
    rfl
  · rw [valuesOf_eraseWhere_ne t hk, Function.update_of_ne hk, h k]

/-- A value is deleted, and the rows that refer to it with it. -/
theorem Assigns.eraseValue [DecidableEq β] (h : t.Assigns owner value a) (b : β) :
    (t.eraseWhere fun r => decide (value r = b)).Assigns owner value
      fun k => (a k).filter fun b' => !decide (b' = b) := by
  intro k
  rw [valuesOf_eraseWhere t (fun b' => !decide (b' = b)) fun _ _ => rfl, h k]
  cases hk : a k with
  | none => simp [hk]
  | some b' => by_cases hb : b' = b <;> simp [hk, hb, Option.filter_some]

end Table

end Crumbs.Db
