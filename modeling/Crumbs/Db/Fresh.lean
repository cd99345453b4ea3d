import Mathlib.Data.Finset.Basic
import Mathlib.Data.Finset.Dedup
import Mathlib.Data.Finset.Lattice.Lemmas
import Mathlib.Data.List.Nodup

/-!
# Loops with a Set of Seen Keys

A loop that goes through a list and keeps the elements whose keys it has not seen, with or without
a bound on how many it keeps. What it adds is the list of the fresh elements.

## Contents

- `keep`, `keepUpTo`: a round of the loop, and the loop that stops at a bound
- `fresh`: the first element of each key that is not seen
- `foldl_keep`, `fst_keepUpTo`: the loops add the fresh elements
-/

namespace Crumbs.Db

variable {α κ : Type*} [DecidableEq κ] (key : α → κ)

/-- One round: an element whose key is new is kept, and its key is seen from then on. -/
def keep (state : List α × Finset κ) (a : α) : List α × Finset κ :=
  if key a ∈ state.2 then state else (state.1 ++ [a], insert (key a) state.2)

/-- The rounds, until `limit` elements are kept; the first round always takes place. -/
def keepUpTo (limit : ℕ) (state : List α × Finset κ) : List α → List α × Finset κ
  | [] => state
  | a :: l =>
    let state := keep key state a
    if limit ≤ state.1.length then state else keepUpTo limit state l

/-- The elements whose keys are not seen, the first of each key. -/
def fresh (seen : Finset κ) : List α → List α
  | [] => []
  | a :: l => if key a ∈ seen then fresh seen l else a :: fresh (insert (key a) seen) l

theorem fresh_sublist (seen : Finset κ) (l : List α) : (fresh key seen l).Sublist l := by
  induction l generalizing seen with
  | nil => exact .slnil
  | cons a l ih =>
    rw [fresh]
    split
    · exact (ih seen).cons a
    · exact (ih _).cons_cons a

theorem not_mem_of_mem_fresh {seen : Finset κ} {l : List α} {a : α}
    (h : a ∈ fresh key seen l) : key a ∉ seen := by
  induction l generalizing seen with
  | nil => cases h
  | cons b l ih =>
    rw [fresh] at h
    split at h
    · exact ih h
    · next new =>
      rcases List.mem_cons.1 h with rfl | later
      · exact new
      · exact fun old => ih later (Finset.mem_insert_of_mem old)

theorem nodup_fresh (seen : Finset κ) (l : List α) : ((fresh key seen l).map key).Nodup := by
  induction l generalizing seen with
  | nil => exact List.nodup_nil
  | cons a l ih =>
    rw [fresh]
    split
    · exact ih seen
    · refine List.nodup_cons.2 ⟨fun again => ?_, ih _⟩
      obtain ⟨b, hb, same⟩ := List.mem_map.1 again
      exact not_mem_of_mem_fresh key hb (same ▸ Finset.mem_insert_self _ _)

/-- Of elements with new and different keys all are fresh. -/
theorem fresh_eq_self {seen : Finset κ} {l : List α} (distinct : (l.map key).Nodup)
    (new : ∀ a ∈ l, key a ∉ seen) : fresh key seen l = l := by
  induction l generalizing seen with
  | nil => rfl
  | cons a l ih =>
    obtain ⟨other, distinct⟩ := List.nodup_cons.1 distinct
    rw [fresh, if_neg (new a List.mem_cons_self), ih distinct]
    intro b hb seen'
    rcases Finset.mem_insert.1 seen' with same | old
    · exact other (same ▸ List.mem_map_of_mem hb)
    · exact new b (List.mem_cons_of_mem _ hb) old

/-- The loop adds the fresh elements, and has seen their keys. -/
theorem foldl_keep (kept : List α) (seen : Finset κ) (l : List α) :
    l.foldl (keep key) (kept, seen) =
      (kept ++ fresh key seen l, seen ∪ ((fresh key seen l).map key).toFinset) := by
  induction l generalizing kept seen with
  | nil => simp [fresh]
  | cons a l ih =>
    rw [List.foldl_cons, keep, fresh]
    split
    · exact ih kept seen
    · rw [ih, List.append_assoc, List.map_cons, List.toFinset_cons, Finset.union_insert,
        Finset.insert_union]
      rfl

/-- The bounded loop adds the first fresh elements, as long as there is room. -/
theorem fst_keepUpTo {limit : ℕ} {kept : List α} (room : kept.length < limit) (seen : Finset κ)
    (l : List α) : (keepUpTo key limit (kept, seen) l).1 =
      kept ++ (fresh key seen l).take (limit - kept.length) := by
  induction l generalizing kept seen with
  | nil => simp [keepUpTo, fresh]
  | cons a l ih =>
    rw [keepUpTo, fresh]
    by_cases old : key a ∈ seen
    · have skip : keep key (kept, seen) a = (kept, seen) := if_pos old
      rw [skip, if_pos old, if_neg (by simpa using room)]
      exact ih room seen
    · have add : keep key (kept, seen) a = (kept ++ [a], insert (key a) seen) := if_neg old
      rw [add, if_neg old]
      by_cases full : limit ≤ (kept ++ [a]).length
      · -- the element takes the last place
        have last : limit - kept.length = 1 := by
          rw [List.length_append, List.length_singleton] at full
          omega
        rw [if_pos full, last]
        rfl
      · have more : limit - kept.length = limit - (kept ++ [a]).length + 1 := by
          rw [List.length_append, List.length_singleton] at full ⊢
          omega
        rw [if_neg full, ih (not_le.1 full), more, List.take_succ_cons, List.append_assoc]
        rfl

end Crumbs.Db
