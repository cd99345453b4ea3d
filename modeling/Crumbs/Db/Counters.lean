import Mathlib.Algebra.BigOperators.Group.Finset.Basic
import Mathlib.Algebra.Order.BigOperators.Group.Finset

/-!
# Counters That Grow

A counter for every index of a type that may be infinite. In a step only finitely many of them grow,
so that what they have grown by in a run is a number, although they have no sum.

## Contents

- `GrowsBy`: no counter falls, and together they have grown by `n`
- `GrowsBy.refl`, `GrowsBy.trans`, `GrowsBy.single`: runs, and a step that counts on one index
-/

namespace Crumbs.Db

open Finset

variable {ι : Type} {f f' f'' : ι → ℕ} {n n' : ℕ}

/-- No counter falls, all but finitely many stay, and together they have grown by `n`. -/
def GrowsBy (n : ℕ) (f f' : ι → ℕ) : Prop :=
  (∀ i, f i ≤ f' i) ∧ ∃ s : Finset ι, (∀ i ∉ s, f' i = f i) ∧ ∑ i ∈ s, f' i = ∑ i ∈ s, f i + n

namespace GrowsBy

theorem refl (f : ι → ℕ) : GrowsBy 0 f f := ⟨fun _ => le_rfl, ∅, fun _ _ => rfl, rfl⟩

theorem of_eq (h : f' = f) : GrowsBy 0 f f' := h ▸ refl f

/-- More indices make no difference. -/
theorem sum_eq {s t : Finset ι} (hst : s ⊆ t) (hs : ∀ i ∉ s, f' i = f i)
    (hsum : ∑ i ∈ s, f' i = ∑ i ∈ s, f i + n) : ∑ i ∈ t, f' i = ∑ i ∈ t, f i + n := by
  classical
  have hrest : ∑ i ∈ t \ s, f' i = ∑ i ∈ t \ s, f i :=
    sum_congr rfl fun i hi => hs i (mem_sdiff.1 hi).2
  rw [← sum_sdiff hst, ← sum_sdiff (f := f) hst, hrest, hsum, Nat.add_assoc]

theorem trans (h : GrowsBy n f f') (h' : GrowsBy n' f' f'') : GrowsBy (n + n') f f'' := by
  classical
  obtain ⟨hle, s, hs, hsum⟩ := h
  obtain ⟨hle', t, ht, hsum'⟩ := h'
  refine ⟨fun i => (hle i).trans (hle' i), s ∪ t, fun i hi => ?_, ?_⟩
  · rw [mem_union, not_or] at hi
    exact (ht i hi.2).trans (hs i hi.1)
  · rw [sum_eq subset_union_right ht hsum', sum_eq subset_union_left hs hsum, Nat.add_assoc]

/-- One counter counts. -/
theorem single [DecidableEq ι] {i : ι} (hi : f' i = f i + n) (hne : ∀ j ≠ i, f' j = f j) :
    GrowsBy n f f' := by
  refine ⟨fun j => ?_, {i}, fun j hj => hne j (notMem_singleton.1 hj), ?_⟩
  · by_cases hj : j = i
    · rw [hj, hi]
      exact Nat.le_add_right _ _
    · exact (hne j hj).ge
  · rw [sum_singleton, sum_singleton, hi]

end GrowsBy

end Crumbs.Db
