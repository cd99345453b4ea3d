import Mathlib.Data.List.DropRight

/-!
# Trimming a List

What is left of a list without the elements at its two ends that satisfy a predicate, and how
trimming goes together with filtering and with cutting the list off.

## Contents

- `trim`: the list without what satisfies `p` at its ends
- `trim_idem`, `trim_eq_self_iff`: trimming again, and the lists that are trimmed already
- `trim_filter_trim`: trimming before a filter is lost in the trimming after it
- `trim_take_eq_self_iff`: when a cut leaves a trimmed list trimmed
-/

namespace Crumbs.Text

variable {α : Type*} (p : α → Bool)

/-- The list without the elements at either end that satisfy `p`. -/
def trim (l : List α) : List α := (l.dropWhile p).rdropWhile p

@[simp] theorem trim_nil : trim p ([] : List α) = [] := by simp [trim]

theorem trim_sublist (l : List α) : (trim p l).Sublist l :=
  (List.rdropWhile_prefix p _).sublist.trans (List.dropWhile_sublist p)

/-- A list is its trimmed part between elements that satisfy `p`. -/
theorem exists_trim (l : List α) : ∃ pre post, (∀ a ∈ pre, p a) ∧ (∀ a ∈ post, p a) ∧
    l = pre ++ trim p l ++ post := by
  refine ⟨l.takeWhile p, (l.dropWhile p).rtakeWhile p, fun a ha => List.mem_takeWhile_imp ha,
    fun a ha => List.mem_rtakeWhile_imp ha, ?_⟩
  rw [trim, List.append_assoc, List.rdropWhile_append_rtakeWhile, List.takeWhile_append_dropWhile]

theorem trim_append_of_left {pre l : List α} (h : ∀ a ∈ pre, p a) :
    trim p (pre ++ l) = trim p l := by
  rw [trim, trim, List.dropWhile_append_of_pos h]

theorem rdropWhile_append_of_right {l post : List α} (h : ∀ a ∈ post, p a) :
    (l ++ post).rdropWhile p = l.rdropWhile p := by
  rw [List.rdropWhile, List.reverse_append, List.dropWhile_append_of_pos (by simpa using h),
    List.rdropWhile]

theorem trim_append_of_right {l post : List α} (h : ∀ a ∈ post, p a) :
    trim p (l ++ post) = trim p l := by
  rw [trim, trim, List.dropWhile_append]
  split
  · next all =>
    -- nothing but blanks: both sides are empty
    have nil : l.dropWhile p = [] := List.isEmpty_iff.1 all
    have rest : post.dropWhile p = [] := List.dropWhile_eq_nil_iff.2 h
    rw [nil, rest]
  · exact rdropWhile_append_of_right p h

theorem trim_filter_trim (q : α → Bool) (l : List α) :
    trim p ((trim p l).filter q) = trim p (l.filter q) := by
  obtain ⟨pre, post, hpre, hpost, hl⟩ := exists_trim p l
  have kept {s : List α} (h : ∀ a ∈ s, p a) : ∀ a ∈ s.filter q, p a :=
    fun a ha => h a (List.mem_filter.1 ha).1
  conv_rhs => rw [hl, List.filter_append, List.filter_append]
  rw [trim_append_of_right p (kept hpost), trim_append_of_left p (kept hpre)]

/-! ## Trimmed lists -/

theorem trim_eq_self_iff {l : List α} :
    trim p l = l ↔ (∀ h : l ≠ [], ¬p (l.head h)) ∧ ∀ h : l ≠ [], ¬p (l.getLast h) := by
  constructor
  · intro same
    have left : l.dropWhile p = l := by
      have short := (List.rdropWhile_prefix p (l.dropWhile p)).length_le
      rw [← trim, same] at short
      exact (List.dropWhile_sublist p).eq_of_length_le short
    refine ⟨fun h => ?_, ?_⟩
    · have head := List.head_dropWhile_not p (show l.dropWhile p ≠ [] by rwa [left])
      simpa [left] using head
    · rw [trim, left] at same
      exact List.rdropWhile_eq_self_iff.1 same
  · rintro ⟨first, last⟩
    have left : l.dropWhile p = l := by
      cases l with
      | nil => rfl
      | cons a l => exact List.dropWhile_cons_of_neg (first (by simp))
    rw [trim, left, List.rdropWhile_eq_self_iff.2 last]

theorem trim_idem (l : List α) : trim p (trim p l) = trim p l := by
  refine (trim_eq_self_iff p).2 ⟨fun h => ?_, fun h => List.rdropWhile_last_not p _ h⟩
  -- the first element kept is the one at which dropping stopped
  have some_left : l.dropWhile p ≠ [] := by
    intro nil
    rw [trim, nil, List.rdropWhile_nil] at h
    exact h rfl
  have same : (trim p l).head h = (l.dropWhile p).head some_left :=
    (List.rdropWhile_prefix p _).head h
  rw [same]
  simpa using List.head_dropWhile_not p some_left

/-- A trimmed list stays trimmed when it is cut, unless the cut falls after an element that
satisfies `p`. -/
theorem trim_take_eq_self_iff {l : List α} (trimmed : trim p l = l) (n : ℕ) :
    trim p (l.take (n + 1)) = l.take (n + 1) ↔ ∀ a, l[n]? = some a → ¬p a := by
  obtain ⟨first, last⟩ := (trim_eq_self_iff p).1 trimmed
  have head : ∀ h : l.take (n + 1) ≠ [], ¬p ((l.take (n + 1)).head h) := by
    intro h
    rw [List.head_take]
    exact first _
  rw [trim_eq_self_iff, and_iff_right head]
  rcases Nat.lt_or_ge n l.length with inside | outside
  · have cut : l.take (n + 1) ≠ [] := by
      intro nil
      have := congrArg List.length nil
      simp only [List.length_take, List.length_nil] at this
      omega
    have edge : (l.take (n + 1)).getLast cut = l[n] := by
      rw [List.getLast_eq_getElem]
      simp only [List.length_take, List.getElem_take]
      congr 1
      omega
    rw [List.getElem?_eq_getElem inside]
    constructor
    · intro h a ha
      rw [← Option.some.inj ha, ← edge]
      exact h cut
    · intro h _
      rw [edge]
      exact h _ rfl
  · rw [List.take_of_length_le (by omega), List.getElem?_eq_none outside]
    exact ⟨fun _ _ h => (Option.some_ne_none _ h.symm).elim, fun _ => last⟩

end Crumbs.Text
