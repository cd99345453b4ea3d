import Mathlib.Algebra.BigOperators.Group.Finset.Basic
import Mathlib.Algebra.BigOperators.Intervals
import Mathlib.Algebra.Order.BigOperators.Group.Finset

/-!
# Tables with Generated Keys

A table of rows under keys that the database hands out in increasing order. A deleted key is
never handed out again.

## Contents

- `Table`: the rows and the key of the next insert; no row sits at or after it
- `insert`, `insertAll`, `modify`, `updateWhere`, `erase`, `eraseWhere`: writes
- `overlay`: the rows of one table laid over another
- `entries`, `filter`: the rows with their keys, in the order of their keys
- `total`: the sum of a quantity over the rows, and how each write moves it
- `entries_insert`, `filter_insertAll`, `filter_updateWhere`: what a query finds after a write
-/

namespace Crumbs.Db

/-- Rows by generated key. Every key from `next` on is still free. -/
@[ext]
structure Table (ρ : Type) where
  rows : ℕ → Option ρ
  next : ℕ
  fresh : ∀ i, next ≤ i → rows i = none

namespace Table

variable {ρ : Type}

/-- The table without rows. -/
def empty : Table ρ := ⟨fun _ => none, 0, fun _ _ => rfl⟩

/-- `INSERT`: the new row gets the key `t.next`. -/
def insert (t : Table ρ) (r : ρ) : Table ρ where
  rows i := if i = t.next then some r else t.rows i
  next := t.next + 1
  fresh i h := by
    rw [if_neg (by omega)]
    exact t.fresh i (by omega)

/-- Several rows, one after the other. -/
def insertAll (t : Table ρ) (rs : List ρ) : Table ρ := rs.foldl insert t

/-- `UPDATE … WHERE pk = i`: no effect if there is no such row. -/
def modify (t : Table ρ) (i : ℕ) (f : ρ → ρ) : Table ρ where
  rows j := if j = i then (t.rows i).map f else t.rows j
  next := t.next
  fresh j h := by
    split
    · subst j
      rw [t.fresh i h, Option.map_none]
    · exact t.fresh j h

/-- `UPDATE … WHERE p`. -/
def updateWhere (t : Table ρ) (p : ρ → Bool) (f : ρ → ρ) : Table ρ where
  rows j := (t.rows j).map fun r => if p r then f r else r
  next := t.next
  fresh j h := by rw [t.fresh j h, Option.map_none]

/-- `DELETE … WHERE p`. -/
def eraseWhere (t : Table ρ) (p : ρ → Bool) : Table ρ where
  rows j := (t.rows j).filter fun r => !p r
  next := t.next
  fresh j h := by rw [t.fresh j h, Option.filter_none]

/-- `DELETE … WHERE pk = i`. -/
def erase (t : Table ρ) (i : ℕ) : Table ρ where
  rows j := if j = i then none else t.rows j
  next := t.next
  fresh j h := by
    split
    · rfl
    · exact t.fresh j h

/-- The rows of `t` at the keys of `own`, those of `u` elsewhere. -/
def overlay (own : ℕ → Prop) [DecidablePred own] (t u : Table ρ) : Table ρ where
  rows i := if own i then t.rows i else u.rows i
  next := max t.next u.next
  fresh i h := by
    split
    · exact t.fresh i (le_trans (le_max_left _ _) h)
    · exact u.fresh i (le_trans (le_max_right _ _) h)

/-- The rows with their keys, oldest key first. -/
def entries (t : Table ρ) : List (ℕ × ρ) :=
  (List.range t.next).filterMap fun i => (t.rows i).map fun r => (i, r)

/-- The entries whose row satisfies `p`, oldest key first. -/
def filter (t : Table ρ) (p : ρ → Bool) : List (ℕ × ρ) := t.entries.filter fun e => p e.2

/-- The sum of `f` over the rows. -/
def total (t : Table ρ) (f : ρ → ℕ) : ℕ := ∑ i ∈ Finset.range t.next, (t.rows i).elim 0 f

/-! ## Reading a row after a write -/

theorem lt_next {t : Table ρ} {i : ℕ} {r : ρ} (h : t.rows i = some r) : i < t.next := by
  by_contra hle
  simp [t.fresh i (by omega)] at h

@[simp] theorem rows_empty (i : ℕ) : (empty : Table ρ).rows i = none := rfl

theorem rows_insert (t : Table ρ) (r : ρ) (i : ℕ) :
    (t.insert r).rows i = if i = t.next then some r else t.rows i := rfl

@[simp] theorem rows_insert_self (t : Table ρ) (r : ρ) : (t.insert r).rows t.next = some r :=
  if_pos rfl

theorem rows_insert_of_some {t : Table ρ} {i : ℕ} {r : ρ} (r' : ρ) (h : t.rows i = some r) :
    (t.insert r').rows i = some r := by
  rw [rows_insert, if_neg (lt_next h).ne, h]

/-- A row after an insert is the new one, or was there. -/
theorem rows_insert_cases {t : Table ρ} {r r' : ρ} {i : ℕ} (h : (t.insert r).rows i = some r') :
    i = t.next ∧ r' = r ∨ i < t.next ∧ t.rows i = some r' := by
  rw [rows_insert] at h
  split at h
  · next hi => exact .inl ⟨hi, (Option.some.inj h).symm⟩
  · exact .inr ⟨lt_next h, h⟩

@[simp] theorem next_insert (t : Table ρ) (r : ρ) : (t.insert r).next = t.next + 1 := rfl

/-- A row after some inserts was there, or is one of the new ones. -/
theorem rows_insertAll {t : Table ρ} {rs : List ρ} {i : ℕ} {r : ρ}
    (h : (t.insertAll rs).rows i = some r) : t.rows i = some r ∨ r ∈ rs := by
  induction rs generalizing t with
  | nil => exact .inl h
  | cons r' rest ih =>
    rcases ih (t := t.insert r') h with hrow | hmem
    · rw [rows_insert] at hrow
      split at hrow
      · exact .inr (List.mem_cons.2 (.inl (Option.some.inj hrow).symm))
      · exact .inl hrow
    · exact .inr (List.mem_cons_of_mem r' hmem)

theorem rows_modify (t : Table ρ) (i : ℕ) (f : ρ → ρ) (j : ℕ) :
    (t.modify i f).rows j = if j = i then (t.rows i).map f else t.rows j := rfl

@[simp] theorem rows_modify_self (t : Table ρ) (i : ℕ) (f : ρ → ρ) :
    (t.modify i f).rows i = (t.rows i).map f := if_pos rfl

theorem rows_modify_ne (t : Table ρ) {i j : ℕ} (f : ρ → ρ) (h : j ≠ i) :
    (t.modify i f).rows j = t.rows j := if_neg h

@[simp] theorem next_modify (t : Table ρ) (i : ℕ) (f : ρ → ρ) : (t.modify i f).next = t.next := rfl

@[simp] theorem next_erase (t : Table ρ) (i : ℕ) : (t.erase i).next = t.next := rfl

theorem isSome_rows_modify (t : Table ρ) (i : ℕ) (f : ρ → ρ) (j : ℕ) :
    ((t.modify i f).rows j).isSome = (t.rows j).isSome := by
  rw [rows_modify]
  split
  next heq => rw [Option.isSome_map, heq]
  next => rfl

theorem rows_overlay (own : ℕ → Prop) [DecidablePred own] (t u : Table ρ) (i : ℕ) :
    (overlay own t u).rows i = if own i then t.rows i else u.rows i := rfl

/-- An update leaves a row behind exactly where there was one. -/
theorem rows_modify_eq_some {t : Table ρ} {i j : ℕ} {f : ρ → ρ} {r : ρ} :
    (t.modify i f).rows j = some r ↔
      (j = i ∧ ∃ r', t.rows i = some r' ∧ f r' = r) ∨ (j ≠ i ∧ t.rows j = some r) := by
  rw [rows_modify]
  by_cases h : j = i <;> simp [h]

theorem modify_modify (t : Table ρ) (i : ℕ) (f g : ρ → ρ) :
    (t.modify i f).modify i g = t.modify i (g ∘ f) := by
  ext1
  · funext j
    by_cases h : j = i <;> simp [rows_modify, h]
  · rfl

/-- An update depends on what it does to the row that is there. -/
theorem modify_congr {t : Table ρ} {i : ℕ} {f g : ρ → ρ}
    (h : ∀ r, t.rows i = some r → f r = g r) : t.modify i f = t.modify i g := by
  ext1
  · funext j
    by_cases hj : j = i
    · subst j
      rw [rows_modify_self, rows_modify_self]
      cases hrow : t.rows i with
      | none => rfl
      | some r => rw [Option.map_some, Option.map_some, h r hrow]
    · rw [rows_modify_ne t f hj, rows_modify_ne t g hj]
  · rfl

/-- Updating the row that was just inserted. -/
theorem modify_insert_self (t : Table ρ) (r : ρ) (f : ρ → ρ) :
    (t.insert r).modify t.next f = t.insert (f r) := by
  ext1
  · funext j
    by_cases hj : j = t.next <;> simp [rows_modify, rows_insert, hj]
  · rfl

/-- An update that changes nothing. -/
theorem modify_eq_self {t : Table ρ} {i : ℕ} {f : ρ → ρ} (h : ∀ r, t.rows i = some r → f r = r) :
    t.modify i f = t := by
  ext1
  · funext j
    by_cases hj : j = i
    · subst j
      rw [rows_modify_self]
      cases hrow : t.rows i with
      | none => rfl
      | some r => rw [Option.map_some, h r hrow]
    · exact rows_modify_ne t f hj
  · rfl

/-! ## Entries -/

theorem mem_entries {t : Table ρ} {i : ℕ} {r : ρ} : (i, r) ∈ t.entries ↔ t.rows i = some r := by
  simp only [entries, List.mem_filterMap, List.mem_range, Option.map_eq_some_iff, Prod.mk.injEq]
  constructor
  · rintro ⟨j, -, r', hr, rfl, rfl⟩
    exact hr
  · intro h
    exact ⟨i, lt_next h, r, h, rfl, rfl⟩

@[simp] theorem mem_filter {t : Table ρ} {p : ρ → Bool} {e : ℕ × ρ} :
    e ∈ t.filter p ↔ t.rows e.1 = some e.2 ∧ p e.2 = true := by
  rw [filter, List.mem_filter, ← mem_entries]

/-- No key occurs twice among the entries. -/
theorem nodup_entries (t : Table ρ) : (t.entries.map Prod.fst).Nodup := by
  have hsub : (t.entries.map Prod.fst).Sublist (List.range t.next) := by
    have hfst : t.entries.map Prod.fst =
        (List.range t.next).filter fun i => (t.rows i).isSome := by
      rw [entries, List.map_filterMap, ← List.filterMap_eq_filter]
      refine List.filterMap_congr fun i _ => ?_
      cases h : t.rows i <;> simp [Option.guard, h]
    rw [hfst]
    exact List.filter_sublist
  exact hsub.nodup List.nodup_range

theorem nodup_filter (t : Table ρ) (p : ρ → Bool) : ((t.filter p).map Prod.fst).Nodup :=
  (List.filter_sublist.map Prod.fst).nodup t.nodup_entries

/-! ## Updating what a query has found -/

theorem rows_updateWhere (t : Table ρ) (p : ρ → Bool) (f : ρ → ρ) (i : ℕ) :
    (t.updateWhere p f).rows i = (t.rows i).map fun r => if p r then f r else r := rfl

/-- An update that finds nothing. -/
theorem updateWhere_eq_self {t : Table ρ} {p : ρ → Bool} (f : ρ → ρ)
    (h : ∀ i r, t.rows i = some r → ¬p r = true) : t.updateWhere p f = t := by
  ext1
  · funext i
    rw [rows_updateWhere]
    cases hrow : t.rows i with
    | none => rfl
    | some r => rw [Option.map_some, if_neg (h i r hrow)]
  · rfl

theorem rows_eraseWhere (t : Table ρ) (p : ρ → Bool) (i : ℕ) :
    (t.eraseWhere p).rows i = (t.rows i).filter fun r => !p r := rfl

theorem rows_foldl_modify (f : ρ → ρ) (es : List (ℕ × ρ)) (hnodup : (es.map Prod.fst).Nodup)
    (t : Table ρ) (i : ℕ) : (es.foldl (fun t e => t.modify e.1 f) t).rows i =
      if i ∈ es.map Prod.fst then (t.rows i).map f else t.rows i := by
  induction es generalizing t with
  | nil => rfl
  | cons e rest ih =>
    rw [List.map_cons, List.nodup_cons] at hnodup
    rw [List.foldl_cons, ih hnodup.2]
    by_cases hi : i = e.1
    · subst i
      simp [hnodup.1]
    · simp only [rows_modify_ne t f hi, List.map_cons, List.mem_cons, hi, false_or]

/-- Updating the rows that a query has found, one by one, is one `UPDATE … WHERE`. -/
theorem foldl_modify_filter (t : Table ρ) (p : ρ → Bool) (f : ρ → ρ) :
    (t.filter p).reverse.foldl (fun t e => t.modify e.1 f) t = t.updateWhere p f := by
  have hnodup : ((t.filter p).reverse.map Prod.fst).Nodup := by
    rw [List.map_reverse, List.nodup_reverse]
    exact nodup_filter t p
  ext1
  · funext i
    rw [rows_foldl_modify f _ hnodup, rows_updateWhere]
    cases hrow : t.rows i with
    | none => simp
    | some r =>
      by_cases hp : p r = true
      · rw [if_pos, Option.map_some, Option.map_some, if_pos hp]
        exact List.mem_map.2 ⟨(i, r), List.mem_reverse.2 (mem_filter.2 ⟨hrow, hp⟩), rfl⟩
      · rw [if_neg, Option.map_some, if_neg hp]
        intro hmem
        obtain ⟨⟨i', r'⟩, he, rfl⟩ := List.mem_map.1 hmem
        obtain ⟨hrow', hp'⟩ := mem_filter.1 (List.mem_reverse.1 he)
        exact hp (Option.some.inj (hrow.symm.trans hrow') ▸ hp')
  · have hnext : ∀ (es : List (ℕ × ρ)) (u : Table ρ),
        (es.foldl (fun t e => t.modify e.1 f) u).next = u.next := by
      intro es
      induction es with
      | nil => exact fun _ => rfl
      | cons e rest ih => exact fun u => ih (u.modify e.1 f)
    exact hnext _ t

/-! ## Totals -/

/-- Keys from `next` on contribute nothing. -/
theorem total_eq_sum_range (t : Table ρ) (f : ρ → ℕ) {n : ℕ} (h : t.next ≤ n) :
    t.total f = ∑ i ∈ Finset.range n, (t.rows i).elim 0 f := by
  refine Finset.sum_subset (Finset.range_mono h) fun i _ hi => ?_
  rw [t.fresh i (by simpa using hi), Option.elim_none]

/-- Two tables with the same contribution at every key have the same total. -/
theorem total_congr {t u : Table ρ} {f g : ρ → ℕ}
    (h : ∀ i, (t.rows i).elim 0 f = (u.rows i).elim 0 g) : t.total f = u.total g := by
  rw [t.total_eq_sum_range f (le_max_left t.next u.next),
    u.total_eq_sum_range g (le_max_right t.next u.next)]
  exact Finset.sum_congr rfl fun i _ => h i

@[simp] theorem total_empty (f : ρ → ℕ) : (empty : Table ρ).total f = 0 := rfl

theorem total_eq_zero {t : Table ρ} {f : ρ → ℕ} (h : ∀ i r, t.rows i = some r → f r = 0) :
    t.total f = 0 := by
  refine Finset.sum_eq_zero fun i _ => ?_
  cases hrow : t.rows i with
  | none => rfl
  | some r => exact h i r hrow

@[simp] theorem total_insert (t : Table ρ) (r : ρ) (f : ρ → ℕ) :
    (t.insert r).total f = t.total f + f r := by
  rw [total, next_insert, Finset.sum_range_succ, rows_insert_self, Option.elim_some, total]
  congr 1
  refine Finset.sum_congr rfl fun i hi => ?_
  rw [rows_insert, if_neg (Finset.mem_range.1 hi).ne]

/-- An update moves the total by the change at its row. -/
theorem total_modify {t : Table ρ} {i : ℕ} {r : ρ} (h : t.rows i = some r) (g : ρ → ρ)
    (f : ρ → ℕ) : (t.modify i g).total f + f r = t.total f + f (g r) := by
  have hmem : i ∈ Finset.range t.next := Finset.mem_range.2 (lt_next h)
  rw [total, total, next_modify, ← Finset.add_sum_erase _ _ hmem, ← Finset.add_sum_erase _ _ hmem,
    rows_modify_self, h]
  have hrest : ∑ j ∈ (Finset.range t.next).erase i, ((t.modify i g).rows j).elim 0 f =
      ∑ j ∈ (Finset.range t.next).erase i, (t.rows j).elim 0 f :=
    Finset.sum_congr rfl fun j hj => by rw [rows_modify_ne t g (Finset.ne_of_mem_erase hj)]
  rw [hrest]
  simp only [Option.map_some, Option.elim_some]
  omega

/-- One row's share is at most the total. -/
theorem le_total {t : Table ρ} {i : ℕ} {r : ρ} (h : t.rows i = some r) (f : ρ → ℕ) :
    f r ≤ t.total f := by
  calc f r = (t.rows i).elim 0 f := by rw [h, Option.elim_some]
    _ ≤ t.total f := Finset.single_le_sum (fun j _ => Nat.zero_le ((t.rows j).elim 0 f))
      (Finset.mem_range.2 (lt_next h))

/-- An update of many rows moves the total by the changes at these rows. -/
theorem total_updateWhere (t : Table ρ) (p : ρ → Bool) (g : ρ → ρ) (f : ρ → ℕ) :
    (t.updateWhere p g).total f + t.total (fun r => if p r then f r else 0) =
      t.total f + t.total fun r => if p r then f (g r) else 0 := by
  have hnext : (t.updateWhere p g).next = t.next := rfl
  simp only [total, hnext, ← Finset.sum_add_distrib]
  refine Finset.sum_congr rfl fun i _ => ?_
  rw [rows_updateWhere]
  cases t.rows i with
  | none => rfl
  | some r => by_cases hp : p r <;> simp [hp, Nat.add_comm]

/-- An update that no row's share feels. -/
theorem total_updateWhere_same {t : Table ρ} {p : ρ → Bool} {g : ρ → ρ} {f : ρ → ℕ}
    (h : ∀ r, p r = true → f (g r) = f r) : (t.updateWhere p g).total f = t.total f := by
  refine total_congr fun i => ?_
  rw [rows_updateWhere]
  cases t.rows i with
  | none => rfl
  | some r =>
    rw [Option.map_some, Option.elim_some, Option.elim_some]
    split
    next hp => exact h r hp
    next => rfl

/-- Larger shares at every key make a larger total. -/
theorem total_mono {t u : Table ρ} {f g : ρ → ℕ}
    (h : ∀ i, (t.rows i).elim 0 f ≤ (u.rows i).elim 0 g) : t.total f ≤ u.total g := by
  rw [t.total_eq_sum_range f (le_max_left t.next u.next),
    u.total_eq_sum_range g (le_max_right t.next u.next)]
  exact Finset.sum_le_sum fun i _ => h i

/-- The total of two shares. -/
theorem total_add (t : Table ρ) (f g : ρ → ℕ) :
    (t.total fun r => f r + g r) = t.total f + t.total g := by
  rw [total, total, total, ← Finset.sum_add_distrib]
  refine Finset.sum_congr rfl fun i _ => ?_
  cases t.rows i <;> rfl

/-- What is deleted and what stays make up the total. -/
theorem total_eraseWhere (t : Table ρ) (p : ρ → Bool) (f : ρ → ℕ) :
    (t.eraseWhere p).total f + t.total (fun r => if p r then f r else 0) = t.total f := by
  have hnext : (t.eraseWhere p).next = t.next := rfl
  simp only [total, hnext, ← Finset.sum_add_distrib]
  refine Finset.sum_congr rfl fun i _ => ?_
  rw [rows_eraseWhere]
  cases t.rows i with
  | none => rfl
  | some r => by_cases hp : p r <;> simp [Option.filter_some, hp]

theorem total_insertAll (t : Table ρ) (rs : List ρ) (f : ρ → ℕ) :
    (t.insertAll rs).total f = t.total f + (rs.map f).sum := by
  induction rs generalizing t with
  | nil => rfl
  | cons r rest ih =>
    rw [insertAll, List.foldl_cons, ← insertAll, ih, total_insert, List.map_cons, List.sum_cons,
      Nat.add_assoc]

/-- The sum over what a query finds. -/
theorem sum_filter (t : Table ρ) (p : ρ → Bool) (f : ρ → ℕ) :
    ((t.filter p).map fun e => f e.2).sum = t.total fun r => if p r then f r else 0 := by
  rw [filter, entries, total]
  generalize t.next = n
  induction n with
  | zero => rfl
  | succ n ih =>
    rw [List.range_succ, List.filterMap_append, List.filter_append, List.map_append,
      List.sum_append, ih, Finset.sum_range_succ]
    cases hrow : t.rows n with
    | none => simp [hrow]
    | some r => by_cases hp : p r <;> simp [hrow, hp]

/-! ## Queries after a write -/

theorem entries_insert (t : Table ρ) (r : ρ) : (t.insert r).entries = t.entries ++ [(t.next, r)] := by
  rw [entries, next_insert, List.range_succ, List.filterMap_append, entries]
  congr 1
  · refine List.filterMap_congr fun i hi => ?_
    rw [rows_insert, if_neg (List.mem_range.1 hi).ne]
  · simp

/-- A query finds the new row if it is one that it looks for. -/
theorem filter_insert (t : Table ρ) (r : ρ) (p : ρ → Bool) :
    (t.insert r).filter p = t.filter p ++ if p r then [(t.next, r)] else [] := by
  rw [filter, entries_insert, List.filter_append, ← filter]
  congr 1
  by_cases hp : p r = true <;> simp [hp]

theorem filter_insertAll (t : Table ρ) (rs : List ρ) (p : ρ → Bool) :
    ((t.insertAll rs).filter p).map Prod.snd = (t.filter p).map Prod.snd ++ rs.filter p := by
  induction rs generalizing t with
  | nil => simp [insertAll]
  | cons r rest ih =>
    rw [insertAll, List.foldl_cons, ← insertAll, ih, filter, entries_insert, List.filter_append,
      List.map_append, ← filter, List.append_assoc]
    by_cases hp : p r <;> simp [hp]

/-- A query does not see an update of other rows to other rows. -/
theorem filter_updateWhere (t : Table ρ) (p q : ρ → Bool) (g : ρ → ρ)
    (h : ∀ i r, t.rows i = some r → q r = true → p r = false ∧ p (g r) = false) :
    (t.updateWhere q g).filter p = t.filter p := by
  have hnext : (t.updateWhere q g).next = t.next := rfl
  rw [filter, filter, entries, entries, hnext, List.filter_filterMap, List.filter_filterMap]
  refine List.filterMap_congr fun i _ => ?_
  rw [rows_updateWhere]
  cases hrow : t.rows i with
  | none => rfl
  | some r =>
    by_cases hq : q r = true
    · obtain ⟨hp, hp'⟩ := h i r hrow hq
      simp [Option.filter, hq, hp, hp']
    · simp [hq]

/-- An update of a row that the query finds before and after shows in its result. -/
theorem filter_modify (t : Table ρ) (p : ρ → Bool) (i : ℕ) (f : ρ → ρ)
    (h : ∀ r, t.rows i = some r → p (f r) = p r) :
    (t.modify i f).filter p = (t.filter p).map fun e => if e.1 = i then (e.1, f e.2) else e := by
  rw [filter, filter, entries, entries, next_modify, List.filter_filterMap, List.filter_filterMap,
    List.map_filterMap]
  refine List.filterMap_congr fun j _ => ?_
  rw [rows_modify]
  by_cases hj : j = i
  · subst j
    rw [if_pos rfl]
    cases hrow : t.rows i with
    | none => rfl
    | some r => by_cases hp : p r = true <;> simp [Option.filter_some, h r hrow, hp]
  · rw [if_neg hj]
    cases t.rows j with
    | none => rfl
    | some r => by_cases hp : p r = true <;> simp [Option.filter_some, hp, hj]

end Table

end Crumbs.Db
