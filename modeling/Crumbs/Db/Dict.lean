import Mathlib.Algebra.BigOperators.Group.List.Basic
import Mathlib.Data.List.Induction
import Mathlib.Data.List.Nodup
import Mathlib.Data.List.Sort
import Mathlib.Data.List.TakeWhile

/-!
# Dictionaries

Dictionaries that remember the order in which their keys were inserted: a new key comes last, and a
value that is replaced keeps its place. A loop that gathers values under the keys of its elements
is `group`; what it finds under a key is the same loop over the elements with that key.

## Contents

- `Dict`: the dictionary, with `get?`, `update` and `erase`
- `get?_update_self`, `get?_update_ne`, `get?_erase_ne`: what is found after a write
- `group`, `get?_group`: gathering values under keys
- `sum_update_add`: what adding to a value adds to the sum of the values
- `ranked`, `mem_take_ranked_iff`: the entries by value, the greatest first
- `mem_take_sorted_iff`, `mem_take_sorted_append_iff`: the same for any list of entries
-/

namespace Crumbs.Db

/-- Entries in the order of insertion. No key has two. -/
structure Dict (κ ν : Type*) where
  items : List (κ × ν)
  nodup : (items.map Prod.fst).Nodup

namespace Dict

variable {κ ν : Type*}

def empty : Dict κ ν := ⟨[], List.nodup_nil⟩

def keys (d : Dict κ ν) : List κ := d.items.map Prod.fst

/-! ## Ranking -/

section Rank

variable [LinearOrder ν]

/-- `sorted(d.items(), key=lambda e: e[1], reverse=True)`: entries with the same value stay in
their order. -/
def ranked (d : Dict κ ν) : List (κ × ν) := d.items.insertionSort fun e e' => e'.2 ≤ e.2

theorem ranked_perm (d : Dict κ ν) : d.ranked.Perm d.items := List.perm_insertionSort _ _

theorem nodup_ranked (d : Dict κ ν) : (d.ranked.map Prod.fst).Nodup :=
  (d.ranked_perm.map Prod.fst).nodup_iff.2 d.nodup

theorem pairwise_sorted (items : List (κ × ν)) :
    (items.insertionSort fun e e' => e'.2 ≤ e.2).Pairwise fun e e' => e'.2 ≤ e.2 := by
  have : Std.Total fun e e' : κ × ν => e'.2 ≤ e.2 := ⟨fun e e' => le_total e'.2 e.2⟩
  have : IsTrans (κ × ν) fun e e' => e'.2 ≤ e.2 := ⟨fun _ _ _ h h' => h'.trans h⟩
  exact List.pairwise_insertionSort _ _

theorem pairwise_ranked (d : Dict κ ν) : d.ranked.Pairwise fun e e' => e'.2 ≤ e.2 :=
  pairwise_sorted d.items

/-- An entry that the first `n` leave out: `n` entries of at least its value are among them. -/
theorem le_of_not_mem_take_ranked (d : Dict κ ν) (n : ℕ) {e : κ × ν} (he : e ∈ d.ranked)
    (out : e ∉ d.ranked.take n) :
    (d.ranked.take n).length = n ∧ ∀ e' ∈ d.ranked.take n, e.2 ≤ e'.2 := by
  have rest : e ∈ d.ranked.drop n := by
    rw [← List.take_append_drop n d.ranked] at he
    exact (List.mem_append.1 he).resolve_left out
  constructor
  · have := List.length_pos_of_mem rest
    rw [List.length_drop] at this
    rw [List.length_take]
    omega
  · have parts := d.pairwise_ranked
    rw [← List.take_append_drop n d.ranked, List.pairwise_append] at parts
    exact fun e' he' => parts.2.2 e' he' e rest

end Rank

/-! ## Reading and writing -/

variable [DecidableEq κ]

/-- `d.get(k)` -/
def get? (d : Dict κ ν) (k : κ) : Option ν := (d.items.find? fun e => e.1 = k).map Prod.snd

/-- The entries after `d[k] = f(d.get(k))`. -/
def updateItems (k : κ) (f : Option ν → ν) (items : List (κ × ν)) : List (κ × ν) :=
  if k ∈ items.map Prod.fst then items.map fun e => if e.1 = k then (k, f (some e.2)) else e
  else items ++ [(k, f none)]

theorem map_fst_updateItems (k : κ) (f : Option ν → ν) (items : List (κ × ν)) :
    (updateItems k f items).map Prod.fst =
      if k ∈ items.map Prod.fst then items.map Prod.fst else items.map Prod.fst ++ [k] := by
  unfold updateItems
  split
  · rw [List.map_map]
    refine List.map_congr_left fun e _ => ?_
    simp only [Function.comp]
    split
    · next h => exact h.symm
    · rfl
  · rw [List.map_append]
    rfl

/-- `d[k] = f(d.get(k))` -/
def update (d : Dict κ ν) (k : κ) (f : Option ν → ν) : Dict κ ν where
  items := updateItems k f d.items
  nodup := by
    rw [map_fst_updateItems]
    split
    · exact d.nodup
    · next fresh =>
      refine List.nodup_append.2 ⟨d.nodup, List.nodup_singleton _, fun a ha b hb hab => ?_⟩
      rw [hab, List.mem_singleton.1 hb] at ha
      exact fresh ha

/-- `del d[k]`, without a complaint when there is no such key. -/
def erase (d : Dict κ ν) (k : κ) : Dict κ ν where
  items := d.items.filter fun e => e.1 ≠ k
  nodup := d.nodup.sublist (List.filter_sublist.map Prod.fst)

/-! ## Lookup -/

theorem get?_eq_some_iff (d : Dict κ ν) (k : κ) (v : ν) :
    d.get? k = some v ↔ (k, v) ∈ d.items := by
  unfold get?
  constructor
  · intro h
    obtain ⟨e, found, rfl⟩ := Option.map_eq_some_iff.1 h
    have hk : e.1 = k := by simpa using List.find?_some found
    exact hk ▸ List.mem_of_find?_eq_some found
  · intro h
    cases found : d.items.find? fun e => e.1 = k with
    | none =>
      have := List.find?_eq_none.1 found (k, v) h
      simp at this
    | some e =>
      have hk : e.1 = k := by simpa using List.find?_some found
      have same : e = (k, v) :=
        List.inj_on_of_nodup_map d.nodup (List.mem_of_find?_eq_some found) h hk
      rw [Option.map_some, same]

theorem mem_ranked [LinearOrder ν] (d : Dict κ ν) (e : κ × ν) :
    e ∈ d.ranked ↔ d.get? e.1 = some e.2 := by
  rw [get?_eq_some_iff]
  exact d.ranked_perm.mem_iff

theorem get?_eq_none_iff (d : Dict κ ν) (k : κ) : d.get? k = none ↔ k ∉ d.keys := by
  rw [Option.eq_none_iff_forall_ne_some]
  constructor
  · intro h hk
    obtain ⟨e, he, rfl⟩ := List.mem_map.1 hk
    exact h e.2 ((d.get?_eq_some_iff _ _).2 he)
  · intro h v hv
    exact h (List.mem_map_of_mem (f := Prod.fst) ((d.get?_eq_some_iff _ _).1 hv))

theorem mem_keys_iff (d : Dict κ ν) (k : κ) : k ∈ d.keys ↔ ∃ v, d.get? k = some v := by
  rw [← Option.isSome_iff_exists, ← Option.ne_none_iff_isSome, ne_eq, get?_eq_none_iff, not_not]

@[simp] theorem get?_empty (k : κ) : (empty : Dict κ ν).get? k = none := rfl

theorem keys_update (d : Dict κ ν) (k : κ) (f : Option ν → ν) :
    (d.update k f).keys = if k ∈ d.keys then d.keys else d.keys ++ [k] :=
  map_fst_updateItems k f d.items

theorem mem_keys_update (d : Dict κ ν) (k k' : κ) (f : Option ν → ν) :
    k' ∈ (d.update k f).keys ↔ k' = k ∨ k' ∈ d.keys := by
  rw [keys_update]
  split
  · next old =>
    refine ⟨.inr, ?_⟩
    rintro (rfl | h)
    · exact old
    · exact h
  · rw [List.mem_append, List.mem_singleton, or_comm]

theorem get?_update_self (d : Dict κ ν) (k : κ) (f : Option ν → ν) :
    (d.update k f).get? k = some (f (d.get? k)) := by
  rw [get?_eq_some_iff]
  show (k, f (d.get? k)) ∈ updateItems k f d.items
  unfold updateItems
  split
  · next old =>
    obtain ⟨v, hv⟩ := (d.mem_keys_iff k).1 old
    refine List.mem_map.2 ⟨(k, v), (d.get?_eq_some_iff k v).1 hv, ?_⟩
    rw [if_pos rfl, hv]
  · next fresh =>
    rw [(d.get?_eq_none_iff k).2 fresh]
    exact List.mem_append_right _ List.mem_cons_self

theorem get?_update_ne (d : Dict κ ν) {k k' : κ} (h : k' ≠ k) (f : Option ν → ν) :
    (d.update k f).get? k' = d.get? k' := by
  ext v
  rw [get?_eq_some_iff, get?_eq_some_iff]
  show (k', v) ∈ updateItems k f d.items ↔ _
  unfold updateItems
  split
  · constructor
    · intro hv
      obtain ⟨e, he, hit⟩ := List.mem_map.1 hv
      split at hit
      · exact absurd (congrArg Prod.fst hit).symm h
      · exact hit ▸ he
    · intro hv
      exact List.mem_map.2 ⟨(k', v), hv, if_neg h⟩
  · rw [List.mem_append, List.mem_singleton, Prod.mk.injEq]
    exact or_iff_left fun hit => h hit.1

theorem get?_erase_ne (d : Dict κ ν) {k k' : κ} (h : k' ≠ k) :
    (d.erase k).get? k' = d.get? k' := by
  ext v
  rw [get?_eq_some_iff, get?_eq_some_iff, erase, List.mem_filter]
  exact and_iff_left (by simpa using h)

theorem items_update_of_mem {d : Dict κ ν} {k : κ} (h : k ∈ d.keys) (f : Option ν → ν) :
    (d.update k f).items = d.items.map fun e => if e.1 = k then (k, f (some e.2)) else e :=
  if_pos h

/-- A dictionary is its keys with what is found under them. -/
theorem items_eq_filterMap (d : Dict κ ν) :
    d.items = d.keys.filterMap fun k => (d.get? k).map fun v => (k, v) := by
  rw [keys, List.filterMap_map]
  have found : ∀ e ∈ d.items, ((d.get? e.1).map fun v => (e.1, v)) = some e :=
    fun e he => by rw [(d.get?_eq_some_iff _ _).2 he, Option.map_some]
  exact ((List.filterMap_congr found).trans (List.filterMap_some)).symm

/-! ## Gathering -/

section Group

variable {ε : Type*} (key : ε → κ) (step : ν → ε → ν) (init : ν)

/-- One round of a loop that gathers values under the keys of its elements. -/
def gather (d : Dict κ ν) (e : ε) : Dict κ ν :=
  d.update (key e) fun v => step (v.getD init) e

/-- The loop, from an empty dictionary. -/
def group (es : List ε) : Dict κ ν := es.foldl (gather key step init) empty

theorem group_append_singleton (es : List ε) (e : ε) :
    group key step init (es ++ [e]) = gather key step init (group key step init es) e := by
  rw [group, List.foldl_append]
  rfl

theorem mem_keys_group (es : List ε) (k : κ) :
    k ∈ (group key step init es).keys ↔ ∃ e ∈ es, key e = k := by
  induction es using List.reverseRecOn with
  | nil => simp [group, empty, keys]
  | append_singleton es e ih =>
    rw [group_append_singleton, gather, mem_keys_update, ih]
    constructor
    · rintro (rfl | ⟨e', he', rfl⟩)
      · exact ⟨e, by simp, rfl⟩
      · exact ⟨e', List.mem_append_left _ he', rfl⟩
    · rintro ⟨e', he', rfl⟩
      rcases List.mem_append.1 he' with old | last
      · exact .inr ⟨e', old, rfl⟩
      · exact .inl (congrArg key (List.mem_singleton.1 last))

/-- The keys stand in the order of their first elements. -/
theorem keys_group (es : List ε) : (group key step init es).keys = (es.map key).eraseDups := by
  induction es using List.reverseRecOn with
  | nil => rfl
  | append_singleton es e ih =>
    rw [group_append_singleton, gather, keys_update, ih, List.map_append, List.map_singleton,
      List.eraseDups_append]
    by_cases old : key e ∈ es.map key
    · have gone : [key e].removeAll (es.map key) = [] := by
        simp [-List.mem_map, List.removeAll, old]
      rw [if_pos (List.mem_eraseDups.2 old), gone, List.eraseDups_nil, List.append_nil]
    · have stays : [key e].removeAll (es.map key) = [key e] := by
        simp [-List.mem_map, List.removeAll, old]
      rw [if_neg fun h => old (List.mem_eraseDups.1 h), stays]
      rfl

/-- Under a key stands what the loop makes of the elements with that key. -/
theorem get?_group (es : List ε) (k : κ) : (group key step init es).get? k =
    if ∃ e ∈ es, key e = k then some ((es.filter fun e => key e = k).foldl step init)
    else none := by
  induction es using List.reverseRecOn with
  | nil => simp [group]
  | append_singleton es e ih =>
    rw [group_append_singleton, gather]
    by_cases hk : key e = k
    · have found : ∃ e' ∈ es ++ [e], key e' = k := ⟨e, by simp, hk⟩
      rw [if_pos found, ← hk, get?_update_self, hk, ih, List.filter_append, List.foldl_append]
      have last : [e].filter (fun e => key e = k) = [e] := by simp [hk]
      rw [last]
      -- elements with the key before, or the first one
      split
      · rfl
      · next none_before =>
        have nil : es.filter (fun e => key e = k) = [] := by
          refine List.filter_eq_nil_iff.2 fun e' he' h => none_before ⟨e', he', by simpa using h⟩
        rw [nil]
        rfl
    · have other : [e].filter (fun e => key e = k) = [] := by simp [hk]
      rw [get?_update_ne _ (Ne.symm hk), ih, List.filter_append, other, List.append_nil]
      refine if_congr ⟨?_, ?_⟩ rfl rfl
      · rintro ⟨e', he', h⟩
        exact ⟨e', List.mem_append_left _ he', h⟩
      · rintro ⟨e', he', h⟩
        rcases List.mem_append.1 he' with old | last
        · exact ⟨e', old, h⟩
        · exact absurd (List.mem_singleton.1 last ▸ h) hk

end Group

/-! ## Places in the ranking -/

section Place

variable [LinearOrder ν]

/-- The entries that come before one: those of a greater value, and those of the same value that
were inserted before. -/
def ahead (items : List (κ × ν)) (e : κ × ν) : ℕ :=
  items.countP (fun a => e.2 < a.2) + (items.takeWhile (· ≠ e)).countP (fun a => a.2 = e.2)

/-- Inserting an entry moves those of no greater value by one place. -/
theorem idxOf_orderedInsert_of_ne {sorted : List (κ × ν)}
    (hs : sorted.Pairwise fun e e' => e'.2 ≤ e.2) {a e : κ × ν} (he : e ∈ sorted) (hne : e ≠ a) :
    (sorted.orderedInsert (fun e e' => e'.2 ≤ e.2) a).idxOf e =
      (if e.2 ≤ a.2 then 1 else 0) + sorted.idxOf e := by
  induction sorted with
  | nil => cases he
  | cons b sorted ih =>
    obtain ⟨below, hs⟩ := List.pairwise_cons.1 hs
    rw [List.orderedInsert_cons]
    by_cases first : b.2 ≤ a.2
    · -- the new entry comes first, and `e` is no greater than the old first one
      have small : e.2 ≤ a.2 := by
        rcases List.mem_cons.1 he with rfl | later
        · exact first
        · exact (below e later).trans first
      rw [if_pos first, if_pos small, List.idxOf_cons_ne _ hne.symm, Nat.add_comm]
    · rw [if_neg first]
      by_cases hb : b = e
      · subst hb
        rw [if_neg first, List.idxOf_cons_self, List.idxOf_cons_self]
      · rw [List.idxOf_cons_ne _ hb, List.idxOf_cons_ne _ hb,
          ih hs ((List.mem_cons.1 he).resolve_left (Ne.symm hb)), Nat.add_succ]

/-- A new entry comes behind those of a greater value. -/
theorem idxOf_orderedInsert_self {sorted : List (κ × ν)}
    (hs : sorted.Pairwise fun e e' => e'.2 ≤ e.2) {a : κ × ν} (fresh : a ∉ sorted) :
    (sorted.orderedInsert (fun e e' => e'.2 ≤ e.2) a).idxOf a =
      sorted.countP fun b => a.2 < b.2 := by
  induction sorted with
  | nil => simp
  | cons b sorted ih =>
    obtain ⟨below, hs⟩ := List.pairwise_cons.1 hs
    rw [List.orderedInsert_cons]
    by_cases first : b.2 ≤ a.2
    · have none_greater : (b :: sorted).countP (fun b => a.2 < b.2) = 0 := by
        refine List.countP_eq_zero.2 fun c hc => ?_
        have : c.2 ≤ a.2 := by
          rcases List.mem_cons.1 hc with rfl | later
          · exact first
          · exact (below c later).trans first
        simpa using this
      rw [if_pos first, List.idxOf_cons_self, none_greater]
    · have hb : b ≠ a := fun h => fresh (h ▸ List.mem_cons_self)
      have greater : a.2 < b.2 := lt_of_not_ge first
      rw [if_neg first, List.idxOf_cons_ne _ hb, ih hs fun h => fresh (List.mem_cons_of_mem _ h),
        List.countP_cons, if_pos (decide_eq_true greater)]

/-- The place of an entry in the sorted list. -/
theorem idxOf_sorted {items : List (κ × ν)} (distinct : items.Nodup) {e : κ × ν}
    (he : e ∈ items) :
    (items.insertionSort fun e e' => e'.2 ≤ e.2).idxOf e = ahead items e := by
  induction items with
  | nil => cases he
  | cons a items ih =>
    obtain ⟨fresh, distinct⟩ := List.nodup_cons.1 distinct
    have same := List.perm_insertionSort (fun e e' : κ × ν => e'.2 ≤ e.2) items
    rw [List.insertionSort_cons, ahead]
    by_cases hea : e = a
    · subst hea
      rw [idxOf_orderedInsert_self (pairwise_sorted items) (fun h => fresh (same.mem_iff.1 h)),
        same.countP_eq, List.countP_cons_of_neg (by simp), List.takeWhile_cons_of_neg (by simp)]
      rfl
    · have old := (List.mem_cons.1 he).resolve_left hea
      rw [idxOf_orderedInsert_of_ne (pairwise_sorted items) (same.mem_iff.2 old) hea,
        ih distinct old, List.takeWhile_cons_of_pos (by simpa using Ne.symm hea), ahead,
        List.countP_cons, List.countP_cons]
      -- the new entry is greater, or of the same value and inserted before
      rcases lt_trichotomy e.2 a.2 with less | equal | greater
      · simp only [less, less.le, less.ne', decide_true, decide_false, if_true, Bool.false_eq_true,
          if_false]
        omega
      · simp only [equal, le_refl, lt_irrefl, decide_true, decide_false, if_true,
          Bool.false_eq_true, if_false]
        omega
      · simp only [greater.not_gt, greater.not_ge, greater.ne, decide_false, Bool.false_eq_true,
          if_false]
        omega

/-- The entries among the first `n`: fewer than `n` come before. -/
theorem mem_take_sorted_iff {items : List (κ × ν)} (distinct : items.Nodup) {e : κ × ν}
    (he : e ∈ items) (n : ℕ) :
    e ∈ (items.insertionSort fun e e' => e'.2 ≤ e.2).take n ↔ ahead items e < n := by
  have sorted := (List.perm_insertionSort (fun e e' : κ × ν => e'.2 ≤ e.2) items).mem_iff.2 he
  rw [List.mem_take_iff_idxOf_lt sorted, idxOf_sorted distinct he]

theorem mem_take_ranked_iff (d : Dict κ ν) {e : κ × ν} (he : e ∈ d.items) (n : ℕ) :
    e ∈ d.ranked.take n ↔ ahead d.items e < n :=
  mem_take_sorted_iff (List.Nodup.of_map _ d.nodup) he n

omit [DecidableEq κ] in
theorem countP_le (v : ν) (items : List (κ × ν)) : items.countP (fun a => v ≤ a.2) =
    items.countP (fun a => v < a.2) + items.countP fun a => a.2 = v := by
  induction items with
  | nil => rfl
  | cons a items ih =>
    rw [List.countP_cons, List.countP_cons, List.countP_cons, ih]
    rcases lt_trichotomy v a.2 with less | equal | greater
    · simp only [less, less.le, less.ne', decide_true, decide_false, if_true, Bool.false_eq_true,
        if_false]
      omega
    · simp only [equal, le_refl, lt_irrefl, decide_true, decide_false, if_true,
        Bool.false_eq_true, if_false]
      omega
    · simp only [greater.not_gt, greater.not_ge, greater.ne, decide_false, Bool.false_eq_true,
        if_false]
      omega

/-- Only entries of at least its value come before an entry. -/
theorem ahead_lt {items : List (κ × ν)} {e : κ × ν} (he : e ∈ items) :
    ahead items e < items.countP fun a => e.2 ≤ a.2 := by
  have itself : 0 < (items.dropWhile (· ≠ e)).countP fun a => a.2 = e.2 := by
    refine List.countP_pos_iff.2 ⟨e, ?_, decide_eq_true rfl⟩
    have parts : e ∈ items.takeWhile (· ≠ e) ++ items.dropWhile (· ≠ e) := by
      rwa [List.takeWhile_append_dropWhile]
    refine (List.mem_append.1 parts).resolve_left fun before => ?_
    simpa using List.mem_takeWhile_imp before
  have parts : items.countP (fun a => a.2 = e.2) =
      (items.takeWhile (· ≠ e)).countP (fun a => a.2 = e.2) +
        (items.dropWhile (· ≠ e)).countP fun a => a.2 = e.2 := by
    rw [← List.countP_append, List.takeWhile_append_dropWhile]
  rw [ahead, countP_le]
  omega

/-- In a block of one value an entry comes behind those before it. -/
theorem countP_takeWhile_of_const {items : List (κ × ν)} {e : κ × ν} (he : e ∈ items)
    (same : ∀ a ∈ items, a.2 = e.2) :
    (items.takeWhile (· ≠ e)).countP (fun a => a.2 = e.2) = items.idxOf e := by
  induction items with
  | nil => cases he
  | cons a items ih =>
    by_cases hea : a = e
    · rw [List.takeWhile_cons_of_neg (by simpa using hea), hea, List.idxOf_cons_self]
      rfl
    · have old := (List.mem_cons.1 he).resolve_left (Ne.symm hea)
      rw [List.takeWhile_cons_of_pos (by simpa using hea), List.idxOf_cons_ne _ hea,
        List.countP_cons, if_pos (decide_eq_true (same a List.mem_cons_self)),
        ih old fun b hb => same b (List.mem_cons_of_mem _ hb)]

/-- An entry of a last block of one value comes behind what has at least that value. -/
theorem ahead_append {front back : List (κ × ν)} {e : κ × ν} (out : e ∉ front) (he : e ∈ back)
    (same : ∀ a ∈ back, a.2 = e.2) : ahead (front ++ back) e =
      front.countP (fun a => e.2 ≤ a.2) + back.idxOf e := by
  have greater : back.countP (fun a => e.2 < a.2) = 0 := by
    refine List.countP_eq_zero.2 fun a ha => ?_
    simp [same a ha]
  have differ : ∀ a ∈ front, decide (a ≠ e) = true := fun a ha =>
    decide_eq_true fun h => out (h ▸ ha)
  rw [ahead, List.countP_append, greater, List.takeWhile_append_of_pos differ, List.countP_append,
    countP_takeWhile_of_const he same, countP_le]
  omega

/-- The entries of a last block of one value that are among the first `n`. -/
theorem mem_take_sorted_append_iff {front back : List (κ × ν)} (distinct : (front ++ back).Nodup)
    {e : κ × ν} (he : e ∈ back) (same : ∀ a ∈ back, a.2 = e.2) (n : ℕ) :
    e ∈ ((front ++ back).insertionSort fun e e' => e'.2 ≤ e.2).take n ↔
      e ∈ back.take (n - front.countP fun a => e.2 ≤ a.2) := by
  have out : e ∉ front := fun h => (List.nodup_append.1 distinct).2.2 e h e he rfl
  rw [mem_take_sorted_iff distinct (List.mem_append_right _ he), ahead_append out he same,
    List.mem_take_iff_idxOf_lt he]
  omega

end Place

/-! ## Sums -/

theorem sum_map_add [AddCommMonoid ν] {items : List (κ × ν)} (nodup : (items.map Prod.fst).Nodup)
    {k : κ} (old : k ∈ items.map Prod.fst) (a : ν) :
    ((items.map fun e => if e.1 = k then (k, e.2 + a) else e).map Prod.snd).sum =
      (items.map Prod.snd).sum + a := by
  induction items with
  | nil => cases old
  | cons e items ih =>
    obtain ⟨fresh, nodup⟩ := List.nodup_cons.1 nodup
    rw [List.map_cons, List.map_cons, List.map_cons, List.sum_cons, List.sum_cons]
    by_cases hk : e.1 = k
    · -- no other entry has the key
      have rest : items.map (fun e => if e.1 = k then (k, e.2 + a) else e) = items := by
        refine (List.map_congr_left fun e' he' => if_neg fun hk' => ?_).trans (List.map_id items)
        exact fresh (hk.trans hk'.symm ▸ List.mem_map_of_mem he')
      rw [rest, if_pos hk, add_right_comm]
    · rw [if_neg hk, ih nodup ((List.mem_cons.1 old).resolve_left (Ne.symm hk)), add_assoc]

theorem sum_update_add [AddCommMonoid ν] (d : Dict κ ν) (k : κ) (a : ν) :
    ((d.update k fun v => v.getD 0 + a).items.map Prod.snd).sum =
      (d.items.map Prod.snd).sum + a := by
  show ((updateItems k (fun v => v.getD 0 + a) d.items).map Prod.snd).sum = _
  unfold updateItems
  split
  · next old => exact sum_map_add d.nodup old a
  · simp

end Dict

end Crumbs.Db
