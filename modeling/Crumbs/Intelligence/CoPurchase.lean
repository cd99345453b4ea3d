import Crumbs.Db.Dict
import Crumbs.Intelligence.Models

/-!
# Products Bought Together

Once a day the shop counts how often two products are in one paid order. The pairs of an order are
counted under the smaller and the greater key, the most common pairs are kept, and each is written
in both directions.

## Contents

- `refreshProductAffinity`: the count, the cut and the write
- `count_pairKeys`: an order with distinct products counts each of its pairs once
- `Shop.together`: the orders with two products
- `refreshProductAffinity_counts`: the table holds these numbers
-/

namespace Crumbs

open Crumbs.Db

/-! ## The count -/

/-- `order.items.values_list("product_id").distinct()`. The items are ordered by their keys, so the
keys enter the query and no item is left out. -/
def Shop.productIds (shop : Shop) (o : OrderId) : List ProductId :=
  (shop.orderItems o).map (·.product)

/-- The keys that the two loops over the products of an order count. -/
def pairKeys : List ProductId → List (ProductId × ProductId)
  | [] => []
  | a :: rest => rest.map (fun b => (min a b, max a b)) ++ pairKeys rest

/-- The counter `pairs`, of the products of each order. -/
def countPairs (orders : List (List ProductId)) : Dict (ProductId × ProductId) ℕ :=
  Dict.group id (fun n _ => n + 1) 0 (orders.flatMap pairKeys)

/-- The table's insert, with its constraint. -/
def ProductCoPurchase.create (row : ProductCoPurchase) (table : List ProductCoPurchase) :
    Except Exn (List ProductCoPurchase) :=
  if row.pair ∈ table.map ProductCoPurchase.pair then
    .error (.integrityError "unique_co_purchase_pair")
  else .ok (table ++ [row])

/-- The row that is created for a pair in one direction, with `score = Decimal(count)`. -/
def coPurchaseRow (a b : ProductId) (count : ℕ) : ProductCoPurchase :=
  { product := a, relatedProduct := b, coCount := count, affinityScore := count }

/-- The body of the loop over the most common pairs. -/
def writePair (state : ℕ × List ProductCoPurchase) (entry : (ProductId × ProductId) × ℕ) :
    Except Exn (ℕ × List ProductCoPurchase) :=
  let (updated, table) := state
  let ((a, b), count) := entry
  if count < 2 then return (updated, table)
  else do
    let table ← (coPurchaseRow a b count).create table
    let table ← (coPurchaseRow b a count).create table
    return (updated + 2, table)

/-- `refresh_product_affinity`: the number of rows written, and the table then -/
def refreshProductAffinity (shop : Shop) (_table : List ProductCoPurchase) :
    Except Exn (ℕ × List ProductCoPurchase) :=
  let pairs := countPairs (shop.growthPaidOrders.map fun e => shop.productIds e.1)
  -- `most_common(500)`; the old rows are deleted before the first one is written
  (pairs.ranked.take 500).foldlM writePair (0, [])

/-! ## Pairs of one order -/

theorem lt_of_mem_pairKeys {l : List ProductId} (distinct : l.Nodup)
    {k : ProductId × ProductId} (h : k ∈ pairKeys l) : k.1 < k.2 := by
  induction l with
  | nil => cases h
  | cons a rest ih =>
    obtain ⟨fresh, distinct⟩ := List.nodup_cons.1 distinct
    rcases List.mem_append.1 h with first | later
    · obtain ⟨b, hb, rfl⟩ := List.mem_map.1 first
      have : a ≠ b := fun hab => fresh (hab ▸ hb)
      exact min_lt_max.2 this
    · exact ih distinct later

/-- The key of two products that differ is that of one other pair only. -/
theorem minMax_eq_iff {a b c d : ℕ} (hab : a < b) :
    (min c d, max c d) = (a, b) ↔ c = a ∧ d = b ∨ c = b ∧ d = a := by
  rw [Prod.mk.injEq]
  omega

/-- An order with distinct products counts each of its pairs once. -/
theorem count_pairKeys {l : List ProductId} (distinct : l.Nodup) {a b : ProductId}
    (hab : a < b) : (pairKeys l).count (a, b) = if a ∈ l ∧ b ∈ l then 1 else 0 := by
  induction l with
  | nil => rfl
  | cons c rest ih =>
    obtain ⟨fresh, distinct⟩ := List.nodup_cons.1 distinct
    have partner (d : ProductId) : rest.count d = if d ∈ rest then 1 else 0 := by
      split
      · next h => exact List.count_eq_one_of_mem distinct h
      · next h => exact List.count_eq_zero_of_not_mem h
    have heads : (rest.map fun d => (min c d, max c d)).count (a, b) =
        rest.countP fun d => decide (c = a ∧ d = b ∨ c = b ∧ d = a) := by
      rw [List.count, List.countP_map]
      refine List.countP_congr fun d _ => ?_
      simp only [Function.comp, beq_iff_eq, decide_eq_true_eq]
      exact minMax_eq_iff hab
    rw [pairKeys, List.count_append, heads, ih distinct]
    by_cases hca : c = a
    · subst hca
      -- the first product pairs with `b`; it is not among the others again
      have first : (rest.countP fun d => decide (c = c ∧ d = b ∨ c = b ∧ d = c)) =
          rest.count b := List.countP_congr fun d _ => by simp [hab.ne]
      rw [first, partner]
      simp [fresh, hab.ne']
    · by_cases hcb : c = b
      · subst hcb
        have first : (rest.countP fun d => decide (c = a ∧ d = c ∨ c = c ∧ d = a)) =
            rest.count a := List.countP_congr fun d _ => by simp [hab.ne']
        rw [first, partner]
        simp [fresh, hab.ne]
      · have none_first :
            (rest.countP fun d => decide (c = a ∧ d = b ∨ c = b ∧ d = a)) = 0 :=
          List.countP_eq_zero.2 fun d _ => by simp [hca, hcb]
        rw [none_first, Nat.zero_add]
        simp [Ne.symm hca, Ne.symm hcb]

/-! ## Pairs of all orders -/

/-- The paid orders that contain both products. -/
def Shop.together (shop : Shop) (a b : ProductId) : ℕ :=
  (shop.growthPaidOrders.filter fun e =>
    decide (a ∈ shop.productIds e.1 ∧ b ∈ shop.productIds e.1)).length

theorem Shop.together_comm (shop : Shop) (a b : ProductId) :
    shop.together a b = shop.together b a := by
  unfold together
  congr 2
  funext e
  simp only [and_comm]

theorem foldl_succ {α : Type*} (l : List α) (n : ℕ) :
    l.foldl (fun n _ => n + 1) n = n + l.length := by
  induction l generalizing n with
  | nil => rfl
  | cons a l ih =>
    rw [List.foldl_cons, ih, List.length_cons]
    omega

/-- The counter has the keys that come up, each with how often it comes up. -/
theorem get?_countPairs_iff (orders : List (List ProductId)) (k : ProductId × ProductId) (n : ℕ) :
    (countPairs orders).get? k = some n ↔
      k ∈ orders.flatMap pairKeys ∧ n = (orders.flatMap pairKeys).count k := by
  have count : ((orders.flatMap pairKeys).filter fun e => id e = k).foldl (fun n _ => n + 1) 0 =
      (orders.flatMap pairKeys).count k := by
    rw [foldl_succ, Nat.zero_add, List.count_eq_length_filter]
    congr 2
    funext e
    exact (beq_eq_decide e k).symm
  have found : (∃ e ∈ orders.flatMap pairKeys, id e = k) ↔ k ∈ orders.flatMap pairKeys :=
    ⟨fun ⟨_, he, h⟩ => h ▸ he, fun h => ⟨k, h, rfl⟩⟩
  rw [countPairs, Dict.get?_group, count]
  simp only [found]
  split
  · next h => simp [h, eq_comm]
  · next h => simp [h]

/-- The number of orders with the pair, for distinct products in each order. -/
theorem count_flatMap_pairKeys {orders : List (List ProductId)}
    (distinct : ∀ l ∈ orders, l.Nodup) {a b : ProductId} (hab : a < b) :
    (orders.flatMap pairKeys).count (a, b) =
      (orders.filter fun l => decide (a ∈ l ∧ b ∈ l)).length := by
  induction orders with
  | nil => rfl
  | cons l orders ih =>
    rw [List.flatMap_cons, List.count_append, count_pairKeys (distinct l List.mem_cons_self) hab,
      ih fun l hl => distinct l (List.mem_cons_of_mem _ hl), List.filter_cons]
    by_cases both : a ∈ l ∧ b ∈ l
    · rw [if_pos both, if_pos (decide_eq_true both), List.length_cons, Nat.add_comm]
    · rw [if_neg both, if_neg (by simpa using both), Nat.zero_add]

section Distinct

variable {shop : Shop}

/-- What the constraint of the carts gives: no order has a product twice. -/
def Shop.DistinctProducts (shop : Shop) : Prop :=
  ∀ e ∈ shop.growthPaidOrders, (shop.productIds e.1).Nodup

/-- The counter of the paid orders of a shop. -/
def Shop.pairCounts (shop : Shop) : Dict (ProductId × ProductId) ℕ :=
  countPairs (shop.growthPaidOrders.map fun e => shop.productIds e.1)

theorem Shop.DistinctProducts.orders (distinct : shop.DistinctProducts) :
    ∀ l ∈ shop.growthPaidOrders.map (fun e => shop.productIds e.1), l.Nodup := by
  intro l hl
  obtain ⟨e, he, rfl⟩ := List.mem_map.1 hl
  exact distinct e he

theorem Shop.DistinctProducts.count_eq_together (distinct : shop.DistinctProducts)
    {a b : ProductId} (hab : a < b) :
    ((shop.growthPaidOrders.map fun e => shop.productIds e.1).flatMap pairKeys).count (a, b) =
      shop.together a b := by
  rw [count_flatMap_pairKeys distinct.orders hab, List.filter_map, List.length_map]
  rfl

/-- An entry of the counter: a key in its order, and the orders with both products. -/
theorem Shop.DistinctProducts.of_mem_ranked (distinct : shop.DistinctProducts)
    {e : (ProductId × ProductId) × ℕ} (he : e ∈ shop.pairCounts.ranked) :
    e.1.1 < e.1.2 ∧ e.2 = shop.together e.1.1 e.1.2 := by
  obtain ⟨found, count⟩ := (get?_countPairs_iff _ _ _).1 ((Dict.mem_ranked _ _).1 he)
  obtain ⟨l, hl, hk⟩ := List.mem_flatMap.1 found
  have hlt := lt_of_mem_pairKeys (distinct.orders l hl) hk
  exact ⟨hlt, count.trans (distinct.count_eq_together hlt)⟩

/-- Every pair that is in an order is an entry of the counter. -/
theorem Shop.DistinctProducts.mem_ranked (distinct : shop.DistinctProducts) {a b : ProductId}
    (hab : a < b) (some_order : 0 < shop.together a b) :
    ((a, b), shop.together a b) ∈ shop.pairCounts.ranked := by
  rw [Dict.mem_ranked]
  have count := distinct.count_eq_together hab
  exact (get?_countPairs_iff _ _ _).2
    ⟨List.count_pos_iff.1 (count.symm ▸ some_order), count.symm⟩

end Distinct

/-! ## The rows -/

/-- The rows that one entry of the counter is written to. -/
def pairRows (entry : (ProductId × ProductId) × ℕ) : List ProductCoPurchase :=
  [coPurchaseRow entry.1.1 entry.1.2 entry.2, coPurchaseRow entry.1.2 entry.1.1 entry.2]

/-- The entries that are written at all. -/
def commonPairs (entries : List ((ProductId × ProductId) × ℕ)) :
    List ((ProductId × ProductId) × ℕ) :=
  entries.filter fun e => 2 ≤ e.2

theorem ProductCoPurchase.create_of_not_mem {row : ProductCoPurchase}
    {table : List ProductCoPurchase} (h : row.pair ∉ table.map ProductCoPurchase.pair) :
    row.create table = .ok (table ++ [row]) := if_neg h

/-- No row of the table has the products of an entry, in one order or the other. -/
def Apart (table : List ProductCoPurchase)
    (entries : List ((ProductId × ProductId) × ℕ)) : Prop :=
  ∀ row ∈ table, ∀ e ∈ entries, row.pair ≠ e.1 ∧ row.pair ≠ e.1.swap

/-- One round of the loop: both inserts meet the constraint. -/
theorem writePair_ok {entry : (ProductId × ProductId) × ℕ} (ordered : entry.1.1 < entry.1.2)
    (n : ℕ) {table : List ProductCoPurchase} (apart : Apart table [entry]) :
    writePair (n, table) entry =
      .ok (n + 2 * (commonPairs [entry]).length,
        table ++ (commonPairs [entry]).flatMap pairRows) := by
  obtain ⟨⟨a, b⟩, count⟩ := entry
  unfold writePair commonPairs
  by_cases rare : count < 2
  · have none_common : ¬ 2 ≤ count := by omega
    simp [rare, none_common]
    rfl
  · have common : 2 ≤ count := by omega
    have first : (a, b) ∉ table.map ProductCoPurchase.pair := by
      intro h
      obtain ⟨row, hrow, hpair⟩ := List.mem_map.1 h
      exact (apart row hrow _ List.mem_cons_self).1 hpair
    have second : (b, a) ∉ table.map ProductCoPurchase.pair := by
      intro h
      obtain ⟨row, hrow, hpair⟩ := List.mem_map.1 h
      exact (apart row hrow _ List.mem_cons_self).2 hpair
    have both : (b, a) ≠ (a, b) := fun h => ordered.ne (congrArg Prod.snd h)
    have second' :
        (b, a) ∉ (table ++ [coPurchaseRow a b count]).map ProductCoPurchase.pair := by
      rw [List.map_append, List.mem_append, not_or]
      exact ⟨second, fun h => both (List.mem_singleton.1 h)⟩
    have insert_first : (coPurchaseRow a b count).create table =
        .ok (table ++ [coPurchaseRow a b count]) := ProductCoPurchase.create_of_not_mem first
    have insert_second : (coPurchaseRow b a count).create (table ++ [coPurchaseRow a b count]) =
        .ok (table ++ [coPurchaseRow a b count] ++ [coPurchaseRow b a count]) :=
      ProductCoPurchase.create_of_not_mem second'
    simp only [rare, if_false, insert_first, insert_second, bind, Except.bind, pure, Except.pure,
      List.filter_cons, common, decide_true, if_true, List.filter_nil, List.length_singleton,
      List.flatMap_singleton, pairRows, List.append_assoc, List.singleton_append, Nat.mul_one]

/-- The rows of an entry have no products in common with an entry of another key. -/
theorem pair_ne_of_mem_pairRows {entry e : (ProductId × ProductId) × ℕ}
    (ordered : entry.1.1 < entry.1.2) (ordered' : e.1.1 < e.1.2) (other : entry.1 ≠ e.1)
    {row : ProductCoPurchase} (h : row ∈ pairRows entry) :
    row.pair ≠ e.1 ∧ row.pair ≠ e.1.swap := by
  obtain ⟨⟨a, b⟩, count⟩ := entry
  obtain ⟨⟨c, d⟩, count'⟩ := e
  simp only [pairRows, List.mem_cons, List.not_mem_nil, or_false] at h
  simp only [ne_eq, Prod.mk.injEq, Prod.swap_prod_mk] at ordered ordered' other ⊢
  rcases h with rfl | rfl
  · refine ⟨fun h => other (Prod.mk.inj h), fun h => ?_⟩
    obtain ⟨rfl, rfl⟩ := Prod.mk.inj h
    exact absurd ordered' ordered.asymm
  · refine ⟨fun h => ?_, fun h => other (Prod.mk.inj h).symm⟩
    obtain ⟨rfl, rfl⟩ := Prod.mk.inj h
    exact absurd ordered' ordered.asymm

/-- The loop writes the rows of the entries that are common, and raises nothing. -/
theorem foldlM_writePair {entries : List ((ProductId × ProductId) × ℕ)}
    (ordered : ∀ e ∈ entries, e.1.1 < e.1.2) (distinct : (entries.map Prod.fst).Nodup) :
    ∀ (n : ℕ) {table : List ProductCoPurchase}, Apart table entries →
      entries.foldlM writePair (n, table) =
        .ok (n + 2 * (commonPairs entries).length,
          table ++ (commonPairs entries).flatMap pairRows) := by
  induction entries with
  | nil =>
    intro n table _
    rw [commonPairs, List.filter_nil, List.flatMap_nil, List.append_nil]
    rfl
  | cons entry entries ih =>
    intro n table apart
    obtain ⟨fresh, distinct⟩ := List.nodup_cons.1 distinct
    have head := ordered entry List.mem_cons_self
    have apart_head : Apart table [entry] := by
      intro row hrow e he
      rw [List.mem_singleton.1 he]
      exact apart row hrow entry List.mem_cons_self
    have written := writePair_ok head n apart_head
    have apart' : Apart (table ++ (commonPairs [entry]).flatMap pairRows) entries := by
      intro row hrow e he
      rcases List.mem_append.1 hrow with old | new
      · exact apart row old e (List.mem_cons_of_mem _ he)
      · obtain ⟨e', he', hrow'⟩ := List.mem_flatMap.1 new
        rw [List.mem_singleton.1 (List.mem_filter.1 he').1] at hrow'
        have other : entry.1 ≠ e.1 := fun h => fresh (h ▸ List.mem_map_of_mem he)
        exact pair_ne_of_mem_pairRows head (ordered e (List.mem_cons_of_mem _ he)) other hrow'
    rw [List.foldlM_cons, written]
    refine (ih (fun e he => ordered e (List.mem_cons_of_mem _ he)) distinct _ apart').trans ?_
    have split : commonPairs ([entry] ++ entries) = commonPairs [entry] ++ commonPairs entries :=
      List.filter_append ..
    rw [List.singleton_append] at split
    rw [split, List.length_append, List.flatMap_append, List.append_assoc, Nat.mul_add,
      Nat.add_assoc]

/-! ## The table -/

/-- A table of co-purchases that holds what the paid orders of a shop say. -/
structure CoPurchaseCounts (shop : Shop) (rows : List ProductCoPurchase) : Prop where
  no_self : ∀ row ∈ rows, row.product ≠ row.relatedProduct
  symmetric : ∀ row ∈ rows, ∃ row' ∈ rows, row'.pair = row.pair.swap ∧ row'.coCount = row.coCount
  unique : (rows.map ProductCoPurchase.pair).Nodup
  counts : ∀ row ∈ rows, row.coCount = shop.together row.product row.relatedProduct ∧
    2 ≤ row.coCount ∧ row.affinityScore = row.coCount
  /-- A pair of two orders or more is left out for 500 pairs only that are in as many orders. -/
  cut : ∀ a b, a ≠ b → 2 ≤ shop.together a b → (a, b) ∉ rows.map ProductCoPurchase.pair →
    500 ≤ (rows.filter fun row => row.product < row.relatedProduct ∧
      shop.together a b ≤ row.coCount).length

section Written

variable {shop : Shop}

/-- The entries of the counter that are written. -/
def Shop.writtenPairs (shop : Shop) : List ((ProductId × ProductId) × ℕ) :=
  commonPairs (shop.pairCounts.ranked.take 500)

theorem Shop.DistinctProducts.of_mem_writtenPairs (distinct : shop.DistinctProducts)
    {e : (ProductId × ProductId) × ℕ} (he : e ∈ shop.writtenPairs) :
    e.1.1 < e.1.2 ∧ e.2 = shop.together e.1.1 e.1.2 ∧ 2 ≤ e.2 := by
  obtain ⟨taken, common⟩ := List.mem_filter.1 he
  obtain ⟨hlt, count⟩ := distinct.of_mem_ranked (List.mem_of_mem_take taken)
  exact ⟨hlt, count, by simpa using common⟩

theorem nodup_writtenPairs (shop : Shop) : (shop.writtenPairs.map Prod.fst).Nodup :=
  (shop.pairCounts.nodup_ranked.sublist ((List.take_sublist 500 _).map Prod.fst)).sublist
    (List.filter_sublist.map Prod.fst)

theorem refreshProductAffinity_eq (distinct : shop.DistinctProducts)
    (table : List ProductCoPurchase) :
    refreshProductAffinity shop table =
      .ok (2 * shop.writtenPairs.length, shop.writtenPairs.flatMap pairRows) := by
  have ordered : ∀ e ∈ shop.pairCounts.ranked.take 500, e.1.1 < e.1.2 :=
    fun e he => (distinct.of_mem_ranked (List.mem_of_mem_take he)).1
  have keys : ((shop.pairCounts.ranked.take 500).map Prod.fst).Nodup :=
    shop.pairCounts.nodup_ranked.sublist ((List.take_sublist 500 _).map Prod.fst)
  have apart : Apart [] (shop.pairCounts.ranked.take 500) := fun _ h => absurd h List.not_mem_nil
  have run := foldlM_writePair ordered keys 0 apart
  rw [Nat.zero_add, List.nil_append] at run
  exact run

theorem length_flatMap_pairRows (entries : List ((ProductId × ProductId) × ℕ)) :
    (entries.flatMap pairRows).length = 2 * entries.length := by
  induction entries with
  | nil => rfl
  | cons e entries ih =>
    rw [List.flatMap_cons, List.length_append, ih, List.length_cons]
    show 2 + 2 * entries.length = _
    omega

/-- Of the two rows of an entry the first has the smaller product in front. -/
theorem filter_flatMap_pairRows {entries : List ((ProductId × ProductId) × ℕ)}
    (ordered : ∀ e ∈ entries, e.1.1 < e.1.2) (n : ℕ) :
    ((entries.flatMap pairRows).filter fun row =>
      row.product < row.relatedProduct ∧ n ≤ row.coCount).length =
      (entries.filter fun e => n ≤ e.2).length := by
  induction entries with
  | nil => rfl
  | cons e entries ih =>
    have head := ordered e List.mem_cons_self
    rw [List.flatMap_cons, List.filter_append, List.length_append,
      ih fun e' he' => ordered e' (List.mem_cons_of_mem _ he'), List.filter_cons]
    by_cases enough : n ≤ e.2
    · simp [pairRows, coPurchaseRow, head, head.asymm, enough, Nat.add_comm]
    · simp [pairRows, coPurchaseRow, enough]

theorem nodup_flatMap_pairRows {entries : List ((ProductId × ProductId) × ℕ)}
    (ordered : ∀ e ∈ entries, e.1.1 < e.1.2) (distinct : (entries.map Prod.fst).Nodup) :
    ((entries.flatMap pairRows).map ProductCoPurchase.pair).Nodup := by
  induction entries with
  | nil => exact List.nodup_nil
  | cons e entries ih =>
    obtain ⟨fresh, distinct⟩ := List.nodup_cons.1 distinct
    have head := ordered e List.mem_cons_self
    rw [List.flatMap_cons, List.map_append]
    refine List.nodup_append.2 ⟨?_, ih (fun e' he' => ordered e' (List.mem_cons_of_mem _ he'))
      distinct, ?_⟩
    · have both : e.1 ≠ e.1.swap := fun h => head.ne (congrArg Prod.fst h)
      obtain ⟨⟨a, b⟩, count⟩ := e
      simpa [pairRows, coPurchaseRow, ProductCoPurchase.pair] using both
    · intro k hk k' hk' same
      obtain ⟨row, hrow, rfl⟩ := List.mem_map.1 hk
      obtain ⟨row', hrow', rfl⟩ := List.mem_map.1 hk'
      obtain ⟨e', he', hrow'⟩ := List.mem_flatMap.1 hrow'
      have other : e.1 ≠ e'.1 := fun h => fresh (h ▸ List.mem_map_of_mem he')
      have apart := pair_ne_of_mem_pairRows head (ordered e' (List.mem_cons_of_mem _ he')) other
        hrow
      simp only [pairRows, List.mem_cons, List.not_mem_nil, or_false] at hrow'
      rcases hrow' with rfl | rfl
      · exact apart.1 same
      · exact apart.2 same

/-- An entry that is written, from a pair of the rows in either order. -/
theorem pair_mem_of_mem_writtenPairs {e : (ProductId × ProductId) × ℕ}
    (he : e ∈ shop.writtenPairs) :
    e.1 ∈ (shop.writtenPairs.flatMap pairRows).map ProductCoPurchase.pair ∧
      e.1.swap ∈ (shop.writtenPairs.flatMap pairRows).map ProductCoPurchase.pair := by
  constructor
  · exact List.mem_map.2 ⟨coPurchaseRow e.1.1 e.1.2 e.2,
      List.mem_flatMap.2 ⟨e, he, by simp [pairRows]⟩, rfl⟩
  · exact List.mem_map.2 ⟨coPurchaseRow e.1.2 e.1.1 e.2,
      List.mem_flatMap.2 ⟨e, he, by simp [pairRows]⟩, rfl⟩

/-- The cut, for the key that the counter has of a pair. -/
theorem Shop.DistinctProducts.cut_of_lt (distinct : shop.DistinctProducts) {a b : ProductId}
    (hab : a < b) (common : 2 ≤ shop.together a b)
    (out : ((a, b), shop.together a b) ∉ shop.writtenPairs) :
    500 ≤ (shop.writtenPairs.filter fun e => shop.together a b ≤ e.2).length := by
  have ranked := distinct.mem_ranked hab (by omega)
  have cut_off : ((a, b), shop.together a b) ∉ shop.pairCounts.ranked.take 500 :=
    fun h => out (List.mem_filter.2 ⟨h, by simpa using common⟩)
  obtain ⟨full, above⟩ := shop.pairCounts.le_of_not_mem_take_ranked 500 ranked cut_off
  -- all of the first 500 are in as many orders, so all of them are written
  have written : shop.writtenPairs = shop.pairCounts.ranked.take 500 :=
    List.filter_eq_self.2 fun e he => by simpa using common.trans (above e he)
  have all : shop.writtenPairs.filter (fun e => shop.together a b ≤ e.2) = shop.writtenPairs :=
    List.filter_eq_self.2 fun e he => by simpa using above e (written ▸ he)
  rw [all, written, full]

end Written

/-- After a refresh the table holds what the paid orders say, whatever it held before. -/
theorem refreshProductAffinity_counts {shop : Shop} (distinct : shop.DistinctProducts) :
    ∃ rows, CoPurchaseCounts shop rows ∧
      ∀ table, refreshProductAffinity shop table = .ok (rows.length, rows) := by
  refine ⟨shop.writtenPairs.flatMap pairRows, ?_, fun table => ?_⟩
  · have ordered : ∀ e ∈ shop.writtenPairs, e.1.1 < e.1.2 :=
      fun e he => (distinct.of_mem_writtenPairs he).1
    refine { no_self := ?_, symmetric := ?_, unique := ?_, counts := ?_, cut := ?_ }
    · intro row hrow
      obtain ⟨e, he, hrow⟩ := List.mem_flatMap.1 hrow
      simp only [pairRows, List.mem_cons, List.not_mem_nil, or_false] at hrow
      rcases hrow with rfl | rfl
      · exact (ordered e he).ne
      · exact (ordered e he).ne'
    · intro row hrow
      obtain ⟨e, he, hrow⟩ := List.mem_flatMap.1 hrow
      simp only [pairRows, List.mem_cons, List.not_mem_nil, or_false] at hrow
      rcases hrow with rfl | rfl
      · exact ⟨_, List.mem_flatMap.2 ⟨e, he, List.mem_cons_of_mem _ List.mem_cons_self⟩, rfl, rfl⟩
      · exact ⟨_, List.mem_flatMap.2 ⟨e, he, List.mem_cons_self⟩, rfl, rfl⟩
    · exact nodup_flatMap_pairRows ordered (nodup_writtenPairs shop)
    · intro row hrow
      obtain ⟨e, he, hrow⟩ := List.mem_flatMap.1 hrow
      obtain ⟨-, count, common⟩ := distinct.of_mem_writtenPairs he
      simp only [pairRows, List.mem_cons, List.not_mem_nil, or_false] at hrow
      rcases hrow with rfl | rfl
      · exact ⟨count, common, rfl⟩
      · exact ⟨count.trans (shop.together_comm _ _), common, rfl⟩
    · intro a b hab common out
      rw [filter_flatMap_pairRows ordered]
      rcases lt_or_gt_of_ne hab with less | greater
      · exact distinct.cut_of_lt less common fun h => out (pair_mem_of_mem_writtenPairs h).1
      · rw [shop.together_comm a b] at common ⊢
        exact distinct.cut_of_lt greater common fun h => out (pair_mem_of_mem_writtenPairs h).2
  · rw [refreshProductAffinity_eq distinct, length_flatMap_pairRows]

theorem refreshProductAffinity_counts_coffee :
    ∃ rows, CoPurchaseCounts coffeeShop rows ∧
      ∀ table, refreshProductAffinity coffeeShop table = .ok (rows.length, rows) :=
  refreshProductAffinity_counts fun _ _ => by
    show [1, 2].Nodup
    decide

end Crumbs
