import Crumbs.Intelligence.Models
import Mathlib.Tactic.Ring

/-!
# Scoring Products for a User

The products that a user may like get points from the user's profile, from the user's own orders
and from the orders of similar users. Then each product is looked up: one that is unavailable is
taken out, the points of one that is available are multiplied, and the key of one that no longer
exists keeps its points but has no product. The ranking reads the product of every key.

## Contents

- `scoreForUser`: the points, the loop over the keys and the ranking
- `standings`: the keys that stay, with their points, in the order of their first mention
- `scoreForUser_ok_iff`: the ranking fails exactly when a missing product comes out on top
-/

namespace Crumbs

open Crumbs.Db

/-! ## The source's functions -/

/-- `scores[pid] = scores.get(pid, Decimal("0")) + points` -/
def addPoints (scores : Dict ProductId ℚ) (entry : ProductId × ℚ) : Dict ProductId ℚ :=
  scores.update entry.1 fun s => s.getD 0 + entry.2

/-- `affinity.get(…, 0)` -/
def CustomerIntelligenceProfile.affinity (intel : CustomerIntelligenceProfile) (key : String) : ℚ :=
  ((intel.categoryAffinity.find? fun e => e.1 = key).map Prod.snd).getD 0

/-- The multiplier of an available product. -/
def scoreBoost (user : Customer) (product : CatalogProduct) : ℚ :=
  let weight (key : String) : ℚ := (user.intelligenceProfile.map (·.affinity key)).getD 0
  let boost := (product.intelligenceMeta.map (·.marginBoost)).getD 1
  let boost := if product.intelligenceMeta.any (·.isCookie) then boost + weight "cookie" * (1 / 2)
    else boost
  let boost := if product.intelligenceMeta.any (·.isCoffee) then boost + weight "coffee" * (1 / 2)
    else boost
  if user.clvProfile.any (·.revenueTier = .high) then boost + 1 / 5 else boost

/-- `ranked[:limit]`; a negative limit counts from the end. -/
def upTo {α : Type} (limit : ℤ) (l : List α) : List α :=
  l.take (if 0 ≤ limit then limit.toNat else l.length - limit.natAbs)

section Score

variable (data : RecommendationData) (user : Customer)

/-- `_similar_user_ids` -/
def similarUserIds : List UserId :=
  ((data.customers.filter fun c => c.isActive && c.pk ≠ user.pk &&
    match user.clvProfile with
    | some clv => c.clvProfile.any (·.revenueTier = clv.revenueTier)
    | none => true).map (·.pk)).take 25

/-- The rows of `order_items`. -/
def orderedProducts : List (ProductId × ℕ) := data.quantities (data.paidItemsOf [user.pk])

/-- The rows of `similar_items`: the most sold first, at most 20. -/
def similarProducts : List (ProductId × ℕ) :=
  let similarUsers := similarUserIds data user
  if similarUsers.isEmpty then []
  else ((data.quantities (data.paidItemsOf similarUsers)).insertionSort
    fun row row' => row'.2 ≤ row.2).take 20

/-- `intel.preferred_product_ids[:10]`, if there is a profile -/
def preferredProducts : List ProductId :=
  (user.intelligenceProfile.map (·.preferredProductIds.take 10)).getD []

/-- `scores`, before the products are looked up -/
def rawScores : Dict ProductId ℚ :=
  let scores := (preferredProducts user).foldl (fun s pid => addPoints s (pid, 10)) .empty
  let scores := (orderedProducts data user).foldl
    (fun s row => addPoints s (row.1, row.2 * 3)) scores
  (similarProducts data user).foldl (fun s row => addPoints s (row.1, 2)) scores

/-- The body of the loop over `list(scores.keys())`. -/
def lookUpProduct (state : Dict ProductId ℚ × Dict ProductId CatalogProduct) (pid : ProductId) :
    Dict ProductId ℚ × Dict ProductId CatalogProduct :=
  let (scores, productsMap) := state
  match data.product pid with
  -- `except Product.DoesNotExist: continue`
  | none => (scores, productsMap)
  | some product =>
    if ¬ product.isAvailable then (scores.erase pid, productsMap)
    else (scores.update pid fun s => s.getD 0 * scoreBoost user product,
      productsMap.update pid fun _ => product)

/-- `products_map[pid]` -/
def readProduct (productsMap : Dict ProductId CatalogProduct) (pid : ProductId) :
    Except Exn CatalogProduct :=
  match productsMap.get? pid with
  | some product => .ok product
  | none => .error (.builtinError "KeyError")

/-- `_score_for_user`. The points are exact fractions, where the `Decimal`s of the source keep 28
digits. -/
def scoreForUser (limit : ℤ) : Except Exn (List CatalogProduct) :=
  let scores := rawScores data user
  let (scores, productsMap) := scores.keys.foldl (lookUpProduct data user) (scores, .empty)
  (upTo limit scores.ranked).mapM fun e => readProduct productsMap e.1

/-! ## Points -/

/-- What a product gets points for, in the order in which the sources are gone through. -/
def contributions : List (ProductId × ℚ) :=
  (preferredProducts user).map (fun pid => (pid, 10)) ++
    (orderedProducts data user).map (fun row => (row.1, (row.2 : ℚ) * 3)) ++
    (similarProducts data user).map fun row => (row.1, 2)

/-- The points of a product. -/
def points (p : ProductId) : ℚ :=
  (((contributions data user).filter fun e => e.1 = p).map Prod.snd).sum

/-- What becomes of the points of a product: they are multiplied if it is available, and stay if it
does not exist. -/
def finalPoints (p : ProductId) : Option ℚ :=
  match data.product p with
  | none => some (points data user p)
  | some product =>
    if product.isAvailable then some (points data user p * scoreBoost user product) else none

/-- The products that are ranked with their points, in the order of their first mention. -/
def standings : List (ProductId × ℚ) :=
  (((contributions data user).map Prod.fst).eraseDups).filterMap fun p =>
    (finalPoints data user p).map fun s => (p, s)

end Score

/-! ## The dictionary of points -/

section Raw

variable (data : RecommendationData) (user : Customer)

theorem rawScores_eq_group : rawScores data user =
    Dict.group Prod.fst (fun s e => s + e.2) 0 (contributions data user) := by
  rw [Dict.group, contributions, List.foldl_append, List.foldl_append, List.foldl_map,
    List.foldl_map, List.foldl_map]
  rfl

theorem foldl_add_snd (l : List (ProductId × ℚ)) (s : ℚ) :
    l.foldl (fun s e => s + e.2) s = s + (l.map Prod.snd).sum := by
  induction l generalizing s with
  | nil => simp
  | cons e l ih => rw [List.foldl_cons, ih, List.map_cons, List.sum_cons, add_assoc]

theorem keys_rawScores : (rawScores data user).keys =
    ((contributions data user).map Prod.fst).eraseDups := by
  rw [rawScores_eq_group, Dict.keys_group]

theorem get?_rawScores {p : ProductId} (h : p ∈ (rawScores data user).keys) :
    (rawScores data user).get? p = some (points data user p) := by
  have mentioned : ∃ e ∈ contributions data user, e.1 = p := by
    rw [rawScores_eq_group] at h
    exact (Dict.mem_keys_group ..).1 h
  rw [rawScores_eq_group, Dict.get?_group, if_pos mentioned, foldl_add_snd, zero_add, points]

end Raw

/-! ## The loop over the keys -/

section Loop

variable (data : RecommendationData) (user : Customer)

/-- What the loop makes of one entry. -/
def lookedUp (e : ProductId × ℚ) : Option (ProductId × ℚ) :=
  match data.product e.1 with
  | none => some e
  | some product =>
    if product.isAvailable then some (e.1, e.2 * scoreBoost user product) else none

theorem fst_of_lookedUp {e e' : ProductId × ℚ} (h : lookedUp data user e = some e') :
    e'.1 = e.1 := by
  unfold lookedUp at h
  split at h
  · rw [Option.some.inj h]
  · split at h
    · rw [← Option.some.inj h]
    · cases h

/-- One round changes the entry of its key only. -/
theorem lookUpProduct_items {scores : Dict ProductId ℚ} {pid : ProductId}
    (h : pid ∈ scores.keys) (productsMap : Dict ProductId CatalogProduct) :
    (lookUpProduct data user (scores, productsMap) pid).1.items =
      scores.items.filterMap fun e => if e.1 = pid then lookedUp data user e else some e := by
  unfold lookUpProduct
  cases found : data.product pid with
  | none =>
    refine (List.filterMap_some).symm.trans (List.filterMap_congr fun e _ => ?_)
    split
    · next hk => rw [lookedUp, hk, found]
    · rfl
  | some product =>
    by_cases available : product.isAvailable
    · simp only [available, not_true_eq_false, if_false]
      rw [Dict.items_update_of_mem h, ← List.filterMap_eq_map]
      refine List.filterMap_congr fun e _ => ?_
      simp only [Function.comp]
      split
      · next hk => simp only [lookedUp, hk, found, available, if_true, Option.getD_some]
      · rfl
    · simp only [available, not_false_eq_true, if_true]
      show scores.items.filter _ = _
      rw [← List.filterMap_eq_filter]
      refine List.filterMap_congr fun e _ => ?_
      by_cases hk : e.1 = pid
      · simp [Option.guard, hk, lookedUp, found, available]
      · simp [Option.guard, hk]

theorem mem_keys_lookUpProduct {scores : Dict ProductId ℚ} {pid pid' : ProductId}
    (hne : pid' ≠ pid) (h : pid' ∈ scores.keys) (productsMap : Dict ProductId CatalogProduct) :
    pid' ∈ (lookUpProduct data user (scores, productsMap) pid).1.keys := by
  obtain ⟨s, hs⟩ := (Dict.mem_keys_iff _ _).1 h
  refine (Dict.mem_keys_iff _ _).2 ⟨s, ?_⟩
  unfold lookUpProduct
  cases data.product pid with
  | none => exact hs
  | some product =>
    by_cases available : product.isAvailable
    · simp only [available, not_true_eq_false, if_false]
      rw [Dict.get?_update_ne _ hne, hs]
    · simp only [available, not_false_eq_true, if_true]
      rw [Dict.get?_erase_ne _ hne, hs]

theorem lookUpProduct_map (scores : Dict ProductId ℚ) (pid : ProductId)
    (productsMap : Dict ProductId CatalogProduct) (p : ProductId) :
    (lookUpProduct data user (scores, productsMap) pid).2.get? p =
      if p = pid then ((data.product pid).filter (·.isAvailable)).or (productsMap.get? p)
      else productsMap.get? p := by
  unfold lookUpProduct
  cases data.product pid with
  | none => simp
  | some product =>
    by_cases available : product.isAvailable
    · by_cases hp : p = pid
      · subst hp
        simp [Option.filter, available, Dict.get?_update_self]
      · simp [available, Dict.get?_update_ne _ hp, hp]
    · simp [Option.filter, available]

/-- The loop makes of every entry what its rounds make of them, and maps the available products. -/
theorem foldl_lookUpProduct {pids : List ProductId} (distinct : pids.Nodup) :
    ∀ (scores : Dict ProductId ℚ) (productsMap : Dict ProductId CatalogProduct),
      (∀ pid ∈ pids, pid ∈ scores.keys) →
      (pids.foldl (lookUpProduct data user) (scores, productsMap)).1.items =
        scores.items.filterMap (fun e => if e.1 ∈ pids then lookedUp data user e else some e) ∧
      ∀ p, (pids.foldl (lookUpProduct data user) (scores, productsMap)).2.get? p =
        if p ∈ pids then ((data.product p).filter (·.isAvailable)).or (productsMap.get? p)
        else productsMap.get? p := by
  induction pids with
  | nil =>
    intro scores productsMap _
    exact ⟨by simp, by simp⟩
  | cons pid pids ih =>
    intro scores productsMap keys
    obtain ⟨fresh, distinct⟩ := List.nodup_cons.1 distinct
    have rest : ∀ pid' ∈ pids,
        pid' ∈ (lookUpProduct data user (scores, productsMap) pid).1.keys := by
      intro pid' h
      have hne : pid' ≠ pid := fun he => fresh (he ▸ h)
      exact mem_keys_lookUpProduct data user hne (keys pid' (List.mem_cons_of_mem _ h)) _
    obtain ⟨items, found⟩ := ih distinct _
      (lookUpProduct data user (scores, productsMap) pid).2 rest
    rw [List.foldl_cons]
    refine ⟨items.trans ?_, fun p => (found p).trans ?_⟩
    · rw [lookUpProduct_items data user (keys pid List.mem_cons_self), List.filterMap_filterMap]
      refine List.filterMap_congr fun e _ => ?_
      by_cases hk : e.1 = pid
      · -- the later rounds leave what this one has made of the entry
        rw [if_pos hk, if_pos (hk ▸ List.mem_cons_self)]
        cases made : lookedUp data user e with
        | none => rfl
        | some e' =>
          have out : e'.1 ∉ pids := by
            rw [fst_of_lookedUp data user made, hk]
            exact fresh
          exact if_neg out
      · rw [if_neg hk]
        simp [hk]
    · rw [lookUpProduct_map]
      by_cases hp : p = pid
      · subst hp
        simp [fresh]
      · simp [hp]

end Loop

/-! ## The ranking -/

section Ranking

variable (data : RecommendationData) (user : Customer)

/-- The dictionaries after the loop. -/
def lookedUpScores : Dict ProductId ℚ × Dict ProductId CatalogProduct :=
  (rawScores data user).keys.foldl (lookUpProduct data user) (rawScores data user, .empty)

/-- After the loop the dictionary of points holds the standings. -/
theorem items_lookedUpScores :
    (lookedUpScores data user).1.items = standings data user := by
  have distinct : (rawScores data user).keys.Nodup := (rawScores data user).nodup
  have loop := (foldl_lookUpProduct data user distinct (rawScores data user) .empty
    fun _ h => h).1
  rw [lookedUpScores, loop, Dict.items_eq_filterMap, List.filterMap_filterMap, standings,
    ← keys_rawScores]
  refine List.filterMap_congr fun p hp => ?_
  rw [get?_rawScores data user hp, Option.map_some, Option.bind_some, if_pos hp, lookedUp,
    finalPoints]
  cases data.product p with
  | none => rfl
  | some product => by_cases available : product.isAvailable <;> simp [available]

/-- And the other one the available products of its keys. -/
theorem get?_lookedUpScores {p : ProductId} (hp : p ∈ (rawScores data user).keys) :
    (lookedUpScores data user).2.get? p = (data.product p).filter (·.isAvailable) := by
  have distinct : (rawScores data user).keys.Nodup := (rawScores data user).nodup
  have loop := (foldl_lookUpProduct data user distinct (rawScores data user) .empty
    fun _ h => h).2 p
  rw [lookedUpScores, loop, if_pos hp, Dict.get?_empty, Option.or_none]

/-- Of the keys that stay, those that do not exist have no product. -/
theorem get?_of_mem_standings {e : ProductId × ℚ} (he : e ∈ standings data user) :
    (lookedUpScores data user).2.get? e.1 = data.product e.1 ∧
      ∀ product, data.product e.1 = some product → product.isAvailable := by
  obtain ⟨p, hp, hfinal⟩ := List.mem_filterMap.1 he
  obtain ⟨s, hs, rfl⟩ := Option.map_eq_some_iff.1 hfinal
  rw [← keys_rawScores] at hp
  rw [get?_lookedUpScores data user hp]
  unfold finalPoints at hs
  cases found : data.product p with
  | none => exact ⟨rfl, nofun⟩
  | some product =>
    rw [found] at hs
    by_cases available : product.isAvailable
    · refine ⟨by simp [Option.filter, available], ?_⟩
      rintro _ ⟨⟩
      exact available
    · simp [available] at hs

/-- Reading products that are there does not fail. -/
theorem exists_mapM_readProduct {productsMap : Dict ProductId CatalogProduct}
    {entries : List (ProductId × ℚ)} :
    (∀ e ∈ entries, ∃ product, productsMap.get? e.1 = some product) →
      ∃ list, entries.mapM (fun e => readProduct productsMap e.1) = .ok list := by
  induction entries with
  | nil => exact fun _ => ⟨[], rfl⟩
  | cons e entries ih =>
    intro there
    obtain ⟨product, hproduct⟩ := there e List.mem_cons_self
    obtain ⟨list, run⟩ := ih fun e' h => there e' (List.mem_cons_of_mem _ h)
    refine ⟨product :: list, ?_⟩
    rw [List.mapM_cons, run, readProduct, hproduct]
    rfl

/-- What is read are the products that are there. -/
theorem map_some_of_mapM_readProduct {productsMap : Dict ProductId CatalogProduct}
    {entries : List (ProductId × ℚ)} {list : List CatalogProduct}
    (run : entries.mapM (fun e => readProduct productsMap e.1) = .ok list) :
    entries.map (fun e => productsMap.get? e.1) = list.map some := by
  induction entries generalizing list with
  | nil => cases run; rfl
  | cons first entries ih =>
    rw [List.mapM_cons] at run
    cases found : productsMap.get? first.1 with
    | none =>
      rw [readProduct, found] at run
      cases run
    | some product =>
      cases rest : entries.mapM fun e => readProduct productsMap e.1 with
      | error exc =>
        rw [readProduct, found, rest] at run
        cases run
      | ok products =>
        rw [readProduct, found, rest] at run
        cases run
        rw [List.map_cons, List.map_cons, found, ih rest]

/-- How many entries of the ranking are read. -/
def cutOf (limit : ℤ) (length : ℕ) : ℕ :=
  if 0 ≤ limit then limit.toNat else length - limit.natAbs

theorem scoreForUser_eq (limit : ℤ) : scoreForUser data user limit =
    ((lookedUpScores data user).1.ranked.take
      (cutOf limit (standings data user).length)).mapM fun e =>
        readProduct (lookedUpScores data user).2 e.1 := by
  have length : (lookedUpScores data user).1.ranked.length = (standings data user).length := by
    rw [(Dict.ranked_perm _).length_eq, items_lookedUpScores]
  show (upTo limit (lookedUpScores data user).1.ranked).mapM _ = _
  rw [upTo, length, cutOf]
  rfl

/-- The entries of the ranking that are read. -/
def topEntries (limit : ℤ) : List (ProductId × ℚ) :=
  (lookedUpScores data user).1.ranked.take (cutOf limit (standings data user).length)

theorem mem_standings_of_mem_topEntries {limit : ℤ} {e : ProductId × ℚ}
    (h : e ∈ topEntries data user limit) : e ∈ standings data user := by
  rw [← items_lookedUpScores]
  exact (Dict.ranked_perm _).mem_iff.1 (List.mem_of_mem_take h)

/-- A list that the scoring returns has the products of the best entries. -/
theorem map_some_of_scoreForUser {limit : ℤ} {list : List CatalogProduct}
    (run : scoreForUser data user limit = .ok list) :
    (topEntries data user limit).map (fun e => data.product e.1) = list.map some := by
  rw [scoreForUser_eq] at run
  refine (List.map_congr_left fun e he => ?_).trans (map_some_of_mapM_readProduct run)
  exact (get?_of_mem_standings data user (mem_standings_of_mem_topEntries data user he)).1.symm

/-- The products that the scoring returns are available, and there are at most `limit`. -/
theorem of_scoreForUser {limit : ℤ} {list : List CatalogProduct}
    (run : scoreForUser data user limit = .ok list) :
    (list.map (·.pk)).Nodup ∧ list.length ≤ cutOf limit (standings data user).length ∧
      ∀ product ∈ list, product ∈ data.products ∧ product.isAvailable := by
  have same := map_some_of_scoreForUser data user run
  have named : ∀ e ∈ topEntries data user limit, ∃ product ∈ list,
      data.product e.1 = some product := by
    intro e he
    have read : data.product e.1 ∈ list.map some := same ▸ List.mem_map_of_mem he
    obtain ⟨product, hproduct, h⟩ := List.mem_map.1 read
    exact ⟨product, hproduct, h.symm⟩
  refine ⟨?_, ?_, fun product hproduct => ?_⟩
  · -- the keys are those of the entries
    have keys : list.map (·.pk) = (topEntries data user limit).map Prod.fst := by
      have pks := congrArg (List.map fun o : Option CatalogProduct => (o.map (·.pk)).getD 0) same
      rw [List.map_map, List.map_map] at pks
      refine pks.symm.trans (List.map_congr_left fun e he => ?_)
      obtain ⟨product, -, h⟩ := named e he
      rw [Function.comp_apply, h]
      exact ((data.product_eq_some_iff _ _).1 h).2
    rw [keys]
    exact (Dict.nodup_ranked _).sublist ((List.take_sublist _ _).map _)
  · have length := congrArg List.length same
    rw [List.length_map, List.length_map] at length
    rw [← length]
    exact List.length_take_le _ _
  · have read : some product ∈ (topEntries data user limit).map fun e => data.product e.1 :=
      same ▸ List.mem_map_of_mem hproduct
    obtain ⟨e, he, h⟩ := List.mem_map.1 read
    have standing := mem_standings_of_mem_topEntries data user he
    exact ⟨((data.product_eq_some_iff _ _).1 h).1,
      (get?_of_mem_standings data user standing).2 product h⟩

/-- Every product that does not exist has at least `limit` entries of the ranking before it. -/
def MissingOutranked (limit : ℤ) : Prop :=
  ∀ e ∈ standings data user, data.product e.1 = none →
    cutOf limit (standings data user).length ≤ Dict.ahead (standings data user) e

/-- The scoring returns available products if and only if the products that do not exist are
outranked. -/
theorem scoreForUser_ok_iff (limit : ℤ) :
    (∃ list, scoreForUser data user limit = .ok list ∧
      ∀ product ∈ list, product ∈ data.products ∧ product.isAvailable) ↔
      MissingOutranked data user limit := by
  have place : ∀ e ∈ standings data user, e ∈ topEntries data user limit ↔
      Dict.ahead (standings data user) e < cutOf limit (standings data user).length := by
    intro e he
    have entry : e ∈ (lookedUpScores data user).1.items := by rwa [items_lookedUpScores]
    rw [topEntries, Dict.mem_take_ranked_iff _ entry, items_lookedUpScores]
  constructor
  · rintro ⟨list, run, -⟩ e he missing
    by_contra top
    have taken := (place e he).2 (not_le.1 top)
    have read : data.product e.1 ∈ list.map some := by
      rw [← map_some_of_scoreForUser data user run]
      exact List.mem_map_of_mem taken
    rw [missing] at read
    simp at read
  · intro outranked
    have there : ∀ e ∈ topEntries data user limit,
        ∃ product, (lookedUpScores data user).2.get? e.1 = some product := by
      intro e taken
      have he := mem_standings_of_mem_topEntries data user taken
      cases found : data.product e.1 with
      | none => exact absurd (outranked e he found) (not_le.2 ((place e he).1 taken))
      | some product => exact ⟨product, (get?_of_mem_standings data user he).1.trans found⟩
    obtain ⟨list, run⟩ := exists_mapM_readProduct there
    have run : scoreForUser data user limit = .ok list := (scoreForUser_eq ..).trans run
    exact ⟨list, run, (of_scoreForUser data user run).2.2⟩

/-- A user who liked a product that has been deleted since. -/
def nostalgic : Customer where
  pk := 1
  intelligenceProfile := some { preferredProductIds := [7] }

theorem scoreForUser_not_ok : ¬ ∀ (data : RecommendationData) (user : Customer) (limit : ℤ),
    ∃ list, scoreForUser data user limit = .ok list ∧
      ∀ product ∈ list, product ∈ data.products ∧ product.isAvailable := by
  intro total
  obtain ⟨list, run, -⟩ := total coffeeData nostalgic 8
  have raises : (scoreForUser coffeeData nostalgic 8).isOk = false := by decide +kernel
  rw [run] at raises
  cases raises

end Ranking

end Crumbs
