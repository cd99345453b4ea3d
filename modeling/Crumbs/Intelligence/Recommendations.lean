import Crumbs.Db.Fresh
import Crumbs.Intelligence.Scoring
import Crumbs.Text.Search

/-!
# Recommendations

The lists of products that pages recommend. The list beside a product is filled from the products
bought together with it, then from the user's own picks, then from its category and last from the
whole catalogue; a set of the keys already seen is handed from source to source.

## Contents

- `popularProducts`, `relatedProducts`, `categoryAffinityProducts`, `highMarginProducts`,
  `personalizedCandidates`: the sources
- `forUser`, `forHome`, `forProduct`: the lists
- `Clean`: what a list should be
- `Offers`: what a source gives, and what lists made of it keep
-/

namespace Crumbs

open Crumbs.Db

/-! ## The sources -/

/-- `_is_cookie_product` -/
def isCookieProduct (product : CatalogProduct) : Bool :=
  match product.intelligenceMeta with
  | some row => row.isCookie
  | none =>
    Text.inLower "cookie" product.category.slug || Text.inLower "کوکی" product.category.name ||
      Text.inLower "cookie" product.category.name

namespace CatalogProduct

/-- `intelligence_meta__is_coffee=True` -/
def hasCoffeeMeta (p : CatalogProduct) : Bool := p.intelligenceMeta.any (·.isCoffee)

/-- `intelligence_meta__is_cookie=True` -/
def hasCookieMeta (p : CatalogProduct) : Bool := p.intelligenceMeta.any (·.isCookie)

/-- `order_by("-intelligence_meta__margin_boost", "-price")`: the database puts a missing boost
before all others. -/
def marginFirst (p q : CatalogProduct) : Bool :=
  match p.intelligenceMeta, q.intelligenceMeta with
  | none, none => q.price ≤ p.price
  | none, some _ => true
  | some _, none => false
  | some row, some row' => decide (row'.marginBoost < row.marginBoost) ||
      (row'.marginBoost = row.marginBoost && q.price ≤ p.price)

/-- `order_by("-is_featured", "category__slug", "name")` -/
def shelfFirst (p q : CatalogProduct) : Bool :=
  if p.isFeatured = q.isFeatured then
    decide (p.category.slug < q.category.slug) ||
      (p.category.slug = q.category.slug && decide (p.name ≤ q.name))
  else p.isFeatured

/-- `order_by("-is_featured", "-updated_at")` -/
def newestFirst (p q : CatalogProduct) : Bool :=
  if p.isFeatured = q.isFeatured then q.updatedAt ≤ p.updatedAt else p.isFeatured

end CatalogProduct

section Sources

variable (data : RecommendationData)

/-- `Product.objects.filter(…, availability_status=AVAILABLE).exclude(pk__in=exclude_ids)` -/
def availableProducts (cond : CatalogProduct → Bool) (excludeIds : Finset ProductId) :
    List CatalogProduct :=
  data.products.filter fun p => cond p && decide (p.isAvailable ∧ p.pk ∉ excludeIds)

/-- The first `n` rows of `ProductCoPurchase.objects.filter(product=…).order_by("-affinity_score")`,
as the related products with their scores. -/
def relatedProducts (product : ProductId) (n : ℕ) : List (CatalogProduct × ℚ) :=
  (((data.coPurchases.filter fun row => row.product = product).filterMap fun row =>
    (data.product row.relatedProduct).map fun p => (p, row.affinityScore)).insertionSort
      fun e e' => e'.2 ≤ e.2).take n

/-- `_popular_products` -/
def popularProducts (limit : ℕ) (preferCookies : Bool := false) : List CatalogProduct :=
  let paidItems := (data.shop.orders.filter fun o =>
    decide (o.paymentStatus ∈ growthPaidStatuses)).flatMap fun e => data.shop.orderItems e.1
  let sinceItems := ((data.quantities paidItems).insertionSort
    fun row row' => row'.2 ≤ row.2).take (limit * 3)
  let productIds := sinceItems.map Prod.fst
  if productIds.isEmpty then
    let order := if preferCookies then CatalogProduct.shelfFirst else CatalogProduct.newestFirst
    ((availableProducts data (fun _ => true) ∅).mergeSort order).take limit
  else
    let products := availableProducts data (fun p => p.pk ∈ productIds) ∅
    let ordered := productIds.filterMap fun pid => products.find? fun p => p.pk = pid
    let ordered := if preferCookies then
      ordered.filter (isCookieProduct ·) ++ ordered.filter (! isCookieProduct ·) else ordered
    ordered.take limit

/-- `_category_affinity_products` -/
def categoryAffinityProducts (product : CatalogProduct) (excludeIds : Finset ProductId)
    (limit : ℕ) : List CatalogProduct :=
  (if isCookieProduct product then
    availableProducts data CatalogProduct.hasCoffeeMeta excludeIds
  else
    availableProducts data (fun p => p.category.pk = product.category.pk) excludeIds).take limit

/-- `_high_margin_products` -/
def highMarginProducts (excludeIds : Finset ProductId) (limit : ℕ) : List CatalogProduct :=
  ((availableProducts data (fun _ => true) excludeIds).mergeSort CatalogProduct.marginFirst).take
    limit

/-- `_personalized_candidates` -/
def personalizedCandidates (user : Customer) (excludeIds : Finset ProductId) (limit : ℕ) :
    Except Exn (List (CatalogProduct × ℚ)) := do
  let products ← scoreForUser data user (limit + excludeIds.card)
  return (products.filter fun p => p.pk ∉ excludeIds).map fun p => (p, 5)

end Sources

/-! ## The lists -/

/-- The lists in the cache, by user and limit. Each was made by scoring, from the tables as they
were at the time. -/
structure RecommendationCache where
  lists : UserId → ℕ → Option (List CatalogProduct)
  scored : ∀ u limit list, lists u limit = some list →
    ∃ (data : RecommendationData) (user : Customer), user.pk = u ∧
      scoreForUser data user limit = .ok list

/-- `cache.set` -/
def RecommendationCache.set (cache : RecommendationCache) {data : RecommendationData}
    {user : Customer} {limit : ℕ} {list : List CatalogProduct}
    (run : scoreForUser data user limit = .ok list) : RecommendationCache where
  lists u n := if u = user.pk ∧ n = limit then some list else cache.lists u n
  scored u n list' h := by
    split at h
    · next here =>
      obtain ⟨rfl, rfl⟩ := here
      exact ⟨data, user, rfl, Option.some.inj h ▸ run⟩
    · exact cache.scored u n list' h

/-- `UpsellImpression.Slot` -/
inductive UpsellSlot where
  | home | product | cart | checkout | sms
  deriving DecidableEq

structure UpsellImpression where
  slot : UpsellSlot
  user : Option UserId
  sessionKey : String
  productIds : List ProductId
  count : ℕ
  deriving DecidableEq

/-- What the services write: the cache and the impressions. -/
structure RecommendationState where
  cache : RecommendationCache
  impressions : List UpsellImpression := []

abbrev Recommending := StateT RecommendationState (Except Exn)

section Lists

variable (data : RecommendationData)

/-- `limit or cls.DEFAULT_LIMIT` -/
def orDefaultLimit (limit : ℕ) : ℕ := if limit = 0 then 8 else limit

/-- `for_user`; the user is `none` if nobody is logged in. -/
def forUser (user : Option Customer) (limit : ℕ) : Recommending (List CatalogProduct) := fun st =>
  match user with
  | none => .ok (popularProducts data (orDefaultLimit limit), st)
  | some user =>
    match st.cache.lists user.pk (orDefaultLimit limit) with
    | some cached => .ok (cached, st)
    | none =>
      match run : scoreForUser data user (orDefaultLimit limit) with
      | .error exc => .error exc
      | .ok products => .ok (products, { st with cache := st.cache.set run })

/-- `for_home` -/
def forHome (user : Option Customer) (limit : ℕ) : Recommending (List CatalogProduct) := do
  if user.isSome then
    let recs ← forUser data user limit
    if limit / 2 ≤ recs.length then
      return recs
  return popularProducts data limit true

/-- A round of a loop over products bought together: `seen` and unavailable ones are skipped. -/
def addRelated {α : Type} (product : α → CatalogProduct) (state : List α × Finset ProductId)
    (a : α) : List α × Finset ProductId :=
  if (product a).pk ∈ state.2 ∨ ¬ (product a).isAvailable then state
  else (state.1 ++ [a], insert (product a).pk state.2)

/-- `for_product`, from the category on. -/
def fillProductList (product : CatalogProduct) (limit : ℕ)
    (candidates : List (CatalogProduct × ℚ)) (seen : Finset ProductId) : List CatalogProduct :=
  let (candidates, seen) := if candidates.length < limit then
      ((categoryAffinityProducts data product seen limit).map fun p => (p, (1 : ℚ))).foldl
        (keep fun e => e.1.pk) (candidates, seen)
    else (candidates, seen)
  -- a candidate is the product with its score here, the other way round than in the source
  let result := ((candidates.insertionSort fun e e' => e'.2 ≤ e.2).take limit).map Prod.fst
  let result := if result.length < limit then
    result ++ highMarginProducts data seen (limit - result.length) else result
  result.take limit

/-- `for_product` -/
def forProduct (product : CatalogProduct) (user : Option Customer) (limit : ℕ) :
    Except Exn (List CatalogProduct) := do
  let (candidates, seen) := (relatedProducts data product.pk (limit * 2)).foldl
    (addRelated Prod.fst) ([], {product.pk})
  match user with
  | some user =>
    let personalized ← personalizedCandidates data user seen limit
    return fillProductList data product limit (candidates ++ personalized) seen
  | none => return fillProductList data product limit candidates seen

end Lists

/-! ## Clean lists -/

/-- The list holds different products, all of them available now, none of them excluded, and no
more than `limit`. -/
structure Clean (data : RecommendationData) (excluded : Finset ProductId) (limit : ℕ)
    (list : List CatalogProduct) : Prop where
  distinct : (list.map (·.pk)).Nodup
  available : ∀ p ∈ list, ∃ q, data.product p.pk = some q ∧ q.isAvailable
  not_excluded : ∀ p ∈ list, p.pk ∉ excluded
  length_le : list.length ≤ limit

/-- Different products of the catalogue, available and not excluded. -/
structure Offers (data : RecommendationData) (excluded : Finset ProductId)
    (list : List CatalogProduct) : Prop where
  distinct : (list.map (·.pk)).Nodup
  listed : ∀ p ∈ list, p ∈ data.products
  available : ∀ p ∈ list, p.isAvailable
  not_excluded : ∀ p ∈ list, p.pk ∉ excluded

theorem RecommendationData.product_of_mem (data : RecommendationData) {p : CatalogProduct}
    (h : p ∈ data.products) : data.product p.pk = some p :=
  (data.product_eq_some_iff _ _).2 ⟨h, rfl⟩

/-- A product of the catalogue is known by its key. -/
theorem RecommendationData.eq_of_pk (data : RecommendationData) {p q : CatalogProduct}
    (hp : p ∈ data.products) (hq : q ∈ data.products) (h : p.pk = q.pk) : p = q :=
  List.inj_on_of_nodup_map data.pk_unique hp hq h

namespace Offers

variable {data : RecommendationData} {excluded : Finset ProductId} {l l' : List CatalogProduct}

theorem clean (h : Offers data excluded l) {limit : ℕ} (length : l.length ≤ limit) :
    Clean data excluded limit l where
  distinct := h.distinct
  available p hp := ⟨p, data.product_of_mem (h.listed p hp), h.available p hp⟩
  not_excluded := h.not_excluded
  length_le := length

theorem nil : Offers data excluded [] where
  distinct := List.nodup_nil
  listed _ h := absurd h List.not_mem_nil
  available _ h := absurd h List.not_mem_nil
  not_excluded _ h := absurd h List.not_mem_nil

theorem sublist (h : Offers data excluded l) (sub : l'.Sublist l) : Offers data excluded l' where
  distinct := h.distinct.sublist (sub.map _)
  listed p hp := h.listed p (sub.subset hp)
  available p hp := h.available p (sub.subset hp)
  not_excluded p hp := h.not_excluded p (sub.subset hp)

theorem perm (h : Offers data excluded l) (same : l'.Perm l) : Offers data excluded l' where
  distinct := (same.map _).nodup_iff.2 h.distinct
  listed p hp := h.listed p (same.mem_iff.1 hp)
  available p hp := h.available p (same.mem_iff.1 hp)
  not_excluded p hp := h.not_excluded p (same.mem_iff.1 hp)

theorem mono {excluded' : Finset ProductId} (h : Offers data excluded l)
    (sub : excluded' ⊆ excluded) : Offers data excluded' l :=
  { h with not_excluded := fun p hp old => h.not_excluded p hp (sub old) }

/-- Offers that exclude others can follow them. -/
theorem append (h : Offers data excluded l) (h' : Offers data excluded l')
    (apart : ∀ p ∈ l, ∀ q ∈ l', p.pk ≠ q.pk) : Offers data excluded (l ++ l') where
  distinct := by
    rw [List.map_append, List.nodup_append]
    refine ⟨h.distinct, h'.distinct, fun a ha b hb => ?_⟩
    obtain ⟨p, hp, rfl⟩ := List.mem_map.1 ha
    obtain ⟨q, hq, rfl⟩ := List.mem_map.1 hb
    exact apart p hp q hq
  listed p hp := (List.mem_append.1 hp).elim (h.listed p) (h'.listed p)
  available p hp := (List.mem_append.1 hp).elim (h.available p) (h'.available p)
  not_excluded p hp := (List.mem_append.1 hp).elim (h.not_excluded p) (h'.not_excluded p)

end Offers

section SourceOffers

variable (data : RecommendationData)

theorem availableProducts_offers (cond : CatalogProduct → Bool) (excludeIds : Finset ProductId) :
    Offers data excludeIds (availableProducts data cond excludeIds) := by
  have holds : ∀ p ∈ availableProducts data cond excludeIds,
      p.isAvailable ∧ p.pk ∉ excludeIds := by
    intro p hp
    have := (List.mem_filter.1 hp).2
    rw [Bool.and_eq_true] at this
    exact of_decide_eq_true this.2
  exact ⟨data.pk_unique.sublist (List.filter_sublist.map _),
    fun p hp => (List.mem_filter.1 hp).1, fun p hp => (holds p hp).1, fun p hp => (holds p hp).2⟩

theorem categoryAffinityProducts_offers (product : CatalogProduct)
    (excludeIds : Finset ProductId) (limit : ℕ) :
    Offers data excludeIds (categoryAffinityProducts data product excludeIds limit) := by
  unfold categoryAffinityProducts
  split
  · exact (availableProducts_offers data _ _).sublist (List.take_sublist _ _)
  · exact (availableProducts_offers data _ _).sublist (List.take_sublist _ _)

theorem highMarginProducts_offers (excludeIds : Finset ProductId) (limit : ℕ) :
    Offers data excludeIds (highMarginProducts data excludeIds limit) :=
  ((availableProducts_offers data _ _).perm (List.mergeSort_perm _ _)).sublist
    (List.take_sublist _ _)

theorem mem_products_of_mem_relatedProducts {product : ProductId} {n : ℕ}
    {e : CatalogProduct × ℚ} (h : e ∈ relatedProducts data product n) :
    e.1 ∈ data.products := by
  have row := (List.perm_insertionSort _ _).mem_iff.1 (List.mem_of_mem_take h)
  obtain ⟨row, -, joined⟩ := List.mem_filterMap.1 row
  obtain ⟨p, found, rfl⟩ := Option.map_eq_some_iff.1 joined
  exact ((data.product_eq_some_iff _ _).1 found).1

/-- The loop over products bought together adds the available ones that are fresh. -/
theorem foldl_addRelated {α : Type} (product : α → CatalogProduct) (kept : List α)
    (seen : Finset ProductId) (l : List α) :
    l.foldl (addRelated product) (kept, seen) =
      (kept ++ fresh (fun a => (product a).pk) seen (l.filter fun a => (product a).isAvailable),
        seen ∪ ((fresh (fun a => (product a).pk) seen
          (l.filter fun a => (product a).isAvailable)).map fun a => (product a).pk).toFinset) := by
  rw [← foldl_keep, List.foldl_filter]
  congr 1
  funext state a
  unfold addRelated keep
  by_cases available : (product a).isAvailable <;> simp [available]

theorem personalizedCandidates_offers {user : Customer} {excludeIds : Finset ProductId}
    {limit : ℕ} {picks : List (CatalogProduct × ℚ)}
    (run : personalizedCandidates data user excludeIds limit = .ok picks) :
    Offers data excludeIds (picks.map Prod.fst) ∧ ∀ e ∈ picks, e.2 = 5 := by
  unfold personalizedCandidates at run
  cases scored : scoreForUser data user (limit + excludeIds.card) with
  | error exc =>
    rw [scored] at run
    cases run
  | ok products =>
    rw [scored] at run
    cases run
    obtain ⟨distinct, -, all⟩ := of_scoreForUser data user scored
    rw [List.map_map]
    have same : (products.filter fun p => p.pk ∉ excludeIds).map
        (Prod.fst ∘ fun p => (p, (5 : ℚ))) = products.filter fun p => p.pk ∉ excludeIds :=
      List.map_id _
    rw [same]
    constructor
    · exact ⟨distinct.sublist (List.filter_sublist.map _),
        fun p hp => (all p (List.mem_filter.1 hp).1).1,
        fun p hp => (all p (List.mem_filter.1 hp).1).2,
        fun p hp => of_decide_eq_true (List.mem_filter.1 hp).2⟩
    · intro e he
      obtain ⟨p, -, rfl⟩ := List.mem_map.1 he
      rfl

/-- Products that are looked up by their keys have these keys. -/
theorem map_pk_filterMap_sublist {find : ProductId → Option CatalogProduct}
    (named : ∀ pid p, find pid = some p → p.pk = pid) (pids : List ProductId) :
    ((pids.filterMap find).map (·.pk)).Sublist pids := by
  induction pids with
  | nil => exact .slnil
  | cons pid pids ih =>
    cases found : find pid with
    | none =>
      rw [List.filterMap_cons_none found]
      exact ih.cons pid
    | some p =>
      rw [List.filterMap_cons_some found, List.map_cons, named pid p found]
      exact ih.cons_cons pid

/-- Different keys find different offers. -/
theorem find_offers {excluded : Finset ProductId} {products : List CatalogProduct}
    (offers : Offers data excluded products) {pids : List ProductId} (distinct : pids.Nodup) :
    Offers data excluded (pids.filterMap fun pid => products.find? fun p => p.pk = pid) := by
  have named : ∀ pid p, (products.find? fun p => p.pk = pid) = some p → p.pk = pid :=
    fun pid p found => by simpa using List.find?_some found
  have found : ∀ p ∈ pids.filterMap fun pid => products.find? fun p => p.pk = pid,
      p ∈ products := by
    intro p hp
    obtain ⟨pid, -, found⟩ := List.mem_filterMap.1 hp
    exact List.mem_of_find?_eq_some found
  exact ⟨distinct.sublist (map_pk_filterMap_sublist named pids),
    fun p hp => offers.listed p (found p hp), fun p hp => offers.available p (found p hp),
    fun p hp => offers.not_excluded p (found p hp)⟩

theorem nodup_bestSellers (items : List OrderItem) (n : ℕ) :
    ((((data.quantities items).insertionSort fun row row' => row'.2 ≤ row.2).take n).map
      Prod.fst).Nodup := by
  have rows : ((data.quantities items).map Prod.fst).Nodup :=
    ((data.arrange_perm _).map _).nodup_iff.2 (Dict.nodup _)
  have sorted := (((data.quantities items).perm_insertionSort
    fun row row' => row'.2 ≤ row.2).map Prod.fst).nodup_iff.2 rows
  exact sorted.sublist ((List.take_sublist _ _).map _)

theorem popularProducts_offers (limit : ℕ) (preferCookies : Bool) :
    Offers data ∅ (popularProducts data limit preferCookies) := by
  unfold popularProducts
  dsimp only
  split
  · exact ((availableProducts_offers data _ _).perm (List.mergeSort_perm _ _)).sublist
      (List.take_sublist _ _)
  · have ordered := fun cond => find_offers data (availableProducts_offers data cond ∅)
      (nodup_bestSellers data ((data.shop.orders.filter fun o =>
        decide (o.paymentStatus ∈ growthPaidStatuses)).flatMap fun e => data.shop.orderItems e.1)
        (limit * 3))
    refine Offers.sublist ?_ (List.take_sublist _ _)
    split
    · exact (ordered _).perm (List.filter_append_perm _ _)
    · exact ordered _

end SourceOffers

end Crumbs
