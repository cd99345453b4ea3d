import Crumbs.Intelligence.Recommendations

/-!
# The List Beside a Product

The user's picks are put among the candidates without being marked as seen. The sources that come
after them may offer the same products again, and the list then shows them twice.

## Contents

- `productList`: the list, from the picks
- `categoryTaken`, `marginFill`: the later products that get a place
- `PicksOfferedOnce`, `forProduct_clean_iff`: the list is clean exactly when no pick is among them
-/

namespace Crumbs

open Crumbs.Db

section Lists

variable (data : RecommendationData) (product : CatalogProduct) (limit : ℕ)

/-- The products bought together with this one that become candidates. -/
def coPurchased : List (CatalogProduct × ℚ) :=
  fresh (fun e => e.1.pk) {product.pk}
    ((relatedProducts data product.pk (limit * 2)).filter fun e => e.1.isAvailable)

/-- `seen`, when the user's picks are made. -/
def coPurchasedSeen : Finset ProductId :=
  {product.pk} ∪ ((coPurchased data product limit).map fun e => e.1.pk).toFinset

/-- The user's picks, with their points. -/
def picksFor (user : Option Customer) : Except Exn (List (CatalogProduct × ℚ)) :=
  match user with
  | some user => personalizedCandidates data user (coPurchasedSeen data product limit) limit
  | none => .ok []

section Picks

variable (picks : List (CatalogProduct × ℚ))

/-- The candidates before the category is asked. -/
def firstCandidates : List (CatalogProduct × ℚ) := coPurchased data product limit ++ picks

/-- What the category gives. -/
def categoryFill : List CatalogProduct :=
  if (firstCandidates data product limit picks).length < limit then
    categoryAffinityProducts data product (coPurchasedSeen data product limit) limit
  else []

/-- The candidates with their points. -/
def productCandidates : List (CatalogProduct × ℚ) :=
  firstCandidates data product limit picks ++
    (categoryFill data product limit picks).map fun p => (p, 1)

/-- The candidates that get a place. -/
def topCandidates : List (CatalogProduct × ℚ) :=
  ((productCandidates data product limit picks).insertionSort fun e e' => e'.2 ≤ e.2).take limit

/-- What the whole catalogue gives, if there are places left. -/
def marginFill : List CatalogProduct :=
  highMarginProducts data (coPurchasedSeen data product limit ∪
    ((categoryFill data product limit picks).map (·.pk)).toFinset)
    (limit - (topCandidates data product limit picks).length)

/-- The list. -/
def productList : List CatalogProduct :=
  (topCandidates data product limit picks).map Prod.fst ++ marginFill data product limit picks

/-- The category's products that get a place: those for which the candidates with at least their
points leave room. -/
def categoryTaken : List CatalogProduct :=
  (categoryFill data product limit picks).take
    (limit - (firstCandidates data product limit picks).countP fun e => 1 ≤ e.2)

end Picks

/-! ## What the service returns -/

theorem length_productList_le (picks : List (CatalogProduct × ℚ)) :
    (productList data product limit picks).length ≤ limit := by
  have top : (topCandidates data product limit picks).length ≤ limit := List.length_take_le _ _
  have margin : (marginFill data product limit picks).length ≤
      limit - (topCandidates data product limit picks).length := List.length_take_le _ _
  rw [productList, List.length_append, List.length_map]
  omega

theorem categoryFill_offers (picks : List (CatalogProduct × ℚ)) :
    Offers data (coPurchasedSeen data product limit) (categoryFill data product limit picks) := by
  unfold categoryFill
  split
  · exact categoryAffinityProducts_offers data _ _ _
  · exact .nil

theorem marginFill_offers (picks : List (CatalogProduct × ℚ)) :
    Offers data (coPurchasedSeen data product limit ∪
      ((categoryFill data product limit picks).map (·.pk)).toFinset)
      (marginFill data product limit picks) :=
  highMarginProducts_offers data _ _

/-- The category's products all become candidates. -/
theorem foldl_keep_category (picks : List (CatalogProduct × ℚ)) :
    (if (firstCandidates data product limit picks).length < limit then
      ((categoryAffinityProducts data product (coPurchasedSeen data product limit) limit).map
        fun p => (p, (1 : ℚ))).foldl (keep fun e => e.1.pk)
          (firstCandidates data product limit picks, coPurchasedSeen data product limit)
    else (firstCandidates data product limit picks, coPurchasedSeen data product limit)) =
      (productCandidates data product limit picks, coPurchasedSeen data product limit ∪
        ((categoryFill data product limit picks).map (·.pk)).toFinset) := by
  rw [productCandidates, categoryFill]
  split
  · have offers := categoryAffinityProducts_offers data product
      (coPurchasedSeen data product limit) limit
    have all : fresh (fun e => e.1.pk) (coPurchasedSeen data product limit)
        ((categoryAffinityProducts data product (coPurchasedSeen data product limit) limit).map
          fun p => (p, (1 : ℚ))) =
        (categoryAffinityProducts data product (coPurchasedSeen data product limit) limit).map
          fun p => (p, (1 : ℚ)) := by
      refine fresh_eq_self _ ?_ fun e he => ?_
      · rw [List.map_map]
        exact offers.distinct
      · obtain ⟨p, hp, rfl⟩ := List.mem_map.1 he
        exact offers.not_excluded p hp
    rw [foldl_keep, all, List.map_map]
    rfl
  · simp

theorem fillProductList_eq (picks : List (CatalogProduct × ℚ)) :
    fillProductList data product limit (firstCandidates data product limit picks)
      (coPurchasedSeen data product limit) = productList data product limit picks := by
  unfold fillProductList
  rw [foldl_keep_category]
  have result : (if ((topCandidates data product limit picks).map Prod.fst).length < limit then
      productList data product limit picks
      else (topCandidates data product limit picks).map Prod.fst) =
        productList data product limit picks := by
    split
    · rfl
    · next full =>
      have none_left : marginFill data product limit picks = [] := by
        rw [List.length_map] at full
        rw [marginFill, Nat.sub_eq_zero_of_le (not_lt.1 full)]
        rfl
      rw [productList, none_left, List.append_nil]
  have whole := List.take_of_length_le (length_productList_le data product limit picks)
  rw [← result] at whole
  refine Eq.trans ?_ (whole.trans result)
  simp only [List.length_map]
  rfl

theorem forProduct_eq (user : Option Customer) : forProduct data product user limit =
    (picksFor data product limit user).map (productList data product limit) := by
  unfold forProduct
  rw [foldl_addRelated]
  cases user with
  | none =>
    have none_picked := fillProductList_eq data product limit []
    rw [firstCandidates, List.append_nil] at none_picked
    exact congrArg Except.ok none_picked
  | some user =>
    show (personalizedCandidates data user (coPurchasedSeen data product limit) limit >>= _) =
      (personalizedCandidates data user (coPurchasedSeen data product limit) limit).map _
    cases personalizedCandidates data user (coPurchasedSeen data product limit) limit with
    | error exc => rfl
    | ok picks => exact congrArg Except.ok (fillProductList_eq data product limit picks)

/-! ## Who gets a place -/

/-- What the picks are: different available products that are not seen yet, each with 5 points. -/
structure ArePicks (picks : List (CatalogProduct × ℚ)) : Prop where
  offers : Offers data (coPurchasedSeen data product limit) (picks.map Prod.fst)
  points : ∀ e ∈ picks, e.2 = 5

theorem picksFor_arePicks {user : Option Customer} {picks : List (CatalogProduct × ℚ)}
    (run : picksFor data product limit user = .ok picks) : ArePicks data product limit picks := by
  cases user with
  | none =>
    cases run
    exact ⟨.nil, nofun⟩
  | some user =>
    obtain ⟨offers, points⟩ := personalizedCandidates_offers data run
    exact ⟨offers, points⟩

theorem coPurchased_offers :
    Offers data {product.pk} ((coPurchased data product limit).map Prod.fst) := by
  have kept : ∀ p ∈ (coPurchased data product limit).map Prod.fst,
      p ∈ data.products ∧ p.isAvailable ∧ p.pk ∉ ({product.pk} : Finset ProductId) := by
    intro p hp
    obtain ⟨e, he, rfl⟩ := List.mem_map.1 hp
    have row := List.mem_filter.1 ((fresh_sublist _ _ _).subset he)
    exact ⟨mem_products_of_mem_relatedProducts data row.1, of_decide_eq_true row.2,
      not_mem_of_mem_fresh (fun e : CatalogProduct × ℚ => e.1.pk) he⟩
  refine ⟨?_, fun p hp => (kept p hp).1, fun p hp => (kept p hp).2.1, fun p hp => (kept p hp).2.2⟩
  rw [List.map_map]
  exact nodup_fresh _ _ _

variable {data product limit} {picks : List (CatalogProduct × ℚ)}

theorem pk_mem_coPurchasedSeen {e : CatalogProduct × ℚ}
    (he : e ∈ coPurchased data product limit) : e.1.pk ∈ coPurchasedSeen data product limit :=
  Finset.mem_union_right _ (List.mem_toFinset.2 (List.mem_map_of_mem he))

theorem firstCandidates_offers (h : ArePicks data product limit picks) :
    Offers data {product.pk} ((firstCandidates data product limit picks).map Prod.fst) := by
  rw [firstCandidates, List.map_append]
  refine (coPurchased_offers data product limit).append
    (h.offers.mono Finset.subset_union_left) ?_
  intro p hp q hq same
  obtain ⟨e, he, rfl⟩ := List.mem_map.1 hp
  exact h.offers.not_excluded q hq (same ▸ pk_mem_coPurchasedSeen he)

/-- Candidates with the same key are one, or a pick and the same product of the category. -/
theorem eq_or_pick_of_pk_eq (h : ArePicks data product limit picks) {e e' : CatalogProduct × ℚ}
    (he : e ∈ firstCandidates data product limit picks)
    (he' : e' ∈ productCandidates data product limit picks) (same : e.1.pk = e'.1.pk) :
    e = e' ∨ e ∈ picks ∧ e' = (e.1, 1) ∧ e.1 ∈ categoryFill data product limit picks := by
  rcases List.mem_append.1 he' with first | later
  · left
    have distinct := (firstCandidates_offers h).distinct
    rw [List.map_map] at distinct
    exact List.inj_on_of_nodup_map distinct he first same
  · right
    obtain ⟨p, hp, rfl⟩ := List.mem_map.1 later
    have offers := categoryFill_offers data product limit picks
    rcases List.mem_append.1 he with related | picked
    · exact absurd (same ▸ pk_mem_coPurchasedSeen related) (offers.not_excluded p hp)
    · have hpick : e.1 ∈ data.products := h.offers.listed _ (List.mem_map_of_mem picked)
      have := data.eq_of_pk hpick (offers.listed p hp) same
      exact ⟨picked, by rw [this], this ▸ hp⟩

theorem nodup_productCandidates (h : ArePicks data product limit picks) :
    (productCandidates data product limit picks).Nodup := by
  have first : (firstCandidates data product limit picks).Nodup := by
    have distinct := (firstCandidates_offers h).distinct
    rw [List.map_map] at distinct
    exact List.Nodup.of_map _ distinct
  have later : ((categoryFill data product limit picks).map fun p => (p, (1 : ℚ))).Nodup := by
    refine List.Nodup.of_map (fun e => e.1.pk) ?_
    rw [List.map_map]
    exact (categoryFill_offers data product limit picks).distinct
  refine List.nodup_append.2 ⟨first, later, fun e he e' he' same => ?_⟩
  obtain ⟨p, hp, rfl⟩ := List.mem_map.1 he'
  rcases List.mem_append.1 he with related | picked
  · refine (categoryFill_offers data product limit picks).not_excluded p hp ?_
    have seen := pk_mem_coPurchasedSeen related
    rwa [same] at seen
  · have five := h.points e picked
    rw [same] at five
    norm_num at five

/-- A candidate that gets a place. -/
theorem mem_of_mem_topCandidates {e : CatalogProduct × ℚ}
    (h : e ∈ topCandidates data product limit picks) :
    e ∈ productCandidates data product limit picks :=
  (List.perm_insertionSort _ _).mem_iff.1 (List.mem_of_mem_take h)

/-- If the first candidates leave room, all picks get a place. -/
theorem mem_topCandidates_of_pick (h : ArePicks data product limit picks)
    (room : (firstCandidates data product limit picks).length < limit)
    {e : CatalogProduct × ℚ} (he : e ∈ picks) : e ∈ topCandidates data product limit picks := by
  have candidate : e ∈ productCandidates data product limit picks :=
    List.mem_append_left _ (List.mem_append_right _ he)
  refine (Dict.mem_take_sorted_iff (nodup_productCandidates h) candidate limit).2 ?_
  have behind := Dict.ahead_lt candidate
  have later : ((categoryFill data product limit picks).map fun p => (p, (1 : ℚ))).countP
      (fun a => e.2 ≤ a.2) = 0 := by
    refine List.countP_eq_zero.2 fun a ha => ?_
    obtain ⟨p, -, rfl⟩ := List.mem_map.1 ha
    rw [h.points e he]
    norm_num
  have first : (productCandidates data product limit picks).countP (fun a => e.2 ≤ a.2) ≤
      (firstCandidates data product limit picks).length := by
    rw [productCandidates, List.countP_append, later]
    exact List.countP_le_length
  exact behind.trans (first.trans_lt room)

/-- The category's products that get a place. -/
theorem mem_topCandidates_iff_categoryTaken (h : ArePicks data product limit picks)
    {p : CatalogProduct} (hp : p ∈ categoryFill data product limit picks) :
    (p, 1) ∈ topCandidates data product limit picks ↔
      p ∈ categoryTaken data product limit picks := by
  have same : ∀ a ∈ (categoryFill data product limit picks).map fun p => (p, (1 : ℚ)),
      a.2 = (1 : ℚ) := by
    intro a ha
    obtain ⟨q, -, rfl⟩ := List.mem_map.1 ha
    rfl
  refine (Dict.mem_take_sorted_append_iff (nodup_productCandidates h)
    (List.mem_map_of_mem hp) same limit).trans ?_
  rw [← List.map_take, List.mem_map, categoryTaken]
  constructor
  · rintro ⟨q, hq, pair⟩
    exact (Prod.mk.inj pair).1 ▸ hq
  · intro taken
    exact ⟨p, taken, rfl⟩

/-- The picks are not among the later products that get a place. -/
def OfferedOnce (data : RecommendationData) (product : CatalogProduct) (limit : ℕ)
    (picks : List (CatalogProduct × ℚ)) : Prop :=
  ∀ e ∈ picks, e.1 ∉ categoryTaken data product limit picks ∧
    e.1 ∉ marginFill data product limit picks

/-- The catalogue is asked only if the first candidates leave room. -/
theorem room_of_mem_marginFill {p : CatalogProduct}
    (h : p ∈ marginFill data product limit picks) :
    (firstCandidates data product limit picks).length < limit := by
  by_contra full
  have top : (topCandidates data product limit picks).length = limit := by
    have candidates : limit ≤ (productCandidates data product limit picks).length := by
      rw [productCandidates, List.length_append]
      omega
    rw [topCandidates, List.length_take, List.length_insertionSort]
    omega
  rw [marginFill, top, Nat.sub_self] at h
  exact List.not_mem_nil h

theorem room_of_mem_categoryFill {p : CatalogProduct}
    (h : p ∈ categoryFill data product limit picks) :
    (firstCandidates data product limit picks).length < limit := by
  unfold categoryFill at h
  split at h
  · assumption
  · cases h

/-- Of the candidates with a place, no two have the same key. -/
theorem eq_of_pk_eq_of_offeredOnce (h : ArePicks data product limit picks)
    (once : OfferedOnce data product limit picks) {e e' : CatalogProduct × ℚ}
    (he : e ∈ topCandidates data product limit picks)
    (he' : e' ∈ topCandidates data product limit picks) (same : e.1.pk = e'.1.pk) : e = e' := by
  -- a first candidate has its key for itself: the category's product of that key has no place
  have alone : ∀ a ∈ firstCandidates data product limit picks,
      ∀ b ∈ topCandidates data product limit picks, a.1.pk = b.1.pk → a = b := by
    intro a ha b hb hab
    rcases eq_or_pick_of_pk_eq h ha (mem_of_mem_topCandidates hb) hab with
      rfl | ⟨picked, rfl, fill⟩
    · rfl
    · exact absurd ((mem_topCandidates_iff_categoryTaken h fill).1 hb) (once a picked).1
  rcases List.mem_append.1 (mem_of_mem_topCandidates he) with first | later
  · exact alone e first e' he' same
  · rcases List.mem_append.1 (mem_of_mem_topCandidates he') with first' | later'
    · exact (alone e' first' e he same.symm).symm
    · have distinct := (categoryFill_offers data product limit picks).distinct
      obtain ⟨p, hp, rfl⟩ := List.mem_map.1 later
      obtain ⟨q, hq, rfl⟩ := List.mem_map.1 later'
      have hpq : p = q := List.inj_on_of_nodup_map distinct hp hq same
      rw [hpq]

theorem topCandidates_offers (h : ArePicks data product limit picks)
    (once : OfferedOnce data product limit picks) :
    Offers data {product.pk} ((topCandidates data product limit picks).map Prod.fst) := by
  have offered : ∀ p ∈ (topCandidates data product limit picks).map Prod.fst,
      p ∈ data.products ∧ p.isAvailable ∧ p.pk ∉ ({product.pk} : Finset ProductId) := by
    intro p hp
    obtain ⟨e, he, rfl⟩ := List.mem_map.1 hp
    rcases List.mem_append.1 (mem_of_mem_topCandidates he) with first | later
    · have offers := firstCandidates_offers h
      have he := List.mem_map_of_mem (f := Prod.fst) first
      exact ⟨offers.listed _ he, offers.available _ he, offers.not_excluded _ he⟩
    · obtain ⟨p, fill, rfl⟩ := List.mem_map.1 later
      have offers : Offers data {product.pk} _ :=
        (categoryFill_offers data product limit picks).mono Finset.subset_union_left
      exact ⟨offers.listed _ fill, offers.available _ fill, offers.not_excluded _ fill⟩
  refine ⟨?_, fun p hp => (offered p hp).1, fun p hp => (offered p hp).2.1,
    fun p hp => (offered p hp).2.2⟩
  rw [List.map_map]
  have entries : (topCandidates data product limit picks).Nodup :=
    ((List.perm_insertionSort _ _).nodup_iff.2 (nodup_productCandidates h)).sublist
      (List.take_sublist _ _)
  exact entries.map_on fun e he e' he' same => eq_of_pk_eq_of_offeredOnce h once he he' same

/-- A list without picks among the later products is clean. -/
theorem clean_productList (h : ArePicks data product limit picks)
    (once : OfferedOnce data product limit picks) :
    Clean data {product.pk} limit (productList data product limit picks) := by
  refine Offers.clean ?_ (length_productList_le data product limit picks)
  have margin := marginFill_offers data product limit picks
  have first : ({product.pk} : Finset ProductId) ⊆ coPurchasedSeen data product limit ∪
      ((categoryFill data product limit picks).map (·.pk)).toFinset := by
    rw [coPurchasedSeen, Finset.union_assoc]
    exact Finset.subset_union_left
  refine (topCandidates_offers h once).append (margin.mono first) ?_
  intro p hp q hq same
  obtain ⟨e, he, rfl⟩ := List.mem_map.1 hp
  have new := margin.not_excluded q hq
  rcases List.mem_append.1 (mem_of_mem_topCandidates he) with first | later
  · rcases List.mem_append.1 first with related | picked
    · exact new (Finset.mem_union_left _ (same ▸ pk_mem_coPurchasedSeen related))
    · -- the sources after the picks may offer them again
      have listed := h.offers.listed _ (List.mem_map_of_mem picked)
      have again := data.eq_of_pk listed (margin.listed q hq) same
      exact (once e picked).2 (again ▸ hq)
  · obtain ⟨p, fill, rfl⟩ := List.mem_map.1 later
    refine new (Finset.mem_union_right _ (List.mem_toFinset.2 ?_))
    exact same ▸ List.mem_map_of_mem fill

/-- And a clean list has no pick among the later products. -/
theorem offeredOnce_of_clean (h : ArePicks data product limit picks)
    (clean : Clean data {product.pk} limit (productList data product limit picks)) :
    OfferedOnce data product limit picks := by
  have distinct := clean.distinct
  rw [productList, List.map_append, List.map_map, List.nodup_append] at distinct
  obtain ⟨top, -, apart⟩ := distinct
  intro e he
  constructor
  · intro taken
    have fill := List.mem_of_mem_take taken
    have first := mem_topCandidates_of_pick h (room_of_mem_categoryFill fill) he
    have second := (mem_topCandidates_iff_categoryTaken h fill).2 taken
    have same := List.inj_on_of_nodup_map top first second rfl
    have five := h.points e he
    rw [same] at five
    norm_num at five
  · intro taken
    have first := mem_topCandidates_of_pick h (room_of_mem_marginFill taken) he
    exact apart e.1.pk (List.mem_map_of_mem first) e.1.pk (List.mem_map_of_mem taken) rfl

end Lists

/-- Whatever the user's picks are, none of them is among the category's products that get a place,
or among the products that the whole catalogue fills the list with. -/
def PicksOfferedOnce (data : RecommendationData) (product : CatalogProduct) (user : Option Customer)
    (limit : ℕ) : Prop :=
  ∀ picks, picksFor data product limit user = .ok picks → OfferedOnce data product limit picks

/-- The lists beside a product are clean exactly when the user's picks are not among the later
products. -/
theorem forProduct_clean_iff (data : RecommendationData) (product : CatalogProduct)
    (user : Option Customer) (limit : ℕ) :
    (∀ list, forProduct data product user limit = .ok list →
      Clean data {product.pk} limit list) ↔ PicksOfferedOnce data product user limit := by
  rw [forProduct_eq]
  constructor
  · intro clean picks run
    refine offeredOnce_of_clean (picksFor_arePicks data product limit run) (clean _ ?_)
    rw [run]
    rfl
  · intro once list returned
    cases run : picksFor data product limit user with
    | error exc =>
      rw [run] at returned
      cases returned
    | ok picks =>
      rw [run] at returned
      cases returned
      exact clean_productList (picksFor_arePicks data product limit run) (once picks run)

end Crumbs
