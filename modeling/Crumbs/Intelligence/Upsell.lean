import Crumbs.Intelligence.RelatedProducts

/-!
# Upsells

The products suggested beside a cart and at the checkout. The suggestions for a cart are products
bought together with its lines, then cookies or coffees, then the user's own picks; the cookies and
coffees are not marked as seen, and the picks may come out of a cache that is five minutes old.

## Contents

- `forCart`, `forCheckout`, `suggestBundles`: the services
- `cartList`: the suggestions for a cart, from the picks
- `CartPicksFit`, `forCart_clean_iff`, `forCheckout_clean_iff`: when the suggestions are clean
- `recommendations_clean_iff`: the three lists together
-/

namespace Crumbs

open Crumbs.Db

/-! ## The services -/

structure UpsellBundle where
  label : String
  products : List CatalogProduct
  bundleType : String

section Services

variable (data : RecommendationData)

/-- `cart.items.select_related("product")`: the products of the lines, with their quantities. -/
def RecommendationData.cartLines (c : CartId) : List (CatalogProduct × ℕ) :=
  (data.shop.cartItems c).filterMap fun item =>
    (data.product item.product).map fun p => (p, item.quantity)

/-- `set(cart.items.values_list("product_id", flat=True))` -/
def RecommendationData.cartProductIds (c : CartId) : Finset ProductId :=
  ((data.shop.cartItems c).map (·.product)).toFinset

/-- `cart.session_key or ""` -/
def RecommendationData.cartSessionKey (c : CartId) : String :=
  ((data.shop.carts.rows c).bind (·.sessionKey)).getD ""

/-- `log_impression` -/
def logImpression (slot : UpsellSlot) (products : List CatalogProduct) (user : Option Customer)
    (sessionKey : String) : Recommending Unit := fun st =>
  if products.isEmpty then .ok ((), st)
  else
    let impression : UpsellImpression :=
      { slot := slot, user := user.map (·.pk), sessionKey := sessionKey,
        productIds := products.map (·.pk), count := products.length }
    .ok ((), { st with impressions := st.impressions ++ [impression] })

/-- `_pairing_fill` -/
def pairingFill (c : CartId) (excludeIds : Finset ProductId) (limit : ℕ) : List CatalogProduct :=
  if limit = 0 then []
  else
    let hasCookie := (data.cartLines c).any fun line => isCookieProduct line.1
    if ¬ hasCookie then
      (availableProducts data CatalogProduct.hasCookieMeta excludeIds).take limit
    else
      (availableProducts data CatalogProduct.hasCoffeeMeta excludeIds).take limit

/-- The loop over the lines: at most five products bought together with each. -/
def pairLines (c : CartId) : List CatalogProduct × Finset ProductId :=
  (data.cartLines c).foldl (fun state line =>
    ((relatedProducts data line.1.pk 5).map Prod.fst).foldl (addRelated id) state)
    ([], data.cartProductIds c)

/-- The last part of `for_cart`: the user's own picks. -/
def addPicks (user : Option Customer) (limit : ℕ) (suggestions : List CatalogProduct)
    (seen : Finset ProductId) : Recommending (List CatalogProduct) := do
  if user.isSome ∧ suggestions.length < limit then
    let picks ← forUser data user limit
    return (keepUpTo (·.pk) limit (suggestions, seen) picks).1
  return suggestions

/-- `for_cart` -/
def forCart (user : Option Customer) (c : CartId) (limit : ℕ) :
    Recommending (List CatalogProduct) := do
  if data.cartProductIds c = ∅ then
    forHome data user limit
  else
    let (suggestions, seen) := pairLines data c
    let suggestions := suggestions ++ pairingFill data c seen (limit - suggestions.length)
    let suggestions ← addPicks data user limit suggestions seen
    let result := suggestions.take limit
    logImpression .cart result user (data.cartSessionKey c)
    return result

/-- `suggest_bundles` -/
def suggestBundles (c : CartId) : List UpsellBundle :=
  let items := data.cartLines c
  if items.isEmpty then []
  else
    let hasCookie := items.any fun i => isCookieProduct i.1
    let hasCoffee := items.any fun i => i.1.hasCoffeeMeta ||
      Text.inLower "coffee" i.1.category.slug ||
      decide ("قهوه".toList <:+: i.1.category.name.toList)
    let cartIds := (items.map fun i => i.1.pk).toFinset
    let coffee := (availableProducts data CatalogProduct.hasCoffeeMeta cartIds).take 1
    let cookieCount := ((items.filter fun i => isCookieProduct i.1).map Prod.snd).sum
    let extraCookie := (availableProducts data CatalogProduct.hasCookieMeta cartIds).take 1
    (if hasCookie ∧ ¬ hasCoffee ∧ coffee ≠ [] then
      [{ label := "cookie_coffee_combo", products := coffee, bundleType := "pairing" }] else []) ++
    if 1 ≤ cookieCount ∧ cookieCount < 2 ∧ extraCookie ≠ [] then
      [{ label := "buy_2_cookies_suggestion", products := extraCookie, bundleType := "volume" }]
    else []

/-- The loop over the products of a bundle. -/
def addBundle (limit : ℕ) (upsells : List CatalogProduct) :
    List CatalogProduct → List CatalogProduct
  | [] => upsells
  | p :: products =>
    let upsells := if p.pk ∉ upsells.map (·.pk) ∧ p.isAvailable then upsells ++ [p] else upsells
    if limit ≤ upsells.length then upsells else addBundle limit upsells products

/-- The upsells with the products of the bundles. -/
def withBundles (c : CartId) (limit : ℕ) (upsells : List CatalogProduct) : List CatalogProduct :=
  ((suggestBundles data c).foldl (fun upsells bundle => addBundle limit upsells bundle.products)
    upsells).take limit

/-- `for_checkout` -/
def forCheckout (user : Option Customer) (c : CartId) (limit : ℕ) :
    Recommending (List CatalogProduct) := do
  let upsells ← forCart data user c limit
  let result := withBundles data c limit upsells
  logImpression .checkout result user (data.cartSessionKey c)
  return result

end Services

/-! ## The suggestions for a cart -/

section Cart

variable (data : RecommendationData) (c : CartId) (limit : ℕ)

/-- The products bought together with the lines that are suggested. -/
def pairedProducts : List CatalogProduct :=
  fresh (·.pk) (data.cartProductIds c)
    (((data.cartLines c).flatMap fun line =>
      (relatedProducts data line.1.pk 5).map Prod.fst).filter fun p => p.isAvailable)

/-- `seen`, after the loop over the lines. -/
def pairedSeen : Finset ProductId :=
  data.cartProductIds c ∪ ((pairedProducts data c).map (·.pk)).toFinset

/-- The cookies or coffees that are suggested. -/
def pairFill : List CatalogProduct :=
  pairingFill data c (pairedSeen data c) (limit - (pairedProducts data c).length)

/-- The suggestions before the user's picks. -/
def firstSuggestions : List CatalogProduct := pairedProducts data c ++ pairFill data c limit

/-- The picks that are suggested: the first that are new, as far as there is room. -/
def picksTaken (picks : List CatalogProduct) : List CatalogProduct :=
  (fresh (·.pk) (pairedSeen data c) picks).take (limit - (firstSuggestions data c limit).length)

/-- The suggestions. -/
def cartList (picks : List CatalogProduct) : List CatalogProduct :=
  (firstSuggestions data c limit ++ picksTaken data c limit picks).take limit

/-- The list that `for_user` returns. -/
def userPicks (st : RecommendationState) (user : Option Customer) :
    Except Exn (List CatalogProduct) :=
  match user with
  | none => .ok []
  | some user =>
    match st.cache.lists user.pk limit with
    | some cached => .ok cached
    | none => scoreForUser data user limit

theorem pairLines_eq : pairLines data c = (pairedProducts data c, pairedSeen data c) := by
  rw [pairLines, ← List.foldl_flatMap, foldl_addRelated, List.nil_append]
  rfl

/-- The list that `for_cart` asks for: none if the suggestions are enough. -/
def picksAsked (st : RecommendationState) (user : Option Customer) :
    Except Exn (List CatalogProduct) :=
  if (firstSuggestions data c limit).length < limit then userPicks data limit st user else .ok []

/-! ## What the services return -/

theorem run'_bind {α β : Type} {x : Recommending α} {f : α → Recommending β} {g : α → β}
    (h : ∀ a st, (f a).run' st = .ok (g a)) (st : RecommendationState) :
    (x >>= f).run' st = (x.run' st).map g := by
  show (x st >>= fun p => f p.1 p.2).map Prod.fst = ((x st).map Prod.fst).map g
  cases x st with
  | error exc => rfl
  | ok p => exact h p.1 p.2

/-- Logging changes no list. -/
theorem logImpression_run' {α : Type} (slot : UpsellSlot) (products : List CatalogProduct)
    (user : Option Customer) (key : String) (a : α) (st : RecommendationState) :
    (logImpression slot products user key >>= fun _ => pure a : Recommending α).run' st =
      .ok a := by
  show (logImpression slot products user key st >>= fun p => _).map Prod.fst = _
  unfold logImpression
  split <;> rfl

theorem forUser_run' (h : 1 ≤ limit) (st : RecommendationState) (user : Customer) :
    (forUser data (some user) limit).run' st = userPicks data limit st (some user) := by
  have asked : orDefaultLimit limit = limit := if_neg (Nat.one_le_iff_ne_zero.1 h)
  show (forUser data (some user) limit st).map Prod.fst = _
  unfold forUser
  rw [asked]
  cases found : st.cache.lists user.pk limit with
  | some cached =>
    simp only [userPicks, found]
    rfl
  | none =>
    simp only [userPicks, found]
    split
    · next exc run => exact run.symm
    · next products run => exact run.symm

theorem addPicks_run' (h : 1 ≤ limit) (st : RecommendationState) (user : Option Customer) :
    (addPicks data user limit (firstSuggestions data c limit) (pairedSeen data c)).run' st =
      (picksAsked data c limit st user).map fun picks =>
        firstSuggestions data c limit ++ picksTaken data c limit picks := by
  have no_picks : firstSuggestions data c limit ++ picksTaken data c limit [] =
      firstSuggestions data c limit := by
    rw [picksTaken, fresh, List.take_nil, List.append_nil]
  unfold addPicks picksAsked
  by_cases room : (firstSuggestions data c limit).length < limit
  · rw [if_pos room]
    cases user with
    | none => exact congrArg Except.ok no_picks.symm
    | some user =>
      rw [if_pos ⟨rfl, room⟩, ← forUser_run' data limit h]
      refine run'_bind (fun picks st => ?_) st
      exact congrArg Except.ok (fst_keepUpTo _ room _ _)
  · rw [if_neg room, if_neg fun both => room both.2]
    exact congrArg Except.ok no_picks.symm

theorem forCart_run' (h : 1 ≤ limit) (st : RecommendationState) (user : Option Customer)
    (nonempty : data.cartProductIds c ≠ ∅) : (forCart data user c limit).run' st =
      (picksAsked data c limit st user).map (cartList data c limit) := by
  unfold forCart
  rw [if_neg nonempty, pairLines_eq]
  refine (run'_bind (g := fun suggestions => suggestions.take limit) ?_ st).trans ?_
  · intro suggestions st
    exact logImpression_run' _ _ _ _ _ st
  · refine (congrArg _ (addPicks_run' data c limit h st user)).trans ?_
    cases picksAsked data c limit st user with
    | error exc => rfl
    | ok picks => rfl

theorem forHome_run' (h : 1 ≤ limit) (st : RecommendationState) (user : Customer) :
    (forHome data (some user) limit).run' st =
      (userPicks data limit st (some user)).map fun recs =>
        if limit / 2 ≤ recs.length then recs else popularProducts data limit true := by
  rw [← forUser_run' data limit h]
  refine run'_bind (fun recs st => ?_) st
  split <;> rfl

theorem forCheckout_run' (st : RecommendationState) (user : Option Customer) :
    (forCheckout data user c limit).run' st =
      ((forCart data user c limit).run' st).map (withBundles data c limit) := by
  refine run'_bind (g := withBundles data c limit) (fun upsells st => ?_) st
  exact logImpression_run' _ _ _ _ _ st

end Cart

/-! ## Clean suggestions -/

section Suggestions

variable {data : RecommendationData} {c : CartId} {limit : ℕ}

/-- The product is in the catalogue, and available now. -/
def AvailableNow (data : RecommendationData) (p : CatalogProduct) : Prop :=
  ∃ q, data.product p.pk = some q ∧ q.isAvailable

theorem pairingFill_offers (excludeIds : Finset ProductId) (n : ℕ) :
    Offers data excludeIds (pairingFill data c excludeIds n) := by
  unfold pairingFill
  split
  · exact .nil
  · dsimp only
    split
    · exact (availableProducts_offers data _ _).sublist (List.take_sublist _ _)
    · exact (availableProducts_offers data _ _).sublist (List.take_sublist _ _)

theorem pairedProducts_offers : Offers data (data.cartProductIds c) (pairedProducts data c) := by
  have kept : ∀ p ∈ pairedProducts data c, p ∈ data.products ∧ p.isAvailable := by
    intro p hp
    obtain ⟨hp, available⟩ := List.mem_filter.1 ((fresh_sublist _ _ _).subset hp)
    obtain ⟨line, -, hp⟩ := List.mem_flatMap.1 hp
    obtain ⟨e, he, rfl⟩ := List.mem_map.1 hp
    exact ⟨mem_products_of_mem_relatedProducts data he, of_decide_eq_true available⟩
  exact ⟨nodup_fresh _ _ _, fun p hp => (kept p hp).1, fun p hp => (kept p hp).2,
    fun p hp => not_mem_of_mem_fresh _ hp⟩

theorem firstSuggestions_offers :
    Offers data (data.cartProductIds c) (firstSuggestions data c limit) := by
  have fill : Offers data (pairedSeen data c) (pairFill data c limit) := pairingFill_offers _ _
  refine pairedProducts_offers.append (fill.mono Finset.subset_union_left) ?_
  intro p hp q hq same
  refine fill.not_excluded q hq (Finset.mem_union_right _ (List.mem_toFinset.2 ?_))
  exact same ▸ List.mem_map_of_mem hp

/-- The picks that are suggested are available now, and none of the cookies or coffees. -/
def PicksFit (data : RecommendationData) (c : CartId) (limit : ℕ)
    (picks : List CatalogProduct) : Prop :=
  ∀ p ∈ picksTaken data c limit picks,
    AvailableNow data p ∧ p.pk ∉ (pairFill data c limit).map (·.pk)

theorem cartList_clean_iff (picks : List CatalogProduct) :
    Clean data (data.cartProductIds c) limit (cartList data c limit picks) ↔
      PicksFit data c limit picks := by
  have first : Offers data (data.cartProductIds c) (firstSuggestions data c limit) :=
    firstSuggestions_offers
  constructor
  · intro clean p hp
    -- there is room for the pick, so the list is not cut
    have room : (picksTaken data c limit picks).length ≤
        limit - (firstSuggestions data c limit).length := List.length_take_le _ _
    have some_taken := List.length_pos_of_mem hp
    have whole : cartList data c limit picks =
        firstSuggestions data c limit ++ picksTaken data c limit picks := by
      refine List.take_of_length_le ?_
      rw [List.length_append]
      omega
    rw [whole] at clean
    refine ⟨clean.available p (List.mem_append_right _ hp), fun again => ?_⟩
    have distinct := clean.distinct
    rw [List.map_append, List.nodup_append] at distinct
    refine distinct.2.2 p.pk ?_ p.pk (List.mem_map_of_mem hp) rfl
    rw [firstSuggestions, List.map_append]
    exact List.mem_append_right _ again
  · intro fit
    have new : ∀ p ∈ picksTaken data c limit picks, p.pk ∉ pairedSeen data c := fun p hp =>
      not_mem_of_mem_fresh (fun p : CatalogProduct => p.pk) (List.mem_of_mem_take hp)
    refine ⟨?_, fun p hp => ?_, fun p hp => ?_, List.length_take_le _ _⟩
    · refine List.Nodup.sublist ((List.take_sublist _ _).map _) ?_
      rw [List.map_append, List.nodup_append]
      refine ⟨first.distinct,
        (nodup_fresh _ _ _).sublist ((List.take_sublist _ _).map _), fun a ha b hb same => ?_⟩
      obtain ⟨p, hp, rfl⟩ := List.mem_map.1 hb
      rw [firstSuggestions, List.map_append] at ha
      rcases List.mem_append.1 ha with paired | fill
      · exact new p hp (Finset.mem_union_right _ (List.mem_toFinset.2 (same ▸ paired)))
      · exact (fit p hp).2 (same ▸ fill)
    · rcases List.mem_append.1 (List.mem_of_mem_take hp) with old | pick
      · exact ⟨p, data.product_of_mem (first.listed p old), first.available p old⟩
      · exact (fit p pick).1
    · rcases List.mem_append.1 (List.mem_of_mem_take hp) with old | pick
      · exact first.not_excluded p old
      · exact fun inCart => new p pick (Finset.mem_union_left _ inCart)

/-- A list of picks comes from scoring, now or when it was put into the cache. -/
theorem userPicks_scored {st : RecommendationState} {user : Customer}
    {picks : List CatalogProduct} (run : userPicks data limit st (some user) = .ok picks) :
    (picks.map (·.pk)).Nodup ∧ picks.length ≤ limit := by
  have scored : ∃ (data' : RecommendationData) (user' : Customer),
      scoreForUser data' user' limit = .ok picks := by
    cases found : st.cache.lists user.pk limit with
    | none =>
      simp only [userPicks, found] at run
      exact ⟨data, user, run⟩
    | some cached =>
      simp only [userPicks, found] at run
      cases run
      obtain ⟨data', user', -, made⟩ := st.cache.scored _ _ _ found
      exact ⟨data', user', made⟩
  obtain ⟨data', user', made⟩ := scored
  obtain ⟨distinct, length, -⟩ := of_scoreForUser data' user' made
  exact ⟨distinct, length⟩

/-- For an empty cart the picks are taken as they are, if there are at least half as many as asked
for; for another one they fill the suggestions up. -/
def CartPicksFit (data : RecommendationData) (st : RecommendationState) (user : Option Customer)
    (c : CartId) (limit : ℕ) : Prop :=
  if data.cartProductIds c = ∅ then
    ∀ u, user = some u → ∀ picks, userPicks data limit st (some u) = .ok picks →
      limit / 2 ≤ picks.length → ∀ p ∈ picks, AvailableNow data p
  else
    ∀ picks, picksAsked data c limit st user = .ok picks → PicksFit data c limit picks

theorem length_popularProducts_le (preferCookies : Bool) :
    (popularProducts data limit preferCookies).length ≤ limit := by
  unfold popularProducts
  dsimp only
  split
  · exact List.length_take_le _ _
  · exact List.length_take_le _ _

/-- For an empty cart the list of the home page is returned. -/
theorem forHome_clean_iff (h : 1 ≤ limit) (st : RecommendationState) (user : Option Customer) :
    (∀ list, (forHome data user limit).run' st = .ok list → Clean data ∅ limit list) ↔
      ∀ u, user = some u → ∀ picks, userPicks data limit st (some u) = .ok picks →
        limit / 2 ≤ picks.length → ∀ p ∈ picks, AvailableNow data p := by
  have popular : Clean data ∅ limit (popularProducts data limit true) :=
    (popularProducts_offers data limit true).clean (length_popularProducts_le true)
  cases user with
  | none =>
    constructor
    · intro _ u h
      cases h
    · intro _ list returned
      cases returned
      exact popular
  | some user =>
    rw [forHome_run' data limit h]
    constructor
    · rintro clean u ⟨⟩ picks run enough p hp
      rw [run] at clean
      have clean := clean picks (congrArg Except.ok (if_pos enough))
      exact clean.available p hp
    · intro fit list returned
      cases run : userPicks data limit st (some user) with
      | error exc =>
        rw [run] at returned
        cases returned
      | ok picks =>
        rw [run] at returned
        cases returned
        obtain ⟨distinct, length⟩ := userPicks_scored run
        dsimp only
        split
        · next enough =>
          exact ⟨distinct, fit user rfl picks run enough, fun _ _ => Finset.notMem_empty _, length⟩
        · exact popular

/-- The suggestions for a cart are clean exactly when the picks fit. -/
theorem forCart_clean_iff (h : 1 ≤ limit) (st : RecommendationState) (user : Option Customer) :
    (∀ list, (forCart data user c limit).run' st = .ok list →
      Clean data (data.cartProductIds c) limit list) ↔ CartPicksFit data st user c limit := by
  unfold CartPicksFit
  by_cases isEmpty : data.cartProductIds c = ∅
  · have home : forCart data user c limit = forHome data user limit := by
      rw [forCart, if_pos isEmpty]
    rw [if_pos isEmpty, home, isEmpty]
    exact forHome_clean_iff h st user
  · rw [if_neg isEmpty, forCart_run' data c limit h st user isEmpty]
    constructor
    · intro clean picks run
      rw [run] at clean
      exact (cartList_clean_iff picks).1 (clean _ rfl)
    · intro fit list returned
      cases run : picksAsked data c limit st user with
      | error exc =>
        rw [run] at returned
        cases returned
      | ok picks =>
        rw [run] at returned
        cases returned
        exact (cartList_clean_iff picks).2 (fit picks run)

end Suggestions

/-! ## The checkout -/

section Checkout

variable {data : RecommendationData} {c : CartId} {limit : ℕ}

/-- A list is continued by offers, none of which it has already. -/
def ContinuedBy (data : RecommendationData) (excluded : Finset ProductId)
    (l l' : List CatalogProduct) : Prop :=
  ∃ more, l' = l ++ more ∧ ((l.map (·.pk)).Nodup → (l'.map (·.pk)).Nodup) ∧
    ∀ p ∈ more, p ∈ data.products ∧ p.isAvailable ∧ p.pk ∉ excluded

namespace ContinuedBy

variable {excluded : Finset ProductId} {l l' l'' : List CatalogProduct}

theorem refl (l : List CatalogProduct) : ContinuedBy data excluded l l :=
  ⟨[], (List.append_nil l).symm, id, fun _ h => absurd h List.not_mem_nil⟩

theorem trans (h : ContinuedBy data excluded l l') (h' : ContinuedBy data excluded l' l'') :
    ContinuedBy data excluded l l'' := by
  obtain ⟨more, rfl, distinct, all⟩ := h
  obtain ⟨more', rfl, distinct', all'⟩ := h'
  refine ⟨more ++ more', List.append_assoc .., distinct' ∘ distinct, fun p hp => ?_⟩
  exact (List.mem_append.1 hp).elim (all p) (all' p)

/-- A list within the limit is clean exactly when what it is continued to is. -/
theorem clean_iff (h : ContinuedBy data excluded l l') (length : l.length ≤ limit) :
    Clean data excluded limit (l'.take limit) ↔ Clean data excluded limit l := by
  obtain ⟨more, rfl, distinct, all⟩ := h
  constructor
  · intro clean
    have sub : l.Sublist ((l ++ more).take limit) := by
      rw [List.take_append, List.take_of_length_le length]
      exact List.sublist_append_left _ _
    exact ⟨clean.distinct.sublist (sub.map _), fun p hp => clean.available p (sub.subset hp),
      fun p hp => clean.not_excluded p (sub.subset hp), length⟩
  · intro clean
    refine ⟨(distinct clean.distinct).sublist ((List.take_sublist _ _).map _), fun p hp => ?_,
      fun p hp => ?_, List.length_take_le _ _⟩
    · rcases List.mem_append.1 (List.mem_of_mem_take hp) with old | new
      · exact clean.available p old
      · exact ⟨p, data.product_of_mem (all p new).1, (all p new).2.1⟩
    · rcases List.mem_append.1 (List.mem_of_mem_take hp) with old | new
      · exact clean.not_excluded p old
      · exact (all p new).2.2

end ContinuedBy

theorem addBundle_continued {excluded : Finset ProductId} {products : List CatalogProduct}
    (offers : ∀ p ∈ products, p ∈ data.products ∧ p.isAvailable ∧ p.pk ∉ excluded)
    (upsells : List CatalogProduct) :
    ContinuedBy data excluded upsells (addBundle limit upsells products) := by
  induction products generalizing upsells with
  | nil => exact .refl _
  | cons p products ih =>
    have round : ContinuedBy data excluded upsells
        (if p.pk ∉ upsells.map (·.pk) ∧ p.isAvailable then upsells ++ [p] else upsells) := by
      split
      · next new =>
        refine ⟨[p], rfl, fun distinct => ?_, fun q hq => ?_⟩
        · rw [List.map_append, List.nodup_append]
          refine ⟨distinct, List.nodup_singleton _, fun a ha b hb same => new.1 ?_⟩
          have hb : b = p.pk := List.mem_singleton.1 hb
          rwa [← hb, ← same]
        · rw [List.mem_singleton.1 hq]
          exact offers p List.mem_cons_self
      · exact .refl _
    rw [addBundle]
    generalize (if p.pk ∉ upsells.map (·.pk) ∧ p.isAvailable then upsells ++ [p] else upsells) =
      upsells' at round ⊢
    split
    · exact round
    · exact round.trans (ih (fun q hq => offers q (List.mem_cons_of_mem _ hq)) _)

/-- A product of the catalogue that is in the cart is the product of a line. -/
theorem mem_cartLines {p : CatalogProduct} (hp : p ∈ data.products)
    (h : p.pk ∈ data.cartProductIds c) : ∃ line ∈ data.cartLines c, line.1.pk = p.pk := by
  obtain ⟨item, hitem, same⟩ := List.mem_map.1 (List.mem_toFinset.1 h)
  refine ⟨(p, item.quantity), List.mem_filterMap.2 ⟨item, hitem, ?_⟩, rfl⟩
  rw [same, data.product_of_mem hp, Option.map_some]

theorem suggestBundles_offers {bundle : UpsellBundle} (h : bundle ∈ suggestBundles data c) :
    ∀ p ∈ bundle.products,
      p ∈ data.products ∧ p.isAvailable ∧ p.pk ∉ data.cartProductIds c := by
  have source : ∃ cond, bundle.products = (availableProducts data cond
      ((data.cartLines c).map fun i => i.1.pk).toFinset).take 1 := by
    unfold suggestBundles at h
    dsimp only at h
    split at h
    · cases h
    · rcases List.mem_append.1 h with pairing | volume
      · split at pairing
        · exact ⟨_, congrArg UpsellBundle.products (List.mem_singleton.1 pairing)⟩
        · cases pairing
      · split at volume
        · exact ⟨_, congrArg UpsellBundle.products (List.mem_singleton.1 volume)⟩
        · cases volume
  obtain ⟨cond, products⟩ := source
  intro p hp
  rw [products] at hp
  have offers := (availableProducts_offers data cond
    ((data.cartLines c).map fun i => i.1.pk).toFinset).sublist (List.take_sublist 1 _)
  refine ⟨offers.listed p hp, offers.available p hp, fun inCart => offers.not_excluded p hp ?_⟩
  obtain ⟨line, hline, same⟩ := mem_cartLines (offers.listed p hp) inCart
  exact List.mem_toFinset.2 (List.mem_map.2 ⟨line, hline, same⟩)

theorem foldl_addBundle_continued {excluded : Finset ProductId} {bundles : List UpsellBundle}
    (offers : ∀ bundle ∈ bundles, ∀ p ∈ bundle.products,
      p ∈ data.products ∧ p.isAvailable ∧ p.pk ∉ excluded) (upsells : List CatalogProduct) :
    ContinuedBy data excluded upsells
      (bundles.foldl (fun upsells bundle => addBundle limit upsells bundle.products) upsells) := by
  induction bundles generalizing upsells with
  | nil => exact .refl _
  | cons bundle bundles ih =>
    rw [List.foldl_cons]
    exact (addBundle_continued (offers bundle List.mem_cons_self) upsells).trans
      (ih (fun b hb => offers b (List.mem_cons_of_mem _ hb)) _)

/-- The bundles keep a list clean. -/
theorem withBundles_clean_iff {upsells : List CatalogProduct} (length : upsells.length ≤ limit) :
    Clean data (data.cartProductIds c) limit (withBundles data c limit upsells) ↔
      Clean data (data.cartProductIds c) limit upsells :=
  (foldl_addBundle_continued (fun _ h => suggestBundles_offers h) upsells).clean_iff length

/-- `for_cart` keeps to its limit. -/
theorem length_forCart_le (h : 1 ≤ limit) {st : RecommendationState} {user : Option Customer}
    {list : List CatalogProduct} (run : (forCart data user c limit).run' st = .ok list) :
    list.length ≤ limit := by
  by_cases isEmpty : data.cartProductIds c = ∅
  · have home : forCart data user c limit = forHome data user limit := by
      rw [forCart, if_pos isEmpty]
    rw [home] at run
    cases user with
    | none =>
      cases run
      exact length_popularProducts_le true
    | some user =>
      rw [forHome_run' data limit h] at run
      cases picked : userPicks data limit st (some user) with
      | error exc =>
        rw [picked] at run
        cases run
      | ok picks =>
        rw [picked] at run
        cases run
        dsimp only
        split
        · exact (userPicks_scored picked).2
        · exact length_popularProducts_le true
  · rw [forCart_run' data c limit h st user isEmpty] at run
    cases picked : picksAsked data c limit st user with
    | error exc =>
      rw [picked] at run
      cases run
    | ok picks =>
      rw [picked] at run
      cases run
      exact List.length_take_le _ _

theorem forCheckout_clean_iff (h : 1 ≤ limit) (st : RecommendationState)
    (user : Option Customer) :
    (∀ list, (forCheckout data user c limit).run' st = .ok list →
      Clean data (data.cartProductIds c) limit list) ↔ CartPicksFit data st user c limit := by
  rw [← forCart_clean_iff h st user, forCheckout_run']
  constructor
  · intro clean list run
    refine (withBundles_clean_iff (length_forCart_le h run)).1 (clean _ ?_)
    rw [run]
    rfl
  · intro clean list returned
    cases run : (forCart data user c limit).run' st with
    | error exc =>
      rw [run] at returned
      cases returned
    | ok upsells =>
      rw [run] at returned
      cases returned
      exact (withBundles_clean_iff (length_forCart_le h run)).2 (clean upsells run)

end Checkout

/-! ## The three lists -/

/-- The list beside a product is clean exactly when the user's picks are not offered again, and the
suggestions for a cart and at its checkout exactly when the picks fit. -/
theorem recommendations_clean_iff (data : RecommendationData) (st : RecommendationState)
    (product : CatalogProduct) (user : Option Customer) (c : CartId) (limit : ℕ)
    (h : 1 ≤ limit) :
    ((∀ list, forProduct data product user limit = .ok list →
        Clean data {product.pk} limit list) ↔ PicksOfferedOnce data product user limit) ∧
      ((∀ list, (forCart data user c limit).run' st = .ok list →
        Clean data (data.cartProductIds c) limit list) ↔ CartPicksFit data st user c limit) ∧
      ((∀ list, (forCheckout data user c limit).run' st = .ok list →
        Clean data (data.cartProductIds c) limit list) ↔ CartPicksFit data st user c limit) :=
  ⟨forProduct_clean_iff data product user limit, forCart_clean_iff h st user,
    forCheckout_clean_iff h st user⟩

/-- A user who liked some product. -/
def fanOf (p : ProductId) : Customer where
  pk := 1
  intelligenceProfile := some { preferredProductIds := [p] }

/-- Nothing was cached, and nothing shown. -/
def freshState : RecommendationState where
  cache := ⟨fun _ _ => none, nofun⟩

/-- For a user who liked the cookie, beside the cookie and with a latte in the cart. -/
theorem recommendations_clean_coffee :
    ((∀ list, forProduct cookieData cookie (some (fanOf 3)) 4 = .ok list →
        Clean cookieData {3} 4 list) ↔ PicksOfferedOnce cookieData cookie (some (fanOf 3)) 4) ∧
      ((∀ list, (forCart cookieData (some (fanOf 3)) 0 4).run' freshState = .ok list →
        Clean cookieData (cookieData.cartProductIds 0) 4 list) ↔
          CartPicksFit cookieData freshState (some (fanOf 3)) 0 4) ∧
      ((∀ list, (forCheckout cookieData (some (fanOf 3)) 0 4).run' freshState = .ok list →
        Clean cookieData (cookieData.cartProductIds 0) 4 list) ↔
          CartPicksFit cookieData freshState (some (fanOf 3)) 0 4) :=
  recommendations_clean_iff cookieData freshState cookie (some (fanOf 3)) 0 4 (by decide)

/-- Beside the latte the mocha is listed twice, as a pick and as a coffee, and beside a cart with
a latte the cookie, to go with the coffee and as a pick. -/
theorem recommendations_not_clean :
    (¬ ∀ (data : RecommendationData) (product : CatalogProduct) (user : Option Customer)
      (limit : ℕ), 1 ≤ limit → ∀ list, forProduct data product user limit = .ok list →
        Clean data {product.pk} limit list) ∧
      ¬ ∀ (data : RecommendationData) (st : RecommendationState) (user : Option Customer)
        (c : CartId) (limit : ℕ), 1 ≤ limit → data.cartProductIds c ≠ ∅ →
        ∀ list, (forCart data user c limit).run' st = .ok list →
          Clean data (data.cartProductIds c) limit list := by
  constructor
  · intro clean
    have twice : forProduct coffeeData (coffee 1 "Latte") (some (fanOf 2)) 4 =
        .ok [coffee 2 "Mocha", coffee 2 "Mocha"] := by
      decide +kernel
    have distinct := (clean coffeeData (coffee 1 "Latte") (some (fanOf 2)) 4 (by decide) _
      twice).distinct
    simp at distinct
  · intro clean
    have twice : (forCart cookieData (some (fanOf 3)) 0 4).run' freshState =
        .ok [cookie, cookie] := by
      decide +kernel
    have distinct := (clean cookieData freshState (some (fanOf 3)) 0 4 (by decide) (by decide) _
      twice).distinct
    simp at distinct

end Crumbs
