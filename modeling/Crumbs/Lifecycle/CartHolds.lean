import Crumbs.Cart.Merge
import Crumbs.Db.Runs
import Crumbs.Lifecycle.CartUnits

/-!
# What a Cart Holds

A line of a cart and the hold on its stock are two rows. Every change of a line first releases the
hold that there is, and then books one for the whole line, so that the two go together however the
carts are changed.

## Contents

- `Holds.ofCart`: what a cart holds of a product
- `Shop.HoldsItems`: one hold for every line of a tracked product, and no others
- `Reholds`, `PutsLine`: what a booking for a line does, and what saving the line does besides
- `CartChange`: the services that change a cart
- `holdsItems_of_run`: runs of them keep the lines and the holds together
-/

namespace Crumbs

open Crumbs.Db

/-! ## The holds of a cart -/

/-- The ACTIVE reservations of a cart for a product. -/
def Holds.ofCart (c : CartId) (p : ProductId) (holds : Holds) :
    List (ReservationId × StockReservation) :=
  holds.filter fun r => decide (r.cart = some c ∧ r.product = p ∧ r.status = .active)

section OfCart

variable {holds : Holds} {c d : CartId} {p q : ProductId} {r : StockReservation}

theorem mem_ofCart {e : ReservationId × StockReservation} : e ∈ Holds.ofCart c p holds ↔
    holds.rows e.1 = some e.2 ∧ e.2.cart = some c ∧ e.2.product = p ∧ e.2.status = .active :=
  Table.mem_filter.trans (and_congr_right fun _ => decide_eq_true_iff)

/-- One more reservation. -/
theorem ofCart_insert : Holds.ofCart c p (holds.insert r) = Holds.ofCart c p holds ++
    if r.cart = some c ∧ r.product = p ∧ r.status = .active then [(holds.next, r)] else [] := by
  refine (Table.filter_insert _ _ _).trans ?_
  simp only [decide_eq_true_eq]
  rfl

/-- What is released is held no more. -/
theorem ofCart_updateWhere_self {P : StockReservation → Bool}
    (hP : ∀ r : StockReservation, r.cart = some c → r.product = p → r.status = .active → P r = true) :
    Holds.ofCart c p (holds.updateWhere P ({ · with status := .released })) = [] := by
  refine List.eq_nil_iff_forall_not_mem.2 fun e he => ?_
  obtain ⟨hrow, hcart, hproduct, hactive⟩ := mem_ofCart.1 he
  rw [Table.rows_updateWhere] at hrow
  obtain ⟨r, -, hr⟩ := Option.map_eq_some_iff.1 hrow
  by_cases hPr : P r = true
  · rw [if_pos hPr] at hr
    rw [← hr] at hactive
    exact nomatch hactive
  · rw [if_neg hPr] at hr
    subst hr
    exact hPr (hP _ hcart hproduct hactive)

/-- The holds of other carts, and for other products, stay. -/
theorem ofCart_updateWhere_ne {P : StockReservation → Bool}
    (hP : ∀ r : StockReservation, P r = true → r.cart = some c → r.product ≠ p) :
    Holds.ofCart c p (holds.updateWhere P ({ · with status := .released })) =
      Holds.ofCart c p holds := by
  refine Table.filter_updateWhere _ _ _ _ fun i r _ hr => ⟨decide_eq_false ?_, decide_eq_false ?_⟩
  · exact fun h => hP r hr h.1 h.2.1
  · exact fun h => hP r hr h.1 h.2.1

theorem ofCart_releaseCartProduct_self :
    Holds.ofCart c p (Holds.releaseCartProduct c p holds) = [] :=
  ofCart_updateWhere_self fun _ hcart hproduct hactive => decide_eq_true ⟨hcart, hproduct, hactive⟩

theorem ofCart_releaseCartProduct_ne (h : d = c → q ≠ p) :
    Holds.ofCart d q (Holds.releaseCartProduct c p holds) = Holds.ofCart d q holds := by
  refine ofCart_updateWhere_ne fun r hr hcart hproduct => ?_
  obtain ⟨hcart', hproduct', -⟩ := of_decide_eq_true hr
  exact h (Option.some.inj (hcart.symm.trans hcart')) (hproduct.symm.trans hproduct')

theorem ofCart_releaseCart_self : Holds.ofCart c p (Holds.releaseCart c holds) = [] :=
  ofCart_updateWhere_self fun _ hcart _ hactive => decide_eq_true ⟨hcart, hactive⟩

theorem ofCart_releaseCart_ne (h : d ≠ c) :
    Holds.ofCart d q (Holds.releaseCart c holds) = Holds.ofCart d q holds := by
  refine ofCart_updateWhere_ne fun r hr hcart _ => h ?_
  exact Option.some.inj (hcart.symm.trans (of_decide_eq_true hr).1)

end OfCart

/-! ## Lines and holds -/

/-- Every line of a tracked product has one hold, for its whole quantity, and the cart holds nothing
    else; there is at most one line for a product. -/
structure Shop.HoldsItems (shop : Shop) (c : CartId) : Prop where
  unique : ((shop.cartItems c).map (·.product)).Nodup
  held : ∀ item ∈ shop.cartItems c, shop.stock.tracks item.product →
    ∃ e, Holds.ofCart c item.product shop.stock.reservations = [e] ∧ e.2.quantity = item.quantity
  noOther : ∀ p, (∀ item ∈ shop.cartItems c, item.product = p → shop.stock.tracks p = false) →
    Holds.ofCart c p shop.stock.reservations = []

/-- The hold for a line is replaced by one for the new quantity, if the product is tracked. -/
structure Reholds (c : CartId) (p : ProductId) (quantity : ℤ) (s s' : Stock) : Prop where
  goods : s.SameGoods s'
  tracked : s.tracks p → ∃ r : StockReservation, r.cart = some c ∧ r.product = p ∧
    (r.quantity : ℤ) = quantity ∧ r.status = .active ∧
      s'.reservations = (Holds.releaseCartProduct c p s.reservations).insert r
  untracked : s.tracks p = false → s'.reservations = s.reservations

/-- A line is saved, and its stock is held. -/
structure PutsLine (c : CartId) (item : CartItem) (shop shop' : Shop) : Prop where
  lines : shop'.cartItems = (shop.putCartItem c item).cartItems
  stock : Reholds c item.product item.quantity shop.stock shop'.stock

/-! ## What the services do -/

section Services

variable {env : Env} {c : CartId} {p : ProductId} {quantity : ℤ}

theorem reserveForCartItem_reholds (w : World Stock (List Observation)) :
    (reserveForCartItem env c p quantity).Ensures
      (fun _ w' => Reholds c p quantity w.db w'.db) w := by
  have hbooks : (reserveForCartItem env c p quantity).Ensures (fun _ w' =>
      (w.db.tracks p → ∃ r : StockReservation, r.cart = some c ∧ r.product = p ∧
        (r.quantity : ℤ) = quantity ∧ r.status = .active ∧
          w'.db.reservations = (Holds.releaseCartProduct c p w.db.reservations).insert r) ∧
        (w.db.tracks p = false → w'.db.reservations = w.db.reservations)) w := by
    refine Tx.Ensures.atomic (Tx.Ensures.bind (getOrCreateInventory_spec p w) ?_)
    rintro inventory w₁ ⟨⟨htouch, -⟩, rfl, -⟩
    refine .ite (fun huntracked => ⟨fun htracked => ?_, fun _ => htouch.reservations⟩) fun htracked => ?_
    · exact absurd (htracked.symm.trans huntracked) Bool.noConfusion
    refine Tx.wp_bind.2 (Tx.wp_getDb.2 (Tx.Ensures.bind
      (releaseAll_holds fun _ hr => .inl (of_decide_eq_true hr).2.2) fun _ w₂ h₂ => ?_))
    refine Tx.Ensures.bind (reserveItem_holds env none p quantity (some c) _) fun e w₃ h₃ => ?_
    obtain ⟨hinsert, -, hproduct, hquantity, hcart, hactive⟩ := h₃
    refine ⟨fun _ => ⟨e.2, hcart, hproduct, hquantity, hactive, ?_⟩, fun huntracked => ?_⟩
    · show w₃.db.reservations = _
      rw [hinsert, h₂, htouch.reservations]
      rfl
    · exact absurd huntracked htracked
  exact Tx.wp_mono (Tx.wp_and hbooks (reserveForCartItem_does env c p quantity w))
    (fun _ _ h => ⟨h.2.choose_spec.1.sameGoods, h.1.1, h.1.2⟩) fun _ _ _ => trivial

/-- A look at a product: a missing inventory row is created. -/
theorem validateProduct_looks (w : World Shop (List Observation)) :
    (validateProduct p quantity (some c)).Ensures (fun _ w' =>
      w'.db = { w.db with stock := w'.db.stock } ∧ w.db.stock.Touches w'.db.stock) w := by
  refine Tx.wp_bind.2 (Tx.wp_getDb.2 (Tx.ensures_check fun _ => Tx.wp_zoom.2 ?_))
  have hlooks : (checkCartAvailability p quantity (some c)).Ensures
      (fun _ w' => w.db.stock.Touches w'.db) ⟨w.db.stock, w.ext⟩ := by
    refine Tx.wp_bind.2 (Tx.wp_getDb.2 (Tx.ensures_check fun _ => ?_))
    refine Tx.Ensures.bind (getOrCreateInventory_spec p _) fun inventory w₁ h₁ => ?_
    refine .ite (fun _ => h₁.1.1) fun _ => Tx.wp_bind.2 (Tx.wp_getDb.2 ?_)
    exact Tx.wp_when.2 ⟨fun _ => trivial, fun _ => h₁.1.1⟩
  exact hlooks.mono fun _ _ htouch => ⟨rfl, htouch⟩

theorem saveCartItem_puts (w : World Shop (List Observation)) :
    (saveCartItem c p quantity).Ensures (fun item w' => item.product = p ∧
      (item.quantity : ℤ) = quantity ∧ w'.db = w.db.putCartItem c item) w := by
  rw [saveCartItem]
  split
  next hpos => exact ⟨rfl, Int.toNat_of_nonneg (by omega), rfl⟩
  next => trivial

/-- A line is saved, and its stock is held. -/
theorem saveLine_puts (w : World Shop (List Observation)) :
    (do
      let item ← saveCartItem c p quantity
      let _ ← ShopTx.onStock (reserveForCartItem env c p item.quantity)
      return item : ShopTx CartItem).Ensures (fun item w' => item.product = p ∧
        (item.quantity : ℤ) = quantity ∧ PutsLine c item w.db w'.db) w := by
  refine (saveCartItem_puts w).bind fun item w₁ ⟨hproduct, hquantity, hdb⟩ => ?_
  refine Tx.Ensures.bind (P := fun _ w' => w'.db = { w₁.db with stock := w'.db.stock } ∧
    Reholds c p item.quantity w₁.db.stock w'.db.stock) ?_ fun _ w' ⟨hw', hholds⟩ => ?_
  · exact Tx.wp_zoom.2 ((reserveForCartItem_reholds _).mono fun _ _ hholds => ⟨rfl, hholds⟩)
  · refine ⟨hproduct, hquantity, ?_, ?_⟩
    · show w'.db.cartItems = _
      rw [hw', hdb]
    · rw [hdb] at hholds
      exact hproduct ▸ hholds

theorem Reholds.of_touches {s s' s'' : Stock} (htouch : s.Touches s')
    (h : Reholds c p quantity s' s'') : Reholds c p quantity s s'' where
  goods := (Stock.SameGoods.touch htouch).trans h.goods
  tracked htracked := by
    rw [← htouch.reservations]
    exact h.tracked ((congrFun (Stock.SameGoods.touch htouch).tracks p).trans htracked)
  untracked huntracked := by
    rw [← htouch.reservations]
    exact h.untracked ((congrFun (Stock.SameGoods.touch htouch).tracks p).trans huntracked)

/-- The check of the product before it makes no difference. -/
theorem validated_puts (w : World Shop (List Observation)) :
    (do
      validateProduct p quantity (some c)
      let item ← saveCartItem c p quantity
      let _ ← ShopTx.onStock (reserveForCartItem env c p item.quantity)
      return item : ShopTx CartItem).Ensures (fun item w' => item.product = p ∧
        (item.quantity : ℤ) = quantity ∧ PutsLine c item w.db w'.db) w := by
  refine (validateProduct_looks w).bind fun _ w₁ ⟨hw₁, htouch⟩ => ?_
  refine (saveLine_puts w₁).mono fun item w' ⟨hproduct, hquantity, hputs⟩ => ?_
  refine ⟨hproduct, hquantity, ?_, hputs.stock.of_touches htouch⟩
  rw [hputs.lines, hw₁]
  rfl

/-- The quantity of the line for a product; without a line it is zero. -/
def Shop.quantityInCart (shop : Shop) (c : CartId) (p : ProductId) : ℕ :=
  (shop.cartItem c p).elim 0 (·.quantity)

theorem addItem_puts (w : World Shop (List Observation)) :
    (addItem env c p quantity).Ensures (fun item w' => item.product = p ∧
      (item.quantity : ℤ) = w.db.quantityInCart c p + quantity ∧ PutsLine c item w.db w'.db) w := by
  refine Tx.Ensures.atomic (Tx.Ensures.bind (P := fun _ w' => w' = w) ?_ ?_)
  · exact Tx.wp_mono (ensureCartMutable_reads c w) (fun _ _ h => h.symm) fun _ _ _ => trivial
  rintro _ _ rfl
  refine Tx.ensures_check fun _ => Tx.wp_bind.2 (Tx.wp_getDb.2 ?_)
  refine (validated_puts _).mono fun item w' ⟨hproduct, hquantity, hputs⟩ => ?_
  refine ⟨hproduct, hquantity.trans ?_, hputs⟩
  rw [Shop.quantityInCart]
  split
  next hline =>
    rw [hline]
    exact (zero_add quantity).symm
  next line hline => rw [hline, Option.elim_some]

theorem setItemQuantity_puts (w : World Shop (List Observation)) :
    (setItemQuantity env c p quantity).Ensures (fun item w' => item.product = p ∧
      (item.quantity : ℤ) = quantity ∧ PutsLine c item w.db w'.db) w := by
  refine Tx.Ensures.atomic (Tx.Ensures.bind (P := fun _ w' => w' = w) ?_ ?_)
  · exact Tx.wp_mono (ensureCartMutable_reads c w) (fun _ _ h => h.symm) fun _ _ _ => trivial
  rintro _ _ rfl
  exact Tx.ensures_check fun _ => validated_puts _

/-- A service on the stock leaves the rest of the shop. -/
theorem Rebooks.onStock {α : Type} {x : StockTx α} {g : Holds → Holds} (h : Rebooks x g)
    (w : World Shop (List Observation)) : (ShopTx.onStock x).Ensures (fun _ w' =>
      w'.db = { w.db with stock := w'.db.stock } ∧
        w'.db.stock.reservations = g w.db.stock.reservations ∧
          w.db.stock.SameGoods w'.db.stock) w :=
  Tx.wp_zoom.2 ((h _).mono fun _ _ h' => ⟨rfl, h'⟩)

/-- The lines of a cart are set, and of its holds those are released that `g` takes. -/
structure DropsLines (c : CartId) (items : List CartItem) (g : Holds → Holds) (shop shop' : Shop) :
    Prop where
  lines : shop'.cartItems = (shop.setCartItems c items).cartItems
  holds : shop'.stock.reservations = g shop.stock.reservations
  goods : shop.stock.SameGoods shop'.stock

theorem removeItem_drops (w : World Shop (List Observation)) :
    (removeItem c p).Ensures (fun _ w' => DropsLines c
      ((w.db.cartItems c).filter fun item => item.product ≠ p) (Holds.releaseCartProduct c p)
        w.db w'.db) w := by
  refine Tx.Ensures.bind (P := fun _ w' => w' = w) ?_ ?_
  · exact Tx.wp_mono (ensureCartMutable_reads c w) (fun _ _ h => h.symm) fun _ _ _ => trivial
  rintro _ _ rfl
  refine ((releaseCartReservationsForProduct_rebooks c p).onStock _).bind ?_
  rintro _ w₁ ⟨hw₁, hholds, hgoods⟩
  refine ⟨?_, hholds, hgoods⟩
  show (w₁.db.setCartItems c _).cartItems = _
  rw [hw₁]
  rfl

theorem clearCart_drops (w : World Shop (List Observation)) :
    (clearCart c).Ensures (fun _ w' => DropsLines c [] (Holds.releaseCart c) w.db w'.db) w := by
  refine ((releaseCartReservations_rebooks c).onStock _).bind ?_
  rintro _ w₁ ⟨hw₁, hholds, hgoods⟩
  refine ⟨?_, hholds, hgoods⟩
  show (w₁.db.setCartItems c _).cartItems = _
  rw [hw₁]
  rfl

end Services

/-! ## One change -/

section Change

variable {shop shop' : Shop} {c d : CartId} {item : CartItem} {p : ProductId}

/-- The lines after one is put: that one, and the others as they were. -/
theorem mem_putCartItem {line : CartItem} : line ∈ (shop.putCartItem c item).cartItems c ↔
    line = item ∨ line ∈ shop.cartItems c ∧ line.product ≠ item.product := by
  have hitems : (shop.putCartItem c item).cartItems c =
      if (shop.cartItem c item.product).isSome then
        (shop.cartItems c).map fun old => if old.product = item.product then item else old
      else shop.cartItems c ++ [item] := if_pos rfl
  rw [hitems]
  cases hline : shop.cartItem c item.product with
  | some old =>
    have hold : old ∈ shop.cartItems c ∧ old.product = item.product :=
      ⟨List.mem_of_find?_eq_some hline, by simpa using List.find?_some hline⟩
    rw [Option.isSome_some, if_pos rfl, List.mem_map]
    constructor
    · rintro ⟨other, hother, rfl⟩
      split
      next => exact .inl rfl
      next hne => exact .inr ⟨hother, hne⟩
    · rintro (rfl | ⟨hmem, hne⟩)
      · exact ⟨old, hold.1, if_pos hold.2⟩
      · exact ⟨line, hmem, if_neg hne⟩
  | none =>
    have hnone (old : CartItem) (hold : old ∈ shop.cartItems c) : old.product ≠ item.product :=
      fun hsame => List.find?_eq_none.1 hline old hold (decide_eq_true hsame)
    rw [Option.isSome_none, if_neg Bool.false_ne_true, List.mem_append, List.mem_singleton, or_comm]
    exact or_congr_right ⟨fun hmem => ⟨hmem, hnone line hmem⟩, And.left⟩

/-- A cart whose lines and holds a change leaves alone. -/
theorem Shop.HoldsItems.congr (h : shop.HoldsItems d) (hlines : shop'.cartItems d = shop.cartItems d)
    (hgoods : shop.stock.SameGoods shop'.stock)
    (hholds : ∀ p, Holds.ofCart d p shop'.stock.reservations = Holds.ofCart d p shop.stock.reservations) :
    shop'.HoldsItems d where
  unique := hlines ▸ h.unique
  held item hitem htracked := by
    rw [hholds]
    exact h.held item (hlines ▸ hitem) (congrFun hgoods.tracks item.product ▸ htracked)
  noOther p hp := by
    rw [hholds]
    refine h.noOther p fun item hitem hproduct => ?_
    exact (congrFun hgoods.tracks p).symm.trans (hp item (hlines.symm ▸ hitem) hproduct)

theorem Shop.HoldsItems.puts (h : ∀ d, shop.HoldsItems d) (hputs : PutsLine c item shop shop')
    (d : CartId) : shop'.HoldsItems d := by
  obtain ⟨hlines, hgoods, htracked, huntracked⟩ := hputs
  -- the holds of other carts and for other products
  have hother (e : CartId) (p : ProductId) (hne : e = c → p ≠ item.product) :
      Holds.ofCart e p shop'.stock.reservations = Holds.ofCart e p shop.stock.reservations := by
    cases htracks : shop.stock.tracks item.product with
    | true =>
      obtain ⟨r, hcart, hproduct, -, -, hholds⟩ := htracked htracks
      have hnot : ¬(r.cart = some e ∧ r.product = p ∧ r.status = .active) := fun hr =>
        hne (Option.some.inj (hr.1.symm.trans hcart)) (hr.2.1.symm.trans hproduct)
      rw [hholds, ofCart_insert, if_neg hnot, List.append_nil, ofCart_releaseCartProduct_ne hne]
    | false => rw [huntracked htracks]
  by_cases hd : d = c
  · subst hd
    have htracks : shop'.stock.tracks = shop.stock.tracks := hgoods.tracks
    constructor
    · rw [hlines]
      exact nodup_put (h d).unique item
    · intro line hline hlive
      rw [htracks] at hlive
      rw [hlines, mem_putCartItem] at hline
      rcases hline with rfl | ⟨hmem, hne⟩
      · obtain ⟨r, hcart, hproduct, hquantity, hactive, hholds⟩ := htracked hlive
        rw [hholds, ofCart_insert, if_pos ⟨hcart, hproduct, hactive⟩, ofCart_releaseCartProduct_self]
        exact ⟨_, rfl, Int.ofNat.inj hquantity⟩
      · rw [hother d line.product fun _ => hne]
        exact (h d).held line hmem hlive
    · intro p hp
      rw [htracks] at hp
      have hlines' (line : CartItem) (hline : line ∈ shop.cartItems d) (hproduct : line.product = p)
          (hne : p ≠ item.product) : shop.stock.tracks p = false := by
        refine hp line ?_ hproduct
        rw [hlines, mem_putCartItem]
        exact .inr ⟨hline, hproduct ▸ hne⟩
      by_cases hitem : p = item.product
      · have hfalse : shop.stock.tracks p = false := by
          refine hp item ?_ hitem.symm
          rw [hlines, mem_putCartItem]
          exact .inl rfl
        rw [huntracked (hitem ▸ hfalse)]
        exact (h d).noOther p fun _ _ _ => hfalse
      · rw [hother d p fun _ => hitem]
        exact (h d).noOther p fun line hline hproduct => hlines' line hline hproduct hitem
  · refine (h d).congr ?_ hgoods fun p => hother d p fun hdc => absurd hdc hd
    rw [hlines]
    exact if_neg hd

theorem Shop.HoldsItems.removes (h : ∀ d, shop.HoldsItems d)
    (hdrops : DropsLines c ((shop.cartItems c).filter fun item => item.product ≠ p)
      (Holds.releaseCartProduct c p) shop shop') (d : CartId) : shop'.HoldsItems d := by
  obtain ⟨hlines, hholds, hgoods⟩ := hdrops
  have hother (e : CartId) (q : ProductId) (hne : e = c → q ≠ p) :
      Holds.ofCart e q shop'.stock.reservations = Holds.ofCart e q shop.stock.reservations := by
    rw [hholds, ofCart_releaseCartProduct_ne hne]
  by_cases hd : d = c
  · subst hd
    have hlines' : shop'.cartItems d = (shop.cartItems d).filter fun item => item.product ≠ p := by
      rw [hlines]
      exact if_pos rfl
    constructor
    · rw [hlines']
      exact (h d).unique.sublist (List.filter_sublist.map _)
    · intro line hline hlive
      rw [hlines', List.mem_filter] at hline
      obtain ⟨hmem, hne⟩ := hline
      rw [hgoods.tracks] at hlive
      rw [hother d line.product fun _ => of_decide_eq_true hne]
      exact (h d).held line hmem hlive
    · intro q hq
      by_cases hqp : q = p
      · subst hqp
        rw [hholds, ofCart_releaseCartProduct_self]
      · rw [hother d q fun _ => hqp]
        refine (h d).noOther q fun line hline hproduct => ?_
        rw [← hgoods.tracks]
        refine hq line ?_ hproduct
        rw [hlines', List.mem_filter]
        exact ⟨hline, decide_eq_true (hproduct ▸ hqp)⟩
  · refine (h d).congr ?_ hgoods fun q => hother d q fun hdc => absurd hdc hd
    rw [hlines]
    exact if_neg hd

theorem Shop.HoldsItems.clears (h : ∀ d, shop.HoldsItems d)
    (hdrops : DropsLines c [] (Holds.releaseCart c) shop shop') (d : CartId) :
    shop'.HoldsItems d := by
  obtain ⟨hlines, hholds, hgoods⟩ := hdrops
  by_cases hd : d = c
  · subst hd
    have hlines' : shop'.cartItems d = [] := by
      rw [hlines]
      exact if_pos rfl
    refine ⟨hlines' ▸ List.nodup_nil, fun line hline => ?_, fun p _ => ?_⟩
    · rw [hlines'] at hline
      exact absurd hline List.not_mem_nil
    · rw [hholds, ofCart_releaseCart_self]
  · refine (h d).congr ?_ hgoods fun q => ?_
    · rw [hlines]
      exact if_neg hd
    · rw [hholds, ofCart_releaseCart_ne hd]

end Change

/-! ## Runs -/

/-- The services that change a cart. -/
inductive CartChange where
  | addItem (env : Env) (c : CartId) (product : ProductId) (quantity : ℤ)
  | setItemQuantity (env : Env) (c : CartId) (product : ProductId) (quantity : ℤ)
  | removeItem (c : CartId) (product : ProductId)
  | clearCart (c : CartId)

def CartChange.run : CartChange → ShopTx Unit
  | addItem env c product quantity => Tx.void (Crumbs.addItem env c product quantity)
  | setItemQuantity env c product quantity => Tx.void (Crumbs.setItemQuantity env c product quantity)
  | removeItem c product => Crumbs.removeItem c product
  | clearCart c => Crumbs.clearCart c

/-- The shop after a call, whether it has returned or raised. -/
def cartStep (w : World Shop (List Observation)) (change : CartChange) :
    Option (World Shop (List Observation)) := some (change.run w).2

/-- No cart has a line, or holds anything. -/
structure Shop.CartsAreEmpty (shop : Shop) : Prop where
  lines : ∀ c, shop.cartItems c = []
  holds : ∀ c p, Holds.ofCart c p shop.stock.reservations = []

section Runs

variable {w : World Shop (List Observation)}

theorem Shop.CartsAreEmpty.holdsItems {shop : Shop} (h : shop.CartsAreEmpty) (c : CartId) :
    shop.HoldsItems c where
  unique := (h.lines c).symm ▸ List.nodup_nil
  held _ hitem := absurd (h.lines c ▸ hitem) List.not_mem_nil
  noOther p _ := h.holds c p

/-- A call that raises leaves the shop as it was. -/
theorem CartChange.rollsBack (change : CartChange) : change.run.RollsBack := by
  cases change with
  | addItem => exact (Tx.rollsBack_atomic _).map _
  | setItemQuantity => exact (Tx.rollsBack_atomic _).map _
  | removeItem c product =>
    intro w
    refine Tx.wp_seq (ensureCartMutable_reads c w) ?_ fun _ _ h => congrArg World.db h.symm
    rintro _ _ rfl
    -- what comes after the release does not raise
    have hrelease : (ShopTx.onStock (releaseCartReservationsForProduct c product)).RollsBack :=
      (Tx.rollsBack_atomic _).zoom fun _ => rfl
    exact Tx.wp_seq (hrelease _) (fun _ _ _ => trivial) fun _ _ h => h
  | clearCart c =>
    intro w
    have hrelease : (ShopTx.onStock (releaseCartReservations c)).RollsBack :=
      (Tx.rollsBack_atomic _).zoom fun _ => rfl
    exact Tx.wp_seq (hrelease w) (fun _ _ _ => trivial) fun _ _ h => h

theorem CartChange.holdsItems (change : CartChange) (h : ∀ c, w.db.HoldsItems c) (c : CartId) :
    (change.run w).2.db.HoldsItems c := by
  have hreturns : change.run.Ensures (fun _ w' => ∀ c, w'.db.HoldsItems c) w := by
    cases change with
    | addItem env c product quantity =>
      exact Tx.wp_void.2 ((addItem_puts w).mono fun _ _ ⟨_, _, hputs⟩ => .puts h hputs)
    | setItemQuantity env c product quantity =>
      exact Tx.wp_void.2 ((setItemQuantity_puts w).mono fun _ _ ⟨_, _, hputs⟩ => .puts h hputs)
    | removeItem c product => exact (removeItem_drops w).mono fun _ _ hdrops => .removes h hdrops
    | clearCart c => exact (clearCart_drops w).mono fun _ _ hdrops => .clears h hdrops
  rcases hrun : change.run w with ⟨e | _, w'⟩
  · show w'.db.HoldsItems c
    rw [change.rollsBack.run hrun]
    exact h c
  · exact hreturns.of_ok hrun c

/-- However the carts are changed, every line of a tracked product has one hold for its quantity and
    a cart holds nothing else; and a call that raises changes nothing. -/
theorem holdsItems_of_run (shop : Shop) (run : List CartChange) (hempty : shop.CartsAreEmpty) :
    Throughout cartStep (fun w => (∀ c, w.db.HoldsItems c) ∧ ∀ change : CartChange, ∀ e w',
      change.run w = (.error e, w') → w'.db = w.db) ⟨shop, []⟩ run := by
  have hholds : Throughout cartStep (fun w => ∀ c, w.db.HoldsItems c) ⟨shop, []⟩ run := by
    refine Throughout.of_inv ?_ hempty.holdsItems
    rintro w change _ hw hstep
    obtain rfl := Option.some.inj hstep
    exact change.holdsItems hw
  exact hholds.mono fun w hw => ⟨hw, fun change e w' hrun => change.rollsBack.run hrun⟩

/-- A line is added to, set to another quantity, and removed, and an addition to another cart is
    refused. -/
theorem holdsItems_of_run_visitors :
    Throughout cartStep (fun w => (∀ c, w.db.HoldsItems c) ∧ ∀ change : CartChange, ∀ e w',
      change.run w = (.error e, w') → w'.db = w.db) ⟨visitors, []⟩
      [.addItem {} 0 0 2, .addItem {} 0 0 1, .addItem {} 1 0 1, .setItemQuantity {} 0 0 1,
        .addItem {} 1 0 1, .removeItem 0 0, .clearCart 1] :=
  holdsItems_of_run visitors _ ⟨fun _ => rfl, fun _ _ => rfl⟩

end Runs

end Crumbs
