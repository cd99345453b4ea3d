import Crumbs.Inventory.Shelves
import Crumbs.Lifecycle.CartHolds

/-!
# When a Merge Succeeds

A merge adds the lines of one cart to another one, line by line, while the first cart still holds
its units. Each addition credits the target with its own holds, and counts those of the source as
somebody else's, although both go into the same line.

## Contents

- `Merges`: the merge returns, and the target has the lines of both carts
- `Shop.Suffices`: there is enough once the holds of both carts are set aside
- `Shop.CanTake`: there is enough once the holds of the target are set aside
- `addItem_outcome`, `addItems_outcome`: one addition, and all of them
- `merges_iff`
-/

namespace Crumbs

open Crumbs.Db

/-! ## What is claimed, and when it holds -/

/-- The merge returns, and the target ends with the quantities of both carts. -/
def Merges (env : Env) (source target : CartId) (w : World Shop (List Observation)) : Prop :=
  ∃ w', mergeCarts env source target w = (.ok (), w') ∧ ∀ p,
    lineQuantity (w'.db.cartItems target) p =
      lineQuantity (w.db.cartItems target) p + lineQuantity (w.db.cartItems source) p

namespace Shop

/-- The cart is there, and no checkout of it is in progress. -/
def IsMutable (shop : Shop) (c : CartId) : Prop :=
  ∃ cart, shop.carts.rows c = some cart ∧ ∀ o, cart.activeCheckoutOrder = some o →
    shop.books.OrderIs o fun order => ¬isOrderCheckoutInProgress order

/-- The line that a cart would have with an item of another one. -/
def mergedQuantity (shop : Shop) (c : CartId) (item : CartItem) : ℕ :=
  shop.quantityInCart c item.product + item.quantity

/-- What the carts other than these two, and the orders, hold of a product. -/
def heldByOthers (shop : Shop) (source target : CartId) (p : ProductId) : ℕ :=
  shop.stock.reservations.total fun r =>
    if r.cart = some source ∨ r.cart = some target then 0 else r.liveQuantity p

/-- For every tracked product of the source, what both carts have of it is covered by the stock that
    nobody else holds, and by a day once the holds of the two are set aside. -/
def Suffices (env : Env) (shop : Shop) (source target : CartId) : Prop :=
  ∀ item ∈ shop.cartItems source, shop.stock.tracks item.product →
    let quantity := shop.mergedQuantity target item
    let stock := shop.stock.withdraw (fun r => isCartHold source item.product r ∨
      isCartHold target item.product r) .released
    quantity + shop.heldByOthers source target item.product ≤
        (shop.stock.inventory item.product).stockQuantity ∧
      ∃ d ∈ stock.foundDate item.product quantity env.today, stock.Fits item.product quantity d

/-- The target can have the item as well: the units are on the shelf or held by the target, and they
    can be booked in place of what the target holds. -/
def CanTake (env : Env) (shop : Shop) (c : CartId) (item : CartItem) : Prop :=
  shop.stock.tracks item.product →
    shop.mergedQuantity c item ≤ (shop.stock.inventory item.product).availableQuantity +
        cartReserved shop.stock c item.product ∧
      Rebookable env shop.stock c item.product (shop.mergedQuantity c item)

instance (env : Env) (shop : Shop) (source target : CartId) :
    Decidable (shop.Suffices env source target) :=
  inferInstanceAs (Decidable (∀ item ∈ _, _ → _ ∧ ∃ d ∈ _, _))

instance (env : Env) (shop : Shop) (c : CartId) (item : CartItem) :
    Decidable (shop.CanTake env c item) := inferInstanceAs (Decidable (_ → _ ∧ _))

end Shop

/-! ## One addition -/

section Addition

variable {env : Env} {c : CartId} {p : ProductId} {quantity : ℤ} {w : World Shop (List Observation)}

theorem ensureCartMutable_of_isMutable (h : w.db.IsMutable c) :
    ensureCartMutable c w = (.ok (), w) := by
  obtain ⟨cart, hcart, hidle⟩ := h
  have hget : getCart c w = (.ok cart, w) := by
    rw [getCart]
    exact (Tx.bind_of_ok rfl).trans (by rw [hcart]; rfl)
  refine (Tx.bind_of_ok hget).trans ?_
  cases hactive : cart.activeCheckoutOrder with
  | none => rfl
  | some o =>
    obtain ⟨order, hrow, hfree⟩ := hidle o hactive
    have hlock : lockOrder o w = (.ok order, w) := by
      rw [lockOrder]
      exact (Tx.bind_of_ok rfl).trans (by rw [show w.db.orders.rows o = some order from hrow]; rfl)
    exact (Tx.bind_of_ok hlock).trans (Tx.when_of_not hfree)

/-- The check of a product compares the quantity with the shelf and the cart's own holds. -/
theorem validateProduct_outcome (havailable : (w.db.stock.products p).isAvailable) :
    (validateProduct p quantity (some c)).wp
      (fun _ w' => (w.db.stock.tracks p → quantity ≤
          (w.db.stock.inventory p).availableQuantity + cartReserved w.db.stock c p) ∧
        w'.db = { w.db with stock := w'.db.stock } ∧ w.db.stock.SameDays w'.db.stock)
      (fun _ _ => ¬(w.db.stock.tracks p → quantity ≤
        (w.db.stock.inventory p).availableQuantity + cartReserved w.db.stock c p)) w := by
  have hlooks : (checkCartAvailability p quantity (some c)).wp
      (fun _ w' => (w.db.stock.tracks p → quantity ≤
          (w.db.stock.inventory p).availableQuantity + cartReserved w.db.stock c p) ∧
        w.db.stock.SameDays w'.db)
      (fun _ _ => ¬(w.db.stock.tracks p → quantity ≤
        (w.db.stock.inventory p).availableQuantity + cartReserved w.db.stock c p))
      ⟨w.db.stock, w.ext⟩ := by
    rw [checkCartAvailability, Tx.wp_bind, Tx.wp_getDb]
    refine Tx.wp_bind.2 (Tx.wp_when.2 ⟨fun hnot => (hnot havailable).elim, fun _ => ?_⟩)
    refine Tx.wp_seq getOrCreateInventory_days (fun inventory w₁ h₁ => ?_) fun _ _ h => h
    obtain ⟨rfl, hdays⟩ := h₁
    refine Tx.wp_ite.2 ⟨fun huntracked => ⟨fun htrack => ?_, hdays⟩, fun htrack => ?_⟩
    · exact absurd (huntracked.symm.trans htrack) Bool.noConfusion
    have htrack : w.db.stock.tracks p := by simpa [Stock.tracks] using htrack
    have hown : ownUnits w₁.db (some c) p = cartReserved w.db.stock c p := by
      rw [ownUnits, cartReserved, Stock.reservationsWhere, hdays.touches.reservations]
      rfl
    rw [Tx.wp_bind, Tx.wp_getDb]
    refine Tx.wp_when.2 ⟨fun hmore h => ?_, fun hfits => ⟨fun _ => ?_, hdays⟩⟩
    · rw [hown] at hmore
      exact absurd (h htrack) (not_le.2 (by exact_mod_cast hmore))
    · rw [hown] at hfits
      exact not_lt.1 (by exact_mod_cast hfits)
  rw [validateProduct, Tx.wp_bind, Tx.wp_getDb]
  refine Tx.wp_bind.2 (Tx.wp_when.2 ⟨fun hnot => (hnot havailable).elim, fun _ => ?_⟩)
  exact Tx.wp_zoom.2 (Tx.wp_mono hlooks (fun _ w' h => ⟨h.1, rfl, h.2⟩) fun _ _ h => h)

/-- The line of the item's product is saved with the item in it; the freeze of the cart and the
    shelves of other products stay as they are. -/
structure TakesItem (c : CartId) (item : CartItem) (shop shop' : Shop) : Prop where
  carts : shop'.carts = shop.carts
  orders : shop'.orders = shop.orders
  line : ∃ line : CartItem, line.product = item.product ∧
    line.quantity = shop.mergedQuantity c item ∧
      shop'.cartItems = (shop.putCartItem c line).cartItems
  shelves : ∀ q ≠ item.product, shop.stock.SameShelf q shop'.stock

/-- Replacing the hold of a line succeeds if and only if the new quantity can be booked. -/
theorem reserveForCartItem_outcome (quantity : ℤ) (w : World Stock (List Observation)) :
    (reserveForCartItem env c p quantity).wp
      (fun _ w' => (w.db.tracks p → Rebookable env w.db c p quantity) ∧
        ∀ q ≠ p, w.db.SameShelf q w'.db)
      (fun _ _ => ¬(w.db.tracks p → Rebookable env w.db c p quantity)) w := by
  have hshelves : (reserveForCartItem env c p quantity).Ensures
      (fun _ w' => ∀ q ≠ p, w.db.SameShelf q w'.db) w := by
    rcases hrun : reserveForCartItem env c p quantity w with ⟨e | e, w'⟩
    · exact (Tx.wp_iff_of_error hrun).2 trivial
    · exact (Tx.wp_iff_of_ok hrun).2 fun q hq =>
        Tx.wp_of_ok (reserveForCartItem_shelves hq c w) hrun
  refine Tx.wp_mono (Tx.wp_and (reserveForCartItem_rebooks env c p quantity) hshelves)
    (fun _ w' h => ⟨fun htrack => ?_, h.2⟩) fun _ w' h hbooks => h.1.2.2 (hbooks h.1.2.1)
  rcases h.1 with ⟨huntracked, -⟩ | ⟨-, hbooks, -⟩
  · exact absurd (huntracked.symm.trans htrack) Bool.noConfusion
  · exact hbooks

/-- The line of an item is saved, and its stock is held, if and only if the cart can take it. -/
theorem addLine_outcome {item : CartItem} (havailable : (w.db.stock.products item.product).isAvailable)
    (hquantity : quantity = (w.db.mergedQuantity c item : ℤ)) :
    (do
      validateProduct item.product quantity (some c)
      let line ← saveCartItem c item.product quantity
      let _ ← ShopTx.onStock (reserveForCartItem env c item.product line.quantity)
      return line : ShopTx CartItem).wp
      (fun _ w' => w.db.CanTake env c item ∧ TakesItem c item w.db w'.db)
      (fun _ _ => ¬w.db.CanTake env c item) w := by
  subst hquantity
  refine Tx.wp_seq (validateProduct_outcome havailable) (fun _ w₁ h₁ => ?_) fun _ _ h htake =>
    h fun htrack => by exact_mod_cast (htake htrack).1
  obtain ⟨hshelf, hdb, hdays⟩ := h₁
  have hpos : 1 ≤ (w.db.mergedQuantity c item : ℤ) := by
    have := item.quantity_pos
    rw [Shop.mergedQuantity]
    omega
  -- the hold is replaced on shelves that the check has only looked at
  have hbooks : (w₁.db.stock.tracks item.product → Rebookable env w₁.db.stock c item.product
      (w.db.mergedQuantity c item)) ↔ (w.db.stock.tracks item.product →
        Rebookable env w.db.stock c item.product (w.db.mergedQuantity c item)) := by
    have hsame := Stock.SameShelf.of_days (p := item.product) hdays
    rw [hsame.rebookable_iff, Stock.tracks, hsame.inventory, Stock.tracks]
  rw [saveCartItem, dif_pos hpos]
  refine Tx.wp_bind.2 (Tx.wp_bind.2 (Tx.wp_modifyDb.2 (Tx.wp_bind.2 (Tx.wp_zoom.2 ?_))))
  refine Tx.wp_mono (reserveForCartItem_outcome _ _) (fun _ w₂ h₂ => ?_) fun _ w₂ h₂ htake => ?_
  · obtain ⟨hbook, hshelves⟩ := h₂
    refine ⟨fun htrack => ⟨by exact_mod_cast hshelf htrack, hbooks.1 hbook htrack⟩, ?_⟩
    have hcarts : w₁.db.carts = w.db.carts := by rw [hdb]
    have horders : w₁.db.orders = w.db.orders := by rw [hdb]
    refine ⟨hcarts, horders, ⟨⟨item.product, (w.db.mergedQuantity c item : ℤ).toNat, by omega⟩, rfl,
      Int.toNat_natCast _, ?_⟩, fun q hq => (Stock.SameShelf.of_days hdays).trans (hshelves q hq)⟩
    change (w₁.db.putCartItem c _).cartItems = _
    rw [hdb]
    rfl
  · exact h₂ (hbooks.2 fun htrack => (htake htrack).2)

/-- An item is added if and only if the cart can take it. -/
theorem addItem_outcome {item : CartItem} (hmutable : w.db.IsMutable c)
    (havailable : (w.db.stock.products item.product).isAvailable) :
    (addItem env c item.product item.quantity).wp
      (fun _ w' => w.db.CanTake env c item ∧ TakesItem c item w.db w'.db)
      (fun _ _ => ¬w.db.CanTake env c item) w := by
  rw [addItem, Tx.wp_atomic, Tx.wp_bind, Tx.wp_iff_of_ok (ensureCartMutable_of_isMutable hmutable)]
  have hvalid : ¬((item.quantity : ℤ) < 1) := not_lt.2 (by exact_mod_cast item.quantity_pos)
  refine Tx.wp_bind.2 ((Tx.wp_iff_of_ok (Tx.when_of_not hvalid)).2 (Tx.wp_bind.2 (Tx.wp_getDb.2 ?_)))
  refine addLine_outcome havailable ?_
  rw [Shop.mergedQuantity, Shop.quantityInCart]
  cases w.db.cartItem c item.product with
  | none => simp
  | some line => simp

end Addition

/-! ## The loop -/

section Loop

variable {env : Env} {source target c : CartId} {w w' : World Shop (List Observation)}
  {shop shop' : Shop} {item other : CartItem}

theorem TakesItem.isMutable (h : TakesItem c item shop shop') (hmutable : shop.IsMutable c) :
    shop'.IsMutable c := by
  obtain ⟨cart, hcart, hidle⟩ := hmutable
  refine ⟨cart, by rw [h.carts, hcart], fun o ho => ?_⟩
  obtain ⟨order, hrow, hfree⟩ := hidle o ho
  exact ⟨order, by rw [← hrow]; exact congrFun (congrArg Table.rows h.orders) o, hfree⟩

theorem find?_replace_ne {p : ProductId} (hp : p ≠ item.product) (items : List CartItem) :
    (items.map fun old => if old.product = item.product then item else old).find?
      (·.product = p) = items.find? (·.product = p) := by
  induction items with
  | nil => rfl
  | cons x rest ih =>
    rw [List.map_cons, List.find?_cons, ih, List.find?_cons]
    by_cases hx : x.product = item.product
    · rw [if_pos hx, hx, decide_eq_false (Ne.symm hp)]
    · rw [if_neg hx]

/-- Putting a line leaves the lines of other products. -/
theorem cartItem_put_ne {p : ProductId} (hp : p ≠ item.product) :
    (shop.putCartItem c item).cartItem c p = shop.cartItem c p := by
  have hitems : (shop.putCartItem c item).cartItems c =
      if (shop.cartItem c item.product).isSome then
        (shop.cartItems c).map fun old => if old.product = item.product then item else old
      else shop.cartItems c ++ [item] := if_pos rfl
  change ((shop.putCartItem c item).cartItems c).find? _ = (shop.cartItems c).find? _
  rw [hitems]
  split
  · exact find?_replace_ne hp _
  · rw [List.find?_append, List.find?_cons_of_neg (by simpa using Ne.symm hp), List.find?_nil,
      Option.or_none]

/-- The line of another product stays. -/
theorem TakesItem.quantityInCart (h : TakesItem c item shop shop') {p : ProductId}
    (hp : p ≠ item.product) : shop'.quantityInCart c p = shop.quantityInCart c p := by
  obtain ⟨line, hproduct, -, hlines⟩ := h.line
  have hput : shop'.cartItem c p = (shop.putCartItem c line).cartItem c p := by
    rw [Shop.cartItem, hlines, Shop.cartItem]
  rw [Shop.quantityInCart, hput, cartItem_put_ne (hproduct.symm ▸ hp), Shop.quantityInCart]

/-- Whether the cart can take another product does not change. -/
theorem TakesItem.canTake_iff (h : TakesItem c item shop shop')
    (hother : other.product ≠ item.product) :
    shop'.CanTake env c other ↔ shop.CanTake env c other := by
  have hshelf := h.shelves other.product hother
  have hown : cartReserved shop'.stock c other.product = cartReserved shop.stock c other.product := by
    rw [cartReserved, hshelf.reservations _ fun r hr => (of_decide_eq_true hr).2.1, cartReserved]
  rw [Shop.CanTake, Shop.CanTake, Shop.mergedQuantity, h.quantityInCart hother, Stock.tracks,
    hshelf.inventory, hown, hshelf.rebookable_iff]
  rfl

/-- The line grows by the item. -/
theorem TakesItem.lineQuantity (h : TakesItem c item shop shop')
    (hunique : ((shop.cartItems c).map (·.product)).Nodup) (p : ProductId) :
    lineQuantity (shop'.cartItems c) p = lineQuantity (shop.cartItems c) p +
      if item.product = p then item.quantity else 0 := by
  obtain ⟨line, hproduct, hquantity, hlines⟩ := h.line
  have hput := lineQuantity_put hunique line p
  have hold : (shop.cartItem c line.product).elim 0 (fun l => (l.quantity : ℤ)) =
      (shop.quantityInCart c item.product : ℤ) := by
    rw [hproduct, Shop.quantityInCart]
    cases shop.cartItem c item.product <;> rfl
  rw [hold, hproduct, hquantity, Shop.mergedQuantity] at hput
  rw [hlines]
  by_cases hp : item.product = p
  · rw [if_pos hp] at hput ⊢
    push_cast at hput
    omega
  · rw [if_neg hp] at hput ⊢
    omega

theorem TakesItem.nodup (h : TakesItem c item shop shop')
    (hunique : ((shop.cartItems c).map (·.product)).Nodup) :
    ((shop'.cartItems c).map (·.product)).Nodup := by
  obtain ⟨line, -, -, hlines⟩ := h.line
  rw [hlines]
  exact nodup_put hunique line

/-- The items of a merge are added if and only if the target can take each of them. -/
theorem addItems_outcome (items : List CartItem) (hitems : (items.map (·.product)).Nodup)
    (w : World Shop (List Observation)) (hmutable : w.db.IsMutable c)
    (havailable : ∀ item ∈ items, (w.db.stock.products item.product).isAvailable)
    (hunique : ((w.db.cartItems c).map (·.product)).Nodup) :
    (items.forM fun item => Tx.void (addItem env c item.product item.quantity)).wp
      (fun _ w' => (∀ item ∈ items, w.db.CanTake env c item) ∧ ∀ p,
        lineQuantity (w'.db.cartItems c) p =
          lineQuantity (w.db.cartItems c) p + lineQuantity items p)
      (fun _ _ => ¬∀ item ∈ items, w.db.CanTake env c item) w := by
  induction items generalizing w with
  | nil => exact ⟨fun _ h => absurd h List.not_mem_nil, fun _ => rfl⟩
  | cons item rest ih =>
    rw [List.map_cons, List.nodup_cons] at hitems
    have hothers : ∀ other ∈ rest, other.product ≠ item.product := fun other hother hsame =>
      hitems.1 (List.mem_map.2 ⟨other, hother, hsame⟩)
    have hfirst : (Tx.void (addItem env c item.product item.quantity)).wp
        (fun _ w' => w.db.CanTake env c item ∧ TakesItem c item w.db w'.db)
        (fun _ _ => ¬w.db.CanTake env c item) w :=
      Tx.wp_void.2 (addItem_outcome hmutable (havailable item List.mem_cons_self))
    refine Tx.wp_seq hfirst (fun _ w₁ h₁ => ?_)
      fun _ _ hnot hall => hnot (hall item List.mem_cons_self)
    obtain ⟨htake, htakes⟩ := h₁
    have hrest : (∀ other ∈ rest, w₁.db.CanTake env c other) ↔
        ∀ other ∈ rest, w.db.CanTake env c other :=
      forall₂_congr fun other hother => htakes.canTake_iff (hothers other hother)
    have havailable₁ : ∀ other ∈ rest, (w₁.db.stock.products other.product).isAvailable := by
      intro other hother
      rw [(htakes.shelves _ (hothers other hother)).product]
      exact havailable other (List.mem_cons_of_mem item hother)
    refine Tx.wp_mono (ih hitems.2 w₁ (htakes.isMutable hmutable) havailable₁
      (htakes.nodup hunique)) (fun _ w' h' => ?_) fun _ _ hnot hall => ?_
    · refine ⟨List.forall_mem_cons.2 ⟨htake, hrest.1 h'.1⟩, fun p => ?_⟩
      rw [h'.2, htakes.lineQuantity hunique, lineQuantity_cons, Nat.add_assoc]
    · exact hnot (hrest.2 (List.forall_mem_cons.1 hall).2)

/-- From carts with one line for a product, a merge into a cart that can be changed returns with the
    quantities of both if and only if the target can take every item of the source. -/
theorem merges_iff (env : Env) {source target : CartId} (w : World Shop (List Observation))
    (hne : source ≠ target) (hmutable : w.db.IsMutable target)
    (havailable : ∀ item ∈ w.db.cartItems source, (w.db.stock.products item.product).isAvailable)
    (hsource : ((w.db.cartItems source).map (·.product)).Nodup)
    (htarget : ((w.db.cartItems target).map (·.product)).Nodup) :
    Merges env source target w ↔
      ∀ item ∈ w.db.cartItems source, w.db.CanTake env target item := by
  have hall : (w.db.cartItems source).filter (fun item =>
      (w.db.stock.products item.product).isAvailable) = w.db.cartItems source :=
    List.filter_eq_self.2 fun item hitem => decide_eq_true (havailable item hitem)
  have hmerge : (mergeCarts env source target).wp
      (fun _ w' => (∀ item ∈ w.db.cartItems source, w.db.CanTake env target item) ∧ ∀ p,
        lineQuantity (w'.db.cartItems target) p =
          lineQuantity (w.db.cartItems target) p + lineQuantity (w.db.cartItems source) p)
      (fun _ _ => ¬∀ item ∈ w.db.cartItems source, w.db.CanTake env target item) w := by
    rw [mergeCarts, Tx.wp_atomic]
    refine Tx.wp_ite.2 ⟨fun h => (hne h).elim, fun _ => Tx.wp_bind.2 (Tx.wp_getDb.2 ?_)⟩
    rw [hall]
    refine Tx.wp_seq (addItems_outcome _ hsource w hmutable havailable htarget)
      (fun _ w₁ h₁ => ?_) fun _ _ h => h
    refine ⟨h₁.1, fun p => ?_⟩
    rw [← h₁.2]
    exact congrArg (lineQuantity · p) (if_neg (Ne.symm hne))
  constructor
  · rintro ⟨w', hrun, -⟩
    exact (Tx.wp_of_ok hmerge hrun).1
  · intro htake
    rcases hrun : mergeCarts env source target w with ⟨e | _, w'⟩
    · exact (Tx.wp_of_error hmerge hrun htake).elim
    · exact ⟨w', hrun, (Tx.wp_of_ok hmerge hrun).2⟩

end Loop

/-- A cart that no checkout has used. -/
theorem isMutable_of_none {shop : Shop} {c : CartId}
    (h : (shop.carts.rows c).map (·.activeCheckoutOrder) = some none) : shop.IsMutable c := by
  obtain ⟨cart, hcart, hnone⟩ := Option.map_eq_some_iff.1 h
  exact ⟨cart, hcart, fun o ho => nomatch hnone.symm.trans ho⟩

/-- One of three loaves goes into the user's cart. -/
theorem merges_iff_guestAdds : Merges {} 0 1 (guestAdds 0) :=
  (merges_iff {} (guestAdds 0) (by decide) (isMutable_of_none (by decide +kernel))
    (by decide +kernel) (by decide +kernel) (by decide +kernel)).2 (by decide +kernel)

/-- The guest holds two of the three loaves. -/
def guestHoldsTwo : World Shop (List Observation) := (addItem {} 0 0 2 ⟨visitors, []⟩).2

/-- They are enough for the user's cart, which is refused all the same. -/
theorem not_forall_merges : ¬∀ (env : Env) (source target : CartId)
    (w : World Shop (List Observation)), source ≠ target → w.db.IsMutable target →
      (∀ item ∈ w.db.cartItems source, (w.db.stock.products item.product).isAvailable) →
        ((w.db.cartItems source).map (·.product)).Nodup →
          ((w.db.cartItems target).map (·.product)).Nodup → w.db.Suffices env source target →
            Merges env source target w := by
  intro h
  obtain ⟨w', hrun, -⟩ := h {} 0 1 guestHoldsTwo (by decide) (isMutable_of_none (by decide +kernel))
    (by decide +kernel) (by decide +kernel) (by decide +kernel) (by decide +kernel)
  have hraises : (mergeCarts {} 0 1 guestHoldsTwo).1.isOk = false := by decide +kernel
  rw [hrun] at hraises
  exact nomatch hraises

end Crumbs
