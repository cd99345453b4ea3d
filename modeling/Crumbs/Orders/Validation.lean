import Crumbs.Inventory.Sections
import Crumbs.Orders.Checkout

/-!
# Validating a Cart

The availability check on its own, and the check that a checkout makes for every line of a cart.
Adding to a cart credits the cart with the units that it holds already; the check of a checkout
does not, so a cart may be refused for units that it holds itself.

## Contents

- `Stock.Offers`: what the availability check asks
- `checkCartAvailability_spec`: it raises exactly if that is not so
- `validateCartItems_spec`: a checkout asks for every line, without the cart's own holds
-/

namespace Crumbs

open Crumbs.Db

/-! ## The availability check -/

namespace Stock

/-- The product can be sold, and if its stock is tracked there is enough of it. -/
def Offers (s : Stock) (p : ProductId) (quantity : ℤ) (cart : Option CartId) : Prop :=
  (s.products p).isAvailable ∧
    ((s.inventory p).trackStock →
      quantity ≤ ((s.inventory p).availableQuantity + ownUnits s cart p : ℕ))

/-- Filling in default rows does not change what is on offer. -/
theorem Touches.offers {s s' : Stock} (h : s.Touches s') (p : ProductId) (quantity : ℤ)
    (cart : Option CartId) : s'.Offers p quantity cart ↔ s.Offers p quantity cart := by
  have hown : ownUnits s' cart p = ownUnits s cart p := by
    simp only [ownUnits, cartReserved, reservationsWhere, h.reservations]
  rw [Offers, Offers, h.products, h.inventory, hown]

end Stock

variable {p : ProductId} {quantity : ℤ} {cart : Option CartId}

/-- The check returns if the product is on offer, and raises otherwise; either way it may have
    filled in the product's inventory row. -/
theorem checkCartAvailability_spec (w : World Stock (List Observation)) :
    (checkCartAvailability p quantity cart).wp
      (fun _ w' => Looks w w' ∧ w.db.Offers p quantity cart)
      (fun _ w' => Looks w w' ∧ ¬w.db.Offers p quantity cart) w := by
  rw [checkCartAvailability, Tx.wp_bind, Tx.wp_getDb, Tx.wp_bind, Tx.wp_when, Tx.wp_raise]
  refine ⟨fun hsold => ⟨.refl w, fun h => hsold h.1⟩, fun hsold => ?_⟩
  refine Tx.wp_seq (getOrCreateInventory_spec p w (E := fun _ _ => False)) (fun inv w₁ h₁ => ?_)
    (fun _ _ h => h.elim)
  obtain ⟨hlooks, hinv, -⟩ := h₁
  rw [Tx.wp_ite]
  refine ⟨fun huntracked => ⟨hlooks, not_not.1 hsold, fun htracked => ?_⟩, fun htracked => ?_⟩
  · rw [← hinv, huntracked] at htracked
    exact absurd htracked Bool.false_ne_true
  · rw [Bool.not_eq_false] at htracked
    rw [Tx.wp_bind, Tx.wp_getDb, Tx.wp_when, Tx.wp_raise, ← hlooks.1.offers, Stock.Offers,
      hlooks.1.products, hlooks.1.inventory, ← hinv]
    refine ⟨fun hshort => ⟨hlooks, fun h => ?_⟩, fun henough => ⟨hlooks, not_not.1 hsold, fun _ => ?_⟩⟩
    · exact absurd (h.2 htracked) (not_le.2 hshort)
    · exact not_lt.1 henough

theorem checkCartAvailability_looks : OnlyLooks (checkCartAvailability p quantity cart) := fun w =>
  Tx.wp_mono (checkCartAvailability_spec w) (fun _ _ h => h.1) (fun _ _ h => h.1)

/-! ## The check of a checkout -/

/-- The cart's lines can all be sold, and for each of them there is enough besides what the cart
    holds. -/
def Stock.Accepts (s : Stock) (items : List CartItem) : Prop :=
  items ≠ [] ∧ ∀ item ∈ items, s.Offers item.product item.quantity none

theorem stock_offers_of_accepts {s : Stock} {item : CartItem} {rest : List CartItem}
    (h : ∀ item' ∈ item :: rest, s.Offers item'.product item'.quantity none) :
    s.Offers item.product item.quantity none ∧
      ∀ item' ∈ rest, s.Offers item'.product item'.quantity none :=
  ⟨h item List.mem_cons_self, fun item' h' => h item' (List.mem_cons_of_mem item h')⟩

/-- The loop over the lines: it goes through if every line is on offer. -/
theorem validateEach_spec (items : List CartItem) (w : World Shop (List Observation)) :
    (items.forM fun item =>
      Tx.catching (ShopTx.onStock (checkCartAvailability item.product item.quantity none))
        fun exc => Tx.raise (.checkoutError exc.text) : ShopTx PUnit).wp
      (fun _ _ => ∀ item ∈ items, w.db.stock.Offers item.product item.quantity none)
      (fun _ _ => ¬∀ item ∈ items, w.db.stock.Offers item.product item.quantity none) w := by
  induction items generalizing w with
  | nil => exact fun _ h => absurd h List.not_mem_nil
  | cons item rest ih =>
    change (Tx.catching _ _ >>= fun _ => rest.forM _ : ShopTx PUnit).wp _ _ _
    refine Tx.wp_seq (P := fun _ w' => w.db.stock.Touches w'.db.stock ∧
        w.db.stock.Offers item.product item.quantity none)
      (F := fun _ _ => ¬w.db.stock.Offers item.product item.quantity none) ?_ (fun _ w' h => ?_)
      (fun _ _ h h' => h (stock_offers_of_accepts h').1)
    · refine Tx.wp_catching.2 (Tx.wp_zoom.2 ?_)
      exact Tx.wp_mono (checkCartAvailability_spec ⟨w.db.stock, w.ext⟩)
        (fun _ _ h => ⟨h.1.1, h.2⟩) (fun _ _ h => h.2)
    · obtain ⟨htouch, hoffers⟩ := h
      refine Tx.wp_mono (ih w') (fun _ _ hrest item' hitem' => ?_) (fun _ _ hrest hall => ?_)
      · rcases List.mem_cons.1 hitem' with rfl | hitem'
        · exact hoffers
        · exact (htouch.offers _ _ _).1 (hrest item' hitem')
      · exact hrest fun item' hitem' => (htouch.offers _ _ _).2
          ((stock_offers_of_accepts hall).2 item' hitem')

theorem validateCartItems_spec (items : List CartItem) (w : World Shop (List Observation)) :
    (validateCartItems items).wp (fun _ _ => w.db.stock.Accepts items)
      (fun _ _ => ¬w.db.stock.Accepts items) w := by
  rw [validateCartItems, Tx.wp_bind, Tx.wp_when]
  refine ⟨fun hempty h => h.1 hempty, fun hne => ?_⟩
  rw [Tx.wp_bind, Tx.wp_getDb, Tx.wp_bind, Tx.wp_when]
  refine ⟨fun hunavailable h => hunavailable ?_, fun _ => ?_⟩
  · rw [List.filter_eq_nil_iff]
    intro product hproduct
    obtain ⟨item, hitem, rfl⟩ := List.mem_map.1 hproduct
    simpa using (h.2 item hitem).1
  · exact Tx.wp_mono (validateEach_spec items w) (fun _ _ h => ⟨hne, h⟩) (fun _ _ h h' => h h'.2)

/-! ## Carts that hold what is in them -/

/-- A cart that has something in it, all of it available, and that holds stock for every
    tracked line; nowhere is more reserved than there is. -/
structure HoldsItsItems (shop : Shop) (c : CartId) : Prop where
  nonempty : shop.cartItems c ≠ []
  available : ∀ item ∈ shop.cartItems c, (shop.stock.products item.product).isAvailable
  held : ∀ item ∈ shop.cartItems c, (shop.stock.inventory item.product).trackStock →
    item.quantity ≤ cartReserved shop.stock c item.product
  reserved_le : ∀ p inv, shop.stock.inventories p = some inv → inv.trackStock →
    inv.reservedQuantity ≤ inv.stockQuantity

/-- The checkout's validation of a cart returns. -/
def ValidatesCart (shop : Shop) (c : CartId) : Prop :=
  ∀ trace, (validateCartItems (shop.cartItems c) ⟨shop, trace⟩).1 = .ok ()

/-- A cart that holds its items passes the check of a checkout exactly if every tracked line
    fits a second time into the stock that nobody, not even the cart itself, has reserved. -/
theorem validatesCart_iff {shop : Shop} {c : CartId} (h : HoldsItsItems shop c) :
    ValidatesCart shop c ↔ ∀ item ∈ shop.cartItems c,
      (shop.stock.inventory item.product).trackStock →
        item.quantity + (shop.stock.inventory item.product).reservedQuantity ≤
          (shop.stock.inventory item.product).stockQuantity := by
  have hvalidates : ValidatesCart shop c ↔ shop.stock.Accepts (shop.cartItems c) := by
    constructor
    · intro hok
      rcases hx : validateCartItems (shop.cartItems c) ⟨shop, []⟩ with ⟨_ | _, w'⟩
      · exact absurd ((congrArg Prod.fst hx).symm.trans (hok [])) (nomatch ·)
      · exact Tx.wp_of_ok (validateCartItems_spec _ ⟨shop, []⟩) hx
    · intro haccepts trace
      rcases hx : validateCartItems (shop.cartItems c) ⟨shop, trace⟩ with ⟨_ | _, w'⟩
      · exact absurd haccepts (Tx.wp_of_error (validateCartItems_spec _ ⟨shop, trace⟩) hx)
      · rfl
  rw [hvalidates, Stock.Accepts]
  simp only [h.nonempty, ne_eq, not_false_eq_true, true_and]
  refine forall₂_congr fun item hitem => ?_
  have hpos := item.quantity_pos
  rw [Stock.Offers, and_iff_right (h.available item hitem)]
  refine forall_congr' fun htracked => ?_
  rw [ProductInventory.availableQuantity, if_pos htracked, ownUnits]
  omega

/-- A shop with one tracked product, of which cart 0 holds one unit out of `stockQuantity`. -/
def cartOfOne (stockQuantity : ℕ) : Shop where
  stock :=
    { products := fun _ => ⟨"Baklava", 100000, .available⟩
      inventories := fun _ => some { stockQuantity, reservedQuantity := 1, allowPreorder := false }
      capacities := fun _ _ => some { maxUnits := 50, reservedUnits := 1 }
      reservations := Table.empty.insert
        { product := 0, order := none, cart := some 0, quantity := 1, productionDate := 0,
          status := .active, expiresAt := some 0 } }
  carts := Table.empty.insert { user := some 0, sessionKey := none, activeCheckoutOrder := none }
  cartItems := fun _ => [{ product := 0, quantity := 1, quantity_pos := Nat.one_pos }]

theorem cartOfOne_holds (n : ℕ) : HoldsItsItems (cartOfOne (n + 1)) 0 where
  nonempty := List.cons_ne_nil _ _
  available item hitem := by
    obtain rfl := List.mem_singleton.1 hitem
    rfl
  held item hitem _ := by
    obtain rfl := List.mem_singleton.1 hitem
    exact (by decide : 1 ≤ 1)
  reserved_le p inv hinv _ := by
    obtain rfl := Option.some.inj hinv
    exact Nat.le_add_left 1 n

/-- With a second unit on the shelf the cart passes. -/
theorem validatesCart_iff_two : ValidatesCart (cartOfOne 2) 0 :=
  (validatesCart_iff (cartOfOne_holds 1)).2 fun item hitem _ => by
    obtain rfl := List.mem_singleton.1 hitem
    exact le_rfl

/-- The cart that holds the last unit is refused. -/
theorem not_forall_validatesCart :
    ¬∀ (shop : Shop) (c : CartId), HoldsItsItems shop c → ValidatesCart shop c := by
  intro h
  have hrefused : (validateCartItems ((cartOfOne 1).cartItems 0) ⟨cartOfOne 1, []⟩).1 =
      .error (.checkoutError "Only 0 units of Baklava are available.") := by decide +kernel
  exact absurd (hrefused.symm.trans (h (cartOfOne 1) 0 (cartOfOne_holds 0) [])) (nomatch ·)

end Crumbs
