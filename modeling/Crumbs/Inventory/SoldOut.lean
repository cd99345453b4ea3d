import Crumbs.Db.Runs
import Crumbs.Inventory.Holds
import Crumbs.Inventory.Rebooking

/-!
# Sold Out

Handing an order over closes a product of which nothing is available any more. What is available is
what nobody holds, so the product is also closed while others hold units of it. If they give those
units back, they are for sale again on a product that no cart takes.

## Contents

- `SoldOut`: a closed product has nothing left
- `Stock.Reserves`: all that a call other than a handover does to a shelf
- `fulfillReservations_keeps`: handovers keep what touching and consuming keep
- `InventoryCall.LeavesNone`: a call that puts nothing back on the shelf of a closed product
- `soldOut_throughout_iff`: closed products stay empty in exactly those runs
-/

namespace Crumbs

open Crumbs.Db

/-- If the product is out of stock, nothing of it is available. -/
def SoldOut (p : ProductId) (s : Stock) : Prop :=
  (s.products p).availabilityStatus = .outOfStock → (s.inventory p).availableQuantity = 0

/-- Only tracked products are out of stock. -/
def TracksSoldOut (p : ProductId) (s : Stock) : Prop :=
  (s.products p).availabilityStatus = .outOfStock → (s.inventory p).trackStock

namespace Stock

/-- The reserved quantity of `p` becomes `n`, if it is tracked. No product is opened or closed. -/
structure Reserves (p : ProductId) (n : ℕ) (s s' : Stock) : Prop where
  products : s'.products = s.products
  inventory : s'.inventory p =
    if (s.inventory p).trackStock then { s.inventory p with reservedQuantity := n }
    else s.inventory p

section Reserves

variable {s s' s'' : Stock} {p : ProductId} {m n : ℕ}

theorem Reserves.tracks (h : s.Reserves p n s') :
    (s'.inventory p).trackStock = (s.inventory p).trackStock := by
  rw [h.inventory]
  split <;> rfl

theorem Reserves.trans (h : s.Reserves p m s') (h' : s'.Reserves p n s'') : s.Reserves p n s'' := by
  refine ⟨h'.products.trans h.products, ?_⟩
  rw [h'.inventory, h.tracks, h.inventory]
  split <;> rfl

theorem Touches.reserves (h : s.Touches s') (p : ProductId) :
    s.Reserves p (s.inventory p).reservedQuantity s' := by
  refine ⟨h.products, ?_⟩
  rw [h.inventory]
  split <;> rfl

theorem reserves_withdraw (s : Stock) (P : StockReservation → Bool) (status : ReservationStatus)
    (p : ProductId) : s.Reserves p ((s.inventory p).reservedQuantity - s.unitsWhere P p)
      (s.withdraw P status) := ⟨products_withdraw s P status, inventory_withdraw s P status p⟩

theorem reserves_hold {r : StockReservation} (hinv : s.inventories r.product ≠ none) (p : ProductId) :
    s.Reserves p ((s.inventory p).reservedQuantity + if r.product = p then r.quantity else 0)
      (s.hold r) := by
  refine ⟨?_, ?_⟩
  · unfold hold
    dsimp only
    split <;> rfl
  · rw [inventory_hold hinv]
    by_cases hp : p = r.product
    · subst hp
      simp only [true_and, if_true]
    · rw [if_neg fun h => hp h.1, if_neg (Ne.symm hp), Nat.add_zero, ite_self]

theorem Reserves.tracksSoldOut (h : s.Reserves p n s') (hs : TracksSoldOut p s) :
    TracksSoldOut p s' := by
  intro hclosed
  rw [h.products] at hclosed
  rw [h.tracks]
  exact hs hclosed

end Reserves

end Stock

/-- For tracked products `SoldOut` compares two counters. -/
theorem soldOut_iff {s : Stock} {p : ProductId} (hs : TracksSoldOut p s) : SoldOut p s ↔
    ((s.products p).availabilityStatus = .outOfStock →
      (s.inventory p).stockQuantity ≤ (s.inventory p).reservedQuantity) := by
  refine forall_congr' fun hclosed => ?_
  rw [ProductInventory.availableQuantity, if_pos (hs hclosed), Nat.sub_eq_zero_iff_le]

theorem Stock.Reserves.soldOut_iff {s s' : Stock} {p : ProductId} {n : ℕ}
    (h : s.Reserves p n s') (hs : TracksSoldOut p s) : SoldOut p s' ↔
      ((s.products p).availabilityStatus = .outOfStock → (s.inventory p).stockQuantity ≤ n) := by
  rw [Crumbs.soldOut_iff (h.tracksSoldOut hs), h.products]
  refine forall_congr' fun hclosed => ?_
  rw [h.inventory, if_pos (hs hclosed)]

/-! ## Handing over -/

section Handover

variable {s s' : Stock} {p : ProductId} {i : ReservationId} {r : StockReservation}
  {w : World Stock (List Observation)}

/-- What is closed after a handover was closed before, or has nothing left. -/
theorem status_consume (s : Stock) (i : ReservationId) (r : StockReservation) (n : ℕ)
    (p : ProductId) : ((s.consume i r n).products p).availabilityStatus = .outOfStock →
      (s.products p).availabilityStatus = .outOfStock ∨
        ((s.consume i r n).inventory p).trackStock ∧
          ((s.consume i r n).inventory p).availableQuantity = 0 := by
  rw [Stock.consume, inventory_closeSoldOut]
  generalize ht : ((s.takeUnits r).updateCapacity r.product r.productionDate _).updateReservation i
    _ = t
  have hproducts : t.products = s.products := by
    rw [← ht, Stock.takeUnits]
    split <;> rfl
  rw [← hproducts, Stock.closeSoldOut]
  split
  · next hleft =>
    intro hclosed
    by_cases hp : p = r.product
    · exact .inr (hp ▸ hleft)
    · rw [Stock.setAvailability] at hclosed
      dsimp only at hclosed
      rw [if_neg hp] at hclosed
      exact .inl hclosed
  · exact .inl

theorem TracksSoldOut.touch (h : TracksSoldOut p s) (htouch : s.Touches s') : TracksSoldOut p s' :=
  (htouch.reserves p).tracksSoldOut h

theorem TracksSoldOut.consume (h : TracksSoldOut p s) (hinv : s.inventories r.product ≠ none)
    (n : ℕ) : TracksSoldOut p (s.consume i r n) := by
  intro hclosed
  rcases status_consume s i r n p hclosed with hclosed | hempty
  · rw [inventory_consume hinv]
    split
    · exact h hclosed
    · exact h hclosed
  · exact hempty.1

theorem SoldOut.touch (h : SoldOut p s) (htouch : s.Touches s') : SoldOut p s' := by
  intro hclosed
  rw [htouch.products] at hclosed
  rw [htouch.inventory]
  exact h hclosed

/-- Units that are handed over leave both counters. -/
theorem SoldOut.consume (h : SoldOut p s) (hs : TracksSoldOut p s)
    (hinv : s.inventories r.product ≠ none) (n : ℕ) : SoldOut p (s.consume i r n) := by
  intro hclosed
  rcases status_consume s i r n p hclosed with hclosed | hempty
  · have hcounters := (soldOut_iff hs).1 h hclosed
    rw [inventory_consume hinv]
    split
    · rw [ProductInventory.availableQuantity, if_pos (hs hclosed)]
      dsimp only
      omega
    · exact h hclosed
  · exact hempty.2

/-- A handover keeps what touching a row and consuming a reservation keep. -/
theorem fulfillReservations_keeps {K : Stock → Prop} (o : OrderId)
    (htouch : ∀ {s s'}, K s → s.Touches s' → K s')
    (hconsume : ∀ {s r} (i : ReservationId) (n : ℕ), K s → s.inventories r.product ≠ none →
      K (s.consume i r n)) (hK : K w.db) :
    (fulfillReservations o).Ensures (fun _ w' => K w'.db) w := by
  refine Tx.wp_atomic.2 (Tx.wp_bind.2 ?_)
  refine Tx.wp_forM (I := fun _ w => K w.db) (fun e rest w' hK' => ?_) hK
  refine Tx.wp_mono (fulfillSingleReservation_spec e.1) (fun _ w'' h => ?_) fun _ _ _ => trivial
  obtain ⟨s, inv, cap, htouches, hinv, -, hdb, -⟩ := h
  rw [hdb]
  exact hconsume e.1 _ (htouch hK' htouches) (by rw [hinv]; exact Option.some_ne_none _)

end Handover

/-! ## Calls -/

/-- When the reservations that `P` finds are given back and `booked` units are booked, nothing of `p`
    is left on the shelf. -/
def Stock.CoveredWithout (s : Stock) (p : ProductId) (P : StockReservation → Bool) (booked : ℕ) :
    Prop :=
  (s.inventory p).stockQuantity ≤ (s.inventory p).reservedQuantity - s.unitsWhere P p + booked

instance (s : Stock) (p : ProductId) (P : StockReservation → Bool) (booked : ℕ) :
    Decidable (s.CoveredWithout p P booked) := inferInstanceAs (Decidable (_ ≤ _))

/-- The call gives no unit of `p` back that others do not hold. A hold that cannot be replaced is not
    given back either. -/
def InventoryCall.LeavesNone (env : Env) (s : Stock) (p : ProductId) : InventoryCall → Prop
  | .releaseCartReservations cart =>
    s.CoveredWithout p (fun r => r.cart = some cart ∧ r.status = .active) 0
  | .releaseCartReservationsForProduct cart product =>
    s.CoveredWithout p (isCartHold cart product) 0
  | .releaseReservations order =>
    s.CoveredWithout p (fun r => r.order = some order ∧ (r.status = .active ∨ r.status = .confirmed)) 0
  | .expireStaleReservations => s.CoveredWithout p (isStale env.now) 0
  | .reserveForCartItem cart product quantity =>
    (s.inventory product).trackStock → Rebookable env s cart product quantity →
      s.CoveredWithout p (isCartHold cart product) (if product = p then quantity.toNat else 0)
  | _ => True

instance (env : Env) (s : Stock) (p : ProductId) (call : InventoryCall) :
    Decidable (call.LeavesNone env s p) := by
  cases call <;> unfold InventoryCall.LeavesNone <;> infer_instance

/-- One call. If it raises it is over, and the database is as the exception left it. -/
def runCall (w : World Shop (List Observation)) (call : Env × InventoryCall) :
    Option (World Shop (List Observation)) := some (call.2.exec call.1 w).2

/-- The condition on a call: the product is open, or the call leaves nothing of it on the shelf. -/
def KeepsSoldOut (p : ProductId) (w : World Shop (List Observation)) (call : Env × InventoryCall) :
    Prop :=
  (w.db.stock.products p).availabilityStatus = .outOfStock → call.2.LeavesNone call.1 w.db.stock p

instance (p : ProductId) (w : World Shop (List Observation)) (call : Env × InventoryCall) :
    Decidable (KeepsSoldOut p w call) := inferInstanceAs (Decidable (_ → _))

section Calls

variable {env : Env} {p : ProductId} {w w' : World Shop (List Observation)}

/-- A booking adds its units to the reserved quantity. -/
theorem Reserved.reserves {s s' : Stock} {order : Option OrderId} {product : ProductId}
    {quantity : ℤ} {cart : Option CartId} {e : ReservationId × StockReservation}
    (h : Reserved s order product quantity cart e s') (p : ProductId) :
    s.Reserves p ((s.inventory p).reservedQuantity + if product = p then quantity.toNat else 0)
      s' := by
  obtain ⟨t, cap, htouch, rfl, hinv, -⟩ := h.booked
  have hquantity : quantity.toNat = e.2.quantity := by
    rw [← h.quantity]
    exact Int.toNat_natCast _
  have hhold := Stock.reserves_hold (s := t) (r := e.2) (by rwa [h.product]) p
  rw [htouch.inventory, h.product] at hhold
  rw [hquantity]
  exact (htouch.reserves p).trans hhold

/-- From `s` to `s'` units of `p` may have been booked, and none was given back. -/
def Stock.Books (p : ProductId) (s s' : Stock) : Prop :=
  ∃ n, ((s.inventory p).trackStock → (s.inventory p).reservedQuantity ≤ n) ∧ s.Reserves p n s'

theorem Stock.Books.refl (p : ProductId) (s : Stock) : s.Books p s :=
  ⟨_, fun _ => le_rfl, (Stock.Touches.refl s).reserves p⟩

theorem Stock.Books.trans {s s' s'' : Stock} (h : s.Books p s') (h' : s'.Books p s'') :
    s.Books p s'' := by
  obtain ⟨m, hle, hm⟩ := h
  obtain ⟨n, hle', hn⟩ := h'
  refine ⟨n, fun htrack => (hle htrack).trans ?_, hm.trans hn⟩
  have hreserved := hle' (hm.tracks.trans htrack)
  rwa [hm.inventory, if_pos htrack] at hreserved

/-- Booking the lines of an order gives nothing back. -/
theorem reserveOrderItems_books (order : OrderId) (p : ProductId)
    (items : List (OrderItem × ℕ)) (w : World Shop (List Observation)) :
    (reserveOrderItems env order items).Ensures
      (fun _ w' => w.db.stock.Books p w'.db.stock) w := by
  induction items generalizing w with
  | nil => exact .refl p _
  | cons item rest ih =>
    have hline : (ShopTx.onStock (reserveItem env (some order) item.1.product item.1.quantity none
        120)).Ensures (fun _ w' => w.db.stock.Books p w'.db.stock) w :=
      Tx.wp_zoom.2 (Tx.wp_mono (reserveItem_spec env _ _ _ _ _ _)
        (fun e w' h => ⟨_, fun _ => Nat.le_add_right _ _, h.1.reserves p⟩) fun _ _ _ => trivial)
    refine Tx.Ensures.bind hline fun e w₁ h₁ => ?_
    refine Tx.wp_bind.2 (Tx.wp_modifyDb.2 ?_)
    exact Tx.Ensures.bind (ih _) fun _ w₂ h₂ => Stock.Books.trans h₁ h₂

theorem reserveForOrder_books (order : OrderId) (p : ProductId) (w : World Shop (List Observation)) :
    (reserveForOrder env order).Ensures (fun _ w' => w.db.stock.Books p w'.db.stock) w := by
  refine Tx.wp_atomic.2 (Tx.wp_bind.2 ?_)
  exact Tx.Ensures.bind (reserveOrderItems_books order p _ w) fun _ w₁ h₁ => h₁

/-- A call that gives back and books keeps the product sold out if and only if the counter that it
    leaves covers the stock. -/
theorem keeps_of_reserves {call : InventoryCall} {n : ℕ} (hs : TracksSoldOut p w.db.stock)
    (h : w.db.stock.Reserves p n w'.db.stock)
    (hn : (w.db.stock.inventory p).trackStock →
      (w.db.stock.inventory p).stockQuantity ≤ (w.db.stock.inventory p).reservedQuantity →
        ((w.db.stock.inventory p).stockQuantity ≤ n ↔ call.LeavesNone env w.db.stock p)) :
    TracksSoldOut p w'.db.stock ∧ (SoldOut p w.db.stock →
      (SoldOut p w'.db.stock ↔ KeepsSoldOut p w (env, call))) := by
  refine ⟨h.tracksSoldOut hs, fun hsold => ?_⟩
  rw [h.soldOut_iff hs]
  exact forall_congr' fun hclosed => hn (hs hclosed) ((soldOut_iff hs).1 hsold hclosed)

/-- A release gives back what its query finds, and never raises. -/
theorem releases_keep {call : InventoryCall} {P : StockReservation → Bool} {α : Type} {x : StockTx α}
    {status : ReservationStatus}
    (hs : TracksSoldOut p w.db.stock) (hx : x.wp (fun _ w' => w'.db = w.db.stock.withdraw P status)
      (fun _ _ => False) ⟨w.db.stock, w.ext⟩)
    (hcall : call.LeavesNone env w.db.stock p ↔ w.db.stock.CoveredWithout p P 0) :
    (ShopTx.onStock x).wp (fun _ w' => TracksSoldOut p w'.db.stock ∧ (SoldOut p w.db.stock →
      (SoldOut p w'.db.stock ↔ KeepsSoldOut p w (env, call)))) (fun _ _ => False) w := by
  refine Tx.wp_zoom.2 (Tx.wp_mono hx (fun _ w' h => ?_) fun _ _ h => h)
  have hreserves := w.db.stock.reserves_withdraw P status p
  rw [← h] at hreserves
  exact keeps_of_reserves hs hreserves fun _ _ => hcall.symm

/-- Replacing a hold gives back what the cart held and books the new units. -/
theorem reserveForCartItem_keeps (cart : CartId) (product : ProductId) (quantity : ℤ)
    (hs : TracksSoldOut p w.db.stock) :
    (ShopTx.onStock (reserveForCartItem env cart product quantity)).wp
      (fun _ w' => TracksSoldOut p w'.db.stock ∧ (SoldOut p w.db.stock → (SoldOut p w'.db.stock ↔
        KeepsSoldOut p w (env, .reserveForCartItem cart product quantity))))
      (fun _ w' => w'.db.stock = w.db.stock ∧
        KeepsSoldOut p w (env, .reserveForCartItem cart product quantity)) w := by
  have hrebooks := reserveForCartItem_rebooks (w := ⟨w.db.stock, w.ext⟩) env cart product quantity
  refine Tx.wp_zoom.2 (Tx.wp_mono hrebooks (fun _ w' h => ?_)
    fun _ w' h => ⟨h.1, fun _ _ hbook => absurd hbook h.2.2⟩)
  rcases h with ⟨huntracked, hdays⟩ | ⟨htrack, hbook, e, hreserved⟩
  · refine keeps_of_reserves hs (hdays.touches.reserves p) fun _ hcovered =>
      iff_of_true hcovered fun htrack => ?_
    rw [huntracked] at htrack
    cases htrack
  · have hstart := Stock.Touches.setInventory w.db.stock product
    have hback := (hstart.reserves p).trans
      (Stock.reserves_withdraw _ (isCartHold cart product) .released p)
    rw [hstart.inventory, Stock.unitsWhere_touch hstart] at hback
    have hbooked := hback.trans (hreserved.reserves p)
    refine keeps_of_reserves hs hbooked fun htracked _ => ?_
    rw [Stock.withoutHolds, hback.inventory, if_pos htracked]
    exact ⟨fun h _ _ => h, fun h => h htrack hbook⟩

/-- A handover keeps a sold out product sold out. -/
theorem fulfillReservations_keepsSoldOut (order : OrderId) (hs : TracksSoldOut p w.db.stock) :
    (ShopTx.onStock (fulfillReservations order)).Ensures (fun _ w' => TracksSoldOut p w'.db.stock ∧
      (SoldOut p w.db.stock → (SoldOut p w'.db.stock ↔
        KeepsSoldOut p w (env, .fulfillReservations order)))) w := by
  have htracks := fulfillReservations_keeps (w := ⟨w.db.stock, w.ext⟩) (K := TracksSoldOut p) order
    (fun h htouch => h.touch htouch) (fun _ n h hinv => h.consume hinv n) hs
  have hsold := fun h : SoldOut p w.db.stock => fulfillReservations_keeps
    (w := ⟨w.db.stock, w.ext⟩) (K := fun s => TracksSoldOut p s ∧ SoldOut p s) order
    (fun h htouch => ⟨h.1.touch htouch, h.2.touch htouch⟩)
    (fun _ n h hinv => ⟨h.1.consume hinv n, h.2.consume h.1 hinv n⟩) ⟨hs, h⟩
  refine Tx.wp_zoom.2 (Tx.wp_mono (Tx.wp_and htracks (Tx.wp_self _ _)) (fun _ w' h => ?_)
    fun _ _ _ => trivial)
  exact ⟨h.1, fun hbefore => iff_of_true (Tx.wp_of_ok (hsold hbefore) h.2).2 fun _ => trivial⟩

theorem confirmReservations_keepsSoldOut (order : OrderId) (hs : TracksSoldOut p w.db.stock) :
    (ShopTx.onStock (confirmReservations order)).Ensures (fun _ w' => TracksSoldOut p w'.db.stock ∧
      (SoldOut p w.db.stock → (SoldOut p w'.db.stock ↔
        KeepsSoldOut p w (env, .confirmReservations order)))) w := by
  refine Tx.wp_zoom.2 ((Tx.wp_iff_of_ok (confirmReservations_spec order ⟨w.db.stock, w.ext⟩)).2 ?_)
  refine keeps_of_reserves (n := (w.db.stock.inventory p).reservedQuantity) hs ⟨rfl, ?_⟩
    fun _ hcovered => iff_of_true hcovered trivial
  exact (ite_self _).symm

/-- What one call does to a sold out product: a call that returns keeps it sold out if and only if it
    meets the condition, and one that raises changes nothing and meets it. -/
theorem InventoryCall.exec_keeps (call : InventoryCall) (env : Env)
    (hs : TracksSoldOut p w.db.stock) :
    (call.exec env).wp (fun _ w' => TracksSoldOut p w'.db.stock ∧ (SoldOut p w.db.stock →
        (SoldOut p w'.db.stock ↔ KeepsSoldOut p w (env, call))))
      (fun _ w' => w'.db.stock = w.db.stock ∧ KeepsSoldOut p w (env, call)) w := by
  -- a call that raises is rolled back
  have hback (call : InventoryCall) : (call.exec env).wp (fun _ _ => True)
      (fun _ w' => w'.db.stock = w.db.stock) w :=
    Tx.wp_mono (call.exec_rollsBack env w) (fun _ _ h => h) fun _ _ h => congrArg Shop.stock h
  cases call with
  | reserveForOrder order =>
    have hbooks : (InventoryCall.exec env (.reserveForOrder order)).Ensures
        (fun _ w' => w.db.stock.Books p w'.db.stock) w :=
      Tx.Ensures.bind (reserveForOrder_books order p w) fun _ _ h =>
        show (pure () : ShopTx Unit).Ensures _ _ from h
    refine Tx.wp_mono (Tx.wp_and hbooks (hback _)) (fun _ w' h => ?_)
      fun _ w' h => ⟨h.2, fun _ => trivial⟩
    obtain ⟨⟨n, hle, hreserves⟩, -⟩ := h
    exact keeps_of_reserves hs hreserves fun htrack hcovered =>
      iff_of_true (hcovered.trans (hle htrack)) trivial
  | reserveForCartItem cart product quantity =>
    exact Tx.wp_seq (reserveForCartItem_keeps cart product quantity hs) (fun _ _ h => h)
      fun _ _ h => h
  | releaseCartReservations cart =>
    exact Tx.wp_seq (releases_keep hs (Tx.wp_atomic.2 (releaseWhere_withdraws
      fun _ hr => .inl (of_decide_eq_true hr).2)) Iff.rfl) (fun _ _ h => h) fun _ _ h => h.elim
  | releaseCartReservationsForProduct cart product =>
    exact Tx.wp_seq (releases_keep hs (Tx.wp_atomic.2 (releaseWhere_withdraws
      fun _ hr => .inl (of_decide_eq_true hr).2.2)) Iff.rfl) (fun _ _ h => h) fun _ _ h => h.elim
  | releaseReservations order =>
    exact Tx.wp_mono (releases_keep hs (releaseReservations_withdraws order) Iff.rfl)
      (fun _ _ h => h) fun _ _ h => h.elim
  | confirmReservations order =>
    exact Tx.wp_mono (Tx.wp_and (confirmReservations_keepsSoldOut order hs)
      (hback (.confirmReservations order))) (fun _ _ h => h.1) fun _ _ h => ⟨h.2, fun _ => trivial⟩
  | fulfillReservations order =>
    exact Tx.wp_mono (Tx.wp_and (fulfillReservations_keepsSoldOut order hs)
      (hback (.fulfillReservations order))) (fun _ _ h => h.1) fun _ _ h => ⟨h.2, fun _ => trivial⟩
  | expireStaleReservations =>
    exact Tx.wp_seq (releases_keep hs (expireStaleReservations_withdraws env) Iff.rfl)
      (fun _ _ h => h) fun _ _ h => h.elim

/-- What one step does, whether or not the call raises. -/
theorem runCall_keeps {call : Env × InventoryCall} (h : runCall w call = some w')
    (hs : TracksSoldOut p w.db.stock) : TracksSoldOut p w'.db.stock ∧
      (SoldOut p w.db.stock → (SoldOut p w'.db.stock ↔ KeepsSoldOut p w call)) := by
  obtain rfl := Option.some.inj h
  have hcall := call.2.exec_keeps call.1 hs
  rcases hx : call.2.exec call.1 w with ⟨e | a, w₁⟩
  · obtain ⟨hstock, hkeeps⟩ := Tx.wp_of_error hcall hx
    dsimp only
    rw [hstock]
    exact ⟨hs, fun hsold => iff_of_true hsold hkeeps⟩
  · exact Tx.wp_of_ok hcall hx

/-- From a state where the product is open, whenever it is closed nothing of it is available, if and
    only if no call on a closed product gives units back that nobody else holds. -/
theorem soldOut_throughout_iff {shop : Shop} (p : ProductId)
    (hopen : (shop.stock.products p).availabilityStatus = .available)
    (calls : List (Env × InventoryCall)) :
    Throughout runCall (fun w => SoldOut p w.db.stock) ⟨shop, []⟩ calls ↔
      Guarded runCall (KeepsSoldOut p) ⟨shop, []⟩ calls := by
  have hstart : (shop.stock.products p).availabilityStatus ≠ .outOfStock := by
    rw [hopen]
    decide
  exact throughout_iff_guarded (I := fun w => TracksSoldOut p w.db.stock)
    (fun w call w' hs hstep => (runCall_keeps hstep hs).1)
    (fun w call w' hs hsold hstep => (runCall_keeps hstep hs).2 hsold)
    (fun hclosed => absurd hclosed hstart) fun hclosed => absurd hclosed hstart

end Calls

/-- An order of one loaf, on a shelf with three. -/
def orderedLoaf : Shop where
  stock :=
    { products := fun _ => { name := "Loaf", price := 200000, availabilityStatus := .available }
      inventories := fun p =>
        if p = 0 then some { stockQuantity := 3, allowPreorder := false } else none }
  orderItems := fun o => if o = 0 then
    [{ product := 0, productName := "Loaf", unitPrice := 200000, quantity := 1, lineTotal := 200000,
        fulfillmentDate := none, quantity_pos := Nat.one_pos }] else []

/-- The order is handed over while a cart holds the other two loaves, and then there is one more
    call. -/
def handoverThen (last : InventoryCall) : List (Env × InventoryCall) :=
  [({}, .reserveForCartItem 7 0 2), ({}, .reserveForOrder 0), ({}, .confirmReservations 0),
    ({}, .fulfillReservations 0), ({}, last)]

theorem soldOut_throughout_iff_orderedLoaf : Throughout runCall (fun w => SoldOut 0 w.db.stock)
    ⟨orderedLoaf, []⟩ (handoverThen (.reserveForCartItem 7 0 2)) :=
  (soldOut_throughout_iff 0 rfl _).2 (by decide +kernel)

theorem foldlM_runCall (calls : List (Env × InventoryCall)) (w : World Shop (List Observation)) :
    calls.foldlM runCall w = some (runCalls calls w) := by
  induction calls generalizing w with
  | nil => rfl
  | cons call rest ih => exact ih _

/-- When the cart gives its loaves up, they are for sale on a product that is out of stock. -/
theorem not_soldOut_throughout : ¬∀ (shop : Shop) (p : ProductId) (calls : List (Env × InventoryCall)),
    (shop.stock.products p).availabilityStatus = .available →
      Throughout runCall (fun w => SoldOut p w.db.stock) ⟨shop, []⟩ calls := by
  intro h
  have hlast := (h orderedLoaf 0 (handoverThen (.releaseCartReservations 7)) rfl).last
    (foldlM_runCall _ _)
  have hclosed : ((runCalls (handoverThen (.releaseCartReservations 7))
      ⟨orderedLoaf, []⟩).db.stock.products 0).availabilityStatus = .outOfStock := by decide +kernel
  exact absurd (hlast hclosed) (by decide +kernel)

end Crumbs
