import Crumbs.Inventory.Sales
import Crumbs.Lifecycle.Booked
import Crumbs.Lifecycle.CartHolds

/-!
# The Reservations of an Order

What has been reserved for an order is still held for it, or its reservations have ended. Work on
carts and on other orders leaves it alone, and no reservation begins anew once it has ended.

## Contents

- `Books.unitsFor`, `Books.endedFor`, `Books.heldFor`: what an order has, had, and holds
- `Holds.Ages`: the reservations of an order only grow older
- `ages_apply`, `ShopCall.OnCart.ages`: changes and cart services let them
- `Change.IsFor.endedElse`: what a change for an order ends, it ends for this order
- `Step.sells`: a step takes no more from the stock than what it ends
-/

namespace Crumbs

open Crumbs.Db

/-! ## What is reserved for an order -/

/-- What a reservation has of `p` for the order, whatever has become of it. -/
def StockReservation.unitsFor (o : OrderId) (p : ProductId) (r : StockReservation) : ℕ :=
  if r.order = some o ∧ r.product = p then r.quantity else 0

namespace Books

/-- The units of `p` that were ever reserved for the order. -/
def unitsFor (b : Books) (o : OrderId) (p : ProductId) : ℕ :=
  b.holds.total (StockReservation.unitsFor o p)

/-- Those that are not reserved any more. -/
def endedFor (b : Books) (o : OrderId) (p : ProductId) : ℕ :=
  b.holds.total (StockReservation.endedFor o p)

/-- Those that are. -/
def heldFor (b : Books) (o : OrderId) (p : ProductId) : ℕ :=
  b.holds.total (StockReservation.liveFor o p)

/-- All reservations of `p` for the order are in one of the statuses. -/
def AllFor (b : Books) (o : OrderId) (p : ProductId) (statuses : List ReservationStatus) : Prop :=
  ∀ i r, b.holds.rows i = some r → r.order = some o → r.product = p → r.status ∈ statuses

end Books

instance (b : Books) (o : OrderId) (p : ProductId) (statuses : List ReservationStatus) :
    Decidable (b.AllFor o p statuses) :=
  decidable_of_iff (∀ e ∈ b.holds.filter fun r => decide (r.order = some o ∧ r.product = p),
      e.2.status ∈ statuses)
    ⟨fun h i r hrow horder hproduct =>
      h (i, r) (Table.mem_filter.2 ⟨hrow, decide_eq_true ⟨horder, hproduct⟩⟩),
    fun h e he =>
      have hr := of_decide_eq_true (Table.mem_filter.1 he).2
      h e.1 e.2 (Table.mem_filter.1 he).1 hr.1 hr.2⟩

/-- From `holds` to `holds'` the reservations of `p` for the order grow older: none is new, none is
    dropped, and none that has ended begins anew. -/
structure Holds.Ages (o : OrderId) (p : ProductId) (holds holds' : Holds) : Prop where
  units : holds'.total (StockReservation.unitsFor o p) = holds.total (StockReservation.unitsFor o p)
  ended : holds.total (StockReservation.endedFor o p) ≤ holds'.total (StockReservation.endedFor o p)

section Units

variable {b : Books} {o : OrderId} {p : ProductId} {r : StockReservation} {holds holds' : Holds}

theorem Holds.Ages.refl (holds : Holds) : Holds.Ages o p holds holds := ⟨rfl, le_rfl⟩

theorem Holds.Ages.trans {holds'' : Holds} (h : Holds.Ages o p holds holds')
    (h' : Holds.Ages o p holds' holds'') : Holds.Ages o p holds holds'' :=
  ⟨h'.units.trans h.units, h.ended.trans h'.ended⟩

theorem unitsFor_eq (r : StockReservation) : StockReservation.unitsFor o p r =
    StockReservation.endedFor o p r + StockReservation.liveFor o p r := by
  unfold StockReservation.unitsFor StockReservation.endedFor StockReservation.liveFor
    StockReservation.endedQuantity StockReservation.liveQuantity
  by_cases horder : r.order = some o
  · by_cases hlive : r.isLive <;> by_cases hproduct : r.product = p <;>
      simp [horder, hlive, hproduct]
  · simp [horder]

/-- A reservation is held or has ended. -/
theorem Books.unitsFor_eq (b : Books) (o : OrderId) (p : ProductId) :
    b.unitsFor o p = b.endedFor o p + b.heldFor o p := by
  rw [unitsFor, endedFor, heldFor, ← Table.total_add]
  exact congrArg _ (funext Crumbs.unitsFor_eq)

/-- Reservations that are all live have not ended. -/
theorem Books.AllFor.endedFor_eq_zero {statuses : List ReservationStatus}
    (h : b.AllFor o p statuses) (hstatuses : statuses ⊆ [.active, .confirmed]) :
    b.endedFor o p = 0 := by
  refine Table.total_eq_zero fun i r hrow => ?_
  unfold StockReservation.endedFor StockReservation.endedQuantity
  by_cases horder : r.order = some o
  · rw [if_pos horder]
    refine if_neg fun hended => hended.1 ?_
    have hstatus := hstatuses (h i r hrow horder hended.2)
    simpa [StockReservation.isLive] using hstatus
  · exact if_neg horder

/-- Without reservations there is nothing that was reserved. -/
theorem Books.AllFor.unitsFor_eq_zero (h : b.AllFor o p []) : b.unitsFor o p = 0 :=
  Table.total_eq_zero fun i r hrow => if_neg fun hr => List.not_mem_nil (h i r hrow hr.1 hr.2)

end Units

/-! ## Changes -/

section Changes

variable {b : Books} {ch : Change} {o : OrderId} {p : ProductId} {holds : Holds}

/-- What has ended stays so when other reservations end. -/
theorem endedFor_le_end (o : OrderId) (p : ProductId) (P : StockReservation → Bool)
    {status : ReservationStatus} (hstatus : status = .released ∨ status = .expired) (holds : Holds) :
    holds.total (StockReservation.endedFor o p) ≤
      (holds.updateWhere P ({ · with status })).total (StockReservation.endedFor o p) := by
  refine Table.total_mono fun i => ?_
  rw [Table.rows_updateWhere]
  cases holds.rows i with
  | none => exact le_rfl
  | some r =>
    rw [Option.map_some, Option.elim_some, Option.elim_some]
    split
    · -- the row has ended now, so it counts as far as it can
      have hended : ¬StockReservation.isLive { r with status } := not_live_released r hstatus
      unfold StockReservation.endedFor
      split
      · rw [endedQuantity_of_ended hended]
        unfold StockReservation.endedQuantity
        split
        · next h => exact (if_pos h.2).ge
        · exact Nat.zero_le _
      · exact le_rfl
    · exact le_rfl

/-- Confirming ends nothing. -/
theorem endedFor_confirm (o o' : OrderId) (p : ProductId) (holds : Holds) :
    (Holds.confirm o' holds).total (StockReservation.endedFor o p) =
      holds.total (StockReservation.endedFor o p) := by
  refine Table.total_updateWhere_same fun r hr => ?_
  have hactive : r.status = .active := (of_decide_eq_true hr).2
  unfold StockReservation.endedFor
  rw [endedQuantity_of_live (.inl hactive), endedQuantity_of_live (.inr rfl)]

/-- New reservations have not ended. -/
theorem endedFor_insertAll {lines : List OrderLine} {reservations : List StockReservation}
    {o' : OrderId} (h : Bookings o' lines reservations) (o : OrderId) (p : ProductId) (holds : Holds) :
    (holds.insertAll reservations).total (StockReservation.endedFor o p) =
      holds.total (StockReservation.endedFor o p) := by
  rw [Table.total_insertAll]
  refine Nat.add_eq_left.2 (List.sum_eq_zero fun n hn => ?_)
  obtain ⟨r, hr, rfl⟩ := List.mem_map.1 hn
  unfold StockReservation.endedFor
  rw [endedQuantity_of_live (.inl (h.each r hr).2.2), ite_self]

/-- Placing an order releases the holds of the cart, books the order, and releases them once more. -/
theorem endedFor_le_place {b : Books} {c : CartId} (order : Order)
    {reservations : List StockReservation} (payment : Option Payment)
    (h : Bookings b.orders.next (b.cartLines c) reservations) (o : OrderId) (p : ProductId) :
    b.endedFor o p ≤ (b.placeOrder c order reservations payment).endedFor o p := by
  calc b.holds.total (StockReservation.endedFor o p)
      ≤ (Holds.releaseCart c b.holds).total (StockReservation.endedFor o p) :=
        endedFor_le_end o p _ (.inl rfl) _
    _ = ((Holds.releaseCart c b.holds).insertAll reservations).total
          (StockReservation.endedFor o p) := (endedFor_insertAll h o p _).symm
    _ ≤ (b.placeOrder c order reservations payment).endedFor o p :=
        endedFor_le_end o p _ (.inl rfl) _

/-- The reservations of orders end for good. A change of a cart is left to `ShopCall.OnCart.ages`: the
    guard says nothing of what the new holds of the cart are for. -/
theorem endedFor_le_apply (hguard : ch.Guard b) (hcart : ∀ c items holds, ch ≠ .shelve c items holds)
    (o : OrderId) (p : ProductId) : b.endedFor o p ≤ (ch.apply b).endedFor o p := by
  have hreleased (P : StockReservation → Bool) (holds : Holds) :=
    endedFor_le_end o p P (.inl rfl) holds
  cases ch with
  | shelve c items holds => exact (hcart c items holds rfl).elim
  | expire => exact endedFor_le_end o p _ (.inr rfl) _
  | release | cancel | failOrder | fail | deliver => exact hreleased _ _
  | refund o' =>
    change _ ≤ (Holds.release o' (Change.refundNewest b o').holds).total _
    rw [Change.holds_refundNewest]
    exact hreleased _ _
  | refundPayment o' =>
    change _ ≤ (Change.refundNewest b o').holds.total _
    rw [Change.holds_refundNewest]
    exact le_rfl
  | confirm | payOnline | payAtCounter | capture => exact (endedFor_confirm _ _ _ _).ge
  | receiveCash => exact (endedFor_confirm _ _ _ _).ge.trans (hreleased _ _)
  | reserve => exact (endedFor_insertAll hguard _ _ _).ge
  | checkout c order reservations payment | counterCheckout c order reservations payment =>
    exact endedFor_le_place order payment hguard.1.bookings o p
  | _ => exact le_rfl

theorem unitsFor_apply (hcart : ∀ c items holds, ch ≠ .shelve c items holds) (o : OrderId)
    (p : ProductId) : (ch.apply b).unitsFor o p =
      b.unitsFor o p + (ch.books.map (StockReservation.unitsFor o p)).sum :=
  total_apply ch (fun _ _ _ => rfl) fun c items holds h => (hcart c items holds h).elim

/-- The bookings of a change are for the order that it places, or for the one that it names. -/
theorem Change.Guard.order_of_books (hguard : ch.Guard b) {r : StockReservation}
    (hr : r ∈ ch.books) : ∃ o, r.order = some o ∧
      ((∃ reservations, ch = .reserve o reservations) ∨ ch.places ≠ none ∧ o = b.orders.next) := by
  cases ch with
  | reserve o' reservations => exact ⟨o', (hguard.each r hr).1, .inl ⟨reservations, rfl⟩⟩
  | checkout => exact ⟨_, (hguard.1.bookings.each r hr).1, .inr ⟨Option.some_ne_none _, rfl⟩⟩
  | counterCheckout => exact ⟨_, (hguard.1.bookings.each r hr).1, .inr ⟨Option.some_ne_none _, rfl⟩⟩
  | _ => exact absurd hr List.not_mem_nil

/-- A change that neither books nor places the order books nothing for it. -/
theorem sum_unitsFor_books (hguard : ch.Guard b) (hreserve : ∀ reservations, ch ≠ .reserve o reservations)
    (hplaces : ch.places ≠ none → o ≠ b.orders.next) (p : ProductId) :
    (ch.books.map (StockReservation.unitsFor o p)).sum = 0 := by
  refine List.sum_eq_zero fun n hn => ?_
  obtain ⟨r, hr, rfl⟩ := List.mem_map.1 hn
  refine if_neg fun hunits => ?_
  obtain ⟨o', horder, hbooks⟩ := hguard.order_of_books hr
  obtain rfl : o = o' := Option.some.inj (hunits.1.symm.trans horder)
  rcases hbooks with ⟨reservations, hch⟩ | ⟨hnew, ho⟩
  · exact hreserve reservations hch
  · exact hplaces hnew ho

/-- The reservations of an order that is there grow older. -/
theorem ages_apply (hguard : ch.Guard b) (hcart : ∀ c items holds, ch ≠ .shelve c items holds)
    (hreserve : ∀ reservations, ch ≠ .reserve o reservations) (hthere : b.orders.rows o ≠ none)
    (p : ProductId) : Holds.Ages o p b.holds (ch.apply b).holds := by
  refine ⟨?_, endedFor_le_apply hguard hcart o p⟩
  refine (unitsFor_apply hcart o p).trans (Nat.add_eq_left.2 ?_)
  refine sum_unitsFor_books hguard hreserve (fun _ ho => hthere ?_) p
  exact b.orders.fresh o ho.ge

end Changes

/-! ## Carts -/

/-- The calls that change lines and holds of a cart. -/
def ShopCall.OnCart : ShopCall → Prop
  | addItem .. | setItemQuantity .. | removeItem .. | clearCart .. => True
  | _ => False

/-- The reservations of `p` for the order grow older while the shop works. -/
def AgesIn (o : OrderId) (p : ProductId) (w w' : World Shop (List Observation)) : Prop :=
  Holds.Ages o p w.db.stock.reservations w'.db.stock.reservations

instance {o : OrderId} {p : ProductId} : IsPreorder (World Shop (List Observation)) (AgesIn o p) where
  refl _ := .refl _
  trans _ _ _ := Holds.Ages.trans

section Carts

variable {o : OrderId} {p : ProductId} {c : CartId} {product : ProductId} {quantity : ℤ} {env : Env}

/-- Releasing holds of a cart. If they were for the order as well, they have ended for it too. -/
theorem ages_release (P : StockReservation → Bool) (holds : Holds) :
    Holds.Ages o p holds (holds.updateWhere P ({ · with status := .released })) :=
  ⟨Table.total_updateWhere_same fun _ _ => rfl, endedFor_le_end o p P (.inl rfl) holds⟩

/-- A hold for a line is not for an order. -/
theorem ages_insert {r : StockReservation} (h : r.order = none) (holds : Holds) :
    Holds.Ages o p holds (holds.insert r) := by
  have hunits : StockReservation.unitsFor o p r = 0 :=
    if_neg fun hr => Option.some_ne_none o (hr.1.symm.trans h)
  exact ⟨by rw [Table.total_insert, hunits, Nat.add_zero], by
    rw [Table.total_insert]
    exact Nat.le_add_right _ _⟩

theorem reserveForCartItem_ages (w : World Stock (List Observation)) :
    (reserveForCartItem env c product quantity).Ensures
      (fun _ w' => Holds.Ages o p w.db.reservations w'.db.reservations) w := by
  refine Tx.Ensures.atomic (Tx.Ensures.bind (P := fun _ w' => w'.db.reservations =
    w.db.reservations) (Tx.wp_mono (E := fun _ _ => True) (getOrCreateInventory_spec product w)
      (fun _ _ h => h.1.1.reservations) fun _ _ _ => trivial) fun inv w₁ h₁ => ?_)
  rw [← h₁]
  refine .ite (fun _ => .refl _) fun _ => ?_
  refine Tx.wp_bind.2 (Tx.wp_getDb.2 (Tx.Ensures.bind
    (releaseAll_holds fun _ hr => .inl (of_decide_eq_true hr).2.2) fun _ w₂ h₂ => ?_))
  refine (reserveItem_holds env none product quantity (some c) _).bind fun e w₃ h₃ => ?_
  change Holds.Ages o p _ w₃.db.reservations
  rw [h₃.1, h₂]
  exact (ages_release _ _).trans (ages_insert h₃.2.1 _)

/-- A line is saved and held, after the product was checked. -/
theorem validated_ages (w : World Shop (List Observation)) : (do
    validateProduct product quantity (some c)
    let item ← saveCartItem c product quantity
    let _ ← ShopTx.onStock (reserveForCartItem env c product item.quantity)
    return item : ShopTx CartItem).Ensures (fun _ => AgesIn o p w) w := by
  refine (validateProduct_looks w).bind fun _ w₁ ⟨_, htouch⟩ => ?_
  refine (saveCartItem_puts w₁).bind fun item w₂ ⟨_, _, hdb⟩ => ?_
  have hsame : w₂.db.stock.reservations = w.db.stock.reservations := by
    rw [hdb, ← htouch.reservations]
    rfl
  refine Tx.wp_bind.2 (Tx.wp_zoom.2 ((reserveForCartItem_ages (stockWorld w₂)).mono
    fun _ w' (h : Holds.Ages o p w₂.db.stock.reservations w'.db.reservations) => ?_))
  rw [hsame] at h
  exact h

/-- Checked before, and undone as a whole. -/
theorem ages_atomic {α : Type} {x : ShopTx α}
    (h : ∀ w, x.Ensures (fun _ => AgesIn o p w) w) : (Tx.atomic x).Steps (AgesIn o p) := fun w =>
  Tx.wp_mono (Tx.Ensures.atomic_or (h w)) (fun _ _ h' => h') fun _ w' hdb => by
    rw [AgesIn, hdb]
    exact .refl _

theorem addItem_ages : (addItem env c product quantity).Steps (AgesIn o p) := by
  refine ages_atomic fun w => Tx.Ensures.bind (P := fun _ w' => w' = w) ?_ ?_
  · exact Tx.wp_mono (ensureCartMutable_reads c w) (fun _ _ h => h.symm) fun _ _ _ => trivial
  rintro _ _ rfl
  exact Tx.ensures_check fun _ => Tx.wp_bind.2 (Tx.wp_getDb.2 (validated_ages _))

theorem setItemQuantity_ages : (setItemQuantity env c product quantity).Steps (AgesIn o p) := by
  refine ages_atomic fun w => Tx.Ensures.bind (P := fun _ w' => w' = w) ?_ ?_
  · exact Tx.wp_mono (ensureCartMutable_reads c w) (fun _ _ h => h.symm) fun _ _ _ => trivial
  rintro _ _ rfl
  exact Tx.ensures_check fun _ => validated_ages _

/-- Work on the stock that releases holds. -/
theorem ages_onStock {α : Type} {x : StockTx α} {g : Holds → Holds} (hx : Rebooks (Tx.atomic x) g)
    (hg : ∀ holds, Holds.Ages o p holds (g holds)) :
    (ShopTx.onStock (Tx.atomic x)).Steps (AgesIn o p) := fun w =>
  Tx.wp_zoom.2 (Tx.wp_mono (Tx.wp_and (hx _) (Tx.rollsBack_atomic x _))
    (fun _ w' h => by
      change Holds.Ages o p _ w'.db.reservations
      rw [h.1.1]
      exact hg _)
    fun _ w' h => by
      change Holds.Ages o p _ w'.db.reservations
      rw [h.2]
      exact .refl _)

theorem removeItem_ages : (removeItem c product).Steps (AgesIn o p) :=
  Tx.Steps.bind (steps_of_eq (ensureCartMutable_reads c)) fun _ =>
    Tx.Steps.bind (ages_onStock (releaseCartReservationsForProduct_rebooks c product)
      (ages_release _)) fun _ _ => Tx.steps_modifyDb (.refl _)

theorem clearCart_ages : (clearCart c).Steps (AgesIn o p) :=
  Tx.Steps.bind (ages_onStock (releaseCartReservations_rebooks c) (ages_release _))
    fun _ _ => Tx.steps_modifyDb (.refl _)

/-- Calls on carts let the reservations of orders grow older. -/
theorem ShopCall.OnCart.ages {call : ShopCall} (h : call.OnCart) :
    (call.run env).Steps (AgesIn o p) := by
  cases call with
  | addItem => exact steps_void addItem_ages
  | setItemQuantity => exact steps_void setItemQuantity_ages
  | removeItem => exact removeItem_ages
  | clearCart => exact clearCart_ages
  | _ => exact h.elim

end Carts

/-! ## Operations -/

section Operations

variable {env : Env} {db : Database} {o : OrderId} {p : ProductId}

/-- Only calls on carts ask for changes of carts. -/
theorem ShopCall.Asks.onCart {call : ShopCall} {shop : Shop} {b : Books} {c : CartId}
    {items : List CartItem} {holds : Holds} (h : call.Asks env shop b (.shelve c items holds)) :
    call.OnCart := by
  cases call with
  | addItem | setItemQuantity | removeItem | clearCart => trivial
  | initiatePayment o seen =>
    obtain ⟨-, h⟩ := h
    split at h
    · obtain ⟨payment, -, -, h⟩ := h
      exact nomatch h
    · obtain ⟨-, payment, -, h⟩ := h
      exact nomatch h
  | _ => simp [ShopCall.Asks, PaymentService.CounterAsks, PaymentService.CodAsks, CleanupAsks] at h

/-- And they ask for nothing else. -/
theorem ShopCall.OnCart.asks {call : ShopCall} (hcart : call.OnCart) {shop : Shop} {b : Books}
    {ch : Change} (h : call.Asks env shop b ch) : ∃ c items holds, ch = .shelve c items holds := by
  cases call with
  | addItem c | setItemQuantity c =>
    obtain ⟨-, items, holds, rfl⟩ := h
    exact ⟨c, items, holds, rfl⟩
  | removeItem c | clearCart c =>
    obtain ⟨items, holds, rfl⟩ := h
    exact ⟨c, items, holds, rfl⟩
  | _ => exact hcart.elim

theorem Operation.asks_cart (env : Env) (db : Database) (operation : Operation) :
    (∃ call, operation = .call call ∧ call.OnCart) ∨
      ∀ b ch, operation.Asks env db b ch → ∀ c items holds, ch ≠ .shelve c items holds := by
  cases operation with
  | call call =>
    by_cases hcart : call.OnCart
    · exact .inl ⟨call, rfl, hcart⟩
    · refine .inr ?_
      rintro b _ hasks c items holds rfl
      exact hcart (ShopCall.Asks.onCart hasks)
  | zarinpalCallback =>
    refine .inr ?_
    rintro b _ ⟨-, p, payment, order, -, hasks⟩ c items holds rfl
    exact hasks
  | stripeWebhook =>
    refine .inr ?_
    rintro b _ ⟨-, event, -, -, hasks⟩ c items holds rfl
    exact hasks

end Operations

/-! ## Work for one order -/

/-- The change works on the order: it touches no holds but those of the order. -/
def Change.IsFor (o : OrderId) : Change → Prop
  | shelve .. | expire _ | checkout .. | counterCheckout .. => False
  | reserve o' _ | confirm o' | release o' | cancel o' | failOrder o' | refund o' | deliver o'
  | payOnline o' | payAtCounter o' | capture o' _ _ | receiveCash o' | fail o' _ _ => o' = o
  | _ => True

/-- The order that a call works on. -/
def ShopCall.order : ShopCall → Option OrderId
  | transition o .. | cancel o .. | markPaymentFailed o .. | requestRefund o .. | processRefund o ..
  | completeDelivery o _ | reserveStock o | confirmStock o | releaseStock o
  | finalizeCounterPayment o _ | finalizeOnlinePayment o | confirmCod o _ | recordCashReceived o _
  | startPreparing o .. | markReady o _ | completePickupOrder o .. | initiateOnline o
  | initiatePayment o _ | initiateCounterPayment o .. | markCounterCashReceived o ..
  | markCounterCardReceived o .. | markPaid o _ | markCodCashReceived o .. | ensureCodCashFinalized o ..
  | markFailed o .. | markCancelled o .. | refundPayment o => some o
  | _ => none

def Operation.order : Operation → Option OrderId
  | call c => c.order
  | _ => none

/-- What a reservation that is not for the order has of `p` once it has ended. -/
def StockReservation.endedElse (o : OrderId) (p : ProductId) (r : StockReservation) : ℕ :=
  if r.order = some o then 0 else r.endedQuantity p

section OneOrder

variable {env : Env} {b : Books} {ch : Change} {o : OrderId} {p : ProductId}

/-- What has ended was for the order, or it was not. -/
theorem endedUnits_eq (s : Stock) (o : OrderId) (p : ProductId) :
    s.endedUnits p = s.endedFor o p + s.reservations.total (StockReservation.endedElse o p) := by
  rw [Stock.endedUnits, Stock.endedFor, ← Table.total_add]
  refine congrArg _ (funext fun r => ?_)
  unfold StockReservation.endedFor StockReservation.endedElse
  by_cases horder : r.order = some o <;> simp [horder]

/-- Work on the order ends no other reservations. -/
theorem Change.IsFor.endedElse (h : ch.IsFor o) (hguard : ch.Guard b) (p : ProductId) :
    (ch.apply b).holds.total (StockReservation.endedElse o p) =
      b.holds.total (StockReservation.endedElse o p) := by
  -- the reservations of the order do not count, before and after
  have hsame (P : StockReservation → Bool) (g : StockReservation → StockReservation)
      (hP : ∀ r, P r = true → r.order = some o) (hg : ∀ r, (g r).order = r.order) (holds : Holds) :
      (holds.updateWhere P g).total (StockReservation.endedElse o p) =
        holds.total (StockReservation.endedElse o p) :=
    Table.total_updateWhere_same fun r hr => by
      rw [StockReservation.endedElse, if_pos ((hg r).trans (hP r hr)),
        StockReservation.endedElse, if_pos (hP r hr)]
  have hreleased (holds : Holds) : (Holds.release o holds).total (StockReservation.endedElse o p) =
      holds.total (StockReservation.endedElse o p) :=
    hsame _ ({ · with status := .released }) (fun _ hr => (of_decide_eq_true hr).1) (fun _ => rfl) _
  have hfulfilled (holds : Holds) : (Holds.fulfill o holds).total (StockReservation.endedElse o p) =
      holds.total (StockReservation.endedElse o p) :=
    hsame _ ({ · with status := .released }) (fun _ hr => (of_decide_eq_true hr).1) (fun _ => rfl) _
  have hconfirmed (holds : Holds) : (Holds.confirm o holds).total (StockReservation.endedElse o p) =
      holds.total (StockReservation.endedElse o p) :=
    hsame _ ({ · with status := .confirmed, expiresAt := none })
      (fun _ hr => (of_decide_eq_true hr).1) (fun _ => rfl) _
  cases ch with
  | reserve o' reservations =>
    refine (Table.total_insertAll ..).trans (Nat.add_eq_left.2 (List.sum_eq_zero fun n hn => ?_))
    obtain ⟨r, hr, rfl⟩ := List.mem_map.1 hn
    exact if_pos ((hguard.each r hr).1.trans (congrArg some h))
  | confirm | payOnline | payAtCounter | capture =>
    subst h
    exact hconfirmed _
  | release | cancel | failOrder | fail =>
    subst h
    exact hreleased _
  | refund o' =>
    subst h
    change (Holds.release o' (Change.refundNewest b o').holds).total _ = _
    rw [Change.holds_refundNewest]
    exact hreleased _
  | refundPayment o' =>
    change (Change.refundNewest b o').holds.total _ = _
    rw [Change.holds_refundNewest]
  | deliver =>
    subst h
    exact hfulfilled _
  | receiveCash =>
    subst h
    exact (hfulfilled _).trans (hconfirmed _)
  | shelve | expire | checkout | counterCheckout => exact h.elim
  | _ => rfl

/-- A call for the order asks for work on this order only. -/
theorem ShopCall.Asks.isFor {call : ShopCall} {shop : Shop} (h : call.Asks env shop b ch)
    (horder : call.order = some o) : ch.IsFor o := by
  cases call with
  | transition | requestRefund | confirmCod | markReady =>
    obtain ⟨-, rfl⟩ := h
    trivial
  | cancel | markPaymentFailed | processRefund | confirmStock | releaseStock
  | finalizeCounterPayment | finalizeOnlinePayment | recordCashReceived =>
    obtain ⟨-, rfl⟩ := h
    exact Option.some.inj horder
  | refundPayment =>
    obtain ⟨-, rfl⟩ := h
    trivial
  | completeDelivery =>
    obtain ⟨-, rfl | rfl⟩ := h
    · exact Option.some.inj horder
    · trivial
  | reserveStock =>
    rcases h with ⟨reservations, rfl⟩ | ⟨f, rfl⟩
    · exact Option.some.inj horder
    · trivial
  | startPreparing => rcases h with ⟨-, -, rfl⟩ | ⟨-, -, rfl⟩ | ⟨-, rfl⟩ <;> trivial
  | completePickupOrder =>
    rcases h with ⟨-, -, rfl⟩ | ⟨-, rfl | rfl⟩
    · trivial
    · exact Option.some.inj horder
    · trivial
  | initiateOnline =>
    obtain ⟨-, -, payment, -, rfl⟩ := h
    trivial
  | initiatePayment =>
    obtain ⟨-, h⟩ := h
    split at h
    · obtain ⟨payment, -, -, rfl⟩ := h
      trivial
    · obtain ⟨-, payment, -, rfl⟩ := h
      trivial
  | initiateCounterPayment =>
    obtain ⟨-, payment, -, rfl⟩ := h
    trivial
  | markCounterCashReceived | markCounterCardReceived =>
    cases ch with
    | settle => trivial
    | payAtCounter => exact h.1.trans (Option.some.inj horder)
    | _ => exact h.elim
  | markCodCashReceived | ensureCodCashFinalized =>
    cases ch with
    | settle | noteCash => trivial
    | receiveCash => exact h.1.trans (Option.some.inj horder)
    | _ => exact h.elim
  | markPaid =>
    obtain ⟨-, rfl | rfl⟩ := h
    · trivial
    · exact Option.some.inj horder
  | markFailed =>
    obtain ⟨-, f, rfl | rfl⟩ := h
    · exact Option.some.inj horder
    · trivial
  | markCancelled =>
    obtain ⟨-, f, rfl⟩ := h
    trivial
  | _ => exact nomatch horder

theorem Operation.Asks.isFor {operation : Operation} {db : Database}
    (h : operation.Asks env db b ch) (horder : operation.order = some o) : ch.IsFor o := by
  cases operation with
  | call call => exact ShopCall.Asks.isFor h horder
  | zarinpalCallback | stripeWebhook => exact nomatch horder

/-- A call for the order ends no other reservations. -/
theorem Step.endedElse {step : Step} (horder : step.operation.order = some o) (db : Database)
    (p : ProductId) : (step.exec db).db.shop.stock.reservations.total (StockReservation.endedElse o p) =
      db.shop.stock.reservations.total (StockReservation.endedElse o p) := by
  refine (step.follows db).inv (I := fun b => b.holds.total (StockReservation.endedElse o p) =
    db.shop.stock.reservations.total (StockReservation.endedElse o p)) rfl ?_
  intro b ch hb hguard hasks
  exact ((hasks.isFor horder).endedElse hguard p).trans hb

end OneOrder

/-! ## The stock -/

section Sells

variable {p : ProductId}

theorem Shop.Write.sells {q : Prop} {s s' : Shop} (h : Shop.Write q s s') (hc : Covered p s.stock) :
    Covered p s'.stock ∧ s.stock.Sells p s'.stock := by
  cases h with
  | stock stock obs hsections => exact hsections.sells hc
  | touch stock htouch =>
    refine ⟨hc.touch htouch, (htouch.inventory p ▸ le_rfl), ?_⟩
    rw [htouch.inventory, endedUnits_touch htouch]
  | _ => exact ⟨hc, .refl p _⟩

/-- Whatever a step runs, it takes no more from the stock than what it ends. -/
theorem Step.sells (step : Step) {db : Database} (hc : Covered p db.shop.stock) :
    Covered p (step.exec db).db.shop.stock ∧
      db.shop.stock.Sells p (step.exec db).db.shop.stock := by
  have hwrites := step.exec_writes db
  generalize (step.exec db).db.shop = s' at hwrites ⊢
  induction hwrites with
  | refl => exact ⟨hc, .refl p _⟩
  | tail _ hlast ih =>
    obtain ⟨hcovered, hsells⟩ := hlast.sells ih.1
    exact ⟨hcovered, ih.2.trans hsells⟩

end Sells

end Crumbs
