import Crumbs.Inventory.Holds
import Crumbs.Orders.Outcomes

/-!
# Pickup at the Counter

The kitchen and the pickup screen hand a packaged order out in two transactions: it goes out for
delivery, and then it is delivered. If the second one raises, the first one stays.

## Contents

- `isOnKitchenScreen`, `isOnPickupScreen`: the orders that the screens show
- `fulfillReservations_raises`: a handover without an inventory row
- `Order.Deliverable`: when the last step returns
- `CompletesOrNothing`, `completesOrNothing_iff`: completion is all or nothing except for packaged
  orders that cannot be delivered
-/

namespace Crumbs

open Crumbs.Db

/-! ## The screens -/

/-- `KITCHEN_QUEUE_STATUSES` -/
def kitchenQueueStatuses : List OrderStatus := [.paid, .confirmedByShop, .preparing, .packaged]

/-- `KITCHEN_PAYMENT_STATUSES` and `PICKUP_READY_PAYMENT_STATUSES` -/
def counterPaymentStatuses : List OrderPaymentStatus := [.paid, .codConfirmed, .cashReceived]

/-- `kitchen_order_queryset` -/
def isOnKitchenScreen (order : Order) : Prop :=
  order.status ∈ kitchenQueueStatuses ∧ order.paymentStatus ∈ counterPaymentStatuses ∧
    order.paymentStatus ∉ [.pendingPayment, .failed, .codPending]

/-- `pickup_screen_queryset` -/
def isOnPickupScreen (order : Order) : Prop :=
  order.status = .packaged ∧ order.paymentStatus ∈ counterPaymentStatuses

instance (order : Order) : Decidable (isOnKitchenScreen order) :=
  inferInstanceAs (Decidable (_ ∧ _ ∧ _))

instance (order : Order) : Decidable (isOnPickupScreen order) :=
  inferInstanceAs (Decidable (_ ∧ _))

/-! ## Handing over without a row -/

section Handover

variable {w : World Stock (List Observation)} {i : ReservationId} {r : StockReservation}

/-- Handing over raises if the product has no inventory row. -/
theorem fulfillSingleReservation_missing (h : w.db.inventories r.product = none) :
    ∃ e, fulfillSingleReservation (i, r) w = (.error e, w) := by
  refine ⟨.doesNotExist "ProductInventory", (Tx.bind_of_ok (x := Tx.getDb) rfl).trans
    (Tx.bind_of_error ?_)⟩
  rw [h]
  rfl

/-- The inventory rows of products other than `p` are as they were. -/
def SameRowsBut (p : ProductId) (s s' : Stock) : Prop :=
  ∀ q, q ≠ p → s'.inventories q = s.inventories q

theorem getOrCreateDailyCapacity_rows (p : ProductId) (d : Date) :
    (getOrCreateDailyCapacity p d).Ensures (fun _ w' => SameRowsBut p w.db w'.db) w :=
  fun _ hq => if_neg hq

theorem consumeUnits_rows (r : StockReservation) (inv : ProductInventory) :
    (consumeUnits r inv).Ensures (fun _ w' => SameRowsBut r.product w.db w'.db) w := by
  refine Tx.wp_ite.2 ⟨fun _ => ?_, fun _ => fun _ _ => rfl⟩
  exact fun q hq => if_neg hq

/-- Handing over leaves the inventory rows of other products. -/
theorem fulfillSingleReservation_rows (e : ReservationId × StockReservation) :
    (fulfillSingleReservation e).Ensures (fun _ w' => SameRowsBut e.2.product w.db w'.db) w := by
  refine Tx.wp_bind.2 ?_
  refine Tx.Ensures.bind (P := fun _ w' => w' = w) ?_ fun inv w₁ hw => ?_
  · cases w.db.inventories e.2.product with
    | none => trivial
    | some inv => rfl
  subst hw
  refine Tx.Ensures.bind (getOrCreateDailyCapacity_rows _ _) fun cap w₂ h₂ => ?_
  refine Tx.Ensures.bind (consumeUnits_rows e.2 inv) fun inv' w₃ h₃ => ?_
  have hrows : SameRowsBut e.2.product w₁.db w₃.db := fun q hq => (h₃ q hq).trans (h₂ q hq)
  refine Tx.wp_bind.2 (wp_clampedSub _ _ _ |>.2 ?_)
  simp only [Tx.wp_bind, Tx.wp_modifyDb, saveReservationStatus, Tx.wp_when]
  exact ⟨fun _ => hrows, fun _ => hrows⟩

/-- A handover raises if it comes to a reservation without an inventory row. -/
theorem fulfillReservations_raises {o : OrderId} {e : ReservationId × StockReservation}
    (he : e ∈ w.db.reservationsWhere (fun r => r.order = some o ∧ r.status = .confirmed))
    (hmissing : w.db.inventories e.2.product = none) :
    (fulfillReservations o).wp (fun _ _ => False) (fun _ _ => True) w := by
  let I := fun (rest : List (ReservationId × StockReservation))
    (w : World Stock (List Observation)) => ∃ e ∈ rest, w.db.inventories e.2.product = none
  rw [fulfillReservations, Tx.wp_atomic, Tx.wp_bind, Tx.wp_getDb]
  refine Tx.wp_mono (Tx.wp_forM (I := I) (E := fun _ _ => True) (fun e rest w' hI => ?_)
    ⟨e, he, hmissing⟩) (fun _ _ h => ?_) fun _ _ h => h
  · by_cases hrow : w'.db.inventories e.2.product = none
    · obtain ⟨exn, hraise⟩ := fulfillSingleReservation_missing (i := e.1) (r := e.2) hrow
      exact (Tx.wp_iff_of_error hraise).2 trivial
    · refine (fulfillSingleReservation_rows e).mono fun _ w'' hrows => ?_
      obtain ⟨e', he', hmissing'⟩ := hI
      rcases List.mem_cons.1 he' with rfl | hmem
      · exact absurd hmissing' hrow
      · refine ⟨e', hmem, (hrows _ fun heq => hrow ?_).trans hmissing'⟩
        rw [← heq, hmissing']
  · obtain ⟨_, hmem, -⟩ := h
    exact absurd hmem List.not_mem_nil

end Handover

/-! ## Completion -/

/-- The reservations of the order can be handed over: their products have inventory rows. -/
def Stock.HasRowsFor (s : Stock) (o : OrderId) : Prop :=
  ∀ e ∈ s.reservationsWhere (fun r => r.order = some o ∧ r.status = .confirmed),
    (s.inventories e.2.product).isSome

instance (s : Stock) (o : OrderId) : Decidable (s.HasRowsFor o) :=
  inferInstanceAs (Decidable (∀ e ∈ _, _))

/-- An order on its way can be delivered: the cash of a COD order is in the till, and the goods of
    any other order can be handed over. -/
def Order.Deliverable (order : Order) (s : Stock) (o : OrderId) : Prop :=
  (order.isCod → order.paymentStatus = .cashReceived) ∧ (¬order.isCod → s.HasRowsFor o)

instance (order : Order) (s : Stock) (o : OrderId) : Decidable (order.Deliverable s o) :=
  inferInstanceAs (Decidable ((_ → _) ∧ (_ → _)))

/-- Completing the pickup of the order, as the screen has loaded it, delivers it, or raises and leaves
    its status, the history and the stock as they were. -/
def CompletesOrNothing (o : OrderId) (order : Order) (actor : String)
    (w : World Shop (List Observation)) : Prop :=
  (completePickupOrder o order.status actor).wp
    (fun _ w' => ∃ order', w'.db.orders.rows o = some order' ∧ order'.status = .delivered)
    (fun _ w' => (∃ order', w'.db.orders.rows o = some order' ∧ order'.status = order.status) ∧
      w'.db.statusLogs = w.db.statusLogs ∧ w'.db.stock = w.db.stock) w

section Completion

variable {w : World Shop (List Observation)} {o : OrderId} {order : Order} {actor : String}

theorem settleDelivery_ensures (o : OrderId) (order : Order) (w : World Shop (List Observation)) :
    (OrderService.settleDelivery o order).Ensures (fun _ w' => w'.db.orders = w.db.orders) w := by
  refine Tx.wp_ite.2 ⟨fun _ => Tx.wp_when.2 ⟨fun _ => trivial, fun _ => rfl⟩, fun _ => ?_⟩
  exact Tx.wp_zoom.2 (Tx.wp_mono (Tx.wp_self _ _) (fun _ _ _ => rfl) fun _ _ _ => trivial)

/-- When the last step returns, the order is delivered. -/
theorem completeDelivery_delivers (hrow : w.db.orders.rows o = some order) :
    (OrderService.completeDelivery o actor).wp
      (fun _ w' => ∃ order', w'.db.orders.rows o = some order' ∧ order'.status = .delivered)
      (fun _ w' => w'.db = w.db) w := by
  refine Tx.Ensures.atomic_or (Tx.wp_bind.2 ((Tx.wp_iff_of_ok (lockOrder_of_some hrow)).2 ?_))
  refine Tx.Ensures.bind (settleDelivery_ensures o order w) fun _ w₁ horders => ?_
  have hrow₁ : w₁.db.orders.rows o = some order := by rw [horders, hrow]
  exact (transition_ensures .delivered "" actor hrow₁).mono fun _ w' h => ⟨_, h.1, rfl⟩

/-- An order on its way is delivered if it can be. -/
theorem completeDelivery_returns (hrow : w.db.orders.rows o = some order)
    (hstatus : order.status = .outForDelivery) (h : order.Deliverable w.db.stock o) :
    (OrderService.completeDelivery o actor).wp (fun _ _ => True) (fun _ _ => False) w := by
  refine Tx.wp_atomic.2 (Tx.wp_bind.2 ((Tx.wp_iff_of_ok (lockOrder_of_some hrow)).2 ?_))
  have hsettles : (OrderService.settleDelivery o order).wp (fun _ _ => True) (fun _ _ => False) w := by
    refine Tx.wp_ite.2 ⟨fun hcod => Tx.wp_when.2 ⟨fun hopen => hopen (h.1 hcod), fun _ => trivial⟩,
      fun hnot => Tx.wp_zoom.2 (fulfillReservations_returns (h.2 hnot))⟩
  refine Tx.wp_seq (Tx.wp_and hsettles (settleDelivery_ensures o order w)) (fun _ w₁ h₁ => ?_)
    fun _ _ h => h.1
  have hrow₁ : w₁.db.orders.rows o = some order := by rw [h₁.2, hrow]
  have hne : order.status ≠ .delivered := by
    rw [hstatus]
    decide
  refine (Tx.wp_iff_of_ok (transition_changes .delivered "" actor hrow₁ hne ?_)).2 trivial
  rw [hstatus]
  decide

/-- Otherwise the last step raises, and is rolled back. -/
theorem completeDelivery_raises (actor : String) (hrow : w.db.orders.rows o = some order)
    (h : ¬order.Deliverable w.db.stock o) :
    (OrderService.completeDelivery o actor).wp (fun _ _ => False) (fun _ w' => w'.db = w.db) w := by
  refine Tx.wp_atomic.2 (Tx.wp_bind.2 ((Tx.wp_iff_of_ok (lockOrder_of_some hrow)).2 ?_))
  have hraises : (OrderService.settleDelivery o order).wp (fun _ _ => False) (fun _ _ => True) w := by
    refine Tx.wp_ite.2 ⟨fun hcod => Tx.wp_when.2 ⟨fun _ => trivial, fun hcash => ?_⟩, fun hnot => ?_⟩
    · exact h ⟨fun _ => not_not.1 hcash, fun hnot => absurd hcod hnot⟩
    · have hrows : ¬w.db.stock.HasRowsFor o := fun hrows =>
        h ⟨fun hcod => absurd hcod hnot, fun _ => hrows⟩
      obtain ⟨e, he⟩ := not_forall.1 hrows
      obtain ⟨he, hmissing⟩ := Classical.not_imp.1 he
      exact Tx.wp_zoom.2 (fulfillReservations_raises (w := ⟨w.db.stock, w.ext⟩) he
        (Option.not_isSome_iff_eq_none.1 hmissing))
  exact Tx.wp_seq hraises (fun _ _ h => h.elim) fun _ _ _ => rfl

/-- Completion is all or nothing, except for a packaged order that cannot be delivered: it stays on
    its way, and on no screen. -/
theorem completesOrNothing_iff (hrow : w.db.orders.rows o = some order) :
    CompletesOrNothing o order actor w ↔
      (order.status = .packaged → order.Deliverable w.db.stock o) := by
  by_cases hpackaged : order.status = .packaged
  · -- the first transaction is committed, and the second one starts from there
    let w₁ : World Shop (List Observation) := { w with
      db := w.db.restatus o order.status .outForDelivery
        "Pickup screen: ready for customer pickup" actor }
    have hfirst : (Tx.when (order.status = .packaged) do
        let _ ← OrderService.transition o .outForDelivery
          "Pickup screen: ready for customer pickup" actor) w = (.ok (), w₁) := by
      refine (Tx.when_of hpackaged).trans (Tx.bind_of_ok (transition_changes .outForDelivery _ actor
        hrow ?_ ?_))
      · rw [hpackaged]
        decide
      · rw [hpackaged]
        decide
    have hrow₁ : w₁.db.orders.rows o = some { order with status := .outForDelivery } := by
      rw [orders_restatus, Table.rows_modify_self, hrow]
      rfl
    have hiff : CompletesOrNothing o order actor w ↔ (OrderService.completeDelivery o actor).wp
        (fun _ w' => ∃ order', w'.db.orders.rows o = some order' ∧ order'.status = .delivered)
        (fun _ w' => (∃ order', w'.db.orders.rows o = some order' ∧ order'.status = order.status) ∧
          w'.db.statusLogs = w.db.statusLogs ∧ w'.db.stock = w.db.stock) w₁ :=
      Tx.wp_bind.trans (Tx.wp_iff_of_ok hfirst)
    rw [hiff]
    refine ⟨fun h _ => by_contra fun hblocked => ?_, fun h => ?_⟩
    · have hraises := completeDelivery_raises actor hrow₁ hblocked
      rcases hx : OrderService.completeDelivery o actor w₁ with ⟨e | a, w'⟩
      · obtain ⟨⟨order', hrow', hstatus⟩, -⟩ := Tx.wp_of_error h hx
        rw [Tx.wp_of_error hraises hx, hrow₁] at hrow'
        obtain rfl := Option.some.inj hrow'
        rw [hpackaged] at hstatus
        cases hstatus
      · exact Tx.wp_of_ok hraises hx
    · refine Tx.wp_mono (Tx.wp_and (completeDelivery_delivers hrow₁)
        (completeDelivery_returns hrow₁ rfl (h hpackaged))) (fun _ _ h => h.1) fun _ _ h => h.2.elim
  · refine iff_of_true ?_ fun h => absurd h hpackaged
    refine Tx.wp_bind.2 ((Tx.wp_iff_of_ok (Tx.when_of_not hpackaged)).2 ?_)
    refine Tx.wp_mono (completeDelivery_delivers hrow) (fun _ _ h => h) fun _ w' hdb => ?_
    rw [hdb]
    exact ⟨⟨order, hrow, rfl⟩, rfl, rfl⟩

end Completion

/-- A packaged order that is paid on delivery, or not. -/
def packagedOrder (paymentMethod : PaymentMethod) (paymentStatus : OrderPaymentStatus) : Order where
  orderNumber := "1"
  user := none
  email := ""
  status := .packaged
  paymentStatus
  paymentMethod
  deliveryType := .pickup
  deliveryFee := 0
  subtotal := 200000
  total := 200000
  createdAt := 0

/-- A shop with one order. -/
def counterOf (order : Order) : Shop where
  stock := { products := fun _ => { name := "Loaf", price := 200000, availabilityStatus := .available } }
  orders := Table.empty.insert order

theorem completesOrNothing_iff_cash : CompletesOrNothing 0 (packagedOrder .cod .cashReceived) "staff"
    ⟨counterOf (packagedOrder .cod .cashReceived), []⟩ :=
  (completesOrNothing_iff rfl).2 (by decide)

/-- A COD order whose cash has not been recorded leaves the pickup screen, and is not delivered. -/
theorem not_completesOrNothing_cod : ¬∀ (o : OrderId) (order : Order) (actor : String)
    (w : World Shop (List Observation)), w.db.orders.rows o = some order →
      isOnKitchenScreen order ∨ isOnPickupScreen order → CompletesOrNothing o order actor w := by
  intro h
  have hall := h 0 (packagedOrder .cod .codConfirmed) "staff"
    ⟨counterOf (packagedOrder .cod .codConfirmed), []⟩ rfl (by decide)
  have hraises : (completePickupOrder 0 .packaged "staff"
      ⟨counterOf (packagedOrder .cod .codConfirmed), []⟩).1.isOk = false := by decide +kernel
  have hstatus : ((completePickupOrder 0 .packaged "staff"
      ⟨counterOf (packagedOrder .cod .codConfirmed), []⟩).2.db.orders.rows 0).map (·.status) =
        some .outForDelivery := by decide +kernel
  rcases hx : completePickupOrder 0 .packaged "staff"
    ⟨counterOf (packagedOrder .cod .codConfirmed), []⟩ with ⟨e | a, w'⟩
  · obtain ⟨⟨order', hrow, hsame⟩, -⟩ := Tx.wp_of_error hall hx
    rw [hx] at hstatus
    dsimp only at hstatus
    rw [hrow, Option.map_some] at hstatus
    exact absurd (hsame.symm.trans (Option.some.inj hstatus)) (by decide)
  · rw [hx] at hraises
    cases hraises

end Crumbs
