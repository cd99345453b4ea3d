import Crumbs.Db.Abstraction
import Crumbs.Lifecycle.Changes

/-!
# What the Order Services Do to the Books

Every operation on an order that returns has made one change, or none.

## Contents

- `yields_lockOrder`, `yields_rebooks`, …: reads and writes of the shop, on the books
- `transition_yields`: one status change
- `cancel_made`, `processRefund_made`, …: the operations
-/

namespace Crumbs

open Crumbs.Db

variable {α : Type} {b : Books}

/-! ## Reads and writes -/

section Rules

variable {Q : α → Books → Prop} {o : OrderId} {p : PaymentId}

theorem yields_getRow {model : String} {row : Option α} (h : ∀ a, row = some a → Q a b) :
    (getRow model row : ShopTx α).Yields Shop.books b Q := by
  cases row with
  | none => exact Tx.yields_raise _
  | some a => exact Tx.yields_pure (h a rfl)

theorem yields_lockOrder {f : Order → ShopTx α}
    (h : ∀ order, b.orders.rows o = some order → (f order).Yields Shop.books b Q) :
    (lockOrder o >>= f).Yields Shop.books b Q := by
  refine Tx.Yields.bind (P := fun order b' => b' = b ∧ b.orders.rows o = some order) ?_ ?_
  · refine Tx.yields_getDb fun shop hshop => yields_getRow fun order hrow => ⟨rfl, ?_⟩
    rw [← hshop]
    exact hrow
  · rintro order _ ⟨rfl, hrow⟩
    exact h order hrow

theorem yields_lockPayment {f : Payment → ShopTx α}
    (h : ∀ payment, b.payments.rows p = some payment → (f payment).Yields Shop.books b Q) :
    (lockPayment p >>= f).Yields Shop.books b Q := by
  refine Tx.Yields.bind (P := fun payment b' => b' = b ∧ b.payments.rows p = some payment) ?_ ?_
  · refine Tx.yields_getDb fun shop hshop => yields_getRow fun payment hrow => ⟨rfl, ?_⟩
    rw [← hshop]
    exact hrow
  · rintro payment _ ⟨rfl, hrow⟩
    exact h payment hrow

/-- Inventory work that leaves the goods alone does to the books what it does to the
    reservations. -/
theorem yields_reservations {β : Type} {x : StockTx β} {P : β → Holds → Holds → Prop}
    {f : β → ShopTx α}
    (hx : ∀ w, x.Ensures (fun a w' => P a w.db.reservations w'.db.reservations ∧
      w.db.SameGoods w'.db) w)
    (h : ∀ a holds, P a b.holds holds → (f a).Yields Shop.books { b with holds } Q) :
    (ShopTx.onStock x >>= f).Yields Shop.books b Q := by
  refine Tx.Yields.bind (P := fun a b' => ∃ holds, P a b.holds holds ∧ b' = { b with holds }) ?_ ?_
  · rintro w rfl
    refine Tx.wp_zoom.2 ((hx (stockWorld w)).mono fun a w' h' => ?_)
    refine ⟨w'.db.reservations, h'.1, ?_⟩
    change Shop.books { w.db with stock := w'.db } = _
    simp only [Shop.books, h'.2.price, h'.2.tracks]
    rfl
  · rintro a _ ⟨holds, hP, rfl⟩
    exact h a holds hP

theorem yields_rebooks {β : Type} {x : StockTx β} {g : Holds → Holds} {f : β → ShopTx α}
    (hx : Rebooks x g) (h : ∀ a, (f a).Yields Shop.books (b.updateHolds g) Q) :
    (ShopTx.onStock x >>= f).Yields Shop.books b Q :=
  yields_reservations (P := fun _ holds holds' => holds' = g holds) hx fun a _ hholds =>
    hholds ▸ h a

/-- Looking things up changes nothing in the books. -/
theorem yields_looks {β : Type} {x : StockTx β} {f : β → ShopTx α} (hx : OnlyLooks x)
    (h : ∀ a, (f a).Yields Shop.books b Q) : (ShopTx.onStock x >>= f).Yields Shop.books b Q :=
  yields_reservations (P := fun _ holds holds' => holds' = holds)
    (fun w => Tx.wp_mono (hx w) (fun _ _ h' => ⟨h'.1.reservations, .touch h'.1⟩)
      fun _ _ _ => trivial) fun a _ hholds => hholds ▸ h a

theorem yields_updateOrder {g : Order → Order} {f : Unit → ShopTx α}
    (h : (f ()).Yields Shop.books (b.updateOrder o g) Q) :
    (Tx.modifyDb (fun shop => shop.updateOrder o g) >>= f).Yields Shop.books b Q :=
  Tx.yields_write (g := (·.updateOrder o g)) (fun _ => rfl) h

theorem yields_updatePayment {g : Payment → Payment} {f : Unit → ShopTx α}
    (h : (f ()).Yields Shop.books (b.updatePayment p g) Q) :
    (Tx.modifyDb (fun shop => shop.updatePayment p g) >>= f).Yields Shop.books b Q :=
  Tx.yields_write (g := (·.updatePayment p g)) (fun _ => rfl) h

theorem yields_addStatusLog {log : OrderStatusLog} {f : Unit → ShopTx α}
    (h : (f ()).Yields Shop.books b Q) :
    (Tx.modifyDb (fun shop => shop.addStatusLog log) >>= f).Yields Shop.books b Q :=
  Tx.yields_write (g := id) (fun _ => rfl) h

theorem yields_setPaymentStatus {order : Order} {paymentStatus : OrderPaymentStatus}
    {f : Order → ShopTx α}
    (h : (f { order with paymentStatus }).Yields Shop.books
      (b.updateOrder o ({ · with paymentStatus })) Q) :
    (setPaymentStatus o order paymentStatus >>= f).Yields Shop.books b Q := by
  refine Tx.Yields.bind (P := fun order' b' => order' = { order with paymentStatus } ∧
    b' = b.updateOrder o ({ · with paymentStatus })) ?_ ?_
  · exact yields_updateOrder (Tx.yields_pure ⟨rfl, rfl⟩)
  · rintro _ _ ⟨rfl, rfl⟩
    exact h

end Rules

/-! ## One status change -/

/-- The order after a change of status, and the books. -/
structure Transitioned (o : OrderId) (newStatus : OrderStatus) (b : Books) (order : Order)
    (b' : Books) : Prop where
  row : ∃ previous, b.orders.rows o = some previous ∧ canTransition previous.status newStatus ∧
    order = { previous with status := newStatus }
  books : b' = b.updateOrder o ({ · with status := newStatus })

namespace OrderService

variable {o : OrderId} {newStatus : OrderStatus} {env : Env} {note reason actor : String}

theorem transition_yields : (transition o newStatus note actor).Yields Shop.books b
    (Transitioned o newStatus b) := by
  refine .atomic (yields_lockOrder fun order hrow => ?_)
  refine Tx.yields_check fun hcan => .ite (fun hsame => ?_) fun _ => ?_
  · refine Tx.yields_pure ⟨⟨order, hrow, not_not.1 hcan, by rw [← hsame]⟩, ?_⟩
    have horders : b.orders.modify o ({ · with status := newStatus }) = b.orders :=
      Table.modify_eq_self fun order' hrow' => by
        obtain rfl : order = order' := Option.some.inj (hrow.symm.trans hrow')
        rw [← hsame]
    rw [Books.updateOrder, horders]
  · refine Tx.yields_write (g := (·.updateOrder o ({ · with status := newStatus })))
      (fun _ => rfl) (yields_addStatusLog (Tx.yields_pure ⟨?_, rfl⟩))
    exact ⟨order, hrow, not_not.1 hcan, rfl⟩

theorem transition_made : (transition o newStatus note actor).Yields Shop.books b
    fun _ => Made [.transition o newStatus] b := by
  refine transition_yields.mono ?_
  rintro _ _ ⟨⟨previous, hrow, hcan, -⟩, rfl⟩
  rcases hcan with hsame | hedge
  · refine .inl (Books.updateOrder_eq_self fun order horder => ?_)
    obtain rfl : previous = order := Option.some.inj (hrow.symm.trans horder)
    rw [← hsame]
  · exact .single ⟨previous, hrow, hedge⟩ rfl

/-- A status change after which there is nothing more to do. -/
theorem transition_last {order : Order} {Q : Order → Books → Prop}
    (h : ∀ previous, b.orders.rows o = some previous → canTransition previous.status newStatus →
      Q order (b.updateOrder o ({ · with status := newStatus }))) :
    (transition o newStatus note actor >>= fun _ => pure order).Yields Shop.books b Q := by
  refine transition_yields.bind ?_
  rintro _ _ ⟨⟨previous, hrow, hcan, -⟩, rfl⟩
  exact Tx.yields_pure (h previous hrow hcan)

/-! ## The operations -/

theorem failPendingPayment_yields {order : Order} (hrow : b.orders.rows o = some order) :
    (failPendingPayment o order).Yields Shop.books b fun _ b' => b' = b.updateOrder o fun order =>
      { order with paymentStatus :=
          if order.paymentStatus = .pendingPayment then .failed else order.paymentStatus } := by
  have hthe {order' : Order} (hrow' : b.orders.rows o = some order') : order' = order :=
    Option.some.inj (hrow'.symm.trans hrow)
  refine .ite (fun hpending => ?_) fun hpending => ?_
  · refine Tx.Yields.last (yields_setPaymentStatus (Tx.yields_pure ?_))
    refine Books.updateOrder_congr fun order' hrow' => ?_
    rw [if_pos (hthe hrow' ▸ hpending)]
  · refine Tx.yields_pure (Books.updateOrder_eq_self fun order' hrow' => ?_).symm
    rw [if_neg (hthe hrow' ▸ hpending)]

/-- A delivered order cannot be cancelled. -/
theorem not_delivered_of_cancellable {status : OrderStatus} (h : canTransition status .cancelled) :
    status ≠ .delivered := by
  rintro rfl
  revert h
  decide

theorem cancel_made : (cancel o reason actor).Yields Shop.books b
    fun _ => Made [.cancel o] b := by
  refine .atomic (yields_lockOrder fun order hrow => .ite (fun _ => Tx.yields_pure (.refl _ _))
    fun hopen => yields_rebooks (releaseReservations_rebooks o)
      fun _ => ?_)
  refine (failPendingPayment_yields (b := b.updateHolds (Holds.release o)) hrow).bind ?_
  rintro _ _ rfl
  refine transition_last fun previous hprevious hcan => .single ⟨order, hrow, hopen, ?_⟩ ?_
  · obtain rfl := Books.rows_updateOrder hprevious hrow
    exact not_delivered_of_cancellable hcan
  · rw [Books.updateOrder_updateOrder]
    rfl

/-- Nothing happens if the order is paid or closed. -/
theorem markPaymentFailed_made : (markPaymentFailed o reason actor).Yields Shop.books b
    fun _ => MadeUnless (b.OrderIs o fun order =>
      order.paymentStatus.isSuccessful ∨ order.status.isClosed) (.failOrder o) b := by
  refine .atomic (yields_lockOrder fun order hrow => .ite (fun hpaid => ?_) fun hunpaid =>
    .ite (fun hclosed => ?_) fun hopen => ?_)
  · exact Tx.yields_pure (.inl ⟨rfl, order, hrow, .inl hpaid⟩)
  · exact Tx.yields_pure (.inl ⟨rfl, order, hrow, .inr hclosed⟩)
  refine yields_rebooks (releaseReservations_rebooks o) fun _ => ?_
  refine yields_setPaymentStatus (transition_last fun previous hprevious hcan =>
    .inr ⟨⟨order, hrow, hunpaid, hopen, ?_⟩, ?_⟩)
  · obtain rfl := Books.rows_updateOrder hprevious hrow
    exact not_delivered_of_cancellable hcan
  · rw [Books.updateOrder_updateOrder]
    rfl

theorem requestRefund_made : (requestRefund o reason actor).Yields Shop.books b
    fun _ => Made [.requestRefund o] b := by
  refine .atomic (yields_lockOrder fun order hrow => yields_setPaymentStatus ?_)
  exact yields_addStatusLog (Tx.yields_pure (.single ⟨order, hrow, trivial⟩ rfl))

theorem refundNewest_yields : (PaymentService.processRefund o).Yields Shop.books b
    fun _ b' => b' = Change.refundNewest b o := by
  refine .atomic (yields_lockOrder fun _ _ => Tx.yields_getDb ?_)
  rintro shop rfl
  have hnewest : newest (shop.paymentsWhere fun p => p.order = o) =
      shop.books.newestPayment o := rfl
  rw [hnewest, Change.refundNewest]
  cases shop.books.newestPayment o with
  | none => exact Tx.yields_pure rfl
  | some e =>
    refine .when (fun hsucceeded => ?_) fun hsucceeded => ?_
    · exact Tx.Yields.last (yields_updatePayment (Tx.yields_pure (if_pos hsucceeded).symm))
    · exact (if_neg hsucceeded).symm

theorem processRefund_made : (processRefund o reason actor).Yields Shop.books b
    fun _ => MadeUnless (b.OrderIs o fun order => order.status = .refunded) (.refund o) b := by
  refine .atomic (yields_lockOrder fun order hrow => .ite (fun hrefunded => ?_) fun hne => ?_)
  · exact Tx.yields_pure (.inl ⟨rfl, order, hrow, hrefunded⟩)
  refine refundNewest_yields.bind ?_
  rintro _ _ rfl
  refine yields_rebooks (releaseReservations_rebooks o) fun _ => ?_
  refine yields_setPaymentStatus (transition_last fun previous hprevious hcan =>
    .inr ⟨⟨order, hrow, ?_⟩, ?_⟩)
  · obtain rfl := Books.rows_updateOrder hprevious
      ((congrArg (·.rows o) (Change.orders_refundNewest b o)).trans hrow)
    exact hcan.resolve_left hne
  · rw [Books.updateOrder_updateOrder]
    rfl

theorem completeDelivery_made : (completeDelivery o actor).Yields Shop.books b
    fun _ => Made [.deliver o, .deliverCod o] b := by
  refine .atomic (yields_lockOrder fun order hrow => ?_)
  by_cases hcod : order.isCod
  · refine Tx.Yields.bind (P := fun _ b' => b' = b ∧ order.paymentStatus = .cashReceived) ?_ ?_
    · rw [settleDelivery, if_pos hcod]
      exact Tx.Yields.last (Tx.yields_check fun hcash => Tx.yields_pure ⟨rfl, not_not.1 hcash⟩)
    · rintro _ _ ⟨rfl, hcash⟩
      refine transition_yields.mono ?_
      rintro _ _ ⟨⟨previous, hprevious, hcan, -⟩, rfl⟩
      obtain rfl := Option.some.inj (hrow.symm.trans hprevious)
      exact .inr ⟨.deliverCod o, by simp, ⟨order, hrow, hcod, hcash, hcan⟩, rfl⟩
  · rw [settleDelivery, if_neg hcod]
    refine yields_rebooks (fulfillReservations_rebooks o) fun _ => ?_
    refine transition_yields.mono ?_
    rintro _ _ ⟨⟨previous, hprevious, hcan, -⟩, rfl⟩
    obtain rfl := Option.some.inj (hrow.symm.trans hprevious)
    exact .inr ⟨.deliver o, by simp, ⟨order, hrow, hcod, hcan⟩, rfl⟩

theorem confirmStock_made : (confirmStock o).Yields Shop.books b fun _ => Made [.confirm o] b :=
  .atomic (.last (yields_rebooks (confirmReservations_rebooks o)
    fun _ => Tx.yields_pure (.single trivial rfl)))

theorem releaseStock_made : (releaseStock o).Yields Shop.books b fun _ => Made [.release o] b :=
  .atomic (.last (yields_rebooks (releaseReservations_rebooks o)
    fun _ => Tx.yields_pure (.single trivial rfl)))

/-- Nothing happens if the order is paid and being prepared. -/
theorem finalizeCounterPayment_made : (finalizeCounterPayment o actor).Yields Shop.books b
    fun _ => MadeUnless (b.OrderIs o fun order =>
      order.paymentStatus = .paid ∧ order.status = .preparing) (.payAtCounter o) b := by
  refine .atomic (yields_lockOrder fun order hrow => .ite (fun hdone => ?_) fun hdue => ?_)
  · exact Tx.yields_pure (.inl ⟨rfl, order, hrow, hdone⟩)
  refine yields_setPaymentStatus (yields_rebooks (confirmReservations_rebooks o) fun _ =>
    transition_yields.mono ?_)
  rintro _ _ ⟨⟨previous, hprevious, hcan, -⟩, rfl⟩
  obtain rfl := Books.rows_updateOrder hprevious hrow
  refine .inr ⟨⟨order, hrow, hdue, hcan⟩, ?_⟩
  rw [Books.updateHolds_updateOrder, Books.updateOrder_updateOrder]
  rfl

/-- Nothing happens if the order is paid and past its payment. -/
theorem finalizeOnlinePayment_made : (finalizeOnlinePayment o).Yields Shop.books b
    fun _ => MadeUnless (b.OrderIs o fun order =>
      order.paymentStatus = .paid ∧ isPastPayment order.status) (.payOnline o) b := by
  refine .atomic (yields_lockOrder fun order hrow => .ite (fun hdone => ?_) fun hdue => ?_)
  · exact Tx.yields_pure (.inl ⟨rfl, order, hrow, hdone⟩)
  refine yields_setPaymentStatus (yields_rebooks (confirmReservations_rebooks o) fun _ =>
    transition_yields.bind ?_)
  rintro _ _ ⟨⟨previous, hprevious, hcan, -⟩, rfl⟩
  obtain rfl := Books.rows_updateOrder hprevious hrow
  refine transition_yields.mono ?_
  rintro _ _ ⟨-, rfl⟩
  refine .inr ⟨⟨order, hrow, hdue, ?_⟩, ?_⟩
  · revert hcan
    change canTransition order.status .paid → _
    cases order.status <;> decide
  · rw [Books.updateHolds_updateOrder, Books.updateOrder_updateOrder, Books.updateOrder_updateOrder]
    rfl

theorem confirmCod_made : (confirmCod o actor).Yields Shop.books b
    fun _ => Made [.confirmCod o] b := by
  refine .atomic (yields_lockOrder fun order hrow => Tx.yields_check fun hpending => ?_)
  refine yields_setPaymentStatus (yields_addStatusLog (Tx.yields_pure ?_))
  exact .single ⟨order, hrow, not_not.1 hpending⟩ rfl

theorem receiveCash_yields {order : Order} (hrow : b.orders.rows o = some order) :
    (receiveCash o order).Yields Shop.books b fun order' b' =>
      order'.status = order.status ∧
        b' = b.updateOrder o ({ · with paymentStatus := .cashReceived }) := by
  refine .ite (fun _ => ?_) fun hcash => ?_
  · exact Tx.Yields.last (yields_setPaymentStatus (Tx.yields_pure ⟨rfl, rfl⟩))
  · refine Tx.yields_pure ⟨rfl, (Books.updateOrder_eq_self fun order' hrow' => ?_).symm⟩
    obtain rfl := Option.some.inj (hrow.symm.trans hrow')
    rw [← not_not.1 hcash]

theorem recordCashReceived_made : (recordCashReceived o actor).Yields Shop.books b
    fun _ b' => (Change.receiveCash o).Guard b ∧ b' = (Change.receiveCash o).apply b := by
  refine .atomic (yields_lockOrder fun order hrow => ?_)
  refine yields_rebooks (confirmReservations_rebooks o) fun _ => ?_
  refine yields_rebooks (fulfillReservations_rebooks o) fun _ => ?_
  refine (receiveCash_yields (b := (b.updateHolds (Holds.confirm o)).updateHolds
    (Holds.fulfill o)) hrow).bind ?_
  rintro order' _ ⟨hstatus, rfl⟩
  refine .ite (fun _ => transition_yields.mono ?_) fun hdelivered => Tx.yields_pure ⟨?_, ?_⟩
  · rintro _ _ ⟨⟨previous, hprevious, hcan, -⟩, rfl⟩
    obtain rfl := Books.rows_updateOrder hprevious hrow
    exact ⟨⟨order, hrow, hcan⟩, Books.updateOrder_updateOrder⟩
  · exact ⟨order, hrow, .inl (hstatus.symm.trans (not_not.1 hdelivered))⟩
  · refine Books.updateOrder_congr fun order₁ hrow₁ => ?_
    obtain rfl := Option.some.inj (hrow.symm.trans hrow₁)
    rw [Order.cashReceived, ← hstatus.symm.trans (not_not.1 hdelivered)]

end OrderService

end Crumbs
