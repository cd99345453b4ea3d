import Crumbs.Inventory.Holds
import Crumbs.Orders.Emitting

/-!
# What the Messages of an Order Operation Tell

An operation that saves a payment status goes on to change the status of the order, and that may be
refused. The message about the payment status is out by then.

## Contents

- `transition_clean`, `transition_sure`: one change of a status
- `MayFollow`: the change of status that follows a payment status is no trouble
- `finalizeOnlinePayment_clean`, …: the operations that raise have sent nothing
-/

namespace Crumbs

open Crumbs.Db

namespace Emitting

open EventTx (onShop)

variable {env : EventEnv} {w : World EventDatabase EventExt} {o : OrderId} {order : Order}
  {α β : Type}

/-! ## Statements -/

/-- Nothing is sent, and what there is to tell about the orders stays the same. -/
structure Aside (w w' : World EventDatabase EventExt) : Prop where
  silent : orderOutbox.Silent w w'
  orders : w'.db.shop.orders = w.db.shop.orders
  announces : ∀ o order, w'.db.Announces o order ↔ w.db.Announces o order

theorem aside_put {s : World Shop (List Observation)} (hs : s.db.orders = w.db.shop.orders) :
    Aside w (shopView.put s w) where
  silent := ⟨rfl, fun _ hm => hm⟩
  orders := hs
  announces o order := by
    rw [EventDatabase.Announces, EventDatabase.Announces,
      show (shopView.put s w).db.shop.orders = w.db.shop.orders from hs]
    rfl

section Statements

variable (h : env.fault = none)
include h

theorem wp_onShop {x : ShopTx α} {Q : α → World EventDatabase EventExt → Prop}
    {E : Exn → World EventDatabase EventExt → Prop} : (onShop env x).wp Q E w ↔
      x.wp (fun a w' => Q a (shopView.put w' w)) (fun e w' => E e (shopView.put w' w))
        (shopView.get w) := by
  rw [onShop_eq h]
  exact Tx.wp_within

/-- Work beside the orders, which may raise. -/
theorem clean_aside {x : ShopTx α} {f : α → EventTx β} {P : α → Prop}
    (hx : x.Ensures (fun a s => P a ∧ s.db.orders = w.db.shop.orders) (shopView.get w))
    (hf : ∀ a w', P a → Aside w w' → orderOutbox.Clean (f a) w') :
    orderOutbox.Clean (onShop env x >>= f) w := by
  refine Outbox.Clean.silent_bind ((wp_onShop h).2 (Tx.wp_mono hx (fun a s hs => ?_) ?_))
  · exact ⟨(aside_put hs.2).silent, hf a _ hs.1 (aside_put hs.2)⟩
  · exact fun _ _ _ => ⟨rfl, fun _ hm => hm⟩

/-- Work beside the orders that does not raise. -/
theorem sure_aside {x : ShopTx α} {f : α → EventTx β}
    (hx : x.wp (fun _ s => s.db.orders = w.db.shop.orders) (fun _ _ => False) (shopView.get w))
    (hf : ∀ a w', Aside w w' → orderOutbox.Sure (f a) w') :
    orderOutbox.Sure (onShop env x >>= f) w := by
  refine Outbox.Sure.bind ((wp_onShop h).2 (Tx.wp_mono hx (fun a s hs => ?_) fun _ _ => id))
  exact ⟨(aside_put hs).silent.accounts, hf a _ (aside_put hs)⟩

/-- The order is locked first; without one nothing happens. -/
theorem clean_lockOrder {f : Order → EventTx β}
    (hf : ∀ order, w.db.shop.orders.rows o = some order → orderOutbox.Clean (f order) w) :
    orderOutbox.Clean (onShop env (lockOrder o) >>= f) w := by
  refine Outbox.Clean.silent_bind ((wp_onShop h).2 (wp_lockOrder.2 ⟨fun order hrow => ?_, ?_⟩))
  · exact ⟨⟨rfl, fun _ hm => hm⟩, hf order hrow⟩
  · exact fun _ => ⟨rfl, fun _ hm => hm⟩

theorem sure_lockOrder (hrow : w.db.shop.orders.rows o = some order) {f : Order → EventTx β}
    (hf : orderOutbox.Sure (f order) w) : orderOutbox.Sure (onShop env (lockOrder o) >>= f) w := by
  refine Outbox.Sure.bind ((wp_onShop h).2 (wp_lockOrder.2 ⟨fun order' hrow' => ?_, ?_⟩))
  · obtain rfl := Option.some.inj (hrow.symm.trans hrow')
    exact ⟨⟨fun _ hm => .inl hm, fun _ hm => hm⟩, hf⟩
  · exact fun hnone => nomatch hrow.symm.trans hnone

/-- A check of the operation, which may raise. -/
theorem clean_check {c : Prop} [Decidable c] {e : Exn} {f : Unit → EventTx β}
    (hf : ¬c → orderOutbox.Clean (f ()) w) :
    orderOutbox.Clean (onShop env (Tx.when c (Tx.raise e)) >>= f) w := by
  refine Outbox.Clean.silent_bind ((wp_onShop h).2 (Tx.wp_when.2 ⟨fun _ => ?_, fun hc => ?_⟩))
  · exact ⟨rfl, fun _ hm => hm⟩
  · exact ⟨⟨rfl, fun _ hm => hm⟩, hf hc⟩

/-- Stock work is beside the orders. -/
theorem clean_onStock {x : StockTx Unit} {f : Unit → EventTx β}
    (hf : ∀ w', Aside w w' → orderOutbox.Clean (f ()) w') :
    orderOutbox.Clean (onShop env (ShopTx.onStock x) >>= f) w :=
  clean_aside h (P := fun _ => True)
    (Tx.wp_zoom.2 ((Tx.wp_iff _).2 ⟨fun _ _ _ => ⟨trivial, rfl⟩, fun _ _ _ => trivial⟩))
    fun _ w' _ => hf w'

theorem sure_onStock {x : StockTx Unit} (hreturns : Returns x) {f : Unit → EventTx β}
    (hf : ∀ w', Aside w w' → orderOutbox.Sure (f ()) w') :
    orderOutbox.Sure (onShop env (ShopTx.onStock x) >>= f) w :=
  sure_aside h (Tx.wp_zoom.2 (Tx.wp_mono (hreturns _) (fun _ _ _ => rfl) fun _ _ => id))
    fun _ w' => hf w'

/-- A save accounts for its message, and sends none if there is no news. -/
theorem wp_saveOrder (o : OrderId) (order : Order) (f : Shop → Shop) :
    (saveOrder env o order f).wp (fun _ w' => orderOutbox.Accounts w w' ∧
      w'.db.shop = f w.db.shop ∧ (¬w.db.Announces o order → orderOutbox.Silent w w'))
      (fun _ _ => False) w := by
  obtain ⟨change, tasks, queue, hsave, hqueue⟩ := saveOrder_cases (w := w) h o order f
  refine (Tx.wp_iff_of_ok hsave).2 ⟨⟨fun m hm => ?_, fun m hm => ?_⟩, rfl, fun hnews => ?_⟩
  · change m ∈ queue at hm
    rcases hqueue with rfl | ⟨-, m', hchange, rfl⟩
    · exact .inl hm
    · rcases List.mem_append.1 hm with hold | hnew
      · exact .inl hold
      · obtain rfl := List.mem_singleton.1 hnew
        exact .inr (List.mem_append_right _ (hchange ▸ List.mem_singleton_self _))
  · exact List.mem_append_left _ hm
  · exact ⟨hqueue.resolve_right fun h => hnews h.1, fun m hm => List.mem_append_left _ hm⟩

theorem wp_setPaymentStatus (o : OrderId) (order : Order) (paymentStatus : OrderPaymentStatus) :
    (setPaymentStatus env o order paymentStatus).wp (fun order' w' =>
      orderOutbox.Accounts w w' ∧ order' = { order with paymentStatus } ∧
        w'.db.shop = w.db.shop.updateOrder o ({ · with paymentStatus }) ∧
        (¬w.db.Announces o { order with paymentStatus } → orderOutbox.Silent w w'))
      (fun _ _ => False) w :=
  Tx.wp_seq (wp_saveOrder h o _ _) (fun _ _ h' => ⟨h'.1, rfl, h'.2⟩) fun _ _ => id

omit h in
theorem rows_updateOrder {shop shop' : Shop} {f : Order → Order}
    (h : shop' = shop.updateOrder o f) (hrow : shop.orders.rows o = some order) :
    shop'.orders.rows o = some (f order) := by
  rw [h]
  exact (Table.rows_modify_self ..).trans (congrArg (Option.map f) hrow)

end Statements

/-! ## One change of a status -/

section Transition

variable (h : env.fault = none)
include h

/-- The save of a status and its log. -/
theorem wp_saveStatus (hrow : w.db.shop.orders.rows o = some order) (newStatus : OrderStatus)
    (log : OrderStatusLog) : (do
      saveOrder env o { order with status := newStatus } fun shop => shop.setStatus o newStatus
      addStatusLog env log
      pure { order with status := newStatus }).wp (fun _ w' => orderOutbox.Accounts w w' ∧
        w'.db.shop.orders.rows o = some { order with status := newStatus })
      (fun _ _ => False) w := by
  refine Tx.wp_seq (wp_saveOrder h o _ _) (fun _ w' h' => ?_) fun _ _ => id
  refine Tx.wp_bind.2 ((wp_onShop h).2 ⟨⟨h'.1.sent, h'.1.backs⟩, ?_⟩)
  change w'.db.shop.orders.rows o = _
  rw [h'.2.1]
  exact (Table.rows_modify_self ..).trans (congrArg (Option.map _) hrow)

/-- A status is checked before it is saved, and after that nothing raises. -/
theorem transition_clean (newStatus : OrderStatus) (note actor : String) :
    orderOutbox.Clean (transition env o newStatus note actor) w := by
  refine .atomic (clean_lockOrder h fun order hrow => ?_)
  refine clean_check h fun _ => .ite (fun _ => Outbox.clean_pure _) fun _ => Outbox.Sure.clean ?_
  exact Tx.wp_mono (wp_saveStatus h hrow newStatus _) (fun _ _ h' => h'.1) fun _ _ => id

/-- An allowed change of a status does not raise. -/
theorem wp_transition (hrow : w.db.shop.orders.rows o = some order) {newStatus : OrderStatus}
    (hcan : canTransition order.status newStatus) (note actor : String) :
    (transition env o newStatus note actor).wp (fun _ w' => orderOutbox.Accounts w w' ∧
      w'.db.shop.orders.rows o = some { order with status := newStatus })
      (fun _ _ => False) w := by
  refine Tx.wp_atomic.2 (Tx.wp_bind.2 ((wp_onShop h).2 (wp_lockOrder.2 ⟨fun order' hrow' => ?_, ?_⟩)))
  · obtain rfl := Option.some.inj (hrow.symm.trans hrow')
    refine Tx.wp_bind.2 ((wp_onShop h).2 (Tx.wp_when.2 ⟨fun hnot => (hnot hcan).elim, fun _ => ?_⟩))
    refine Tx.wp_ite.2 ⟨fun hsame => ?_, fun _ => wp_saveStatus h hrow newStatus _⟩
    subst hsame
    exact ⟨⟨fun _ hm => .inl hm, fun _ hm => hm⟩, hrow⟩
  · exact fun hnone => nomatch hrow.symm.trans hnone

/-- A change that is not allowed raises before it sends anything. -/
theorem clean_transition_bind (hrow : w.db.shop.orders.rows o = some order)
    {newStatus : OrderStatus} {note actor : String} {f : Order → EventTx β}
    (hf : ∀ a w', w'.db.shop.orders.rows o = some { order with status := newStatus } →
      orderOutbox.Sure (f a) w') :
    orderOutbox.Clean (transition env o newStatus note actor >>= f) w := by
  refine Outbox.Clean.bind ?_
  by_cases hcan : canTransition order.status newStatus
  · exact Tx.wp_mono (wp_transition h hrow hcan note actor) (fun a w' h' => ⟨h'.1, hf a w' h'.2⟩)
      fun _ _ => False.elim
  · refine Tx.wp_atomic.2 (Tx.wp_bind.2 ((wp_onShop h).2 (wp_lockOrder.2 ⟨fun order' hrow' => ?_, ?_⟩)))
    · obtain rfl := Option.some.inj (hrow.symm.trans hrow')
      exact Tx.wp_bind.2 ((wp_onShop h).2 (Tx.wp_when.2 ⟨fun _ => rfl, fun h' => (h' hcan).elim⟩))
    · exact fun _ => rfl

theorem transition_sure (hrow : w.db.shop.orders.rows o = some order) {newStatus : OrderStatus}
    (hcan : canTransition order.status newStatus) (note actor : String) :
    orderOutbox.Sure (transition env o newStatus note actor) w :=
  Tx.wp_mono (wp_transition h hrow hcan note actor) (fun _ _ h' => h'.1) fun _ _ => id

end Transition

/-! ## A payment status, and the status that follows it -/

/-- The order may change to the status, or there is nothing to tell about the payment status. -/
def MayFollow (db : EventDatabase) (o : OrderId) (order : Order)
    (paymentStatus : OrderPaymentStatus) (newStatus : OrderStatus) : Prop :=
  canTransition order.status newStatus ∨ ¬db.Announces o { order with paymentStatus }

instance (db : EventDatabase) (o : OrderId) (order : Order) (paymentStatus : OrderPaymentStatus)
    (newStatus : OrderStatus) : Decidable (MayFollow db o order paymentStatus newStatus) :=
  inferInstanceAs (Decidable (_ ∨ _))

theorem Aside.mayFollow {w' : World EventDatabase EventExt} (haside : Aside w w')
    {paymentStatus : OrderPaymentStatus} {newStatus : OrderStatus}
    (h : MayFollow w.db o order paymentStatus newStatus) :
    MayFollow w'.db o order paymentStatus newStatus :=
  h.imp_right fun hnews hnews' => hnews ((haside.announces o _).1 hnews')

theorem Aside.row {w' : World EventDatabase EventExt} (haside : Aside w w')
    (h : w.db.shop.orders.rows o = some order) : w'.db.shop.orders.rows o = some order := by
  rw [haside.orders, h]

section Operations

variable (h : env.fault = none)
include h

/-- Either nothing raises after the payment status is saved, or nothing is sent with it. -/
theorem clean_setPaymentStatus (hrow : w.db.shop.orders.rows o = some order)
    {paymentStatus : OrderPaymentStatus} {newStatus : OrderStatus}
    (hmay : MayFollow w.db o order paymentStatus newStatus) {f : Order → EventTx β}
    (hsure : ∀ w', canTransition order.status newStatus →
      w'.db.shop.orders.rows o = some { order with paymentStatus } →
      orderOutbox.Sure (f { order with paymentStatus }) w')
    (hclean : ∀ w', w'.db.shop.orders.rows o = some { order with paymentStatus } →
      orderOutbox.Clean (f { order with paymentStatus }) w') :
    orderOutbox.Clean (setPaymentStatus env o order paymentStatus >>= f) w := by
  have hsave := wp_setPaymentStatus (w := w) h o order paymentStatus
  rcases hmay with hcan | hnews
  · refine Outbox.Clean.bind (Tx.wp_mono hsave ?_ fun _ _ => False.elim)
    rintro _ w' ⟨haccounts, rfl, hshop, -⟩
    exact ⟨haccounts, hsure w' hcan (rows_updateOrder hshop hrow)⟩
  · refine Outbox.Clean.silent_bind (Tx.wp_mono hsave ?_ fun _ _ => False.elim)
    rintro _ w' ⟨-, rfl, hshop, hsilent⟩
    exact ⟨hsilent hnews, hclean w' (rows_updateOrder hshop hrow)⟩

/-- The same with a change of the status right after it. -/
theorem clean_setPaymentStatus_transition (hrow : w.db.shop.orders.rows o = some order)
    {paymentStatus : OrderPaymentStatus} {newStatus : OrderStatus}
    (hmay : MayFollow w.db o order paymentStatus newStatus) (note actor : String) :
    orderOutbox.Clean (do
      let order ← setPaymentStatus env o order paymentStatus
      let _ ← transition env o newStatus note actor
      pure order) w := by
  refine clean_setPaymentStatus h hrow hmay (fun w' hcan hrow' => ?_) fun w' _ => ?_
  · exact Outbox.Sure.bind (Tx.wp_mono (wp_transition h hrow' hcan note actor)
      (fun _ _ h' => ⟨h'.1, Outbox.sure_pure _⟩) fun _ _ => id)
  · exact (transition_clean h newStatus note actor).map _

/-- A payment status that nothing follows is no trouble. -/
theorem clean_setPaymentStatus_log (o : OrderId) (order : Order)
    (paymentStatus : OrderPaymentStatus) (log : Order → OrderStatusLog) :
    orderOutbox.Clean (do
      let order ← setPaymentStatus env o order paymentStatus
      addStatusLog env (log order)
      pure order) w := by
  refine Outbox.Clean.bind (Tx.wp_mono (wp_setPaymentStatus h o order paymentStatus)
    (fun _ _ h' => ⟨h'.1, ?_⟩) fun _ _ => False.elim)
  exact sure_aside h (x := Tx.modifyDb _) rfl fun _ _ _ => Outbox.sure_pure _

theorem cancel_clean (reason actor : String)
    (hmay : ∀ order, w.db.shop.orders.rows o = some order → order.status.isClosed ∨
      order.paymentStatus ≠ .pendingPayment ∨ MayFollow w.db o order .failed .cancelled) :
    orderOutbox.Clean (cancel env o reason actor) w := by
  refine .atomic (clean_lockOrder h fun order hrow => .ite (fun _ => Outbox.clean_pure _) ?_)
  intro hopen
  refine clean_onStock h fun w' haside => ?_
  by_cases hpending : order.paymentStatus = .pendingPayment
  · rw [failPendingPayment, if_pos hpending]
    refine clean_setPaymentStatus_transition h (haside.row hrow) (haside.mayFollow ?_) reason actor
    exact ((hmay order hrow).resolve_left hopen).resolve_left (not_not.2 hpending)
  · rw [failPendingPayment, if_neg hpending]
    exact (transition_clean h .cancelled reason actor).map _

theorem markPaymentFailed_clean (reason actor : String)
    (hmay : ∀ order, w.db.shop.orders.rows o = some order → order.paymentStatus.isSuccessful ∨
      order.status.isClosed ∨ MayFollow w.db o order .failed .cancelled) :
    orderOutbox.Clean (markPaymentFailed env o reason actor) w := by
  refine .atomic (clean_lockOrder h fun order hrow => .ite (fun _ => Outbox.clean_pure _) ?_)
  refine fun hunpaid => .ite (fun _ => Outbox.clean_pure _) fun hopen => ?_
  refine clean_onStock h fun w' haside => ?_
  refine clean_setPaymentStatus_transition h (haside.row hrow) (haside.mayFollow ?_) reason actor
  exact ((hmay order hrow).resolve_left hunpaid).resolve_left hopen

theorem requestRefund_clean (reason actor : String) :
    orderOutbox.Clean (requestRefund env o reason actor) w :=
  .atomic (clean_lockOrder h fun order _ => clean_setPaymentStatus_log h o order _ _)

omit h in
/-- The refund of a payment is beside the orders. -/
theorem processRefund_aside (s : World Shop (List Observation)) :
    (PaymentService.processRefund o).Ensures (fun _ s' => True ∧ s'.db.orders = s.db.orders) s := by
  refine Tx.wp_atomic.2 (Tx.wp_bind.2 (wp_lockOrder.2 ⟨fun _ _ => ?_, fun _ => trivial⟩))
  refine Tx.wp_bind.2 (Tx.wp_ifSome.2 ⟨fun e _ => ?_, fun _ => ⟨trivial, rfl⟩⟩)
  exact Tx.wp_when.2 ⟨fun _ => ⟨trivial, rfl⟩, fun _ => ⟨trivial, rfl⟩⟩

theorem processRefund_clean (reason actor : String)
    (hmay : ∀ order, w.db.shop.orders.rows o = some order → order.status = .refunded ∨
      MayFollow w.db o order .refundProcessed .refunded) :
    orderOutbox.Clean (processRefund env o reason actor) w := by
  refine .atomic (clean_lockOrder h fun order hrow => .ite (fun _ => Outbox.clean_pure _) ?_)
  intro hnot
  refine clean_aside h (P := fun _ => True) (processRefund_aside (shopView.get w)) ?_
  intro _ w₁ _ haside₁
  refine clean_onStock h fun w₂ haside₂ => ?_
  refine clean_setPaymentStatus_transition h (haside₂.row (haside₁.row hrow))
    (haside₂.mayFollow (haside₁.mayFollow ?_)) reason actor
  exact (hmay order hrow).resolve_left hnot

theorem completeDelivery_clean (actor : String) :
    orderOutbox.Clean (completeDelivery env o actor) w := by
  refine .atomic (clean_lockOrder h fun order hrow => ?_)
  refine clean_aside h (P := fun _ => True) ?_ fun _ _ _ _ => transition_clean h _ _ _
  refine Tx.wp_ite.2 ⟨fun _ => Tx.wp_when.2 ⟨fun _ => trivial, fun _ => ⟨trivial, rfl⟩⟩, fun _ => ?_⟩
  exact Tx.wp_zoom.2 ((Tx.wp_iff _).2 ⟨fun _ _ _ => ⟨trivial, rfl⟩, fun _ _ _ => trivial⟩)

theorem finalizeCounterPayment_clean (actor : String)
    (hmay : ∀ order, w.db.shop.orders.rows o = some order →
      MayFollow w.db o order .paid .preparing) :
    orderOutbox.Clean (finalizeCounterPayment env o actor) w := by
  refine .atomic (clean_lockOrder h fun order hrow => .ite (fun _ => Outbox.clean_pure _) fun _ => ?_)
  refine clean_setPaymentStatus h hrow (hmay order hrow) (fun w₁ hcan hrow₁ => ?_) fun w₁ _ => ?_
  · exact sure_onStock h (confirmReservations_returns o) fun w₂ haside =>
      transition_sure h (haside.row hrow₁) hcan _ actor
  · exact clean_onStock h fun _ _ => transition_clean h _ _ _

theorem finalizeOnlinePayment_clean
    (hmay : ∀ order, w.db.shop.orders.rows o = some order → MayFollow w.db o order .paid .paid) :
    orderOutbox.Clean (finalizeOnlinePayment env o) w := by
  refine .atomic (clean_lockOrder h fun order hrow => .ite (fun _ => Outbox.clean_pure _) fun _ => ?_)
  have hconfirmed : canTransition .paid .confirmedByShop := by decide
  refine clean_setPaymentStatus h hrow (hmay order hrow) (fun w₁ hcan hrow₁ => ?_) fun w₁ hrow₁ => ?_
  · refine sure_onStock h (confirmReservations_returns o) fun w₂ haside => Outbox.Sure.bind ?_
    refine Tx.wp_mono (wp_transition h (haside.row hrow₁) hcan _ _) (fun _ w₃ h₃ => ?_) fun _ _ => id
    exact ⟨h₃.1, transition_sure h h₃.2 hconfirmed _ _⟩
  · exact clean_onStock h fun w₂ haside => clean_transition_bind h (haside.row hrow₁)
      fun _ _ hrow₃ => transition_sure h hrow₃ hconfirmed _ _

theorem confirmCod_clean (actor : String) : orderOutbox.Clean (confirmCod env o actor) w :=
  .atomic (clean_lockOrder h fun order _ => clean_check h fun _ =>
    clean_setPaymentStatus_log h o order _ _)

/-- The stock is taken before anything is sent. -/
theorem recordCashReceived_clean (actor : String)
    (hmay : ∀ order, w.db.shop.orders.rows o = some order → order.paymentStatus = .cashReceived ∨
      MayFollow w.db o order .cashReceived .delivered) :
    orderOutbox.Clean (recordCashReceived env o actor) w := by
  refine .atomic (clean_lockOrder h fun order hrow => clean_onStock h fun w₁ haside₁ => ?_)
  refine clean_onStock h fun w₂ haside₂ => ?_
  by_cases hcash : order.paymentStatus = .cashReceived
  · rw [receiveCash, if_neg (not_not.2 hcash)]
    exact .ite (fun _ => transition_clean h _ _ _) fun _ => Outbox.clean_pure _
  · rw [receiveCash, if_pos hcash]
    refine clean_setPaymentStatus h (haside₂.row (haside₁.row hrow))
      (haside₂.mayFollow (haside₁.mayFollow ((hmay order hrow).resolve_left hcash))) ?_ ?_
    · exact fun w₃ hcan hrow₃ => .ite (fun _ => transition_sure h hrow₃ hcan _ _)
        fun _ => Outbox.sure_pure _
    · exact fun w₃ _ => .ite (fun _ => transition_clean h _ _ _) fun _ => Outbox.clean_pure _

/-- With the payment status saved before, nothing goes wrong if the stock can be taken. -/
theorem recordCashReceived_sure (hrow : w.db.shop.orders.rows o = some order)
    (hcash : order.paymentStatus = .cashReceived) (hcan : canTransition order.status .delivered)
    (hstock : w.db.shop.stock.CanFulfill o) (actor : String) :
    orderOutbox.Sure (recordCashReceived env o actor) w := by
  refine .atomic (sure_lockOrder h hrow ?_)
  have hconfirm : ShopTx.onStock (confirmReservations o) (shopView.get w) = (.ok (),
      ⟨{ w.db.shop with stock := { w.db.shop.stock with
        reservations := Holds.confirm o w.db.shop.stock.reservations } }, w.ext.trace⟩) :=
    Tx.zoom_apply (confirmReservations_spec o _)
  refine Outbox.Sure.bind ((wp_onShop h).2 ((Tx.wp_iff_of_ok hconfirm).2 ⟨?_, ?_⟩))
  · exact (aside_put (w := w) rfl).silent.accounts
  refine sure_aside h (Tx.wp_zoom.2 (Tx.wp_mono (fulfillReservations_returns ?_) ?_ ?_)) ?_
  · rintro ⟨i, r⟩ he
    obtain ⟨hrow, hr⟩ := mem_reservationsWhere.1 he
    have hr := of_decide_eq_true hr
    exact hstock.confirm (i, r) (mem_reservationsWhere.2 ⟨hrow, decide_eq_true ⟨hr.1, .inr hr.2⟩⟩)
  · exact fun _ _ _ => rfl
  · exact fun _ _ => id
  · intro _ w₂ haside
    rw [receiveCash, if_neg (not_not.2 hcash)]
    exact .ite (fun _ => transition_sure h (haside.row hrow) hcan _ _) fun _ => Outbox.sure_pure _

end Operations

end Emitting

end Crumbs
