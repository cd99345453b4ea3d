import Crumbs.Db.Outbox
import Crumbs.Orders.Events
import Crumbs.Orders.Outcomes

/-!
# The Order Operations with their Signals

`OrderService` once more, with the signals of every save of an order. On the shop these operations
are the ones of `OrderService`; beside it they log tasks and hand messages to the queue.

## Contents

- `saveOrder_cases`: what a save does
- `EventDatabase.Announces`: a save that has something to tell
- `Emitting`: the operations, each with the operation that it simulates
-/

namespace Crumbs

open Crumbs.Db

/-! ## A save -/

/-- A task of that key may be put into the queue. -/
def EventDatabase.isClaimable (db : EventDatabase) (key : String) : Prop :=
  key = "" ∨ ¬db.isInFlight key

instance (db : EventDatabase) (key : String) : Decidable (db.isClaimable key) :=
  inferInstanceAs (Decidable (_ ∨ _))

/-- There is something to tell, and it has not been told yet. -/
def Saved.IsNews (s : Saved) (db : EventDatabase) (created : Bool) : Prop :=
  let events := s.buildOrderLifecycleEvents created (db.recipients s.o) db.profilePhones
  events ≠ [] ∧ db.isClaimable (s.idempotencyKey events)

instance (s : Saved) (db : EventDatabase) (created : Bool) : Decidable (s.IsNews db created) :=
  inferInstanceAs (Decidable (_ ∧ _))

/-- The save of an order that is there is news. -/
def EventDatabase.Announces (db : EventDatabase) (o : OrderId) (order : Order) : Prop :=
  Saved.IsNews { o, order, previous := db.shop.orders.rows o } db false

instance (db : EventDatabase) (o : OrderId) (order : Order) : Decidable (db.Announces o order) :=
  inferInstanceAs (Decidable (Saved.IsNews _ _ _))

/-- A message tells of a state that was committed if its save is in the history. -/
def orderOutbox : Outbox EventDatabase EventExt Message where
  sent := EventExt.queue
  Backs db m := m.change ∈ db.changes

section Save

variable {env : EventEnv} {w : World EventDatabase EventExt}

/-- A key is claimed, or it was claimed before. -/
theorem claimIdempotencyKey_cases (key taskName taskId : String)
    (payload : OrderId × List LifecycleEvent) :
    (w.db.isClaimable key ∧ ∃ tasks, claimIdempotencyKey key taskName taskId payload w =
      (.ok true, { w with db := { w.db with tasks } })) ∨
    claimIdempotencyKey key taskName taskId payload w = (.ok false, w) := by
  by_cases hkey : key = ""
  · exact .inl ⟨.inl hkey, w.db.tasks, Tx.ite_of hkey⟩
  by_cases hflight : w.db.isInFlight key
  · exact .inr ((Tx.ite_of_not hkey).trans
      ((Tx.bind_of_ok (x := Tx.getDb) rfl).trans (Tx.ite_of hflight)))
  · exact .inl ⟨.inr hflight, _, (Tx.ite_of_not hkey).trans
      ((Tx.bind_of_ok (x := Tx.getDb) rfl).trans ((Tx.ite_of_not hflight).trans rfl))⟩

/-- A message is put into the queue at most once, and only if there is news. -/
theorem emitOrderLifecycleEvents_cases (env : EventEnv) (s : Saved) (created : Bool)
    (change : StateChange) (w : World EventDatabase EventExt) :
    ∃ tasks queue, emitOrderLifecycleEvents env s created change w =
        (.ok (), ⟨{ w.db with tasks }, { w.ext with queue }⟩) ∧
      (queue = w.ext.queue ∨ s.IsNews w.db created ∧
        ∃ m : Message, m.change = change ∧ queue = w.ext.queue ++ [m]) := by
  let events := s.buildOrderLifecycleEvents created (w.db.recipients s.o) w.db.profilePhones
  by_cases hevents : events = []
  · exact ⟨w.db.tasks, w.ext.queue, (Tx.bind_of_ok (x := Tx.getDb) rfl).trans
      (Tx.when_of_not (not_not.2 hevents)), .inl rfl⟩
  have hrun : emitOrderLifecycleEvents env s created change w =
      applyIdempotentTask env (s.idempotencyKey events) s.o events change w :=
    (Tx.bind_of_ok (x := Tx.getDb) rfl).trans (Tx.ite_of hevents)
  rcases claimIdempotencyKey_cases (w := w) (s.idempotencyKey events)
    "orders.tasks.process_order_lifecycle_events"
    (String.ofList ((s.idempotencyKey events).toList.take 255)) (s.o, events) with
    ⟨hclaimable, tasks, hclaim⟩ | hclaim
  · by_cases hbroker : env.broker = true
    · exact ⟨tasks, _, hrun.trans ((Tx.bind_of_ok hclaim).trans ((Tx.ite_of rfl).trans
        (Tx.ite_of hbroker))), .inr ⟨⟨hevents, hclaimable⟩, _, rfl, rfl⟩⟩
    · exact ⟨tasks, _, hrun.trans ((Tx.bind_of_ok hclaim).trans ((Tx.ite_of rfl).trans
        (Tx.ite_of_not hbroker))), .inl rfl⟩
  · exact ⟨_, _, hrun.trans ((Tx.bind_of_ok hclaim).trans (Tx.ite_of_not Bool.false_ne_true)),
      .inl rfl⟩

/-- Nothing goes wrong of itself. -/
theorem strikes_of_none (h : env.fault = none) : strikes env = pure () := by rw [strikes, h]

theorem onShop_eq (h : env.fault = none) {α : Type} (x : ShopTx α) :
    EventTx.onShop env x = Tx.within shopView x := by
  rw [EventTx.onShop, strikes_of_none h]
  rfl

/-- A save writes the order and is entered in the history. If there is news, a message about the
    save may go out. -/
theorem saveOrder_cases (h : env.fault = none) (o : OrderId) (order : Order) (f : Shop → Shop) :
    ∃ change tasks queue, saveOrder env o order f w =
        (.ok (), ⟨{ w.db with shop := f w.db.shop, tasks, changes := w.db.changes ++ [change] },
          { w.ext with queue, saves := w.ext.saves + 1 }⟩) ∧
      (queue = w.ext.queue ∨ w.db.Announces o order ∧
        ∃ m : Message, m.change = change ∧ queue = w.ext.queue ++ [m]) := by
  let saved : Saved := { o, order, previous := w.db.shop.orders.rows o }
  let change : StateChange :=
    { number := w.ext.saves, order := o, fromPayment := saved.prevPayment,
      toPayment := order.paymentStatus, fromStatus := saved.prevStatus, toStatus := order.status }
  let w₁ : World EventDatabase EventExt :=
    ⟨{ w.db with shop := f w.db.shop, changes := w.db.changes ++ [change] },
      { w.ext with saves := w.ext.saves + 1 }⟩
  obtain ⟨tasks, queue, hemit, hqueue⟩ :=
    emitOrderLifecycleEvents_cases env saved false change w₁
  refine ⟨change, tasks, queue, ?_, hqueue⟩
  rw [saveOrder, onShop_eq h, onShop_eq h]
  refine (Tx.bind_of_ok (x := Tx.within shopView Tx.getDb) rfl).trans ?_
  refine (Tx.bind_of_ok (x := Tx.within shopView (Tx.modifyDb f)) rfl).trans ?_
  exact (Tx.bind_of_ok (x := recordChange saved) (v := w₁) rfl).trans hemit

theorem simulates_onShop (h : env.fault = none) {α : Type} (x : ShopTx α) :
    Tx.Simulates shopView (EventTx.onShop env x) x := by
  rw [onShop_eq h]
  exact Tx.simulates_within x

/-- On the shop a save is its write. -/
theorem simulates_saveOrder (h : env.fault = none) (o : OrderId) (order : Order) (f : Shop → Shop) :
    Tx.Simulates shopView (saveOrder env o order f) (Tx.modifyDb f) := by
  intro w
  obtain ⟨change, tasks, queue, hsave, -⟩ := saveOrder_cases (w := w) h o order f
  rw [hsave]
  rfl

end Save

/-! ## `OrderService` -/

namespace Emitting

open EventTx (onShop)

variable (env : EventEnv)

/-- Sets `payment_status` on an order object and saves that field. -/
def setPaymentStatus (o : OrderId) (order : Order) (paymentStatus : OrderPaymentStatus) :
    EventTx Order := do
  saveOrder env o { order with paymentStatus } fun shop =>
    shop.updateOrder o ({ · with paymentStatus })
  return { order with paymentStatus }

/-- `OrderStatusLog.objects.create` -/
def addStatusLog (log : OrderStatusLog) : EventTx Unit :=
  onShop env (Tx.modifyDb fun shop => shop.addStatusLog log)

def transition (o : OrderId) (newStatus : OrderStatus) (note actor : String) : EventTx Order :=
  Tx.atomic do
    let order ← onShop env (lockOrder o)
    let previous := order.status
    onShop env (validateTransition order newStatus)
    if previous = newStatus then
      return order
    saveOrder env o { order with status := newStatus } fun shop => shop.setStatus o newStatus
    addStatusLog env { order := o, fromStatus := previous, toStatus := newStatus, note, actor }
    return { order with status := newStatus }

def failPendingPayment (o : OrderId) (order : Order) : EventTx Order :=
  if order.paymentStatus = .pendingPayment then setPaymentStatus env o order .failed
  else pure order

def cancel (o : OrderId) (reason actor : String) : EventTx Order := Tx.atomic do
  let order ← onShop env (lockOrder o)
  if order.status.isClosed then
    return order
  onShop env (ShopTx.onStock (releaseReservations o))
  let order ← failPendingPayment env o order
  let _ ← transition env o .cancelled reason actor
  return order

def markPaymentFailed (o : OrderId) (reason actor : String) : EventTx Order := Tx.atomic do
  let order ← onShop env (lockOrder o)
  if order.paymentStatus.isSuccessful then
    return order
  if order.status.isClosed then
    return order
  onShop env (ShopTx.onStock (releaseReservations o))
  let order ← setPaymentStatus env o order .failed
  let _ ← transition env o .cancelled reason actor
  return order

def requestRefund (o : OrderId) (reason actor : String) : EventTx Order := Tx.atomic do
  let order ← onShop env (lockOrder o)
  let order ← setPaymentStatus env o order .refundRequested
  addStatusLog env
    { order := o, fromStatus := order.status, toStatus := order.status,
      note := s!"Refund requested: {reason}", actor }
  return order

def processRefund (o : OrderId) (reason actor : String) : EventTx Order := Tx.atomic do
  let order ← onShop env (lockOrder o)
  if order.status = .refunded then
    return order
  onShop env (PaymentService.processRefund o)
  onShop env (ShopTx.onStock (releaseReservations o))
  let order ← setPaymentStatus env o order .refundProcessed
  let _ ← transition env o .refunded reason actor
  return order

def completeDelivery (o : OrderId) (actor : String) : EventTx Order := Tx.atomic do
  let order ← onShop env (lockOrder o)
  onShop env (OrderService.settleDelivery o order)
  transition env o .delivered "" actor

def finalizeCounterPayment (o : OrderId) (actor : String) : EventTx Order := Tx.atomic do
  let order ← onShop env (lockOrder o)
  if order.paymentStatus = .paid ∧ order.status = .preparing then
    return order
  let _ ← setPaymentStatus env o order .paid
  onShop env (ShopTx.onStock (confirmReservations o))
  transition env o .preparing "Counter payment received" actor

def finalizeOnlinePayment (o : OrderId) : EventTx Order := Tx.atomic do
  let order ← onShop env (lockOrder o)
  if order.paymentStatus = .paid ∧ OrderService.isPastPayment order.status then
    return order
  let _ ← setPaymentStatus env o order .paid
  onShop env (ShopTx.onStock (confirmReservations o))
  let _ ← transition env o .paid "Online payment received" "system"
  transition env o .confirmedByShop "Auto-confirmed after payment" "system"

def confirmCod (o : OrderId) (actor : String) : EventTx Order := Tx.atomic do
  let order ← onShop env (lockOrder o)
  onShop env (Tx.when (order.paymentStatus ≠ .codPending)
    (Tx.raise (.checkoutError "Order is not in COD pending state.")))
  let order ← setPaymentStatus env o order .codConfirmed
  addStatusLog env
    { order := o, fromStatus := order.status, toStatus := order.status,
      note := "COD confirmed by shop", actor }
  return order

def receiveCash (o : OrderId) (order : Order) : EventTx Order :=
  if order.paymentStatus ≠ .cashReceived then setPaymentStatus env o order .cashReceived
  else pure order

def recordCashReceived (o : OrderId) (actor : String) : EventTx Order := Tx.atomic do
  let order ← onShop env (lockOrder o)
  onShop env (ShopTx.onStock (confirmReservations o))
  onShop env (ShopTx.onStock (fulfillReservations o))
  let order ← receiveCash env o order
  if order.status ≠ .delivered then
    transition env o .delivered "Cash received on delivery" actor
  else
    pure order

end Emitting

/-! ## On the shop these are the operations of `OrderService` -/

namespace Emitting

open Tx (Simulates)

variable {env : EventEnv} (h : env.fault = none) (o : OrderId) (reason actor : String)
include h

theorem simulates_setPaymentStatus (order : Order) (paymentStatus : OrderPaymentStatus) :
    Simulates shopView (setPaymentStatus env o order paymentStatus)
      (Crumbs.setPaymentStatus o order paymentStatus) :=
  (simulates_saveOrder h o _ _).bind fun _ => Tx.simulates_pure _

theorem simulates_addStatusLog (log : OrderStatusLog) : Simulates shopView (addStatusLog env log)
    (Tx.modifyDb fun shop => shop.addStatusLog log) := simulates_onShop h _

theorem simulates_transition (newStatus : OrderStatus) (note : String) :
    Simulates shopView (transition env o newStatus note actor)
      (OrderService.transition o newStatus note actor) := by
  refine .atomic ((simulates_onShop h _).bind fun order => ?_)
  refine (simulates_onShop h _).bind fun _ => .ite (Tx.simulates_pure _) ?_
  refine (simulates_saveOrder h o _ _).bind fun _ => ?_
  exact (simulates_addStatusLog h _).bind fun _ => Tx.simulates_pure _

theorem simulates_failPendingPayment (order : Order) : Simulates shopView
    (failPendingPayment env o order) (OrderService.failPendingPayment o order) :=
  .ite (simulates_setPaymentStatus h o order _) (Tx.simulates_pure _)

theorem simulates_cancel : Simulates shopView (cancel env o reason actor)
    (OrderService.cancel o reason actor) := by
  refine .atomic ((simulates_onShop h _).bind fun order => .ite (Tx.simulates_pure _) ?_)
  refine (simulates_onShop h _).bind fun _ => (simulates_failPendingPayment h o order).bind ?_
  exact fun _ => (simulates_transition h o actor _ reason).bind fun _ => Tx.simulates_pure _

theorem simulates_markPaymentFailed : Simulates shopView (markPaymentFailed env o reason actor)
    (OrderService.markPaymentFailed o reason actor) := by
  refine .atomic ((simulates_onShop h _).bind fun order => .ite (Tx.simulates_pure _) ?_)
  refine .ite (Tx.simulates_pure _) ((simulates_onShop h _).bind fun _ => ?_)
  refine (simulates_setPaymentStatus h o order _).bind fun _ => ?_
  exact (simulates_transition h o actor _ reason).bind fun _ => Tx.simulates_pure _

theorem simulates_requestRefund : Simulates shopView (requestRefund env o reason actor)
    (OrderService.requestRefund o reason actor) := by
  refine .atomic ((simulates_onShop h _).bind fun order => ?_)
  refine (simulates_setPaymentStatus h o order _).bind fun _ => ?_
  exact (simulates_addStatusLog h _).bind fun _ => Tx.simulates_pure _

theorem simulates_processRefund : Simulates shopView (processRefund env o reason actor)
    (OrderService.processRefund o reason actor) := by
  refine .atomic ((simulates_onShop h _).bind fun order => .ite (Tx.simulates_pure _) ?_)
  refine (simulates_onShop h _).bind fun _ => (simulates_onShop h _).bind fun _ => ?_
  refine (simulates_setPaymentStatus h o order _).bind fun _ => ?_
  exact (simulates_transition h o actor _ reason).bind fun _ => Tx.simulates_pure _

theorem simulates_completeDelivery : Simulates shopView (completeDelivery env o actor)
    (OrderService.completeDelivery o actor) :=
  .atomic ((simulates_onShop h _).bind fun _ => (simulates_onShop h _).bind fun _ =>
    simulates_transition h o actor _ _)

theorem simulates_finalizeCounterPayment : Simulates shopView (finalizeCounterPayment env o actor)
    (OrderService.finalizeCounterPayment o actor) := by
  refine .atomic ((simulates_onShop h _).bind fun order => .ite (Tx.simulates_pure _) ?_)
  refine (simulates_setPaymentStatus h o order _).bind fun _ => ?_
  exact (simulates_onShop h _).bind fun _ => simulates_transition h o actor _ _

theorem simulates_finalizeOnlinePayment : Simulates shopView (finalizeOnlinePayment env o)
    (OrderService.finalizeOnlinePayment o) := by
  refine .atomic ((simulates_onShop h _).bind fun order => .ite (Tx.simulates_pure _) ?_)
  refine (simulates_setPaymentStatus h o order _).bind fun _ => (simulates_onShop h _).bind ?_
  exact fun _ => (simulates_transition h o _ _ _).bind fun _ => simulates_transition h o _ _ _

theorem simulates_confirmCod : Simulates shopView (confirmCod env o actor)
    (OrderService.confirmCod o actor) := by
  refine .atomic ((simulates_onShop h _).bind fun order => (simulates_onShop h _).bind fun _ => ?_)
  refine (simulates_setPaymentStatus h o order _).bind fun _ => ?_
  exact (simulates_addStatusLog h _).bind fun _ => Tx.simulates_pure _

theorem simulates_recordCashReceived : Simulates shopView (recordCashReceived env o actor)
    (OrderService.recordCashReceived o actor) := by
  refine .atomic ((simulates_onShop h _).bind fun order => (simulates_onShop h _).bind fun _ => ?_)
  refine (simulates_onShop h _).bind fun _ => Simulates.bind ?_ fun order' =>
    .ite (simulates_transition h o actor _ _) (Tx.simulates_pure _)
  exact .ite (simulates_setPaymentStatus h o order _) (Tx.simulates_pure _)

end Emitting

end Crumbs
