import Crumbs.Inventory.Services

/-!
# Orders and their Status

The state machine of orders and the operations of `OrderService`. Every operation locks the
order row, reads it afresh and runs in one transaction; the order it returns is its own copy,
which does not see what a nested operation has written.

## Contents

- `OrderStatus.allowedTransitions`, `validateTransition`: the state machine
- row access: orders, status logs, payments of an order
- `OrderService`: the operations
- `completePickupOrder` and the kitchen actions: what the staff screens do with them
-/

namespace Crumbs

open Crumbs.Db

/-! ## The state machine -/

namespace OrderStatus

/-- `ALLOWED_TRANSITIONS` -/
def allowedTransitions : OrderStatus → List OrderStatus
  | pendingPayment => [paid, confirmedByShop, cancelled]
  | awaitingPayment => [preparing, cancelled]
  | paid => [confirmedByShop, cancelled, refunded]
  | confirmedByShop => [preparing, cancelled, refunded]
  | preparing => [packaged, cancelled, refunded]
  | packaged => [outForDelivery, cancelled, refunded]
  | outForDelivery => [delivered, cancelled, refunded]
  | delivered => [refunded]
  | cancelled => []
  | refunded => []

/-- CANCELLED and REFUNDED orders are closed. -/
def isClosed (status : OrderStatus) : Prop := status = cancelled ∨ status = refunded

instance (status : OrderStatus) : Decidable status.isClosed := inferInstanceAs (Decidable (_ ∨ _))

end OrderStatus

namespace OrderPaymentStatus

/-- The order is paid, or its cash is in the till. -/
def isSuccessful (status : OrderPaymentStatus) : Prop := status = paid ∨ status = cashReceived

instance (status : OrderPaymentStatus) : Decidable status.isSuccessful :=
  inferInstanceAs (Decidable (_ ∨ _))

end OrderPaymentStatus

/-- `can_transition` -/
def canTransition (status newStatus : OrderStatus) : Prop :=
  status = newStatus ∨ newStatus ∈ status.allowedTransitions

instance (status newStatus : OrderStatus) : Decidable (canTransition status newStatus) :=
  inferInstanceAs (Decidable (_ ∨ _))

def validateTransition (order : Order) (newStatus : OrderStatus) : ShopTx Unit :=
  Tx.when (¬canTransition order.status newStatus) (Tx.raise (.invalidTransitionError
    (s!"Cannot transition order {order.orderNumber} from " ++
      s!"'{order.status.value}' to '{newStatus.value}'.")))

/-! ## Rows -/

namespace Shop

def updateOrder (shop : Shop) (o : OrderId) (f : Order → Order) : Shop :=
  { shop with orders := shop.orders.modify o f }

def updatePayment (shop : Shop) (p : PaymentId) (f : Payment → Payment) : Shop :=
  { shop with payments := shop.payments.modify p f }

/-- The write of `order.status`, entered in the history if it changes the status. -/
def setStatus (shop : Shop) (o : OrderId) (status : OrderStatus) : Shop :=
  { shop with
    orders := shop.orders.modify o ({ · with status })
    statusWrites := shop.statusWrites ++
      match shop.orders.rows o with
      | none => []
      | some order => if order.status = status then [] else [(o, .changed order.status status)] }

def addStatusLog (shop : Shop) (log : OrderStatusLog) : Shop :=
  { shop with statusLogs := shop.statusLogs ++ [log] }

/-- The payments that satisfy `p`, with their keys. -/
def paymentsWhere (shop : Shop) (p : Payment → Bool) : List (PaymentId × Payment) :=
  shop.payments.filter p

end Shop

/-- `Order.objects.select_for_update().get(pk=o)` -/
def lockOrder (o : OrderId) : ShopTx Order := do
  let shop ← Tx.getDb
  getRow "Order" (shop.orders.rows o)

/-- `Payment.objects.select_for_update().get(pk=p)` -/
def lockPayment (p : PaymentId) : ShopTx Payment := do
  let shop ← Tx.getDb
  getRow "Payment" (shop.payments.rows p)

/-- Sets `payment_status` on an order object and saves that field. -/
def setPaymentStatus (o : OrderId) (order : Order) (paymentStatus : OrderPaymentStatus) :
    ShopTx Order := do
  Tx.modifyDb fun shop => shop.updateOrder o ({ · with paymentStatus })
  pure { order with paymentStatus }

/-- The later of the best payment so far and another one. -/
def later (best : Option (PaymentId × Payment)) (e : PaymentId × Payment) :
    Option (PaymentId × Payment) :=
  match best with
  | none => some e
  | some b => if b.2.createdAt ≤ e.2.createdAt then some e else some b

/-- `.order_by("-created_at").first()` -/
def newest (payments : List (PaymentId × Payment)) : Option (PaymentId × Payment) :=
  payments.foldl later none

/-- `PaymentService.process_refund`: the newest payment of the order is refunded if it has
    succeeded. -/
def PaymentService.processRefund (o : OrderId) : ShopTx Unit := Tx.atomic do
  let _ ← lockOrder o
  let shop ← Tx.getDb
  Tx.ifSome (newest (shop.paymentsWhere fun p => p.order = o)) fun e =>
    Tx.when (e.2.status = .succeeded)
      (Tx.modifyDb fun shop => shop.updatePayment e.1 ({ · with status := .refunded }))

/-! ## Operations -/

namespace OrderService

/-- The single way to change a status: checked against the state machine, and logged. -/
def transition (o : OrderId) (newStatus : OrderStatus) (note : String) (actor : String) :
    ShopTx Order := Tx.atomic do
  let order ← lockOrder o
  let previous := order.status
  validateTransition order newStatus
  -- to stay is allowed, and is not logged
  if previous = newStatus then
    return order
  Tx.modifyDb fun shop => shop.setStatus o newStatus
  Tx.modifyDb fun shop => shop.addStatusLog
    { order := o, fromStatus := previous, toStatus := newStatus, note, actor }
  return { order with status := newStatus }

/-- A payment that is still pending fails with the cancellation. -/
def failPendingPayment (o : OrderId) (order : Order) : ShopTx Order :=
  if order.paymentStatus = .pendingPayment then setPaymentStatus o order .failed else pure order

def cancel (o : OrderId) (reason : String) (actor : String) : ShopTx Order := Tx.atomic do
  let order ← lockOrder o
  if order.status.isClosed then
    return order
  ShopTx.onStock (releaseReservations o)
  let order ← failPendingPayment o order
  -- the transition works on an object of its own; the one returned has the old status
  let _ ← transition o .cancelled reason actor
  return order

/-- The payment of the order has failed: unless another payment has paid it, its stock goes back
    and it is cancelled. -/
def markPaymentFailed (o : OrderId) (reason : String) (actor : String) : ShopTx Order :=
  Tx.atomic do
    let order ← lockOrder o
    if order.paymentStatus.isSuccessful then
      return order
    if order.status.isClosed then
      return order
    ShopTx.onStock (releaseReservations o)
    let order ← setPaymentStatus o order .failed
    let _ ← transition o .cancelled reason actor
    return order

def requestRefund (o : OrderId) (reason : String) (actor : String) : ShopTx Order :=
  Tx.atomic do
    let order ← lockOrder o
    let order ← setPaymentStatus o order .refundRequested
    -- the request is a log that stays in its status
    Tx.modifyDb fun shop => shop.addStatusLog
      { order := o, fromStatus := order.status, toStatus := order.status,
        note := s!"Refund requested: {reason}", actor }
    return order

def processRefund (o : OrderId) (reason : String) (actor : String) : ShopTx Order :=
  Tx.atomic do
    let order ← lockOrder o
    if order.status = .refunded then
      return order
    PaymentService.processRefund o
    -- what was handed over is RELEASED already and does not come back
    ShopTx.onStock (releaseReservations o)
    let order ← setPaymentStatus o order .refundProcessed
    let _ ← transition o .refunded reason actor
    return order

/-- What has to happen before an order counts as delivered: cash for a COD order, the stock of
    any other. -/
def settleDelivery (o : OrderId) (order : Order) : ShopTx Unit :=
  if order.isCod then
    Tx.when (order.paymentStatus ≠ .cashReceived) (Tx.raise (.checkoutError
      "COD orders require cash received before delivery completion."))
  else
    ShopTx.onStock (fulfillReservations o)

def completeDelivery (o : OrderId) (actor : String) : ShopTx Order := Tx.atomic do
  let order ← lockOrder o
  settleDelivery o order
  transition o .delivered "" actor

def reserveStock (env : Env) (o : OrderId) : ShopTx Unit := Tx.atomic do
  let _ ← reserveForOrder env o

def confirmStock (o : OrderId) : ShopTx Unit :=
  Tx.atomic (ShopTx.onStock (confirmReservations o))

def releaseStock (o : OrderId) : ShopTx Unit :=
  Tx.atomic (ShopTx.onStock (releaseReservations o))

def finalizeCounterPayment (o : OrderId) (actor : String) : ShopTx Order := Tx.atomic do
  let order ← lockOrder o
  if order.paymentStatus = .paid ∧ order.status = .preparing then
    return order
  let _ ← setPaymentStatus o order .paid
  ShopTx.onStock (confirmReservations o)
  transition o .preparing "Counter payment received" actor

/-- The statuses in which a paid online order is done with its payment. -/
def isPastPayment (status : OrderStatus) : Prop :=
  status ∈ [.paid, .confirmedByShop, .preparing, .packaged, .outForDelivery, .delivered]

instance (status : OrderStatus) : Decidable (isPastPayment status) :=
  inferInstanceAs (Decidable (_ ∈ _))

def finalizeOnlinePayment (o : OrderId) : ShopTx Order := Tx.atomic do
  let order ← lockOrder o
  if order.paymentStatus = .paid ∧ isPastPayment order.status then
    return order
  let _ ← setPaymentStatus o order .paid
  ShopTx.onStock (confirmReservations o)
  let _ ← transition o .paid "Online payment received" "system"
  transition o .confirmedByShop "Auto-confirmed after payment" "system"

def confirmCod (o : OrderId) (actor : String) : ShopTx Order := Tx.atomic do
  let order ← lockOrder o
  Tx.when (order.paymentStatus ≠ .codPending)
    (Tx.raise (.checkoutError "Order is not in COD pending state."))
  let order ← setPaymentStatus o order .codConfirmed
  Tx.modifyDb fun shop => shop.addStatusLog
    { order := o, fromStatus := order.status, toStatus := order.status,
      note := "COD confirmed by shop", actor }
  return order

def receiveCash (o : OrderId) (order : Order) : ShopTx Order :=
  if order.paymentStatus ≠ .cashReceived then setPaymentStatus o order .cashReceived
  else pure order

def recordCashReceived (o : OrderId) (actor : String) : ShopTx Order := Tx.atomic do
  let order ← lockOrder o
  -- only CONFIRMED reservations are handed over
  ShopTx.onStock (confirmReservations o)
  ShopTx.onStock (fulfillReservations o)
  let order ← receiveCash o order
  if order.status ≠ .delivered then
    transition o .delivered "Cash received on delivery" actor
  else
    pure order

end OrderService

/-! ## Staff screens

Each step below is a transaction of its own. `seen` is the status on the order object that the
screen has loaded. -/

/-- The pickup counter hands a packaged order out in two steps. -/
def completePickupOrder (o : OrderId) (seen : OrderStatus) (actor : String) : ShopTx Order := do
  Tx.when (seen = .packaged) do
    let _ ← OrderService.transition o .outForDelivery
      "Pickup screen: ready for customer pickup" actor
  OrderService.completeDelivery o actor

/-- The last step of `startPreparing`, on a status that was just read. -/
def startConfirmed (o : OrderId) (order : Order) (actor : String) : ShopTx Order :=
  if order.status = .confirmedByShop then
    OrderService.transition o .preparing "Kitchen queue: started preparing" actor
  else
    Tx.raise (.invalidTransitionError (s!"Cannot start preparing order {order.orderNumber} " ++
      s!"from status '{order.status.value}'."))

def startPreparing (o : OrderId) (seen : Order) (actor : String) : ShopTx Order :=
  if seen.status = .preparing then
    pure seen
  else if seen.status = .paid then do
    let _ ← OrderService.transition o .confirmedByShop
      "Kitchen queue: confirmed for preparation" actor
    -- `refresh_from_db`
    let order ← lockOrder o
    startConfirmed o order actor
  else
    startConfirmed o seen actor

def markReady (o : OrderId) (actor : String) : ShopTx Order :=
  OrderService.transition o .packaged "Kitchen queue: ready for pickup" actor

end Crumbs
