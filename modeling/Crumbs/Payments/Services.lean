import Crumbs.Payments.Gateways

/-!
# Payment Services

`PaymentService`: how payments are opened, and how a capture, a failure, a cancellation or a
refund is recorded. Orders change only through `OrderService`.

## Contents

- `initiateOnline`, `initiateCod`, `initiateCounterPayment`: opening a payment
- `markCounterPaymentReceived`, `markPaid`, `markCodCashReceived`, `ensureCodCashFinalized`:
  the money has arrived
- `markFailed`, `markCancelled`: it has not
-/

namespace Crumbs

open Crumbs.Db

/-- `_order_has_successful_payment` -/
def orderHasSuccessfulPayment (order : Order) : Prop := order.paymentStatus.isSuccessful

instance (order : Order) : Decidable (orderHasSuccessfulPayment order) :=
  inferInstanceAs (Decidable order.paymentStatus.isSuccessful)

/-- `Payment.objects.create` -/
def createPayment (payment : Payment) : ShopTx (PaymentId × Payment) := do
  let shop ← Tx.getDb
  Tx.modifyDb fun shop => { shop with payments := shop.payments.insert payment }
  pure (shop.payments.next, payment)

/-- Sets `status` and `failure_message` on a payment and saves these fields. -/
def savePaymentStatus (p : PaymentId) (status : PaymentStatus) (failureMessage : String) :
    ShopTx Unit :=
  Tx.modifyDb fun shop => shop.updatePayment p ({ · with status, failureMessage })

namespace PaymentService

/-! ## Opening a payment -/

def getReusableZarinpalPayment (shop : Shop) (o : OrderId) : Option (PaymentId × Payment) :=
  (newest (shop.paymentsWhere fun p =>
    p.order = o ∧ p.provider = .zarinpal ∧ p.status = .processing ∧
      p.providerCheckoutSessionId ≠ "" ∧ p.checkoutUrl ≠ "")).filter
    fun e => e.2.hasActiveZarinpalCheckout

/-- Hands back an open payment if it still fits the order. -/
def reusePayment (order : Order) (currency : String) (existing : PaymentId × Payment) :
    ShopTx (PaymentId × Payment) := do
  Tx.when (existing.2.amount ≠ order.total) (Tx.raise (.paymentAmountMismatchError
    "Pending Zarinpal payment amount does not match the current order total."))
  Tx.when (lower existing.2.currency ≠ currency)
    (Tx.raise (.paymentConfigurationError "Pending Zarinpal payment currency is invalid."))
  pure existing

/-- Writes the session that the provider opened into the payment. -/
def withSession (payment : Payment) (session : CheckoutSessionResult) : Payment :=
  { payment with
    providerCheckoutSessionId := session.sessionId
    providerPaymentId := session.paymentIntentId.getD ""
    checkoutUrl := session.url
    status := .processing
    metadata := payment.metadata.set "zarinpal_authority" (.str session.sessionId) }

/-- A new payment, and the provider's session to pay it in. -/
def openPayment (env : Env) (provider : CheckoutProvider) (o : OrderId) (order : Order)
    (currency : String) : ShopTx (PaymentId × Payment) := do
  let payment ← createPayment
    { order := o, provider := provider.providerName, status := .pending, amount := order.total,
      currency, createdAt := env.now }
  -- what the provider raises takes the new payment back
  let session ← provider.createCheckoutSession order payment
  Tx.modifyDb fun shop => shop.updatePayment payment.1 (withSession · session)
  let _ ← setPaymentStatus o order .pendingPayment
  pure (payment.1, withSession payment.2 session)

def initiateOnline (env : Env) (o : OrderId) : ShopTx (PaymentId × Payment) := Tx.atomic do
  let order ← lockOrder o
  Tx.when order.paymentStatus.isSuccessful
    (Tx.raise (.paymentError s!"Order {order.orderNumber} is already paid."))
  let currency := lower env.settings.onlinePaymentCurrency
  Tx.when (currency ≠ "irr")
    (Tx.raise (.paymentConfigurationError "Online payments must use IRR currency."))
  let provider ← getOnlinePaymentProvider env
  let shop ← Tx.getDb
  let existing := if provider.providerName = .zarinpal then getReusableZarinpalPayment shop o
    else none
  match existing with
  | some existing => reusePayment order currency existing
  | none => openPayment env provider o order currency

/-- The `order` is the caller's copy. -/
def initiateCod (env : Env) (o : OrderId) (order : Order) : ShopTx (PaymentId × Payment) :=
  Tx.atomic do
    Tx.when (order.paymentStatus = .cashReceived)
      (Tx.raise (.paymentError s!"Order {order.orderNumber} is already paid."))
    createPayment
      { order := o, provider := .cod, status := .pending, amount := order.total,
        currency := "irr", metadata := [("method", .str "cash_on_delivery")],
        createdAt := env.now }

def initiatePayment (env : Env) (o : OrderId) (order : Order) : ShopTx (PaymentId × Payment) :=
  if order.paymentMethod = .cod then initiateCod env o order else initiateOnline env o

/-- `_counter_provider` -/
def counterProvider (paymentMethod : PaymentMethod) : ShopTx Provider :=
  match paymentMethod with
  | .cash => pure .cash
  | .counterCard => pure .counterCard
  | _ => Tx.raise (.paymentError s!"Unsupported counter payment method: {paymentMethod.value}")

/-- The `order` is the caller's copy. -/
def initiateCounterPayment (env : Env) (o : OrderId) (order : Order)
    (paymentMethod : PaymentMethod) : ShopTx (PaymentId × Payment) := Tx.atomic do
  Tx.when (¬order.isCounterPayment)
    (Tx.raise (.paymentError "Order is not a counter payment order."))
  Tx.when (order.status ≠ .awaitingPayment) (Tx.raise (.paymentError
    "Counter payment can only be initiated for awaiting-payment orders."))
  let provider ← counterProvider paymentMethod
  let shop ← Tx.getDb
  -- also one that has failed
  let existing := newest (shop.paymentsWhere fun p =>
    p.order = o ∧ p.provider = provider ∧ p.status ≠ .cancelled)
  match existing with
  | some existing => pure existing
  | none =>
    createPayment
      { order := o, provider, status := .pending, amount := order.total, currency := "irr",
        metadata := [("method", .str paymentMethod.value)], createdAt := env.now }

/-! ## The money has arrived -/

/-- A payment whose money was taken over the counter or at the door. -/
def received (payment : Payment) (eventKey event actorKey actor : String) : Payment :=
  { payment with
    status := .succeeded
    failureMessage := ""
    metadata := (payment.metadata.set eventKey (.str event)).set actorKey (.str actor) }

/-- `_mark_counter_payment_received` -/
def markCounterPaymentReceived (o : OrderId) (p : PaymentId) (expectedProvider : Provider)
    (actor : String) : ShopTx Order := Tx.atomic do
  let order ← lockOrder o
  let payment ← lockPayment p
  Tx.when (payment.provider ≠ expectedProvider) (Tx.raise (.paymentError
    "Payment provider does not match the requested counter action."))
  Tx.when (payment.order ≠ o)
    (Tx.raise (.paymentError "Payment does not belong to this order."))
  Tx.when (¬order.isCounterPayment) (Tx.raise (.paymentError
    "This action is only valid for counter payment orders."))
  if order.status ≠ .awaitingPayment ∧ payment.status = .succeeded then
    return order
  -- the order still awaits its payment, so it is finalised in any case
  if payment.status = .succeeded then
    if order.status = .preparing then
      return order
    else
      OrderService.finalizeCounterPayment o actor
  else do
    Tx.modifyDb fun shop => shop.updatePayment p (received · "counter_payment_event"
      "counter_payment_received" "counter_payment_actor" actor)
    OrderService.finalizeCounterPayment o actor

def markCounterCashReceived (o : OrderId) (p : PaymentId) (actor : String) : ShopTx Order :=
  Tx.atomic (markCounterPaymentReceived o p .cash actor)

def markCounterCardReceived (o : OrderId) (p : PaymentId) (actor : String) : ShopTx Order :=
  Tx.atomic (markCounterPaymentReceived o p .counterCard actor)

/-- The gateway has captured the money; the order becomes paid unless it is already. -/
def markPaid (o : OrderId) (p : PaymentId) : ShopTx Unit := Tx.atomic do
  let order ← lockOrder o
  let payment ← lockPayment p
  if payment.status = .succeeded then
    return ()
  -- another payment has paid the order; this one counts as well
  if orderHasSuccessfulPayment order then
    savePaymentStatus p .succeeded ""
    return ()
  savePaymentStatus p .succeeded ""
  let _ ← OrderService.finalizeOnlinePayment o

/-- The COD payment that stands for an order: the given one, or else its newest. -/
def codPayment (o : OrderId) (payment : Option PaymentId) :
    ShopTx (Option (PaymentId × Payment)) :=
  match payment with
  | some p => do
    let payment ← lockPayment p
    pure (some (p, payment))
  | none => do
    let shop ← Tx.getDb
    pure (newest (shop.paymentsWhere fun p => p.order = o ∧ p.provider = .cod))

def ensureCodCashFinalized (o : OrderId) (payment : Option PaymentId) (actor : String) :
    ShopTx Order := Tx.atomic do
  let order ← lockOrder o
  if ¬order.isCod ∨ order.paymentStatus ≠ .cashReceived then
    return order
  match ← codPayment o payment with
  | none => return order
  | some (p, payment) => do
    Tx.when (payment.status ≠ .succeeded) (Tx.modifyDb fun shop => shop.updatePayment p
      (received · "cash_received_event" "cod_cash_finalized" "cash_received_actor" actor))
    OrderService.recordCashReceived o actor

def markCodCashReceived (o : OrderId) (p : PaymentId) (actor : String) : ShopTx Order :=
  Tx.atomic do
    let order ← lockOrder o
    let payment ← lockPayment p
    Tx.when (payment.provider ≠ .cod)
      (Tx.raise (.paymentError "This action is only valid for COD payments."))
    Tx.when (payment.order ≠ o)
      (Tx.raise (.paymentError "Payment does not belong to this order."))
    Tx.when (order.paymentStatus ≠ .cashReceived) do
      let _ ← setPaymentStatus o order .cashReceived
    ensureCodCashFinalized o (some p) actor

/-! ## The money has not arrived -/

def markFailed (o : OrderId) (p : PaymentId) (message : String) : ShopTx Unit := Tx.atomic do
  let order ← lockOrder o
  let payment ← lockPayment p
  if payment.status = .succeeded then
    return ()
  if orderHasSuccessfulPayment order then
    return ()
  savePaymentStatus p .failed message
  let _ ← OrderService.markPaymentFailed o message "payment_webhook"

def markCancelled (o : OrderId) (p : PaymentId) (message : String) : ShopTx Unit :=
  Tx.atomic do
    let order ← lockOrder o
    let payment ← lockPayment p
    if payment.status = .succeeded then
      return ()
    if orderHasSuccessfulPayment order then
      return ()
    savePaymentStatus p .cancelled message
    Tx.when (¬order.paymentStatus.isSuccessful) do
      let _ ← setPaymentStatus o order .pendingPayment

end PaymentService

end Crumbs
