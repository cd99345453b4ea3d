import Crumbs.Orders.Emitting

/-!
# The Payment Operations with their Signals

`PaymentService` once more, on the order operations that send messages. Payments have no signals of
their own.

## Contents

- `Emitting`: the operations that save orders, directly or through `OrderService`
- `simulates_markPaid`, …: what they do on the shop
-/

namespace Crumbs

open Crumbs.Db

/-! ## `PaymentService` -/

namespace Emitting

open EventTx (onShop)

/-- A new payment, and the provider's session to pay it in. -/
def openPayment (env : EventEnv) (around : Env) (provider : CheckoutProvider) (o : OrderId)
    (order : Order) (currency : String) : EventTx (PaymentId × Payment) := do
  let payment ← onShop env (createPayment
    { order := o, provider := provider.providerName, status := .pending, amount := order.total,
      currency, createdAt := around.now })
  let session ← onShop env (provider.createCheckoutSession order payment)
  onShop env (Tx.modifyDb fun shop =>
    shop.updatePayment payment.1 (PaymentService.withSession · session))
  let _ ← setPaymentStatus env o order .pendingPayment
  pure (payment.1, PaymentService.withSession payment.2 session)

/-- `around` is the environment of the call, with its clock and its gateways. -/
def initiateOnline (env : EventEnv) (around : Env) (o : OrderId) :
    EventTx (PaymentId × Payment) := Tx.atomic do
  let order ← onShop env (lockOrder o)
  onShop env (Tx.when order.paymentStatus.isSuccessful
    (Tx.raise (.paymentError s!"Order {order.orderNumber} is already paid.")))
  let currency := lower around.settings.onlinePaymentCurrency
  onShop env (Tx.when (currency ≠ "irr")
    (Tx.raise (.paymentConfigurationError "Online payments must use IRR currency.")))
  let provider ← onShop env (getOnlinePaymentProvider around)
  let shop ← onShop env Tx.getDb
  let existing := if provider.providerName = .zarinpal
    then PaymentService.getReusableZarinpalPayment shop o else none
  match existing with
  | some existing => onShop env (PaymentService.reusePayment order currency existing)
  | none => openPayment env around provider o order currency

variable (env : EventEnv)

/-- `_mark_counter_payment_received` -/
def markCounterPaymentReceived (o : OrderId) (p : PaymentId) (expectedProvider : Provider)
    (actor : String) : EventTx Order := Tx.atomic do
  let order ← onShop env (lockOrder o)
  let payment ← onShop env (lockPayment p)
  onShop env (Tx.when (payment.provider ≠ expectedProvider) (Tx.raise (.paymentError
    "Payment provider does not match the requested counter action.")))
  onShop env (Tx.when (payment.order ≠ o)
    (Tx.raise (.paymentError "Payment does not belong to this order.")))
  onShop env (Tx.when (¬order.isCounterPayment) (Tx.raise (.paymentError
    "This action is only valid for counter payment orders.")))
  if order.status ≠ .awaitingPayment ∧ payment.status = .succeeded then
    return order
  if payment.status = .succeeded then
    if order.status = .preparing then
      return order
    else
      finalizeCounterPayment env o actor
  else do
    onShop env (Tx.modifyDb fun shop => shop.updatePayment p
      (PaymentService.received · "counter_payment_event" "counter_payment_received"
        "counter_payment_actor" actor))
    finalizeCounterPayment env o actor

def markCounterCashReceived (o : OrderId) (p : PaymentId) (actor : String) : EventTx Order :=
  Tx.atomic (markCounterPaymentReceived env o p .cash actor)

def markCounterCardReceived (o : OrderId) (p : PaymentId) (actor : String) : EventTx Order :=
  Tx.atomic (markCounterPaymentReceived env o p .counterCard actor)

def markPaid (o : OrderId) (p : PaymentId) : EventTx Unit := Tx.atomic do
  let order ← onShop env (lockOrder o)
  let payment ← onShop env (lockPayment p)
  if payment.status = .succeeded then
    return ()
  if orderHasSuccessfulPayment order then
    onShop env (savePaymentStatus p .succeeded "")
    return ()
  onShop env (savePaymentStatus p .succeeded "")
  let _ ← finalizeOnlinePayment env o

def ensureCodCashFinalized (o : OrderId) (payment : Option PaymentId) (actor : String) :
    EventTx Order := Tx.atomic do
  let order ← onShop env (lockOrder o)
  if ¬order.isCod ∨ order.paymentStatus ≠ .cashReceived then
    return order
  match ← onShop env (PaymentService.codPayment o payment) with
  | none => return order
  | some (p, payment) => do
    onShop env (Tx.when (payment.status ≠ .succeeded) (Tx.modifyDb fun shop => shop.updatePayment p
      (PaymentService.received · "cash_received_event" "cod_cash_finalized" "cash_received_actor"
        actor)))
    recordCashReceived env o actor

def markCodCashReceived (o : OrderId) (p : PaymentId) (actor : String) : EventTx Order :=
  Tx.atomic do
    let order ← onShop env (lockOrder o)
    let payment ← onShop env (lockPayment p)
    onShop env (Tx.when (payment.provider ≠ .cod)
      (Tx.raise (.paymentError "This action is only valid for COD payments.")))
    onShop env (Tx.when (payment.order ≠ o)
      (Tx.raise (.paymentError "Payment does not belong to this order.")))
    Tx.when (order.paymentStatus ≠ .cashReceived) do
      let _ ← setPaymentStatus env o order .cashReceived
    ensureCodCashFinalized env o (some p) actor

def markFailed (o : OrderId) (p : PaymentId) (message : String) : EventTx Unit := Tx.atomic do
  let order ← onShop env (lockOrder o)
  let payment ← onShop env (lockPayment p)
  if payment.status = .succeeded then
    return ()
  if orderHasSuccessfulPayment order then
    return ()
  onShop env (savePaymentStatus p .failed message)
  let _ ← markPaymentFailed env o message "payment_webhook"

def markCancelled (o : OrderId) (p : PaymentId) (message : String) : EventTx Unit :=
  Tx.atomic do
    let order ← onShop env (lockOrder o)
    let payment ← onShop env (lockPayment p)
    if payment.status = .succeeded then
      return ()
    if orderHasSuccessfulPayment order then
      return ()
    onShop env (savePaymentStatus p .cancelled message)
    Tx.when (¬order.paymentStatus.isSuccessful) do
      let _ ← setPaymentStatus env o order .pendingPayment

end Emitting

/-! ## On the shop these are the operations of `PaymentService` -/

namespace Emitting

open Tx (Simulates)

variable {env : EventEnv} (h : env.fault = none) (o : OrderId) (p : PaymentId)
  (actor message : String)
include h

theorem simulates_openPayment (around : Env) (provider : CheckoutProvider) (order : Order)
    (currency : String) : Simulates shopView (openPayment env around provider o order currency)
      (PaymentService.openPayment around provider o order currency) := by
  refine (simulates_onShop h _).bind fun payment => (simulates_onShop h _).bind fun session => ?_
  refine (simulates_onShop h _).bind fun _ => ?_
  exact (simulates_setPaymentStatus h o order _).bind fun _ => Tx.simulates_pure _

theorem simulates_initiateOnline (around : Env) : Simulates shopView (initiateOnline env around o)
    (PaymentService.initiateOnline around o) := by
  refine .atomic ((simulates_onShop h _).bind fun order => (simulates_onShop h _).bind fun _ => ?_)
  refine (simulates_onShop h _).bind fun _ => (simulates_onShop h _).bind fun provider => ?_
  refine (simulates_onShop h _).bind fun shop => ?_
  dsimp only
  generalize (if provider.providerName = .zarinpal
    then PaymentService.getReusableZarinpalPayment shop o else none) = existing
  cases existing with
  | some existing => exact simulates_onShop h _
  | none => exact simulates_openPayment h o around provider order _

theorem simulates_markCounterPaymentReceived (expectedProvider : Provider) :
    Simulates shopView (markCounterPaymentReceived env o p expectedProvider actor)
      (PaymentService.markCounterPaymentReceived o p expectedProvider actor) := by
  have hfinalize := simulates_finalizeCounterPayment h o actor
  refine .atomic ((simulates_onShop h _).bind fun order => (simulates_onShop h _).bind fun _ => ?_)
  refine (simulates_onShop h _).bind fun _ => (simulates_onShop h _).bind fun _ => ?_
  refine (simulates_onShop h _).bind fun _ => .ite (Tx.simulates_pure _) ?_
  refine .ite (.ite (Tx.simulates_pure _) hfinalize) ?_
  exact (simulates_onShop h _).bind fun _ => hfinalize

theorem simulates_markCounterCashReceived : Simulates shopView
    (markCounterCashReceived env o p actor) (PaymentService.markCounterCashReceived o p actor) :=
  .atomic (simulates_markCounterPaymentReceived h o p actor _)

theorem simulates_markCounterCardReceived : Simulates shopView
    (markCounterCardReceived env o p actor) (PaymentService.markCounterCardReceived o p actor) :=
  .atomic (simulates_markCounterPaymentReceived h o p actor _)

theorem simulates_markPaid : Simulates shopView (markPaid env o p) (PaymentService.markPaid o p) := by
  refine .atomic ((simulates_onShop h _).bind fun order => (simulates_onShop h _).bind fun _ => ?_)
  refine .ite (Tx.simulates_pure _) (.ite ?_ ?_)
  · exact (simulates_onShop h _).bind fun _ => Tx.simulates_pure _
  · exact (simulates_onShop h _).bind fun _ =>
      (simulates_finalizeOnlinePayment h o).bind fun _ => Tx.simulates_pure _

theorem simulates_ensureCodCashFinalized (payment : Option PaymentId) : Simulates shopView
    (ensureCodCashFinalized env o payment actor)
    (PaymentService.ensureCodCashFinalized o payment actor) := by
  refine .atomic ((simulates_onShop h _).bind fun order => .ite (Tx.simulates_pure _) ?_)
  refine (simulates_onShop h _).bind fun found => ?_
  cases found with
  | none => exact Tx.simulates_pure _
  | some e => exact (simulates_onShop h _).bind fun _ => simulates_recordCashReceived h o actor

theorem simulates_markCodCashReceived : Simulates shopView (markCodCashReceived env o p actor)
    (PaymentService.markCodCashReceived o p actor) := by
  refine .atomic ((simulates_onShop h _).bind fun order => (simulates_onShop h _).bind fun _ => ?_)
  refine (simulates_onShop h _).bind fun _ => (simulates_onShop h _).bind fun _ => ?_
  refine Simulates.bind (.when ?_) fun _ => simulates_ensureCodCashFinalized h o actor _
  exact (simulates_setPaymentStatus h o order _).bind fun _ => Tx.simulates_pure _

theorem simulates_markFailed : Simulates shopView (markFailed env o p message)
    (PaymentService.markFailed o p message) := by
  refine .atomic ((simulates_onShop h _).bind fun order => (simulates_onShop h _).bind fun _ => ?_)
  refine .ite (Tx.simulates_pure _) (.ite (Tx.simulates_pure _) ?_)
  exact (simulates_onShop h _).bind fun _ =>
    (simulates_markPaymentFailed h o message _).bind fun _ => Tx.simulates_pure _

theorem simulates_markCancelled : Simulates shopView (markCancelled env o p message)
    (PaymentService.markCancelled o p message) := by
  refine .atomic ((simulates_onShop h _).bind fun order => (simulates_onShop h _).bind fun _ => ?_)
  refine .ite (Tx.simulates_pure _) (.ite (Tx.simulates_pure _) ?_)
  exact (simulates_onShop h _).bind fun _ => .when
    ((simulates_setPaymentStatus h o order _).bind fun _ => Tx.simulates_pure _)

end Emitting

end Crumbs
