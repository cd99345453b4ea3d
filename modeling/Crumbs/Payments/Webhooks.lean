import Crumbs.Payments.Services

/-!
# Webhooks and Callbacks

How the answers of the gateways come back: each provider verifies and handles its own events,
`processWebhook` makes every event count once, and the two views turn requests into events and
exceptions into responses.

## Contents

- `WebhookProvider`: the side of a provider that answers webhooks
- `ZarinpalPaymentProvider.webhooks`, `StripePaymentProvider.webhooks`
- `processWebhook`: deduplication, handler, bookkeeping
- `zarinpalCallback`, `stripeWebhook`: the views
-/

namespace Crumbs

open Crumbs.Db

/-- The side of a `PaymentProvider` that answers webhooks, for payloads of type `π` and events
    with data of type `κ`. -/
structure WebhookProvider (π κ : Type) where
  providerName : Provider
  verifyWebhook : π → String → Except Exn (VerifiedWebhookEvent κ)
  handleWebhookEvent : VerifiedWebhookEvent κ → ShopTx Unit

/-- The truth value of an optional string: empty counts as absent. -/
def truthy (s : Option String) : Option String := s.filter (· ≠ "")

/-- The first of two optional strings that is neither absent nor empty. -/
def firstTruthy (s t : Option String) : Option String := (truthy s).or (truthy t)

/-- `select_for_update().select_related("order").get(pk=p)`: a payment with its order. -/
def lockPaymentWithOrder (p : PaymentId) : ShopTx (Payment × Order) := do
  let payment ← lockPayment p
  let order ← lockOrder payment.order
  pure (payment, order)

/-! ## Zarinpal -/

namespace ZarinpalPaymentProvider

/-- The `data_object` of a Zarinpal event. -/
structure CallbackData where
  authority : String
  status : Option String
  paymentId : Option PaymentId

/-- The body of a callback: nothing, something that is no JSON text, or an object with these
    members. -/
inductive CallbackPayload where
  | empty
  | invalid
  | object (authority authorityCapitalized status statusCapitalized : Option String)
      (paymentId : Option PaymentId)

def eventId (authority : String) : String := s!"zarinpal:authority:{authority}"

def verifyWebhook (payload : CallbackPayload) (_signature : String) :
    Except Exn (VerifiedWebhookEvent CallbackData) :=
  match payload with
  | .empty => .error (.webhookVerificationError "Missing Zarinpal callback payload.")
  | .invalid => .error (.webhookVerificationError "Invalid Zarinpal callback payload.")
  | .object authority authorityCapitalized status statusCapitalized paymentId =>
    match firstTruthy authority authorityCapitalized with
    | none => .error (.webhookVerificationError "Missing Zarinpal authority in callback.")
    | some authority => .ok
      { eventId := eventId authority, eventType := "payment.callback",
        dataObject :=
          { authority, status := (truthy status).or statusCapitalized, paymentId } }

/-- `_resolve_payment` -/
def resolvePayment (data : CallbackData) : ShopTx (PaymentId × Payment) := do
  let shop ← Tx.getDb
  match data.paymentId with
  | some p => do
    -- the authority is not compared with that of this payment
    let payment ← getRow "Payment" ((shop.payments.rows p).filter (·.provider = .zarinpal))
    pure (p, payment)
  | none =>
    getOnly "Payment" (shop.paymentsWhere fun p =>
      p.provider = .zarinpal ∧ p.providerCheckoutSessionId = data.authority)

/-- `str(data.get("status", "")).upper()` -/
def callbackStatus (data : CallbackData) : String := upper (data.status.getD "None")

/-- The payment with the reference that the gateway gave for the captured money. -/
def withReference (payment : Payment) (authority : String) (refId : ℤ) : Payment :=
  { payment with
    providerCheckoutSessionId := authority
    providerPaymentId := toString refId
    metadata := (payment.metadata.set "zarinpal_authority" (.str authority)).set
      "zarinpal_ref_id" (.int refId) }

/-- The verify call; if the gateway refuses, the payment has failed and there is no
    reference. -/
def verifyOrFail (env : Env) (order : Order) (payment : PaymentId × Payment)
    (authority : String) : ShopTx (Option ℤ) :=
  Tx.catching
    (do
      let refId ← verifyPayment env order payment authority
      pure (some refId))
    (fun exc =>
      if exc.isPaymentProviderError then do
        PaymentService.markFailed payment.2.order payment.1 exc.text
        pure none
      else
        Tx.raise exc)

/-- The part of `handle_webhook_event` that runs under the lock of the payment. -/
def settleCallback (env : Env) (data : CallbackData) (p : PaymentId) : ShopTx Unit :=
  Tx.atomic do
    let (payment, order) ← lockPaymentWithOrder p
    -- the same callback again
    if payment.status = .succeeded then
      return ()
    -- another payment has paid the order, and the gateway is not asked
    if order.paymentStatus.isSuccessful then
      savePaymentStatus p .succeeded ""
      return ()
    if callbackStatus data ≠ "OK" then
      PaymentService.markFailed payment.order p "Zarinpal payment was not completed."
      return ()
    match ← verifyOrFail env order (p, payment) data.authority with
    | none => return ()
    | some refId => do
      Tx.modifyDb fun shop => shop.updatePayment p (withReference · data.authority refId)
      PaymentService.markPaid payment.order p

def handleWebhookEvent (env : Env) (event : VerifiedWebhookEvent CallbackData) :
    ShopTx Unit := do
  let payment ← resolvePayment event.dataObject
  settleCallback env event.dataObject payment.1

def webhooks (env : Env) : WebhookProvider CallbackPayload CallbackData where
  providerName := .zarinpal
  verifyWebhook := verifyWebhook
  handleWebhookEvent := handleWebhookEvent env

end ZarinpalPaymentProvider

/-! ## Stripe -/

namespace StripePaymentProvider

def verifyWebhook (env : Env) (payload signature : String) :
    Except Exn (VerifiedWebhookEvent StripeObject) :=
  if env.settings.stripeWebhookSecret = "" then
    .error (.paymentConfigurationError "STRIPE_WEBHOOK_SECRET is not configured.")
  else if signature = "" then
    .error (.webhookVerificationError "Missing Stripe-Signature header.")
  else
    match env.gateways.stripeConstructEvent payload signature
      env.settings.stripeWebhookSecret with
    | .error .signatureVerificationError =>
      .error (.webhookVerificationError "Invalid Stripe webhook signature.")
    | .error .valueError => .error (.webhookVerificationError "Invalid Stripe webhook payload.")
    | .ok event => .ok event

/-- The checkout session that an event's object is, or names. -/
def sessionId (data : StripeObject) : Option String :=
  truthy (if data.object = "checkout.session" then data.id else data.checkoutSession)

/-- `_get_payment_from_event`: by payment id, by checkout session, by order number. -/
def getPaymentFromEvent (data : StripeObject) : ShopTx PaymentId := do
  let shop ← Tx.getDb
  match data.metadataPaymentId with
  | some p => do
    let _ ← getRow "Payment" (shop.payments.rows p)
    pure p
  | none =>
    match sessionId data with
    | some sessionId => do
      let payment ← getOnly "Payment"
        (shop.paymentsWhere fun p => p.providerCheckoutSessionId = sessionId)
      pure payment.1
    | none =>
      match firstTruthy data.metadataOrderNumber data.clientReferenceId with
      | some orderNumber => do
        let payment ← getRow "Payment" (newest (shop.paymentsWhere fun p =>
          (shop.orders.rows p.order).any (·.orderNumber = orderNumber) ∧ p.provider = .stripe))
        pure payment.1
      | none => Tx.raise (.paymentProviderError
          "Unable to resolve payment from Stripe webhook event.")

/-- The payment with the ids of a completed session. -/
def withIntent (payment : Payment) (data : StripeObject) : Payment :=
  { payment with
    providerCheckoutSessionId := data.id.getD payment.providerCheckoutSessionId
    providerPaymentId := (truthy data.paymentIntent).getD payment.providerPaymentId }

def handleCheckoutCompleted (data : StripeObject) : ShopTx Unit := do
  let p ← getPaymentFromEvent data
  Tx.atomic do
    let (payment, order) ← lockPaymentWithOrder p
    if payment.status = .succeeded then
      return ()
    if order.paymentStatus.isSuccessful then
      savePaymentStatus p .succeeded ""
      return ()
    Tx.modifyDb fun shop => shop.updatePayment p (withIntent · data)
    PaymentService.markPaid payment.order p

def handleCheckoutExpired (data : StripeObject) : ShopTx Unit := do
  let p ← getPaymentFromEvent data
  Tx.atomic do
    let (payment, _) ← lockPaymentWithOrder p
    if payment.status = .succeeded then
      return ()
    PaymentService.markCancelled payment.order p "Checkout session expired."

def handlePaymentFailed (data : StripeObject) : ShopTx Unit := do
  let p ← getPaymentFromEvent data
  Tx.atomic do
    let (payment, order) ← lockPaymentWithOrder p
    if payment.status = .succeeded then
      return ()
    if order.paymentStatus.isSuccessful then
      return ()
    Tx.modifyDb fun shop => shop.updatePayment p fun payment =>
      { payment with providerPaymentId := data.id.getD payment.providerPaymentId }
    PaymentService.markFailed payment.order p
      (data.lastPaymentErrorMessage.getD "Payment failed.")

def handleChargeRefunded (data : StripeObject) : ShopTx Unit := do
  let shop ← Tx.getDb
  let payment ← getOnly "Payment"
    (shop.paymentsWhere fun p => some p.providerPaymentId = data.paymentIntent)
  let _ ← OrderService.processRefund payment.2.order "Stripe refund" "stripe_webhook"

/-- Events of other types are ignored. -/
def handleWebhookEvent (event : VerifiedWebhookEvent StripeObject) : ShopTx Unit :=
  if event.eventType = "checkout.session.completed" then handleCheckoutCompleted event.dataObject
  else if event.eventType = "checkout.session.expired" then handleCheckoutExpired event.dataObject
  else if event.eventType = "payment_intent.payment_failed" then
    handlePaymentFailed event.dataObject
  else if event.eventType = "charge.refunded" then handleChargeRefunded event.dataObject
  else pure ()

def webhooks (env : Env) : WebhookProvider String StripeObject where
  providerName := .stripe
  verifyWebhook := verifyWebhook env
  handleWebhookEvent := handleWebhookEvent

end StripePaymentProvider

/-! ## Events -/

namespace Database

def setEvent (db : Database) (eventId : String) (event : PaymentEvent) : Database :=
  { db with events := fun id => if id = eventId then some event else db.events id }

def updateEvent (db : Database) (eventId : String) (f : PaymentEvent → PaymentEvent) : Database :=
  { db with events := fun id => if id = eventId then (db.events id).map f else db.events id }

end Database

/-- An exception of the handler is noted on the event and goes on as a
    `WebhookProcessingError`. -/
def runHandler (eventId : String) (handler : ShopTx Unit) : DbTx Unit :=
  Tx.catching (DbTx.onShop handler) fun exc => do
    -- the note is lost again when the exception leaves the transaction
    Tx.modifyDb fun db => db.updateEvent eventId ({ · with processingError := exc.text })
    Tx.raise (.webhookProcessingError exc.text)

/-- The event as `get_or_create` finds or makes it. -/
def receivedEvent {π κ : Type} (db : Database) (provider : WebhookProvider π κ)
    (event : VerifiedWebhookEvent κ) : PaymentEvent :=
  (db.events event.eventId).getD { provider := provider.providerName, eventType := event.eventType }

/-- The event after its handler has returned. -/
def PaymentEvent.markProcessed (now : Time) (event : PaymentEvent) : PaymentEvent :=
  { event with processed := true, processedAt := some now, processingError := "" }

/-- Handles a delivery unless its event has been processed before. -/
def processWebhook {π κ : Type} (env : Env) (provider : WebhookProvider π κ) (payload : π)
    (signature : String) : DbTx (String × PaymentEvent) := Tx.atomic do
  let event ← Tx.ofExcept (provider.verifyWebhook payload signature)
  let db ← Tx.getDb
  let paymentEvent := receivedEvent db provider event
  Tx.modifyDb fun db => db.setEvent event.eventId paymentEvent
  -- under the lock of the event, so a second delivery has waited for the first
  if paymentEvent.processed then
    return (event.eventId, paymentEvent)
  runHandler event.eventId (provider.handleWebhookEvent event)
  Tx.modifyDb fun db => db.updateEvent event.eventId (·.markProcessed env.now)
  return (event.eventId, paymentEvent.markProcessed env.now)

def handleStripeWebhook (env : Env) (payload signature : String) :
    DbTx (String × PaymentEvent) := do
  Tx.when (env.settings.stripeEnabled = false) (Tx.raise (.paymentConfigurationError
    "Stripe webhooks are disabled. Set STRIPE_ENABLED=True to enable Stripe."))
  StripePaymentProvider.init env
  processWebhook env (StripePaymentProvider.webhooks env) payload signature

def handleZarinpalCallback (env : Env) (payload : ZarinpalPaymentProvider.CallbackPayload) :
    DbTx (String × PaymentEvent) := do
  ZarinpalPaymentProvider.init env
  processWebhook env (ZarinpalPaymentProvider.webhooks env) payload ""

/-! ## Views -/

/-- The response to a webhook: its HTTP status, and the JSON body if there is one. -/
inductive WebhookResponse where
  | plain (statusCode : ℕ)
  | error (statusCode : ℕ) (message : String)
  | processed (processed : Bool) (eventId : String)
  deriving DecidableEq, Repr

/-- The query of a GET to the callback address, in either spelling. -/
structure CallbackRequest where
  authorityCapitalized : Option String := none
  authority : Option String := none
  statusCapitalized : Option String := none
  status : Option String := none

namespace CallbackRequest

def theAuthority (request : CallbackRequest) : String :=
  (truthy request.authorityCapitalized).getD (request.authority.getD "")

def theStatus (request : CallbackRequest) : String :=
  (truthy request.statusCapitalized).getD (request.status.getD "")

end CallbackRequest

/-- The exceptions that the callback view answers with a response of their own. -/
def callbackError (exc : Exn) : DbTx WebhookResponse :=
  match exc with
  | .webhookVerificationError message => pure (.error 400 message)
  | .paymentConfigurationError message => pure (.error 503 message)
  | .webhookProcessingError message => pure (.error 500 message)
  | exc => Tx.raise exc

def zarinpalCallback (env : Env) (request : CallbackRequest) : DbTx WebhookResponse := do
  if request.theAuthority = "" then
    return .error 400 "Missing Zarinpal authority."
  let db ← Tx.getDb
  -- outside the lock, and only for the id
  let payment := newest (db.shop.paymentsWhere fun p =>
    p.provider = .zarinpal ∧ p.providerCheckoutSessionId = request.theAuthority)
  let payload := ZarinpalPaymentProvider.CallbackPayload.object (some request.theAuthority) none
    (some request.theStatus) none (payment.map Prod.fst)
  Tx.catching
    (do
      let event ← handleZarinpalCallback env payload
      pure (.processed event.2.processed event.1))
    callbackError

/-- The exceptions that the Stripe view answers with a response of their own. -/
def stripeError (exc : Exn) : DbTx WebhookResponse :=
  match exc with
  | .webhookVerificationError _ => pure (.plain 400)
  | .paymentConfigurationError _ => pure (.plain 503)
  | .webhookProcessingError _ => pure (.plain 500)
  | exc => Tx.raise exc

def stripeWebhook (env : Env) (payload signature : String) : DbTx WebhookResponse :=
  Tx.catching
    (do
      let _ ← handleStripeWebhook env payload signature
      pure (.plain 200))
    stripeError

end Crumbs
