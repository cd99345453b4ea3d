import Crumbs.Orders.OrderService

/-!
# Opening and Verifying a Payment at a Gateway

What the two online providers ask of their gateways: a session to pay in, and for Zarinpal the
confirmation that the money was captured.

## Contents

- `CheckoutProvider`: the side of a provider that opens payments
- `ZarinpalPaymentProvider`: amounts, the payment request, the verify call
- `StripePaymentProvider`: the checkout session
- `getOnlinePaymentProvider`: the configured provider
-/

namespace Crumbs

open Crumbs.Db

variable {δ : Type}

/-- The side of a `PaymentProvider` that opens payments. -/
structure CheckoutProvider where
  providerName : Provider
  createCheckoutSession : Order → PaymentId × Payment → ShopTx CheckoutSessionResult

/-- A number of a JSON body as an f-string shows it. -/
def showNumber : Option ℤ → String
  | none => "None"
  | some n => toString n

/-! ## Zarinpal -/

namespace ZarinpalPaymentProvider

/-- `ZARINPAL_MIN_AMOUNT_IRR` -/
def minAmountIrr : ℤ := 1000

/-- `ZARINPAL_SUCCESS_CODE` -/
def successCode : ℤ := 100

/-- `__init__`: there is no provider without a merchant id. -/
def init (env : Env) : Tx δ (List Observation) Exn Unit :=
  Tx.when (env.settings.zarinpalMerchantId = "")
    (Tx.raise (.paymentConfigurationError "ZARINPAL_MERCHANT_ID is not configured."))

def apiBase (settings : Settings) : String :=
  if settings.zarinpalSandbox then "https://sandbox.zarinpal.com" else "https://api.zarinpal.com"

/-- The amount to collect, in whole rials: that of the payment, which must be the order's
    total. -/
def validateOrderPaymentAmount (order : Order) (payment : Payment) : ShopTx ℤ := do
  Tx.when (lower payment.currency ≠ "irr")
    (Tx.raise (.paymentProviderError "Zarinpal payments must use IRR currency."))
  let orderTotal := order.total.toInt
  let paymentAmount := payment.amount.toInt
  Tx.when (paymentAmount ≠ orderTotal) (Tx.raise (.paymentAmountMismatchError
    s!"Payment amount {paymentAmount} does not match order total {orderTotal}."))
  Tx.when (orderTotal < minAmountIrr) (Tx.raise (.paymentProviderError
    s!"Zarinpal minimum payment amount is {minAmountIrr} IRR."))
  pure orderTotal

/-- What a reply to the payment request means: the authority, or an exception. -/
def readRequestReply : RequestReply → Except Exn String
  | .requestException text => .error (.paymentProviderError s!"Zarinpal request failed: {text}")
  | .httpError statusCode responseBody => .error (.paymentProviderError
      s!"Zarinpal request failed with HTTP {statusCode}: {responseBody}")
  | .invalidJson responseBody => .error (.paymentProviderError
      s!"Zarinpal request returned invalid JSON: {responseBody}")
  | .malformed text => .error (.builtinError text)
  | .body (first :: _) _ _ =>
    .error (.paymentProviderError (first.getD "Zarinpal payment request rejected."))
  | .body [] code authority =>
    if code ≠ some successCode then
      .error (.paymentProviderError s!"Zarinpal returned code {showNumber code}.")
    else
      match authority with
      | none => .error (.builtinError "'authority'")
      | some authority => .ok authority

def requestPayment (env : Env) (order : Order) (payment : PaymentId × Payment)
    (amountRials : ℤ) : ShopTx CheckoutSessionResult := do
  let callbackUrl := if env.settings.zarinpalCallbackUrl ≠ "" then
    env.settings.zarinpalCallbackUrl else env.settings.paymentSuccessUrl
  Tx.when (callbackUrl = "")
    (Tx.raise (.paymentConfigurationError "ZARINPAL_CALLBACK_URL is not configured."))
  let reply := env.gateways.zarinpalRequest
    { merchantId := env.settings.zarinpalMerchantId, amount := amountRials, callbackUrl,
      description := s!"CRUMBS order {order.orderNumber}", orderNumber := order.orderNumber,
      paymentId := payment.1 }
  match readRequestReply reply with
  | .error exc => Tx.raise exc
  | .ok authority =>
    pure { sessionId := authority, url := s!"{apiBase env.settings}/pg/StartPay/{authority}",
           paymentIntentId := some authority }

def createCheckoutSession (env : Env) (order : Order) (payment : PaymentId × Payment) :
    ShopTx CheckoutSessionResult := do
  let amountRials ← validateOrderPaymentAmount order payment.2
  requestPayment env order payment amountRials

/-- What a reply to the verify call means: the reference of the captured money, or an
    exception. -/
def readVerifyReply : VerifyReply → Except Exn ℤ
  | .requestException text => .error (.paymentProviderError s!"Zarinpal verify failed: {text}")
  | .malformed text => .error (.builtinError text)
  | .body (first :: _) _ _ =>
    .error (.paymentProviderError (first.getD "Zarinpal verification rejected."))
  | .body [] code refId =>
    if code ≠ some successCode then
      .error (.paymentProviderError s!"Zarinpal verify returned code {showNumber code}.")
    else if refId.getD 0 ≤ 0 then
      .error (.paymentProviderError "Zarinpal verify response missing ref_id.")
    else
      .ok (refId.getD 0)

/-- The verify call for a payment of `amountRials`. -/
def verifyRequest (env : Env) (amountRials : ℤ) (authority : String) : ZarinpalVerifyRequest :=
  { merchantId := env.settings.zarinpalMerchantId, amount := amountRials, authority }

/-- Asks the gateway whether the money was captured; the answer cannot be rolled back. -/
def verifyPayment (env : Env) (order : Order) (payment : PaymentId × Payment)
    (authority : String) : ShopTx ℤ := do
  let amountRials ← validateOrderPaymentAmount order payment.2
  let request := verifyRequest env amountRials authority
  let reply := env.gateways.zarinpalVerify request
  observe (.verified payment.1 request reply)
  match readVerifyReply reply with
  | .error exc => Tx.raise exc
  | .ok refId => pure refId

end ZarinpalPaymentProvider

/-! ## Stripe -/

namespace StripePaymentProvider

/-- `__init__`: there is no provider unless it is switched on and has a key. -/
def init (env : Env) : Tx δ (List Observation) Exn Unit := do
  Tx.when (env.settings.stripeEnabled = false) (Tx.raise (.paymentConfigurationError
    "Stripe checkout is disabled. Set STRIPE_ENABLED=True to enable Stripe."))
  Tx.when (env.settings.stripeSecretKey = "")
    (Tx.raise (.paymentConfigurationError "STRIPE_SECRET_KEY is not configured."))

def lineItems (items : List OrderItem) (currency : String) : List StripeLineItem :=
  items.map fun item =>
    { currency, unitAmount := (item.unitPrice * 100).toInt, name := item.productName,
      quantity := item.quantity }

def createCheckoutSession (env : Env) (order : Order) (payment : PaymentId × Payment) :
    ShopTx CheckoutSessionResult := do
  Tx.when (env.settings.stripeEnabled = false) (Tx.raise (.paymentConfigurationError
    "Stripe checkout is disabled. Set STRIPE_ENABLED=True to enable Stripe."))
  let shop ← Tx.getDb
  let session := env.gateways.stripeCreateSession
    { lineItems := lineItems (shop.orderItems payment.2.order) payment.2.currency,
      successUrl := env.settings.paymentSuccessUrl, cancelUrl := env.settings.paymentCancelUrl,
      customerEmail := order.email, clientReferenceId := order.orderNumber,
      paymentId := payment.1 }
  match session with
  | .error text => Tx.raise (.paymentProviderError text)
  | .ok session => pure session

end StripePaymentProvider

/-! ## The configured provider -/

def getOnlinePaymentProvider (env : Env) : ShopTx CheckoutProvider :=
  if env.settings.defaultPaymentProvider = "zarinpal" then do
    ZarinpalPaymentProvider.init env
    pure { providerName := .zarinpal,
           createCheckoutSession := ZarinpalPaymentProvider.createCheckoutSession env }
  else if env.settings.defaultPaymentProvider = "stripe" then do
    Tx.when (env.settings.stripeEnabled = false) (Tx.raise (.paymentConfigurationError
      "Stripe checkout is disabled. Set STRIPE_ENABLED=True to enable Stripe."))
    StripePaymentProvider.init env
    pure { providerName := .stripe,
           createCheckoutSession := StripePaymentProvider.createCheckoutSession env }
  else
    Tx.raise (.paymentConfigurationError
      s!"Unsupported online payment provider: {env.settings.defaultPaymentProvider}")

end Crumbs
