import Crumbs.Db.Table
import Crumbs.Db.Transaction
import Mathlib.Algebra.Ring.Int.Defs

/-!
# Models of the Shop

The tables of the `inventory`, `products`, `cart`, `orders`, `delivery` and `payments` apps,
with the fields that the services read or write, and the exceptions the services raise.

## Contents

- Scalars: keys, money, dates and instants
- `Exn`: the exception classes, with their texts
- `Stock`: products, inventories, daily capacities and reservations
- `Shop`: the stock with carts, orders, status logs and payments
- `Database`: the shop with the payment events
- `Env`: settings, clock and gateways of one call
- `Observation`, `StockTx`, `ShopTx`, `DbTx`: what a computation shows outside, and the three
  levels at which computations run
-/

namespace Crumbs

open Crumbs.Db

abbrev ProductId := ℕ
abbrev ReservationId := ℕ
abbrev CartId := ℕ
abbrev UserId := ℕ
abbrev OrderId := ℕ
abbrev PaymentId := ℕ

/-- A `Decimal` with two places, counted in hundredths. -/
abbrev Money := ℤ

/-- `int(amount)`: the part before the point, truncated towards zero. -/
def Money.toInt (m : Money) : ℤ := m.tdiv 100

/-- A calendar day, counted from 1 January 1970. -/
abbrev Date := ℤ

/-- An instant, in microseconds. -/
abbrev Time := ℤ

/-- `timedelta(minutes=m)`. -/
def minutes (m : ℤ) : Time := m * 60000000

/-- `timedelta(seconds=n)` -/
def seconds (n : ℤ) : Time := n * 1000000

/-- `str.upper` of a latin string. -/
def upper (s : String) : String := String.ofList (s.toList.map Char.toUpper)

/-- `str.lower` of a latin string. -/
def lower (s : String) : String := String.ofList (s.toList.map Char.toLower)

/-- `str.strip` -/
def strip (s : String) : String :=
  String.ofList ((s.toList.dropWhile Char.isWhitespace).reverse.dropWhile
    Char.isWhitespace).reverse

private def pad (width : ℕ) (n : ℤ) : String :=
  let digits := (toString n.toNat).toList
  String.ofList (List.replicate (width - digits.length) '0' ++ digits)

/-- `date.isoformat`: year, month and day of the proleptic Gregorian calendar. -/
def Date.isoformat (d : Date) : String :=
  let z := d + 719468
  let era := z / 146097
  let dayOfEra := z - era * 146097
  let yearOfEra := (dayOfEra - dayOfEra / 1460 + dayOfEra / 36524 - dayOfEra / 146096) / 365
  let dayOfYear := dayOfEra - (365 * yearOfEra + yearOfEra / 4 - yearOfEra / 100)
  let month' := (5 * dayOfYear + 2) / 153
  let day := dayOfYear - (153 * month' + 2) / 5 + 1
  let month := if month' < 10 then month' + 3 else month' - 9
  let year := yearOfEra + era * 400 + if month ≤ 2 then 1 else 0
  pad 4 year ++ "-" ++ pad 2 month ++ "-" ++ pad 2 day

/-! ## Exceptions -/

/-- The exceptions that leave a service, each with its text. -/
inductive Exn where
  | insufficientStockError (message : String)
  | capacityExceededError (message : String)
  | cartMutationBlocked (message : String)
  | invalidQuantityError (message : String)
  | productUnavailableError (message : String)
  | checkoutAlreadyInProgress (message : String)
  | emptyCartError (message : String)
  | checkoutError (message : String)
  | invalidTransitionError (message : String)
  | couponError (message : String)
  | paymentError (message : String)
  | paymentConfigurationError (message : String)
  | paymentProviderError (message : String)
  | paymentAmountMismatchError (message : String)
  | webhookVerificationError (message : String)
  | webhookProcessingError (message : String)
  /-- A row that violates a database constraint. -/
  | integrityError (message : String)
  /-- `Model.DoesNotExist` -/
  | doesNotExist (model : String)
  /-- `Model.MultipleObjectsReturned` -/
  | multipleObjectsReturned (model : String)
  /-- A row that another table refers to with `on_delete=PROTECT`. -/
  | protectedError (model : String)
  /-- A built-in exception on data of an unexpected shape (`KeyError`, `TypeError`, …). -/
  | builtinError (message : String)
  deriving DecidableEq, Repr

namespace Exn

/-- `str(exc)`. -/
def text : Exn → String
  | insufficientStockError m | capacityExceededError m | cartMutationBlocked m
  | invalidQuantityError m | productUnavailableError m | checkoutAlreadyInProgress m
  | emptyCartError m | checkoutError m | invalidTransitionError m | couponError m
  | paymentError m | paymentConfigurationError m | paymentProviderError m
  | paymentAmountMismatchError m | webhookVerificationError m | webhookProcessingError m
  | integrityError m | builtinError m => m
  | doesNotExist model => model ++ " matching query does not exist."
  | multipleObjectsReturned model => "get() returned more than one " ++ model ++ "."
  | protectedError model => "Cannot delete: referenced through protected foreign keys by " ++ model

/-- `isinstance(exc, PaymentError)`. -/
def isPaymentError : Exn → Bool
  | paymentError _ | paymentConfigurationError _ | paymentProviderError _
  | paymentAmountMismatchError _ | webhookVerificationError _ | webhookProcessingError _ => true
  | _ => false

/-- `isinstance(exc, PaymentProviderError)`. -/
def isPaymentProviderError : Exn → Bool
  | paymentProviderError _ => true
  | _ => false

end Exn

/-! ## Products and stock -/

/-- `Product.AvailabilityStatus` -/
inductive AvailabilityStatus where
  | available
  | outOfStock
  | comingSoon
  deriving DecidableEq, Repr

structure Product where
  name : String
  price : Money
  availabilityStatus : AvailabilityStatus
  deriving DecidableEq, Repr

def Product.isAvailable (p : Product) : Prop := p.availabilityStatus = .available

instance (p : Product) : Decidable p.isAvailable :=
  inferInstanceAs (Decidable (p.availabilityStatus = .available))

/-- The field values of `ProductInventory()` are its defaults. -/
structure ProductInventory where
  trackStock : Bool := true
  stockQuantity : ℕ := 0
  reservedQuantity : ℕ := 0
  allowPreorder : Bool := true
  deriving DecidableEq, Repr

/-- `available_quantity` -/
def ProductInventory.availableQuantity (inv : ProductInventory) : ℕ :=
  if inv.trackStock then inv.stockQuantity - inv.reservedQuantity else 999999

structure DailyProductionCapacity where
  maxUnits : ℕ
  reservedUnits : ℕ := 0
  fulfilledUnits : ℕ := 0
  deriving DecidableEq, Repr

/-- `available_units` -/
def DailyProductionCapacity.availableUnits (cap : DailyProductionCapacity) : ℕ :=
  cap.maxUnits - cap.reservedUnits - cap.fulfilledUnits

/-- `StockReservation.Status` -/
inductive ReservationStatus where
  | active
  | confirmed
  | released
  | expired
  deriving DecidableEq, Repr

structure StockReservation where
  product : ProductId
  order : Option OrderId
  cart : Option CartId
  quantity : ℕ
  productionDate : Date
  status : ReservationStatus
  expiresAt : Option Time
  deriving DecidableEq, Repr

namespace StockReservation

/-- ACTIVE and CONFIRMED reservations hold stock and capacity. -/
def isLive (r : StockReservation) : Prop := r.status = .active ∨ r.status = .confirmed

instance (r : StockReservation) : Decidable r.isLive :=
  inferInstanceAs (Decidable (_ ∨ _))

end StockReservation

/-- The tables of the inventory app. A product has at most one inventory row, and at most one
    capacity row for each day. -/
structure Stock where
  products : ProductId → Product
  inventories : ProductId → Option ProductInventory := fun _ => none
  capacities : ProductId → Date → Option DailyProductionCapacity := fun _ _ => none
  reservations : Table StockReservation := .empty

/-! ## Carts -/

/-- A cart line; the table's check constraint is its second field. -/
structure CartItem where
  product : ProductId
  quantity : ℕ
  quantity_pos : 1 ≤ quantity
  deriving DecidableEq

structure Cart where
  user : Option UserId
  sessionKey : Option String
  activeCheckoutOrder : Option OrderId
  deriving DecidableEq, Repr

/-! ## Orders -/

/-- `Order.Status` -/
inductive OrderStatus where
  | pendingPayment
  | awaitingPayment
  | paid
  | confirmedByShop
  | preparing
  | packaged
  | outForDelivery
  | delivered
  | cancelled
  | refunded
  deriving DecidableEq, Repr

/-- The value of the status in the database and in messages. -/
def OrderStatus.value : OrderStatus → String
  | pendingPayment => "pending_payment"
  | awaitingPayment => "awaiting_payment"
  | paid => "paid"
  | confirmedByShop => "confirmed_by_shop"
  | preparing => "preparing"
  | packaged => "packaged"
  | outForDelivery => "out_for_delivery"
  | delivered => "delivered"
  | cancelled => "cancelled"
  | refunded => "refunded"

/-- `Order.PaymentStatus` -/
inductive OrderPaymentStatus where
  | pendingPayment
  | paid
  | codPending
  | codConfirmed
  | cashReceived
  | failed
  | refundRequested
  | refundProcessed
  deriving DecidableEq, Repr

/-- `Order.PaymentMethod` -/
inductive PaymentMethod where
  | cod
  | online
  | cash
  | counterCard
  deriving DecidableEq, Repr

/-- The value of the method in the database and in messages. -/
def PaymentMethod.value : PaymentMethod → String
  | cod => "cod"
  | online => "online"
  | cash => "cash"
  | counterCard => "counter_card"

/-- `Order.FulfillmentType`, also called `Order.DeliveryType` -/
inductive FulfillmentType where
  | pickup
  | courier
  | express
  | cod
  deriving DecidableEq, Repr

structure Order where
  orderNumber : String
  user : Option UserId
  email : String
  status : OrderStatus
  paymentStatus : OrderPaymentStatus
  paymentMethod : PaymentMethod
  deliveryType : FulfillmentType
  deliveryFee : Money
  subtotal : Money
  discountAmount : Money := 0
  promotionDiscountAmount : Money := 0
  total : Money
  fulfillmentDate : Option Date := none
  dailySequence : Option ℕ := none
  dailySequenceDate : Option Date := none
  createdAt : Time
  deriving DecidableEq, Repr

/-- `order.is_cod` -/
def Order.isCod (o : Order) : Prop := o.paymentMethod = .cod

instance (o : Order) : Decidable o.isCod := inferInstanceAs (Decidable (o.paymentMethod = .cod))

/-- `order.is_counter_payment` -/
def Order.isCounterPayment (o : Order) : Prop :=
  o.paymentMethod = .cash ∨ o.paymentMethod = .counterCard

instance (o : Order) : Decidable o.isCounterPayment := inferInstanceAs (Decidable (_ ∨ _))

/-- An order line; the table's check constraint is its last field. -/
structure OrderItem where
  product : ProductId
  productName : String
  unitPrice : Money
  quantity : ℕ
  lineTotal : Money
  fulfillmentDate : Option Date
  quantity_pos : 1 ≤ quantity
  deriving DecidableEq

structure OrderStatusLog where
  order : OrderId
  fromStatus : OrderStatus
  toStatus : OrderStatus
  note : String
  actor : String
  deriving DecidableEq, Repr

/-! ## Payments -/

/-- `Payment.Provider` -/
inductive Provider where
  | zarinpal
  | stripe
  | cod
  | cash
  | counterCard
  deriving DecidableEq, Repr

/-- `Payment.Status` -/
inductive PaymentStatus where
  | pending
  | processing
  | succeeded
  | failed
  | cancelled
  | refunded
  deriving DecidableEq, Repr

/-- A scalar in `Payment.metadata`. -/
inductive MetadataValue where
  | str (s : String)
  | int (n : ℤ)
  deriving DecidableEq, Repr

/-- A JSON object with scalar values. -/
abbrev Metadata := List (String × MetadataValue)

/-- Item assignment: the key keeps its place if it is there already. -/
def Metadata.set (m : Metadata) (key : String) (value : MetadataValue) : Metadata :=
  if m.any fun e => e.1 == key then m.map fun e => if e.1 = key then (key, value) else e
  else m ++ [(key, value)]

structure Payment where
  order : OrderId
  provider : Provider
  status : PaymentStatus
  amount : Money
  currency : String
  providerPaymentId : String := ""
  providerCheckoutSessionId : String := ""
  checkoutUrl : String := ""
  failureMessage : String := ""
  metadata : Metadata := []
  createdAt : Time
  deriving DecidableEq, Repr

/-- `has_active_zarinpal_checkout` -/
def Payment.hasActiveZarinpalCheckout (p : Payment) : Prop :=
  p.provider = .zarinpal ∧ p.status = .processing ∧ p.providerCheckoutSessionId ≠ "" ∧
    p.checkoutUrl ≠ ""

instance (p : Payment) : Decidable p.hasActiveZarinpalCheckout :=
  inferInstanceAs (Decidable (_ ∧ _))

/-- A received webhook, unique by its `event_id`. -/
structure PaymentEvent where
  provider : Provider
  eventType : String
  processed : Bool := false
  processingError : String := ""
  processedAt : Option Time := none
  deriving DecidableEq, Repr

/-! ## The database -/

/-- One write of `order.status`: the status an order is created with, or the status it had and
    the status it got. -/
inductive StatusWrite where
  | created (status : OrderStatus)
  | changed (fromStatus toStatus : OrderStatus)
  deriving DecidableEq, Repr

/-- The tables behind the shop's services. `statusWrites` is a history variable: no service
    reads it, and every write of an `order.status` that changes it is appended. -/
structure Shop where
  stock : Stock
  carts : Table Cart := .empty
  cartItems : CartId → List CartItem := fun _ => []
  orders : Table Order := .empty
  orderItems : OrderId → List OrderItem := fun _ => []
  statusLogs : List OrderStatusLog := []
  payments : Table Payment := .empty
  statusWrites : List (OrderId × StatusWrite) := []

/-- The shop with the payment events by `event_id`. -/
structure Database where
  shop : Shop
  events : String → Option PaymentEvent := fun _ => none

/-! ## Surroundings -/

/-- The settings that the services read, with their defaults. -/
structure Settings where
  onlinePaymentCurrency : String := "irr"
  defaultPaymentProvider : String := "zarinpal"
  stripeEnabled : Bool := false
  stripeSecretKey : String := ""
  stripeWebhookSecret : String := ""
  zarinpalMerchantId : String := ""
  zarinpalSandbox : Bool := true
  zarinpalCallbackUrl : String := ""
  paymentSuccessUrl : String := "http://localhost:8000/admin/orders/order/"
  paymentCancelUrl : String := "http://localhost:8000/admin/orders/order/"
  cartReservationMinutes : ℤ := 30

/-- One entry of an `errors` list: its `message`, if it has one. -/
abbrev GatewayError := Option String

/-- What comes back from a POST to the payment request endpoint. -/
inductive RequestReply where
  | requestException (text : String)
  | httpError (statusCode : ℕ) (responseBody : String)
  | invalidJson (responseBody : String)
  /-- A JSON object; `code` and `authority` are those of its `data`. -/
  | body (errors : List GatewayError) (code : Option ℤ) (authority : Option String)
  /-- A body of another shape, on which reading it raises. -/
  | malformed (text : String)
  deriving DecidableEq, Repr

/-- What comes back from a POST to the verify endpoint. -/
inductive VerifyReply where
  /-- `requests.RequestException`: transport, HTTP status or JSON decoding. -/
  | requestException (text : String)
  /-- A JSON object; `code` and `refId` are those of its `data`. -/
  | body (errors : List GatewayError) (code : Option ℤ) (refId : Option ℤ)
  /-- A body of another shape, on which reading it raises. -/
  | malformed (text : String)
  deriving DecidableEq, Repr

/-- The `event["data"]["object"]` of a Stripe event, as far as it is read. -/
structure StripeObject where
  object : String
  id : Option String
  checkoutSession : Option String := none
  metadataPaymentId : Option PaymentId := none
  metadataOrderNumber : Option String := none
  clientReferenceId : Option String := none
  paymentIntent : Option String := none
  lastPaymentErrorMessage : Option String := none
  deriving DecidableEq, Repr

/-- `VerifiedWebhookEvent` -/
structure VerifiedWebhookEvent (κ : Type) where
  eventId : String
  eventType : String
  dataObject : κ

/-- A line item of a Stripe checkout session. -/
structure StripeLineItem where
  currency : String
  unitAmount : ℤ
  name : String
  quantity : ℕ
  deriving DecidableEq, Repr

/-- `CheckoutSessionResult` -/
structure CheckoutSessionResult where
  sessionId : String
  url : String
  paymentIntentId : Option String
  deriving DecidableEq, Repr

/-- The JSON of a POST to the payment request endpoint. -/
structure ZarinpalRequest where
  merchantId : String
  amount : ℤ
  callbackUrl : String
  description : String
  orderNumber : String
  paymentId : PaymentId
  deriving DecidableEq, Repr

/-- The JSON of a POST to the verify endpoint. -/
structure ZarinpalVerifyRequest where
  merchantId : String
  amount : ℤ
  authority : String
  deriving DecidableEq, Repr

/-- The arguments of `stripe.checkout.Session.create`. -/
structure StripeSessionRequest where
  lineItems : List StripeLineItem
  successUrl : String
  cancelUrl : String
  customerEmail : String
  clientReferenceId : String
  paymentId : PaymentId
  deriving DecidableEq, Repr

/-- How `stripe.Webhook.construct_event` refuses a delivery. -/
inductive ConstructEventError where
  | signatureVerificationError
  | valueError

/-- How the services outside answer during one call; by default they cannot be reached. -/
structure Gateways where
  zarinpalRequest : ZarinpalRequest → RequestReply := fun _ => .requestException "timed out"
  zarinpalVerify : ZarinpalVerifyRequest → VerifyReply := fun _ => .requestException "timed out"
  stripeCreateSession : StripeSessionRequest → Except String CheckoutSessionResult :=
    fun _ => .error "timed out"
  stripeConstructEvent :
    String → String → String → Except ConstructEventError (VerifiedWebhookEvent StripeObject) :=
    fun _ _ _ => .error .signatureVerificationError

/-- What one call finds around it: the clock, fresh random parts of order numbers, the
    settings and the gateways. -/
structure Env where
  now : Time := 0
  today : Date := 0
  orderNumbers : ℕ → String := fun attempt => s!"{attempt}"
  settings : Settings := {}
  gateways : Gateways := {}

/-! ## Computations -/

/-- The counters that `max(0, …)` keeps from going below zero. -/
inductive Counter where
  | stockQuantity (product : ProductId)
  | reservedQuantity (product : ProductId)
  | reservedUnits (product : ProductId) (date : Date)
  deriving DecidableEq, Repr

/-- What happens outside the database, where no rollback reaches: a gateway's answer to a
    verify call for a payment, and a `max(0, value - quantity)` that was evaluated. -/
inductive Observation where
  | verified (payment : PaymentId) (request : ZarinpalVerifyRequest) (reply : VerifyReply)
  | clamped (counter : Counter) (value quantity : ℕ)
  deriving DecidableEq, Repr

/-- Work on the tables of the inventory app. -/
abbrev StockTx := Tx Stock (List Observation) Exn

/-- Work on the shop. -/
abbrev ShopTx := Tx Shop (List Observation) Exn

/-- Work on the whole database. -/
abbrev DbTx := Tx Database (List Observation) Exn

/-- Record an observation. -/
def observe {δ : Type} (o : Observation) : Tx δ (List Observation) Exn Unit :=
  Tx.modifyExt fun trace => trace ++ [o]

/-- `Model.objects.get`: the only match, or an exception. -/
def getOnly {δ α : Type} (model : String) : List α → Tx δ (List Observation) Exn α
  | [] => Tx.raise (.doesNotExist model)
  | [a] => pure a
  | _ :: _ :: _ => Tx.raise (.multipleObjectsReturned model)

/-- `Model.objects.get(pk=…)` on the value of the row. -/
def getRow {δ α : Type} (model : String) : Option α → Tx δ (List Observation) Exn α
  | none => Tx.raise (.doesNotExist model)
  | some a => pure a

/-- Inventory work inside shop work. -/
def ShopTx.onStock {α : Type} (x : StockTx α) : ShopTx α :=
  Tx.zoom Shop.stock (fun stock shop => { shop with stock }) x

/-- Shop work inside database work. -/
def DbTx.onShop {α : Type} (x : ShopTx α) : DbTx α :=
  Tx.zoom Database.shop (fun shop db => { db with shop }) x

end Crumbs
