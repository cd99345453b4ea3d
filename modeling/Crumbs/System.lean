import Crumbs.Orders.Checkout
import Crumbs.Payments.StaleCleanup
import Crumbs.Payments.Webhooks

/-!
# The System

The services, views and tasks as the steps of one system: each step runs one of them, in the
surroundings of that moment, on the database that the steps before it have left. What moves
orders or payments in more than one transaction (the staff screens, the cleanup task) is also
here in its parts, so that the runs cover every order in which concurrent transactions on them
can commit.

## Contents

- `ShopCall`, `Operation`: what a step can run
- `Step`: an operation with its surroundings, and the world it leaves
- `after`, `Always`: the database after a run, and properties of all its steps
- `cornerShop`: a small shop to try things on
-/

namespace Crumbs

open Crumbs.Db

/-! ## Operations -/

/-- The services, screens and tasks that work on the shop. Two services are left out: a login merges
    carts with `merge_carts`, whose steps do not keep the ledger, and nothing calls
    `finalize_cod_placement`. -/
inductive ShopCall where
  -- the inventory and the carts
  | expireStaleReservations
  | addItem (c : CartId) (product : ProductId) (quantity : ℤ)
  | setItemQuantity (c : CartId) (product : ProductId) (quantity : ℤ)
  | removeItem (c : CartId) (product : ProductId)
  | clearCart (c : CartId)
  -- the checkouts
  | processCheckout (c : CartId) (customer : CustomerDetails) (user : Option UserId)
      (growth : Cart → Money → GrowthCheckoutContext)
  | processCounterCheckout (c : CartId) (customer : CustomerDetails)
      (paymentMethod : PaymentMethod) (user : Option UserId)
  -- `OrderService`
  | transition (o : OrderId) (newStatus : OrderStatus) (note actor : String)
  | cancel (o : OrderId) (reason actor : String)
  | markPaymentFailed (o : OrderId) (reason actor : String)
  | requestRefund (o : OrderId) (reason actor : String)
  | processRefund (o : OrderId) (reason actor : String)
  | completeDelivery (o : OrderId) (actor : String)
  | reserveStock (o : OrderId)
  | confirmStock (o : OrderId)
  | releaseStock (o : OrderId)
  | finalizeCounterPayment (o : OrderId) (actor : String)
  | finalizeOnlinePayment (o : OrderId)
  | confirmCod (o : OrderId) (actor : String)
  | recordCashReceived (o : OrderId) (actor : String)
  -- the kitchen and the pickup counter
  | startPreparing (o : OrderId) (seen : Order) (actor : String)
  | markReady (o : OrderId) (actor : String)
  | completePickupOrder (o : OrderId) (seen : OrderStatus) (actor : String)
  -- `PaymentService`
  | initiateOnline (o : OrderId)
  | initiatePayment (o : OrderId) (seen : Order)
  | initiateCounterPayment (o : OrderId) (seen : Order) (paymentMethod : PaymentMethod)
  | markCounterCashReceived (o : OrderId) (p : PaymentId) (actor : String)
  | markCounterCardReceived (o : OrderId) (p : PaymentId) (actor : String)
  | markPaid (o : OrderId) (p : PaymentId)
  | markCodCashReceived (o : OrderId) (p : PaymentId) (actor : String)
  | ensureCodCashFinalized (o : OrderId) (p : Option PaymentId) (actor : String)
  | markFailed (o : OrderId) (p : PaymentId) (message : String)
  | markCancelled (o : OrderId) (p : PaymentId) (message : String)
  | refundPayment (o : OrderId)
  -- the cleanup task, and its work on one payment
  | cleanupStaleOnlinePayment (p : PaymentId)
  | cleanupStaleOnlinePayments (timeoutMinutes : Option ℤ)

/-- The code that a call runs. -/
def ShopCall.run (env : Env) : ShopCall → ShopTx Unit
  | expireStaleReservations => Tx.void (ShopTx.onStock (Crumbs.expireStaleReservations env))
  | addItem c product quantity => Tx.void (Crumbs.addItem env c product quantity)
  | setItemQuantity c product quantity => Tx.void (Crumbs.setItemQuantity env c product quantity)
  | removeItem c product => Crumbs.removeItem c product
  | clearCart c => Crumbs.clearCart c
  | processCheckout c customer user growth =>
    Tx.void (DeliveryServiceCheckout.processCheckout env c customer user growth)
  | processCounterCheckout c customer paymentMethod user =>
    Tx.void (CounterCheckoutService.processCheckout env c customer paymentMethod user)
  | transition o newStatus note actor => Tx.void (OrderService.transition o newStatus note actor)
  | cancel o reason actor => Tx.void (OrderService.cancel o reason actor)
  | markPaymentFailed o reason actor => Tx.void (OrderService.markPaymentFailed o reason actor)
  | requestRefund o reason actor => Tx.void (OrderService.requestRefund o reason actor)
  | processRefund o reason actor => Tx.void (OrderService.processRefund o reason actor)
  | completeDelivery o actor => Tx.void (OrderService.completeDelivery o actor)
  | reserveStock o => OrderService.reserveStock env o
  | confirmStock o => OrderService.confirmStock o
  | releaseStock o => OrderService.releaseStock o
  | finalizeCounterPayment o actor => Tx.void (OrderService.finalizeCounterPayment o actor)
  | finalizeOnlinePayment o => Tx.void (OrderService.finalizeOnlinePayment o)
  | confirmCod o actor => Tx.void (OrderService.confirmCod o actor)
  | recordCashReceived o actor => Tx.void (OrderService.recordCashReceived o actor)
  | startPreparing o seen actor => Tx.void (Crumbs.startPreparing o seen actor)
  | markReady o actor => Tx.void (Crumbs.markReady o actor)
  | completePickupOrder o seen actor => Tx.void (Crumbs.completePickupOrder o seen actor)
  | initiateOnline o => Tx.void (PaymentService.initiateOnline env o)
  | initiatePayment o seen => Tx.void (PaymentService.initiatePayment env o seen)
  | initiateCounterPayment o seen paymentMethod =>
    Tx.void (PaymentService.initiateCounterPayment env o seen paymentMethod)
  | markCounterCashReceived o p actor => Tx.void (PaymentService.markCounterCashReceived o p actor)
  | markCounterCardReceived o p actor => Tx.void (PaymentService.markCounterCardReceived o p actor)
  | markPaid o p => PaymentService.markPaid o p
  | markCodCashReceived o p actor => Tx.void (PaymentService.markCodCashReceived o p actor)
  | ensureCodCashFinalized o p actor => Tx.void (PaymentService.ensureCodCashFinalized o p actor)
  | markFailed o p message => PaymentService.markFailed o p message
  | markCancelled o p message => PaymentService.markCancelled o p message
  | refundPayment o => PaymentService.processRefund o
  | cleanupStaleOnlinePayment p => Tx.void (Crumbs.cleanupStaleOnlinePayment env p)
  | cleanupStaleOnlinePayments timeoutMinutes =>
    Tx.void (Crumbs.cleanupStaleOnlinePayments env timeoutMinutes)

/-- What a step can run: a call on the shop, or one of the two webhook views. -/
inductive Operation where
  | call (call : ShopCall)
  | zarinpalCallback (request : CallbackRequest)
  | stripeWebhook (payload signature : String)

/-- The code that an operation runs. -/
def Operation.run (env : Env) : Operation → DbTx Unit
  | call c => DbTx.onShop (c.run env)
  | zarinpalCallback request => Tx.void (Crumbs.zarinpalCallback env request)
  | stripeWebhook payload signature => Tx.void (Crumbs.stripeWebhook env payload signature)

/-! ## Runs -/

/-- One operation, in the surroundings of its moment. -/
structure Step where
  env : Env
  operation : Operation

/-- The database that a step leaves, and what it has shown outside. -/
def Step.exec (step : Step) (db : Database) : World Database (List Observation) :=
  (step.operation.run step.env ⟨db, []⟩).2

/-- The database after a run. -/
def after (db : Database) (run : List Step) : Database :=
  run.foldl (fun db step => (step.exec db).db) db

/-- `P` holds of every step of the run, in the database that the step begins with. -/
def Always (P : Database → Step → Prop) (db : Database) : List Step → Prop
  | [] => True
  | step :: rest => P db step ∧ Always P (step.exec db).db rest

@[simp] theorem after_nil (db : Database) : after db [] = db := rfl

@[simp] theorem after_cons (db : Database) (step : Step) (rest : List Step) :
    after db (step :: rest) = after (step.exec db).db rest := rfl

variable {P Q : Database → Step → Prop}

/-- What holds of every step that begins in a database with the invariant `I` holds always, if
    the steps of the run preserve `I`. -/
theorem Always.mono_of_inv {I : Database → Prop} {db : Database} {run : List Step}
    (h : Always P db run) (hdb : I db)
    (inv : ∀ db (step : Step), I db → P db step → I (step.exec db).db)
    (hPQ : ∀ db step, I db → P db step → Q db step) : Always Q db run := by
  induction run generalizing db with
  | nil => trivial
  | cons step rest ih =>
    exact ⟨hPQ db step hdb h.1, ih h.2 (inv db step hdb h.1)⟩

theorem Always.mono {db : Database} {run : List Step} (h : Always P db run)
    (hPQ : ∀ db step, P db step → Q db step) : Always Q db run :=
  h.mono_of_inv (I := fun _ => True) trivial (fun _ _ _ _ => trivial) fun db step _ =>
    hPQ db step

/-- An invariant that the steps preserve as long as `P` holds of them. -/
theorem Always.inv {I : Database → Prop} {db : Database} {run : List Step}
    (h : Always P db run) (hdb : I db)
    (inv : ∀ db (step : Step), I db → P db step → I (step.exec db).db) : I (after db run) := by
  induction run generalizing db with
  | nil => exact hdb
  | cons step rest ih => exact ih h.2 (inv db step hdb h.1)

theorem after_append (db : Database) (earlier later : List Step) :
    after db (earlier ++ later) = after (after db earlier) later := by
  induction earlier generalizing db with
  | nil => rfl
  | cons step rest ih => exact ih _

theorem Always.append_right {db : Database} {earlier later : List Step}
    (h : Always P db (earlier ++ later)) : Always P (after db earlier) later := by
  induction earlier generalizing db with
  | nil => exact h
  | cons step rest ih => exact ih h.2

theorem Always.append_left {db : Database} {earlier later : List Step}
    (h : Always P db (earlier ++ later)) : Always P db earlier := by
  induction earlier generalizing db with
  | nil => trivial
  | cons step rest ih => exact ⟨h.1, ih h.2⟩

/-- An invariant that every step preserves. -/
theorem inv_after {I : Database → Prop} {db : Database} (run : List Step) (hdb : I db)
    (inv : ∀ db (step : Step), I db → I (step.exec db).db) : I (after db run) := by
  induction run generalizing db with
  | nil => exact hdb
  | cons step rest ih => exact ih (inv db step hdb)

/-! ## A small shop -/

/-- Three loaves on the shelf, and a cart with one of them. -/
def cornerShop : Database where
  shop :=
    { stock :=
        { products := fun _ => { name := "Loaf", price := 200000, availabilityStatus := .available }
          inventories := fun p =>
            if p = 0 then some { stockQuantity := 3, allowPreorder := false } else none }
      carts := Table.empty.insert { user := none, sessionKey := none, activeCheckoutOrder := none }
      cartItems := fun c =>
        if c = 0 then [{ product := 0, quantity := 1, quantity_pos := Nat.one_pos }] else [] }

/-- The gateway opens a session for every payment, and confirms every capture. -/
def cornerEnv : Env where
  settings := { zarinpalMerchantId := "M", zarinpalCallbackUrl := "U" }
  gateways :=
    { zarinpalRequest := fun request => .body [] (some 100) (some s!"A{request.paymentId}")
      zarinpalVerify := fun _ => .body [] (some 100) (some 7) }

/-- A call in the corner shop. -/
def cornerCall (call : ShopCall) : Step := { env := cornerEnv, operation := .call call }

/-- The cart is checked out, online. -/
def cornerCheckout : Step :=
  cornerCall (.processCheckout 0 { email := "", phone := "1" } none fun _ _ => {})

/-- The cart is checked out at the counter, for cash. -/
def cornerCounterCheckout : Step :=
  cornerCall (.processCounterCheckout 0 { email := "", phone := "1" } .cash none)

/-- The order of the online checkout. -/
def cornerOrder : Order :=
  { orderNumber := "CR-19700101-0", user := none, email := "", status := .pendingPayment,
    paymentStatus := .pendingPayment, paymentMethod := .online, deliveryType := .pickup,
    deliveryFee := 0, subtotal := 200000, total := 200000, fulfillmentDate := some 0,
    dailySequence := some 101, dailySequenceDate := some 0, createdAt := 0 }

/-- The payment of the online checkout. -/
def cornerPayment : Payment :=
  { order := 0, provider := .zarinpal, status := .processing, amount := 200000, currency := "irr",
    providerPaymentId := "A0", providerCheckoutSessionId := "A0",
    checkoutUrl := "https://sandbox.zarinpal.com/pg/StartPay/A0",
    metadata := [("zarinpal_authority", .str "A0")], createdAt := 0 }

/-- The request of a callback for a payment. -/
def cornerRequest (p : PaymentId) (status : String) : CallbackRequest :=
  { authority := some s!"A{p}", status := some status }

/-- The callback for a payment. -/
def cornerCallback (p : PaymentId) (status : String) : Step :=
  { env := cornerEnv, operation := .zarinpalCallback (cornerRequest p status) }

/-- The same shop with sessions at Stripe, where each event is about payment 0. -/
def cornerStripe : Env where
  settings := { defaultPaymentProvider := "stripe", stripeEnabled := true, stripeSecretKey := "K",
                stripeWebhookSecret := "W" }
  gateways :=
    { stripeCreateSession := fun _ => .ok { sessionId := "cs", url := "pay", paymentIntentId := none }
      stripeConstructEvent := fun eventType _ _ => .ok
        { eventId := eventType, eventType,
          dataObject := { object := "event", id := none, metadataPaymentId := some 0 } } }

/-- A call in the corner shop with sessions at Stripe. -/
def cornerStripeCall (call : ShopCall) : Step := { env := cornerStripe, operation := .call call }

/-- A Stripe event about payment 0. -/
def cornerStripeEvent (eventType : String) : Step :=
  { env := cornerStripe, operation := .stripeWebhook eventType "signature" }

end Crumbs
