import Crumbs.Cart.Services
import Crumbs.Payments.Services

/-!
# Checkout

From a cart to an order: online with a payment at a gateway, or at the counter. Stock moves from
the cart to the order, and the cart is emptied.

## Contents

- `validateCartItems`, `createOrderFromCart`: the order and its lines
- `finalizeCheckoutStock`: the stock moves over
- `DeliveryServiceCheckout.processCheckout`: online checkout, with its cleanup
- `CounterCheckoutService.processCheckout`: cash or card at the register
-/

namespace Crumbs

open Crumbs.Db

/-! ## Creating the order -/

/-- The fields of a customer form that a checkout reads. -/
structure CustomerDetails where
  email : String
  phone : String
  paymentMethod : PaymentMethod := .online
  deliveryType : FulfillmentType := .pickup
  deliveryFee : Money := 0

/-- `_validate_cart_items`: something to buy, all of it available, all of it in stock. -/
def validateCartItems (items : List CartItem) : ShopTx Unit := do
  Tx.when (items = []) (Tx.raise (.emptyCartError "Cannot checkout an empty cart."))
  let shop ← Tx.getDb
  let unavailable := (items.map fun item => shop.stock.products item.product).filter
    fun product => ¬product.isAvailable
  Tx.when (unavailable ≠ []) (Tx.raise (.checkoutError ("Some items are no longer available: " ++
    ", ".intercalate (unavailable.map (·.name)))))
  items.forM fun item =>
    Tx.catching (ShopTx.onStock (checkCartAvailability item.product item.quantity none))
      fun exc => Tx.raise (.checkoutError exc.text)

/-- The loop of `generateOrderNumber` over the attempts that are left. -/
def tryOrderNumbers (env : Env) (shop : Shop) : List ℕ → ShopTx String
  | [] => Tx.raise (.checkoutError "Unable to generate a unique order number.")
  | attempt :: rest =>
    let date := String.ofList ((Date.isoformat (env.now / 86400000000)).toList.filter (· ≠ '-'))
    let orderNumber := s!"CR-{date}-{env.orderNumbers attempt}"
    if (shop.orders.filter fun o => o.orderNumber = orderNumber).isEmpty then pure orderNumber
    else tryOrderNumbers env shop rest

def generateOrderNumber (env : Env) : ShopTx String := do
  let shop ← Tx.getDb
  tryOrderNumbers env shop (List.range 5)

/-- The day, the fee and the kind of delivery; pickup is free. -/
def normalizeDeliveryFee (deliveryType : FulfillmentType) (deliveryFee : Money) : Money :=
  if deliveryType = .pickup then 0 else deliveryFee

/-- `Order.objects.create`; the status it begins with is entered in the history. -/
def insertOrder (order : Order) : ShopTx OrderId := do
  let shop ← Tx.getDb
  Tx.modifyDb fun shop =>
    { shop with
      orders := shop.orders.insert order
      statusWrites := shop.statusWrites ++ [(shop.orders.next, .created order.status)] }
  pure shop.orders.next

/-- The order line for a cart line, at today's price. -/
def orderItem (stock : Stock) (item : CartItem) : OrderItem where
  product := item.product
  productName := (stock.products item.product).name
  unitPrice := (stock.products item.product).price
  quantity := item.quantity
  lineTotal := (stock.products item.product).price * item.quantity
  fulfillmentDate := none
  quantity_pos := item.quantity_pos

def Shop.setOrderItems (shop : Shop) (o : OrderId) (items : List OrderItem) : Shop :=
  { shop with orderItems := fun p => if p = o then items else shop.orderItems p }

/-- `DAILY_SEQUENCE_START` -/
def dailySequenceStart : ℕ := 101

/-- The numbers of the orders of a day. -/
def takenSequences (shop : Shop) (date : Date) : List ℕ :=
  (shop.orders.filter fun o => o.dailySequenceDate = some date).filterMap
    fun e => e.2.dailySequence

/-- The number after the largest one. -/
def nextSequence (taken : List ℕ) : ℕ :=
  (taken.max?.filter (· ≠ 0)).getD (dailySequenceStart - 1) + 1

def nextDailySequence (shop : Shop) (date : Date) : ℕ := nextSequence (takenSequences shop date)

/-- Numbers the orders of a day; an order keeps its number. -/
def assignDailySequence (env : Env) (o : OrderId) : ShopTx Unit := Tx.atomic do
  let order ← lockOrder o
  -- 0 is no number
  Tx.when (order.dailySequence.getD 0 = 0) do
    let shop ← Tx.getDb
    let sequence := nextDailySequence shop env.today
    Tx.modifyDb fun shop => shop.updateOrder o
      ({ · with dailySequence := some sequence, dailySequenceDate := some env.today })

/-- The order of a cart, with its lines, its totals and its number for the day. -/
def createOrderFromCart (env : Env) (cart : Cart) (customer : CustomerDetails)
    (user : Option UserId) (items : List CartItem) (initialStatus : OrderStatus)
    (initialPaymentStatus : OrderPaymentStatus) : ShopTx OrderId := Tx.atomic do
  validateCartItems items
  let deliveryFee := normalizeDeliveryFee customer.deliveryType customer.deliveryFee
  let orderNumber ← generateOrderNumber env
  -- the totals need the lines, which need the order
  let o ← insertOrder
    { orderNumber, user := user.or cart.user, email := customer.email, status := initialStatus,
      paymentStatus := initialPaymentStatus, paymentMethod := customer.paymentMethod,
      deliveryType := customer.deliveryType, deliveryFee, subtotal := 0, total := 0,
      createdAt := env.now }
  let shop ← Tx.getDb
  let orderItems := items.map (orderItem shop.stock)
  Tx.modifyDb fun shop => shop.setOrderItems o orderItems
  let subtotal := (orderItems.map (·.lineTotal)).sum
  Tx.modifyDb fun shop => shop.updateOrder o
    ({ · with subtotal, total := subtotal + deliveryFee })
  assignDailySequence env o
  return o

/-- The stock holds of the cart become holds of the order, and the cart is emptied. -/
def finalizeCheckoutStock (env : Env) (c : CartId) (o : OrderId) : ShopTx Unit := Tx.atomic do
  -- the units of the cart have to be available again for the order
  let _ ← ShopTx.onStock (releaseCartReservations c)
  let _ ← reserveForOrder env o
  clearCart c

/-! ## Online checkout -/

/-- What the growth app has worked out for a checkout. -/
structure GrowthCheckoutContext where
  couponDiscount : Money := 0
  promotionDiscount : Money := 0
  totalDiscount : Money := 0
  error : String := ""

/-- `GrowthCheckoutFacade.apply_to_order`: the discounts, and the total after them. -/
def applyToOrder (o : OrderId) (growth : GrowthCheckoutContext) : ShopTx Unit := Tx.atomic do
  Tx.when (growth.error ≠ "") (Tx.raise (.couponError growth.error))
  let order ← lockOrder o
  Tx.modifyDb fun shop => shop.updateOrder o
    ({ · with
      discountAmount := growth.couponDiscount
      promotionDiscountAmount := growth.promotionDiscount
      total := max 0 (order.subtotal + order.deliveryFee - growth.totalDiscount) })

structure CheckoutResult where
  order : OrderId
  payment : Option PaymentId
  paymentMethod : PaymentMethod
  checkoutUrl : Option String

/-- `ONLINE_PAYMENT_UNAVAILABLE_MESSAGE` -/
def onlinePaymentUnavailableMessage : String :=
  "پرداخت آنلاین در حال حاضر در دسترس نیست. " ++ "لطفاً چند دقیقه دیگر دوباره تلاش کنید."

/-- `order.delete()`: refused while a payment refers to the order; lines, logs and reservations
    go with it. -/
def deleteOrder (o : OrderId) : ShopTx Unit := do
  let shop ← Tx.getDb
  Tx.when (¬(shop.paymentsWhere fun p => p.order = o).isEmpty)
    (Tx.raise (.protectedError "Payment"))
  Tx.modifyDb fun shop => shop.dropCheckout o
  Tx.modifyDb fun shop =>
    { (shop.setOrderItems o []) with
      orders := shop.orders.erase o
      statusLogs := shop.statusLogs.filter fun log => log.order ≠ o
      stock := { shop.stock with
        reservations := shop.stock.reservations.eraseWhere fun r => r.order = some o } }

namespace DeliveryServiceCheckout

/-- The checkout that the cart is frozen by, if it is still in progress. -/
def resolveInProgressCheckout (c : CartId) (cart : Cart) (paymentMethod : PaymentMethod) :
    ShopTx (Option CheckoutResult) :=
  match cart.activeCheckoutOrder with
  | none => pure none
  | some o => do
    let order ← lockOrder o
    -- the order has moved on, and the cart is free again
    if ¬isOrderCheckoutInProgress order then
      clearActiveCheckoutOrder c
      return none
    let shop ← Tx.getDb
    let payment := newest (shop.paymentsWhere fun p => p.order = o)
    Tx.when (payment.isNone ∧ paymentMethod = .online) (Tx.raise (.checkoutAlreadyInProgress
      "Checkout is already in progress for this cart."))
    return some
      { order := o, payment := payment.map Prod.fst, paymentMethod,
        checkoutUrl := (payment.map fun e => e.2.checkoutUrl).filter (· ≠ "") }

/-- `_cleanup_failed_checkout` -/
def cleanupFailedCheckout (c : CartId) (order : Option OrderId) : ShopTx Unit := do
  Tx.ifSome order fun o => do
    OrderService.releaseStock o
    deleteOrder o
  clearActiveCheckoutOrder c

/-- The checkout has failed: clean up, and say why. -/
def abortCheckout {α : Type} (c : CartId) (order : Option OrderId) (message : String) :
    ShopTx α := do
  -- the error leaves the transaction of the checkout, which takes the cleanup back with the rest
  cleanupFailedCheckout c order
  Tx.raise (.checkoutError message)

/-- The order of the checkout, with its discounts and its stock. -/
def placeOrder (env : Env) (c : CartId) (cart : Cart) (customer : CustomerDetails)
    (user : Option UserId) (items : List CartItem) (growth : GrowthCheckoutContext) :
    ShopTx OrderId := do
  let o ← Tx.catching
    (createOrderFromCart env cart customer user items .pendingPayment .pendingPayment)
    fun exc => abortCheckout c none exc.text
  Tx.catching
    (do
      setActiveCheckoutOrder c o
      applyToOrder o growth
      finalizeCheckoutStock env c o)
    fun exc => abortCheckout c (some o) exc.text
  return o

/-- The payment of the checkout. -/
def payOrder (env : Env) (c : CartId) (o : OrderId) : ShopTx (PaymentId × Payment) :=
  Tx.catching (PaymentService.initiateOnline env o) fun exc =>
    if exc.isPaymentError then
      abortCheckout c (some o) onlinePaymentUnavailableMessage
    else
      Tx.raise exc

/-- The checkout of a cart that is not in one yet. -/
def startCheckout (env : Env) (c : CartId) (cart : Cart) (items : List CartItem)
    (customer : CustomerDetails) (user : Option UserId) (growth : GrowthCheckoutContext) :
    ShopTx CheckoutResult := do
  Tx.when (items = []) (Tx.raise (.checkoutError "Cannot checkout an empty cart."))
  Tx.when (customer.phone = "")
    (Tx.raise (.checkoutError "شماره تماس برای ثبت سفارش الزامی است."))
  Tx.when (growth.error ≠ "") (Tx.raise (.checkoutError growth.error))
  let checkoutData :=
    { customer with paymentMethod := .online, deliveryType := .pickup, deliveryFee := 0 }
  let o ← placeOrder env c cart checkoutData user items growth
  let payment ← payOrder env c o
  -- the object in hand is saved over whatever the payment has written
  Tx.modifyDb fun shop => shop.updateOrder o ({ · with paymentStatus := .pendingPayment })
  Tx.modifyDb fun shop => shop.setStatus o .pendingPayment
  return { order := o, payment := some payment.1, paymentMethod := .online,
           checkoutUrl := some payment.2.checkoutUrl }

/-- `growth cart subtotal` is what `GrowthCheckoutFacade.prepare` answers. -/
def processCheckout (env : Env) (c : CartId) (customer : CustomerDetails) (user : Option UserId)
    (growth : Cart → Money → GrowthCheckoutContext) : ShopTx CheckoutResult := Tx.atomic do
  let (cart, items) ← lockCartForCheckout c
  match ← resolveInProgressCheckout c cart .online with
  | some existing => return existing
  | none => do
    let shop ← Tx.getDb
    startCheckout env c cart items customer user
      (growth cart (calculateSubtotal shop.stock items))

end DeliveryServiceCheckout

/-! ## Counter checkout -/

namespace CounterCheckoutService

structure CounterCheckoutResult where
  order : OrderId
  payment : PaymentId
  paymentMethod : PaymentMethod

def processCheckout (env : Env) (c : CartId) (customer : CustomerDetails)
    (paymentMethod : PaymentMethod) (user : Option UserId) : ShopTx CounterCheckoutResult :=
  Tx.atomic do
    Tx.when (paymentMethod ≠ .cash ∧ paymentMethod ≠ .counterCard) (Tx.raise (.checkoutError
      s!"Unsupported counter payment method: {paymentMethod.value}"))
    Tx.when (customer.phone = "")
      (Tx.raise (.checkoutError "شماره تماس برای ثبت سفارش الزامی است."))
    let (cart, items) ← lockCartForCheckout c
    Tx.when (items = []) (Tx.raise (.checkoutError "Cannot checkout an empty cart."))
    let checkoutData :=
      { customer with paymentMethod, deliveryType := .pickup, deliveryFee := 0 }
    let o ← createOrderFromCart env cart checkoutData user items .awaitingPayment .pendingPayment
    finalizeCheckoutStock env c o
    -- the object with its totals
    let order ← lockOrder o
    let payment ← PaymentService.initiateCounterPayment env o order paymentMethod
    return { order := o, payment := payment.1, paymentMethod }

end CounterCheckoutService

end Crumbs
