import Crumbs.Orders.OrderService

/-!
# Cart Services

Adding to, changing and emptying a cart. A cart holds stock for every line it has, and is frozen
while a checkout of it is in progress.

## Contents

- `isOrderCheckoutInProgress`, `ensureCartMutable`: the freeze
- `lockCartForCheckout`, `calculateSubtotal`: what a checkout reads
- `addItem`, `setItemQuantity`, `removeItem`, `clearCart`
- `getOrCreateCart`, `mergeCarts`: the cart of a user or a session; one cart that goes into another
-/

namespace Crumbs

open Crumbs.Db

/-- `_IN_PROGRESS_ORDER_STATUSES` -/
def inProgressOrderStatuses : List OrderStatus := [.pendingPayment, .paid, .confirmedByShop]

/-- `_TERMINAL_PAYMENT_STATUSES` -/
def terminalPaymentStatuses : List OrderPaymentStatus :=
  [.paid, .cashReceived, .failed, .refundProcessed]

def isOrderCheckoutInProgress (order : Order) : Prop :=
  order.status ≠ .cancelled ∧ order.paymentStatus ∉ terminalPaymentStatuses ∧
    order.status ∈ inProgressOrderStatuses

instance (order : Order) : Decidable (isOrderCheckoutInProgress order) :=
  inferInstanceAs (Decidable (_ ∧ _))

namespace Shop

def updateCart (shop : Shop) (c : CartId) (f : Cart → Cart) : Shop :=
  { shop with carts := shop.carts.modify c f }

def setCartItems (shop : Shop) (c : CartId) (items : List CartItem) : Shop :=
  { shop with cartItems := fun d => if d = c then items else shop.cartItems d }

/-- No cart is frozen by the order `o` any more. -/
def dropCheckout (shop : Shop) (o : OrderId) : Shop :=
  { shop with
    carts := shop.carts.updateWhere (fun cart => cart.activeCheckoutOrder = some o)
      ({ · with activeCheckoutOrder := none }) }

/-- The line of a cart for a product; there is at most one. -/
def cartItem (shop : Shop) (c : CartId) (product : ProductId) : Option CartItem :=
  (shop.cartItems c).find? fun item => item.product = product

/-- Sets the quantity of the line for a product; a missing line is added at the end. -/
def putCartItem (shop : Shop) (c : CartId) (item : CartItem) : Shop :=
  shop.setCartItems c <|
    if (shop.cartItem c item.product).isSome then
      (shop.cartItems c).map fun old => if old.product = item.product then item else old
    else shop.cartItems c ++ [item]

end Shop

/-- `Cart.objects.get(pk=c)` -/
def getCart (c : CartId) : ShopTx Cart := do
  let shop ← Tx.getDb
  getRow "Cart" (shop.carts.rows c)

/-- The cart and its lines, under their locks. -/
def lockCartForCheckout (c : CartId) : ShopTx (Cart × List CartItem) := do
  let cart ← getCart c
  let shop ← Tx.getDb
  pure (cart, shop.cartItems c)

def calculateSubtotal (stock : Stock) (items : List CartItem) : Money :=
  (items.map fun item => (stock.products item.product).price * item.quantity).sum

def setActiveCheckoutOrder (c : CartId) (o : OrderId) : ShopTx Unit :=
  Tx.modifyDb fun shop => shop.updateCart c ({ · with activeCheckoutOrder := some o })

/-- `cart.active_checkout_order` is set to null, unless it is already. -/
def clearActiveCheckoutOrder (c : CartId) : ShopTx Unit :=
  Tx.modifyDb fun shop => shop.updateCart c ({ · with activeCheckoutOrder := none })

/-- Rejects changes while a checkout is in progress. -/
def ensureCartMutable (c : CartId) : ShopTx Unit := do
  let cart ← getCart c
  Tx.ifSome cart.activeCheckoutOrder fun o => do
    let order ← lockOrder o
    -- an order that has moved on does not freeze the cart
    Tx.when (isOrderCheckoutInProgress order) (Tx.raise (.cartMutationBlocked
      "Cart cannot be modified while checkout is in progress."))

/-- `_validate_quantity` -/
def validateQuantity (quantity : ℤ) : ShopTx Unit :=
  Tx.when (quantity < 1) (Tx.raise (.invalidQuantityError "Quantity must be at least 1."))

/-- `_validate_product` -/
def validateProduct (product : ProductId) (quantity : ℤ) (cart : Option CartId) :
    ShopTx Unit := do
  let shop ← Tx.getDb
  let row := shop.stock.products product
  Tx.when (¬row.isAvailable)
    (Tx.raise (.productUnavailableError s!"{row.name} is not available."))
  ShopTx.onStock (checkCartAvailability product quantity cart)

/-- Saves a line; the table's constraint refuses a quantity below one. -/
def saveCartItem (c : CartId) (product : ProductId) (quantity : ℤ) : ShopTx CartItem :=
  if h : 1 ≤ quantity then do
    let item : CartItem := { product, quantity := quantity.toNat, quantity_pos := by omega }
    Tx.modifyDb fun shop => shop.putCartItem c item
    pure item
  else
    Tx.raise (.integrityError "CHECK constraint failed: cart_item_quantity_positive")

/-- Adds to the line of a product, and holds stock for the whole line. -/
def addItem (env : Env) (c : CartId) (product : ProductId) (quantity : ℤ) : ShopTx CartItem :=
  Tx.atomic do
    ensureCartMutable c
    validateQuantity quantity
    let shop ← Tx.getDb
    let newQuantity : ℤ := match shop.cartItem c product with
      | none => quantity
      | some item => item.quantity + quantity
    -- the whole line has to be there, not only what is added
    validateProduct product newQuantity (some c)
    let item ← saveCartItem c product newQuantity
    let _ ← ShopTx.onStock (reserveForCartItem env c product item.quantity)
    return item

/-- Sets the line of a product, and holds stock for it. -/
def setItemQuantity (env : Env) (c : CartId) (product : ProductId) (quantity : ℤ) :
    ShopTx CartItem := Tx.atomic do
  ensureCartMutable c
  validateQuantity quantity
  validateProduct product quantity (some c)
  let item ← saveCartItem c product quantity
  let _ ← ShopTx.onStock (reserveForCartItem env c product item.quantity)
  return item

/-- Not atomic: the stock is given back before the line is deleted. -/
def removeItem (c : CartId) (product : ProductId) : ShopTx Unit := do
  ensureCartMutable c
  let _ ← ShopTx.onStock (releaseCartReservationsForProduct c product)
  Tx.modifyDb fun shop =>
    shop.setCartItems c ((shop.cartItems c).filter fun item => item.product ≠ product)

def clearCart (c : CartId) : ShopTx Unit := do
  let _ ← ShopTx.onStock (releaseCartReservations c)
  Tx.modifyDb fun shop => shop.setCartItems c []

/-- The row that belongs to a user, or else to a session key. -/
def Shop.cartFor (shop : Shop) (user : Option UserId) (sessionKey : Option String) : Option CartId :=
  ((shop.carts.filter fun row =>
    if user.isSome then row.user = user else row.sessionKey = sessionKey).head?).map Prod.fst

/-- The cart of a user, or else of a session; it is created if there is none. -/
def getOrCreateCart (user : Option UserId) (sessionKey : Option String) : ShopTx CartId := do
  Tx.when (user.isNone ∧ (sessionKey.getD "").isEmpty)
    (Tx.raise (.builtinError "Either user or session_key is required."))
  let shop ← Tx.getDb
  match shop.cartFor user sessionKey with
  | some c => return c
  | none => do
    Tx.modifyDb fun shop => { shop with
      carts := shop.carts.insert
        { user, sessionKey := if user.isSome then none else sessionKey, activeCheckoutOrder := none } }
    return shop.carts.next

/-- `cart.delete()`: its lines and its reservations go with it. -/
def deleteCart (c : CartId) : ShopTx Unit :=
  Tx.modifyDb fun shop =>
    { (shop.setCartItems c []) with
      carts := shop.carts.erase c
      stock := { shop.stock with
        reservations := shop.stock.reservations.eraseWhere fun r => r.cart = some c } }

/-- Adds what is available in one cart to another one, and deletes the first. -/
def mergeCarts (env : Env) (source target : CartId) : ShopTx Unit := Tx.atomic do
  if source = target then
    return ()
  let shop ← Tx.getDb
  -- the other lines go with their cart
  let items := (shop.cartItems source).filter fun item =>
    (shop.stock.products item.product).isAvailable
  items.forM fun item => Tx.void (addItem env target item.product item.quantity)
  deleteCart source

end Crumbs
