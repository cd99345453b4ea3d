import Crumbs.Models

/-!
# Inventory Services

Stock checks, capacity search and the life of a reservation. A missing inventory or capacity
row is created with its defaults by the first service that needs it.

## Contents

- `Stock`: reading and writing single rows
- `checkCartAvailability`, `findFulfillmentDate`: what can be promised, and for which day
- `reserveItem`: the only place where reservations are made
- the services on the reservations of a cart, of an order, and on the stale ones; the body of
  each loop is a definition of its own
-/

namespace Crumbs

open Crumbs.Db

/-! ## Rows -/

namespace Stock

/-- The inventory row of a product, or the one that `get_or_create` would insert. -/
def inventory (s : Stock) (p : ProductId) : ProductInventory := (s.inventories p).getD {}

def setInventory (s : Stock) (p : ProductId) (inv : ProductInventory) : Stock :=
  { s with inventories := fun q => if q = p then some inv else s.inventories q }

def updateInventory (s : Stock) (p : ProductId) (f : ProductInventory → ProductInventory) :
    Stock :=
  { s with inventories := fun q => if q = p then (s.inventories p).map f else s.inventories q }

def setCapacity (s : Stock) (p : ProductId) (d : Date) (cap : DailyProductionCapacity) : Stock :=
  { s with capacities := fun q e => if q = p ∧ e = d then some cap else s.capacities q e }

def updateCapacity (s : Stock) (p : ProductId) (d : Date)
    (f : DailyProductionCapacity → DailyProductionCapacity) : Stock :=
  { s with
    capacities := fun q e => if q = p ∧ e = d then (s.capacities p d).map f else s.capacities q e }

def setAvailability (s : Stock) (p : ProductId) (status : AvailabilityStatus) : Stock :=
  { s with
    products := fun q =>
      if q = p then { s.products p with availabilityStatus := status } else s.products q }

def updateReservation (s : Stock) (i : ReservationId) (f : StockReservation → StockReservation) :
    Stock :=
  { s with reservations := s.reservations.modify i f }

/-- The reservations that satisfy `p`, in the model's ordering `-created_at`. -/
def reservationsWhere (s : Stock) (p : StockReservation → Bool) :
    List (ReservationId × StockReservation) :=
  (s.reservations.filter p).reverse

end Stock

/-- `PositiveIntegerField`: the column refuses negative values. -/
def positiveInteger (v : ℤ) : StockTx ℕ :=
  if v < 0 then Tx.raise (.integrityError "CHECK constraint failed") else pure v.toNat

/-- `max(0, value - quantity)`, with the operands on record. -/
def clampedSub (counter : Counter) (value quantity : ℕ) : StockTx ℕ := do
  observe (.clamped counter value quantity)
  pure (value - quantity)

/-! ## Availability -/

def getOrCreateInventory (product : ProductId) : StockTx ProductInventory := do
  let stock ← Tx.getDb
  Tx.modifyDb fun s => s.setInventory product (s.inventory product)
  pure (stock.inventory product)

def getAvailableQuantity (product : ProductId) : StockTx ℕ := do
  let inventory ← getOrCreateInventory product
  pure inventory.availableQuantity

/-- The units of `product` that `cart` holds in ACTIVE reservations. -/
def cartReserved (stock : Stock) (cart : CartId) (product : ProductId) : ℕ :=
  ((stock.reservationsWhere fun r =>
    r.cart = some cart ∧ r.product = product ∧ r.status = .active).map fun e => e.2.quantity).sum

/-- The units that a cart is credited with: its own; without a cart there are none. -/
def ownUnits (stock : Stock) (cart : Option CartId) (product : ProductId) : ℕ :=
  match cart with
  | none => 0
  | some cart => cartReserved stock cart product

/-- Refuses a quantity that is not on the shelf; a cart is credited with its own holds. -/
def checkCartAvailability (product : ProductId) (quantity : ℤ) (cart : Option CartId) :
    StockTx Unit := do
  let stock ← Tx.getDb
  let row := stock.products product
  Tx.when (¬row.isAvailable)
    (Tx.raise (.insufficientStockError s!"{row.name} is not available."))
  let inventory ← getOrCreateInventory product
  -- an untracked product is never short
  if inventory.trackStock = false then
    return ()
  let stock ← Tx.getDb
  -- what the cart holds is reserved, so it is not in the available quantity
  let available := inventory.availableQuantity + ownUnits stock cart product
  Tx.when ((available : ℤ) < quantity) (Tx.raise (.insufficientStockError
    s!"Only {available} units of {row.name} are available."))

/-! ## Daily capacity -/

def defaultDailyCapacity (product : ProductId) : StockTx ℕ := do
  let inventory ← getOrCreateInventory product
  pure (if inventory.trackStock then max inventory.stockQuantity 50 else 100)

def getOrCreateDailyCapacity (product : ProductId) (productionDate : Date) :
    StockTx DailyProductionCapacity := do
  let maxUnits ← defaultDailyCapacity product
  let stock ← Tx.getDb
  let capacity := (stock.capacities product productionDate).getD { maxUnits }
  Tx.modifyDb fun s => s.setCapacity product productionDate capacity
  pure capacity

/-- The loop of `findFulfillmentDate` over the offsets that are left. -/
def searchFulfillmentDate (product : ProductId) (inventory : ProductInventory) (quantity : ℤ)
    (current : Date) : List ℕ → StockTx (Option Date)
  | [] => pure none
  | offset :: rest => do
    let target := current + offset
    let capacity ← getOrCreateDailyCapacity product target
    if quantity ≤ capacity.availableUnits then
      return some target
    -- on the first day the units may come from the shelf
    if offset = 0 ∧ inventory.trackStock ∧ quantity ≤ inventory.availableQuantity then
      return some target
    searchFulfillmentDate product inventory quantity current rest

def maxDays : ℕ := 14

/-- The first day from `startDate` (today if absent) on which `quantity` can be produced, or
    the first day itself if the units are in stock. -/
def findFulfillmentDate (env : Env) (product : ProductId) (quantity : ℤ)
    (startDate : Option Date) : StockTx Date := do
  let inventory ← getOrCreateInventory product
  let stock ← Tx.getDb
  let name := (stock.products product).name
  let current := startDate.getD env.today
  let found ← searchFulfillmentDate product inventory quantity current (List.range maxDays)
  match found with
  | some target => pure target
  | none =>
    if inventory.allowPreorder then
      Tx.raise (.capacityExceededError
        (s!"{name} is fully booked for the next {maxDays} days. " ++
          "Please try a smaller quantity."))
    else
      Tx.raise (.capacityExceededError s!"{name} is not available for the requested quantity.")

/-! ## Reserving -/

/-- The day for a quantity that today's stock does not cover: a pre-order searches on from the
    day found so far. -/
def chooseFulfillmentDate (env : Env) (product : ProductId) (quantity : ℤ)
    (inventory : ProductInventory) (name : String) (fulfillmentDate : Date) : StockTx Date :=
  if inventory.trackStock ∧ (inventory.availableQuantity : ℤ) < quantity then
    if inventory.allowPreorder then
      findFulfillmentDate env product quantity (some fulfillmentDate)
    else
      Tx.raise (.insufficientStockError
        s!"Only {inventory.availableQuantity} units of {name} are available.")
  else
    pure fulfillmentDate

/-- Books `quantity` units of a product for a day, under the row locks of its inventory and of
    that day's capacity. -/
def reserveItem (env : Env) (order : Option OrderId) (product : ProductId) (quantity : ℤ)
    (cart : Option CartId) (holdMinutes : ℤ) : StockTx (ReservationId × StockReservation) := do
  let inventory ← getOrCreateInventory product
  let stock ← Tx.getDb
  let name := (stock.products product).name
  let fulfillmentDate ← findFulfillmentDate env product quantity none
  let fulfillmentDate ←
    chooseFulfillmentDate env product quantity inventory name fulfillmentDate
  let capacity ← getOrCreateDailyCapacity product fulfillmentDate
  -- a day that was chosen for the units on the shelf can be full
  Tx.when ((capacity.availableUnits : ℤ) < quantity) (Tx.raise (.capacityExceededError
    s!"Daily capacity for {name} on {fulfillmentDate.isoformat} is insufficient."))
  let reservedUnits ← positiveInteger (capacity.reservedUnits + quantity)
  Tx.modifyDb fun s => s.updateCapacity product fulfillmentDate ({ · with reservedUnits })
  -- an untracked product is booked for the day only
  Tx.when inventory.trackStock do
    let reservedQuantity ← positiveInteger (inventory.reservedQuantity + quantity)
    Tx.modifyDb fun s => s.updateInventory product ({ · with reservedQuantity })
  let held ← positiveInteger quantity
  let reservation : StockReservation :=
    { product, order, cart, quantity := held, productionDate := fulfillmentDate, status := .active,
      expiresAt := some (env.now + minutes holdMinutes) }
  let stock ← Tx.getDb
  Tx.modifyDb fun s => { s with reservations := s.reservations.insert reservation }
  pure (stock.reservations.next, reservation)

/-! ## Releasing -/

def saveReservationStatus (id : ReservationId) (status : ReservationStatus) : StockTx Unit :=
  Tx.modifyDb fun s => s.updateReservation id ({ · with status })

/-- Gives the units of a reservation back to the stock. -/
def returnUnits (reservation : StockReservation) (inventory : ProductInventory) : StockTx Unit :=
  Tx.when inventory.trackStock do
    let reservedQuantity ← clampedSub (.reservedQuantity reservation.product)
      inventory.reservedQuantity reservation.quantity
    Tx.modifyDb fun s => s.updateInventory reservation.product ({ · with reservedQuantity })

/-- Gives the units of a reservation back to its day. -/
def returnCapacity (reservation : StockReservation) (capacity : DailyProductionCapacity) :
    StockTx Unit := do
  let reservedUnits ← clampedSub (.reservedUnits reservation.product reservation.productionDate)
    capacity.reservedUnits reservation.quantity
  Tx.modifyDb fun s => s.updateCapacity reservation.product reservation.productionDate
    ({ · with reservedUnits })

def releaseSingleReservation (e : ReservationId × StockReservation) : StockTx Unit := do
  let reservation := e.2
  if reservation.status = .released ∨ reservation.status = .expired then
    return ()
  let stock ← Tx.getDb
  let inventory := stock.inventories reservation.product
  let capacity := stock.capacities reservation.product reservation.productionDate
  -- a row that is missing gets nothing back
  Tx.when (reservation.status = .confirmed ∨ reservation.status = .active) do
    Tx.ifSome inventory (returnUnits reservation)
    Tx.ifSome capacity (returnCapacity reservation)
  saveReservationStatus e.1 .released

/-- Releases what a query found; the number of rows comes back. -/
def releaseAll (reservations : List (ReservationId × StockReservation)) : StockTx ℕ := do
  reservations.forM releaseSingleReservation
  pure reservations.length

/-- Releases all ACTIVE reservations of a cart. -/
def releaseCartReservations (cart : CartId) : StockTx ℕ := Tx.atomic do
  let stock ← Tx.getDb
  releaseAll (stock.reservationsWhere fun r => r.cart = some cart ∧ r.status = .active)

/-- Releases the ACTIVE reservations of a cart for one product. -/
def releaseCartReservationsForProduct (cart : CartId) (product : ProductId) : StockTx ℕ :=
  Tx.atomic do
    let stock ← Tx.getDb
    releaseAll (stock.reservationsWhere fun r =>
      r.cart = some cart ∧ r.product = product ∧ r.status = .active)

/-- Replaces the cart's hold on a product by one for `quantity` units. -/
def reserveForCartItem (env : Env) (cart : CartId) (product : ProductId) (quantity : ℤ) :
    StockTx (Option (ReservationId × StockReservation)) := Tx.atomic do
  let inventory ← getOrCreateInventory product
  if inventory.trackStock = false then
    return none
  let stock ← Tx.getDb
  -- the old hold goes first, so that its units count for the new one
  let _ ← releaseAll (stock.reservationsWhere fun r =>
    r.cart = some cart ∧ r.product = product ∧ r.status = .active)
  let reservation ← reserveItem env none product quantity (some cart)
    env.settings.cartReservationMinutes
  return some reservation

/-- Releases what an order still holds. -/
def releaseReservations (order : OrderId) : StockTx Unit := Tx.atomic do
  let stock ← Tx.getDb
  let _ ← releaseAll (stock.reservationsWhere fun r =>
    r.order = some order ∧ (r.status = .active ∨ r.status = .confirmed))

/-! ## Confirming and fulfilling -/

def confirmSingleReservation (e : ReservationId × StockReservation) : StockTx Unit :=
  Tx.modifyDb fun s => s.updateReservation e.1 ({ · with status := .confirmed, expiresAt := none })

/-- Confirms the ACTIVE reservations of an order; from then on they do not expire. -/
def confirmReservations (order : OrderId) : StockTx Unit := Tx.atomic do
  let stock ← Tx.getDb
  (stock.reservationsWhere fun r => r.order = some order ∧ r.status = .active).forM
    confirmSingleReservation

/-- Takes the units of a reservation out of a tracked inventory, and returns the row saved. -/
def consumeUnits (reservation : StockReservation) (inventory : ProductInventory) :
    StockTx ProductInventory :=
  if inventory.trackStock then do
    let stockQuantity ← clampedSub (.stockQuantity reservation.product)
      inventory.stockQuantity reservation.quantity
    let reservedQuantity ← clampedSub (.reservedQuantity reservation.product)
      inventory.reservedQuantity reservation.quantity
    Tx.modifyDb fun s => s.updateInventory reservation.product
      ({ · with stockQuantity, reservedQuantity })
    pure { inventory with stockQuantity, reservedQuantity }
  else
    pure inventory

def fulfillSingleReservation (e : ReservationId × StockReservation) : StockTx Unit := do
  let reservation := e.2
  let stock ← Tx.getDb
  -- unlike a release this raises if there is no inventory
  let inventory ← getRow "ProductInventory" (stock.inventories reservation.product)
  let capacity ← getOrCreateDailyCapacity reservation.product reservation.productionDate
  let inventory ← consumeUnits reservation inventory
  let reservedUnits ← clampedSub (.reservedUnits reservation.product reservation.productionDate)
    capacity.reservedUnits reservation.quantity
  let fulfilledUnits := capacity.fulfilledUnits + reservation.quantity
  Tx.modifyDb fun s => s.updateCapacity reservation.product reservation.productionDate
    ({ · with fulfilledUnits, reservedUnits })
  saveReservationStatus e.1 .released
  -- nothing is left to sell
  Tx.when (inventory.trackStock ∧ inventory.availableQuantity = 0)
    (Tx.modifyDb fun s => s.setAvailability reservation.product .outOfStock)

/-- Hands the CONFIRMED reservations of an order over: they leave the stock for good. -/
def fulfillReservations (order : OrderId) : StockTx Unit := Tx.atomic do
  let stock ← Tx.getDb
  (stock.reservationsWhere fun r => r.order = some order ∧ r.status = .confirmed).forM
    fulfillSingleReservation

/-! ## Expiry -/

/-- An ACTIVE reservation whose time is over; without `expires_at` it never is. -/
def isStale (now : Time) (r : StockReservation) : Bool :=
  r.status = .active ∧ r.expiresAt.any (· < now)

def expireSingleReservation (e : ReservationId × StockReservation) : StockTx Unit := do
  releaseSingleReservation e
  saveReservationStatus e.1 .expired

def expireStaleReservations (env : Env) : StockTx ℕ := Tx.atomic do
  let stock ← Tx.getDb
  let expired := stock.reservationsWhere (isStale env.now)
  expired.forM expireSingleReservation
  pure expired.length

/-! ## Order reservations -/

def Shop.setItemFulfillmentDate (shop : Shop) (order : OrderId) (index : ℕ) (date : Date) : Shop :=
  { shop with
    orderItems := fun o =>
      if o = order then
        (shop.orderItems order).modify index fun item => { item with fulfillmentDate := some date }
      else shop.orderItems o }

/-- The loop of `reserveForOrder`: each line is booked and gets the day it was booked for. -/
def reserveOrderItems (env : Env) (order : OrderId) :
    List (OrderItem × ℕ) → ShopTx (List (ReservationId × StockReservation))
  | [] => pure []
  | (item, index) :: rest => do
    let reservation ←
      ShopTx.onStock (reserveItem env (some order) item.product item.quantity none 120)
    Tx.modifyDb fun shop => shop.setItemFulfillmentDate order index reservation.2.productionDate
    let reservations ← reserveOrderItems env order rest
    pure (reservation :: reservations)

/-- Books every line of an order; the order is ready on the last of the days. -/
def reserveForOrder (env : Env) (order : OrderId) :
    ShopTx (List (ReservationId × StockReservation)) := Tx.atomic do
  let shop ← Tx.getDb
  let reservations ← reserveOrderItems env order (shop.orderItems order).zipIdx
  let dates := reservations.map fun e => e.2.productionDate
  Tx.modifyDb fun shop =>
    { shop with orders := shop.orders.modify order ({ · with fulfillmentDate := dates.max? }) }
  pure reservations

end Crumbs
