import Crumbs.System

/-!
# Concurrent Calls on a Cart

Any number of additions to a cart and of checkouts of it, with the other work of the shop in
between. A checkout locks the row of the cart, then the lines that it finds, and keeps the locks to
its end. An addition locks nothing before it saves: it looks its line up, checks it and reads it
again in statements of their own, and each of these sees what is committed by then.

## Contents

- `addBegins`, `addChecks`, `addSaves`: the statements of an addition
- `Checkout`: a checkout before and after it has locked the cart
- `CartCalls`: the calls on a cart, how far each has come, and the database
- `CartAction`, `CartCalls.step`: what may happen next
- `addItem_alone`, `checkout_alone`: a call that nothing comes between is the service
-/

namespace Crumbs

open Crumbs.Db

/-! ## The parts of the calls -/

/-- The guards of `addItem`. -/
def addBegins (c : CartId) (quantity : ℤ) : ShopTx Unit := do
  ensureCartMutable c
  validateQuantity quantity

/-- The line is looked up, and what it is to become is checked. -/
def addChecks (c : CartId) (product : ProductId) (quantity : ℤ) : ShopTx Unit := do
  let shop ← Tx.getDb
  let newQuantity : ℤ := match shop.cartItem c product with
    | none => quantity
    | some item => item.quantity + quantity
  validateProduct product newQuantity (some c)

/-- `get_or_create` has found `line`, which is saved with the quantity added, or creates it. -/
def addSaves (env : Env) (c : CartId) (product : ProductId) (quantity : ℤ)
    (line : Option CartItem) : ShopTx CartItem := do
  let newQuantity : ℤ := match line with
    | none => quantity
    | some item => item.quantity + quantity
  let item ← saveCartItem c product newQuantity
  let _ ← ShopTx.onStock (reserveForCartItem env c product item.quantity)
  return item

namespace DeliveryServiceCheckout

/-- What `processCheckout` does with the cart and the lines that it has locked. -/
def checkoutLocked (env : Env) (c : CartId) (customer : CustomerDetails) (user : Option UserId)
    (growth : Cart → Money → GrowthCheckoutContext) (cart : Cart) (items : List CartItem) :
    ShopTx CheckoutResult := do
  match ← resolveInProgressCheckout c cart .online with
  | some existing => return existing
  | none => do
    let shop ← Tx.getDb
    startCheckout env c cart items customer user
      (growth cart (calculateSubtotal shop.stock items))

theorem processCheckout_eq (env : Env) (c : CartId) (customer : CustomerDetails)
    (user : Option UserId) (growth : Cart → Money → GrowthCheckoutContext) :
    processCheckout env c customer user growth = Tx.atomic (do
      let e ← lockCartForCheckout c
      checkoutLocked env c customer user growth e.1 e.2) := rfl

end DeliveryServiceCheckout

namespace CounterCheckoutService

/-- What `processCheckout` checks before it locks the cart. -/
def checkRequest (customer : CustomerDetails) (paymentMethod : PaymentMethod) : ShopTx Unit := do
  Tx.when (paymentMethod ≠ .cash ∧ paymentMethod ≠ .counterCard) (Tx.raise (.checkoutError
    s!"Unsupported counter payment method: {paymentMethod.value}"))
  Tx.when (customer.phone = "")
    (Tx.raise (.checkoutError "شماره تماس برای ثبت سفارش الزامی است."))

/-- What it does with the cart and the lines that it has locked. -/
def checkoutLocked (env : Env) (c : CartId) (customer : CustomerDetails)
    (paymentMethod : PaymentMethod) (user : Option UserId) (cart : Cart)
    (items : List CartItem) : ShopTx CounterCheckoutResult := do
  Tx.when (items = []) (Tx.raise (.checkoutError "Cannot checkout an empty cart."))
  let checkoutData :=
    { customer with paymentMethod, deliveryType := .pickup, deliveryFee := 0 }
  let o ← createOrderFromCart env cart checkoutData user items .awaitingPayment .pendingPayment
  finalizeCheckoutStock env c o
  let order ← lockOrder o
  let payment ← PaymentService.initiateCounterPayment env o order paymentMethod
  return { order := o, payment := payment.1, paymentMethod }

theorem processCheckout_eq (env : Env) (c : CartId) (customer : CustomerDetails)
    (paymentMethod : PaymentMethod) (user : Option UserId) :
    processCheckout env c customer paymentMethod user = Tx.atomic (do
      checkRequest customer paymentMethod
      let e ← lockCartForCheckout c
      checkoutLocked env c customer paymentMethod user e.1 e.2) := by
  rw [checkRequest]
  simp only [Tx.bind_bind]
  rfl

end CounterCheckoutService

/-- The two checkouts of a cart, with their arguments. -/
inductive Checkout where
  | online (customer : CustomerDetails) (user : Option UserId)
      (growth : Cart → Money → GrowthCheckoutContext)
  | counter (customer : CustomerDetails) (paymentMethod : PaymentMethod) (user : Option UserId)

namespace Checkout

/-- The service; it returns the order. -/
def call (env : Env) (c : CartId) : Checkout → ShopTx OrderId
  | online customer user growth => do
    let result ← DeliveryServiceCheckout.processCheckout env c customer user growth
    return result.order
  | counter customer paymentMethod user => do
    let result ← CounterCheckoutService.processCheckout env c customer paymentMethod user
    return result.order

/-- The part before the lock. -/
def beforeLock : Checkout → ShopTx Unit
  | online .. => pure ()
  | counter customer paymentMethod _ => CounterCheckoutService.checkRequest customer paymentMethod

/-- The part after it, which is rolled back if it raises. -/
def afterLock (env : Env) (c : CartId) (cart : Cart) (items : List CartItem) :
    Checkout → ShopTx OrderId
  | online customer user growth => do
    let result ← Tx.atomic
      (DeliveryServiceCheckout.checkoutLocked env c customer user growth cart items)
    return result.order
  | counter customer paymentMethod user => do
    let result ← Tx.atomic
      (CounterCheckoutService.checkoutLocked env c customer paymentMethod user cart items)
    return result.order

end Checkout

/-! ## Calls on a cart -/

/-- A call's number. -/
abbrev CallId := ℕ

/-- How far an addition has come. -/
inductive AddStage where
  | begun
  | checked
  /-- `get_or_create` has found this line, in the cart as it was filled for the `n`-th time. -/
  | read (line : Option CartItem) (n : ℕ)

/-- How far a call has come. -/
inductive CallState where
  | idle
  | adding (product : ProductId) (quantity : ℤ) (stage : AddStage)
  /-- The cart is locked, and so are the lines, once they are read. -/
  | checkingOut (checkout : Checkout) (cart : Cart) (items : Option (List CartItem))
  /-- A checkout returns its order. -/
  | returned (order : Option OrderId)
  | raised

def CallState.IsCheckingOut : CallState → Prop
  | checkingOut .. => True
  | _ => False

/-- The calls on a cart, and the database as committed. `holder` has the lock on the row of the
    cart; `added` and `created` keep account of what additions have added and of the orders that
    checkouts have made. -/
structure CartCalls where
  db : Database
  holder : Option CallId
  calls : CallId → CallState
  added : List (ProductId × ℤ)
  created : List OrderId

/-- What may happen next: a call goes on by a step, or something else happens in the shop. -/
inductive CartAction where
  | addBegins (t : CallId) (product : ProductId) (quantity : ℤ)
  | addChecks (t : CallId)
  | addReads (t : CallId)
  | addSaves (t : CallId) (env : Env)
  | locksCart (t : CallId) (checkout : Checkout)
  | locksItems (t : CallId)
  | checksOut (t : CallId) (env : Env)
  | others (step : Step)

/-- The operation works on the lines of the cart. -/
def Operation.IsOnCart (c : CartId) : Operation → Prop
  | .call (.addItem d _ _) | .call (.setItemQuantity d _ _) | .call (.removeItem d _)
  | .call (.clearCart d) | .call (.processCheckout d _ _ _)
  | .call (.processCounterCheckout d _ _ _) => d = c
  | _ => False

instance (c : CartId) (operation : Operation) : Decidable (operation.IsOnCart c) := by
  unfold Operation.IsOnCart
  split <;> infer_instance

namespace CartCalls

/-- No call has begun. -/
def start (db : Database) : CartCalls where
  db
  holder := none
  calls _ := .idle
  added := []
  created := []

def setCall (s : CartCalls) (t : CallId) (call : CallState) : CartCalls :=
  { s with calls := fun u => if u = t then call else s.calls u }

@[simp] theorem calls_setCall_self (s : CartCalls) (t : CallId) (call : CallState) :
    (s.setCall t call).calls t = call := if_pos rfl

theorem calls_setCall_ne (s : CartCalls) {t u : CallId} (call : CallState) (h : u ≠ t) :
    (s.setCall t call).calls u = s.calls u := if_neg h

@[simp] theorem db_setCall (s : CartCalls) (t : CallId) (call : CallState) :
    (s.setCall t call).db = s.db := rfl

@[simp] theorem holder_setCall (s : CartCalls) (t : CallId) (call : CallState) :
    (s.setCall t call).holder = s.holder := rfl

@[simp] theorem added_setCall (s : CartCalls) (t : CallId) (call : CallState) :
    (s.setCall t call).added = s.added := rfl

@[simp] theorem created_setCall (s : CartCalls) (t : CallId) (call : CallState) :
    (s.setCall t call).created = s.created := rfl

/-- A checkout has locked the line of the product. -/
def holdsLine (s : CartCalls) (product : ProductId) : Bool :=
  match s.holder.map s.calls with
  | some (.checkingOut _ _ (some items)) => items.any (·.product = product)
  | _ => false

/-- The call goes on if the statement returns. -/
def goesOn (s : CartCalls) (t : CallId) (statement : ShopTx Unit) (call : CallState) : CartCalls :=
  match (statement ⟨s.db.shop, []⟩).1 with
  | .ok _ => s.setCall t call
  | .error _ => s.setCall t .raised

/-- An addition saves its line and commits. A line that it inserts refers to the row of the cart,
    so that in the database the insert also waits for the checkout that has locked this row; here
    it may come at any moment. -/
def saves (c : CartId) (s : CartCalls) (t : CallId) (env : Env) (product : ProductId)
    (quantity : ℤ) (line : Option CartItem) : CartCalls :=
  match Tx.atomic (addSaves env c product quantity line) ⟨s.db.shop, []⟩ with
  | (.ok _, w) =>
    { s.setCall t (.returned none) with
      db := { s.db with shop := w.db }
      added := s.added ++ [(product, quantity)] }
  | (.error _, _) => s.setCall t .raised

/-- A checkout ends, and lets go of its locks. What it writes is its own or locked, so that its
    writes and its commit are one step. -/
def checksOut (c : CartId) (s : CartCalls) (t : CallId) (env : Env) (checkout : Checkout)
    (cart : Cart) (items : List CartItem) : CartCalls :=
  match checkout.afterLock env c cart items ⟨s.db.shop, []⟩ with
  | (.ok o, w) =>
    { s.setCall t (.returned (some o)) with
      db := { s.db with shop := w.db }
      holder := none
      created := if s.db.shop.orders.rows o = none then s.created ++ [o] else s.created }
  | (.error _, _) => { s.setCall t .raised with holder := none }

/-- The next state; `none` if the action is not the call's next or has to wait for a lock. -/
def step (c : CartId) (s : CartCalls) : CartAction → Option CartCalls
  | .addBegins t product quantity =>
    match s.calls t with
    | .idle => some (s.goesOn t (Crumbs.addBegins c quantity) (.adding product quantity .begun))
    | _ => none
  | .addChecks t =>
    match s.calls t with
    | .adding product quantity .begun =>
      some (s.goesOn t (Crumbs.addChecks c product quantity) (.adding product quantity .checked))
    | _ => none
  | .addReads t =>
    match s.calls t with
    | .adding product quantity .checked =>
      some (s.setCall t (.adding product quantity
        (.read (s.db.shop.cartItem c product) s.created.length)))
    | _ => none
  | .addSaves t env =>
    match s.calls t with
    | .adding product quantity (.read none _) =>
      match s.db.shop.cartItem c product with
      | none => some (s.saves c t env product quantity none)
      -- the insert meets the unique constraint, and the line is read again
      | some found =>
        some (s.setCall t (.adding product quantity (.read (some found) s.created.length)))
    | .adding product quantity (.read (some line) n) =>
      if s.holdsLine product then none
      -- the row was deleted by a checkout, and the update finds none
      else if n ≠ s.created.length then some (s.setCall t .raised)
      else some (s.saves c t env product quantity (some line))
    | _ => none
  | .locksCart t checkout =>
    match s.calls t with
    | .idle =>
      match (checkout.beforeLock ⟨s.db.shop, []⟩).1, s.db.shop.carts.rows c with
      | .ok _, some cart =>
        if s.holder = none then
          some { s.setCall t (.checkingOut checkout cart none) with holder := some t }
        else none
      | _, _ => some (s.setCall t .raised)
    | _ => none
  | .locksItems t =>
    match s.calls t with
    | .checkingOut checkout cart none =>
      some (s.setCall t (.checkingOut checkout cart (some (s.db.shop.cartItems c))))
    | _ => none
  | .checksOut t env =>
    match s.calls t with
    | .checkingOut checkout cart (some items) => some (s.checksOut c t env checkout cart items)
    | _ => none
  | .others step =>
    let db := (step.exec s.db).db
    if step.operation.IsOnCart c then none
    -- whoever writes the row of the cart waits for its lock
    else if s.holder ≠ none ∧ db.shop.carts.rows c ≠ s.db.shop.carts.rows c then none
    else some { s with db }

/-- A run of actions; `none` if one of them could not happen. -/
def run (c : CartId) (s : CartCalls) : List CartAction → Option CartCalls
  | [] => some s
  | action :: rest => (s.step c action).bind fun s' => s'.run c rest

end CartCalls

/-! ## What a step does -/

section Steps

variable {c : CartId} {s s' : CartCalls} {t : CallId} {env : Env}

namespace CartCalls

theorem step_addBegins {product : ProductId} {quantity : ℤ}
    (h : s.step c (.addBegins t product quantity) = some s') :
    s' = s.goesOn t (Crumbs.addBegins c quantity) (.adding product quantity .begun) := by
  simp only [step] at h
  split at h
  · exact (Option.some.inj h).symm
  · cases h

theorem step_addChecks (h : s.step c (.addChecks t) = some s') :
    ∃ product quantity, s' = s.goesOn t (Crumbs.addChecks c product quantity)
      (.adding product quantity .checked) := by
  simp only [step] at h
  split at h
  · exact ⟨_, _, (Option.some.inj h).symm⟩
  · cases h

theorem step_addReads (h : s.step c (.addReads t) = some s') :
    ∃ product quantity, s' = s.setCall t (.adding product quantity
      (.read (s.db.shop.cartItem c product) s.created.length)) := by
  simp only [step] at h
  split at h
  · exact ⟨_, _, (Option.some.inj h).symm⟩
  · cases h

/-- A new line is inserted, or the line has to be read again; a line that was there is saved,
    unless it is gone. -/
theorem step_addSaves (h : s.step c (.addSaves t env) = some s') :
    ∃ product quantity line n, s.calls t = .adding product quantity (.read line n) ∧
      ((line = none ∧ s.db.shop.cartItem c product = none ∧
          s' = s.saves c t env product quantity none) ∨
        (line = none ∧ ∃ found, s' = s.setCall t (.adding product quantity
          (.read (some found) s.created.length))) ∨
        s' = s.setCall t .raised ∨
        (line ≠ none ∧ n = s.created.length ∧ s' = s.saves c t env product quantity line)) := by
  simp only [step] at h
  split at h
  next product quantity n hcall =>
    refine ⟨product, quantity, none, n, hcall, ?_⟩
    split at h
    next hnone => exact .inl ⟨rfl, hnone, (Option.some.inj h).symm⟩
    next found _ => exact .inr (.inl ⟨rfl, found, (Option.some.inj h).symm⟩)
  next product quantity line n hcall =>
    refine ⟨product, quantity, some line, n, hcall, .inr (.inr ?_)⟩
    split_ifs at h with hheld hgone
    · exact .inl (Option.some.inj h).symm
    · exact .inr ⟨nofun, not_not.1 hgone, (Option.some.inj h).symm⟩
  next => cases h

theorem step_locksCart {checkout : Checkout} (h : s.step c (.locksCart t checkout) = some s') :
    s' = s.setCall t .raised ∨ ∃ cart, (checkout.beforeLock ⟨s.db.shop, []⟩).1 = .ok () ∧
      s.db.shop.carts.rows c = some cart ∧ s.holder = none ∧
        s' = { s.setCall t (.checkingOut checkout cart none) with holder := some t } := by
  simp only [step] at h
  split at h
  · split at h
    next cart hbefore hcart =>
      split_ifs at h with hfree
      exact .inr ⟨cart, hbefore, hcart, hfree, (Option.some.inj h).symm⟩
    next => exact .inl (Option.some.inj h).symm
  · cases h

theorem step_locksItems (h : s.step c (.locksItems t) = some s') :
    ∃ checkout cart, s.calls t = .checkingOut checkout cart none ∧
      s' = s.setCall t (.checkingOut checkout cart (some (s.db.shop.cartItems c))) := by
  simp only [step] at h
  split at h
  next checkout cart hcall => exact ⟨checkout, cart, hcall, (Option.some.inj h).symm⟩
  next => cases h

theorem step_checksOut (h : s.step c (.checksOut t env) = some s') :
    ∃ checkout cart items, s.calls t = .checkingOut checkout cart (some items) ∧
      s' = s.checksOut c t env checkout cart items := by
  simp only [step] at h
  split at h
  next checkout cart items hcall => exact ⟨checkout, cart, items, hcall, (Option.some.inj h).symm⟩
  next => cases h

theorem step_others {step : Step} (h : s.step c (.others step) = some s') :
    ¬step.operation.IsOnCart c ∧
      (s.holder = none ∨ (step.exec s.db).db.shop.carts.rows c = s.db.shop.carts.rows c) ∧
        s' = { s with db := (step.exec s.db).db } := by
  simp only [CartCalls.step] at h
  split_ifs at h with hcart hwaits
  refine ⟨hcart, ?_, (Option.some.inj h).symm⟩
  by_contra hlocked
  exact hwaits ⟨fun hfree => hlocked (.inl hfree), fun hsame => hlocked (.inr hsame)⟩

/-- A statement that may raise. -/
theorem goesOn_cases (s : CartCalls) (t : CallId) (statement : ShopTx Unit) (call : CallState) :
    s.goesOn t statement call = s.setCall t call ∨
      s.goesOn t statement call = s.setCall t .raised := by
  rw [goesOn]
  split
  · exact .inl rfl
  · exact .inr rfl

end CartCalls

end Steps

/-! ## Calls that nothing comes between -/

section Alone

variable {env : Env} {c : CartId} {shop : Shop} {trace : List Observation}

theorem lockCartForCheckout_of_some {cart : Cart} (h : shop.carts.rows c = some cart) :
    lockCartForCheckout c ⟨shop, trace⟩ = (.ok (cart, shop.cartItems c), ⟨shop, trace⟩) := by
  have hget : getCart c ⟨shop, trace⟩ = (.ok cart, ⟨shop, trace⟩) := by
    change getRow "Cart" (shop.carts.rows c) _ = _
    rw [h]
    rfl
  exact Tx.bind_of_ok hget

theorem checkRequest_of_ok {customer : CustomerDetails} {paymentMethod : PaymentMethod}
    (h : (CounterCheckoutService.checkRequest customer paymentMethod ⟨shop, trace⟩).1 = .ok ()) :
    CounterCheckoutService.checkRequest customer paymentMethod ⟨shop, trace⟩ =
      (.ok (), ⟨shop, trace⟩) := by
  revert h
  change (Tx.bind (Tx.when _ _) _ _).1 = _ → Tx.bind (Tx.when _ _) _ _ = _
  unfold Tx.bind Tx.when
  split_ifs <;> intro h <;> first | rfl | exact nomatch h

/-- A checkout is what it does before the lock, then what it does with the cart and the lines as
    they are when it has locked them. -/
theorem Checkout.call_eq {checkout : Checkout} {cart : Cart}
    (hcart : shop.carts.rows c = some cart)
    (hbefore : (checkout.beforeLock ⟨shop, trace⟩).1 = .ok ()) :
    checkout.call env c ⟨shop, trace⟩ =
      checkout.afterLock env c cart (shop.cartItems c) ⟨shop, trace⟩ := by
  cases checkout with
  | online customer user growth =>
    refine Tx.bind_congr ?_
    rw [DeliveryServiceCheckout.processCheckout_eq]
    exact Tx.atomic_congr (Tx.bind_of_ok (lockCartForCheckout_of_some hcart))
  | counter customer paymentMethod user =>
    refine Tx.bind_congr ?_
    rw [CounterCheckoutService.processCheckout_eq]
    exact Tx.atomic_congr ((Tx.bind_of_ok (checkRequest_of_ok hbefore)).trans
      (Tx.bind_of_ok (lockCartForCheckout_of_some hcart)))

/-- A checkout that nothing comes between is the service. -/
theorem checkout_alone {s : CartCalls} {t : CallId} {checkout : Checkout} {cart : Cart}
    (hidle : s.calls t = .idle) (hfree : s.holder = none)
    (hcart : s.db.shop.carts.rows c = some cart)
    (hbefore : (checkout.beforeLock ⟨s.db.shop, []⟩).1 = .ok ()) :
    ∃ s', s.run c [.locksCart t checkout, .locksItems t, .checksOut t env] = some s' ∧
      s'.db.shop = (checkout.call env c ⟨s.db.shop, []⟩).2.db ∧
        s'.calls t = match (checkout.call env c ⟨s.db.shop, []⟩).1 with
          | .ok o => .returned (some o)
          | .error _ => .raised := by
  have hrolls : (checkout.afterLock env c cart (s.db.shop.cartItems c)).RollsBack := by
    cases checkout <;> exact (Tx.rollsBack_atomic _).map _
  rw [Checkout.call_eq hcart hbefore]
  simp only [CartCalls.run, CartCalls.step, hidle, hbefore, hcart, hfree, CartCalls.setCall, if_true,
    Option.bind_some]
  refine ⟨_, rfl, ?_⟩
  rw [CartCalls.checksOut]
  rcases hrun : checkout.afterLock env c cart (s.db.shop.cartItems c) ⟨s.db.shop, []⟩ with
    ⟨e | o, w⟩
  · exact ⟨(hrolls.run hrun).symm, if_pos rfl⟩
  · exact ⟨rfl, if_pos rfl⟩

end Alone

/-! ## The lock on the cart -/

/-- A call that checks the cart out has its lock, and knows the row as it is. -/
structure Locked (c : CartId) (s : CartCalls) : Prop where
  before : ∀ t checkout cart items, s.calls t = .checkingOut checkout cart items →
    (checkout.beforeLock ⟨s.db.shop, []⟩).1 = .ok ()
  holder : ∀ t checkout cart items, s.calls t = .checkingOut checkout cart items →
    s.holder = some t ∧ s.db.shop.carts.rows c = some cart

theorem Checkout.beforeLock_congr (checkout : Checkout) (shop shop' : Shop) :
    (checkout.beforeLock ⟨shop, []⟩).1 = (checkout.beforeLock ⟨shop', []⟩).1 := by
  cases checkout with
  | online => rfl
  | counter customer paymentMethod user =>
    change (Tx.bind (Tx.when _ _) _ _).1 = (Tx.bind (Tx.when _ _) _ _).1
    unfold Tx.bind Tx.when
    split_ifs <;> rfl

section Lock

variable {c : CartId} {s s' : CartCalls} {t : CallId} {env : Env}

theorem locked_start (c : CartId) (db : Database) : Locked c (.start db) where
  before _ _ _ _ hcall := nomatch show CallState.idle = _ from hcall
  holder _ _ _ _ hcall := nomatch show CallState.idle = _ from hcall

/-- A call that has got to `call` was there before if that is no checkout. -/
theorem calls_of_setCall {call : CallState}
    (hcall : ¬call.IsCheckingOut) {u : CallId}
    {checkout : Checkout} {cart : Cart} {items : Option (List CartItem)}
    (hu : (s.setCall t call).calls u = .checkingOut checkout cart items) :
    u ≠ t ∧ s.calls u = .checkingOut checkout cart items := by
  by_cases hut : u = t
  · subst u
    rw [CartCalls.calls_setCall_self] at hu
    exact (hcall (hu ▸ trivial)).elim
  · rw [CartCalls.calls_setCall_ne _ _ hut] at hu
    exact ⟨hut, hu⟩

/-- A call goes on that does not check out, and the row of the cart stays. -/
theorem Locked.setCall (h : Locked c s) (call : CallState)
    (hcall : ¬call.IsCheckingOut)
    (hcalls : s'.calls = (s.setCall t call).calls) (hholder : s'.holder = s.holder)
    (hrow : s'.db.shop.carts.rows c = s.db.shop.carts.rows c) : Locked c s' := by
  refine ⟨fun u _ _ _ hu => ?_, fun u _ _ _ hu => ?_⟩ <;> rw [hcalls] at hu <;>
    have hold := (calls_of_setCall hcall hu).2
  · exact (Checkout.beforeLock_congr _ _ _).trans (h.before u _ _ _ hold)
  · obtain ⟨hheld, hcart⟩ := h.holder u _ _ _ hold
    exact ⟨hholder.trans hheld, hrow.trans hcart⟩

/-- A checkout locks the cart, which nobody else has. -/
theorem Locked.locksCart (h : Locked c s) {checkout : Checkout} {cart : Cart}
    (hbefore : (checkout.beforeLock ⟨s.db.shop, []⟩).1 = .ok ())
    (hcart : s.db.shop.carts.rows c = some cart) (hfree : s.holder = none) :
    Locked c { s.setCall t (.checkingOut checkout cart none) with holder := some t } := by
  have honly {u : CallId} {checkout' : Checkout} {cart' : Cart} {items : Option (List CartItem)}
      (hu : (s.setCall t (.checkingOut checkout cart none)).calls u =
        .checkingOut checkout' cart' items) : u = t ∧ checkout' = checkout ∧ cart' = cart := by
    by_cases hut : u = t
    · subst u
      rw [CartCalls.calls_setCall_self] at hu
      cases hu
      exact ⟨rfl, rfl, rfl⟩
    · rw [CartCalls.calls_setCall_ne _ _ hut] at hu
      exact nomatch hfree.symm.trans (h.holder u _ _ _ hu).1
  refine ⟨fun u _ _ _ hu => ?_, fun u _ _ _ hu => ?_⟩
  · obtain ⟨-, rfl, -⟩ := honly hu
    exact hbefore
  · obtain ⟨rfl, -, rfl⟩ := honly hu
    exact ⟨rfl, hcart⟩

/-- It goes on with the lines. -/
theorem Locked.locksItems (h : Locked c s) {checkout : Checkout} {cart : Cart}
    {items items' : Option (List CartItem)} (hcall : s.calls t = .checkingOut checkout cart items) :
    Locked c (s.setCall t (.checkingOut checkout cart items')) := by
  have hcases {u : CallId} {checkout' : Checkout} {cart' : Cart} {items'' : Option (List CartItem)}
      (hu : (s.setCall t (.checkingOut checkout cart items')).calls u =
        .checkingOut checkout' cart' items'') :
      ∃ items₀, s.calls u = .checkingOut checkout' cart' items₀ := by
    by_cases hut : u = t
    · subst u
      rw [CartCalls.calls_setCall_self] at hu
      cases hu
      exact ⟨items, hcall⟩
    · rw [CartCalls.calls_setCall_ne _ _ hut] at hu
      exact ⟨items'', hu⟩
  refine ⟨fun u _ _ _ hu => ?_, fun u _ _ _ hu => ?_⟩ <;> obtain ⟨_, hold⟩ := hcases hu
  · exact h.before u _ _ _ hold
  · exact h.holder u _ _ _ hold

/-- What a checkout has read is what there is, so that it goes on as the service does. -/
theorem Locked.afterLock_eq (h : Locked c s) {checkout : Checkout} {cart : Cart}
    {items : List CartItem} (hcall : s.calls t = .checkingOut checkout cart (some items))
    (hitems : items = s.db.shop.cartItems c) :
    checkout.afterLock env c cart items ⟨s.db.shop, []⟩ =
      checkout.call env c ⟨s.db.shop, []⟩ := by
  rw [hitems]
  exact (Checkout.call_eq (h.holder t _ _ _ hcall).2 (h.before t _ _ _ hcall)).symm

/-- When the holder of the cart has ended, nobody has it. -/
theorem Locked.not_held (h : Locked c s) {checkout : Checkout} {cart : Cart} {items : List CartItem}
    (hcall : s.calls t = .checkingOut checkout cart (some items))
    (hs' : s' = s.checksOut c t env checkout cart items) {u : CallId} {checkout' : Checkout}
    {cart' : Cart} {items' : Option (List CartItem)}
    (hu : s'.calls u = .checkingOut checkout' cart' items') : False := by
  obtain ⟨call, hend, hcalls⟩ : ∃ call : CallState,
      ¬call.IsCheckingOut ∧ s'.calls = (s.setCall t call).calls := by
    rw [hs', CartCalls.checksOut]
    split
    next o w _ => exact ⟨.returned (some o), id, rfl⟩
    next => exact ⟨.raised, id, rfl⟩
  rw [hcalls] at hu
  obtain ⟨hut, hu⟩ := calls_of_setCall hend hu
  exact hut (Option.some.inj ((h.holder u _ _ _ hu).1.symm.trans (h.holder t _ _ _ hcall).1))

/-- An addition that is saved puts one line, and otherwise writes to the stock only. -/
theorem addSaves_of_ok {product : ProductId} {quantity : ℤ} {line : Option CartItem}
    {shop : Shop} {item : CartItem} {w : World Shop (List Observation)}
    (h : Tx.atomic (addSaves env c product quantity line) ⟨shop, []⟩ = (.ok item, w)) :
    item.product = product ∧ (item.quantity : ℤ) = line.elim 0 (fun l => (l.quantity : ℤ)) + quantity ∧
      w.db = { shop.putCartItem c item with stock := w.db.stock } := by
  have hrun : (addSaves env c product quantity line).Ensures (fun item w => item.product = product ∧
      (item.quantity : ℤ) = line.elim 0 (fun l => (l.quantity : ℤ)) + quantity ∧
        w.db = { shop.putCartItem c item with stock := w.db.stock }) ⟨shop, []⟩ := by
    have hsave {newQuantity : ℤ} : (saveCartItem c product newQuantity).Ensures (fun item w =>
        item.product = product ∧ (item.quantity : ℤ) = newQuantity ∧
          w.db = shop.putCartItem c item) ⟨shop, []⟩ := by
      rw [saveCartItem]
      split
      next hpos => exact ⟨rfl, Int.toNat_of_nonneg (by omega), rfl⟩
      next => trivial
    refine hsave.bind fun item w ⟨hproduct, hquantity, hdb⟩ => ?_
    refine Tx.Ensures.bind (P := fun _ w' => w'.db = { w.db with stock := w'.db.stock }) ?_ ?_
    · exact Tx.wp_zoom.2 ((Tx.wp_iff _).2 ⟨fun _ _ _ => rfl, fun _ _ _ => trivial⟩)
    · rintro _ w' hw'
      refine ⟨hproduct, ?_, by rw [← hdb]; exact hw'⟩
      rw [hquantity]
      cases line with
      | none => exact (zero_add _).symm
      | some line => rfl
  exact hrun.atomic.of_ok h

/-- What an addition leaves: nothing has happened, or its line is saved. -/
theorem saves_cases (env : Env) (s : CartCalls) (t : CallId) (product : ProductId) (quantity : ℤ)
    (line : Option CartItem) : s.saves c t env product quantity line = s.setCall t .raised ∨
      ∃ item shop', item.product = product ∧
        (item.quantity : ℤ) = line.elim 0 (fun l => (l.quantity : ℤ)) + quantity ∧
          shop' = { s.db.shop.putCartItem c item with stock := shop'.stock } ∧
            s.saves c t env product quantity line =
              { s.setCall t (.returned none) with
                db := { s.db with shop := shop' }
                added := s.added ++ [(product, quantity)] } := by
  rw [CartCalls.saves]
  split
  next item w hrun =>
    obtain ⟨hproduct, hquantity, hdb⟩ := addSaves_of_ok hrun
    exact .inr ⟨item, w.db, hproduct, hquantity, hdb, rfl⟩
  next => exact .inl rfl

theorem Locked.saves (h : Locked c s) (env : Env) (product : ProductId) (quantity : ℤ)
    (line : Option CartItem) : Locked c (s.saves c t env product quantity line) := by
  rcases saves_cases (c := c) env s t product quantity line with heq |
    ⟨item, shop', -, -, hshop, heq⟩ <;> rw [heq]
  · exact h.setCall .raised id rfl rfl rfl
  · refine h.setCall (.returned none) id rfl rfl ?_
    dsimp only
    rw [hshop]
    rfl

/-- Every step keeps to the lock. -/
theorem Locked.step (h : Locked c s) {action : CartAction} (hstep : s.step c action = some s') :
    Locked c s' := by
  have hgoes {t : CallId} {statement : ShopTx Unit} {product : ProductId} {quantity : ℤ}
      {stage : AddStage} : Locked c (s.goesOn t statement (.adding product quantity stage)) := by
    rcases CartCalls.goesOn_cases s t statement (.adding product quantity stage) with heq | heq <;>
      rw [heq]
    · exact h.setCall (.adding product quantity stage) id rfl rfl rfl
    · exact h.setCall .raised id rfl rfl rfl
  cases action with
  | addBegins t product quantity =>
    rw [CartCalls.step_addBegins hstep]
    exact hgoes
  | addChecks t =>
    obtain ⟨product, quantity, rfl⟩ := CartCalls.step_addChecks hstep
    exact hgoes
  | addReads t =>
    obtain ⟨product, quantity, rfl⟩ := CartCalls.step_addReads hstep
    exact h.setCall (.adding product quantity (.read _ _)) id rfl rfl rfl
  | addSaves t env =>
    obtain ⟨product, quantity, line, n, -, ⟨-, -, rfl⟩ | ⟨-, found, rfl⟩ | rfl | ⟨-, -, rfl⟩⟩ :=
      CartCalls.step_addSaves hstep
    · exact h.saves env product quantity none
    · exact h.setCall (.adding product quantity (.read _ _)) id rfl rfl rfl
    · exact h.setCall .raised id rfl rfl rfl
    · exact h.saves env product quantity line
  | locksCart t checkout =>
    rcases CartCalls.step_locksCart hstep with rfl | ⟨cart, hbefore, hcart, hfree, rfl⟩
    · exact h.setCall .raised id rfl rfl rfl
    · exact h.locksCart hbefore hcart hfree
  | locksItems t =>
    obtain ⟨checkout, cart, hcall, rfl⟩ := CartCalls.step_locksItems hstep
    exact h.locksItems hcall
  | checksOut t env =>
    obtain ⟨checkout, cart, items, hcall, hs'⟩ := CartCalls.step_checksOut hstep
    exact ⟨fun _ _ _ _ hu => (h.not_held hcall hs' hu).elim,
      fun _ _ _ _ hu => (h.not_held hcall hs' hu).elim⟩
  | others step =>
    obtain ⟨-, hlock, rfl⟩ := CartCalls.step_others hstep
    refine ⟨fun u _ _ _ hu => ?_, fun u _ _ _ hu => ?_⟩
    · exact (Checkout.beforeLock_congr _ _ _).trans (h.before u _ _ _ hu)
    · obtain ⟨hholder, hrow⟩ := h.holder u _ _ _ hu
      exact ⟨hholder, hlock.elim (fun hfree => nomatch hfree.symm.trans hholder) (·.trans hrow)⟩

end Lock

end Crumbs
