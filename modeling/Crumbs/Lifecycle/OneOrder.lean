import Crumbs.Cart.Concurrency
import Crumbs.Lifecycle.Ended

/-!
# One Order for Each Filling of a Cart

Checkouts of a cart exclude each other by the lock on its row: what one of them reads stays so
until it ends, and the next one reads what it has left. So one filling of a cart becomes one order,
and the checkouts after it find that order or an empty cart.

## Contents

- `CartAction.IsAdd`, `Books.InCheckout`, `OneFilling`: the property
- `Change.cart`: the cart that a change works on
- `Books.Tied`: an order that its cart leads back to
- `Filling`: the invariant of the interleavings
- `oneFilling_of_run`
-/

namespace Crumbs

open Crumbs.Db

/-! ## The property -/

/-- A step of an addition. -/
def CartAction.IsAdd : CartAction → Prop
  | addBegins .. | addChecks _ | addReads _ | addSaves .. => True
  | _ => False

/-- An online order whose checkout is in progress. -/
def Books.InCheckout (b : Books) (o : OrderId) : Prop :=
  b.OrderIs o fun order => order.paymentMethod = .online ∧ isOrderCheckoutInProgress order

/-- One order at most has been made of the cart, no later checkout makes another one, and an online
    checkout returns the order as long as its checkout is in progress. -/
structure OneFilling (c : CartId) (s : CartCalls) : Prop where
  atMostOne : s.created.length ≤ 1
  noneLater : ∀ action s', ¬action.IsAdd → s.step c action = some s' → s.created ≠ [] →
    s'.created = s.created
  handsBack : ∀ t env s' customer user growth cart items o,
    s.calls t = .checkingOut (.online customer user growth) cart (some items) →
      s.step c (.checksOut t env) = some s' → o ∈ s.created → s.db.shop.books.InCheckout o →
        s'.calls t = .returned (some o)

/-! ## Other work in the shop -/

section Others

variable {b : Books} {ch : Change} {c : CartId} {o : OrderId}

/-- The cart whose lines the change writes. -/
def Change.cart : Change → Option CartId
  | shelve c _ _ | checkout c _ _ _ | counterCheckout c _ _ _ => some c
  | _ => none

theorem cartItems_apply (h : ch.cart ≠ some c) : (ch.apply b).cartItems c = b.cartItems c := by
  cases ch with
  | shelve | checkout | counterCheckout => exact if_neg fun hc => h (congrArg some hc.symm)
  | refund o | refundPayment o =>
    change (Change.refundNewest b o).cartItems c = _
    rw [Change.refundNewest]
    split
    · rfl
    · split <;> rfl
  | _ => rfl

/-- Only operations on a cart write its lines. -/
theorem Operation.Asks.isOnCart {env : Env} {db : Database} {operation : Operation}
    (h : operation.Asks env db b ch) (hcart : ch.cart = some c) : operation.IsOnCart c := by
  cases operation with
  | call call =>
    cases call with
    | addItem | setItemQuantity =>
      obtain ⟨-, items, holds, rfl⟩ := h
      exact Option.some.inj hcart
    | removeItem | clearCart =>
      obtain ⟨items, holds, rfl⟩ := h
      exact Option.some.inj hcart
    | processCheckout | processCounterCheckout =>
      obtain ⟨-, order, reservations, payment, rfl⟩ := h
      exact Option.some.inj hcart
    | reserveStock => obtain ⟨_, rfl⟩ | ⟨_, rfl⟩ := h <;> exact nomatch hcart
    | completeDelivery => obtain ⟨-, rfl | rfl⟩ := h <;> exact nomatch hcart
    | startPreparing =>
      obtain ⟨-, -, rfl⟩ | ⟨-, -, rfl⟩ | ⟨-, rfl⟩ := h <;> exact nomatch hcart
    | completePickupOrder =>
      obtain ⟨-, -, rfl⟩ | ⟨-, rfl | rfl⟩ := h <;> exact nomatch hcart
    | initiateOnline =>
      obtain ⟨-, -, payment, -, rfl⟩ := h
      exact nomatch hcart
    | initiatePayment =>
      obtain ⟨-, h⟩ := h
      split at h
      · obtain ⟨payment, -, -, rfl⟩ := h
        exact nomatch hcart
      · obtain ⟨-, payment, -, rfl⟩ := h
        exact nomatch hcart
    | initiateCounterPayment =>
      obtain ⟨-, payment, -, rfl⟩ := h
      exact nomatch hcart
    | markPaid => obtain ⟨-, rfl | rfl⟩ := h <;> exact nomatch hcart
    | markFailed => obtain ⟨-, f, rfl | rfl⟩ := h <;> exact nomatch hcart
    | markCancelled =>
      obtain ⟨-, f, rfl⟩ := h
      exact nomatch hcart
    | markReady =>
      obtain ⟨-, rfl⟩ := h
      exact nomatch hcart
    | markCounterCashReceived | markCounterCardReceived | markCodCashReceived
    | ensureCodCashFinalized | cleanupStaleOnlinePayment | cleanupStaleOnlinePayments =>
      cases ch with
      | shelve | checkout | counterCheckout => exact h.elim
      | _ => exact nomatch hcart
    | _ =>
      obtain ⟨-, rfl⟩ := h
      exact nomatch hcart
  | zarinpalCallback =>
    obtain ⟨-, p, payment, order, -, h⟩ := h
    cases ch with
    | shelve | checkout | counterCheckout => exact h.elim
    | _ => exact nomatch hcart
  | stripeWebhook =>
    obtain ⟨-, event, -, -, h⟩ := h
    cases ch with
    | shelve | checkout | counterCheckout => exact h.elim
    | _ => exact nomatch hcart

theorem cartItems_exec {step : Step} {db : Database} (h : ¬step.operation.IsOnCart c) :
    (step.exec db).db.shop.books.cartItems c = db.shop.books.cartItems c :=
  (step.follows db).inv (I := fun b => b.cartItems c = db.shop.books.cartItems c) rfl
    fun _ _ hb _ hasks => (cartItems_apply fun hcart => h (hasks.isOnCart hcart)).trans hb

/-- The order has a payment; and if it was made online and is not cancelled, it is the one that the
    cart was last checked out with. -/
structure Books.Tied (b : Books) (c : CartId) (o : OrderId) : Prop where
  payment : ∃ p, b.PaymentIs p fun payment => payment.order = o
  order : (b.OrderIs o fun order => order.paymentMethod ≠ .online ∨ order.status = .cancelled) ∨
    ((b.OrderIs o fun _ => True) ∧
      ∃ cart, b.carts.rows c = some cart ∧ cart.activeCheckoutOrder = some o)

/-- No update changes how an order is paid, and none reopens a cancelled one. -/
theorem orderIs_keeps (hguard : ch.Guard b)
    (h : b.OrderIs o fun order => order.paymentMethod ≠ .online ∨ order.status = .cancelled) :
    (ch.apply b).OrderIs o fun order => order.paymentMethod ≠ .online ∨
      order.status = .cancelled := by
  obtain ⟨order, hrow, h⟩ := h
  rcases Change.order_apply ch hrow with hsame | ⟨f, hupdates, hrow'⟩
  · exact ⟨order, hsame, h⟩
  · refine ⟨f order, hrow', h.imp (fun honline => ?_) fun hcancelled => ?_⟩
    · rwa [Change.Guard.paymentMethod_eq hguard hupdates]
    · rw [(updates_of_closed hguard hrow (.inl hcancelled) hupdates).1, hcancelled]

theorem exists_orderIs (h : b.OrderIs o fun _ => True) : (ch.apply b).OrderIs o fun _ => True := by
  obtain ⟨order, hrow, -⟩ := h
  obtain ⟨order', hrow'⟩ := Change.exists_order_apply ch hrow
  exact ⟨order', hrow', trivial⟩

/-- A change that leaves the carts alone leaves an order tied to its cart. -/
theorem tied_apply (hguard : ch.Guard b) (hcart : (ch.apply b).carts.rows c = b.carts.rows c)
    (h : b.Tied c o) : (ch.apply b).Tied c o := by
  obtain ⟨⟨p, payment, hpay, hpayment⟩, horder⟩ := h
  obtain ⟨payment', hpay', hsame⟩ := hguard.payment_apply hpay
  refine ⟨⟨p, payment', hpay', hsame.order.trans hpayment⟩, horder.imp (orderIs_keeps hguard) ?_⟩
  rintro ⟨hthere, hactive⟩
  exact ⟨exists_orderIs hthere, hcart ▸ hactive⟩

/-- The carts are locked and unlocked by checkouts and by the cleanup alone. -/
theorem carts_apply (hcart : ch.cart ≠ some c) (hunlock : ∀ o, ch ≠ .unlock o) :
    (ch.apply b).carts.rows c = b.carts.rows c := by
  cases ch with
  | checkout => exact Table.rows_modify_ne _ _ fun hc => hcart (congrArg some hc.symm)
  | unlock o => exact (hunlock o rfl).elim
  | refund o | refundPayment o =>
    change (Change.refundNewest b o).carts.rows c = _
    rw [Change.refundNewest]
    split
    · rfl
    · split <;> rfl
  | _ => rfl

/-- The cleanup cancels the order whose carts it unlocks. -/
theorem tied_cleanup {o' : OrderId} {p : PaymentId} {f : Payment → Payment}
    (hguard : (Change.fail o' p f).Guard b) (h : b.Tied c o) :
    ((Change.unlock o').apply ((Change.fail o' p f).apply b)).Tied c o := by
  have hfailed : ((Change.fail o' p f).apply b).Tied c o := tied_apply hguard rfl h
  by_cases ho : o' = o
  · subst o'
    obtain ⟨order, hrow, -⟩ := hguard.2.2
    refine ⟨hfailed.payment, .inl ⟨Order.failed order, ?_, .inr rfl⟩⟩
    exact (Table.rows_modify_self ..).trans (congrArg (Option.map Order.failed) hrow)
  · refine ⟨hfailed.payment, hfailed.order.imp id fun ⟨hthere, cart, hcart, hactive⟩ =>
      ⟨hthere, cart, ?_, hactive⟩⟩
    refine (Table.rows_updateWhere ..).trans ((congrArg _ hcart).trans (congrArg some (if_neg ?_)))
    rw [hactive, decide_eq_true_eq]
    exact fun h => ho (Option.some.inj h).symm

/-- The cleanup of stale payments, of one of them or of all. -/
def Operation.IsCleanup : Operation → Prop
  | .call (.cleanupStaleOnlinePayment _) | .call (.cleanupStaleOnlinePayments _) => True
  | _ => False

theorem Operation.Asks.isCleanup {env : Env} {db : Database} {operation : Operation}
    (h : operation.Asks env db b (.unlock o)) : operation.IsCleanup := by
  cases operation with
  | call call =>
    cases call with
    | cleanupStaleOnlinePayment | cleanupStaleOnlinePayments => trivial
    | addItem | setItemQuantity =>
      obtain ⟨-, items, holds, h⟩ := h
      exact nomatch h
    | removeItem | clearCart =>
      obtain ⟨items, holds, h⟩ := h
      exact nomatch h
    | processCheckout | processCounterCheckout =>
      obtain ⟨-, order, reservations, payment, h⟩ := h
      exact nomatch h
    | reserveStock => obtain ⟨_, h⟩ | ⟨_, h⟩ := h <;> exact nomatch h
    | completeDelivery => obtain ⟨-, h | h⟩ := h <;> exact nomatch h
    | startPreparing => obtain ⟨-, -, h⟩ | ⟨-, -, h⟩ | ⟨-, h⟩ := h <;> exact nomatch h
    | completePickupOrder => obtain ⟨-, -, h⟩ | ⟨-, h | h⟩ := h <;> exact nomatch h
    | initiateOnline =>
      obtain ⟨-, -, payment, -, h⟩ := h
      exact nomatch h
    | initiatePayment =>
      obtain ⟨-, h⟩ := h
      split at h
      · obtain ⟨payment, -, -, h⟩ := h
        exact nomatch h
      · obtain ⟨-, payment, -, h⟩ := h
        exact nomatch h
    | initiateCounterPayment =>
      obtain ⟨-, payment, -, h⟩ := h
      exact nomatch h
    | markPaid => obtain ⟨-, h | h⟩ := h <;> exact nomatch h
    | markFailed => obtain ⟨-, f, h | h⟩ := h <;> exact nomatch h
    | markCancelled =>
      obtain ⟨-, f, h⟩ := h
      exact nomatch h
    | markCounterCashReceived | markCounterCardReceived | markCodCashReceived
    | ensureCodCashFinalized => exact h.elim
    | _ => exact nomatch h.2
  | zarinpalCallback =>
    obtain ⟨-, p, payment, order, -, h⟩ := h
    exact h.elim
  | stripeWebhook =>
    obtain ⟨-, event, -, -, h⟩ := h
    exact h.elim

/-- The books still satisfy what they satisfied. -/
def Keeps (I : Books → Prop) (w w' : World Shop (List Observation)) : Prop :=
  I w.db.books → I w'.db.books

instance {I : Books → Prop} : IsPreorder (World Shop (List Observation)) (Keeps I) where
  refl _ := id
  trans _ _ _ h h' := h' ∘ h

theorem cleanupStaleOnlinePayment_tied {env : Env} {p : PaymentId} :
    (cleanupStaleOnlinePayment env p).Steps (Keeps (Books.Tied · c o)) := fun w => by
  have hyields : (cleanupStaleOnlinePayment env p).Yields Shop.books w.db.books _ :=
    cleanupStaleOnlinePayment_yields
  refine Tx.wp_mono (Tx.wp_and hyields.ensures (Tx.rollsBack_atomic _ w)) (fun _ w' h htied => ?_)
    fun _ w' h htied => ?_
  · rcases h.1 with hsame | ⟨payment, order, f, -, -, -, hguard, hbooks⟩
    · exact hsame ▸ htied
    · exact hbooks ▸ tied_cleanup hguard htied
  · rw [show w'.db = w.db from h.2]
    exact htied

theorem cleanupEach_tied {env : Env} (result : CleanupResult) (payments : List PaymentId) :
    (cleanupEach env result payments).Steps (Keeps (Books.Tied · c o)) := by
  induction payments generalizing result with
  | nil => exact Tx.steps_pure _
  | cons p rest ih =>
    refine Tx.Steps.bind (fun w => ?_) fun outcome => ih _
    exact .catching ((cleanupStaleOnlinePayment_tied w).bind fun _ => Tx.steps_pure _)
      fun _ => Tx.steps_pure _

theorem tied_exec {step : Step} {db : Database} (h : ¬step.operation.IsOnCart c)
    (htied : db.shop.books.Tied c o) : (step.exec db).db.shop.books.Tied c o := by
  by_cases hcleanup : step.operation.IsCleanup
  · have hkeeps {call : ShopCall} (hoperation : step.operation = .call call)
        (hcall : (call.run step.env).Steps (Keeps (Books.Tied · c o))) :
        (step.exec db).db.shop.books.Tied c o := by
      rw [Step.exec, hoperation]
      exact (onShop_steps (w := ⟨db, []⟩) (hcall _)).run htied
    cases hoperation : step.operation with
    | call call =>
      rw [hoperation] at hcleanup
      cases call with
      | cleanupStaleOnlinePayment p =>
        exact hkeeps hoperation fun w => (cleanupStaleOnlinePayment_tied w).void
      | cleanupStaleOnlinePayments timeoutMinutes =>
        exact hkeeps hoperation fun w => Tx.StepsAt.void
          (.seq ⟨refl_of (Keeps _) _, cleanupEach_tied _ _ _⟩)
      | _ => exact hcleanup.elim
    | _ =>
      rw [hoperation] at hcleanup
      exact hcleanup.elim
  · refine (step.follows db).inv htied fun b ch hb hguard hasks => tied_apply hguard ?_ hb
    exact carts_apply (fun hcart => h (hasks.isOnCart hcart)) fun o' hunlock =>
      hcleanup (Operation.Asks.isCleanup (hunlock ▸ hasks))

end Others

/-! ## Checkouts -/

section Checkouts

variable {b : Books} {env : Env} {c : CartId}

/-- The order that a checkout returns. -/
structure NewOrder (b : Books) (c : CartId) (o : OrderId) (b' : Books) : Prop where
  order : o = b.orders.next
  filled : b.cartItems c ≠ []
  emptied : b'.cartItems c = []
  lines : b'.lines = fun o' => if o' = o then b.cartLines c else b.lines o'
  next : b'.orders.next = b.orders.next + 1
  tied : b'.Tied c o

/-- A new order has a payment. -/
theorem exists_payment (order : Order) (reservations : List StockReservation)
    {payment : Option Payment} {New Old : Payment → Prop} {b' : Books}
    (hbooks : b'.payments = (b.placeOrder c order reservations payment).payments)
    (h : b.IsPaymentFor b.orders.next New Old payment) :
    ∃ p, b'.PaymentIs p fun payment => payment.order = b.orders.next := by
  cases payment with
  | some payment =>
    refine ⟨b.payments.next, payment, ?_, h.1⟩
    rw [hbooks]
    exact Table.rows_insert_self ..
  | none =>
    obtain ⟨p, payment, hpay, horder, -⟩ := h
    refine ⟨p, payment, ?_, horder⟩
    rw [hbooks]
    exact hpay

/-- A checkout hands an order back, or makes one of a cart with lines and empties the cart. -/
theorem Checkout.call_yields (checkout : Checkout) : (checkout.call env c).Yields Shop.books b
    fun o b' => (b' = b ∧ b.OrderIs o fun _ => True) ∨ NewOrder b c o b' := by
  cases checkout with
  | online customer user growth =>
    refine DeliveryServiceCheckout.processCheckout_yields.bind ?_
    rintro result b' (⟨rfl, -, order, hrow, -⟩ |
      ⟨hresult, order, reservations, payment, hguard, rfl⟩)
    · exact Tx.yields_pure (.inl ⟨rfl, order, hrow, trivial⟩)
    · obtain ⟨hplace, -, -, -, -, hpayment⟩ := hguard
      obtain ⟨cart, hcart⟩ := Option.ne_none_iff_exists'.1 hplace.cart
      rw [hresult]
      refine Tx.yields_pure (.inr ⟨rfl, hplace.items, if_pos rfl, rfl, rfl, ?_⟩)
      refine ⟨exists_payment (c := c) order reservations rfl hpayment,
        .inr ⟨⟨order, Table.rows_insert_self .., trivial⟩,
        { cart with activeCheckoutOrder := some b.orders.next }, ?_, rfl⟩⟩
      exact (Table.rows_modify_self ..).trans (congrArg _ hcart)
  | counter customer paymentMethod user =>
    refine CounterCheckoutService.processCheckout_yields.bind ?_
    rintro result b' ⟨hresult, order, reservations, payment, hguard, rfl⟩
    obtain ⟨hplace, -, -, hcounter, hpayment⟩ := hguard
    rw [hresult]
    refine Tx.yields_pure (.inr ⟨rfl, hplace.items, if_pos rfl, rfl, rfl, ?_⟩)
    refine ⟨exists_payment (c := c) order reservations rfl hpayment,
      .inl ⟨order, Table.rows_insert_self .., .inl fun honline => ?_⟩⟩
    rw [Order.isCounterPayment, honline] at hcounter
    exact absurd hcounter (by decide)

end Checkouts

/-! ## The invariant of the interleavings -/

/-- A call that holds the cart has read the lines as they are; and if an order was made of the
    cart, the cart is empty and leads back to the order. -/
structure Filling (c : CartId) (s : CartCalls) : Prop where
  locked : Locked c s
  items : ∀ t checkout cart items, s.calls t = .checkingOut checkout cart (some items) →
    items = s.db.shop.cartItems c
  created : s.created = [] ∨ ∃ o, s.created = [o] ∧ s.db.shop.cartItems c = [] ∧
    s.db.shop.books.Tied c o

section Invariant

variable {c : CartId} {s s' : CartCalls} {t : CallId}

theorem filling_start (c : CartId) (db : Database) : Filling c (.start db) where
  locked := locked_start c db
  items _ _ _ _ hcall := nomatch show CallState.idle = _ from hcall
  created := .inl rfl

/-- A call that has not read the lines. -/
theorem items_setCall (h : Filling c s) {call : CallState}
    (hcall : ∀ checkout cart items, call ≠ .checkingOut checkout cart (some items)) {u : CallId}
    {checkout : Checkout} {cart : Cart} {items : List CartItem}
    (hu : (s.setCall t call).calls u = .checkingOut checkout cart (some items)) :
    items = s.db.shop.cartItems c := by
  by_cases hut : u = t
  · subst u
    rw [CartCalls.calls_setCall_self] at hu
    exact (hcall _ _ _ hu).elim
  · rw [CartCalls.calls_setCall_ne _ _ hut] at hu
    exact h.items u _ _ _ hu

/-- A checkout reads the lines. -/
theorem items_locksItems (h : Filling c s) {checkout : Checkout} {cart : Cart} {u : CallId}
    {checkout' : Checkout} {cart' : Cart} {items : List CartItem}
    (hu : (s.setCall t (.checkingOut checkout cart (some (s.db.shop.cartItems c)))).calls u =
      .checkingOut checkout' cart' (some items)) : items = s.db.shop.cartItems c := by
  by_cases hut : u = t
  · subst u
    rw [CartCalls.calls_setCall_self] at hu
    cases hu
    rfl
  · rw [CartCalls.calls_setCall_ne _ _ hut] at hu
    exact h.items u _ _ _ hu

/-- A checkout ends: it has failed, or handed an order back, or made one where there was none. -/
theorem Locked.checksOut_cases (h : Locked c s) (env : Env) {checkout : Checkout} {cart : Cart}
    {items : List CartItem} (hcall : s.calls t = .checkingOut checkout cart (some items))
    (hitems : items = s.db.shop.cartItems c) :
    s.checksOut c t env checkout cart items = { s.setCall t .raised with holder := none } ∨
      ∃ o shop', s.checksOut c t env checkout cart items =
          { s.setCall t (.returned (some o)) with
            db := { s.db with shop := shop' }
            holder := none
            created := if s.db.shop.orders.rows o = none then s.created ++ [o] else s.created } ∧
        ((shop'.books = s.db.shop.books ∧ s.db.shop.orders.rows o ≠ none) ∨
          (s.db.shop.orders.rows o = none ∧ NewOrder s.db.shop.books c o shop'.books)) := by
  have hyields : (checkout.call env c).Yields Shop.books s.db.shop.books _ := checkout.call_yields
  rw [CartCalls.checksOut, h.afterLock_eq hcall hitems]
  rcases hrun : checkout.call env c ⟨s.db.shop, []⟩ with ⟨e | o, w⟩
  · exact .inl rfl
  · refine .inr ⟨o, w.db, rfl, ?_⟩
    rcases (hyields ⟨s.db.shop, []⟩ rfl).of_ok hrun with ⟨hbooks, order, hrow, -⟩ | hnew
    · exact .inl ⟨hbooks, fun hnone =>
        Option.some_ne_none order (hrow.symm.trans hnone)⟩
    · refine .inr ⟨?_, hnew⟩
      rw [hnew.order]
      exact s.db.shop.orders.fresh _ le_rfl

/-- An order made before has emptied the cart. -/
theorem Filling.created_eq_nil (h : Filling c s) (hfilled : s.db.shop.books.cartItems c ≠ []) :
    s.created = [] := by
  rcases h.created with hnone | ⟨-, -, hempty, -⟩
  · exact hnone
  · exact (hfilled hempty).elim

/-- What a checkout that has ended leaves. -/
theorem Filling.created_checksOut (h : Filling c s) {env : Env} {checkout : Checkout} {cart : Cart}
    {items : List CartItem} (hcall : s.calls t = .checkingOut checkout cart (some items))
    (hs' : s' = s.checksOut c t env checkout cart items) :
    s'.created = [] ∨ ∃ o, s'.created = [o] ∧ s'.db.shop.cartItems c = [] ∧
      s'.db.shop.books.Tied c o := by
  rcases h.locked.checksOut_cases env hcall (h.items t _ _ _ hcall) with heq |
    ⟨o, shop', heq, hout⟩ <;> rw [hs', heq]
  · exact h.created
  · dsimp only
    rcases hout with ⟨hbooks, hthere⟩ | ⟨hfresh, hnew⟩
    · rw [if_neg hthere]
      have hitems : shop'.cartItems c = s.db.shop.cartItems c :=
        congrFun (congrArg Books.cartItems hbooks) c
      exact h.created.imp id fun ⟨o', hone, hempty, htied⟩ =>
        ⟨o', hone, hitems.trans hempty, hbooks ▸ htied⟩
    · rw [if_pos hfresh, h.created_eq_nil hnew.filled]
      exact .inr ⟨o, rfl, hnew.emptied, hnew.tied⟩

theorem Filling.step (h : Filling c s) {action : CartAction} (hadd : ¬action.IsAdd)
    (hstep : s.step c action = some s') : Filling c s' := by
  have hlocked := h.locked.step hstep
  cases action with
  | locksCart t checkout =>
    rcases CartCalls.step_locksCart hstep with rfl | ⟨cart, -, -, -, rfl⟩
    · exact ⟨hlocked, fun u _ _ _ hu => items_setCall h (fun _ _ _ h => by cases h) hu, h.created⟩
    · exact ⟨hlocked, fun u _ _ _ hu => items_setCall h (fun _ _ _ h => by cases h) hu, h.created⟩
  | locksItems t =>
    obtain ⟨checkout, cart, -, rfl⟩ := CartCalls.step_locksItems hstep
    exact ⟨hlocked, fun u _ _ _ hu => items_locksItems h hu, h.created⟩
  | checksOut t env =>
    obtain ⟨checkout, cart, items, hcall, hs'⟩ := CartCalls.step_checksOut hstep
    exact ⟨hlocked, fun u _ _ _ hu => (h.locked.not_held hcall hs' hu).elim,
      h.created_checksOut hcall hs'⟩
  | others step =>
    obtain ⟨hcart, -, rfl⟩ := CartCalls.step_others hstep
    have hitems : (step.exec s.db).db.shop.cartItems c = s.db.shop.cartItems c :=
      cartItems_exec hcart
    exact ⟨hlocked, fun u _ _ _ hu => (h.items u _ _ _ hu).trans hitems.symm,
      h.created.imp id fun ⟨o, hone, hempty, htied⟩ =>
        ⟨o, hone, hitems.trans hempty, tied_exec hcart htied⟩⟩
  | _ => exact (hadd trivial).elim

/-- A step creates no second order. -/
theorem Filling.created_step (h : Filling c s) {action : CartAction} (hadd : ¬action.IsAdd)
    (hstep : s.step c action = some s') (hcreated : s.created ≠ []) : s'.created = s.created := by
  cases action with
  | locksCart t checkout =>
    rcases CartCalls.step_locksCart hstep with rfl | ⟨cart, -, -, -, rfl⟩ <;> rfl
  | locksItems t =>
    obtain ⟨checkout, cart, -, rfl⟩ := CartCalls.step_locksItems hstep
    rfl
  | checksOut t env =>
    obtain ⟨checkout, cart, items, hcall, rfl⟩ := CartCalls.step_checksOut hstep
    rcases h.locked.checksOut_cases env hcall (h.items t _ _ _ hcall) with heq |
      ⟨o, shop', heq, ⟨-, hthere⟩ | ⟨-, hnew⟩⟩
    · rw [heq]
      rfl
    · rw [heq]
      exact if_neg hthere
    · exact (hcreated (h.created_eq_nil hnew.filled)).elim
  | others step =>
    obtain ⟨-, -, rfl⟩ := CartCalls.step_others hstep
    rfl
  | _ => exact (hadd trivial).elim

theorem filling_of_run {actions : List CartAction} (hadds : ∀ action ∈ actions, ¬action.IsAdd)
    (h : Filling c s) (hrun : s.run c actions = some s') : Filling c s' := by
  induction actions generalizing s with
  | nil =>
    obtain rfl := Option.some.inj hrun
    exact h
  | cons action rest ih =>
    obtain ⟨s₁, hstep, hrest⟩ := Option.bind_eq_some_iff.1 hrun
    exact ih (fun action' hmem => hadds action' (List.mem_cons_of_mem _ hmem))
      (h.step (hadds action List.mem_cons_self) hstep) hrest

/-! ## Handing back -/

/-- While the checkout of an online order is in progress, the cart hands it back. -/
theorem processCheckout_handsBack {shop : Shop} {o : OrderId} (env : Env)
    (customer : CustomerDetails) (user : Option UserId)
    (growth : Cart → Money → GrowthCheckoutContext)
    (htied : shop.books.Tied c o) (hin : shop.books.InCheckout o) : ∃ result w,
      DeliveryServiceCheckout.processCheckout env c customer user growth ⟨shop, []⟩ =
        (.ok result, w) ∧ result.order = o := by
  obtain ⟨order, hrow, honline, hprogress⟩ := hin
  obtain ⟨⟨p, payment, hpay, horder⟩, htied⟩ := htied
  rcases htied with ⟨order', hrow', hother⟩ | ⟨-, cart, hcart, hactive⟩
  · obtain rfl := Option.some.inj (hrow.symm.trans hrow')
    exact (hother.elim (· honline) hprogress.1).elim
  · have hmem : (p, payment) ∈ shop.paymentsWhere fun p => p.order = o :=
      Table.mem_filter.2 ⟨hpay, decide_eq_true horder⟩
    obtain ⟨newest, hnewest⟩ : ∃ e, newest (shop.paymentsWhere fun p => p.order = o) = some e := by
      cases hall : shop.paymentsWhere fun p => p.order = o with
      | nil => exact absurd (hall ▸ hmem) List.not_mem_nil
      | cons x rest => exact newest_isSome x rest
    let result : CheckoutResult :=
      { order := o, payment := some newest.1, paymentMethod := .online,
        checkoutUrl := (some newest.2.checkoutUrl).filter (· ≠ "") }
    have hresolve : DeliveryServiceCheckout.resolveInProgressCheckout c cart .online ⟨shop, []⟩ =
        (.ok (some result), ⟨shop, []⟩) := by
      have hlock : lockOrder o ⟨shop, []⟩ = (.ok order, ⟨shop, []⟩) := by
        change getRow "Order" (shop.orders.rows o) _ = _
        rw [show shop.orders.rows o = some order from hrow]
        rfl
      rw [DeliveryServiceCheckout.resolveInProgressCheckout, hactive]
      refine (Tx.bind_of_ok hlock).trans ((Tx.ite_of_not (not_not.2 hprogress)).trans
        ((Tx.bind_of_ok rfl).trans ?_))
      rw [hnewest]
      exact Tx.bind_of_ok (Tx.when_of_not fun h => Bool.false_ne_true h.1)
    refine ⟨result, ⟨shop, []⟩, ?_, rfl⟩
    rw [DeliveryServiceCheckout.processCheckout_eq]
    exact Tx.atomic_of_ok ((Tx.bind_of_ok (lockCartForCheckout_of_some hcart)).trans
      (Tx.bind_of_ok hresolve))

end Invariant

/-- However the checkouts of a cart interleave with each other and with the rest of the shop, with
    no addition in between: one order at most is made of it, no later checkout makes another one,
    and every online checkout returns the online order while that is in progress. -/
theorem oneFilling_of_run (c : CartId) (db : Database) (actions : List CartAction)
    (hadds : ∀ action ∈ actions, ¬action.IsAdd) (s : CartCalls)
    (hrun : (CartCalls.start db).run c actions = some s) : OneFilling c s := by
  have hfilling := filling_of_run hadds (filling_start c db) hrun
  refine ⟨?_, fun action s' hadd hstep hcreated => hfilling.created_step hadd hstep hcreated, ?_⟩
  · rcases hfilling.created with hnone | ⟨o, hone, -⟩
    · rw [hnone]
      exact Nat.zero_le 1
    · rw [hone]
      exact le_rfl
  · rintro t env s' customer user growth cart items o hcall hstep ho hin
    obtain ⟨checkout, cart', items', hcall', rfl⟩ := CartCalls.step_checksOut hstep
    rw [hcall] at hcall'
    cases hcall'
    rcases hfilling.created with hnone | ⟨o', hone, -, htied⟩
    · exact absurd (hnone ▸ ho) List.not_mem_nil
    · obtain rfl := List.mem_singleton.1 (hone ▸ ho)
      obtain ⟨result, w, hrun', hresult⟩ := processCheckout_handsBack env customer user growth
        htied hin
      have hcallRun : (Checkout.online customer user growth).call env c ⟨s.db.shop, []⟩ =
          (.ok result.order, w) := Tx.bind_of_ok hrun'
      rw [CartCalls.checksOut, hfilling.locked.afterLock_eq hcall (hfilling.items t _ _ _ hcall),
        hcallRun, hresult]
      exact CartCalls.calls_setCall_self ..

/-- A cart is checked out online; a second call and a counter checkout come after it. -/
def checkoutTwiceActions : List CartAction :=
  let customer : CustomerDetails := { email := "", phone := "1" }
  [.locksCart 0 (.online customer none fun _ _ => {}), .locksItems 0, .checksOut 0 cornerEnv,
    .locksCart 1 (.online customer none fun _ _ => {}), .locksItems 1,
    .checksOut 1 cornerEnv, .locksCart 2 (.counter customer .cash none), .locksItems 2,
    .checksOut 2 cornerEnv]

theorem oneFilling_of_run_twice : ∃ s, (CartCalls.start cornerShop).run 0 checkoutTwiceActions =
    some s ∧ s.created = [0] ∧ OneFilling 0 s := by
  have hcreated : ((CartCalls.start cornerShop).run 0 checkoutTwiceActions).map (·.created) =
      some [0] := by decide +kernel
  obtain ⟨s, hrun, hone⟩ := Option.map_eq_some_iff.1 hcreated
  refine ⟨s, hrun, hone, oneFilling_of_run 0 cornerShop checkoutTwiceActions ?_ s hrun⟩
  simp [checkoutTwiceActions, CartAction.IsAdd]

end Crumbs
