import Crumbs.Inventory.Holds
import Crumbs.Orders.Outcomes
import Crumbs.Payments.StaleCleanup

/-!
# The Life of Orders and Payments

What the shop is about, without the services: books that list orders, payments, carts and holds
of stock, and the changes that these go through. A change says what it needs and what it does at
once; the services, their locks, their early returns and their exceptions are not seen here.

## Contents

- `Books`: the state, and `Shop.books`, the books of a shop
- `Change`, `Change.Guard`, `Change.apply`: the changes
- `Made`: one of some changes was made, or none
- `Follows`: the books go through changes of a kind
- `OnBooks`: the same of computations on the shop
-/

namespace Crumbs

open Crumbs.Db

/-! ## Books -/

/-- What an order line promises, and for how much. -/
structure OrderLine where
  product : ProductId
  quantity : ℕ
  unitPrice : Money
  deriving DecidableEq, Repr

def OrderLine.total (line : OrderLine) : Money := line.unitPrice * line.quantity

def OrderItem.line (item : OrderItem) : OrderLine where
  product := item.product
  quantity := item.quantity
  unitPrice := item.unitPrice

/-- The goods, the orders with their lines, the payments, the carts with their lines, and the
    reservations. -/
structure Books where
  price : ProductId → Money
  tracks : ProductId → Bool
  orders : Table Order
  lines : OrderId → List OrderLine
  payments : Table Payment
  carts : Table Cart
  cartItems : CartId → List CartItem
  holds : Holds

def Shop.books (shop : Shop) : Books where
  price := shop.stock.price
  tracks := shop.stock.tracks
  orders := shop.orders
  lines o := (shop.orderItems o).map OrderItem.line
  payments := shop.payments
  carts := shop.carts
  cartItems := shop.cartItems
  holds := shop.stock.reservations

namespace Books

def updateOrder (b : Books) (o : OrderId) (f : Order → Order) : Books :=
  { b with orders := b.orders.modify o f }

def updatePayment (b : Books) (p : PaymentId) (f : Payment → Payment) : Books :=
  { b with payments := b.payments.modify p f }

def updateHolds (b : Books) (f : Holds → Holds) : Books := { b with holds := f b.holds }

/-- The order is there, and `P` holds of it. -/
def OrderIs (b : Books) (o : OrderId) (P : Order → Prop) : Prop :=
  ∃ order, b.orders.rows o = some order ∧ P order

/-- The payment is there, and `P` holds of it. -/
def PaymentIs (b : Books) (p : PaymentId) (P : Payment → Prop) : Prop :=
  ∃ payment, b.payments.rows p = some payment ∧ P payment

/-- The payment is there, and its money is not. -/
def IsUnsettled (b : Books) (p : PaymentId) : Prop :=
  b.PaymentIs p fun payment => payment.status ≠ .succeeded

/-- The newest payment of an order. -/
def newestPayment (b : Books) (o : OrderId) : Option (PaymentId × Payment) :=
  newest (b.payments.filter fun p => p.order = o)

section Updates

variable {b : Books} {o : OrderId} {p : PaymentId} {f g : Order → Order} {f' g' : Payment → Payment}

theorem updateOrder_congr (h : ∀ order, b.orders.rows o = some order → f order = g order) :
    b.updateOrder o f = b.updateOrder o g := by
  rw [updateOrder, Table.modify_congr h, updateOrder]

theorem updateOrder_eq_self (h : ∀ order, b.orders.rows o = some order → f order = order) :
    b.updateOrder o f = b := by
  rw [updateOrder, Table.modify_eq_self h]

theorem updateOrder_updateOrder :
    (b.updateOrder o f).updateOrder o g = b.updateOrder o (g ∘ f) := by
  simp only [updateOrder, Table.modify_modify]

theorem updateHolds_updateOrder {h : Holds → Holds} :
    (b.updateOrder o f).updateHolds h = (b.updateHolds h).updateOrder o f := rfl

theorem updatePayment_updatePayment :
    (b.updatePayment p f').updatePayment p g' = b.updatePayment p (g' ∘ f') := by
  simp only [updatePayment, Table.modify_modify]

/-- The row of an order after an update of it. -/
theorem rows_updateOrder {order order' : Order}
    (h : (b.updateOrder o f).orders.rows o = some order') (hrow : b.orders.rows o = some order) :
    order' = f order := by
  rw [updateOrder, Table.rows_modify_self, hrow] at h
  exact (Option.some.inj h).symm

end Updates

end Books

/-! ## Orders and payments after a change -/

namespace Order

def paidOnline (order : Order) : Order :=
  { order with paymentStatus := .paid, status := .confirmedByShop }

def paidAtCounter (order : Order) : Order :=
  { order with paymentStatus := .paid, status := .preparing }

def failed (order : Order) : Order :=
  { order with paymentStatus := .failed, status := .cancelled }

/-- A payment that is still pending fails with the order. -/
def cancelled (order : Order) : Order :=
  { order with
    paymentStatus := if order.paymentStatus = .pendingPayment then .failed else order.paymentStatus
    status := .cancelled }

def refunded (order : Order) : Order :=
  { order with paymentStatus := .refundProcessed, status := .refunded }

def cashReceived (order : Order) : Order :=
  { order with paymentStatus := .cashReceived, status := .delivered }

end Order

def Payment.refund (payment : Payment) : Payment := { payment with status := .refunded }

/-- What other changes look at in an order. -/
structure Order.SameTerms (order order' : Order) : Prop where
  status : order'.status = order.status
  paymentStatus : order'.paymentStatus = order.paymentStatus
  paymentMethod : order'.paymentMethod = order.paymentMethod
  subtotal : order'.subtotal = order.subtotal

/-- The update changes fields of an order that no other change looks at. -/
def Order.Keeps (f : Order → Order) : Prop := ∀ order : Order, order.SameTerms (f order)

theorem Order.SameTerms.trans {order order' order'' : Order} (h : order.SameTerms order')
    (h' : order'.SameTerms order'') : order.SameTerms order'' :=
  ⟨h'.status.trans h.status, h'.paymentStatus.trans h.paymentStatus,
    h'.paymentMethod.trans h.paymentMethod, h'.subtotal.trans h.subtotal⟩

theorem Order.Keeps.comp {f g : Order → Order} (hf : Order.Keeps f) (hg : Order.Keeps g) :
    Order.Keeps (f ∘ g) := fun order => (hg order).trans (hf (g order))

/-- What a payment is for, and through whom. -/
structure Payment.SameTerms (payment payment' : Payment) : Prop where
  order : payment'.order = payment.order
  provider : payment'.provider = payment.provider
  amount : payment'.amount = payment.amount
  createdAt : payment'.createdAt = payment.createdAt

/-- The update gives a payment the status; references and messages may change with it. -/
def Payment.Becomes (status : PaymentStatus) (f : Payment → Payment) : Prop :=
  ∀ payment, payment.SameTerms (f payment) ∧ (f payment).status = status

/-- The update changes references and messages of a payment only. -/
def Payment.Keeps (f : Payment → Payment) : Prop :=
  ∀ payment, payment.SameTerms (f payment) ∧ (f payment).status = payment.status

theorem Payment.SameTerms.trans {payment payment' payment'' : Payment}
    (h : payment.SameTerms payment') (h' : payment'.SameTerms payment'') :
    payment.SameTerms payment'' :=
  ⟨h'.order.trans h.order, h'.provider.trans h.provider, h'.amount.trans h.amount,
    h'.createdAt.trans h.createdAt⟩

theorem Payment.Becomes.comp {status : PaymentStatus} {f g : Payment → Payment}
    (h : Payment.Becomes status f) (hg : Payment.Keeps g) : Payment.Becomes status (f ∘ g) :=
  fun payment => ⟨(hg payment).1.trans (h (g payment)).1, (h (g payment)).2⟩

theorem Payment.becomes_succeed : Payment.Becomes .succeeded Payment.succeed := fun _ =>
  ⟨⟨rfl, rfl, rfl, rfl⟩, rfl⟩

/-! ## Changes -/

/-- What can happen to the books at once. -/
inductive Change where
  -- carts and holds
  /-- A cart gets other lines and other holds. -/
  | shelve (c : CartId) (items : List CartItem) (holds : Holds)
  | expire (now : Time)
  | reserve (o : OrderId) (reservations : List StockReservation)
  | confirm (o : OrderId)
  | release (o : OrderId)
  -- orders
  /-- Fields that no other change looks at. -/
  | amend (o : OrderId) (f : Order → Order)
  /-- The status alone. -/
  | transition (o : OrderId) (newStatus : OrderStatus)
  | cancel (o : OrderId)
  | failOrder (o : OrderId)
  | requestRefund (o : OrderId)
  | refund (o : OrderId)
  | deliver (o : OrderId)
  | deliverCod (o : OrderId)
  | payOnline (o : OrderId)
  | payAtCounter (o : OrderId)
  | confirmCod (o : OrderId)
  | noteCash (o : OrderId)
  | receiveCash (o : OrderId)
  -- payments
  | openOnline (payment : Payment)
  | openOffline (payment : Payment)
  /-- The money of a payment is in the till. -/
  | settle (p : PaymentId) (f : Payment → Payment)
  /-- A gateway has captured the money, and the order becomes paid. -/
  | capture (o : OrderId) (p : PaymentId) (f : Payment → Payment)
  /-- The order of a payment is paid already. -/
  | captureAgain (o : OrderId) (p : PaymentId)
  | fail (o : OrderId) (p : PaymentId) (f : Payment → Payment)
  /-- The payment of a closed order fails. -/
  | failLate (o : OrderId) (p : PaymentId) (f : Payment → Payment)
  | cancelPayment (o : OrderId) (p : PaymentId) (f : Payment → Payment)
  | refundPayment (o : OrderId)
  -- checkouts
  /-- The order freezes no cart any more. -/
  | unlock (o : OrderId)
  /-- A new order with its payment; `none` is a payment that was there already. -/
  | checkout (c : CartId) (order : Order) (reservations : List StockReservation)
      (payment : Option Payment)
  | counterCheckout (c : CartId) (order : Order) (reservations : List StockReservation)
      (payment : Option Payment)

/-- Only the holds of a cart have changed, and none is dropped. -/
structure Reshelves (c : CartId) (holds holds' : Holds) : Prop where
  next : holds.next ≤ holds'.next
  others : ∀ i r, r.cart ≠ some c → (holds'.rows i = some r ↔ holds.rows i = some r)

/-- The reservations are bookings of an order, one for each of its lines. -/
structure Bookings (o : OrderId) (lines : List OrderLine)
    (reservations : List StockReservation) : Prop where
  lines : reservations.map (fun r => (r.product, r.quantity)) =
    lines.map fun line => (line.product, line.quantity)
  each : ∀ r ∈ reservations, r.order = some o ∧ r.cart = none ∧ r.status = .active

namespace Books

/-- Cart lines at the current prices. -/
def priced (b : Books) (items : List CartItem) : List OrderLine :=
  items.map fun item => ⟨item.product, item.quantity, b.price item.product⟩

def cartLines (b : Books) (c : CartId) : List OrderLine := b.priced (b.cartItems c)

/-- A new order: its lines are those of the cart, which is emptied, and it is booked in place of
    the holds of the cart. -/
def placeOrder (b : Books) (c : CartId) (order : Order) (reservations : List StockReservation)
    (payment : Option Payment) : Books :=
  { b with
    orders := b.orders.insert order
    lines := fun o => if o = b.orders.next then b.cartLines c else b.lines o
    payments := match payment with
      | none => b.payments
      | some payment => b.payments.insert payment
    cartItems := fun d => if d = c then [] else b.cartItems d
    holds := Holds.releaseCart c ((Holds.releaseCart c b.holds).insertAll reservations) }

/-- The cart is there, has lines, the order is for their sum, and they are booked for it. -/
structure CanPlace (b : Books) (c : CartId) (order : Order)
    (reservations : List StockReservation) : Prop where
  cart : b.carts.rows c ≠ none
  items : b.cartItems c ≠ []
  subtotal : order.subtotal = ((b.cartLines c).map OrderLine.total).sum
  bookings : Bookings b.orders.next (b.cartLines c) reservations

/-- The payment of a new order is a new one that satisfies `New`, or one that satisfies `Old` and
    that the order is found to have already. -/
def IsPaymentFor (b : Books) (o : OrderId) (New Old : Payment → Prop) : Option Payment → Prop
  | some payment => payment.order = o ∧ New payment
  | none => ∃ p, b.PaymentIs p fun payment => payment.order = o ∧ Old payment

/-- No checkout of the cart is in progress. -/
def NotInCheckout (b : Books) (c : CartId) : Prop :=
  ∀ cart o order, b.carts.rows c = some cart → cart.activeCheckoutOrder = some o →
    b.orders.rows o = some order → ¬isOrderCheckoutInProgress order

end Books

/-- An online payment with an open session. -/
def Payment.IsOpenOnline (payment : Payment) : Prop :=
  payment.provider.isOnline ∧ payment.status = .processing

/-- A payment at the counter or at the door that is still to come. -/
def Payment.IsOpenOffline (payment : Payment) : Prop :=
  ¬payment.provider.isOnline ∧ payment.status = .pending

namespace Change

/-- What a change needs. -/
def Guard (b : Books) : Change → Prop
  | shelve c _ holds => Reshelves c b.holds holds
  | expire _ | confirm _ | release _ | unlock _ => True
  | reserve o reservations => Bookings o (b.lines o) reservations
  | amend _ f => Order.Keeps f
  | transition o newStatus => b.OrderIs o fun order => newStatus ∈ order.status.allowedTransitions
  | cancel o => b.OrderIs o fun order => ¬order.status.isClosed ∧ order.status ≠ .delivered
  | failOrder o => b.OrderIs o fun order =>
      ¬order.paymentStatus.isSuccessful ∧ ¬order.status.isClosed ∧ order.status ≠ .delivered
  | requestRefund o => b.OrderIs o fun _ => True
  | refund o => b.OrderIs o fun order => .refunded ∈ order.status.allowedTransitions
  | deliver o => b.OrderIs o fun order => ¬order.isCod ∧ canTransition order.status .delivered
  | deliverCod o => b.OrderIs o fun order =>
      order.isCod ∧ order.paymentStatus = .cashReceived ∧ canTransition order.status .delivered
  | payOnline o => b.OrderIs o fun order =>
      ¬(order.paymentStatus = .paid ∧ OrderService.isPastPayment order.status) ∧
        order.status.isPayable
  | payAtCounter o => b.OrderIs o fun order =>
      ¬(order.paymentStatus = .paid ∧ order.status = .preparing) ∧
        canTransition order.status .preparing
  | confirmCod o => b.OrderIs o fun order => order.paymentStatus = .codPending
  | noteCash o => b.OrderIs o fun order => order.paymentStatus ≠ .cashReceived
  | receiveCash o => b.OrderIs o fun order => canTransition order.status .delivered
  | openOnline payment => payment.IsOpenOnline ∧
      b.OrderIs payment.order fun order => ¬order.paymentStatus.isSuccessful
  | openOffline payment => payment.IsOpenOffline
  | settle p f => b.IsUnsettled p ∧ Payment.Becomes .succeeded f
  | capture o p f => b.IsUnsettled p ∧ Payment.Becomes .succeeded f ∧
      b.OrderIs o fun order => ¬order.paymentStatus.isSuccessful ∧ order.status.isPayable
  | captureAgain o p => b.IsUnsettled p ∧ b.OrderIs o fun order => order.paymentStatus.isSuccessful
  | fail o p f => b.IsUnsettled p ∧ Payment.Becomes .failed f ∧
      b.OrderIs o fun order => ¬order.paymentStatus.isSuccessful ∧ ¬order.status.isClosed ∧
        order.status ≠ .delivered
  | failLate o p f => b.IsUnsettled p ∧ Payment.Becomes .failed f ∧
      b.OrderIs o fun order => ¬order.paymentStatus.isSuccessful ∧ order.status.isClosed
  | cancelPayment o p f => b.IsUnsettled p ∧ Payment.Becomes .cancelled f ∧
      b.OrderIs o fun order => ¬order.paymentStatus.isSuccessful
  | refundPayment o => ∃ e, b.newestPayment o = some e ∧ e.2.status = .succeeded
  | checkout c order reservations payment => b.CanPlace c order reservations ∧ b.NotInCheckout c ∧
      order.status = .pendingPayment ∧ order.paymentStatus = .pendingPayment ∧
      order.paymentMethod = .online ∧
        b.IsPaymentFor b.orders.next Payment.IsOpenOnline Payment.IsOpenOnline payment
  | counterCheckout c order reservations payment => b.CanPlace c order reservations ∧
      order.status = .awaitingPayment ∧ order.paymentStatus = .pendingPayment ∧
      order.isCounterPayment ∧
      b.IsPaymentFor b.orders.next Payment.IsOpenOffline (fun payment =>
        ¬payment.provider.isOnline ∧ payment.status ≠ .cancelled) payment

/-- The newest payment of the order, if it has succeeded, is refunded. -/
def refundNewest (b : Books) (o : OrderId) : Books :=
  match b.newestPayment o with
  | none => b
  | some e => if e.2.status = .succeeded then b.updatePayment e.1 Payment.refund else b

/-- A refund rewrites payments only. -/
theorem refundNewest_eq (b : Books) (o : OrderId) :
    refundNewest b o = { b with payments := (refundNewest b o).payments } := by
  rw [refundNewest]
  split
  · rfl
  · split <;> rfl

theorem orders_refundNewest (b : Books) (o : OrderId) : (refundNewest b o).orders = b.orders := by
  rw [refundNewest_eq]

theorem holds_refundNewest (b : Books) (o : OrderId) : (refundNewest b o).holds = b.holds := by
  rw [refundNewest_eq]

theorem lines_refundNewest (b : Books) (o : OrderId) : (refundNewest b o).lines = b.lines := by
  rw [refundNewest_eq]

/-- What a change does. -/
def apply (b : Books) : Change → Books
  | shelve c items holds =>
    { b with cartItems := fun d => if d = c then items else b.cartItems d, holds }
  | expire now => b.updateHolds (Holds.expire now)
  | reserve _ reservations => b.updateHolds (·.insertAll reservations)
  | confirm o => b.updateHolds (Holds.confirm o)
  | release o => b.updateHolds (Holds.release o)
  | amend o f => b.updateOrder o f
  | transition o status => b.updateOrder o ({ · with status })
  | cancel o => (b.updateHolds (Holds.release o)).updateOrder o Order.cancelled
  | failOrder o => (b.updateHolds (Holds.release o)).updateOrder o Order.failed
  | requestRefund o => b.updateOrder o ({ · with paymentStatus := .refundRequested })
  | refund o => ((refundNewest b o).updateHolds (Holds.release o)).updateOrder o Order.refunded
  | deliver o => (b.updateHolds (Holds.fulfill o)).updateOrder o ({ · with status := .delivered })
  | deliverCod o => b.updateOrder o ({ · with status := .delivered })
  | payOnline o => (b.updateHolds (Holds.confirm o)).updateOrder o Order.paidOnline
  | payAtCounter o => (b.updateHolds (Holds.confirm o)).updateOrder o Order.paidAtCounter
  | confirmCod o => b.updateOrder o ({ · with paymentStatus := .codConfirmed })
  | noteCash o => b.updateOrder o ({ · with paymentStatus := .cashReceived })
  | receiveCash o =>
    (b.updateHolds fun holds => Holds.fulfill o (Holds.confirm o holds)).updateOrder o
      Order.cashReceived
  | openOnline payment =>
    { b with payments := b.payments.insert payment }.updateOrder payment.order
      ({ · with paymentStatus := .pendingPayment })
  | openOffline payment => { b with payments := b.payments.insert payment }
  | settle p f => b.updatePayment p f
  | capture o p f =>
    ((b.updatePayment p f).updateHolds (Holds.confirm o)).updateOrder o Order.paidOnline
  | captureAgain _ p => b.updatePayment p Payment.succeed
  | fail o p f => ((b.updatePayment p f).updateHolds (Holds.release o)).updateOrder o Order.failed
  | failLate _ p f => b.updatePayment p f
  | cancelPayment o p f =>
    (b.updatePayment p f).updateOrder o ({ · with paymentStatus := .pendingPayment })
  | refundPayment o => refundNewest b o
  | unlock o =>
    { b with
      carts := b.carts.updateWhere (fun cart => cart.activeCheckoutOrder = some o)
        ({ · with activeCheckoutOrder := none }) }
  | checkout c order reservations payment =>
    { b.placeOrder c order reservations payment with
      carts := b.carts.modify c ({ · with activeCheckoutOrder := some b.orders.next }) }
  | counterCheckout c order reservations payment => b.placeOrder c order reservations payment

end Change

/-! ## Making changes -/

/-- Nothing has happened, or one of the given changes was made. -/
def Made (changes : List Change) (b b' : Books) : Prop :=
  b' = b ∨ ∃ ch ∈ changes, ch.Guard b ∧ b' = ch.apply b

/-- The books go through changes that `P` permits in the state they are made in. -/
def Follows (P : Books → Change → Prop) : Books → Books → Prop :=
  Relation.ReflTransGen fun b b' => ∃ ch, Change.Guard b ch ∧ P b ch ∧ b' = ch.apply b

/-- The same of the worlds that computations on the shop run in. -/
def OnBooks (P : Books → Change → Prop) (w w' : World Shop (List Observation)) : Prop :=
  Follows P w.db.books w'.db.books

/-- The change was made; or nothing has happened, because of `skip`. -/
def MadeUnless (skip : Prop) (ch : Change) (b b' : Books) : Prop :=
  (b' = b ∧ skip) ∨ (ch.Guard b ∧ b' = ch.apply b)

section Follows

variable {P P' : Books → Change → Prop} {b b' b'' : Books} {changes : List Change} {ch : Change}
  {α : Type} {w : World Shop (List Observation)}

instance : IsPreorder (World Shop (List Observation)) (OnBooks P) where
  refl _ := .refl
  trans _ _ _ h h' := Relation.ReflTransGen.trans h h'

instance : Tx.RestoresDb (OnBooks P) where
  restore _ := .refl

theorem Follows.mono (h : Follows P b b') (hP : ∀ b ch, P b ch → P' b ch) :
    Follows P' b b' := by
  refine Relation.ReflTransGen.mono ?_ _ _ h
  rintro _ _ ⟨ch, hguard, hch, rfl⟩
  exact .intro ch ⟨hguard, hP _ ch hch, rfl⟩

theorem Follows.single (hguard : ch.Guard b) (hP : P b ch) (h : b' = ch.apply b) :
    Follows P b b' := Relation.ReflTransGen.single (.intro ch ⟨hguard, hP, h⟩)

theorem Made.refl (changes : List Change) (b : Books) : Made changes b b := .inl rfl

theorem Made.single (hguard : ch.Guard b) (h : b' = ch.apply b) : Made [ch] b b' :=
  .inr ⟨ch, List.mem_singleton_self ch, hguard, h⟩

theorem MadeUnless.made {skip : Prop} (h : MadeUnless skip ch b b') : Made [ch] b b' := by
  rcases h with ⟨rfl, -⟩ | ⟨hguard, rfl⟩
  · exact .refl _ _
  · exact .single hguard rfl

theorem Made.follows (h : Made changes b b')
    (hP : ∀ ch ∈ changes, ch.Guard b → P b ch) : Follows P b b' := by
  rcases h with rfl | ⟨ch, hmem, hguard, rfl⟩
  · exact .refl
  · exact .single hguard (hP ch hmem hguard) rfl

/-- What every permitted change preserves holds at the end. -/
theorem Follows.inv (h : Follows P b b') {I : Books → Prop} (hb : I b)
    (hstep : ∀ b ch, I b → ch.Guard b → P b ch → I (ch.apply b)) : I b' := by
  induction h with
  | refl => exact hb
  | tail _ hlast ih =>
    obtain ⟨ch, hguard, hP, rfl⟩ := hlast
    exact hstep _ ch ih hguard hP

/-- If all changes are made in the first state, there is at most one. -/
theorem Follows.pinned (h : Follows P b b') (hpin : ∀ b₁ ch, P b₁ ch → b₁ = b) :
    b' = b ∨ ∃ ch, ch.Guard b ∧ P b ch ∧ b' = ch.apply b := by
  cases h with
  | refl => exact .inl rfl
  | tail _ hlast =>
    obtain ⟨ch, hguard, hP, rfl⟩ := hlast
    obtain rfl := hpin _ ch hP
    exact .inr ⟨ch, hguard, hP, rfl⟩

/-- A relation along which every permitted change moves. -/
theorem Follows.rel (h : Follows P b b') {R : Books → Books → Prop} [IsPreorder Books R]
    (hstep : ∀ b ch, ch.Guard b → P b ch → R b (ch.apply b)) : R b b' := by
  induction h with
  | refl => exact refl_of R b
  | tail _ hlast ih =>
    obtain ⟨ch, hguard, hP, rfl⟩ := hlast
    exact trans_of R ih (hstep _ ch hguard hP)

end Follows

end Crumbs
