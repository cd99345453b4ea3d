import Crumbs.Lifecycle.Payments
import Crumbs.Orders.Validation

/-!
# What Carts and Checkouts Do to the Books

## Contents

- `addItem_made`, …: a cart is filled or emptied
- `reserveForOrder_yields`, `createOrderFromCart_yields`, `finalizeCheckoutStock_yields`: the parts
  of a checkout
- `DeliveryServiceCheckout.processCheckout_yields`, `CounterCheckoutService.processCheckout_yields`
-/

namespace Crumbs

open Crumbs.Db

variable {α : Type} {b : Books} {env : Env} {c : CartId} {o : OrderId}

/-! ## Reading carts -/

theorem yields_getCart {Q : α → Books → Prop} {f : Cart → ShopTx α}
    (h : ∀ cart, b.carts.rows c = some cart → (f cart).Yields Shop.books b Q) :
    (getCart c >>= f).Yields Shop.books b Q := by
  refine Tx.Yields.bind (P := fun cart b' => b' = b ∧ b.carts.rows c = some cart) ?_ ?_
  · refine Tx.yields_getDb fun shop hshop => yields_getRow fun cart hrow => ⟨rfl, ?_⟩
    rw [← hshop]
    exact hrow
  · rintro cart _ ⟨rfl, hrow⟩
    exact h cart hrow

theorem lockCartForCheckout_yields : (lockCartForCheckout c).Yields Shop.books b fun e b' =>
    b' = b ∧ b.carts.rows c = some e.1 ∧ e.2 = b.cartItems c := by
  refine yields_getCart fun cart hcart => Tx.yields_getDb fun shop hshop =>
    Tx.yields_pure ⟨rfl, hcart, ?_⟩
  rw [← hshop]
  rfl

theorem ensureCartMutable_yields : (ensureCartMutable c).Yields Shop.books b
    fun _ b' => b' = b := by
  refine yields_getCart fun cart _ => ?_
  cases cart.activeCheckoutOrder with
  | none => exact Tx.yields_pure rfl
  | some o => exact yields_lockOrder fun order _ => .last (Tx.yields_check fun _ => Tx.yields_pure rfl)

theorem validateProduct_yields {product : ProductId} {quantity : ℤ} {cart : Option CartId} :
    (validateProduct product quantity cart).Yields Shop.books b fun _ b' => b' = b :=
  Tx.yields_getDb fun _ _ => Tx.yields_check fun _ => .last (yields_looks checkCartAvailability_looks
    fun _ => Tx.yields_pure rfl)

/-! ## Filling a cart -/

theorem Reshelves.refl (c : CartId) (holds : Holds) : Reshelves c holds holds :=
  ⟨le_rfl, fun _ _ _ => Iff.rfl⟩

theorem Reshelves.trans {holds holds' holds'' : Holds} (h : Reshelves c holds holds')
    (h' : Reshelves c holds' holds'') : Reshelves c holds holds'' :=
  ⟨h.next.trans h'.next, fun i r hr => (h'.others i r hr).trans (h.others i r hr)⟩

/-- An update of holds of the cart, which stay holds of the cart. -/
theorem Reshelves.updateWhere {holds : Holds} {P : StockReservation → Bool}
    {f : StockReservation → StockReservation} (hP : ∀ r, P r = true → r.cart = some c)
    (hf : ∀ r, (f r).cart = r.cart) : Reshelves c holds (holds.updateWhere P f) := by
  refine ⟨le_rfl, fun i r hr => ?_⟩
  rw [Table.rows_updateWhere, Option.map_eq_some_iff]
  constructor
  · rintro ⟨r', hrow, rfl⟩
    by_cases hPr : P r' = true
    · rw [if_pos hPr, hf] at hr
      exact (hr (hP r' hPr)).elim
    · rwa [if_neg hPr]
  · intro hrow
    exact ⟨r, hrow, if_neg fun hPr => hr (hP r hPr)⟩

theorem Reshelves.insert {holds : Holds} {r : StockReservation} (hr : r.cart = some c) :
    Reshelves c holds (holds.insert r) := by
  refine ⟨Nat.le_succ _, fun i r' hr' => ?_⟩
  rw [Table.rows_insert]
  by_cases hi : i = holds.next
  · subst i
    rw [if_pos rfl, holds.fresh _ le_rfl]
    exact iff_of_false (fun h => hr' (Option.some.inj h ▸ hr)) nofun
  · rw [if_neg hi]

theorem reshelves_releaseCart (holds : Holds) : Reshelves c holds (Holds.releaseCart c holds) :=
  .updateWhere (fun _ h => (of_decide_eq_true h).1) fun _ => rfl

theorem reshelves_releaseCartProduct (p : ProductId) (holds : Holds) :
    Reshelves c holds (Holds.releaseCartProduct c p holds) :=
  .updateWhere (fun _ h => (of_decide_eq_true h).1) fun _ => rfl

/-- The hold for a line: the one before is released, unless nothing is tracked. -/
theorem reserveForCartItem_reshelves (product : ProductId) (quantity : ℤ)
    (w : World Stock (List Observation)) : (reserveForCartItem env c product quantity).Ensures
      (fun _ w' => Reshelves c w.db.reservations w'.db.reservations ∧ w.db.SameGoods w'.db) w := by
  have hreshelves : (reserveForCartItem env c product quantity).Ensures
      (fun _ w' => Reshelves c w.db.reservations w'.db.reservations) w := by
    refine Tx.Ensures.atomic (Tx.Ensures.bind (P := fun _ w' => w'.db.reservations =
      w.db.reservations) (Tx.wp_mono (E := fun _ _ => True) (getOrCreateInventory_spec product w)
        (fun _ _ h => h.1.1.reservations) fun _ _ _ => trivial) fun inv w₁ h₁ => ?_)
    refine .ite (fun _ => by rw [← h₁]; exact .refl _ _) fun _ => ?_
    refine Tx.wp_bind.2 (Tx.wp_getDb.2 (Tx.Ensures.bind
      (releaseAll_holds fun _ hr => .inl (of_decide_eq_true hr).2.2) fun _ w₂ h₂ => ?_))
    refine Tx.Ensures.bind (reserveItem_holds env none product quantity (some c) _)
      fun e w₃ h₃ => ?_
    rw [← h₁]
    change Reshelves c _ w₃.db.reservations
    rw [h₃.1, h₂]
    exact (reshelves_releaseCartProduct product _).trans (.insert h₃.2.2.2.2.1)
  exact Tx.wp_mono (Tx.wp_and hreshelves (reserveForCartItem_does env c product quantity w))
    (fun _ _ h => ⟨h.1, h.2.choose_spec.1.sameGoods⟩) fun _ _ _ => trivial

theorem saveCartItem_yields {product : ProductId} {quantity : ℤ} {Q : CartItem → Books → Prop}
    (h : ∀ item items, Q item { b with cartItems := fun d => if d = c then items else b.cartItems d }) :
    (saveCartItem c product quantity).Yields Shop.books b Q := by
  rw [saveCartItem]
  split
  · refine Tx.Yields.bind (P := fun _ b' => ∃ items,
      b' = { b with cartItems := fun d => if d = c then items else b.cartItems d }) ?_ ?_
    · rintro w rfl
      exact ⟨_, rfl⟩
    · rintro _ _ ⟨items, rfl⟩
      exact Tx.yields_pure (h _ items)
  · exact Tx.yields_raise _

/-- A line is saved, and its stock is held. -/
theorem putCartItem_made {product : ProductId} {quantity : ℤ} :
    (do
      let item ← saveCartItem c product quantity
      let _ ← ShopTx.onStock (reserveForCartItem env c product item.quantity)
      return item : ShopTx CartItem).Yields Shop.books b
        fun _ b' => ∃ items holds, Made [.shelve c items holds] b b' := by
  refine (saveCartItem_yields (Q := fun _ b' => ∃ items,
    b' = { b with cartItems := fun d => if d = c then items else b.cartItems d })
    fun _ items => ⟨items, rfl⟩).bind ?_
  rintro item _ ⟨items, rfl⟩
  exact yields_reservations (P := fun _ => Reshelves c)
    (fun w => reserveForCartItem_reshelves product item.quantity w)
    fun _ holds hholds => Tx.yields_pure ⟨items, holds, .single hholds rfl⟩

theorem addItem_made {product : ProductId} {quantity : ℤ} :
    (addItem env c product quantity).Yields Shop.books b
      fun _ b' => ∃ items holds, Made [.shelve c items holds] b b' :=
  .atomic (ensureCartMutable_yields.skip fun _ => Tx.yields_check fun _ => Tx.yields_getDb fun _ _ =>
    validateProduct_yields.skip fun _ => putCartItem_made)

theorem setItemQuantity_made {product : ProductId} {quantity : ℤ} :
    (setItemQuantity env c product quantity).Yields Shop.books b
      fun _ b' => ∃ items holds, Made [.shelve c items holds] b b' :=
  .atomic (ensureCartMutable_yields.skip fun _ => Tx.yields_check fun _ =>
    validateProduct_yields.skip fun _ => putCartItem_made)

/-! ## Booking an order -/

theorem map_line_modify (items : List OrderItem) (index : ℕ) (date : Date) :
    (items.modify index fun item => { item with fulfillmentDate := some date }).map
      OrderItem.line = items.map OrderItem.line := by
  induction items generalizing index with
  | nil => rw [List.modify_nil]
  | cons item rest ih =>
    cases index with
    | zero => rfl
    | succ index => rw [List.modify_succ_cons, List.map_cons, ih, List.map_cons]

theorem books_setItemFulfillmentDate (shop : Shop) (index : ℕ) (date : Date) :
    (shop.setItemFulfillmentDate o index date).books = shop.books := by
  have hlines : (fun o' => ((shop.setItemFulfillmentDate o index date).orderItems o').map
      OrderItem.line) = fun o' => (shop.orderItems o').map OrderItem.line := by
    funext o'
    by_cases ho : o' = o
    · subst o'
      simp only [Shop.setItemFulfillmentDate, if_true]
      exact map_line_modify _ index date
    · simp only [Shop.setItemFulfillmentDate, if_neg ho]
  rw [Shop.books, hlines]
  rfl

/-- What was booked for each of some lines. -/
def BookedFor (o : OrderId) (items : List (OrderItem × ℕ)) (b : Books)
    (reservations : List (ReservationId × StockReservation)) (b' : Books) : Prop :=
  Bookings o (items.map fun e => e.1.line) (reservations.map Prod.snd) ∧
    b' = b.updateHolds (·.insertAll (reservations.map Prod.snd))

theorem reserveOrderItems_yields (items : List (OrderItem × ℕ)) :
    (reserveOrderItems env o items).Yields Shop.books b (BookedFor o items b) := by
  induction items generalizing b with
  | nil => exact Tx.yields_pure ⟨⟨rfl, fun _ h => absurd h List.not_mem_nil⟩, rfl⟩
  | cons e rest ih =>
    obtain ⟨item, index⟩ := e
    refine yields_reservations (P := fun e holds holds' => holds' = holds.insert e.2 ∧
      e.2.order = some o ∧ e.2.product = item.product ∧ (e.2.quantity : ℤ) = item.quantity ∧
        e.2.cart = none ∧ e.2.status = .active) (fun w => ?_) fun reservation holds hholds => ?_
    · exact Tx.wp_mono (Tx.wp_and (reserveItem_holds env (some o) item.product item.quantity none 120)
        (reserveItem_does env (some o) item.product item.quantity none 120 w))
        (fun _ _ h => ⟨h.1, h.2.choose_spec.1.sameGoods⟩) fun _ _ _ => trivial
    obtain ⟨rfl, horder, hproduct, hquantity, hcart, hstatus⟩ := hholds
    refine Tx.yields_write (g := id) (fun shop => books_setItemFulfillmentDate shop index _)
      (ih.bind ?_)
    rintro reservations _ ⟨⟨hlines, heach⟩, rfl⟩
    refine Tx.yields_pure ⟨⟨?_, ?_⟩, rfl⟩
    · rw [List.map_cons, List.map_cons, List.map_cons, List.map_cons, hlines, hproduct,
        Int.ofNat.inj hquantity]
      rfl
    · rintro r hr
      rcases List.mem_cons.1 hr with rfl | hr
      · exact ⟨horder, hcart, hstatus⟩
      · exact heach r hr

/-- The order is booked line by line, and gets the day on which it will be ready. -/
theorem reserveForOrder_yields : (reserveForOrder env o).Yields Shop.books b fun _ b' =>
    ∃ reservations f, Bookings o (b.lines o) reservations ∧ Order.Keeps f ∧
      b' = (b.updateHolds (·.insertAll reservations)).updateOrder o f := by
  refine .atomic (Tx.yields_getDb fun shop hshop => (reserveOrderItems_yields _).bind ?_)
  rintro reservations _ ⟨hbookings, rfl⟩
  have hlines : (shop.orderItems o).zipIdx.map (fun e => e.1.line) = b.lines o := by
    rw [← hshop]
    change _ = (shop.orderItems o).map OrderItem.line
    have hline : (fun e : OrderItem × ℕ => e.1.line) = OrderItem.line ∘ Prod.fst := rfl
    rw [hline, ← List.map_map, List.zipIdx_map_fst]
  rw [hlines] at hbookings
  let f : Order → Order := ({ · with
    fulfillmentDate := (reservations.map fun e => e.2.productionDate).max? })
  exact Tx.yields_write (g := (·.updateOrder o f)) (fun _ => rfl) (Tx.yields_pure
    ⟨_, f, hbookings, fun _ => ⟨rfl, rfl, rfl, rfl⟩, rfl⟩)

theorem OrderService.reserveStock_follows : (reserveStock env o).Yields Shop.books b fun _ b' =>
    ∃ reservations f, Bookings o (b.lines o) reservations ∧ Order.Keeps f ∧
      b' = (b.updateHolds (·.insertAll reservations)).updateOrder o f :=
  .atomic (reserveForOrder_yields.bind fun _ _ h => Tx.yields_pure h)

/-! ## The order of a cart -/

theorem validateCartItems_yields {items : List CartItem} : (validateCartItems items).Yields
    Shop.books b fun _ b' => b' = b ∧ items ≠ [] := by
  refine Tx.yields_check fun hitems => Tx.yields_getDb fun _ _ => Tx.yields_check fun _ => ?_
  refine (Tx.yields_forM fun item _ => ?_).mono fun _ _ hb => ⟨hb, hitems⟩
  exact .catching (.last (yields_looks checkCartAvailability_looks fun _ => Tx.yields_pure rfl))
    fun _ _ => Tx.yields_raise _

theorem generateOrderNumber_yields : (generateOrderNumber env).Yields Shop.books b
    fun _ b' => b' = b := by
  refine Tx.yields_getDb fun shop _ => ?_
  generalize List.range 5 = attempts
  induction attempts with
  | nil => exact Tx.yields_raise _
  | cons attempt rest ih => exact .ite (fun _ => Tx.yields_pure rfl) fun _ => ih

/-- The order of the day gets its number, unless it has one. -/
theorem assignDailySequence_yields : (assignDailySequence env o).Yields Shop.books b
    fun _ b' => ∃ f, Order.Keeps f ∧ b' = b.updateOrder o f := by
  refine .atomic (yields_lockOrder fun order _ => .when (fun _ => Tx.yields_getDb fun shop _ => ?_)
    fun _ => ⟨id, fun _ => ⟨rfl, rfl, rfl, rfl⟩, (Books.updateOrder_eq_self fun _ _ => rfl).symm⟩)
  let f : Order → Order := ({ · with
    dailySequence := some (nextDailySequence shop env.today), dailySequenceDate := some env.today })
  exact .last (yields_updateOrder (g := f) (Tx.yields_pure ⟨f, fun _ => ⟨rfl, rfl, rfl, rfl⟩, rfl⟩))

/-- The books with one more order. -/
def Books.addOrder (b : Books) (order : Order) (lines : List OrderLine) : Books :=
  { b with
    orders := b.orders.insert order
    lines := fun o => if o = b.orders.next then lines else b.lines o }

/-- An update of the order that was added last. -/
theorem Books.updateOrder_added (b' : Books) {order : Order}
    (h : b'.orders = b.orders.insert order) (f : Order → Order) :
    b'.updateOrder b.orders.next f = { b' with orders := b.orders.insert (f order) } := by
  rw [updateOrder, h, Table.modify_insert_self]

/-- What an order is created with. -/
structure Created (status : OrderStatus) (paymentStatus : OrderPaymentStatus)
    (paymentMethod : PaymentMethod) (lines : List OrderLine) (order : Order) : Prop where
  status : order.status = status
  paymentStatus : order.paymentStatus = paymentStatus
  paymentMethod : order.paymentMethod = paymentMethod
  subtotal : order.subtotal = (lines.map OrderLine.total).sum

theorem Created.keep {status : OrderStatus} {paymentStatus : OrderPaymentStatus}
    {paymentMethod : PaymentMethod} {lines : List OrderLine} {order : Order}
    (h : Created status paymentStatus paymentMethod lines order) {f : Order → Order}
    (hf : Order.Keeps f) : Created status paymentStatus paymentMethod lines (f order) where
  status := (hf order).status.trans h.status
  paymentStatus := (hf order).paymentStatus.trans h.paymentStatus
  paymentMethod := (hf order).paymentMethod.trans h.paymentMethod
  subtotal := (hf order).subtotal.trans h.subtotal

theorem createOrderFromCart_yields {cart : Cart} {customer : CustomerDetails}
    {user : Option UserId} {items : List CartItem} {status : OrderStatus}
    {paymentStatus : OrderPaymentStatus} :
    (createOrderFromCart env cart customer user items status paymentStatus).Yields Shop.books b
      fun o b' => o = b.orders.next ∧ items ≠ [] ∧ ∃ order,
        Created status paymentStatus customer.paymentMethod (b.priced items) order ∧
          b' = b.addOrder order (b.priced items) := by
  refine .atomic (validateCartItems_yields.bind ?_)
  rintro _ b' ⟨hb, hitems⟩
  subst b'
  refine generateOrderNumber_yields.skip fun orderNumber => ?_
  let order : Order :=
    { orderNumber, user := user.or cart.user, email := customer.email, status, paymentStatus,
      paymentMethod := customer.paymentMethod, deliveryType := customer.deliveryType,
      deliveryFee := normalizeDeliveryFee customer.deliveryType customer.deliveryFee, subtotal := 0,
      total := 0, createdAt := env.now }
  refine Tx.Yields.bind (P := fun o b' => o = b.orders.next ∧
    b' = { b with orders := b.orders.insert order }) ?_ ?_
  · refine Tx.yields_getDb fun shop hshop => Tx.yields_write
      (g := fun b => { b with orders := b.orders.insert order }) (fun _ => rfl)
      (Tx.yields_pure ⟨?_, rfl⟩)
    rw [← hshop]
    rfl
  rintro _ _ ⟨rfl, rfl⟩
  refine Tx.yields_getDb fun shop hshop => ?_
  have hlines : (items.map (orderItem shop.stock)).map OrderItem.line = b.priced items := by
    have hprice : shop.stock.price = b.price := congrArg Books.price hshop
    rw [Books.priced, ← hprice, List.map_map]
    rfl
  have htotal : ((items.map (orderItem shop.stock)).map (·.lineTotal)).sum =
      ((b.priced items).map OrderLine.total).sum := by
    rw [← hlines, List.map_map, List.map_map, List.map_map]
    rfl
  refine Tx.yields_write (g := fun b' => { b' with
    lines := fun o => if o = b.orders.next then b.priced items else b'.lines o }) (fun shop' => ?_)
    ?_
  · rw [← hlines]
    simp only [Shop.books, Shop.setOrderItems, apply_ite (List.map OrderItem.line)]
  let sum : Order → Order := ({ · with
    subtotal := ((items.map (orderItem shop.stock)).map (·.lineTotal)).sum
    total := ((items.map (orderItem shop.stock)).map (·.lineTotal)).sum +
      normalizeDeliveryFee customer.deliveryType customer.deliveryFee })
  refine yields_updateOrder (g := sum) (assignDailySequence_yields.bind ?_)
  rintro _ _ ⟨f, hf, rfl⟩
  have hcreated : Created status paymentStatus customer.paymentMethod (b.priced items) (sum order) :=
    ⟨rfl, rfl, rfl, htotal⟩
  refine Tx.yields_pure ⟨rfl, hitems, f (sum order), hcreated.keep hf, ?_⟩
  rw [Books.updateOrder_updateOrder]
  exact Books.updateOrder_added _ rfl _

/-! ## The stock of a cart moves over -/

theorem clearCart_yields : (clearCart c).Yields Shop.books b fun _ b' =>
    b' = { b.updateHolds (Holds.releaseCart c) with
      cartItems := fun d => if d = c then [] else b.cartItems d } :=
  yields_rebooks (releaseCartReservations_rebooks c) fun _ => Tx.yields_modifyDb
    (g := fun b => { b with cartItems := fun d => if d = c then [] else b.cartItems d })
    (fun _ => rfl) rfl

theorem finalizeCheckoutStock_yields : (finalizeCheckoutStock env c o).Yields Shop.books b
    fun _ b' => ∃ reservations f, Bookings o (b.lines o) reservations ∧ Order.Keeps f ∧
      b' = { b.updateOrder o f with
        cartItems := fun d => if d = c then [] else b.cartItems d
        holds := Holds.releaseCart c ((Holds.releaseCart c b.holds).insertAll reservations) } := by
  refine .atomic (yields_rebooks (releaseCartReservations_rebooks c) fun _ =>
    reserveForOrder_yields.bind ?_)
  rintro _ _ ⟨reservations, f, hbookings, hf, rfl⟩
  refine clearCart_yields.mono ?_
  rintro _ _ rfl
  exact ⟨reservations, f, hbookings, hf, rfl⟩

theorem applyToOrder_yields {growth : GrowthCheckoutContext} : (applyToOrder o growth).Yields
    Shop.books b fun _ b' => ∃ f, Order.Keeps f ∧ b' = b.updateOrder o f := by
  refine .atomic (Tx.yields_check fun _ => yields_lockOrder fun order _ => ?_)
  let f : Order → Order := ({ · with
    discountAmount := growth.couponDiscount
    promotionDiscountAmount := growth.promotionDiscount
    total := max 0 (order.subtotal + order.deliveryFee - growth.totalDiscount) })
  exact .last (yields_updateOrder (g := f) (Tx.yields_pure ⟨f, fun _ => ⟨rfl, rfl, rfl, rfl⟩, rfl⟩))

theorem setActiveCheckoutOrder_yields : (setActiveCheckoutOrder c o).Yields Shop.books b
    fun _ b' => b' = { b with
      carts := b.carts.modify c ({ · with activeCheckoutOrder := some o }) } :=
  Tx.yields_modifyDb (g := fun b => { b with
    carts := b.carts.modify c ({ · with activeCheckoutOrder := some o }) }) (fun _ => rfl) rfl

/-! ## Online checkout -/

namespace DeliveryServiceCheckout

theorem abortCheckout_yields {order : Option OrderId} {message : String} :
    (abortCheckout c order message : ShopTx α).Yields Shop.books b fun _ _ => False :=
  Tx.Yields.bind (P := fun _ _ => True) (fun _ _ => (Tx.wp_iff _).2 ⟨fun _ _ _ => trivial,
    fun _ _ _ => trivial⟩) fun _ _ _ => Tx.yields_raise _

/-- The order and its stock, with the cart frozen, before there is a payment. -/
def placed (c : CartId) (order : Order) (reservations : List StockReservation) (b : Books) :
    Books :=
  { b.placeOrder c order reservations none with
    carts := b.carts.modify c ({ · with activeCheckoutOrder := some b.orders.next }) }

theorem placeOrder_yields {cart : Cart} {customer : CustomerDetails} {user : Option UserId}
    {growth : GrowthCheckoutContext} :
    (placeOrder env c cart customer user (b.cartItems c) growth).Yields Shop.books b
      fun o b' => o = b.orders.next ∧ b.cartItems c ≠ [] ∧ ∃ order reservations,
        Created .pendingPayment .pendingPayment customer.paymentMethod (b.cartLines c) order ∧
          Bookings o (b.cartLines c) reservations ∧ b' = placed c order reservations b := by
  refine Tx.Yields.bind (.catching createOrderFromCart_yields fun _ _ => abortCheckout_yields) ?_
  rintro _ _ ⟨rfl, hitems, order, hcreated, rfl⟩
  refine Tx.Yields.bind (P := fun _ b' => ∃ order reservations, Created .pendingPayment
    .pendingPayment customer.paymentMethod (b.cartLines c) order ∧
      Bookings b.orders.next (b.cartLines c) reservations ∧ b' = placed c order reservations b)
    (.catching ?_ fun _ _ => abortCheckout_yields)
    fun _ _ h => Tx.yields_pure ⟨rfl, hitems, h⟩
  refine setActiveCheckoutOrder_yields.bind ?_
  rintro _ _ rfl
  refine applyToOrder_yields.bind ?_
  rintro _ _ ⟨f, hf, rfl⟩
  refine finalizeCheckoutStock_yields.mono ?_
  rintro _ _ ⟨reservations, g, hbookings, hg, rfl⟩
  refine ⟨g (f order), reservations, (hcreated.keep hf).keep hg, ?_, ?_⟩
  · have hlines : (b.addOrder order (b.cartLines c)).lines b.orders.next = b.cartLines c :=
      if_pos rfl
    exact hlines ▸ hbookings
  · rw [Books.updateOrder_updateOrder, Books.updateOrder_added (b := b) _ rfl]
    rfl

theorem payOrder_yields : (payOrder env c o).Yields Shop.books b (Opened env o b) :=
  .catching PaymentService.initiateOnline_yields fun _ _ =>
    .ite (fun _ => abortCheckout_yields) fun _ => Tx.yields_raise _

/-- The checkout of a cart that is not in one yet makes an order, with a payment that is open. -/
theorem startCheckout_yields {cart : Cart} {customer : CustomerDetails} {user : Option UserId}
    {growth : GrowthCheckoutContext} (hcart : b.carts.rows c ≠ none) (hfree : b.NotInCheckout c) :
    (startCheckout env c cart (b.cartItems c) customer user growth).Yields Shop.books b
      fun result b' => result.order = b.orders.next ∧ ∃ order reservations payment,
        (Change.checkout c order reservations payment).Guard b ∧
          b' = (Change.checkout c order reservations payment).apply b := by
  refine Tx.yields_check fun _ => Tx.yields_check fun _ => Tx.yields_check fun _ =>
    placeOrder_yields.bind ?_
  rintro _ _ ⟨rfl, hitems, order, reservations, hcreated, hbookings, rfl⟩
  refine payOrder_yields.bind fun e b' h => ?_
  refine yields_updateOrder (Tx.yields_write
    (g := (·.updateOrder b.orders.next ({ · with status := .pendingPayment }))) (fun _ => rfl)
    (Tx.yields_pure ⟨rfl, { order with paymentStatus := .pendingPayment, status := .pendingPayment },
      reservations, ?_⟩))
  have hplace : b.CanPlace c { order with
      paymentStatus := .pendingPayment, status := .pendingPayment } reservations :=
    ⟨hcart, hitems, hcreated.subtotal, hbookings⟩
  rw [Books.updateOrder_updateOrder]
  rcases h with ⟨rfl, hpay, horder, hopen⟩ | ⟨-, horder, ⟨hopen, -⟩, rfl⟩
  · refine ⟨none, ⟨hplace, hfree, rfl, rfl, hcreated.paymentMethod, e.1, e.2, hpay, horder, hopen⟩,
      ?_⟩
    exact Books.updateOrder_added (b := b) (placed c order reservations b) rfl _
  · refine ⟨some e.2, ⟨hplace, hfree, rfl, rfl, hcreated.paymentMethod, horder, hopen⟩, ?_⟩
    rw [Change.apply, horder, Books.updateOrder_updateOrder]
    exact Books.updateOrder_added (b := b)
      { placed c order reservations b with payments := b.payments.insert e.2 } rfl _

/-- The checkout that freezes the cart is handed back while it is in progress; one that is over
    is forgotten. -/
theorem resolveInProgressCheckout_yields {cart : Cart} {paymentMethod : PaymentMethod}
    (hcart : b.carts.rows c = some cart) :
    (resolveInProgressCheckout c cart paymentMethod).Yields Shop.books b fun existing b' =>
      match existing with
      | some result => b' = b ∧ cart.activeCheckoutOrder = some result.order ∧
          b.OrderIs result.order isOrderCheckoutInProgress
      | none => b.NotInCheckout c ∧ (b' = b ∨ b' = { b with
          carts := b.carts.modify c ({ · with activeCheckoutOrder := none }) }) := by
  rw [resolveInProgressCheckout]
  cases hactive : cart.activeCheckoutOrder with
  | none =>
    refine Tx.yields_pure ⟨fun cart' o order hcart' ho => ?_, .inl rfl⟩
    obtain rfl := Option.some.inj (hcart.symm.trans hcart')
    exact nomatch hactive.symm.trans ho
  | some o =>
    refine yields_lockOrder fun order hrow => .ite (fun hover => ?_) fun hprogress => ?_
    · refine Tx.yields_write
        (g := fun b => { b with carts := b.carts.modify c ({ · with activeCheckoutOrder := none }) })
        (fun _ => rfl) (Tx.yields_pure ⟨fun cart' o' order' hcart' ho hrow' => ?_, .inr rfl⟩)
      obtain rfl := Option.some.inj (hcart.symm.trans hcart')
      obtain rfl := Option.some.inj (hactive.symm.trans ho)
      obtain rfl := Option.some.inj (hrow.symm.trans hrow')
      exact hover
    · exact Tx.yields_getDb fun _ _ => Tx.yields_check fun _ =>
        Tx.yields_pure ⟨rfl, rfl, order, hrow, not_not.1 hprogress⟩

/-- An online checkout hands back the order that is in checkout, or makes one. -/
theorem processCheckout_yields {customer : CustomerDetails} {user : Option UserId}
    {growth : Cart → Money → GrowthCheckoutContext} :
    (processCheckout env c customer user growth).Yields Shop.books b fun result b' =>
      (b' = b ∧ (∃ cart, b.carts.rows c = some cart ∧
          cart.activeCheckoutOrder = some result.order) ∧
          b.OrderIs result.order isOrderCheckoutInProgress) ∨
        (result.order = b.orders.next ∧ ∃ order reservations payment,
          (Change.checkout c order reservations payment).Guard b ∧
            b' = (Change.checkout c order reservations payment).apply b) := by
  refine .atomic (lockCartForCheckout_yields.bind ?_)
  rintro ⟨cart, items⟩ b' ⟨hb, hcart, hitems⟩
  dsimp only at hcart hitems
  subst b' items
  refine (resolveInProgressCheckout_yields hcart).bind fun existing b' h => ?_
  cases existing with
  | some result =>
    obtain ⟨rfl, hactive, hprogress⟩ := h
    exact Tx.yields_pure (.inl ⟨rfl, ⟨cart, hcart, hactive⟩, hprogress⟩)
  | none =>
    obtain ⟨hfree, rfl | rfl⟩ := h
    · exact Tx.yields_getDb fun _ _ =>
        (startCheckout_yields (by rw [hcart]; nofun) hfree).mono fun _ _ h => .inr h
    · -- the cart with the checkout that is over cleared away
      let cleared : Books :=
        { b with carts := b.carts.modify c ({ · with activeCheckoutOrder := none }) }
      have hcleared : cleared.carts.rows c = some { cart with activeCheckoutOrder := none } := by
        rw [Table.rows_modify_self, hcart]
        rfl
      have hfree' : cleared.NotInCheckout c := by
        intro cart' o order hcart' ho
        obtain rfl := Option.some.inj (hcleared.symm.trans hcart')
        exact nomatch ho
      refine Tx.yields_getDb fun _ _ => (startCheckout_yields (b := cleared)
        (by rw [hcleared]; nofun) hfree').mono ?_
      rintro _ _ ⟨hresult, order, reservations, payment, ⟨hplace, -, hterms⟩, rfl⟩
      refine Or.inr ⟨hresult, order, reservations, payment, ⟨⟨by rw [hcart]; nofun, hplace.items,
        hplace.subtotal, hplace.bookings⟩, hfree, hterms⟩, ?_⟩
      simp only [Change.apply, Books.placeOrder, cleared, Table.modify_modify]
      rfl

end DeliveryServiceCheckout

/-! ## Counter checkout -/

theorem CounterCheckoutService.processCheckout_yields {customer : CustomerDetails}
    {paymentMethod : PaymentMethod} {user : Option UserId} :
    (processCheckout env c customer paymentMethod user).Yields Shop.books b fun result b' =>
      result.order = b.orders.next ∧ ∃ order reservations payment,
        (Change.counterCheckout c order reservations payment).Guard b ∧
          b' = (Change.counterCheckout c order reservations payment).apply b := by
  refine .atomic (Tx.yields_check fun hmethod => Tx.yields_check fun _ =>
    lockCartForCheckout_yields.bind ?_)
  rintro ⟨cart, items⟩ b' ⟨hb, hcart, hitems⟩
  dsimp only at hcart hitems
  subst b' items
  refine Tx.yields_check fun _ => createOrderFromCart_yields.bind ?_
  rintro _ _ ⟨rfl, hitems, order, hcreated, rfl⟩
  refine finalizeCheckoutStock_yields.bind ?_
  rintro _ _ ⟨reservations, f, hbookings, hf, rfl⟩
  have hcreated' := hcreated.keep hf
  have hlines : (b.addOrder order (b.cartLines c)).lines b.orders.next = b.cartLines c := if_pos rfl
  have hplace : b.CanPlace c (f order) reservations :=
    ⟨by rw [hcart]; nofun, hitems, hcreated'.subtotal, hlines ▸ hbookings⟩
  have hcounter : (f order).isCounterPayment := by
    rw [Order.isCounterPayment, hcreated'.paymentMethod]
    by_contra h
    exact hmethod (not_or.1 h)
  refine yields_lockOrder fun order' _ =>
    PaymentService.initiateCounterPayment_yields.bind fun e b' h => Tx.yields_pure ⟨rfl, f order,
      reservations, ?_⟩
  rcases h with ⟨rfl, hpay, horder, hoffline, hstatus⟩ | ⟨horder, hopen, rfl⟩
  · refine ⟨none, ⟨hplace, hcreated'.status, hcreated'.paymentStatus, hcounter, e.1, e.2, hpay,
      horder, hoffline, hstatus⟩, ?_⟩
    rw [Books.updateOrder_added (b := b) _ rfl]
    rfl
  · refine ⟨some e.2, ⟨hplace, hcreated'.status, hcreated'.paymentStatus, hcounter, horder,
      hopen⟩, ?_⟩
    rw [Books.updateOrder_added (b := b) _ rfl]
    rfl

end Crumbs
