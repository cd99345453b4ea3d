import Crumbs.Lifecycle.Runs

/-!
# Checkouts as Snapshots

A new order is a copy of its cart at that moment. The stock that the cart holds goes over to the
order, unit by unit, and the cart is left empty.

## Contents

- `Snapshot`: the order is a copy of the cart, and has its stock
- `ConsistentInventory`: the ledger holds, and reservations are for orders that are there
- `SucceedsOrNothing`: success has an effect, and failure has none
- `checkouts_snapshot`
-/

namespace Crumbs

open Crumbs.Db StockReservation

/-! ## What a checkout does -/

/-- The units of a product on some cart lines. -/
def lineQuantity (items : List CartItem) (p : ProductId) : ℕ :=
  ((items.filter (·.product = p)).map (·.quantity)).sum

/-- In `shop'` the order `o` is a copy of what the cart was in `shop`, and has its stock. -/
structure Snapshot (c : CartId) (o : OrderId) (shop shop' : Shop) : Prop where
  lines : (shop'.orderItems o).map OrderItem.line = shop.books.cartLines c
  subtotal : ∃ order, shop'.orders.rows o = some order ∧
    order.subtotal = ((shop'.orderItems o).map fun item => item.line.total).sum ∧
      order.subtotal = calculateSubtotal shop.stock (shop.cartItems c)
  /-- Each line has one ACTIVE reservation, and the order has no others. -/
  reservations : (shop'.stock.reservations.filter fun r =>
      r.order = some o ∧ r.status = .active).map (fun e => (e.2.product, e.2.quantity)) =
    (shop'.orderItems o).map fun item => (item.product, item.quantity)
  emptied : shop'.cartItems c = []
  released : ∀ i r, shop'.stock.reservations.rows i = some r → r.cart = some c →
    r.status ≠ .active
  reserved : ∀ p, shop.stock.tracks p → shop'.stock.tracks p ∧
    ((shop'.stock.inventory p).reservedQuantity : ℤ) = (shop.stock.inventory p).reservedQuantity +
      (lineQuantity (shop.cartItems c) p - cartReserved shop.stock c p)

/-- The ledger holds, and reservations refer to orders that are there. -/
structure ConsistentInventory (shop : Shop) : Prop where
  ledger : Ledger shop.stock
  orders : ∀ i r o, shop.stock.reservations.rows i = some r → r.order = some o →
    shop.orders.rows o ≠ none

/-- On success `Q` holds of the result and of the shop that is left; on failure the shop is what it
    was. -/
def SucceedsOrNothing {α : Type} (shop : Shop) (x : ShopTx α) (Q : α → Shop → Prop) : Prop :=
  ∀ trace, x.wp (fun a w' => Q a w'.db) (fun _ w' => w'.db = shop) ⟨shop, trace⟩

/-! ## Holds that go over to the order -/

/-- What an ACTIVE reservation of the cart adds to its holds of `p`. -/
def StockReservation.cartQuantity (c : CartId) (p : ProductId) (r : StockReservation) : ℕ :=
  if r.cart = some c ∧ r.product = p ∧ r.status = .active then r.quantity else 0

theorem cartReserved_eq_total (stock : Stock) (c : CartId) (p : ProductId) :
    cartReserved stock c p = stock.reservations.total (cartQuantity c p) := by
  rw [cartReserved, Stock.reservationsWhere, List.map_reverse, List.sum_reverse, Table.sum_filter]
  refine Table.total_congr fun i => ?_
  simp only [decide_eq_true_eq]
  rfl

section Holds

variable {holds : Holds} {c : CartId} {p : ProductId} {o : OrderId}
  {reservations : List StockReservation} {lines : List OrderLine}

/-- A cart that lets go of its holds gives back what it held. -/
theorem total_releaseCart (holds : Holds) (c : CartId) (p : ProductId) :
    (Holds.releaseCart c holds).total (liveQuantity p) + holds.total (cartQuantity c p) =
      holds.total (liveQuantity p) := by
  have hmove := Table.total_updateWhere holds
    (fun r : StockReservation => r.cart = some c ∧ r.status = .active)
    ({ · with status := .released }) (liveQuantity p)
  have hheld : holds.total (cartQuantity c p) = holds.total fun r =>
      if decide (r.cart = some c ∧ r.status = .active) then liveQuantity p r else 0 := by
    refine Table.total_congr fun i => ?_
    cases holds.rows i with
    | none => rfl
    | some r =>
      simp only [Option.elim_some, cartQuantity, liveQuantity, isLive, decide_eq_true_eq]
      by_cases hcart : r.cart = some c ∧ r.status = .active
      · rw [if_pos hcart]
        exact if_congr (by rw [hcart.1, hcart.2]; simp) rfl rfl
      · rw [if_neg hcart, if_neg fun h => hcart ⟨h.1, h.2.2⟩]
  have hnone : (holds.total fun r => if decide (r.cart = some c ∧ r.status = .active) then
      liveQuantity p { r with status := .released } else 0) = 0 :=
    Table.total_eq_zero fun _ r _ => by simp [liveQuantity, isLive]
  rw [Holds.releaseCart, hheld, hmove, hnone, Nat.add_zero]

/-- A cart whose holds have been let go holds nothing. -/
theorem not_active_releaseCart {i : ReservationId} {r : StockReservation}
    (hrow : (Holds.releaseCart c holds).rows i = some r) (hcart : r.cart = some c) :
    r.status ≠ .active := by
  rw [Holds.releaseCart, Table.rows_updateWhere, Option.map_eq_some_iff] at hrow
  obtain ⟨r, -, rfl⟩ := hrow
  split
  · nofun
  next hnot =>
    rw [if_neg hnot] at hcart
    exact fun hactive => hnot (decide_eq_true ⟨hcart, hactive⟩)

/-- What bookings add for a product. -/
theorem sum_bookings (hbookings : Bookings o lines reservations) (p : ProductId) :
    (reservations.map (liveQuantity p)).sum =
      ((lines.filter (·.product = p)).map (·.quantity)).sum := by
  have hpairs : reservations.map (liveQuantity p) =
      (reservations.map fun r => (r.product, r.quantity)).map
        fun e => if e.1 = p then e.2 else 0 := by
    rw [List.map_map]
    refine List.map_congr_left fun r hr => ?_
    rw [liveQuantity_of_live (.inl (hbookings.each r hr).2.2)]
    rfl
  rw [hpairs, hbookings.lines, List.map_map]
  refine (List.sum_map_ite (fun line : OrderLine => line.product = p) (·.quantity) (fun _ => 0)
    lines).trans ?_
  simp

end Holds

/-! ## The effect of a new order -/

section PlaceOrder

variable {shop shop' : Shop} {c : CartId} {order : Order} {reservations : List StockReservation}
  {payment : Option Payment}

theorem lineQuantity_eq (b : Books) (items : List CartItem) (p : ProductId) :
    (((b.priced items).filter (·.product = p)).map (·.quantity)).sum = lineQuantity items p := by
  rw [Books.priced, List.filter_map, List.map_map]
  rfl

theorem subtotal_eq (shop : Shop) (c : CartId) :
    ((shop.books.cartLines c).map OrderLine.total).sum =
      calculateSubtotal shop.stock (shop.cartItems c) := by
  rw [Books.cartLines, Books.priced, List.map_map]
  rfl

/-- The holds go over to the order unit by unit. -/
theorem total_placeOrder (b : Books) (order : Order) (payment : Option Payment) (p : ProductId)
    (hbookings : Bookings b.orders.next (b.cartLines c) reservations) :
    (b.placeOrder c order reservations payment).holds.total (liveQuantity p) +
        b.holds.total (cartQuantity c p) =
      b.holds.total (liveQuantity p) + lineQuantity (b.cartItems c) p := by
  have hfirst := total_releaseCart b.holds c p
  have hagain := total_releaseCart ((Holds.releaseCart c b.holds).insertAll reservations) c p
  have hnone : ((Holds.releaseCart c b.holds).insertAll reservations).total (cartQuantity c p) =
      0 := by
    have hold : (Holds.releaseCart c b.holds).total (cartQuantity c p) = 0 :=
      Table.total_eq_zero fun i r hrow => if_neg fun h => not_active_releaseCart hrow h.1 h.2.2
    have hnew : (reservations.map (cartQuantity c p)).sum = 0 :=
      List.sum_eq_zero fun n hn => by
        obtain ⟨r, hr, rfl⟩ := List.mem_map.1 hn
        exact if_neg fun h => nomatch h.1.symm.trans (hbookings.each r hr).2.1
    rw [Table.total_insertAll, hold, hnew]
  have hadded := Table.total_insertAll (Holds.releaseCart c b.holds) reservations (liveQuantity p)
  rw [sum_bookings hbookings, Books.cartLines, lineQuantity_eq] at hadded
  change (Holds.releaseCart c _).total _ + _ = _
  omega

/-- The ACTIVE reservations of a new order are its bookings. -/
theorem filter_placeOrder (b : Books) (order : Order) (payment : Option Payment)
    (hfresh : ∀ i r, b.holds.rows i = some r → r.order ≠ some b.orders.next)
    (hbookings : Bookings b.orders.next (b.cartLines c) reservations) :
    ((b.placeOrder c order reservations payment).holds.filter fun r =>
        r.order = some b.orders.next ∧ r.status = .active).map Prod.snd = reservations := by
  change ((Holds.releaseCart c ((Holds.releaseCart c b.holds).insertAll reservations)).filter
    _).map _ = _
  have hfree {i : ReservationId} {r : StockReservation}
      (hrow : (Holds.releaseCart c b.holds).rows i = some r) : r.order ≠ some b.orders.next := by
    rw [Holds.releaseCart, Table.rows_updateWhere, Option.map_eq_some_iff] at hrow
    obtain ⟨r, hrow, rfl⟩ := hrow
    split <;> exact hfresh i r hrow
  -- the second release of the cart does not see the bookings
  have hagain := Table.filter_updateWhere ((Holds.releaseCart c b.holds).insertAll reservations)
    (fun r => r.order = some b.orders.next ∧ r.status = .active)
    (fun r => r.cart = some c ∧ r.status = .active) ({ · with status := .released }) ?_
  swap
  · intro i r hrow hcart
    obtain ⟨hcart, -⟩ := of_decide_eq_true hcart
    refine ⟨decide_eq_false fun h => ?_, decide_eq_false fun h => nomatch h.2⟩
    rcases Table.rows_insertAll hrow with hold | hnew
    · exact hfree hold h.1
    · exact nomatch hcart.symm.trans (hbookings.each r hnew).2.1
  have hnone : (Holds.releaseCart c b.holds).filter
      (fun r => r.order = some b.orders.next ∧ r.status = .active) = [] :=
    List.eq_nil_iff_forall_not_mem.2 fun e he =>
      hfree (Table.mem_filter.1 he).1 (of_decide_eq_true (Table.mem_filter.1 he).2).1
  have hall : reservations.filter (fun r => r.order = some b.orders.next ∧ r.status = .active) =
      reservations := List.filter_eq_self.2 fun r hr => by
    obtain ⟨horder, -, hactive⟩ := hbookings.each r hr
    exact decide_eq_true ⟨horder, hactive⟩
  exact (congrArg (List.map Prod.snd) hagain).trans
    ((Table.filter_insertAll ..).trans (by rw [hnone, hall]; rfl))

/-- A new order is a snapshot of its cart. -/
theorem snapshot_of_place (payment : Option Payment) (hshop : ConsistentInventory shop)
    (hledger : Ledger shop'.stock) (hplace : shop.books.CanPlace c order reservations)
    (hbooks : { shop'.books with carts := shop.books.carts } =
      shop.books.placeOrder c order reservations payment) :
    Snapshot c shop.orders.next shop shop' := by
  have hlines : (shop'.orderItems shop.orders.next).map OrderItem.line = shop.books.cartLines c :=
    (congrFun (congrArg Books.lines hbooks) _).trans (if_pos rfl)
  have hholds : shop'.stock.reservations =
      (shop.books.placeOrder c order reservations payment).holds := congrArg Books.holds hbooks
  have hfresh : ∀ i r, shop.books.holds.rows i = some r → r.order ≠ some shop.books.orders.next :=
    fun i r hrow horder => hshop.orders i r _ hrow horder (shop.orders.fresh _ le_rfl)
  refine ⟨hlines, ⟨order, ?_, ?_, ?_⟩, ?_, ?_, fun i r hrow hcart => ?_, fun p htracks => ⟨?_, ?_⟩⟩
  · exact (congrFun (congrArg (·.orders.rows) hbooks) _).trans (Table.rows_insert_self ..)
  · rw [hplace.subtotal, ← hlines, List.map_map]
    rfl
  · exact hplace.subtotal.trans (subtotal_eq shop c)
  · have hfilter := congrArg (List.map fun r : StockReservation => (r.product, r.quantity))
      (filter_placeOrder shop.books order payment hfresh hplace.bookings)
    rw [List.map_map] at hfilter
    rw [hholds]
    refine hfilter.trans (hplace.bookings.lines.trans ?_)
    rw [← hlines, List.map_map]
    rfl
  · exact (congrFun (congrArg Books.cartItems hbooks) c).trans (if_pos rfl)
  · rw [hholds] at hrow
    exact not_active_releaseCart hrow hcart
  · exact (congrFun (congrArg Books.tracks hbooks) p).trans htracks
  · have htracks' : shop'.stock.tracks p := (congrFun (congrArg Books.tracks hbooks) p).trans htracks
    have htotal := total_placeOrder shop.books order payment p
      hplace.bookings
    rw [hshop.ledger.quantity p htracks, hledger.quantity p htracks', hholds, cartReserved_eq_total]
    change _ + shop.stock.reservations.total _ = shop.stock.reservations.total _ +
      lineQuantity (shop.cartItems c) p at htotal
    omega

end PlaceOrder

/-! ## Checkouts -/

/-- Every write keeps the ledger. -/
theorem Shop.Write.ledger {q : Prop} {s s' : Shop} (h : Shop.Write q s s') (hs : Ledger s.stock) :
    Ledger s'.stock := by
  cases h with
  | stock stock obs hsections => exact (hsections.ledger hs).1
  | touch stock htouch => exact hs.touch htouch
  | _ => exact hs

theorem Moves.ledger {q : Prop} {w w' : World Shop (List Observation)} (h : Moves q w w')
    (hw : Ledger w.db.stock) : Ledger w'.db.stock := by
  have hwrites := h.writes
  generalize w'.db = s' at hwrites ⊢
  induction hwrites with
  | refl => exact hw
  | tail _ hwrite ih => exact hwrite.ledger ih

/-- A transaction that keeps the ledger and makes a change of the books when it returns. -/
theorem succeedsOrNothing {α : Type} {x : ShopTx α} {shop : Shop} {P : α → Books → Prop}
    {Q : α → Shop → Prop} (hledger : Ledger shop.stock) (hrolls : x.RollsBack)
    (hmoves : x.Steps (Moves True)) (hyields : x.Yields Shop.books shop.books P)
    (h : ∀ a shop', Ledger shop'.stock → P a shop'.books → Q a shop') :
    SucceedsOrNothing shop x Q := fun trace =>
  Tx.wp_mono (Tx.wp_and (Tx.wp_and (hyields ⟨shop, trace⟩ rfl) (hmoves ⟨shop, trace⟩))
    (hrolls ⟨shop, trace⟩)) (fun a w' hw => h a w'.db (hw.1.2.ledger hledger) hw.1.1)
    fun _ _ hw => hw.2

/-- Both checkouts, from every consistent inventory: a new order is a snapshot of its cart, and a
    checkout that fails has done nothing. -/
theorem checkouts_snapshot (env : Env) (c : CartId) (customer : CustomerDetails)
    (user : Option UserId) (growth : Cart → Money → GrowthCheckoutContext)
    (paymentMethod : PaymentMethod) (shop : Shop) (hshop : ConsistentInventory shop) :
    SucceedsOrNothing shop
        (DeliveryServiceCheckout.processCheckout env c customer user growth) (fun result shop' =>
          shop.orders.rows result.order = none → Snapshot c result.order shop shop') ∧
      SucceedsOrNothing shop
        (CounterCheckoutService.processCheckout env c customer paymentMethod user)
        fun result shop' => Snapshot c result.order shop shop' := by
  constructor
  · refine succeedsOrNothing hshop.ledger (Tx.rollsBack_atomic _)
      (DeliveryServiceCheckout.processCheckout_moves env c customer user growth)
      DeliveryServiceCheckout.processCheckout_yields ?_
    rintro result shop' hledger
      (⟨-, -, order, hrow, -⟩ | ⟨hresult, order, reservations, payment, hguard, hbooks⟩) hnew
    · exact nomatch hnew.symm.trans hrow
    · rw [hresult]
      refine snapshot_of_place payment hshop hledger hguard.1 ?_
      rw [hbooks]
      rfl
  · refine succeedsOrNothing hshop.ledger (Tx.rollsBack_atomic _)
      (CounterCheckoutService.processCheckout_moves env c customer paymentMethod user)
      CounterCheckoutService.processCheckout_yields ?_
    rintro result shop' hledger ⟨hresult, order, reservations, payment, hguard, hbooks⟩
    rw [hresult]
    refine snapshot_of_place payment hshop hledger hguard.1 ?_
    rw [hbooks]
    rfl

theorem cornerShop_consistentInventory : ConsistentInventory cornerShop.shop where
  ledger := by
    refine ⟨fun p _ => ?_, fun p d => rfl⟩
    by_cases hp : p = 0 <;> simp [cornerShop, Stock.inventory, hp]
  orders := nofun

theorem checkouts_snapshot_cornerShop :
    SucceedsOrNothing cornerShop.shop
        (DeliveryServiceCheckout.processCheckout cornerEnv 0 { email := "", phone := "1" } none
          fun _ _ => {}) (fun result shop' =>
        cornerShop.shop.orders.rows result.order = none →
          Snapshot 0 result.order cornerShop.shop shop') ∧
      SucceedsOrNothing cornerShop.shop
        (CounterCheckoutService.processCheckout cornerEnv 0 { email := "", phone := "1" } .cash
          none) fun result shop' => Snapshot 0 result.order cornerShop.shop shop' :=
  checkouts_snapshot _ _ _ _ _ _ _ cornerShop_consistentInventory

end Crumbs
