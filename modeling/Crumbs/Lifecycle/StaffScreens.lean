import Crumbs.Lifecycle.Boards
import Crumbs.Orders.Admin

/-!
# The Buttons of the Staff Screens

The kitchen queue and the pickup screen have buttons that move an order on. A button is a request: the
view looks the order up among those of its screen, calls one service and tells the user what came of
it. On what the staff see this is a board of cards in three columns.

## Contents

- `kitchenAction`, `pickupAction`: the views behind the buttons
- `Board`, `Board.press`: the cards, and what a button does to them
- `Press.Answers`: the user is told the truth
- `screens_of_presses`: over every run of requests the screens are such a board
-/

namespace Crumbs

open Crumbs.Db AdminTx

/-! ## The views -/

/-- `Order.Status.choices` -/
def OrderStatus.label : OrderStatus → String
  | pendingPayment => "Pending Payment"
  | awaitingPayment => "Awaiting Payment"
  | paid => "Paid"
  | confirmedByShop => "Confirmed by Shop"
  | preparing => "Preparing"
  | packaged => "Packaged"
  | outForDelivery => "Out for Delivery"
  | delivered => "Delivered"
  | cancelled => "Cancelled"
  | refunded => "Refunded"

/-- What a view answers with. -/
inductive ScreenAnswer where
  | notFound
  | redirected
  deriving DecidableEq, Repr

/-- The `ValueError` of an action that the kitchen does not know. -/
def unknownKitchenAction (action : String) : Exn :=
  .builtinError s!"Unknown kitchen action: {action}"

/-- The service call of `_apply_kitchen_action`. -/
def kitchenService (e : Selected) (action actor : String) : ShopTx Order :=
  if action = "start_preparing" then startPreparing e.1 e.2 actor
  else if action = "mark_ready" then markReady e.1 actor
  else if action = "mark_completed" then completePickupOrder e.1 e.2.status actor
  else Tx.raise (unknownKitchenAction action)

/-- `isinstance(exc, (InvalidTransitionError, CheckoutError))` -/
def Exn.isScreenError : Exn → Bool
  | invalidTransitionError _ | checkoutError _ => true
  | _ => false

/-- What follows the lookup: the call, whose exceptions are shown if they are caught, and a message
    that goes by whether the order has another status now. -/
def reportPress (e : Selected) (x : ShopTx Order) (caught : Exn → Bool) (changed : Order → String)
    (already : Order → String) : AdminTx Unit := do
  let result ← Tx.catching
    (do
      let order ← call x
      return some order)
    fun exn => do
      -- what is not caught ends the request
      Tx.when (caught exn = false) (Tx.raise exn)
      messageUser .error s!"{e.2.orderNumber}: {exn.text}"
      return none
  -- the order that the service has returned, against the one that was looked up
  Tx.ifSome result fun order =>
    if order.status ≠ e.2.status then
      messageUser .success s!"{order.orderNumber}: {changed order}"
    else
      messageUser .info s!"{order.orderNumber}: {already order}"

/-- `kitchen_action` -/
def kitchenAction (o : OrderId) (action actor : String) : AdminTx ScreenAnswer := do
  let shop ← Tx.getDb
  -- `get_object_or_404`: an order that has left the queue in the meantime is not found
  match (kitchenOrderQueryset shop).find? fun e => decide (e.1 = o) with
  | none => return .notFound
  | some e =>
    reportPress e (kitchenService e action actor)
      (fun exn => exn.isScreenError || exn = unknownKitchenAction action)
      (fun order => s!"updated to {order.status.label}.")
      (fun order => s!"already {order.status.label}.")
    return .redirected

/-- `pickup_action` -/
def pickupAction (o : OrderId) (action actor : String) : AdminTx ScreenAnswer := do
  let shop ← Tx.getDb
  match (pickupScreenQueryset shop).find? fun e => decide (e.1 = o) with
  | none => return .notFound
  | some e =>
    if action ≠ "mark_picked_up" then
      messageUser .error s!"{e.2.orderNumber}: Unknown pickup action."
      return .redirected
    reportPress e (completePickupOrder e.1 e.2.status actor) Exn.isScreenError
      (fun _ => "marked as picked up.") (fun _ => "already picked up.")
    return .redirected

/-! ## The board -/

/-- The columns of the kitchen queue. The pickup screen shows the last one. -/
inductive KitchenColumn where
  | waiting
  | preparing
  | ready
  deriving DecidableEq, Repr

/-- What `kitchen_queue` renders in a column. -/
def KitchenColumns.column (columns : KitchenColumns) : KitchenColumn → List Selected
  | .waiting => columns.waiting
  | .preparing => columns.preparing
  | .ready => columns.ready

/-- The column of the orders of a status. -/
def OrderStatus.column : OrderStatus → Option KitchenColumn
  | paid | confirmedByShop => some .waiting
  | preparing => some .preparing
  | packaged => some .ready
  | _ => none

/-- Where the card of an order is, if it has one. -/
def Order.card (order : Order) : Option KitchenColumn :=
  if isOnKitchenScreen order then order.status.column else none

abbrev Board := OrderId → Option KitchenColumn

def Shop.board (shop : Shop) : Board := fun o => (shop.orders.rows o).bind Order.card

/-- A button that a member of the staff presses. -/
inductive Press where
  | kitchen (o : OrderId) (action actor : String)
  | pickup (o : OrderId) (action actor : String)

namespace Press

def order : Press → OrderId
  | kitchen o .. => o
  | pickup o .. => o

/-- The screen has a card of this column. -/
def Shows : Press → KitchenColumn → Prop
  | kitchen .., _ => True
  | pickup .., column => column = .ready

instance : (press : Press) → (column : KitchenColumn) → Decidable (press.Shows column)
  | kitchen .., _ => inferInstanceAs (Decidable True)
  | pickup .., column => inferInstanceAs (Decidable (column = .ready))

/-- Where the button puts a card of this column. -/
def target : Press → KitchenColumn → Option KitchenColumn
  | kitchen _ action _, .waiting =>
    if action = "start_preparing" then some .preparing else some .waiting
  | kitchen _ action _, .preparing => if action = "mark_ready" then some .ready else some .preparing
  | kitchen _ action _, .ready => if action = "mark_completed" then none else some .ready
  | pickup _ action _, .ready => if action = "mark_picked_up" then none else some .ready
  -- the pickup screen does not have these cards
  | pickup .., column => some column

/-- The request. -/
def handle : Press → AdminTx ScreenAnswer
  | kitchen o action actor => kitchenAction o action actor
  | pickup o action actor => pickupAction o action actor

def act (shop : Shop) (press : Press) : Shop := (press.handle ⟨shop, {}⟩).2.db

end Press

/-- One card moves, or none. -/
def Board.press (board : Board) (press : Press) : Board :=
  Function.update board press.order ((board press.order).bind press.target)

/-- Only what is on the screen can be pressed; a press that moves no card changes nothing; and the
    user is told of a success if and only if a card has moved and, if it has left the board, the order
    could be delivered. -/
structure Press.Answers (press : Press) (shop : Shop) : Prop where
  missing : (∀ column, shop.board press.order = some column → ¬press.Shows column) →
    press.handle ⟨shop, {}⟩ = (.ok .notFound, ⟨shop, {}⟩)
  unmoved : shop.board.press press = shop.board → press.act shop = shop
  told : (∃ m ∈ (press.handle ⟨shop, {}⟩).2.ext.messages, m.level = .success) ↔
    shop.board.press press ≠ shop.board ∧ ∀ order, shop.orders.rows press.order = some order →
      shop.board.press press press.order = none → order.Deliverable shop.stock press.order

/-! ## Cards -/

section Cards

variable {shop shop' : Shop} {o : OrderId} {order : Order} {s : OrderStatus} {c : KitchenColumn}

/-- A card needs a payment status of the screen, and its column is that of the status. -/
theorem card_eq (order : Order) : order.card =
    if order.paymentStatus ∈ counterPaymentStatuses then order.status.column else none := by
  rw [Order.card]
  by_cases hpayment : order.paymentStatus ∈ counterPaymentStatuses
  · -- a payment status that the kitchen wants is not one that it excludes
    have hkept : order.paymentStatus ∉ [.pendingPayment, .failed, .codPending] := by
      revert hpayment
      cases order.paymentStatus <;> decide
    have hscreen : isOnKitchenScreen order ↔ order.status ∈ kitchenQueueStatuses :=
      ⟨And.left, fun h => ⟨h, hpayment, hkept⟩⟩
    rw [if_pos hpayment]
    cases hstatus : order.status <;>
      simp [hscreen, hstatus, kitchenQueueStatuses, OrderStatus.column]
  · rw [if_neg hpayment, if_neg fun h => hpayment h.2.1]

theorem card_eq_some (h : order.card = some c) :
    order.paymentStatus ∈ counterPaymentStatuses ∧ order.status.column = some c := by
  rw [card_eq] at h
  exact Option.ite_none_right_eq_some.1 h

theorem kitchen_relevant_iff_card : orderIsKitchenRelevant order = true ↔ order.card.isSome := by
  rw [kitchen_relevant_iff, card_eq]
  by_cases hpayment : order.paymentStatus ∈ counterPaymentStatuses
  · cases hstatus : order.status <;>
      simp [hpayment, kitchenQueueStatuses, OrderStatus.column]
  · simp [hpayment]

theorem pickup_relevant_iff_card :
    orderIsPickupRelevant order = true ↔ order.card = some .ready := by
  rw [orderIsPickupRelevant, decide_eq_true_iff, card_eq]
  by_cases hpayment : order.paymentStatus ∈ counterPaymentStatuses
  · cases hstatus : order.status <;> simp [hpayment, OrderStatus.column]
  · simp [hpayment]

theorem board_of_row (hrow : shop.orders.rows o = some order) : shop.board o = order.card := by
  rw [Shop.board, hrow, Option.bind_some]

/-- A column of the queue lists the orders whose cards it has. -/
theorem listed_filter_iff {p : Order → Prop} [DecidablePred p] :
    Listed o ((kitchenOrderQueryset shop).filter fun e => decide (p e.2)) ↔
      ∃ order, shop.orders.rows o = some order ∧ order.card.isSome ∧ p order := by
  constructor
  · intro h
    obtain ⟨e, he, rfl⟩ := List.mem_map.1 h
    obtain ⟨hmem, hp⟩ := List.mem_filter.1 he
    obtain ⟨hrow, hrelevant⟩ := mem_kitchenOrderQueryset.1 hmem
    exact ⟨e.2, hrow, kitchen_relevant_iff_card.1 hrelevant, of_decide_eq_true hp⟩
  · rintro ⟨order, hrow, hcard, hp⟩
    have hmem : (o, order) ∈ kitchenOrderQueryset shop :=
      mem_kitchenOrderQueryset.2 ⟨hrow, kitchen_relevant_iff_card.2 hcard⟩
    exact List.mem_map.2 ⟨(o, order), List.mem_filter.2 ⟨hmem, decide_eq_true hp⟩, rfl⟩

/-- The board is what the kitchen queue shows. -/
theorem listed_column_iff :
    Listed o ((partitionKitchenOrders (kitchenOrderQueryset shop)).column c) ↔
      shop.board o = some c := by
  have hcolumn (p : Order → Prop) [DecidablePred p]
      (hp : ∀ order : Order, order.card.isSome ∧ p order ↔ order.card = some c) :
      Listed o ((kitchenOrderQueryset shop).filter fun e => decide (p e.2)) ↔
        shop.board o = some c := by
    rw [listed_filter_iff, Shop.board, Option.bind_eq_some_iff]
    exact exists_congr fun order => and_congr_right fun _ => hp order
  rw [partitionKitchenOrders_eq]
  cases c with
  | waiting =>
    refine hcolumn (fun order => order.status ∈ [.paid, .confirmedByShop]) fun order => ?_
    rw [card_eq]
    cases hstatus : order.status <;> simp [OrderStatus.column]
  | preparing =>
    refine hcolumn (fun order => order.status = .preparing) fun order => ?_
    rw [card_eq]
    cases hstatus : order.status <;> simp [OrderStatus.column]
  | ready =>
    refine hcolumn (fun order => order.status = .packaged) fun order => ?_
    rw [card_eq]
    cases hstatus : order.status <;> simp [OrderStatus.column]

theorem listed_pickup_iff : Listed o (pickupScreenQueryset shop) ↔ shop.board o = some .ready := by
  rw [Shop.board, Option.bind_eq_some_iff]
  constructor
  · intro h
    obtain ⟨e, he, rfl⟩ := List.mem_map.1 h
    obtain ⟨hrow, hrelevant⟩ := mem_pickupScreenQueryset.1 he
    exact ⟨e.2, hrow, pickup_relevant_iff_card.1 hrelevant⟩
  · rintro ⟨order, hrow, hcard⟩
    have hmem : (o, order) ∈ pickupScreenQueryset shop :=
      mem_pickupScreenQueryset.2 ⟨hrow, pickup_relevant_iff_card.2 hcard⟩
    exact List.mem_map.2 ⟨(o, order), hmem, rfl⟩

/-- One order has another status, and the others are as they were. -/
theorem board_of_restatus (hpayment : order.paymentStatus ∈ counterPaymentStatuses)
    (hrow : shop'.orders.rows o = some { order with status := s })
    (hothers : ∀ o', o' ≠ o → shop'.orders.rows o' = shop.orders.rows o') :
    shop'.board = Function.update shop.board o s.column := by
  funext o'
  by_cases ho : o' = o
  · subst o'
    rw [Function.update_self, board_of_row hrow, card_eq]
    exact if_pos hpayment
  · rw [Function.update_of_ne ho, Shop.board, hothers o' ho]
    rfl

/-- The views look an order up among those that are on their screen. -/
theorem find?_screen {l : List (OrderId × Order)} {p : Order → Bool}
    (hmem : ∀ e, e ∈ l ↔ shop.orders.rows e.1 = some e.2 ∧ p e.2 = true) (o : OrderId) :
    l.find? (fun e => decide (e.1 = o)) = ((shop.orders.rows o).filter p).map fun r => (o, r) := by
  cases hfind : l.find? fun e => decide (e.1 = o) with
  | none =>
    cases hfilter : (shop.orders.rows o).filter p with
    | none => rfl
    | some order =>
      obtain ⟨hrow, hp⟩ := Option.filter_eq_some_iff.1 hfilter
      exact absurd rfl (of_decide_eq_false (Bool.eq_false_iff.2
        (List.find?_eq_none.1 hfind (o, order) ((hmem _).2 ⟨hrow, hp⟩))))
  | some e =>
    obtain ⟨o', order⟩ := e
    obtain rfl : o' = o := of_decide_eq_true (List.find?_some hfind :)
    obtain ⟨hrow, hp⟩ := (hmem _).1 (List.mem_of_find?_eq_some hfind)
    rw [hrow, Option.filter_some_pos hp, Option.map_some]

end Cards

/-! ## The services -/

/-- The service puts the card of an order, as it was looked up, where `t` says, and returns another
    status if and only if it has moved the card and, if it has taken it off, the order could be
    delivered. -/
structure MovesCard (x : ShopTx Order) (shop : Shop) (o : OrderId) (order : Order)
    (t : Option KitchenColumn) : Prop where
  board : (x ⟨shop, []⟩).2.db.board = Function.update shop.board o t
  unmoved : t = order.card → (x ⟨shop, []⟩).2.db = shop
  changed : (∃ order', (x ⟨shop, []⟩).1 = .ok order' ∧ order'.status ≠ order.status) ↔
    t ≠ order.card ∧ (t = none → order.Deliverable shop.stock o)

section Services

variable {x : ShopTx Order} {shop : Shop} {o : OrderId} {order order' : Order} {s : OrderStatus}
  {v : World Shop (List Observation)} {actor : String}

theorem MovesCard.congr {y : ShopTx Order} {t : Option KitchenColumn}
    (h : x ⟨shop, []⟩ = y ⟨shop, []⟩) (hy : MovesCard y shop o order t) :
    MovesCard x shop o order t where
  board := h ▸ hy.board
  unmoved := h ▸ hy.unmoved
  changed := h ▸ hy.changed

/-- The service returns what was there, or raises, and nothing is written. -/
theorem MovesCard.of_still (hrow : shop.orders.rows o = some order)
    (hdb : (x ⟨shop, []⟩).2.db = shop)
    (hstill : ∀ order', (x ⟨shop, []⟩).1 = .ok order' → order'.status = order.status) :
    MovesCard x shop o order order.card where
  board := by rw [hdb, ← board_of_row hrow, Function.update_eq_self]
  unmoved _ := hdb
  changed := iff_of_false (fun ⟨order', hok, hne⟩ => hne (hstill order' hok)) fun h => h.1 rfl

theorem MovesCard.of_same (hrow : shop.orders.rows o = some order)
    (hrun : x ⟨shop, []⟩ = (.ok order, ⟨shop, []⟩)) : MovesCard x shop o order order.card := by
  refine .of_still hrow (by rw [hrun]) fun order' hok => ?_
  rw [hrun] at hok
  rw [← Except.ok.inj hok]

theorem MovesCard.of_raised {exn : Exn} (hrow : shop.orders.rows o = some order)
    (hrun : x ⟨shop, []⟩ = (.error exn, v)) (hdb : v.db = shop) :
    MovesCard x shop o order order.card := by
  refine .of_still hrow (by rw [hrun, hdb]) fun order' hok => ?_
  rw [hrun] at hok
  cases hok

/-- The order has another column. -/
theorem MovesCard.of_moved (hcard : order.paymentStatus ∈ counterPaymentStatuses)
    (hrun : x ⟨shop, []⟩ = (.ok { order with status := s }, v)) (hs : s ≠ order.status)
    {t : KitchenColumn} (hcolumn : s.column = some t) (ht : some t ≠ order.card)
    (hrow : v.db.orders.rows o = some { order with status := s })
    (hothers : ∀ o', o' ≠ o → v.db.orders.rows o' = shop.orders.rows o') :
    MovesCard x shop o order (some t) where
  board := by rw [hrun, ← hcolumn, board_of_restatus hcard hrow hothers]
  unmoved h := absurd h ht
  changed := iff_of_true ⟨{ order with status := s }, by rw [hrun], hs⟩ ⟨ht, nofun⟩

/-- One change of status, along an edge. -/
theorem MovesCard.of_transition (hrow : shop.orders.rows o = some order)
    (hcard : order.paymentStatus ∈ counterPaymentStatuses) (note actor : String)
    (hedge : s ∈ order.status.allowedTransitions) {t : KitchenColumn}
    (hcolumn : s.column = some t) (ht : some t ≠ order.card) :
    MovesCard (OrderService.transition o s note actor) shop o order (some t) := by
  -- no edge leads back to where it starts
  have hne : order.status ≠ s := fun heq =>
    OrderAdmin.not_mem_allowedTransitions s (by rwa [heq] at hedge)
  refine .of_moved hcard (transition_changes s note actor hrow hne hedge) hne.symm hcolumn ht ?_ ?_
  · rw [orders_restatus, Table.rows_modify_self, hrow]
    rfl
  · intro o' ho'
    rw [orders_restatus, Table.rows_modify_ne _ _ ho']

/-- No edge leads to the status: the transition raises. -/
theorem MovesCard.of_forbidden (hrow : shop.orders.rows o = some order) (note actor : String)
    (h : ¬canTransition order.status s) :
    MovesCard (OrderService.transition o s note actor) shop o order order.card := by
  obtain ⟨exn, hrun⟩ := transition_forbidden (w := ⟨shop, []⟩) s note actor hrow h
  exact .of_raised hrow hrun rfl

/-- The kitchen starts with a waiting order. One that is only paid is confirmed first. -/
theorem startPreparing_moves_card (hrow : shop.orders.rows o = some order)
    (hcard : order.card = some .waiting) (actor : String) :
    MovesCard (startPreparing o order actor) shop o order (some .preparing) := by
  obtain ⟨hpayment, hcolumn⟩ := card_eq_some hcard
  have hmoved : some KitchenColumn.preparing ≠ order.card := by
    rw [hcard]
    decide
  have hwaiting : order.status = .paid ∨ order.status = .confirmedByShop := by
    revert hcolumn
    cases order.status <;> simp [OrderStatus.column]
  rcases hwaiting with hpaid | hconfirmed
  · -- two transactions, and the order is read again in between
    let w₁ : World Shop (List Observation) :=
      ⟨shop.restatus o .paid .confirmedByShop "Kitchen queue: confirmed for preparation" actor, []⟩
    have hrow₁ : w₁.db.orders.rows o = some { order with status := .confirmedByShop } := by
      rw [orders_restatus, Table.rows_modify_self, hrow]
      rfl
    have hfirst : OrderService.transition o .confirmedByShop
        "Kitchen queue: confirmed for preparation" actor ⟨shop, []⟩ =
          (.ok { order with status := .confirmedByShop }, w₁) := by
      rw [transition_changes _ _ actor hrow (by rw [hpaid]; decide) (by rw [hpaid]; decide), hpaid]
    let w₂ : World Shop (List Observation) := ⟨w₁.db.restatus o .confirmedByShop .preparing
      "Kitchen queue: started preparing" actor, []⟩
    have hsecond : OrderService.transition o .preparing
        "Kitchen queue: started preparing" actor w₁ =
          (.ok { order with status := .preparing }, w₂) :=
      transition_changes _ _ actor hrow₁ (by simp) (by simp [OrderStatus.allowedTransitions])
    have hrun : startPreparing o order actor ⟨shop, []⟩ =
        (.ok { order with status := .preparing }, w₂) := by
      refine (Tx.ite_of_not (by rw [hpaid]; decide)).trans ((Tx.ite_of hpaid).trans ?_)
      refine (Tx.bind_of_ok hfirst).trans ((Tx.bind_of_ok (lockOrder_of_some hrow₁)).trans ?_)
      exact (Tx.ite_of rfl).trans hsecond
    refine .of_moved hpayment hrun (by rw [hpaid]; decide) rfl hmoved ?_ fun o' ho' => ?_
    · rw [orders_restatus, Table.rows_modify_self, hrow₁]
      rfl
    · rw [orders_restatus, Table.rows_modify_ne _ _ ho', orders_restatus,
        Table.rows_modify_ne _ _ ho']
  · have hrun : startPreparing o order actor ⟨shop, []⟩ = OrderService.transition o .preparing
        "Kitchen queue: started preparing" actor ⟨shop, []⟩ := by
      refine (Tx.ite_of_not (by rw [hconfirmed]; decide)).trans
        ((Tx.ite_of_not (by rw [hconfirmed]; decide)).trans (Tx.ite_of hconfirmed))
    exact .congr hrun (.of_transition hrow hpayment _ actor (by rw [hconfirmed]; decide) rfl hmoved)

/-- It does not start with any other. -/
theorem startPreparing_still (hrow : shop.orders.rows o = some order)
    (hcard : order.card ≠ some .waiting) (hsome : order.card.isSome) (actor : String) :
    MovesCard (startPreparing o order actor) shop o order order.card := by
  obtain ⟨c, hc⟩ := Option.isSome_iff_exists.1 hsome
  obtain ⟨-, hcolumn⟩ := card_eq_some hc
  have hstatus : order.status = .preparing ∨ order.status = .packaged := by
    have hne : c ≠ .waiting := fun heq => hcard (heq ▸ hc)
    revert hcolumn
    cases order.status <;> simp [OrderStatus.column, hne.symm]
  rcases hstatus with hpreparing | hpackaged
  · -- pressed twice
    exact .of_same hrow (Tx.ite_of hpreparing)
  · refine .of_raised hrow (v := ⟨shop, []⟩) ((Tx.ite_of_not (by rw [hpackaged]; decide)).trans
      ((Tx.ite_of_not (by rw [hpackaged]; decide)).trans
        (Tx.ite_of_not (by rw [hpackaged]; decide)))) rfl

/-- The kitchen packs what it has prepared. -/
theorem markReady_moves_card (hrow : shop.orders.rows o = some order)
    (hcard : order.card = some .preparing) (actor : String) :
    MovesCard (markReady o actor) shop o order (some .ready) := by
  obtain ⟨hpayment, hcolumn⟩ := card_eq_some hcard
  have hpreparing : order.status = .preparing := by
    revert hcolumn
    cases order.status <;> simp [OrderStatus.column]
  refine .of_transition hrow hpayment _ actor (by rw [hpreparing]; decide) rfl ?_
  rw [hcard]
  decide

theorem markReady_still (hrow : shop.orders.rows o = some order)
    (hcard : order.card ≠ some .preparing) (hsome : order.card.isSome) (actor : String) :
    MovesCard (markReady o actor) shop o order order.card := by
  obtain ⟨c, hc⟩ := Option.isSome_iff_exists.1 hsome
  obtain ⟨-, hcolumn⟩ := card_eq_some hc
  have hne : c ≠ .preparing := fun heq => hcard (heq ▸ hc)
  by_cases hpackaged : order.status = .packaged
  · -- pressed twice
    exact .of_same hrow (transition_same _ _ actor hrow hpackaged)
  · refine .of_forbidden hrow _ actor ?_
    revert hcolumn hpackaged
    cases order.status <;>
      simp [OrderStatus.column, canTransition, OrderStatus.allowedTransitions, hne.symm]

/-- A delivery that returns has written the status only, and come from where an edge leads to it. -/
theorem completeDelivery_orders {w : World Shop (List Observation)}
    (hrow : w.db.orders.rows o = some order) (actor : String) :
    (OrderService.completeDelivery o actor).wp
      (fun order' w' => order'.status = .delivered ∧ canTransition order.status .delivered ∧
        w'.db.orders.rows o = some { order with status := .delivered } ∧
        ∀ o', o' ≠ o → w'.db.orders.rows o' = w.db.orders.rows o')
      (fun _ w' => w'.db = w.db) w := by
  refine Tx.Ensures.atomic_or (Tx.wp_bind.2 ((Tx.wp_iff_of_ok (lockOrder_of_some hrow)).2 ?_))
  refine Tx.Ensures.bind (settleDelivery_ensures o order w) fun _ w₁ horders => ?_
  have hrow₁ : w₁.db.orders.rows o = some order := by rw [horders, hrow]
  by_cases hsame : order.status = .delivered
  · refine (Tx.wp_iff_of_ok (transition_same .delivered "" actor hrow₁ hsame)).2
      ⟨hsame, .inl hsame, ?_, fun o' _ => by rw [horders]⟩
    rw [hrow₁, ← hsame]
  by_cases hedge : .delivered ∈ order.status.allowedTransitions
  · refine (Tx.wp_iff_of_ok (transition_changes .delivered "" actor hrow₁ hsame hedge)).2
      ⟨rfl, .inr hedge, ?_, fun o' ho' => ?_⟩
    · rw [orders_restatus, Table.rows_modify_self, hrow₁]
      rfl
    · rw [orders_restatus, Table.rows_modify_ne _ _ ho', horders]
  · obtain ⟨exn, hraise⟩ :=
      transition_forbidden .delivered "" actor hrow₁ (not_or.2 ⟨hsame, hedge⟩)
    exact (Tx.wp_iff_of_error hraise).2 trivial

/-- An order that is not packaged is not handed out. -/
theorem completePickupOrder_still (hrow : shop.orders.rows o = some order)
    (hcard : order.card ≠ some .ready) (hsome : order.card.isSome) (actor : String) :
    MovesCard (completePickupOrder o order.status actor) shop o order order.card := by
  obtain ⟨c, hc⟩ := Option.isSome_iff_exists.1 hsome
  obtain ⟨-, hcolumn⟩ := card_eq_some hc
  have hne : c ≠ .ready := fun heq => hcard (heq ▸ hc)
  have hstatus : order.status ≠ .packaged ∧ ¬canTransition order.status .delivered := by
    revert hcolumn
    cases order.status <;>
      simp [OrderStatus.column, canTransition, OrderStatus.allowedTransitions, hne.symm]
  have hlast : completePickupOrder o order.status actor ⟨shop, []⟩ =
      OrderService.completeDelivery o actor ⟨shop, []⟩ :=
    Tx.bind_of_ok (Tx.when_of_not hstatus.1)
  -- the delivery raises, be it for the stock or for the state machine, and rolls back
  have hdelivery := completeDelivery_orders (w := ⟨shop, []⟩) hrow actor
  rcases hrun : OrderService.completeDelivery o actor ⟨shop, []⟩ with ⟨exn | order', v⟩
  · exact .of_raised hrow (hlast.trans hrun) (Tx.wp_of_error hdelivery hrun)
  · exact absurd (Tx.wp_of_ok hdelivery hrun).2.1 hstatus.2

/-- A packaged order leaves the board in any case: it is delivered if it can be, and else it stays on
    its way. -/
theorem completePickupOrder_moves_card (hrow : shop.orders.rows o = some order)
    (hcard : order.card = some .ready) (actor : String) :
    MovesCard (completePickupOrder o order.status actor) shop o order none := by
  obtain ⟨hpayment, hcolumn⟩ := card_eq_some hcard
  have hpackaged : order.status = .packaged := by
    revert hcolumn
    cases order.status <;> simp [OrderStatus.column]
  have hmoved : none ≠ order.card := by
    rw [hcard]
    exact nofun
  -- the first of two transactions; it stays, whatever becomes of the second
  let w₁ : World Shop (List Observation) :=
    ⟨shop.restatus o .packaged .outForDelivery "Pickup screen: ready for customer pickup" actor, []⟩
  have hrow₁ : w₁.db.orders.rows o = some { order with status := .outForDelivery } := by
    rw [orders_restatus, Table.rows_modify_self, hrow]
    rfl
  have hothers₁ : ∀ o', o' ≠ o → w₁.db.orders.rows o' = shop.orders.rows o' := by
    intro o' ho'
    rw [orders_restatus, Table.rows_modify_ne _ _ ho']
  have hfirst : OrderService.transition o .outForDelivery "Pickup screen: ready for customer pickup"
      actor ⟨shop, []⟩ = (.ok { order with status := .outForDelivery }, w₁) := by
    rw [transition_changes _ _ actor hrow (by rw [hpackaged]; decide) (by rw [hpackaged]; decide),
      hpackaged]
  have hlast : completePickupOrder o order.status actor ⟨shop, []⟩ =
      OrderService.completeDelivery o actor w₁ :=
    Tx.bind_of_ok ((Tx.when_of hpackaged).trans (Tx.bind_of_ok hfirst))
  by_cases hdeliverable : order.Deliverable shop.stock o
  · have hreturns :
        (OrderService.completeDelivery o actor).wp (fun _ _ => True) (fun _ _ => False) w₁ :=
      completeDelivery_returns hrow₁ rfl hdeliverable
    have hdelivery := completeDelivery_orders hrow₁ actor
    rcases hrun : OrderService.completeDelivery o actor w₁ with ⟨exn | order', v⟩
    · exact (Tx.wp_of_error hreturns hrun).elim
    · obtain ⟨hdelivered, -, hrow', hothers'⟩ := Tx.wp_of_ok hdelivery hrun
      rw [hrun] at hlast
      refine ⟨?_, fun h => absurd h hmoved, iff_of_true ⟨order', by rw [hlast], ?_⟩
        ⟨hmoved, fun _ => hdeliverable⟩⟩
      · rw [hlast]
        exact board_of_restatus (s := .delivered) hpayment hrow' fun o' ho' =>
          (hothers' o' ho').trans (hothers₁ o' ho')
      · rw [hdelivered, hpackaged]
        decide
  · have hraises := completeDelivery_raises actor hrow₁ hdeliverable
    rcases hrun : OrderService.completeDelivery o actor w₁ with ⟨exn | order', v⟩
    · have hdb : v.db = w₁.db := Tx.wp_of_error hraises hrun
      rw [hrun] at hlast
      refine ⟨?_, fun h => absurd h hmoved, iff_of_false ?_ fun h => hdeliverable (h.2 rfl)⟩
      · rw [hlast, hdb]
        exact board_of_restatus (s := .outForDelivery) hpayment hrow₁ hothers₁
      · rintro ⟨order', hok, -⟩
        rw [hlast] at hok
        cases hok
    · exact (Tx.wp_of_ok hraises hrun).elim

end Services

/-! ## One press -/

section Presses

variable {shop : Shop} {press : Press} {order : Order} {c : KitchenColumn} {x : ShopTx Order}

/-- The report writes nothing, and speaks of a success if the service has returned another status. -/
theorem reportPress_spec (e : Selected) (x : ShopTx Order) (caught : Exn → Bool)
    (changed already : Order → String) (shop : Shop) :
    (reportPress e x caught changed already ⟨shop, {}⟩).2.db = (x ⟨shop, []⟩).2.db ∧
    ((∃ m ∈ (reportPress e x caught changed already ⟨shop, {}⟩).2.ext.messages,
        m.level = .success) ↔
      ∃ order', (x ⟨shop, []⟩).1 = .ok order' ∧ order'.status ≠ e.2.status) := by
  rcases hrun : x ⟨shop, []⟩ with ⟨exn | moved, v⟩
  · -- a message of an error, or none
    have htry : (do
        let order ← call x
        return some order : AdminTx (Option Order)) ⟨shop, {}⟩ = (.error exn, ⟨v.db, {}⟩) :=
      Tx.bind_of_error (call_of_run hrun)
    cases hcaught : caught exn with
    | true =>
      have hhandled : (do
          Tx.when (caught exn = false) (Tx.raise exn)
          messageUser .error s!"{e.2.orderNumber}: {exn.text}"
          return none : AdminTx (Option Order)) ⟨v.db, {}⟩ = (.ok none, ⟨v.db,
            { messages := [⟨.error, s!"{e.2.orderNumber}: {exn.text}"⟩] }⟩) :=
        (Tx.bind_of_ok (Tx.when_of_not (by simp [hcaught]))).trans rfl
      have hreport : reportPress e x caught changed already ⟨shop, {}⟩ = (.ok (), ⟨v.db,
          { messages := [⟨.error, s!"{e.2.orderNumber}: {exn.text}"⟩] }⟩) :=
        (Tx.bind_of_ok ((Tx.catching_of_error htry).trans hhandled)).trans rfl
      simp [hreport]
    | false =>
      have hreport : reportPress e x caught changed already ⟨shop, {}⟩ =
          (.error exn, ⟨v.db, {}⟩) := by
        refine Tx.bind_of_error ((Tx.catching_of_error htry).trans ?_)
        exact Tx.bind_of_error ((Tx.when_of hcaught).trans rfl)
      simp [hreport]
  · have htry : (do
        let order ← call x
        return some order : AdminTx (Option Order)) ⟨shop, {}⟩ = (.ok (some moved), ⟨v.db, {}⟩) :=
      Tx.bind_of_ok (call_of_run hrun)
    have hreport : reportPress e x caught changed already ⟨shop, {}⟩ =
        (if moved.status ≠ e.2.status then
          messageUser .success s!"{moved.orderNumber}: {changed moved}"
        else messageUser .info s!"{moved.orderNumber}: {already moved}") ⟨v.db, {}⟩ :=
      Tx.bind_of_ok (Tx.catching_of_ok htry)
    by_cases hne : moved.status ≠ e.2.status
    · rw [hreport, Tx.ite_of hne]
      simp [messageUser, Tx.modifyExt, hne]
    · rw [hreport, Tx.ite_of_not hne]
      simp [messageUser, Tx.modifyExt, not_not.1 hne]

/-- A press whose service moves the card to its target. -/
theorem Press.answers_of_moves (hrow : shop.orders.rows press.order = some order)
    (hcard : order.card = some c) (hshows : press.Shows c)
    (hdb : press.act shop = (x ⟨shop, []⟩).2.db)
    (htold : (∃ m ∈ (press.handle ⟨shop, {}⟩).2.ext.messages, m.level = .success) ↔
      ∃ order', (x ⟨shop, []⟩).1 = .ok order' ∧ order'.status ≠ order.status)
    (h : MovesCard x shop press.order order (press.target c)) :
    (press.act shop).board = shop.board.press press ∧ press.Answers shop := by
  have hboard : shop.board press.order = some c := (board_of_row hrow).trans hcard
  have hpress : shop.board.press press =
      Function.update shop.board press.order (press.target c) := by
    rw [Board.press, hboard, Option.bind_some]
  have htarget : shop.board.press press press.order = press.target c := by
    rw [hpress, Function.update_self]
  have hstays : shop.board.press press = shop.board ↔ press.target c = order.card := by
    rw [hpress, Function.update_eq_self_iff, hboard, hcard]
  refine ⟨by rw [hdb, h.board, hpress], fun hmissing => absurd hshows (hmissing c hboard),
    fun hsame => hdb.trans (h.unmoved (hstays.1 hsame)), ?_⟩
  rw [htold, h.changed, htarget]
  refine and_congr (not_congr hstays.symm) ⟨fun hgone order' hrow' => ?_, fun hgone => hgone _ hrow⟩
  rw [← Option.some.inj (hrow.symm.trans hrow')]
  exact hgone

theorem getDb_bind {β : Type} (f : Shop → AdminTx β) :
    (Tx.getDb >>= f) ⟨shop, {}⟩ = f shop ⟨shop, {}⟩ := rfl

/-- What the view ends with does not count. -/
theorem snd_bind_return {α β : Type} (y : AdminTx α) (b : β) (w : World Shop ActionReport) :
    ((do
      let _ ← y
      return b : AdminTx β) w).2 = (y w).2 := by
  rcases hrun : y w with ⟨exn | a, w'⟩
  · rw [Tx.bind_of_error hrun]
  · rw [Tx.bind_of_ok hrun]
    rfl

theorem kitchenAction_of_none {o : OrderId} (action actor : String)
    (h : (kitchenOrderQueryset shop).find? (fun e => decide (e.1 = o)) = none) :
    kitchenAction o action actor ⟨shop, {}⟩ = (.ok .notFound, ⟨shop, {}⟩) := by
  unfold kitchenAction
  rw [getDb_bind, h]
  rfl

theorem kitchenAction_of_some {o : OrderId} {e : Selected} (action actor : String)
    (h : (kitchenOrderQueryset shop).find? (fun e => decide (e.1 = o)) = some e) :
    (kitchenAction o action actor ⟨shop, {}⟩).2 =
      (reportPress e (kitchenService e action actor)
        (fun exn => exn.isScreenError || exn = unknownKitchenAction action)
        (fun order => s!"updated to {order.status.label}.")
        (fun order => s!"already {order.status.label}.") ⟨shop, {}⟩).2 := by
  unfold kitchenAction
  rw [getDb_bind, h]
  exact snd_bind_return _ _ _

theorem pickupAction_of_none {o : OrderId} (action actor : String)
    (h : (pickupScreenQueryset shop).find? (fun e => decide (e.1 = o)) = none) :
    pickupAction o action actor ⟨shop, {}⟩ = (.ok .notFound, ⟨shop, {}⟩) := by
  unfold pickupAction
  rw [getDb_bind, h]
  rfl

theorem pickupAction_of_some {o : OrderId} {e : Selected} (actor : String)
    (h : (pickupScreenQueryset shop).find? (fun e => decide (e.1 = o)) = some e) :
    (pickupAction o "mark_picked_up" actor ⟨shop, {}⟩).2 =
      (reportPress e (completePickupOrder e.1 e.2.status actor) Exn.isScreenError
        (fun _ => "marked as picked up.") (fun _ => "already picked up.") ⟨shop, {}⟩).2 := by
  unfold pickupAction
  rw [getDb_bind, h]
  exact snd_bind_return _ _ _

theorem pickupAction_of_unknown {o : OrderId} {e : Selected} {action : String} (actor : String)
    (h : (pickupScreenQueryset shop).find? (fun e => decide (e.1 = o)) = some e)
    (hunknown : action ≠ "mark_picked_up") :
    (pickupAction o action actor ⟨shop, {}⟩).2 = ⟨shop,
      { messages := [⟨.error, s!"{e.2.orderNumber}: Unknown pickup action."⟩] }⟩ := by
  unfold pickupAction
  rw [getDb_bind, h]
  simp only [if_pos hunknown]
  rfl

/-- The service behind a button of the kitchen. -/
theorem kitchenService_moves {o : OrderId} (hrow : shop.orders.rows o = some order)
    (hcard : order.card = some c) (action actor : String) :
    MovesCard (kitchenService (o, order) action actor) shop o order
      ((Press.kitchen o action actor).target c) := by
  have hsome : order.card.isSome := by rw [hcard, Option.isSome_some]
  by_cases hstart : action = "start_preparing"
  · subst hstart
    refine .congr (Tx.ite_of rfl) ?_
    by_cases hwaiting : c = .waiting
    · subst hwaiting
      exact startPreparing_moves_card hrow hcard actor
    · have htarget : (Press.kitchen o "start_preparing" actor).target c = order.card := by
        rw [hcard]
        cases c <;> simp_all [Press.target]
      rw [htarget]
      exact startPreparing_still hrow (by simpa [hcard] using hwaiting) hsome actor
  by_cases hmark : action = "mark_ready"
  · subst hmark
    refine .congr ((Tx.ite_of_not hstart).trans (Tx.ite_of rfl)) ?_
    by_cases hpreparing : c = .preparing
    · subst hpreparing
      exact markReady_moves_card hrow hcard actor
    · have htarget : (Press.kitchen o "mark_ready" actor).target c = order.card := by
        rw [hcard]
        cases c <;> simp_all [Press.target]
      rw [htarget]
      exact markReady_still hrow (by simpa [hcard] using hpreparing) hsome actor
  by_cases hcompleted : action = "mark_completed"
  · subst hcompleted
    refine .congr ((Tx.ite_of_not hstart).trans ((Tx.ite_of_not hmark).trans (Tx.ite_of rfl))) ?_
    by_cases hready : c = .ready
    · subst hready
      exact completePickupOrder_moves_card hrow hcard actor
    · have htarget : (Press.kitchen o "mark_completed" actor).target c = order.card := by
        rw [hcard]
        cases c <;> simp_all [Press.target]
      rw [htarget]
      exact completePickupOrder_still hrow (by simpa [hcard] using hready) hsome actor
  · -- an action that the kitchen does not know
    have htarget : (Press.kitchen o action actor).target c = order.card := by
      rw [hcard]
      cases c <;> simp [Press.target, hstart, hmark, hcompleted]
    rw [htarget]
    exact .of_raised hrow (v := ⟨shop, []⟩) ((Tx.ite_of_not hstart).trans
      ((Tx.ite_of_not hmark).trans (Tx.ite_of_not hcompleted))) rfl

/-- What is not on the screen is not found. -/
theorem Press.answers_of_missing
    (hview : press.handle ⟨shop, {}⟩ = (.ok .notFound, ⟨shop, {}⟩))
    (hstays : (shop.board press.order).bind press.target = shop.board press.order) :
    (press.act shop).board = shop.board.press press ∧ press.Answers shop := by
  have hpress : shop.board.press press = shop.board := Function.update_eq_self_iff.2 hstays
  have hact : press.act shop = shop := by rw [Press.act, hview]
  refine ⟨by rw [hact, hpress], fun _ => hview, fun _ => hact, iff_of_false ?_ fun h => h.1 hpress⟩
  rw [hview]
  rintro ⟨m, hm, -⟩
  exact absurd hm List.not_mem_nil

/-- The board after a press is the pressed board, and the press is answered. -/
theorem Press.spec (press : Press) (shop : Shop) :
    (press.act shop).board = shop.board.press press ∧ press.Answers shop := by
  have hlookup : shop.board press.order = (shop.orders.rows press.order).bind Order.card := rfl
  cases press with
  | kitchen o action actor =>
    -- the view finds the order if and only if it has a card
    have hfind := @find?_screen shop _ orderIsKitchenRelevant
      (fun _ => mem_kitchenOrderQueryset) o
    cases hboard : shop.board o with
    | none =>
      have hnone : (shop.orders.rows o).filter orderIsKitchenRelevant = none := by
        refine Option.filter_eq_none_iff.2 fun order hrow hrelevant => ?_
        rw [board_of_row hrow] at hboard
        exact absurd (kitchen_relevant_iff_card.1 hrelevant) (by simp [hboard])
      rw [hnone, Option.map_none] at hfind
      refine answers_of_missing (kitchenAction_of_none action actor hfind) ?_
      rw [show (Press.kitchen o action actor).order = o from rfl, hboard, Option.bind_none]
    | some c =>
      obtain ⟨order, hrow, hcard⟩ := Option.bind_eq_some_iff.1 hboard
      have hrelevant : orderIsKitchenRelevant order = true :=
        kitchen_relevant_iff_card.2 (by rw [hcard, Option.isSome_some])
      rw [hrow, Option.filter_some_pos hrelevant, Option.map_some] at hfind
      have hview := kitchenAction_of_some action actor hfind
      obtain ⟨hdb, htold⟩ := reportPress_spec (o, order) (kitchenService (o, order) action actor)
        (fun exn => exn.isScreenError || exn = unknownKitchenAction action)
        (fun order => s!"updated to {order.status.label}.")
        (fun order => s!"already {order.status.label}.") shop
      rw [← hview] at hdb htold
      exact answers_of_moves hrow hcard trivial hdb htold
        (kitchenService_moves hrow hcard action actor)
  | pickup o action actor =>
    have hfind := @find?_screen shop _ orderIsPickupRelevant
      (fun _ => mem_pickupScreenQueryset) o
    by_cases hready : shop.board o = some .ready
    · obtain ⟨order, hrow, hcard⟩ := Option.bind_eq_some_iff.1 hready
      rw [hrow, Option.filter_some_pos (pickup_relevant_iff_card.2 hcard), Option.map_some] at hfind
      by_cases hpicked : action = "mark_picked_up"
      · subst hpicked
        have hview := pickupAction_of_some actor hfind
        obtain ⟨hdb, htold⟩ := reportPress_spec (o, order)
          (completePickupOrder o order.status actor) Exn.isScreenError
          (fun _ => "marked as picked up.") (fun _ => "already picked up.") shop
        rw [← hview] at hdb htold
        exact answers_of_moves hrow hcard rfl hdb htold
          (completePickupOrder_moves_card hrow hcard actor)
      · -- the view calls no service here; one that returns the order does the same
        have hview := pickupAction_of_unknown actor hfind hpicked
        refine answers_of_moves (x := pure order) hrow hcard rfl ?_ ?_ ?_
        · exact congrArg World.db hview
        · have hhandle : (Press.pickup o action actor).handle = pickupAction o action actor := rfl
          rw [hhandle, hview]
          simp [pure]
        · have htarget : (Press.pickup o action actor).target .ready = order.card := by
            simp [Press.target, hpicked, hcard]
          rw [htarget]
          exact .of_same hrow rfl
    · have hnone : (shop.orders.rows o).filter orderIsPickupRelevant = none := by
        refine Option.filter_eq_none_iff.2 fun order hrow hrelevant => ?_
        rw [board_of_row hrow] at hready
        exact hready (pickup_relevant_iff_card.1 hrelevant)
      rw [hnone, Option.map_none] at hfind
      refine answers_of_missing (pickupAction_of_none action actor hfind) ?_
      rw [show (Press.pickup o action actor).order = o from rfl]
      rcases hboard : shop.board o with _ | (_ | _ | _)
      · rfl
      · rfl
      · rfl
      · exact absurd hboard hready

end Presses

/-! ## Runs -/

/-- A run of presses is a run of the board. -/
theorem board_foldl (shop : Shop) (run : List Press) :
    (run.foldl Press.act shop).board = run.foldl Board.press shop.board := by
  induction run generalizing shop with
  | nil => rfl
  | cons press rest ih =>
    rw [List.foldl_cons, List.foldl_cons, ih, (press.spec shop).1]

/-- Whatever the state of the shop, the requests of the staff move the cards of their screens as the
    buttons say: after any run of them each column of the kitchen queue lists the orders whose cards
    the board has there, and the pickup screen those of its last column. No press moves another order
    than its own, and every press on the way is answered with what has become of it. -/
theorem screens_of_presses (shop : Shop) (run : List Press) :
    (∀ o column,
      Listed o ((partitionKitchenOrders (kitchenOrderQueryset (run.foldl Press.act shop))).column
        column) ↔ run.foldl Board.press shop.board o = some column) ∧
    (∀ o, Listed o (pickupScreenQueryset (run.foldl Press.act shop)) ↔
      run.foldl Board.press shop.board o = some .ready) ∧
    ∀ earlier press later, run = earlier ++ press :: later →
      press.Answers (earlier.foldl Press.act shop) := by
  refine ⟨fun o column => ?_, fun o => ?_, fun earlier press later _ => (press.spec _).2⟩
  · rw [listed_column_iff, board_foldl]
  · rw [listed_pickup_iff, board_foldl]

end Crumbs
