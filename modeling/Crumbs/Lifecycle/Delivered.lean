import Crumbs.Lifecycle.Handover
import Crumbs.Lifecycle.OrderHolds

/-!
# Delivery Takes the Stock Once

An order leaves the shop in one of the steps that hand it over, and its units leave the stock in
that step: neither before nor again later. This is so as long as the order has kept its reservations
until then, confirmed. An order that slips through unpaid takes nothing.

## Contents

- `Step.takes`, `takenFor`: what leaves the stock for an order
- `ConsumesOnce`: a delivered order has taken its units, once and for all
- `TakesOnce`: it takes them in the step that delivers it, and in no other
- `HandsAll`: the reservations of an order are all handed over with it
- `ShopCall.HandsOver`: the five calls that hand orders over, and what they take
- `Accounted`, `accounted_step`: the account of an order, step by step
- `consumesOnce_of_handsAll`, `takesOnce_of_handsAll`
-/

namespace Crumbs

open Crumbs.Db

/-! ## The property, and when it holds -/

/-- The step is a call for the order, or reservations of `p` for the order end in it. -/
def Step.IsFor (o : OrderId) (p : ProductId) (db : Database) (step : Step) : Prop :=
  step.operation.order = some o ∨
    (step.exec db).db.shop.books.endedFor o p ≠ db.shop.books.endedFor o p

instance (o : OrderId) (p : ProductId) (db : Database) (step : Step) :
    Decidable (step.IsFor o p db) := inferInstanceAs (Decidable (_ ∨ _))

/-- The units of `p` that leave the stock in a step for the order. -/
def Step.takes (o : OrderId) (p : ProductId) (db : Database) (step : Step) : ℕ :=
  if step.IsFor o p db then
    (db.shop.stock.inventory p).stockQuantity -
      ((step.exec db).db.shop.stock.inventory p).stockQuantity
  else 0

/-- Those that leave it in a run. -/
def takenFor (o : OrderId) (p : ProductId) (db : Database) : List Step → ℕ
  | [] => 0
  | step :: rest => step.takes o p db + takenFor o p (step.exec db).db rest

/-- The order is there, and delivered. -/
def Books.IsDelivered (b : Books) (o : OrderId) : Prop :=
  b.OrderIs o fun order => order.status = .delivered

/-- Wherever the order is delivered, what is on its lines has left the stock with its reservations,
    and no later step takes any. -/
def ConsumesOnce (o : OrderId) (p : ProductId) (db : Database) (run : List Step) : Prop :=
  ∀ before later, run = before ++ later → (after db before).shop.books.IsDelivered o →
    takenFor o p db before = (after db before).shop.books.ordered o p ∧
      (after db before).shop.books.endedFor o p = (after db before).shop.books.ordered o p ∧
        Always (fun db step => step.takes o p db = 0) (after db before) later

/-- The step that delivers the order takes what is on its lines, and no other step takes any. -/
def TakesOnce (o : OrderId) (p : ProductId) (db : Database) (run : List Step) : Prop :=
  ∀ before step later, run = before ++ step :: later →
    ¬(after db before).shop.books.IsDelivered o →
    (step.exec (after db before)).db.shop.books.IsDelivered o →
      step.takes o p (after db before) =
          (step.exec (after db before)).db.shop.books.ordered o p ∧
        Always (fun db step => step.takes o p db = 0) db before ∧
        Always (fun db step => step.takes o p db = 0) (step.exec (after db before)).db later

/-- The order that a change delivers, and the reservations that it takes out: those that wait in one
    of the statuses. -/
def Change.delivers : Change → Option (OrderId × List ReservationStatus)
  | deliver o => some (o, [.confirmed])
  | receiveCash o => some (o, [.active, .confirmed])
  -- the cash was noted earlier, or the status is written by hand: nothing is taken out
  | deliverCod o | transition o .delivered => some (o, [])
  | _ => none

/-- The order is booked when it is placed and not again; and if it is delivered by the change, the
    change takes out all its reservations of `p`. -/
def HandsAll (o : OrderId) (p : ProductId) (b : Books) (ch : Change) : Prop :=
  (∀ reservations, ch ≠ .reserve o reservations) ∧
    ∀ statuses, ch.delivers = some (o, statuses) → ¬b.IsDelivered o → b.AllFor o p statuses

/-! ## Changes -/

section Changes

variable {b : Books} {ch : Change} {o : OrderId} {p : ProductId} {statuses : List ReservationStatus}

/-- A change takes out reservations that are live. -/
theorem Change.delivers_live (h : ch.delivers = some (o, statuses)) :
    statuses ⊆ [.active, .confirmed] := by
  cases ch with
  | deliver | receiveCash | deliverCod =>
    cases h
    simp
  | transition o' status =>
    cases status <;> cases h
    simp
  | _ => exact nomatch h

/-- An order becomes DELIVERED only by a change that delivers it. -/
theorem delivers_of_isDelivered (hguard : ch.Guard b) (hbefore : ¬b.IsDelivered o)
    (hafter : (ch.apply b).IsDelivered o) : ∃ statuses, ch.delivers = some (o, statuses) := by
  obtain ⟨order', hrow', hdelivered⟩ := hafter
  have hnot {order : Order} (hrow : b.orders.rows o = some order) : order.status ≠ .delivered :=
    fun h => hbefore ⟨order, hrow, h⟩
  rcases Change.order_of_apply hrow' with hrow | ⟨f, order, hupdates, hrow, rfl⟩ | ⟨hplaces, -⟩
  · exact (hnot hrow hdelivered).elim
  · have hne := hnot hrow
    cases ch with
    | deliver | deliverCod | receiveCash =>
      cases hupdates
      exact ⟨_, rfl⟩
    | transition o' status =>
      cases hupdates
      obtain rfl : status = .delivered := hdelivered
      exact ⟨_, rfl⟩
    | amend =>
      cases hupdates
      exact (hne ((hguard order).status ▸ hdelivered)).elim
    | requestRefund | confirmCod | noteCash | openOnline | cancelPayment =>
      cases hupdates
      exact (hne hdelivered).elim
    | cancel | failOrder | fail | refund | payOnline | capture | payAtCounter =>
      cases hupdates
      exact nomatch hdelivered
    | _ => exact nomatch hupdates
  · cases ch with
    | checkout =>
      cases hplaces
      exact nomatch hguard.2.2.1.symm.trans hdelivered
    | counterCheckout =>
      cases hplaces
      exact nomatch hguard.2.1.symm.trans hdelivered
    | _ => exact nomatch hplaces

/-- Confirming leaves no reservation of the order ACTIVE. -/
theorem allFor_confirm (h : b.AllFor o p [.active, .confirmed]) :
    (b.updateHolds (Holds.confirm o)).AllFor o p [.confirmed] := by
  intro i r' hrow horder hproduct
  change (Holds.confirm o b.holds).rows i = some r' at hrow
  rw [Holds.confirm, Table.rows_updateWhere] at hrow
  obtain ⟨r, hr, rfl⟩ := Option.map_eq_some_iff.1 hrow
  by_cases hactive : decide (r.order = some o ∧ r.status = .active) = true
  · rw [if_pos hactive]
    exact List.mem_singleton_self _
  · rw [if_neg hactive] at horder hproduct ⊢
    have hstatus := h i r hr horder hproduct
    simp only [List.mem_cons, List.not_mem_nil, or_false] at hstatus ⊢
    -- an ACTIVE one would have been confirmed
    exact hstatus.resolve_left fun hstatus => hactive (decide_eq_true ⟨horder, hstatus⟩)

/-- An order without live reservations holds nothing. -/
theorem Books.AllFor.heldFor_eq_zero (h : b.AllFor o p statuses)
    (hended : .active ∉ statuses ∧ .confirmed ∉ statuses) : b.heldFor o p = 0 := by
  refine Table.total_eq_zero fun i r hrow => ?_
  unfold StockReservation.liveFor StockReservation.liveQuantity
  by_cases horder : r.order = some o
  · rw [if_pos horder]
    refine if_neg fun hlive => ?_
    have hstatus := h i r hrow horder hlive.2
    rcases hlive.1 with hactive | hconfirmed
    · exact hended.1 (hactive ▸ hstatus)
    · exact hended.2 (hconfirmed ▸ hstatus)
  · exact if_neg horder

/-- Handing over leaves nothing of an order whose reservations are all CONFIRMED. -/
theorem heldFor_fulfill (h : b.AllFor o p [.confirmed]) :
    (b.updateHolds (Holds.fulfill o)).heldFor o p = 0 := by
  suffices hreleased : (b.updateHolds (Holds.fulfill o)).AllFor o p [.released] from
    hreleased.heldFor_eq_zero (by simp)
  intro i r' hrow horder hproduct
  change (Holds.fulfill o b.holds).rows i = some r' at hrow
  rw [Holds.fulfill, Table.rows_updateWhere] at hrow
  obtain ⟨r, hr, rfl⟩ := Option.map_eq_some_iff.1 hrow
  by_cases hfulfilled : decide (r.order = some o ∧ r.status = .confirmed) = true
  · rw [if_pos hfulfilled]
    exact List.mem_singleton_self _
  · rw [if_neg hfulfilled] at horder hproduct
    have hconfirmed := List.mem_singleton.1 (h i r hr horder hproduct)
    exact (hfulfilled (decide_eq_true ⟨horder, hconfirmed⟩)).elim

/-- What the change takes out is held no more. -/
theorem heldFor_delivers (h : ch.delivers = some (o, statuses)) (hall : b.AllFor o p statuses) :
    (ch.apply b).heldFor o p = 0 := by
  cases ch with
  | deliver o' =>
    cases h
    exact heldFor_fulfill hall
  | receiveCash o' =>
    cases h
    exact heldFor_fulfill (allFor_confirm hall)
  | deliverCod o' =>
    cases h
    exact Books.AllFor.heldFor_eq_zero (b := b) hall (by simp)
  | transition o' status =>
    cases status <;> cases h
    exact Books.AllFor.heldFor_eq_zero (b := b) hall (by simp)
  | _ => exact nomatch h

/-- What is reserved for the order is what it has on its lines, once it is there. -/
def Books.BookedOnce (b : Books) (o : OrderId) (p : ProductId) : Prop :=
  b.unitsFor o p = if b.orders.rows o = none then 0 else b.ordered o p

theorem sum_unitsFor {lines : List OrderLine} {reservations : List StockReservation}
    (h : Bookings o lines reservations) (p : ProductId) :
    (reservations.map (StockReservation.unitsFor o p)).sum =
      (reservations.map (StockReservation.bookedFor o p)).sum := by
  refine congrArg List.sum (List.map_congr_left fun r hr => ?_)
  unfold StockReservation.unitsFor StockReservation.bookedFor
  simp [h.each r hr]

/-- The order is booked as it is placed, and its reservations and its lines stay as they are. -/
theorem bookedOnce_apply (hguard : ch.Guard b) (hcart : ∀ c items holds, ch ≠ .shelve c items holds)
    (hreserve : ∀ reservations, ch ≠ .reserve o reservations) (h : b.BookedOnce o p) :
    (ch.apply b).BookedOnce o p := by
  unfold Books.BookedOnce at h ⊢
  rw [unitsFor_apply hcart]
  by_cases hthere : b.orders.rows o = none
  · rw [h, if_pos hthere, Nat.zero_add]
    cases hrow' : (ch.apply b).orders.rows o with
    | none =>
      rw [if_pos rfl]
      refine sum_unitsFor_books hguard hreserve (fun hplaces ho => ?_) p
      obtain ⟨order, hplaces⟩ := Option.ne_none_iff_exists'.1 hplaces
      rw [ho, Change.orders_apply, hplaces] at hrow'
      exact nomatch (Table.rows_insert_self b.orders order).symm.trans hrow'
    | some order' =>
      rw [if_neg (Option.some_ne_none _)]
      -- the order is new: it is placed by the change
      rcases Change.order_of_apply hrow' with hrow | ⟨-, order, -, hrow, -⟩ | ⟨hplaces, rfl⟩
      · exact nomatch hthere.symm.trans hrow
      · exact nomatch hthere.symm.trans hrow
      · have hbooked := bookedFor_place hguard hplaces p
        rw [bookedFor_apply hguard] at hbooked
        rw [← Nat.add_left_cancel hbooked]
        cases ch with
        | checkout => exact sum_unitsFor hguard.1.bookings p
        | counterCheckout => exact sum_unitsFor hguard.1.bookings p
        | _ => exact nomatch hplaces
  · obtain ⟨order, hrow⟩ := Option.ne_none_iff_exists'.1 hthere
    obtain ⟨order', hrow'⟩ := Change.exists_order_apply ch hrow
    rw [h, if_neg hthere, if_neg (by rw [hrow']; exact Option.some_ne_none _),
      ordered_apply (Table.lt_next hrow)]
    refine Nat.add_eq_left.2 (sum_unitsFor_books hguard hreserve (fun _ ho => hthere ?_) p)
    exact b.orders.fresh o ho.ge

end Changes

/-! ## The calls that hand orders over -/

/-- The calls that take reservations of the order out of the stock. -/
def ShopCall.HandsOver (o : OrderId) : ShopCall → Prop
  | completeDelivery o' _ | recordCashReceived o' _ | completePickupOrder o' ..
  | markCodCashReceived o' .. | ensureCodCashFinalized o' .. => o' = o
  | _ => False

/-- The stock of `p` falls by what the order does not hold of it any more. -/
def HandsOverIn (o : OrderId) (p : ProductId) (w w' : World Shop (List Observation)) : Prop :=
  w.db.stock.HandsOver o p w'.db.stock

instance {o : OrderId} {p : ProductId} :
    IsPreorder (World Shop (List Observation)) (HandsOverIn o p) where
  refl _ := .refl _
  trans _ _ _ := Stock.HandsOver.trans

instance {o : OrderId} {p : ProductId} : Tx.RestoresDb (HandsOverIn o p) where
  restore _ := .refl _

section Calls

variable {o : OrderId} {p : ProductId} {env : Env}

/-- Writes outside the inventory tables. -/
theorem handsOver_modifyDb {f : Shop → Shop} (hf : ∀ shop, (f shop).stock = shop.stock) :
    (Tx.modifyDb f : ShopTx Unit).Steps (HandsOverIn o p) := fun w => Tx.steps_modifyDb (by
  change w.db.stock.HandsOver o p (f w.db).stock
  rw [hf]
  exact .refl _)

theorem handsOver_onStock {x : StockTx Unit} (h : ∀ w, (Tx.atomic x).Ensures
    (fun _ w' => w.db.HandsOver o p w'.db) w) :
    (ShopTx.onStock (Tx.atomic x)).Steps (HandsOverIn o p) := fun w =>
  Tx.wp_zoom.2 (Tx.wp_mono (Tx.wp_and (h _) (Tx.rollsBack_atomic x _)) (fun _ _ h' => h'.1)
    fun _ w' h' => by
      change Stock.HandsOver o p _ w'.db
      rw [h'.2]
      exact .refl _)

theorem lockOrder_reads (o : OrderId) : (lockOrder o).Steps Eq :=
  Tx.steps_getDb.bind fun _ => getRow_steps "Order" _

theorem lockPayment_reads (q : PaymentId) : (lockPayment q).Steps Eq :=
  Tx.steps_getDb.bind fun _ => getRow_steps "Payment" _

namespace OrderService

theorem transition_handsOver {o' : OrderId} {newStatus : OrderStatus} {note actor : String} :
    (transition o' newStatus note actor).Steps (HandsOverIn o p) := by
  refine Tx.Steps.atomic (Tx.Steps.bind (steps_of_eq (lockOrder_reads o')) fun order => ?_)
  refine Tx.Steps.bind (fun w => .when fun _ => Tx.steps_raise _ w) fun _ w => ?_
  refine .ite (fun _ => Tx.steps_pure _ w) fun _ => ?_
  refine Tx.StepsAt.bind ?_ fun _ => Tx.Steps.bind ?_ fun _ => Tx.steps_pure _
  · exact handsOver_modifyDb (fun _ => rfl) w
  · exact handsOver_modifyDb fun _ => rfl

theorem setPaymentStatus_handsOver {o' : OrderId} {order : Order}
    {paymentStatus : OrderPaymentStatus} :
    (setPaymentStatus o' order paymentStatus).Steps (HandsOverIn o p) :=
  Tx.Steps.bind (handsOver_modifyDb fun _ => rfl) fun _ => Tx.steps_pure _

theorem completeDelivery_handsOver {actor : String} :
    (completeDelivery o actor).Steps (HandsOverIn o p) := by
  refine Tx.Steps.atomic (Tx.Steps.bind (steps_of_eq (lockOrder_reads o)) fun order => ?_)
  refine Tx.Steps.bind (fun w => ?_) fun _ => transition_handsOver
  refine .ite (fun _ => .when fun _ => Tx.steps_raise _ w) fun _ => ?_
  exact handsOver_onStock (fun w => fulfillReservations_handsOver (w := w) o p) w

theorem recordCashReceived_handsOver {actor : String} :
    (recordCashReceived o actor).Steps (HandsOverIn o p) := by
  refine Tx.Steps.atomic (Tx.Steps.bind (steps_of_eq (lockOrder_reads o)) fun order => ?_)
  -- first all of it is confirmed, so that all of it can be handed over
  refine Tx.Steps.bind (handsOver_onStock fun w =>
    confirmReservations_handsOver (w := w) o p) fun _ => ?_
  refine Tx.Steps.bind (handsOver_onStock fun w =>
    fulfillReservations_handsOver (w := w) o p) fun _ => ?_
  refine Tx.Steps.bind (fun w => ?_) fun order w =>
    .ite (fun _ => transition_handsOver w) fun _ => Tx.steps_pure _ w
  exact .ite (fun _ => setPaymentStatus_handsOver w) fun _ => Tx.steps_pure _ w

end OrderService

theorem completePickupOrder_handsOver {seen : OrderStatus} {actor : String} :
    (completePickupOrder o seen actor).Steps (HandsOverIn o p) :=
  Tx.Steps.bind (fun w => .when fun _ =>
    (OrderService.transition_handsOver w).bind fun _ => Tx.steps_pure _)
    fun _ => OrderService.completeDelivery_handsOver

namespace PaymentService

theorem ensureCodCashFinalized_handsOver {payment : Option PaymentId} {actor : String} :
    (ensureCodCashFinalized o payment actor).Steps (HandsOverIn o p) := by
  refine Tx.Steps.atomic (Tx.Steps.bind (steps_of_eq (lockOrder_reads o)) fun order w => ?_)
  refine .ite (fun _ => Tx.steps_pure _ w) fun _ => ?_
  have hfound : (codPayment o payment).Steps Eq := by
    cases payment with
    | some q => exact (lockPayment_reads q).bind fun _ => Tx.steps_pure _
    | none => exact Tx.steps_getDb.bind fun _ => Tx.steps_pure _
  refine (steps_of_eq hfound w).bind fun found => ?_
  cases found with
  | none => exact Tx.steps_pure _
  | some e =>
    exact Tx.Steps.bind (fun w => .when fun _ => handsOver_modifyDb (fun _ => rfl) w)
      fun _ => OrderService.recordCashReceived_handsOver

theorem markCodCashReceived_handsOver {q : PaymentId} {actor : String} :
    (markCodCashReceived o q actor).Steps (HandsOverIn o p) := by
  refine Tx.Steps.atomic (Tx.Steps.bind (steps_of_eq (lockOrder_reads o)) fun order => ?_)
  refine Tx.Steps.bind (steps_of_eq (lockPayment_reads q)) fun payment => ?_
  refine Tx.Steps.bind (fun w => .when fun _ => Tx.steps_raise _ w) fun _ => ?_
  refine Tx.Steps.bind (fun w => .when fun _ => Tx.steps_raise _ w) fun _ => ?_
  refine Tx.Steps.bind (fun w => .when fun _ => ?_) fun _ => ensureCodCashFinalized_handsOver
  exact (OrderService.setPaymentStatus_handsOver w).bind fun _ => Tx.steps_pure _

end PaymentService

/-- A call that hands an order over takes what the order does not hold any more. -/
theorem ShopCall.HandsOver.steps {call : ShopCall} (h : call.HandsOver o) :
    (call.run env).Steps (HandsOverIn o p) := by
  cases call with
  | completeDelivery =>
    subst h
    exact steps_void OrderService.completeDelivery_handsOver
  | recordCashReceived =>
    subst h
    exact steps_void OrderService.recordCashReceived_handsOver
  | completePickupOrder =>
    subst h
    exact steps_void completePickupOrder_handsOver
  | markCodCashReceived =>
    subst h
    exact steps_void PaymentService.markCodCashReceived_handsOver
  | ensureCodCashFinalized =>
    subst h
    exact steps_void PaymentService.ensureCodCashFinalized_handsOver
  | _ => exact h.elim

/-- It is a call for the order, and not for a cart. -/
theorem ShopCall.HandsOver.order {call : ShopCall} (h : call.HandsOver o) : call.order = some o := by
  cases call with
  | completeDelivery | recordCashReceived | completePickupOrder | markCodCashReceived
  | ensureCodCashFinalized => exact congrArg some h
  | _ => exact h.elim

theorem ShopCall.HandsOver.not_onCart {call : ShopCall} (h : call.HandsOver o) : ¬call.OnCart := by
  intro hcart
  cases call with
  | addItem | setItemQuantity | removeItem | clearCart => exact h
  | _ => exact hcart

/-- It books nothing. -/
theorem ShopCall.HandsOver.books {call : ShopCall} (h : call.HandsOver o) {shop : Shop} {b : Books}
    {ch : Change} (hasks : call.Asks env shop b ch) : ch.books = [] := by
  cases call with
  | completeDelivery => obtain ⟨-, rfl | rfl⟩ := hasks <;> rfl
  | recordCashReceived =>
    obtain ⟨-, rfl⟩ := hasks
    rfl
  | completePickupOrder => rcases hasks with ⟨-, -, rfl⟩ | ⟨-, rfl | rfl⟩ <;> rfl
  | markCodCashReceived | ensureCodCashFinalized =>
    cases ch with
    | settle | noteCash | receiveCash => rfl
    | _ => exact hasks.elim
  | _ => exact h.elim

/-- Whoever takes reservations out, it is one of these calls. -/
theorem Operation.Asks.handsOver {operation : Operation} {db : Database} {b : Books} {ch : Change}
    {statuses : List ReservationStatus} (h : operation.Asks env db b ch)
    (hdelivers : ch.delivers = some (o, statuses)) (hne : statuses ≠ []) :
    ∃ call, operation = .call call ∧ call.HandsOver o := by
  have hch : ch = .deliver o ∨ ch = .receiveCash o := by
    cases ch with
    | deliver =>
      cases hdelivers
      exact .inl rfl
    | receiveCash =>
      cases hdelivers
      exact .inr rfl
    | deliverCod =>
      cases hdelivers
      exact (hne rfl).elim
    | transition o' status =>
      cases status <;> cases hdelivers
      exact (hne rfl).elim
    | _ => exact nomatch hdelivers
  cases operation with
  | zarinpalCallback =>
    obtain ⟨-, q, payment, order, -, h⟩ := h
    rcases hch with rfl | rfl <;> exact h.elim
  | stripeWebhook =>
    obtain ⟨-, event, -, -, h⟩ := h
    rcases hch with rfl | rfl <;> exact h.elim
  | call call =>
    refine ⟨call, rfl, ?_⟩
    cases call with
    | completeDelivery =>
      rcases hch with rfl | rfl
      · rcases h with ⟨-, h | h⟩
        · exact (Change.deliver.inj h).symm
        · exact nomatch h
      · rcases h with ⟨-, h | h⟩ <;> exact nomatch h
    | recordCashReceived =>
      rcases hch with rfl | rfl
      · exact nomatch h.2
      · exact (Change.receiveCash.inj h.2).symm
    | completePickupOrder =>
      rcases hch with rfl | rfl
      · rcases h with ⟨-, -, h⟩ | ⟨-, h | h⟩
        · exact nomatch h
        · exact (Change.deliver.inj h).symm
        · exact nomatch h
      · rcases h with ⟨-, -, h⟩ | ⟨-, h | h⟩ <;> exact nomatch h
    | markCodCashReceived | ensureCodCashFinalized =>
      rcases hch with rfl | rfl
      · exact h.elim
      · exact h.1.symm
    | initiatePayment =>
      obtain ⟨-, h⟩ := h
      split at h
      · obtain ⟨payment, -, -, h⟩ := h
        rcases hch with rfl | rfl <;> exact nomatch h
      · obtain ⟨-, payment, -, h⟩ := h
        rcases hch with rfl | rfl <;> exact nomatch h
    | _ =>
      rcases hch with rfl | rfl <;>
        simp [Operation.Asks, ShopCall.Asks, PaymentService.CounterAsks, CleanupAsks] at h

end Calls

/-! ## Steps -/

section Steps

variable {db : Database} {step : Step} {o : OrderId} {p : ProductId} {b : Books} {ch : Change}
  {statuses : List ReservationStatus}

/-- A delivery books nothing. -/
theorem books_of_delivers (h : ch.delivers = some (o, statuses)) : ch.books = [] := by
  cases ch with
  | deliver | receiveCash | deliverCod | transition => rfl
  | _ => exact nomatch h

/-- An operation works on a cart and leaves the orders alone, or it changes no cart lines. -/
theorem Step.OnlyReached.carts (h : step.OnlyReached (HandsAll o p) db) :
    ((step.exec db).db.shop.books.orders = db.shop.books.orders ∧
        (step.exec db).db.shop.books.lines = db.shop.books.lines ∧
          Holds.Ages o p db.shop.books.holds (step.exec db).db.shop.books.holds) ∨
      Follows (fun b ch => step.operation.Asks step.env db b ch ∧ HandsAll o p b ch ∧
        ∀ c items holds, ch ≠ .shelve c items holds) db.shop.books (step.exec db).db.shop.books := by
  rcases Operation.asks_cart step.env db step.operation with ⟨call, hoperation, hcart⟩ | hcart
  · refine .inl ?_
    have hsame := (step.follows db).inv (I := fun b => b.orders = db.shop.books.orders ∧
      b.lines = db.shop.books.lines) ⟨rfl, rfl⟩ fun b ch hb _ hasks => by
        rw [hoperation] at hasks
        obtain ⟨c, items, holds, rfl⟩ := hcart.asks hasks
        exact hb
    refine ⟨hsame.1, hsame.2, ?_⟩
    have hsteps : (call.run step.env).Steps (AgesIn o p) := hcart.ages
    have hages := onShop_steps (w := ⟨db, []⟩) (hsteps _)
    rw [Step.exec, hoperation]
    exact hages.run
  · refine .inr (h.follows.mono fun b ch hch => ⟨hch.1, hch.2, hcart b ch hch.1⟩)

/-- What has ended for the order stays so. -/
theorem endedFor_le_step (h : step.OnlyReached (HandsAll o p) db) :
    db.shop.books.endedFor o p ≤ (step.exec db).db.shop.books.endedFor o p := by
  rcases h.carts with ⟨-, -, hages⟩ | hfollows
  · exact hages.ended
  · refine hfollows.inv (I := fun b => db.shop.books.endedFor o p ≤ b.endedFor o p) le_rfl ?_
    intro b ch hb hguard hch
    exact hb.trans (endedFor_le_apply hguard hch.2.2 o p)

theorem bookedOnce_step (h : step.OnlyReached (HandsAll o p) db) (hbooked : db.shop.books.BookedOnce o p) :
    (step.exec db).db.shop.books.BookedOnce o p := by
  rcases h.carts with ⟨horders, hlines, hages⟩ | hfollows
  · unfold Books.BookedOnce Books.ordered at hbooked ⊢
    rw [horders, hlines]
    exact hages.units.trans hbooked
  · refine hfollows.inv (I := fun b => b.BookedOnce o p) hbooked fun b ch hb hguard hch => ?_
    exact bookedOnce_apply hguard hch.2.2 hch.2.1.1 hb

/-- The order is there, and holds nothing any more. -/
def Books.IsSettled (b : Books) (o : OrderId) (p : ProductId) : Prop :=
  b.orders.rows o ≠ none ∧ b.heldFor o p = 0

/-- Reservations that only grow older are not held again. -/
theorem heldFor_ages {b b' : Books} (hages : Holds.Ages o p b.holds b'.holds)
    (h : b.heldFor o p = 0) : b'.heldFor o p = 0 := by
  have hunits : b'.unitsFor o p = b.unitsFor o p := hages.units
  have hended : b.endedFor o p ≤ b'.endedFor o p := hages.ended
  rw [Books.unitsFor_eq, Books.unitsFor_eq] at hunits
  omega

theorem isSettled_change (hguard : ch.Guard b) (hcart : ∀ c items holds, ch ≠ .shelve c items holds)
    (hreserve : ∀ reservations, ch ≠ .reserve o reservations) (h : b.IsSettled o p) :
    (ch.apply b).IsSettled o p := by
  obtain ⟨hthere, hheld⟩ := h
  refine ⟨?_, heldFor_ages (ages_apply hguard hcart hreserve hthere p) hheld⟩
  obtain ⟨order, hrow⟩ := Option.ne_none_iff_exists'.1 hthere
  exact Option.ne_none_iff_exists'.2 (Change.exists_order_apply ch hrow)

/-- A settled order stays settled, with what has ended for it and with its lines. -/
theorem isSettled_step (h : step.OnlyReached (HandsAll o p) db) (hsettled : db.shop.books.IsSettled o p) :
    (step.exec db).db.shop.books.IsSettled o p ∧
      (step.exec db).db.shop.books.endedFor o p = db.shop.books.endedFor o p ∧
        (step.exec db).db.shop.books.ordered o p = db.shop.books.ordered o p := by
  -- what has ended is what was ever reserved, before and after
  have hended {b : Books} (hunits : b.unitsFor o p = db.shop.books.unitsFor o p)
      (hheld : b.heldFor o p = 0) : b.endedFor o p = db.shop.books.endedFor o p := by
    rw [Books.unitsFor_eq, Books.unitsFor_eq, hheld, hsettled.2] at hunits
    exact hunits
  rcases h.carts with ⟨horders, hlines, hages⟩ | hfollows
  · have hheld := heldFor_ages hages hsettled.2
    refine ⟨⟨horders ▸ hsettled.1, hheld⟩, hended hages.units hheld, ?_⟩
    rw [Books.ordered, hlines, Books.ordered]
  · have hchain := hfollows.inv (I := fun b => b.IsSettled o p ∧
      b.unitsFor o p = db.shop.books.unitsFor o p ∧ b.ordered o p = db.shop.books.ordered o p)
      ⟨hsettled, rfl, rfl⟩ fun b ch hb hguard hch => by
        obtain ⟨hthere, hunits, hordered⟩ := hb
        obtain ⟨order, hrow⟩ := Option.ne_none_iff_exists'.1 hthere.1
        have hages := ages_apply hguard hch.2.2 hch.2.1.1 hthere.1 p
        exact ⟨isSettled_change hguard hch.2.2 hch.2.1.1 hthere, hages.units.trans hunits,
          (ordered_apply (Table.lt_next hrow) p).trans hordered⟩
    exact ⟨hchain.1, hended hchain.2.1 hchain.1.2, hchain.2.2⟩

/-- What a step that delivers the order finds and leaves: nothing had ended, nothing is held, and
    the step is a call that hands the order over, unless there is nothing on its lines. -/
theorem delivers_step (h : step.OnlyReached (HandsAll o p) db) (hbooked : db.shop.books.BookedOnce o p)
    (hbefore : ¬db.shop.books.IsDelivered o) (hafter : (step.exec db).db.shop.books.IsDelivered o) :
    db.shop.books.endedFor o p = 0 ∧ (step.exec db).db.shop.books.heldFor o p = 0 ∧
      ((step.exec db).db.shop.books.ordered o p = 0 ∨
        ∃ call, step.operation = .call call ∧ call.HandsOver o) := by
  rcases h.carts with ⟨horders, -, -⟩ | hfollows
  · unfold Books.IsDelivered Books.OrderIs at hbefore hafter
    rw [horders] at hafter
    exact (hbefore hafter).elim
  · -- on the way, the order is not delivered yet, or it is settled by what has delivered it
    have hchain := hfollows.inv (I := fun b => b.BookedOnce o p ∧
      db.shop.books.endedFor o p ≤ b.endedFor o p ∧ (b.IsDelivered o →
        db.shop.books.endedFor o p = 0 ∧ b.IsSettled o p ∧ (b.ordered o p = 0 ∨
          ∃ call, step.operation = .call call ∧ call.HandsOver o)))
      ⟨hbooked, le_rfl, fun hdelivered => (hbefore hdelivered).elim⟩ ?_
    · obtain ⟨-, -, hdelivers⟩ := hchain
      obtain ⟨hended, hsettled, htook⟩ := hdelivers hafter
      exact ⟨hended, hsettled.2, htook⟩
    rintro b ch ⟨hbooked, hended, hdelivers⟩ hguard ⟨hasks, hhands, hcart⟩
    have hbooked' := bookedOnce_apply hguard hcart hhands.1 hbooked
    refine ⟨hbooked', hended.trans (endedFor_le_apply hguard hcart o p), fun hnow => ?_⟩
    by_cases hthen : b.IsDelivered o
    · obtain ⟨hzero, hsettled, htook⟩ := hdelivers hthen
      obtain ⟨order, hrow, -⟩ := hthen
      refine ⟨hzero, isSettled_change hguard hcart hhands.1 hsettled, ?_⟩
      rwa [ordered_apply (Table.lt_next hrow)]
    · obtain ⟨statuses, hch⟩ := delivers_of_isDelivered hguard hthen hnow
      have hall := hhands.2 statuses hch hthen
      have hthere : (ch.apply b).orders.rows o ≠ none := by
        obtain ⟨order, hrow, -⟩ := hnow
        exact Option.ne_none_iff_exists'.2 ⟨order, hrow⟩
      have hheld := heldFor_delivers hch hall
      refine ⟨Nat.le_zero.1 (hended.trans (hall.endedFor_eq_zero (Change.delivers_live hch)).le),
        ⟨hthere, hheld⟩, ?_⟩
      by_cases hstatuses : statuses = []
      · -- nothing is reserved, so nothing was ordered
        subst hstatuses
        have hunits : (ch.apply b).unitsFor o p = 0 := by
          rw [unitsFor_apply hcart, books_of_delivers hch, hall.unitsFor_eq_zero]
          rfl
        rw [hbooked', if_neg hthere] at hunits
        exact .inl hunits
      · exact .inr (hasks.handsOver hch hstatuses)

/-! ## Stock that leaves -/

/-- A step that ends nothing for the order takes nothing for it. -/
theorem takes_eq_zero (hcovered : Covered p db.shop.stock)
    (h : (step.exec db).db.shop.books.endedFor o p = db.shop.books.endedFor o p) :
    step.takes o p db = 0 := by
  unfold Step.takes
  split
  · next hfor =>
    -- the step is a call for the order, which ends nothing for anybody else
    have horder := hfor.resolve_right fun hne => hne h
    have helse := Step.endedElse horder db p
    have hsells := (step.sells hcovered).2.ended
    have hended : (step.exec db).db.shop.stock.endedFor o p = db.shop.stock.endedFor o p := h
    rw [endedUnits_eq _ o, endedUnits_eq _ o, helse, hended] at hsells
    omega
  · rfl

/-- A call that hands the order over, and leaves nothing of it, takes all that it held. -/
theorem takes_of_handsOver {call : ShopCall} (hoperation : step.operation = .call call)
    (hhands : call.HandsOver o) (hcovered : Covered p db.shop.stock)
    (hheld : (step.exec db).db.shop.books.heldFor o p = 0) :
    step.takes o p db = db.shop.books.heldFor o p := by
  have hcall : (call.run step.env).Steps (HandsOverIn o p) := hhands.steps
  have hsteps := onShop_steps (w := ⟨db, []⟩) (hcall _)
  have hfor : step.IsFor o p db := .inl (by
    rw [hoperation]
    exact hhands.order)
  have hstock : ((step.exec db).db.shop.stock.inventory p).stockQuantity +
      db.shop.books.heldFor o p = (db.shop.stock.inventory p).stockQuantity +
        (step.exec db).db.shop.books.heldFor o p := by
    rw [Step.exec, hoperation]
    exact (hsteps.run hcovered).2
  rw [hheld, Nat.add_zero] at hstock
  rw [Step.takes, if_pos hfor, ← hstock, Nat.add_sub_cancel_left]

/-- A call that hands the order over books nothing. -/
theorem unitsFor_handsOver {call : ShopCall} (hoperation : step.operation = .call call)
    (hhands : call.HandsOver o) :
    (step.exec db).db.shop.books.unitsFor o p = db.shop.books.unitsFor o p := by
  refine (step.follows db).inv (I := fun b => b.unitsFor o p = db.shop.books.unitsFor o p) rfl ?_
  intro b ch hb _ hasks
  rw [hoperation] at hasks
  rw [unitsFor_apply (fun c items holds hch => ?_), hhands.books hasks]
  · exact hb
  · exact hhands.not_onCart (ShopCall.Asks.onCart (hch ▸ hasks))

/-! ## The account of an order -/

/-- What has left the stock for the order so far is in order: nothing unless reservations of it have
    ended, and all of it once it is delivered. -/
structure Accounted (o : OrderId) (p : ProductId) (db : Database) (taken : ℕ) : Prop where
  covered : Covered p db.shop.stock
  booked : db.shop.books.BookedOnce o p
  fresh : db.shop.books.endedFor o p = 0 → taken = 0
  delivered : db.shop.books.IsDelivered o →
    db.shop.books.heldFor o p = 0 ∧ taken = db.shop.books.ordered o p

theorem Books.IsDelivered.isSettled (h : b.IsDelivered o) (hheld : b.heldFor o p = 0) :
    b.IsSettled o p := by
  obtain ⟨order, hrow, -⟩ := h
  exact ⟨Option.ne_none_iff_exists'.2 ⟨order, hrow⟩, hheld⟩

/-- The account is kept by every step. -/
theorem accounted_step {taken : ℕ} (h : step.OnlyReached (HandsAll o p) db)
    (haccount : Accounted o p db taken) :
    Accounted o p (step.exec db).db (taken + step.takes o p db) := by
  obtain ⟨hcovered, hbooked, hfresh, hdelivered⟩ := haccount
  have hbooked' := bookedOnce_step h hbooked
  have hmono := endedFor_le_step h
  refine ⟨(step.sells hcovered).1, hbooked', fun hzero => ?_, fun hnow => ?_⟩
  · -- nothing has ended before either
    have hbefore : db.shop.books.endedFor o p = 0 := Nat.le_zero.1 (hzero ▸ hmono)
    rw [hfresh hbefore, takes_eq_zero hcovered (hzero.trans hbefore.symm)]
  by_cases hthen : db.shop.books.IsDelivered o
  · obtain ⟨hheld, htaken⟩ := hdelivered hthen
    obtain ⟨hsettled, hended, hordered⟩ := isSettled_step h (hthen.isSettled hheld)
    refine ⟨hsettled.2, ?_⟩
    rw [takes_eq_zero hcovered hended, htaken, hordered, Nat.add_zero]
  · obtain ⟨hbefore, hheld, htook⟩ := delivers_step h hbooked hthen hnow
    refine ⟨hheld, ?_⟩
    rw [hfresh hbefore, Nat.zero_add]
    -- what was ever reserved is what is on the lines
    have hunits : (step.exec db).db.shop.books.unitsFor o p =
        (step.exec db).db.shop.books.ordered o p :=
      hbooked'.trans (if_neg (hnow.isSettled hheld).1)
    rcases htook with hnothing | ⟨call, hoperation, hhands⟩
    · rw [hnothing] at hunits ⊢
      refine takes_eq_zero hcovered ?_
      rw [Books.unitsFor_eq, hheld, Nat.add_zero] at hunits
      rw [hunits, hbefore]
    · rw [takes_of_handsOver hoperation hhands hcovered hheld, ← hunits,
        unitsFor_handsOver hoperation hhands, Books.unitsFor_eq, hbefore, Nat.zero_add]

/-- From then on nothing leaves the stock for the order. -/
theorem takes_nothing {run : List Step} (h : Always (Step.OnlyReached (HandsAll o p)) db run)
    (hcovered : Covered p db.shop.stock) (hsettled : db.shop.books.IsSettled o p) :
    Always (fun db step => step.takes o p db = 0) db run :=
  h.mono_of_inv (I := fun db => Covered p db.shop.stock ∧ db.shop.books.IsSettled o p)
    ⟨hcovered, hsettled⟩ (fun _ step hI hstep => ⟨(step.sells hI.1).1, (isSettled_step hstep hI.2).1⟩)
    fun _ _ hI hstep => takes_eq_zero hI.1 (isSettled_step hstep hI.2).2.1

theorem accounted_run {run : List Step} {taken : ℕ} (h : Always (Step.OnlyReached (HandsAll o p)) db run)
    (haccount : Accounted o p db taken) :
    Accounted o p (after db run) (taken + takenFor o p db run) := by
  induction run generalizing db taken with
  | nil => exact haccount
  | cons step rest ih =>
    have hrest := ih h.2 (accounted_step h.1 haccount)
    rwa [Nat.add_assoc] at hrest

/-- Of steps that take nothing in all, none takes anything. -/
theorem always_of_takenFor {run : List Step} (h : takenFor o p db run = 0) :
    Always (fun db step => step.takes o p db = 0) db run := by
  induction run generalizing db with
  | nil => trivial
  | cons step rest ih =>
    obtain ⟨hstep, hrest⟩ := Nat.add_eq_zero_iff.1 h
    exact ⟨hstep, ih hrest⟩

/-- Nothing has been taken for an order that is not there yet. -/
theorem accounted_start (hnew : db.shop.orders.rows o = none) (hfree : db.shop.books.AllFor o p [])
    (hcovered : Covered p db.shop.stock) : Accounted o p db 0 where
  covered := hcovered
  booked := hfree.unitsFor_eq_zero.trans (if_pos hnew).symm
  fresh _ := rfl
  delivered := fun ⟨_, hrow, _⟩ => nomatch hnew.symm.trans hrow

/-- Delivery consumes the stock exactly once: in every run in which all reservations of the order
    are handed over when it is delivered. -/
theorem consumesOnce_of_handsAll (o : OrderId) (p : ProductId) (db : Database) (run : List Step)
    (hnew : db.shop.orders.rows o = none) (hfree : db.shop.books.AllFor o p [])
    (hcovered : Covered p db.shop.stock) (h : Always (Step.OnlyReached (HandsAll o p)) db run) :
    ConsumesOnce o p db run := by
  rintro before later rfl hdelivered
  obtain ⟨hcovered', hbooked, -, haccount⟩ :=
    accounted_run h.append_left (accounted_start hnew hfree hcovered)
  obtain ⟨hheld, htaken⟩ := haccount hdelivered
  rw [Nat.zero_add] at htaken
  have hsettled := hdelivered.isSettled hheld
  have hunits : (after db before).shop.books.unitsFor o p =
      (after db before).shop.books.ordered o p := hbooked.trans (if_neg hsettled.1)
  rw [Books.unitsFor_eq, hheld, Nat.add_zero] at hunits
  exact ⟨htaken, hunits, takes_nothing h.append_right hcovered' hsettled⟩

/-- The units of an order leave the stock in the step that delivers it, and in no other. -/
theorem takesOnce_of_handsAll (o : OrderId) (p : ProductId) (db : Database) (run : List Step)
    (hnew : db.shop.orders.rows o = none) (hfree : db.shop.books.AllFor o p [])
    (hcovered : Covered p db.shop.stock) (h : Always (Step.OnlyReached (HandsAll o p)) db run) :
    TakesOnce o p db run := by
  rintro before step later rfl hthen hnow
  have haccount := accounted_run h.append_left (accounted_start hnew hfree hcovered)
  have hstep := h.append_right.1
  have haccount' := accounted_step hstep haccount
  obtain ⟨hheld, hall⟩ := haccount'.delivered hnow
  -- nothing of the order has ended before it is delivered
  have htaken := haccount.fresh (delivers_step hstep haccount.booked hthen hnow).1
  rw [htaken, Nat.zero_add] at hall
  exact ⟨hall, always_of_takenFor ((Nat.zero_add _).symm.trans htaken),
    takes_nothing h.append_right.2 haccount'.covered (hnow.isSettled hheld)⟩

end Steps

/-! ## At the counter -/

/-- An order at the counter is paid, packaged and handed over, which is pressed twice. -/
def counterDelivery : List Step :=
  [cornerCounterCheckout, cornerCall (.markCounterCashReceived 0 0 "cashier"),
    cornerCall (.transition 0 .packaged "" "admin"),
    cornerCall (.transition 0 .outForDelivery "" "admin"), cornerCall (.completeDelivery 0 "admin"),
    cornerCall (.completeDelivery 0 "admin")]

/-- An order that is not paid for at the door is not handed over like one. -/
theorem not_deliverCod {b : Books} {o : OrderId}
    (h : (b.orders.rows o).all fun order => ¬order.isCod) : ¬(Change.deliverCod o).Guard b := by
  rintro ⟨order, hrow, hcod, -⟩
  rw [hrow] at h
  exact of_decide_eq_true h hcod

/-- The loaves on the shelf of the corner shop are covered. -/
theorem covered_cornerShop : Covered 0 cornerShop.shop.stock :=
  ⟨by decide, by decide, by decide, by decide⟩

/-- The loaf is booked once, and confirmed with the cash. -/
theorem handsAll_counterDelivery :
    Always (Step.OnlyReached (HandsAll 0 0)) cornerShop counterDelivery := by
  refine ⟨?_, ?_, ?_, ?_, ?_, ?_, trivial⟩
  · rintro b ch - ⟨-, order, reservations, payment, rfl⟩ -
    exact ⟨fun _ => Change.noConfusion, fun _ h => nomatch h⟩
  · rintro b ch - hasks -
    cases ch with
    | settle | payAtCounter => exact ⟨fun _ => Change.noConfusion, fun _ h => nomatch h⟩
    | _ => exact hasks.elim
  · rintro b ch - ⟨-, rfl⟩ -
    exact ⟨fun _ => Change.noConfusion, fun _ h => nomatch h⟩
  · rintro b ch - ⟨-, rfl⟩ -
    exact ⟨fun _ => Change.noConfusion, fun _ h => nomatch h⟩
  · rintro b ch - ⟨rfl, rfl | rfl⟩ hguard
    · refine ⟨fun _ => Change.noConfusion, fun statuses h _ => ?_⟩
      obtain rfl : [ReservationStatus.confirmed] = statuses := (Prod.mk.inj (Option.some.inj h)).2
      decide +kernel
    · exact absurd hguard (not_deliverCod (by decide +kernel))
  · rintro b ch - ⟨rfl, hch⟩ -
    refine ⟨fun _ => by rcases hch with rfl | rfl <;> exact Change.noConfusion, fun _ _ hnot => ?_⟩
    exact (hnot (Option.map_eq_some_iff.1 (show _ = some OrderStatus.delivered by decide +kernel))).elim

theorem consumesOnce_of_handsAll_counter : ConsumesOnce 0 0 cornerShop counterDelivery :=
  consumesOnce_of_handsAll 0 0 cornerShop counterDelivery rfl (by decide) covered_cornerShop
    handsAll_counterDelivery

theorem takesOnce_of_handsAll_counter : TakesOnce 0 0 cornerShop counterDelivery :=
  takesOnce_of_handsAll 0 0 cornerShop counterDelivery rfl (by decide) covered_cornerShop
    handsAll_counterDelivery

/-- What has left the stock after the run, read off the shops. -/
theorem ConsumesOnce.taken {o : OrderId} {p : ProductId} {db : Database} {run : List Step}
    (h : ConsumesOnce o p db run)
    (hdelivered : ((after db run).shop.orders.rows o).map (·.status) = some .delivered) :
    takenFor o p db run = (after db run).shop.books.ordered o p :=
  (h run [] (List.append_nil run).symm (Option.map_eq_some_iff.1 hdelivered)).1

/-- Where an order slips through unpaid, its reservation was never confirmed, and the stock keeps
    what has left the shop. -/
theorem not_consumesOnce_slipped :
    Covered 0 cornerShop.shop.stock ∧ ¬ConsumesOnce 0 0 cornerShop slippedRun := by
  refine ⟨covered_cornerShop, fun h => ?_⟩
  have htaken := h.taken (by decide +kernel)
  revert htaken
  decide +kernel

end Crumbs
