import Crumbs.Db.Frames
import Crumbs.Lifecycle.OrderHolds
import Crumbs.Lifecycle.Records

/-!
# Orders Do Not Disturb Each Other

A customer's order is touched by calls for it, by events about its payments and by the sweeps that
find something of it that is stale. Everything else that goes on in the shop, for other orders and
on all the carts, leaves the order, its lines, its payments and its reservations as they are.

## Contents

- `Books.SameFor`: all that belongs to the order is as it was
- `Change.Touches`, `sameFor_apply`: the changes that touch the order, and the others
- `Step.Concerns`, `Operation.Asks.concerns`: the steps that may ask for such changes
- `isolated_run`: runs of steps that do not concern the order
-/

namespace Crumbs

open Crumbs.Db

/-! ## What belongs to an order -/

/-- The reservation was made for the order, and is not a hold of a cart. -/
def StockReservation.OfOrder (o : OrderId) (r : StockReservation) : Prop :=
  r.order = some o ∧ r.cart = none

/-- All that belongs to the order is in `b'` what it is in `b`. -/
structure Books.SameFor (o : OrderId) (b b' : Books) : Prop where
  order : b'.orders.rows o = b.orders.rows o
  lines : b'.lines o = b.lines o
  payments : Table.AgreeOn (fun payment => payment.order = o) b.payments b'.payments
  holds : Table.AgreeOn (StockReservation.OfOrder o) b.holds b'.holds

theorem Books.SameFor.refl (o : OrderId) (b : Books) : b.SameFor o b :=
  ⟨rfl, rfl, .refl _ _, .refl _ _⟩

theorem Books.SameFor.trans {o : OrderId} {b b' b'' : Books} (h : b.SameFor o b')
    (h' : b'.SameFor o b'') : b.SameFor o b'' :=
  ⟨h'.order.trans h.order, h'.lines.trans h.lines, h.payments.trans h'.payments,
    h.holds.trans h'.holds⟩

/-! ## Changes -/

/-- The change may touch something of the order. -/
def Change.Touches (b : Books) (o : OrderId) : Change → Prop
  | shelve .. | unlock _ => False
  | checkout .. | counterCheckout .. => o = b.orders.next
  | expire now => ∃ i r, b.holds.rows i = some r ∧ StockReservation.OfOrder o r ∧ isStale now r
  | reserve o' _ | confirm o' | release o' | amend o' _ | transition o' _ | cancel o' | failOrder o'
  | requestRefund o' | refund o' | deliver o' | deliverCod o' | payOnline o' | payAtCounter o'
  | confirmCod o' | noteCash o' | receiveCash o' | refundPayment o' => o' = o
  | openOnline payment | openOffline payment => payment.order = o
  | settle p _ => b.PaymentIs p fun payment => payment.order = o
  | capture o' p _ | captureAgain o' p | fail o' p _ | failLate o' p _ | cancelPayment o' p _ =>
    o' = o ∨ b.PaymentIs p fun payment => payment.order = o

section Changes

variable {b : Books} {ch : Change} {o o' : OrderId}

theorem touches_of_updates {f : Order → Order} (h : ch.updates = some (o, f)) :
    ch.Touches b o := by
  cases ch with
  | capture | fail | cancelPayment =>
    cases h
    exact .inl rfl
  | amend | transition | cancel | failOrder | requestRefund | refund | deliver | deliverCod
  | payOnline | payAtCounter | confirmCod | noteCash | receiveCash | openOnline =>
    cases h
    rfl
  | _ => exact nomatch h

theorem touches_of_opens {payment : Payment} (hguard : ch.Guard b)
    (h : ch.opens = some payment) : ch.Touches b payment.order := by
  cases ch with
  | openOnline | openOffline =>
    cases h
    rfl
  | checkout =>
    cases h
    exact hguard.2.2.2.2.2.1
  | counterCheckout =>
    cases h
    exact hguard.2.2.2.2.1
  | _ => exact nomatch h

theorem touches_of_rewrites {p : PaymentId} {f : Payment → Payment}
    (h : ch.rewrites = some (p, f)) (hp : b.PaymentIs p fun payment => payment.order = o) :
    ch.Touches b o := by
  cases ch with
  | settle =>
    cases h
    exact hp
  | capture | captureAgain | fail | failLate | cancelPayment =>
    cases h
    exact .inr hp
  | _ => exact nomatch h

theorem touches_of_refunds (h : ch.refunds = some o) : ch.Touches b o := by
  cases ch with
  | refund | refundPayment => exact Option.some.inj h
  | _ => exact nomatch h

/-- Payments of an order that is not touched. -/
theorem payments_apply_same (hguard : ch.Guard b) (h : ¬ch.Touches b o) :
    Table.AgreeOn (fun payment => payment.order = o) b.payments (ch.apply b).payments := by
  rw [Change.payments_apply]
  cases hopens : ch.opens with
  | some payment =>
    refine .insert (fun horder => h ?_) _
    rw [← horder]
    exact touches_of_opens hguard hopens
  | none =>
    cases hrewrites : ch.rewrites with
    | some e =>
      refine .modify fun payment hrow => ?_
      have hother : payment.order ≠ o := fun horder =>
        h (touches_of_rewrites hrewrites ⟨payment, hrow, horder⟩)
      refine ⟨hother, ?_⟩
      rwa [(hguard.sameTerms hrewrites payment).order]
    | none =>
      cases hrefunds : ch.refunds with
      | none => exact .refl _ _
      | some o' =>
        have hne : o' ≠ o := fun heq => h (heq ▸ touches_of_refunds hrefunds)
        change Table.AgreeOn _ b.payments (Change.refundNewest b o').payments
        rw [Change.refundNewest]
        split
        next => exact .refl _ _
        next e hnewest =>
          split
          next =>
            -- the payment that is refunded is one of the other order
            obtain ⟨hrow, horder⟩ := Table.mem_filter.1 (newest_mem hnewest)
            refine .modify fun payment hrow' => ?_
            obtain rfl := Option.some.inj (hrow.symm.trans hrow')
            have hother : e.2.order ≠ o := of_decide_eq_true horder ▸ hne
            exact ⟨hother, hother⟩
          next => exact .refl _ _

/-- An update of reservations of another order, which stay its reservations. -/
theorem holds_same_of_order {P : StockReservation → Bool} {g : StockReservation → StockReservation}
    (hne : o' ≠ o) (hP : ∀ r, P r = true → r.order = some o') (hg : ∀ r, (g r).order = r.order)
    (holds : Holds) :
    Table.AgreeOn (StockReservation.OfOrder o) holds (holds.updateWhere P g) := by
  refine .updateWhere fun i r _ hr => ?_
  have hother : r.order ≠ some o := fun h => hne (Option.some.inj ((hP r hr).symm.trans h))
  exact ⟨fun h => hother h.1, fun h => hother ((hg r).symm.trans h.1)⟩

theorem holds_same_of_release (hne : o' ≠ o) (holds : Holds) :
    Table.AgreeOn (StockReservation.OfOrder o) holds (Holds.release o' holds) :=
  holds_same_of_order (g := ({ · with status := .released })) hne
    (fun _ hr => (of_decide_eq_true hr).1) (fun _ => rfl) holds

theorem holds_same_of_confirm (hne : o' ≠ o) (holds : Holds) :
    Table.AgreeOn (StockReservation.OfOrder o) holds (Holds.confirm o' holds) :=
  holds_same_of_order (g := ({ · with status := .confirmed, expiresAt := none })) hne
    (fun _ hr => (of_decide_eq_true hr).1) (fun _ => rfl) holds

theorem holds_same_of_fulfill (hne : o' ≠ o) (holds : Holds) :
    Table.AgreeOn (StockReservation.OfOrder o) holds (Holds.fulfill o' holds) :=
  holds_same_of_order (g := ({ · with status := .released })) hne
    (fun _ hr => (of_decide_eq_true hr).1) (fun _ => rfl) holds

/-- Holds of a cart are not touched by what goes on for the order, nor the other way round. -/
theorem holds_same_of_releaseCart (c : CartId) (holds : Holds) :
    Table.AgreeOn (StockReservation.OfOrder o) holds (Holds.releaseCart c holds) := by
  refine .updateWhere fun i r _ hr => ?_
  have hcart : r.cart ≠ none := by simp [(of_decide_eq_true hr).1]
  exact ⟨fun h => hcart h.2, fun h => hcart h.2⟩

theorem holds_same_of_bookings {lines : List OrderLine} {reservations : List StockReservation}
    (hne : o' ≠ o) (h : Bookings o' lines reservations) (holds : Holds) :
    Table.AgreeOn (StockReservation.OfOrder o) holds (holds.insertAll reservations) :=
  .insertAll (fun r hr hof => hne (Option.some.inj ((h.each r hr).1.symm.trans hof.1))) holds

theorem holds_same_of_place {c : CartId} {order : Order} {reservations : List StockReservation}
    (payment : Option Payment) (hplace : b.CanPlace c order reservations)
    (hne : b.orders.next ≠ o) : Table.AgreeOn (StockReservation.OfOrder o) b.holds
      (b.placeOrder c order reservations payment).holds :=
  ((holds_same_of_releaseCart c b.holds).trans
    (holds_same_of_bookings hne hplace.bookings _)).trans (holds_same_of_releaseCart c _)

/-- Reservations of an order that is not touched. -/
theorem holds_apply_same (hguard : ch.Guard b) (h : ¬ch.Touches b o) :
    Table.AgreeOn (StockReservation.OfOrder o) b.holds (ch.apply b).holds := by
  cases ch with
  | shelve c items holds =>
    refine fun i r hr => hguard.others i r ?_
    rw [hr.2]
    nofun
  | expire now =>
    refine .updateWhere fun i r hrow hr => ?_
    have hother : ¬StockReservation.OfOrder o r := fun hof => h ⟨i, r, hrow, hof, hr⟩
    exact ⟨hother, hother⟩
  | reserve => exact holds_same_of_bookings h hguard _
  | confirm | payOnline | payAtCounter => exact holds_same_of_confirm h _
  | capture => exact holds_same_of_confirm (fun heq => h (.inl heq)) _
  | release | cancel | failOrder => exact holds_same_of_release h _
  | fail => exact holds_same_of_release (fun heq => h (.inl heq)) _
  | refund o' =>
    change Table.AgreeOn _ _ (Holds.release o' (Change.refundNewest b o').holds)
    rw [Change.holds_refundNewest]
    exact holds_same_of_release h _
  | refundPayment o' =>
    change Table.AgreeOn _ _ (Change.refundNewest b o').holds
    rw [Change.holds_refundNewest]
    exact .refl _ _
  | deliver => exact holds_same_of_fulfill h _
  | receiveCash => exact (holds_same_of_confirm h _).trans (holds_same_of_fulfill h _)
  | checkout c order reservations payment | counterCheckout c order reservations payment =>
    exact holds_same_of_place payment hguard.1 (Ne.symm h)
  | _ => exact .refl _ _

/-- A change that does not touch the order leaves all that belongs to it. -/
theorem sameFor_apply (hguard : ch.Guard b) (hthere : b.orders.rows o ≠ none)
    (h : ¬ch.Touches b o) : b.SameFor o (ch.apply b) where
  order := by
    obtain ⟨order, hrow⟩ := Option.ne_none_iff_exists'.1 hthere
    rcases Change.order_apply ch hrow with hsame | ⟨f, hupdates, -⟩
    · rw [hsame, hrow]
    · exact (h (touches_of_updates hupdates)).elim
  lines := by
    obtain ⟨order, hrow⟩ := Option.ne_none_iff_exists'.1 hthere
    exact Change.lines_apply (Table.lt_next hrow)
  payments := payments_apply_same hguard h
  holds := holds_apply_same hguard h

end Changes

/-! ## Operations -/

/-- The payment that a call names, if it goes by the payment and not by the order that it is of. -/
def ShopCall.payment : ShopCall → Option PaymentId
  | markPaid _ p | markCodCashReceived _ p _ | markFailed _ p _ | markCancelled _ p _ => some p
  | ensureCodCashFinalized _ p _ => p
  -- the counter checks that the payment is one of the order
  | _ => none

/-- The call works on the order or on a payment of it, or a sweep finds something of the order. -/
def ShopCall.Concerns (env : Env) (b : Books) (o : OrderId) (call : ShopCall) : Prop :=
  call.order = some o ∨
    (∃ p, call.payment = some p ∧ b.PaymentIs p fun payment => payment.order = o) ∨
      match call with
      | expireStaleReservations =>
        ∃ i r, b.holds.rows i = some r ∧ StockReservation.OfOrder o r ∧ isStale env.now r
      | cleanupStaleOnlinePayment _ | cleanupStaleOnlinePayments _ =>
        ∃ p payment order, b.payments.rows p = some payment ∧ payment.order = o ∧
          b.orders.rows o = some order ∧
            skipReason payment order (getStaleOnlinePaymentCutoff env none) = none
      | _ => False

/-- The event is about a payment of the order. -/
def VerifiedWebhookEvent.Concerns (b : Books) (o : OrderId)
    (event : VerifiedWebhookEvent StripeObject) : Prop :=
  (∃ p, StripePaymentProvider.Names event.dataObject b p ∧
    b.PaymentIs p fun payment => payment.order = o) ∨
      ∃ p payment, b.payments.filter (fun p => some p.providerPaymentId =
        event.dataObject.paymentIntent) = [(p, payment)] ∧ payment.order = o

/-- The step works on the order, or on a payment of it, or finds something of the order. -/
def Step.Concerns (o : OrderId) (db : Database) (step : Step) : Prop :=
  match step.operation with
  | .call call => call.Concerns step.env db.shop.books o
  | .zarinpalCallback request => ∃ p payment order,
      request.Reaches step.env db p payment order ∧ payment.order = o
  | .stripeWebhook payload signature => ∃ event,
      StripePaymentProvider.verifyWebhook step.env payload signature = .ok event ∧
        ¬db.isProcessed event.eventId ∧ event.Concerns db.shop.books o

section Operations

variable {env : Env} {b : Books} {ch : Change} {o : OrderId}

theorem PaymentService.CounterAsks.touches {o' : OrderId} {p : PaymentId} {provider : Provider}
    {b₀ : Books} (h : PaymentService.CounterAsks o' p provider b₀ b ch) (htouches : ch.Touches b o) :
    o' = o := by
  cases ch with
  | settle q f =>
    obtain ⟨-, rfl, ⟨payment, hrow, rfl, -⟩, -⟩ := h
    obtain ⟨payment', hrow', rfl⟩ := htouches
    rw [Option.some.inj (hrow.symm.trans hrow')]
  | payAtCounter o'' => exact h.1.symm.trans htouches
  | _ => exact h.elim

theorem PaymentService.CodAsks.touches {o' : OrderId} {p : Option PaymentId} {b₀ : Books}
    (h : PaymentService.CodAsks o' p b₀ b ch) (htouches : ch.Touches b o) :
    o' = o ∨ ∃ q, p = some q ∧ b₀.PaymentIs q fun payment => payment.order = o := by
  cases ch with
  | noteCash o'' => exact .inl (Eq.symm h ▸ htouches)
  | settle q f =>
    obtain ⟨hpayments, hnamed, -⟩ := h
    obtain ⟨payment, hrow, horder⟩ := htouches
    cases p with
    | some p =>
      obtain rfl : q = p := hnamed
      exact .inr ⟨q, rfl, payment, hpayments ▸ hrow, horder⟩
    | none =>
      obtain ⟨payment', hrow', horder', -⟩ := hnamed
      obtain rfl := Option.some.inj (hrow.symm.trans hrow')
      exact .inl (horder'.symm.trans horder)
  | receiveCash o'' => exact .inl (h.1.symm.trans htouches)
  | _ => exact h.elim

/-- The sweep of payments has found one of the order. -/
theorem CleanupAsks.touches {b₀ : Books} {ps : List PaymentId} (h : CleanupAsks env ps b ch)
    (hsame : b₀.SameFor o b) (htouches : ch.Touches b o) :
    ∃ p payment order, b₀.payments.rows p = some payment ∧ payment.order = o ∧
      b₀.orders.rows o = some order ∧
        skipReason payment order (getStaleOnlinePaymentCutoff env none) = none := by
  cases ch with
  | fail o' p f =>
    obtain ⟨-, payment, order, hrow, rfl, horder, hdue⟩ := h
    have hof : payment.order = o := by
      rcases htouches with hof | ⟨payment', hrow', hof⟩
      · exact hof
      · rwa [Option.some.inj (hrow.symm.trans hrow')]
    exact ⟨p, payment, order, (hsame.payments p payment hof).1 hrow, hof,
      hsame.order ▸ hof ▸ horder, hdue⟩
  | unlock => exact htouches.elim
  | _ => exact h.elim

/-- A call that touches something of the order concerns it. -/
theorem ShopCall.Asks.concerns {call : ShopCall} {shop : Shop} (h : call.Asks env shop b ch)
    (hsame : shop.books.SameFor o b) (hthere : shop.books.orders.rows o ≠ none)
    (htouches : ch.Touches b o) : call.Concerns env shop.books o := by
  have hnamed {o' : OrderId} {p : PaymentId} (hb : b = shop.books)
      (h : o' = o ∨ b.PaymentIs p fun payment => payment.order = o) : some o' = some o ∨
        ∃ q, some p = some q ∧ shop.books.PaymentIs q fun payment => payment.order = o :=
    h.imp (congrArg some) fun hp => ⟨p, rfl, hb ▸ hp⟩
  have hor {P Q R : Prop} (h : P ∨ Q) : P ∨ Q ∨ R := h.imp id .inl
  cases call with
  | expireStaleReservations =>
    obtain ⟨rfl, rfl⟩ := h
    exact .inr (.inr htouches)
  | addItem | setItemQuantity =>
    obtain ⟨-, items, holds, rfl⟩ := h
    exact htouches.elim
  | removeItem | clearCart =>
    obtain ⟨items, holds, rfl⟩ := h
    exact htouches.elim
  | processCheckout | processCounterCheckout =>
    -- an order that is placed now was not there
    obtain ⟨rfl, order, reservations, payment, rfl⟩ := h
    obtain rfl : o = shop.books.orders.next := htouches
    exact (hthere (shop.books.orders.fresh _ le_rfl)).elim
  | transition | cancel | markPaymentFailed | requestRefund | processRefund | confirmStock
  | releaseStock | finalizeCounterPayment | finalizeOnlinePayment | confirmCod
  | recordCashReceived | markReady | refundPayment =>
    obtain ⟨-, rfl⟩ := h
    exact .inl (congrArg some htouches)
  | completeDelivery =>
    obtain ⟨-, rfl | rfl⟩ := h <;> exact .inl (congrArg some htouches)
  | reserveStock =>
    rcases h with ⟨reservations, rfl⟩ | ⟨f, rfl⟩ <;> exact .inl (congrArg some htouches)
  | startPreparing =>
    rcases h with ⟨-, -, rfl⟩ | ⟨-, -, rfl⟩ | ⟨-, rfl⟩ <;> exact .inl (congrArg some htouches)
  | completePickupOrder =>
    rcases h with ⟨-, -, rfl⟩ | ⟨-, rfl | rfl⟩ <;> exact .inl (congrArg some htouches)
  | initiateOnline =>
    obtain ⟨-, -, payment, rfl, rfl⟩ := h
    exact .inl (congrArg some htouches)
  | initiatePayment =>
    obtain ⟨-, h⟩ := h
    split at h
    · obtain ⟨payment, rfl, -, rfl⟩ := h
      exact .inl (congrArg some htouches)
    · obtain ⟨-, payment, rfl, rfl⟩ := h
      exact .inl (congrArg some htouches)
  | initiateCounterPayment =>
    obtain ⟨-, payment, rfl, rfl⟩ := h
    exact .inl (congrArg some htouches)
  | markCounterCashReceived | markCounterCardReceived =>
    exact .inl (congrArg some (PaymentService.CounterAsks.touches h htouches))
  | markPaid =>
    obtain ⟨hb, rfl | rfl⟩ := h <;> exact hor (hnamed hb htouches)
  | markFailed =>
    obtain ⟨hb, f, rfl | rfl⟩ := h <;> exact hor (hnamed hb htouches)
  | markCancelled =>
    obtain ⟨hb, f, rfl⟩ := h
    exact hor (hnamed hb htouches)
  | markCodCashReceived o' p =>
    have hasks : PaymentService.CodAsks o' (some p) shop.books b ch := h
    exact hor ((hasks.touches htouches).imp (congrArg some) id)
  | ensureCodCashFinalized o' p =>
    have hasks : PaymentService.CodAsks o' p shop.books b ch := h
    exact hor ((hasks.touches htouches).imp (congrArg some) id)
  | cleanupStaleOnlinePayment | cleanupStaleOnlinePayments =>
    exact .inr (.inr (CleanupAsks.touches h hsame htouches))

/-- So does a step. -/
theorem Operation.Asks.concerns {step : Step} {db : Database}
    (h : step.operation.Asks step.env db b ch) (hsame : db.shop.books.SameFor o b)
    (hthere : db.shop.books.orders.rows o ≠ none) (htouches : ch.Touches b o) :
    step.Concerns o db := by
  rw [Step.Concerns]
  cases hoperation : step.operation with
  | call call =>
    rw [hoperation] at h
    exact ShopCall.Asks.concerns h hsame hthere htouches
  | zarinpalCallback request =>
    rw [hoperation] at h
    obtain ⟨rfl, p, payment, order, hreaches, hasks⟩ := h
    refine ⟨p, payment, order, hreaches, ?_⟩
    -- whatever the callback does, it does to this payment and its order
    have hone {o' : OrderId} {q : PaymentId} (ho : o' = payment.order) (hq : q = p)
        (h : o' = o ∨ db.shop.books.PaymentIs q fun payment => payment.order = o) :
        payment.order = o := by
      rcases h with h | ⟨payment', hrow, h⟩
      · exact ho.symm.trans h
      · subst hq
        rwa [Option.some.inj ((CallbackRequest.payment_eq_some hreaches.found).1.symm.trans hrow)]
    cases ch with
    | captureAgain | fail | failLate => exact hone hasks.1 hasks.2 htouches
    | capture => exact hone hasks.1 hasks.2.1 htouches
    | _ => exact hasks.elim
  | stripeWebhook payload signature =>
    rw [hoperation] at h
    obtain ⟨rfl, event, hverified, hnew, hasks⟩ := h
    refine ⟨event, hverified, hnew, ?_⟩
    have hone {o' : OrderId} {q : PaymentId}
        (hnames : StripePaymentProvider.Names event.dataObject db.shop.books q)
        (hq : db.shop.books.PaymentIs q fun payment => payment.order = o')
        (h : o' = o ∨ db.shop.books.PaymentIs q fun payment => payment.order = o) :
        event.Concerns db.shop.books o := by
      rcases h with rfl | h
      · exact .inl ⟨q, hnames, hq⟩
      · exact .inl ⟨q, hnames, h⟩
    cases ch with
    | captureAgain | capture | cancelPayment | fail | failLate =>
      exact hone hasks.2.1 hasks.2.2 htouches
    | refund o' =>
      obtain ⟨-, p, payment, hfound, horder⟩ := hasks
      exact .inr ⟨p, payment, hfound, horder.trans htouches⟩
    | _ => exact hasks.elim

end Operations

/-! ## Runs -/

/-- One step. -/
theorem sameFor_exec {o : OrderId} {step : Step} {db : Database}
    (hthere : db.shop.books.orders.rows o ≠ none) (h : ¬step.Concerns o db) :
    db.shop.books.SameFor o (step.exec db).db.shop.books := by
  refine (step.follows db).inv (I := fun b => db.shop.books.SameFor o b) (.refl o _) ?_
  intro b ch hsame hguard hasks
  refine hsame.trans (sameFor_apply hguard (hsame.order ▸ hthere) fun htouches => h ?_)
  exact hasks.concerns hsame hthere htouches

/-- Whatever goes on in the shop for other orders, on all carts, at the gateways and in the sweeps:
    an order that no step of the run concerns keeps its row, its lines, its payments and its
    reservations. -/
theorem isolated_run {o : OrderId} {db : Database} {run : List Step}
    (hthere : db.shop.books.orders.rows o ≠ none)
    (h : Always (fun db step => ¬step.Concerns o db) db run) :
    db.shop.books.SameFor o (after db run).shop.books :=
  h.inv (I := fun db' => db.shop.books.SameFor o db'.shop.books) (.refl o _)
    fun _ _ hsame hstep => hsame.trans (sameFor_exec (hsame.order ▸ hthere) hstep)

/-- While order 0 is paid, another order of the corner shop is placed and cancelled. -/
theorem isolated_run_cancelled :
    let db := after cornerShop [cornerCheckout, cornerCallback 0 "OK"]
    let run := [cornerCall (.addItem 0 0 1), cornerCounterCheckout,
      cornerCall (.cancel 1 "" "admin")]
    ((after db run).shop.orders.rows 1).map (·.status) = some .cancelled ∧
      db.shop.books.SameFor 0 (after db run).shop.books := by
  refine ⟨by decide +kernel, isolated_run ?_ ⟨?_, ?_, ?_, trivial⟩⟩
  · exact Option.isSome_iff_ne_none.1 (by decide +kernel)
  all_goals
    rintro (horder | ⟨p, hp, -⟩ | hfound)
    · exact nomatch horder
    · exact nomatch hp
    · exact hfound

end Crumbs
