import Crumbs.Lifecycle.Rows
import Crumbs.Lifecycle.Runs

/-!
# Orders that Have Ended

An order that is cancelled or refunded keeps its status for good. It should not begin to wait for
money again: neither by its payment status nor by a new session at a gateway.

## Contents

- `StaysEnded`: orders that have ended wait for nothing
- `LeavesEnded`: no session is cancelled or opened for an order that has ended
- `staysEnded_of_leavesEnded`
-/

namespace Crumbs

open Crumbs.Db

/-! ## What is claimed, and when it holds -/

/-- From `b` to `b'`, a closed order does not begin to wait for its money. -/
structure WaitsForNothing (b b' : Books) (o : OrderId) (order order' : Order) : Prop where
  status : order'.status = order.status
  paymentStatus : order'.paymentStatus = .pendingPayment → order.paymentStatus = .pendingPayment
  sessions : ∀ p payment', b'.payments.rows p = some payment' → payment'.order = o →
    payment'.provider.isOnline → b.PaymentIs p payment'.SameTerms

/-- The orders that are closed in `b` wait for nothing in `b'`. -/
def StaysEnded (b b' : Books) : Prop :=
  ∀ o order, b.orders.rows o = some order → order.status.isClosed →
    ∃ order', b'.orders.rows o = some order' ∧ WaitsForNothing b b' o order order'

instance : IsPreorder Books StaysEnded where
  refl _ o order h _ := ⟨order, h, rfl, id, fun _ payment hrow _ _ =>
    ⟨payment, hrow, rfl, rfl, rfl, rfl⟩⟩
  trans b b' b'' h h' := by
    intro o order hrow hclosed
    obtain ⟨order', hrow', hwaits⟩ := h o order hrow hclosed
    obtain ⟨order'', hrow'', hwaits'⟩ := h' o order' hrow' (hwaits.status ▸ hclosed)
    refine ⟨order'', hrow'', hwaits'.status.trans hwaits.status,
      fun hpending => hwaits.paymentStatus (hwaits'.paymentStatus hpending), ?_⟩
    intro p payment'' hpay'' horder honline
    obtain ⟨payment', hpay', hterms'⟩ := hwaits'.sessions p payment'' hpay'' horder honline
    obtain ⟨payment, hpay, hterms⟩ := hwaits.sessions p payment' hpay'
      (hterms'.order.trans horder) (hterms'.provider ▸ honline)
    exact ⟨payment, hpay, hterms'.trans hterms⟩

/-- No session is cancelled for a closed order unless it waits for its money already, and none is
    opened. -/
def LeavesEnded (b : Books) : Change → Prop
  | .cancelPayment o _ _ => ∀ order, b.orders.rows o = some order → order.status.isClosed →
      order.paymentStatus = .pendingPayment
  | .openOnline payment => ∀ order, b.orders.rows payment.order = some order →
      ¬order.status.isClosed
  | _ => True

/-! ## Changes -/

variable {b : Books} {ch : Change} {o : OrderId} {order : Order}

/-- The state machine leads nowhere from a closed order. -/
theorem not_canTransition_of_closed {status newStatus : OrderStatus} (h : status.isClosed)
    (hne : newStatus ∉ [.cancelled, .refunded]) : ¬canTransition status newStatus := by
  revert h hne
  cases status <;> cases newStatus <;> decide

theorem allowedTransitions_of_closed {status newStatus : OrderStatus} (h : status.isClosed) :
    newStatus ∉ status.allowedTransitions := by
  revert h
  cases status <;> cases newStatus <;> decide

theorem not_isPayable_of_closed {status : OrderStatus} (h : status.isClosed) :
    ¬status.isPayable := by
  revert h
  cases status <;> decide

/-- No change gives a closed order another status; only the sessions of gateways let it wait for
    its money again. -/
theorem updates_of_closed (hguard : ch.Guard b) (hrow : b.orders.rows o = some order)
    (hclosed : order.status.isClosed) {f : Order → Order} (hupdates : ch.updates = some (o, f)) :
    (f order).status = order.status ∧ ((f order).paymentStatus = order.paymentStatus ∨
      (f order).paymentStatus ≠ .pendingPayment ∨ (∃ p g, ch = .cancelPayment o p g) ∨
        ∃ payment, payment.order = o ∧ ch = .openOnline payment) := by
  -- the guards speak of this order
  have hthis {P : Order → Prop} (h : b.OrderIs o P) : P order := by
    obtain ⟨order₁, hrow₁, h⟩ := h
    obtain rfl := Option.some.inj (hrow.symm.trans hrow₁)
    exact h
  cases ch with
  | amend =>
    cases hupdates
    exact ⟨(hguard order).status, .inl (hguard order).paymentStatus⟩
  | requestRefund | confirmCod | noteCash =>
    cases hupdates
    exact ⟨rfl, .inr (.inl nofun)⟩
  | cancelPayment =>
    cases hupdates
    exact ⟨rfl, .inr (.inr (.inl ⟨_, _, rfl⟩))⟩
  | openOnline =>
    cases hupdates
    exact ⟨rfl, .inr (.inr (.inr ⟨_, rfl, rfl⟩))⟩
  | transition | refund =>
    cases hupdates
    exact (allowedTransitions_of_closed hclosed (hthis hguard)).elim
  | cancel =>
    cases hupdates
    exact ((hthis hguard).1 hclosed).elim
  | failOrder =>
    cases hupdates
    exact ((hthis hguard).2.1 hclosed).elim
  | fail =>
    cases hupdates
    exact ((hthis hguard.2.2).2.1 hclosed).elim
  | deliver | payAtCounter =>
    cases hupdates
    exact (not_canTransition_of_closed hclosed (by decide) (hthis hguard).2).elim
  | deliverCod =>
    cases hupdates
    exact (not_canTransition_of_closed hclosed (by decide) (hthis hguard).2.2).elim
  | receiveCash =>
    cases hupdates
    exact (not_canTransition_of_closed hclosed (by decide) (hthis hguard)).elim
  | payOnline =>
    cases hupdates
    exact (not_isPayable_of_closed hclosed (hthis hguard).2).elim
  | capture =>
    cases hupdates
    exact (not_isPayable_of_closed hclosed (hthis hguard.2.2).2).elim
  | _ => exact nomatch hupdates

theorem order_of_ended (hguard : ch.Guard b) (hleaves : LeavesEnded b ch)
    (hrow : b.orders.rows o = some order) (hclosed : order.status.isClosed) :
    ∃ order', (ch.apply b).orders.rows o = some order' ∧ order'.status = order.status ∧
      (order'.paymentStatus = .pendingPayment → order.paymentStatus = .pendingPayment) := by
  rcases Change.order_apply ch hrow with hsame | ⟨f, hupdates, hrow'⟩
  · exact ⟨order, hsame, rfl, id⟩
  · obtain ⟨hstatus, hpayment⟩ := updates_of_closed hguard hrow hclosed hupdates
    refine ⟨f order, hrow', hstatus, fun hpending => ?_⟩
    rcases hpayment with hsame | hother | ⟨p, g, rfl⟩ | ⟨payment, rfl, rfl⟩
    · exact hsame.symm.trans hpending
    · exact (hother hpending).elim
    · exact hleaves order hrow hclosed
    · exact (hleaves order hrow hclosed).elim

/-- A session of a closed order was there before. -/
theorem session_of_ended (hguard : ch.Guard b) (hleaves : LeavesEnded b ch)
    (hrow : b.orders.rows o = some order) (hclosed : order.status.isClosed) {p : PaymentId}
    {payment' : Payment} (hrow' : (ch.apply b).payments.rows p = some payment')
    (horder : payment'.order = o) (honline : payment'.provider.isOnline) :
    b.PaymentIs p payment'.SameTerms := by
  rcases Change.payment_of_apply hrow' with hsame | ⟨f, payment, hrewrites, hpay, rfl⟩ |
    ⟨payment, -, -, hpay, -, rfl⟩ | ⟨hopens, rfl⟩
  · exact ⟨payment', hsame, rfl, rfl, rfl, rfl⟩
  · have hterms := hguard.sameTerms hrewrites payment
    exact ⟨payment, hpay, hterms.order.symm, hterms.provider.symm, hterms.amount.symm,
      hterms.createdAt.symm⟩
  · exact ⟨payment, hpay, rfl, rfl, rfl, rfl⟩
  · have hnext : payment'.order ≠ b.orders.next := fun h =>
      nomatch hrow.symm.trans (b.orders.fresh o (horder.symm.trans h).symm.le)
    cases ch with
    | openOnline payment =>
      cases hopens
      exact (hleaves order (horder ▸ hrow) hclosed).elim
    | openOffline payment =>
      cases hopens
      exact (hguard.1 honline).elim
    | checkout c new reservations payment =>
      cases hopens
      exact (hnext hguard.2.2.2.2.2.1).elim
    | counterCheckout c new reservations payment =>
      cases hopens
      exact (hnext hguard.2.2.2.2.1).elim
    | _ => exact nomatch hopens

theorem staysEnded_apply (hguard : ch.Guard b) (hleaves : LeavesEnded b ch) :
    StaysEnded b (ch.apply b) := by
  intro o order hrow hclosed
  obtain ⟨order', hrow', hstatus, hpending⟩ := order_of_ended hguard hleaves hrow hclosed
  exact ⟨order', hrow', hstatus, hpending, fun _ _ => session_of_ended hguard hleaves hrow hclosed⟩

/-! ## Runs -/

/-- An order that has ended does not begin to wait for money, as long as no session is cancelled
    or opened for one. -/
theorem staysEnded_of_leavesEnded (db : Database) (run : List Step)
    (h : Always (Step.Only LeavesEnded) db run) :
    StaysEnded db.shop.books (after db run).shop.books :=
  h.rel fun _ _ => staysEnded_apply

/-- An online order is cancelled before it is paid. -/
def cancelledRun : List Step :=
  [cornerStripeCall (.processCheckout 0 { email := "", phone := "1" } none fun _ _ => {}),
    cornerStripeCall (.cancel 0 "" "admin")]

theorem staysEnded_of_leavesEnded_refund : StaysEnded (after cornerShop cancelledRun).shop.books
    (after (after cornerShop cancelledRun)
      [cornerStripeCall (.requestRefund 0 "" "admin")]).shop.books := by
  refine staysEnded_of_leavesEnded (after cornerShop cancelledRun) _ ⟨?_, trivial⟩
  rintro b ch ⟨-, rfl⟩ -
  trivial

/-! ## A session that expires late -/

/-- What becomes of a closed order, read off the shops. -/
theorem StaysEnded.not_pendingPayment {shop shop' : Shop} (h : StaysEnded shop.books shop'.books)
    (status : OrderStatus) (paymentStatus : OrderPaymentStatus)
    (hrow : (shop.orders.rows o).map (fun order => (order.status, order.paymentStatus)) =
      some (status, paymentStatus)) (hclosed : status.isClosed)
    (hfailed : paymentStatus ≠ .pendingPayment) :
    (shop'.orders.rows o).map (·.paymentStatus) ≠ some .pendingPayment := by
  obtain ⟨order, hthere, horder⟩ := Option.map_eq_some_iff.1 hrow
  obtain ⟨rfl, rfl⟩ := Prod.mk.inj horder
  obtain ⟨order', hrow', hwaits⟩ := h o order hthere hclosed
  rw [show shop'.orders.rows o = some order' from hrow']
  exact fun hpending => hfailed (hwaits.paymentStatus (Option.some.inj hpending))

/-- The gateway reports that the session of a cancelled order has expired. -/
theorem not_staysEnded_expired : ¬StaysEnded (after cornerShop cancelledRun).shop.books
    (after cornerShop
      (cancelledRun ++ [cornerStripeEvent "checkout.session.expired"])).shop.books := by
  intro hstays
  exact hstays.not_pendingPayment (o := 0) .cancelled .failed
    (by decide +kernel) (by decide) (by decide) (by decide +kernel)

end Crumbs
