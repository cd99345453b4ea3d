import Crumbs.Lifecycle.Rows
import Crumbs.Lifecycle.Runs

/-!
# Frozen Carts

A cart is frozen while the order of its checkout waits for money. Only the end of that wait thaws
it again, so somebody must be able to bring it about: the customer at the gateway, its callback, or
the cleanup of stale sessions.

## Contents

- `LocksAreOpen`: an order that freezes a cart has an open session
- `CheckoutTraffic`: what checkouts, gateways, cleanup, refunds and cancellations do
- `LeavesSessions`: no session is cancelled, and no refund asked for, where this leaves a cart frozen
- `locksAreOpen_of_leavesSessions`
-/

namespace Crumbs

open Crumbs.Db

/-! ## What is claimed, and when it holds -/

namespace Books

/-- The payment is an open one at a gateway, for the order. -/
def IsSession (b : Books) (o : OrderId) (p : PaymentId) : Prop :=
  b.PaymentIs p fun payment => payment.order = o ∧ payment.provider.isOnline ∧ payment.status.isOpen

/-- A cart was last checked out with the order. -/
def IsActive (b : Books) (o : OrderId) : Prop :=
  ∃ c cart, b.carts.rows c = some cart ∧ cart.activeCheckoutOrder = some o

/-- An order that freezes a cart has an open session. -/
def LocksAreOpen (b : Books) : Prop :=
  ∀ o, b.IsActive o → b.OrderIs o isOrderCheckoutInProgress → ∃ p, b.IsSession o p

/-- The order freezes a cart as long as it waits for money. -/
def MayFreeze (b : Books) (o : OrderId) : Prop :=
  b.IsActive o ∧ b.OrderIs o fun order => order.status ∈ inProgressOrderStatuses

end Books

/-- No session is cancelled that is the last one of an order that may freeze a cart, and no refund
    is asked for such an order if it has no session. -/
def LeavesSessions (b : Books) : Change → Prop
  | .cancelPayment o p _ => (b.PaymentIs p fun payment => payment.order = o) ∧
      (b.MayFreeze o → ∃ q ≠ p, b.IsSession o q)
  | .requestRefund o => b.MayFreeze o → ∃ q, b.IsSession o q
  | _ => True

/-- Checkouts, initiations, gateway events, cleanup, refunds and cancellations. -/
def Step.IsCheckoutTraffic (step : Step) : Prop :=
  match step.operation with
  | .call (.addItem ..) | .call (.setItemQuantity ..) | .call (.removeItem ..)
  | .call (.clearCart _) | .call .expireStaleReservations | .call (.processCheckout ..)
  | .call (.processCounterCheckout ..) | .call (.initiateOnline _) | .call (.initiatePayment ..)
  | .call (.initiateCounterPayment ..) | .call (.markCancelled ..)
  | .call (.cleanupStaleOnlinePayment _) | .call (.cleanupStaleOnlinePayments _)
  | .call (.requestRefund ..) | .call (.processRefund ..) | .call (.refundPayment _)
  | .call (.cancel ..) | .call (.markPaymentFailed ..) | .zarinpalCallback _
  | .stripeWebhook .. => True
  | _ => False

/-! ## Changes -/

/-- What the traffic does: gateways and cleanup work on an order with a payment of its own. -/
def CheckoutTraffic (b : Books) : Change → Prop
  | .shelve .. | .expire _ | .checkout .. | .counterCheckout .. | .openOnline _ | .openOffline _
  | .cancelPayment .. | .unlock _ | .requestRefund _ | .refund _ | .refundPayment _ | .cancel _
  | .failOrder _ => True
  | .captureAgain o p | .capture o p _ | .fail o p _ | .failLate o p _ =>
    b.PaymentIs p fun payment => payment.order = o
  | _ => False

variable {b : Books} {ch : Change} {o : OrderId} {p : PaymentId}

/-- A session that is not written to stays. -/
theorem isSession_apply (hrewrites : ∀ f, ch.rewrites ≠ some (p, f)) (h : b.IsSession o p) :
    (ch.apply b).IsSession o p := by
  obtain ⟨payment, hrow, horder, honline, hopen⟩ := h
  obtain ⟨payment', hrow'⟩ := Change.exists_payment_apply ch hrow
  rcases Change.payment_of_apply hrow' with hsame | ⟨f, -, hp, -⟩ |
    ⟨payment₁, -, -, hrow₁, hsucceeded, -⟩ | ⟨-, rfl⟩
  · obtain rfl := Option.some.inj (hrow.symm.trans hsame)
    exact ⟨payment, hrow', horder, honline, hopen⟩
  · exact (hrewrites f hp).elim
  · obtain rfl := Option.some.inj (hrow.symm.trans hrow₁)
    rw [hsucceeded] at hopen
    exact absurd hopen (by decide)
  · exact nomatch hrow.symm.trans (b.payments.fresh _ le_rfl)

/-- Only a checkout makes an order the active one of a cart. -/
theorem isActive_of_apply (h : (ch.apply b).IsActive o) : b.IsActive o ∨ o = b.orders.next := by
  obtain ⟨c, cart', hrow', hactive⟩ := h
  cases ch with
  | checkout c' order reservations payment =>
    rcases Table.rows_modify_eq_some.1 hrow' with ⟨rfl, cart, -, rfl⟩ | ⟨-, hrow⟩
    · exact .inr (Option.some.inj hactive).symm
    · exact .inl ⟨c, cart', hrow, hactive⟩
  | unlock o' =>
    change (b.carts.updateWhere _ _).rows c = _ at hrow'
    rw [Table.rows_updateWhere, Option.map_eq_some_iff] at hrow'
    obtain ⟨cart, hrow, rfl⟩ := hrow'
    split at hactive
    · exact nomatch hactive
    · exact .inl ⟨c, cart, hrow, hactive⟩
  | refund o' | refundPayment o' =>
    have hcarts : (Change.refundNewest b o').carts = b.carts := by
      rw [Change.refundNewest]
      split
      · rfl
      · split <;> rfl
    exact .inl ⟨c, cart', hcarts ▸ hrow', hactive⟩
  | _ => exact .inl ⟨c, cart', hrow', hactive⟩

/-- An order that was there is not in progress once it is paid, has ended or has failed. -/
theorem not_inProgress_of_update {f : Order → Order} {order : Order}
    (hupdates : ch.updates = some (o, f)) (hprogress : isOrderCheckoutInProgress (f order))
    (htraffic : CheckoutTraffic b ch) : (∃ payment, ch = .openOnline payment ∧ o = payment.order) ∨
      (∃ p g, ch = .cancelPayment o p g) ∨ ch = .requestRefund o := by
  cases ch with
  | openOnline =>
    cases hupdates
    exact .inl ⟨_, rfl, rfl⟩
  | cancelPayment =>
    cases hupdates
    exact .inr (.inl ⟨_, _, rfl⟩)
  | requestRefund =>
    cases hupdates
    exact .inr (.inr rfl)
  | cancel | failOrder | fail =>
    cases hupdates
    exact (hprogress.1 rfl).elim
  | refund =>
    cases hupdates
    exact absurd hprogress.2.2 (show OrderStatus.refunded ∉ inProgressOrderStatuses by decide)
  | capture =>
    cases hupdates
    exact absurd (show OrderPaymentStatus.paid ∈ terminalPaymentStatuses by decide) hprogress.2.1
  | transition | deliver | deliverCod | payOnline | payAtCounter | confirmCod | noteCash
  | receiveCash | amend => exact htraffic.elim
  | _ => exact nomatch hupdates

/-- The session of an order that stays in progress stays open, or another one is. -/
theorem session_of_untouched (hguard : ch.Guard b) (htraffic : CheckoutTraffic b ch)
    (hleaves : LeavesSessions b ch) (hactive : b.IsActive o) {order : Order}
    (hrow : b.orders.rows o = some order) (hrow' : (ch.apply b).orders.rows o = some order)
    (hprogress : isOrderCheckoutInProgress order) (h : b.LocksAreOpen) :
    ∃ p, (ch.apply b).IsSession o p := by
  obtain ⟨p, hsession⟩ := h o hactive ⟨order, hrow, hprogress⟩
  by_cases hrewrites : ∃ f, ch.rewrites = some (p, f)
  swap
  · exact ⟨p, isSession_apply (not_exists.1 hrewrites) hsession⟩
  obtain ⟨f, hrewrites⟩ := hrewrites
  obtain ⟨payment, hpay, horder, -⟩ := hsession
  -- the change works on the order of the payment
  have howns {o' : OrderId} (h : b.PaymentIs p fun payment => payment.order = o') : o' = o := by
    obtain ⟨payment₁, hpay₁, horder₁⟩ := h
    obtain rfl := Option.some.inj (hpay.symm.trans hpay₁)
    exact horder₁.symm.trans horder
  have hthis {P : Order → Prop} (h : b.OrderIs o P) : P order := by
    obtain ⟨order₁, hrow₁, h⟩ := h
    obtain rfl := Option.some.inj (hrow.symm.trans hrow₁)
    exact h
  have hupdated {g : Order → Order} (h : (ch.apply b).orders = b.orders.modify o g) :
      order = g order := by
    rw [h, Table.rows_modify_self, hrow] at hrow'
    exact (Option.some.inj hrow').symm
  cases ch with
  | cancelPayment o' q =>
    cases hrewrites
    obtain rfl := howns hleaves.1
    obtain ⟨q, hne, hother⟩ := hleaves.2 ⟨hactive, order, hrow, hprogress.2.2⟩
    exact ⟨q, isSession_apply (fun f h => hne (congrArg Prod.fst (Option.some.inj h)).symm) hother⟩
  | captureAgain o' q =>
    cases hrewrites
    obtain rfl := howns htraffic
    exfalso
    rcases hthis hguard.2 with hpaid | hcash
    · exact hprogress.2.1 (hpaid ▸ by decide)
    · exact hprogress.2.1 (hcash ▸ by decide)
  | capture o' q =>
    cases hrewrites
    obtain rfl := howns htraffic
    have hpaid : order.paymentStatus = .paid := congrArg Order.paymentStatus (hupdated rfl)
    exact (hprogress.2.1 (hpaid ▸ by decide)).elim
  | fail o' q =>
    cases hrewrites
    obtain rfl := howns htraffic
    exact absurd (congrArg Order.status (hupdated rfl)) hprogress.1
  | failLate o' q =>
    cases hrewrites
    obtain rfl := howns htraffic
    rcases (hthis hguard.2.2).2 with hcancelled | hrefunded
    · exact (hprogress.1 hcancelled).elim
    · exact absurd (hrefunded ▸ hprogress.2.2) (by decide)
  | settle => exact htraffic.elim
  | _ => exact nomatch hrewrites

/-- The traffic keeps a session for every order that freezes a cart. -/
theorem locksAreOpen_apply (hguard : ch.Guard b) (htraffic : CheckoutTraffic b ch)
    (hleaves : LeavesSessions b ch) (h : b.LocksAreOpen) : (ch.apply b).LocksAreOpen := by
  rintro o hactive' ⟨order', hrow', hprogress⟩
  have hactive (hne : o ≠ b.orders.next) : b.IsActive o :=
    (isActive_of_apply hactive').resolve_right hne
  have hold {order : Order} (hrow : b.orders.rows o = some order) : o ≠ b.orders.next :=
    (Table.lt_next hrow).ne
  rcases Change.order_of_apply hrow' with hrow | ⟨f, order, hupdates, hrow, rfl⟩ | ⟨hplaces, rfl⟩
  · exact session_of_untouched hguard htraffic hleaves (hactive (hold hrow)) hrow hrow' hprogress h
  · rcases not_inProgress_of_update hupdates hprogress htraffic with ⟨payment, rfl, rfl⟩ |
      ⟨p, g, rfl⟩ | rfl
    · refine ⟨b.payments.next, payment, (Table.rows_insert ..).trans (if_pos rfl), rfl, ?_⟩
      exact ⟨hguard.1.1, .inr hguard.1.2⟩
    · cases hupdates
      obtain ⟨q, hne, hother⟩ := hleaves.2 ⟨hactive (hold hrow), order, hrow, hprogress.2.2⟩
      exact ⟨q, isSession_apply (fun f h => hne (congrArg Prod.fst (Option.some.inj h)).symm) hother⟩
    · cases hupdates
      obtain ⟨q, hsession⟩ := hleaves ⟨hactive (hold hrow), order, hrow, hprogress.2.2⟩
      exact ⟨q, isSession_apply nofun hsession⟩
  · cases ch with
    | checkout c order reservations payment =>
      cases hplaces
      cases payment with
      | some payment =>
        obtain ⟨horder, honline, hopen⟩ := hguard.2.2.2.2.2
        exact ⟨b.payments.next, payment, (Table.rows_insert ..).trans (if_pos rfl), horder, honline,
          .inr hopen⟩
      | none =>
        obtain ⟨p, payment, hpay, horder, honline, hopen⟩ := hguard.2.2.2.2.2
        exact ⟨p, payment, hpay, horder, honline, .inr hopen⟩
    | counterCheckout =>
      cases hplaces
      exact absurd (hguard.2.1 ▸ hprogress.2.2) (by decide)
    | _ => exact nomatch hplaces

/-! ## Steps and runs -/

/-- Gateways and cleanup work on the order of the payment that they have found. -/
theorem Step.IsCheckoutTraffic.asks {db : Database} {step : Step} (h : step.IsCheckoutTraffic)
    (hasks : step.operation.Asks step.env db b ch) : CheckoutTraffic b ch := by
  cases hoperation : step.operation with
  | call call =>
    rw [Step.IsCheckoutTraffic, hoperation] at h
    rw [hoperation] at hasks
    cases call with
    | addItem | setItemQuantity =>
      obtain ⟨-, items, holds, rfl⟩ := hasks
      trivial
    | removeItem | clearCart =>
      obtain ⟨items, holds, rfl⟩ := hasks
      trivial
    | expireStaleReservations | requestRefund | processRefund | refundPayment | cancel
    | markPaymentFailed =>
      obtain ⟨-, rfl⟩ := hasks
      trivial
    | processCheckout | processCounterCheckout =>
      obtain ⟨-, order, reservations, payment, rfl⟩ := hasks
      trivial
    | initiateOnline =>
      obtain ⟨-, -, payment, -, rfl⟩ := hasks
      trivial
    | initiatePayment =>
      obtain ⟨-, hasks⟩ := hasks
      split at hasks
      · obtain ⟨payment, -, -, rfl⟩ := hasks
        trivial
      · obtain ⟨-, payment, -, rfl⟩ := hasks
        trivial
    | initiateCounterPayment =>
      obtain ⟨-, payment, -, rfl⟩ := hasks
      trivial
    | markCancelled =>
      obtain ⟨-, f, rfl⟩ := hasks
      trivial
    | cleanupStaleOnlinePayment | cleanupStaleOnlinePayments =>
      cases ch with
      | fail =>
        obtain ⟨-, payment, order, hpay, horder, -⟩ := hasks
        exact ⟨payment, hpay, horder⟩
      | unlock => trivial
      | _ => exact hasks.elim
    | _ => exact h.elim
  | zarinpalCallback request =>
    rw [hoperation] at hasks
    obtain ⟨rfl, p, payment, order, hreaches, hasks⟩ := hasks
    have hpay := (CallbackRequest.payment_eq_some hreaches.found).1
    cases ch with
    | captureAgain | fail | failLate =>
      obtain ⟨rfl, rfl⟩ := hasks
      exact ⟨payment, hpay, rfl⟩
    | capture =>
      obtain ⟨rfl, rfl, -⟩ := hasks
      exact ⟨payment, hpay, rfl⟩
    | _ => exact hasks.elim
  | stripeWebhook payload signature =>
    rw [hoperation] at hasks
    obtain ⟨rfl, event, -, -, hasks⟩ := hasks
    cases ch with
    | captureAgain | capture | fail | failLate => exact hasks.2.2
    | cancelPayment | refund => trivial
    | _ => exact hasks.elim

/-- In a shop that begins with no cart in checkout, an order that freezes a cart has an open
    session, as long as no last session is cancelled and no refund is asked for without one. -/
theorem locksAreOpen_of_leavesSessions (db : Database) (run : List Step)
    (hstart : ∀ c cart, db.shop.carts.rows c = some cart → cart.activeCheckoutOrder = none)
    (h : Always (fun db step => step.IsCheckoutTraffic ∧ step.Only LeavesSessions db) db run) :
    (after db run).shop.books.LocksAreOpen := by
  refine h.inv (I := fun db => db.shop.books.LocksAreOpen) ?_ fun db step hlocks hstep => ?_
  · rintro o ⟨c, cart, hcart, hactive⟩ -
    exact nomatch (hstart c cart hcart).symm.trans hactive
  · exact hstep.2.follows.inv hlocks fun _ _ hb hguard hasks =>
      locksAreOpen_apply hguard (hstep.1.asks hasks.1) hasks.2 hb

/-- An online order is placed, and cancelled. -/
theorem locksAreOpen_of_leavesSessions_cancelled : (after cornerShop
    [cornerCheckout, cornerCall (.cancel 0 "" "admin")]).shop.books.LocksAreOpen := by
  refine locksAreOpen_of_leavesSessions cornerShop _ (fun c cart hcart => ?_)
    ⟨⟨trivial, ?_⟩, ⟨trivial, ?_⟩, trivial⟩
  · change (Table.empty.insert _).rows c = some cart at hcart
    rw [Table.rows_insert] at hcart
    split at hcart
    · exact (Option.some.inj hcart).symm ▸ rfl
    · exact nomatch hcart
  · rintro b ch ⟨-, order, reservations, payment, rfl⟩ -
    trivial
  · rintro b ch ⟨-, rfl⟩ -
    trivial

/-! ## A cart that is frozen for good -/

/-- What a frozen cart needs, read off the shop. -/
theorem Books.LocksAreOpen.exists_open {shop : Shop} (h : shop.books.LocksAreOpen) {c : CartId}
    {o : OrderId} (hcart : (shop.carts.rows c).map (·.activeCheckoutOrder) = some (some o))
    (hrow : (shop.orders.rows o).any fun order => isOrderCheckoutInProgress order) :
    ∃ p < shop.payments.next, (shop.payments.rows p).any fun payment => payment.status.isOpen := by
  obtain ⟨cart, hcart, hactive⟩ := Option.map_eq_some_iff.1 hcart
  obtain ⟨order, hthere, hprogress⟩ := (Option.any_eq_true ..).1 hrow
  obtain ⟨p, payment, hpay, -, -, hopen⟩ :=
    h o ⟨c, cart, hcart, hactive⟩ ⟨order, hthere, of_decide_eq_true hprogress⟩
  refine ⟨p, Table.lt_next hpay, ?_⟩
  rw [show shop.payments.rows p = some payment from hpay]
  exact decide_eq_true hopen

/-- The session of a checkout expires, which cancels its payment and not its order. -/
theorem not_locksAreOpen_expired : ¬(after cornerShop
    [cornerStripeCall (.processCheckout 0 { email := "", phone := "1" } none fun _ _ => {}),
      cornerStripeEvent "checkout.session.expired"]).shop.books.LocksAreOpen := by
  intro h
  have hopen := h.exists_open (c := 0) (o := 0) (by decide +kernel) (by decide +kernel)
  revert hopen
  decide +kernel

end Crumbs
