import Crumbs.Lifecycle.Payments
import Crumbs.Writes.Webhooks

/-!
# What Callbacks and Webhooks Do to the Books

A callback or an event that reaches a payment makes one change, or none.

## Contents

- `CallbackAsks`, `settleCallback_follows`: a Zarinpal callback
- `StripePaymentProvider.Names`: the payment that an event is about
- `EventAsks`, `StripePaymentProvider.handleWebhookEvent_follows`: a Stripe event
-/

namespace Crumbs

open Crumbs.Db

variable {α : Type} {b : Books} {env : Env} {p : PaymentId} {o : OrderId}

/-! ## Payments that get a reference first -/

section References

variable {f g : Payment → Payment}

/-- References make no difference to whether the money is there. -/
theorem Books.IsUnsettled.of_update (hg : Payment.Keeps g)
    (h : (b.updatePayment p g).IsUnsettled p) : b.IsUnsettled p := by
  obtain ⟨payment', hrow', hstatus⟩ := h
  rw [updatePayment, Table.rows_modify_self, Option.map_eq_some_iff] at hrow'
  obtain ⟨payment, hrow, rfl⟩ := hrow'
  exact ⟨payment, hrow, fun h => hstatus ((hg payment).2.trans h)⟩

theorem Change.capture_update (hg : Payment.Keeps g)
    (h : (Change.capture o p f).Guard (b.updatePayment p g)) :
    (Change.capture o p (f ∘ g)).Guard b ∧
      (Change.capture o p f).apply (b.updatePayment p g) = (Change.capture o p (f ∘ g)).apply b := by
  refine ⟨⟨h.1.of_update hg, h.2.1.comp hg, h.2.2⟩, ?_⟩
  rw [Change.apply, Books.updatePayment_updatePayment]
  rfl

theorem Change.fail_update (hg : Payment.Keeps g)
    (h : (Change.fail o p f).Guard (b.updatePayment p g)) :
    (Change.fail o p (f ∘ g)).Guard b ∧
      (Change.fail o p f).apply (b.updatePayment p g) = (Change.fail o p (f ∘ g)).apply b := by
  refine ⟨⟨h.1.of_update hg, h.2.1.comp hg, h.2.2⟩, ?_⟩
  rw [Change.apply, Books.updatePayment_updatePayment]
  rfl

theorem Change.failLate_update (hg : Payment.Keeps g)
    (h : (Change.failLate o p f).Guard (b.updatePayment p g)) :
    (Change.failLate o p (f ∘ g)).Guard b ∧ (Change.failLate o p f).apply (b.updatePayment p g) =
      (Change.failLate o p (f ∘ g)).apply b := by
  refine ⟨⟨h.1.of_update hg, h.2.1.comp hg, h.2.2⟩, ?_⟩
  rw [Change.apply, Books.updatePayment_updatePayment]
  rfl

variable {payment : Payment} {order : Order} (hpay : b.payments.rows p = some payment)
  (hrow : b.orders.rows o = some order) (hunsettled : payment.status ≠ .succeeded)
  (hunpaid : ¬order.paymentStatus.isSuccessful)
include hpay hrow hunsettled hunpaid

/-- The money of an open payment arrives, with a reference. -/
theorem markPaid_referenced (hg : Payment.Keeps g) :
    (PaymentService.markPaid o p).Yields Shop.books (b.updatePayment p g) fun _ b' =>
      (Change.capture o p (Payment.succeed ∘ g)).Guard b ∧
        b' = (Change.capture o p (Payment.succeed ∘ g)).apply b := by
  refine PaymentService.markPaid_made.mono ?_
  rintro _ _ (⟨-, payment', hpay', hsettled⟩ | ⟨⟨-, order', hrow', hpaid⟩, -⟩ | ⟨hguard, rfl⟩)
  · rw [Books.updatePayment, Table.rows_modify_self, hpay] at hpay'
    obtain rfl := Option.some.inj hpay'
    exact (hunsettled ((hg payment).2 ▸ hsettled)).elim
  · obtain rfl := Option.some.inj (hrow.symm.trans hrow')
    exact (hunpaid hpaid).elim
  · exact Change.capture_update hg hguard

/-- An open payment fails, with a reference. -/
theorem markFailed_referenced (hg : Payment.Keeps g) {message : String} :
    (PaymentService.markFailed o p message).Yields Shop.books (b.updatePayment p g) fun _ b' =>
      ∃ f, ((Change.fail o p f).Guard b ∧ b' = (Change.fail o p f).apply b) ∨
        ((Change.failLate o p f).Guard b ∧ b' = (Change.failLate o p f).apply b) := by
  refine PaymentService.markFailed_made.mono ?_
  rintro _ _ (⟨-, ⟨payment', hpay', hsettled⟩ | ⟨order', hrow', hpaid⟩⟩ | ⟨hguard, rfl⟩ |
    ⟨hguard, rfl⟩)
  · rw [Books.updatePayment, Table.rows_modify_self, hpay] at hpay'
    obtain rfl := Option.some.inj hpay'
    exact (hunsettled ((hg payment).2 ▸ hsettled)).elim
  · obtain rfl := Option.some.inj (hrow.symm.trans hrow')
    exact (hunpaid hpaid).elim
  · exact ⟨_, .inl (Change.fail_update hg hguard)⟩
  · exact ⟨_, .inr (Change.failLate_update hg hguard)⟩

end References

theorem yields_lockPaymentWithOrder {Q : α → Books → Prop} {f : Payment × Order → ShopTx α}
    (h : ∀ payment order, b.payments.rows p = some payment →
      b.orders.rows payment.order = some order → (f (payment, order)).Yields Shop.books b Q) :
    (lockPaymentWithOrder p >>= f).Yields Shop.books b Q := by
  refine Tx.Yields.bind (P := fun e b' => b' = b ∧ b.payments.rows p = some e.1 ∧
    b.orders.rows e.1.order = some e.2) ?_ ?_
  · exact yields_lockPayment fun payment hpay => yields_lockOrder fun order hrow =>
      Tx.yields_pure ⟨rfl, hpay, hrow⟩
  · rintro ⟨payment, order⟩ _ ⟨rfl, hpay, hrow⟩
    exact h payment order hpay hrow

/-! ## Zarinpal -/

/-- What a callback may do about the payment that it has reached. -/
def CallbackAsks (env : Env) (data : ZarinpalPaymentProvider.CallbackData) (p : PaymentId)
    (payment : Payment) (order : Order) : Change → Prop
  | .captureAgain o q => o = payment.order ∧ q = p
  | .fail o q _ | .failLate o q _ => o = payment.order ∧ q = p
  | .capture o q f => o = payment.order ∧ q = p ∧
      ZarinpalPaymentProvider.callbackStatus data = "OK" ∧
        ∃ refId, ZarinpalPaymentProvider.Confirms env order payment data.authority refId ∧
          ∀ payment, f payment =
            ZarinpalPaymentProvider.capturedPayment payment data.authority refId
  | _ => False

namespace ZarinpalPaymentProvider

variable {data : CallbackData} {payment : Payment} {order : Order}

theorem keeps_withReference (authority : String) (refId : ℤ) :
    Payment.Keeps (withReference · authority refId) := fun _ => ⟨⟨rfl, rfl, rfl, rfl⟩, rfl⟩

/-- A verify call leaves the shop alone; what it answers is what the gateway confirms. -/
theorem verifyPayment_yields {authority : String} {handler : Exn → ShopTx (Option ℤ)}
    {Q : Option ℤ → Books → Prop}
    (hconfirmed : ∀ refId, Confirms env order payment authority refId → Q (some refId) b)
    (hrefused : ∀ exc, (handler exc).Yields Shop.books b Q) :
    (Tx.catching (do
      let refId ← verifyPayment env order (p, payment) authority
      pure (some refId)) handler).Yields Shop.books b Q := by
  rintro w rfl
  refine Tx.wp_catching.2 (Tx.wp_bind.2 ?_)
  by_cases hfits : Fits order payment
  · have hrun : verifyPayment env order (p, payment) authority w = _ := verifyPayment_fits hfits
    cases hreply : readVerifyReply
      (env.gateways.zarinpalVerify (theVerifyRequest env order authority)) with
    | ok refId =>
      rw [hreply] at hrun
      exact (Tx.wp_iff_of_ok hrun).2 (hconfirmed refId ⟨hfits, hreply⟩)
    | error exc =>
      rw [hreply] at hrun
      exact (Tx.wp_iff_of_error hrun).2 (hrefused exc (verifiedWorld env order p authority w) rfl)
  · obtain ⟨exc, hrun⟩ := validateOrderPaymentAmount_unfit (w := w) hfits
    have hverify : verifyPayment env order (p, payment) authority w = (.error exc, w) :=
      Tx.bind_of_error hrun
    exact (Tx.wp_iff_of_error hverify).2 (hrefused exc w rfl)

theorem settleCallback_follows (hpay : b.payments.rows p = some payment)
    (hrow : b.orders.rows payment.order = some order) :
    (settleCallback env data p).Yields Shop.books b fun _ =>
      Follows (fun b₁ ch => b₁ = b ∧ CallbackAsks env data p payment order ch) b := by
  refine .atomic (yields_lockPaymentWithOrder fun payment' order' hpay' hrow' => ?_)
  obtain rfl := Option.some.inj (hpay.symm.trans hpay')
  obtain rfl := Option.some.inj (hrow.symm.trans hrow')
  refine .ite (fun _ => Tx.yields_pure .refl) fun hunsettled => .ite (fun hpaid => ?_)
    fun hunpaid => ?_
  · refine yields_updatePayment (Tx.yields_pure ?_)
    exact .single (show (Change.captureAgain payment.order p).Guard _ from
      ⟨⟨payment, hpay, hunsettled⟩, order, hrow, hpaid⟩) ⟨rfl, rfl, rfl⟩ rfl
  have hfailed {β : Type} {a : β} {message : String} {Q : β → Books → Prop}
      (hQ : ∀ b', Follows (fun b₁ ch => b₁ = b ∧ CallbackAsks env data p payment order ch) b b' →
        Q a b') : (PaymentService.markFailed payment.order p message >>= fun _ => pure a).Yields
          Shop.books b Q := by
    refine PaymentService.markFailed_made.bind ?_
    rintro _ _ (⟨rfl, -⟩ | ⟨hguard, rfl⟩ | ⟨hguard, rfl⟩)
    · exact Tx.yields_pure (hQ _ .refl)
    · exact Tx.yields_pure (hQ _ (.single hguard ⟨rfl, rfl, rfl⟩ rfl))
    · exact Tx.yields_pure (hQ _ (.single hguard ⟨rfl, rfl, rfl⟩ rfl))
  refine .ite (fun _ => hfailed fun _ h => h) fun hok => ?_
  refine Tx.Yields.bind (P := fun refId b' => refId.elim
      (Follows (fun b₁ ch => b₁ = b ∧ CallbackAsks env data p payment order ch) b b')
      fun refId => b' = b ∧ Confirms env order payment data.authority refId)
    (verifyPayment_yields (fun refId h => ⟨rfl, h⟩) fun exc => .ite (fun _ => hfailed fun _ h => h)
      fun _ => Tx.yields_raise _) fun refId b' h => ?_
  cases refId with
  | none => exact Tx.yields_pure h
  | some refId =>
    obtain ⟨rfl, hconfirms⟩ := h
    refine yields_updatePayment ((markPaid_referenced hpay hrow hunsettled hunpaid
      (keeps_withReference data.authority refId)).mono ?_)
    rintro _ _ ⟨hguard, rfl⟩
    exact .single hguard ⟨rfl, rfl, rfl, not_not.1 hok, refId, hconfirms, fun _ => rfl⟩ rfl

end ZarinpalPaymentProvider

/-! ## Stripe -/

/-- The payment that the object of an event is about: it is named by its key, or it is the only
    one with the checkout session, or the newest of the order. -/
def StripePaymentProvider.Names (data : StripeObject) (b : Books) (p : PaymentId) : Prop :=
  match data.metadataPaymentId, sessionId data with
  | some q, _ => p = q
  | none, some sessionId => ∃ payment,
      b.payments.filter (fun p => p.providerCheckoutSessionId = sessionId) = [(p, payment)]
  | none, none => ∃ orderNumber payment,
      firstTruthy data.metadataOrderNumber data.clientReferenceId = some orderNumber ∧
        newest (b.payments.filter fun p => (b.orders.rows p.order).any
          (·.orderNumber = orderNumber) ∧ p.provider = .stripe) = some (p, payment)

/-- What an event may do. -/
def EventAsks (event : VerifiedWebhookEvent StripeObject) (b : Books) : Change → Prop
  | .captureAgain o p | .capture o p _ => event.eventType = "checkout.session.completed" ∧
      StripePaymentProvider.Names event.dataObject b p ∧
        b.PaymentIs p fun payment => payment.order = o
  | .cancelPayment o p _ => event.eventType = "checkout.session.expired" ∧
      StripePaymentProvider.Names event.dataObject b p ∧
        b.PaymentIs p fun payment => payment.order = o
  | .fail o p _ | .failLate o p _ => event.eventType = "payment_intent.payment_failed" ∧
      StripePaymentProvider.Names event.dataObject b p ∧
        b.PaymentIs p fun payment => payment.order = o
  | .refund o => event.eventType = "charge.refunded" ∧ ∃ p payment,
      b.payments.filter (fun p => some p.providerPaymentId = event.dataObject.paymentIntent) =
        [(p, payment)] ∧ payment.order = o
  | _ => False

theorem yields_getOnly {model : String} {rows : List α} {Q : α → Books → Prop}
    (h : ∀ a, rows = [a] → Q a b) : (getOnly model rows : ShopTx α).Yields Shop.books b Q :=
  match rows with
  | [] => Tx.yields_raise _
  | [a] => Tx.yields_pure (h a rfl)
  | _ :: _ :: _ => Tx.yields_raise _

namespace StripePaymentProvider

variable {data : StripeObject} {event : VerifiedWebhookEvent StripeObject}

theorem getPaymentFromEvent_yields : (getPaymentFromEvent data).Yields Shop.books b
    fun p b' => b' = b ∧ Names data b p := by
  refine Tx.yields_getDb fun shop hshop => ?_
  subst hshop
  simp only [Names]
  cases data.metadataPaymentId with
  | some q =>
    exact Tx.Yields.bind (x := getRow "Payment" (shop.payments.rows q))
      (P := fun _ b' => b' = shop.books) (yields_getRow fun _ _ => rfl)
      fun _ _ hb => Tx.yields_pure ⟨hb, rfl⟩
  | none =>
    cases sessionId data with
    | some session =>
      refine Tx.Yields.bind (x := getOnly "Payment" _) (P := fun e b' => b' = shop.books ∧
        shop.payments.filter (fun p => p.providerCheckoutSessionId = session) = [e])
        (yields_getOnly fun _ h => ⟨rfl, h⟩) ?_
      rintro ⟨p, payment⟩ _ ⟨rfl, h⟩
      exact Tx.yields_pure ⟨rfl, payment, h⟩
    | none =>
      cases hnumber : firstTruthy data.metadataOrderNumber data.clientReferenceId with
      | none => exact Tx.yields_raise _
      | some orderNumber =>
        refine Tx.Yields.bind (x := getRow "Payment" _) (P := fun e b' => b' = shop.books ∧
          newest (shop.payments.filter fun p => (shop.orders.rows p.order).any
            (·.orderNumber = orderNumber) ∧ p.provider = .stripe) = some e)
          (yields_getRow fun _ h => ⟨rfl, h⟩) ?_
        rintro ⟨p, payment⟩ _ ⟨rfl, h⟩
        exact Tx.yields_pure ⟨rfl, orderNumber, payment, rfl, h⟩

theorem keeps_withIntent (data : StripeObject) : Payment.Keeps (withIntent · data) := fun _ =>
  ⟨⟨rfl, rfl, rfl, rfl⟩, rfl⟩

theorem handleCheckoutCompleted_follows (htype : event.eventType = "checkout.session.completed") :
    (handleCheckoutCompleted event.dataObject).Yields Shop.books b
      fun _ => Follows (fun b₁ ch => b₁ = b ∧ EventAsks event b ch) b := by
  refine getPaymentFromEvent_yields.bind ?_
  rintro p _ ⟨rfl, hnames⟩
  refine .atomic (yields_lockPaymentWithOrder fun payment order hpay hrow => ?_)
  refine .ite (fun _ => Tx.yields_pure .refl) fun hunsettled => .ite (fun hpaid => ?_)
    fun hunpaid => ?_
  · refine yields_updatePayment (Tx.yields_pure ?_)
    exact .single (show (Change.captureAgain payment.order p).Guard _ from
      ⟨⟨payment, hpay, hunsettled⟩, order, hrow, hpaid⟩) ⟨rfl, htype, hnames, payment, hpay, rfl⟩ rfl
  · refine yields_updatePayment ((markPaid_referenced hpay hrow hunsettled hunpaid
      (keeps_withIntent event.dataObject)).mono ?_)
    rintro _ _ ⟨hguard, rfl⟩
    exact .single hguard ⟨rfl, htype, hnames, payment, hpay, rfl⟩ rfl

theorem handleCheckoutExpired_follows (htype : event.eventType = "checkout.session.expired") :
    (handleCheckoutExpired event.dataObject).Yields Shop.books b
      fun _ => Follows (fun b₁ ch => b₁ = b ∧ EventAsks event b ch) b := by
  refine getPaymentFromEvent_yields.bind ?_
  rintro p _ ⟨rfl, hnames⟩
  refine .atomic (yields_lockPaymentWithOrder fun payment order hpay hrow => ?_)
  refine .ite (fun _ => Tx.yields_pure .refl) fun _ => PaymentService.markCancelled_made.mono ?_
  rintro _ _ ⟨f, h⟩
  refine h.follows ?_
  rintro _ hmem -
  obtain rfl := List.mem_singleton.1 hmem
  exact ⟨rfl, htype, hnames, payment, hpay, rfl⟩

theorem handlePaymentFailed_follows (htype : event.eventType = "payment_intent.payment_failed") :
    (handlePaymentFailed event.dataObject).Yields Shop.books b
      fun _ => Follows (fun b₁ ch => b₁ = b ∧ EventAsks event b ch) b := by
  refine getPaymentFromEvent_yields.bind ?_
  rintro p _ ⟨rfl, hnames⟩
  refine .atomic (yields_lockPaymentWithOrder fun payment order hpay hrow => ?_)
  refine .ite (fun _ => Tx.yields_pure .refl) fun hunsettled => .ite (fun _ => Tx.yields_pure .refl)
    fun hunpaid => ?_
  refine yields_updatePayment ((markFailed_referenced hpay hrow hunsettled hunpaid ?_).mono ?_)
  · exact fun _ => ⟨⟨rfl, rfl, rfl, rfl⟩, rfl⟩
  rintro _ _ ⟨f, ⟨hguard, rfl⟩ | ⟨hguard, rfl⟩⟩
  · exact .single hguard ⟨rfl, htype, hnames, payment, hpay, rfl⟩ rfl
  · exact .single hguard ⟨rfl, htype, hnames, payment, hpay, rfl⟩ rfl

theorem handleChargeRefunded_follows (htype : event.eventType = "charge.refunded") :
    (handleChargeRefunded event.dataObject).Yields Shop.books b
      fun _ => Follows (fun b₁ ch => b₁ = b ∧ EventAsks event b ch) b := by
  refine Tx.yields_getDb fun shop hshop => ?_
  subst hshop
  refine Tx.Yields.bind (P := fun e b' => b' = shop.books ∧ shop.payments.filter
    (fun p => some p.providerPaymentId = event.dataObject.paymentIntent) = [e])
    (yields_getOnly fun _ h => ⟨rfl, h⟩) ?_
  rintro ⟨p, payment⟩ _ ⟨rfl, honly⟩
  refine .void (OrderService.processRefund_made.mono fun _ _ h => h.made.follows ?_)
  rintro _ hmem -
  obtain rfl := List.mem_singleton.1 hmem
  exact ⟨rfl, htype, p, payment, honly, rfl⟩

theorem handleWebhookEvent_follows : (handleWebhookEvent event).Yields Shop.books b
    fun _ => Follows (fun b₁ ch => b₁ = b ∧ EventAsks event b ch) b :=
  .ite handleCheckoutCompleted_follows fun _ => .ite handleCheckoutExpired_follows fun _ =>
    .ite handlePaymentFailed_follows fun _ => .ite handleChargeRefunded_follows fun _ =>
      Tx.yields_pure .refl

end StripePaymentProvider

end Crumbs
