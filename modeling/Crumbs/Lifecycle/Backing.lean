import Crumbs.Lifecycle.Money

/-!
# Successes that Are Backed by Money

An online payment should succeed only when its gateway says that the money is there: Zarinpal when
it is asked, Stripe when it reports the session as completed.

## Contents

- `Backed`: what the gateway has said
- `BacksSuccesses`: every online payment that succeeds in the step is backed
- `CountsMoney`: no callback comes for an order that is paid already
- `backsSuccesses_of_countsMoney`
-/

namespace Crumbs

open Crumbs.Db ZarinpalPaymentProvider

/-! ## What is claimed, and when it holds -/

/-- In the step, the gateway has said that the money of the payment is there. -/
def Backed (db : Database) (step : Step) (p : PaymentId) (payment : Payment) : Prop :=
  match payment.provider with
  | .zarinpal => ∃ request refId, step.operation = .zarinpalCallback request ∧ request.SaysOk ∧
      payment.providerCheckoutSessionId = request.theAuthority ∧ 0 < refId ∧
        .verified p (verifyRequest step.env payment.amount.toInt request.theAuthority)
          (.body [] (some successCode) (some refId)) ∈ (step.exec db).ext
  | .stripe => ∃ payload signature event, step.operation = .stripeWebhook payload signature ∧
      StripePaymentProvider.verifyWebhook step.env payload signature = .ok event ∧
        event.eventType = "checkout.session.completed" ∧
          StripePaymentProvider.Names event.dataObject db.shop.books p
  | _ => True

/-- Every online payment that succeeds in the step is backed. -/
def BacksSuccesses (db : Database) (step : Step) : Prop :=
  ∀ p payment', (step.exec db).db.shop.books.payments.rows p = some payment' →
    payment'.status = .succeeded → payment'.provider.isOnline →
      PaymentService.IsSettled db.shop.books p ∨ ∃ payment,
        db.shop.books.payments.rows p = some payment ∧ payment.SameTerms payment' ∧
          Backed db step p payment

/-- Checkouts, initiations, payments at the counter, callbacks and webhooks. -/
def Step.IsPaymentTraffic (step : Step) : Prop :=
  match step.operation with
  | .call (.processCheckout ..) | .call (.processCounterCheckout ..) | .call (.initiateOnline _)
  | .call (.initiatePayment ..) | .call (.initiateCounterPayment ..)
  | .call (.markCounterCashReceived ..) | .call (.markCounterCardReceived ..)
  | .zarinpalCallback _ | .stripeWebhook .. => True
  | _ => False

/-- A callback that reaches a payment without its money finds an order that is not paid either, and
    no completed Stripe session is about a payment at Zarinpal. -/
def CountsMoney (db : Database) (step : Step) : Prop :=
  match step.operation with
  | .zarinpalCallback request => ∀ p payment order, request.Reaches step.env db p payment order →
      payment.status ≠ .succeeded → ¬order.paymentStatus.isSuccessful
  | .stripeWebhook payload signature => ∀ event p,
      StripePaymentProvider.verifyWebhook step.env payload signature = .ok event →
        ¬db.isProcessed event.eventId → event.eventType = "checkout.session.completed" →
          StripePaymentProvider.Names event.dataObject db.shop.books p →
            ¬db.shop.books.PaymentIs p fun payment => payment.provider = .zarinpal
  | _ => True

/-! ## Steps that ask no gateway -/

/-- An online payment with its money in `b'` had it in `b` already. -/
def NoneSucceeds (b b' : Books) : Prop :=
  ∀ p payment', b'.payments.rows p = some payment' → payment'.status = .succeeded →
    payment'.provider.isOnline → ∃ payment, b.payments.rows p = some payment ∧
      payment.status = .succeeded ∧ payment.provider = payment'.provider

instance : IsPreorder Books NoneSucceeds where
  refl _ _ payment h hs _ := ⟨payment, h, hs, rfl⟩
  trans _ _ _ h h' := by
    intro p payment'' hrow'' hsucceeded'' honline
    obtain ⟨payment', hrow', hsucceeded', hprovider'⟩ := h' p payment'' hrow'' hsucceeded'' honline
    obtain ⟨payment, hrow, hsucceeded, hprovider⟩ := h p payment' hrow' hsucceeded'
      (hprovider' ▸ honline)
    exact ⟨payment, hrow, hsucceeded, hprovider.trans hprovider'⟩

section Changes

variable {b : Books} {ch : Change} {p : PaymentId} {payment payment' : Payment}

/-- A change that gives no online payment its money. -/
theorem noneSucceeds_apply (hguard : ch.Guard b)
    (h : ∀ p f payment, ch.rewrites = some (p, f) → b.payments.rows p = some payment →
      ¬payment.provider.isOnline) : NoneSucceeds b (ch.apply b) := by
  intro p payment' hrow' hsucceeded honline
  rcases Change.payment_of_apply hrow' with hrow | ⟨f, payment, hrewrites, hrow, rfl⟩ |
    ⟨payment, -, -, hrow, -, rfl⟩ | ⟨hopens, -⟩
  · exact ⟨payment', hrow, hsucceeded, rfl⟩
  · exact (h p f payment hrewrites hrow
      ((hguard.sameTerms hrewrites payment).provider ▸ honline)).elim
  · exact nomatch hsucceeded
  · exact absurd (hguard.opens_open hopens) (by rw [hsucceeded]; decide)

theorem noneSucceeds_of_rewrites (hguard : ch.Guard b) (h : ch.rewrites = none) :
    NoneSucceeds b (ch.apply b) :=
  noneSucceeds_apply hguard fun _ _ _ hrewrites _ => nomatch h.symm.trans hrewrites

end Changes

/-- Money that is taken at the counter is not the gateways'. -/
theorem noneSucceeds_of_counter {o : OrderId} {p : PaymentId} {provider : Provider} {b₀ b : Books}
    {ch : Change} (hprovider : ¬provider.isOnline) (hguard : ch.Guard b)
    (hasks : PaymentService.CounterAsks o p provider b₀ b ch) : NoneSucceeds b (ch.apply b) := by
  refine noneSucceeds_apply hguard fun q f payment hrewrites hrow => ?_
  cases ch with
  | settle =>
    cases hrewrites
    obtain ⟨-, rfl, ⟨payment', hrow', -, rfl⟩, -⟩ := hasks
    obtain rfl := Option.some.inj (hrow.symm.trans hrow')
    exact hprovider
  | payAtCounter => exact nomatch hrewrites
  | _ => exact hasks.elim

/-- Of the calls, no initiation and no checkout writes to a payment that is there. -/
theorem noneSucceeds_of_call {env : Env} {shop : Shop} {b : Books} {ch : Change} {call : ShopCall}
    (hcall : Step.IsPaymentTraffic ⟨env, .call call⟩) (hguard : ch.Guard b)
    (hasks : call.Asks env shop b ch) : NoneSucceeds b (ch.apply b) := by
  cases call with
  | processCheckout =>
    obtain ⟨-, order, reservations, payment, rfl⟩ := hasks
    exact noneSucceeds_of_rewrites hguard rfl
  | processCounterCheckout =>
    obtain ⟨-, order, reservations, payment, rfl⟩ := hasks
    exact noneSucceeds_of_rewrites hguard rfl
  | initiateOnline =>
    obtain ⟨-, -, payment, -, rfl⟩ := hasks
    exact noneSucceeds_of_rewrites hguard rfl
  | initiatePayment =>
    obtain ⟨-, hasks⟩ := hasks
    split at hasks
    · obtain ⟨payment, -, -, rfl⟩ := hasks
      exact noneSucceeds_of_rewrites hguard rfl
    · obtain ⟨-, payment, -, rfl⟩ := hasks
      exact noneSucceeds_of_rewrites hguard rfl
  | initiateCounterPayment =>
    obtain ⟨-, payment, -, rfl⟩ := hasks
    exact noneSucceeds_of_rewrites hguard rfl
  | markCounterCashReceived => exact noneSucceeds_of_counter (by decide) hguard hasks
  | markCounterCardReceived => exact noneSucceeds_of_counter (by decide) hguard hasks
  | _ => exact hcall.elim

/-! ## Steps that ask one -/

section Gateways

variable {db : Database} {step : Step}

/-- A reply that confirms a capture. -/
theorem readVerifyReply_eq_ok {reply : VerifyReply} {refId : ℤ}
    (h : readVerifyReply reply = .ok refId) :
    reply = .body [] (some successCode) (some refId) ∧ 0 < refId := by
  cases reply with
  | requestException => exact nomatch h
  | malformed => exact nomatch h
  | body errors code ref =>
    cases errors with
    | cons => exact nomatch h
    | nil =>
      rw [readVerifyReply] at h
      split_ifs at h with hcode hpositive
      cases ref with
      | none => exact (hpositive le_rfl).elim
      | some ref =>
        obtain rfl := Except.ok.inj h
        exact ⟨by rw [not_not.1 hcode]; rfl, not_le.1 hpositive⟩

/-- A change of one payment, made in the first state of the step. -/
theorem backsSuccesses_of_one {ch : Change}
    (hexec : (step.exec db).db.shop.books = ch.apply db.shop.books) (hguard : ch.Guard db.shop.books)
    (hopens : ch.opens = none) (h : ∀ p f payment, ch.rewrites = some (p, f) →
      db.shop.books.payments.rows p = some payment → (f payment).status = .succeeded →
        payment.provider.isOnline → Backed db step p payment) : BacksSuccesses db step := by
  intro p payment' hrow' hsucceeded honline
  rw [hexec] at hrow'
  rcases Change.payment_of_apply hrow' with hrow | ⟨f, payment, hrewrites, hrow, rfl⟩ |
    ⟨payment, -, -, -, -, rfl⟩ | ⟨hnew, -⟩
  · exact .inl ⟨payment', hrow, hsucceeded⟩
  · have hterms := hguard.sameTerms hrewrites payment
    exact .inr ⟨payment, hrow, hterms, h p f payment hrewrites hrow hsucceeded
      (hterms.provider ▸ honline)⟩
  · exact nomatch hsucceeded
  · exact nomatch hopens.symm.trans hnew

/-- A change that gives no payment its money. -/
theorem backsSuccesses_of_none {ch : Change} (status : PaymentStatus)
    (hexec : (step.exec db).db.shop.books = ch.apply db.shop.books) (hguard : ch.Guard db.shop.books)
    (hopens : ch.opens = none) (hstatus : status ≠ .succeeded)
    (h : ∀ p f, ch.rewrites = some (p, f) → Payment.Becomes status f) : BacksSuccesses db step :=
  backsSuccesses_of_one hexec hguard hopens fun p f payment hrewrites _ hsucceeded _ =>
    (hstatus ((h p f hrewrites payment).2.symm.trans hsucceeded)).elim

/-- The gateway's answer to a capture that is recorded stays visible. -/
theorem verified_of_captured {request : CallbackRequest} {p : PaymentId} {payment : Payment}
    {order : Order} {refId : ℤ} (hoperation : step.operation = .zarinpalCallback request)
    (hreaches : request.Reaches step.env db p payment order) (hok : request.SaysOk)
    (hunsettled : Unsettled payment order)
    (hconfirms : Confirms step.env order payment request.theAuthority refId)
    (hpayable : order.status.isPayable) :
    .verified p (theVerifyRequest step.env order request.theAuthority)
      (step.env.gateways.zarinpalVerify (theVerifyRequest step.env order request.theAuthority)) ∈
        (step.exec db).ext := by
  obtain ⟨w', hrun, -, -, hquiet⟩ := settleCallback_captured (w := ⟨db.shop, []⟩)
    (CallbackRequest.payment_eq_some hreaches.found).1
    hreaches.row hunsettled.payment hunsettled.order
    ((CallbackRequest.callbackStatus_data (some p)).2 hok) hconfirms hpayable
  obtain ⟨db', hdb, -, -⟩ := zarinpalCallback_settled (w := ⟨db, []⟩) hreaches hrun
  rw [Step.exec_callback hoperation, hdb]
  exact hquiet.mem (List.mem_append_right [] List.mem_cons_self)

theorem backsSuccesses_of_callback {request : CallbackRequest}
    (hoperation : step.operation = .zarinpalCallback request) (hcounts : CountsMoney db step) :
    BacksSuccesses db step := by
  have hfollows := step.follows db
  rw [CountsMoney, hoperation] at hcounts
  rw [hoperation] at hfollows
  rcases hfollows.pinned fun _ _ hasks => hasks.1 with hexec |
    ⟨ch, hguard, ⟨-, p, payment, order, hreaches, hasks⟩, hexec⟩
  · intro p payment' hrow' hsucceeded _
    exact .inl ⟨payment', hexec ▸ hrow', hsucceeded⟩
  obtain ⟨hpay, hprovider, hauthority⟩ := CallbackRequest.payment_eq_some hreaches.found
  have hthe {o : OrderId} (ho : o = payment.order) {order' : Order}
      (hrow : db.shop.books.orders.rows o = some order') : order' = order := by
    subst ho
    exact Option.some.inj (hrow.symm.trans hreaches.row)
  have hstill {q : PaymentId} (hq : q = p) (h : db.shop.books.IsUnsettled q) :
      payment.status ≠ .succeeded := by
    subst hq
    obtain ⟨payment', hrow', hunsettled⟩ := h
    obtain rfl := Option.some.inj (hpay.symm.trans hrow')
    exact hunsettled
  cases ch with
  | captureAgain o q =>
    -- the order is paid already
    obtain ⟨hunsettled, order', hrow', hpaid⟩ := hguard
    obtain rfl := hthe hasks.1 hrow'
    exact (hcounts p payment order' hreaches (hstill hasks.2 hunsettled) hpaid).elim
  | capture o q f =>
    obtain ⟨hunsettled, -, order', hrow', hunpaid, hpayable⟩ := id hguard
    obtain ⟨ho, hq, hstatus, refId, hconfirms, -⟩ := hasks
    obtain rfl := hthe ho hrow'
    refine backsSuccesses_of_one hexec hguard rfl fun p' f' payment' hrewrites hrow _ _ => ?_
    cases hrewrites
    subst q
    obtain rfl := Option.some.inj (hpay.symm.trans hrow)
    have hok := (CallbackRequest.callbackStatus_data _).1 hstatus
    have hconfirms' : Confirms step.env order' payment request.theAuthority refId := hconfirms
    obtain ⟨hreply, hpositive⟩ := readVerifyReply_eq_ok hconfirms'.reply
    have hverified := verified_of_captured hoperation hreaches hok
      ⟨hstill rfl hunsettled, hunpaid⟩ hconfirms' hpayable
    rw [hreply] at hverified
    rw [Backed, hprovider]
    refine ⟨request, refId, hoperation, hok, hauthority, hpositive, ?_⟩
    rw [hconfirms.fits.amount]
    exact hverified
  | fail o q f =>
    refine backsSuccesses_of_none .failed hexec hguard rfl nofun fun _ _ hrewrites => ?_
    cases hrewrites
    exact hguard.2.1
  | failLate o q f =>
    refine backsSuccesses_of_none .failed hexec hguard rfl nofun fun _ _ hrewrites => ?_
    cases hrewrites
    exact hguard.2.1
  | _ => exact hasks.elim

theorem backsSuccesses_of_webhook {payload signature : String}
    (hoperation : step.operation = .stripeWebhook payload signature)
    (hcounts : CountsMoney db step) : BacksSuccesses db step := by
  have hfollows := step.follows db
  rw [CountsMoney, hoperation] at hcounts
  rw [hoperation] at hfollows
  rcases hfollows.pinned fun _ _ hasks => hasks.1 with hexec |
    ⟨ch, hguard, ⟨-, event, hverified, hnew, hasks⟩, hexec⟩
  · intro p payment' hrow' hsucceeded _
    exact .inl ⟨payment', hexec ▸ hrow', hsucceeded⟩
  have hcompleted {p : PaymentId} {payment : Payment}
      (htype : event.eventType = "checkout.session.completed")
      (hnames : StripePaymentProvider.Names event.dataObject db.shop.books p)
      (hrow : db.shop.books.payments.rows p = some payment) (honline : payment.provider.isOnline) :
      Backed db step p payment := by
    have hstripe : payment.provider = .stripe := honline.resolve_left fun hzarinpal =>
      hcounts event p hverified hnew htype hnames ⟨payment, hrow, hzarinpal⟩
    rw [Backed, hstripe]
    exact ⟨payload, signature, event, hoperation, hverified, htype, hnames⟩
  cases ch with
  | captureAgain o q =>
    refine backsSuccesses_of_one hexec hguard rfl fun p f payment hrewrites hrow _ honline => ?_
    cases hrewrites
    exact hcompleted hasks.1 hasks.2.1 hrow honline
  | capture o q f =>
    refine backsSuccesses_of_one hexec hguard rfl fun p f payment hrewrites hrow _ honline => ?_
    cases hrewrites
    exact hcompleted hasks.1 hasks.2.1 hrow honline
  | fail o q f =>
    refine backsSuccesses_of_none .failed hexec hguard rfl nofun fun _ _ hrewrites => ?_
    cases hrewrites
    exact hguard.2.1
  | failLate o q f =>
    refine backsSuccesses_of_none .failed hexec hguard rfl nofun fun _ _ hrewrites => ?_
    cases hrewrites
    exact hguard.2.1
  | cancelPayment o q f =>
    refine backsSuccesses_of_none .cancelled hexec hguard rfl nofun fun _ _ hrewrites => ?_
    cases hrewrites
    exact hguard.2.1
  | refund o => exact backsSuccesses_of_one hexec hguard rfl nofun
  | _ => exact hasks.elim

end Gateways

/-! ## The criterion -/

theorem backsSuccesses_step {db : Database} {step : Step} (htraffic : step.IsPaymentTraffic)
    (hcounts : CountsMoney db step) : BacksSuccesses db step := by
  cases hoperation : step.operation with
  | call call =>
    have hfollows := step.follows db
    rw [hoperation] at hfollows
    have hcall : Step.IsPaymentTraffic ⟨step.env, .call call⟩ := by
      rw [Step.IsPaymentTraffic, hoperation] at htraffic
      exact htraffic
    intro p payment' hrow' hsucceeded honline
    obtain ⟨payment, hrow, hsettled, -⟩ := hfollows.rel (R := NoneSucceeds)
      (fun b ch hguard hasks => noneSucceeds_of_call hcall hguard hasks) p payment' hrow'
      hsucceeded honline
    exact .inl ⟨payment, hrow, hsettled⟩
  | zarinpalCallback request => exact backsSuccesses_of_callback hoperation hcounts
  | stripeWebhook payload signature => exact backsSuccesses_of_webhook hoperation hcounts

/-- As long as callbacks come for orders that are not paid yet, every success is backed. -/
theorem backsSuccesses_of_countsMoney (db : Database) (run : List Step)
    (h : Always (fun db step => step.IsPaymentTraffic ∧ CountsMoney db step) db run) :
    Always BacksSuccesses db run :=
  h.mono fun _ _ hstep => backsSuccesses_step hstep.1 hstep.2

/-! ## A payment that nobody has made -/

/-- A counter order gets an online payment as well, and is then paid in cash. -/
def paidTwiceRun : List Step :=
  [cornerCounterCheckout, cornerCall (.initiateOnline 0),
    cornerCall (.markCounterCashReceived 0 0 "cashier")]

/-- The success that a step must back, read off the database. -/
theorem BacksSuccesses.backed {db : Database} {step : Step} (h : BacksSuccesses db step)
    {p : PaymentId} (hbefore : (db.shop.payments.rows p).map (fun payment =>
      (payment.provider, payment.status)) = some (.zarinpal, .processing))
    (hafter : ((step.exec db).db.shop.payments.rows p).map (fun payment =>
      (payment.provider, payment.status)) = some (.zarinpal, .succeeded)) :
    ∃ request, step.operation = .zarinpalCallback request ∧ request.SaysOk := by
  obtain ⟨payment', hrow', hsucceeded⟩ := Option.map_eq_some_iff.1 hafter
  obtain ⟨payment, hrow, hprocessing⟩ := Option.map_eq_some_iff.1 hbefore
  obtain ⟨hprovider', hstatus'⟩ := Prod.mk.inj hsucceeded
  obtain ⟨hprovider, hstatus⟩ := Prod.mk.inj hprocessing
  rcases h p payment' hrow' hstatus' (.inl hprovider') with ⟨payment₁, hrow₁, hsettled⟩ |
    ⟨payment₁, hrow₁, -, hbacked⟩
  · obtain rfl := Option.some.inj (hrow.symm.trans hrow₁)
    exact nomatch hstatus.symm.trans hsettled
  · obtain rfl := Option.some.inj (hrow.symm.trans hrow₁)
    rw [Backed, hprovider] at hbacked
    obtain ⟨request, -, hoperation, hok, -⟩ := hbacked
    exact ⟨request, hoperation, hok⟩

/-- The customer goes back from the gateway without paying, and the payment succeeds. -/
theorem not_backsSuccesses_unpaid :
    ¬Always BacksSuccesses cornerShop (paidTwiceRun ++ [cornerCallback 1 "NOK"]) := by
  rintro ⟨-, -, -, hbacks, -⟩
  obtain ⟨request, hoperation, hok⟩ := hbacks.backed (p := 1) (by decide +kernel) (by decide +kernel)
  obtain rfl := Operation.zarinpalCallback.inj hoperation
  revert hok
  decide

/-- A callback in a shop whose only order is not paid yet. -/
theorem countsMoney_of_only {db : Database} {step : Step} {request : CallbackRequest}
    (hoperation : step.operation = .zarinpalCallback request) (honly : db.shop.orders.next = 1)
    (hunpaid : (db.shop.orders.rows 0).map (·.paymentStatus) = some .pendingPayment) :
    CountsMoney db step := by
  rw [CountsMoney, hoperation]
  intro p payment order hreaches _ hpaid
  obtain ⟨order', hrow', hpending⟩ := Option.map_eq_some_iff.1 hunpaid
  have ho : payment.order = 0 := Nat.lt_one_iff.1 (honly ▸ Table.lt_next hreaches.row)
  obtain rfl : order' = order := Option.some.inj (hrow'.symm.trans (ho ▸ hreaches.row))
  rw [hpending] at hpaid
  revert hpaid
  decide

/-- An online order is paid at the gateway. -/
theorem backsSuccesses_of_countsMoney_paid :
    Always BacksSuccesses cornerShop [cornerCheckout, cornerCallback 0 "OK"] :=
  backsSuccesses_of_countsMoney cornerShop _ ⟨⟨trivial, trivial⟩, ⟨trivial,
    countsMoney_of_only rfl (by decide +kernel) (by decide +kernel)⟩, trivial⟩

end Crumbs
