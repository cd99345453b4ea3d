import Crumbs.Lifecycle.Rows
import Crumbs.Lifecycle.Runs

/-!
# Sessions at the Gateway

A customer who asks again is sent to the session that is open already. A session is opened under
the lock of the order, and only where none is open; callbacks and the cleanup close sessions and
open none.

## Contents

- `Payment.IsSession`, `Payment.FitsOrder`: an open session, and one that can be used
- `Books.OneSession`: an order has one session at most, and it can be used
- `initiateOnline_oneSession`, `oneSession_apply`: what opens a session, and what does not
- `initiateOnline_reuses`, `initiateOnline_fails`
- `oneSession_of_run`
-/

namespace Crumbs

open Crumbs.Db

variable {b : Books} {ch : Change} {o : OrderId} {p : PaymentId} {payment : Payment} {order : Order}
  {env : Env}

/-! ## One session -/

/-- A payment with an open session at Zarinpal. -/
def Payment.IsSession (payment : Payment) : Prop :=
  payment.provider = .zarinpal ∧ payment.status = .processing

/-- The session can be used to pay the order. -/
structure Payment.FitsOrder (payment : Payment) (order : Order) : Prop where
  authority : payment.providerCheckoutSessionId ≠ ""
  url : payment.checkoutUrl ≠ ""
  amount : payment.amount = order.total
  currency : lower payment.currency = "irr"

/-- The payments of the order with an open session. -/
def Books.sessions (b : Books) (o : OrderId) : Set PaymentId :=
  {p | b.PaymentIs p fun payment => payment.order = o ∧ payment.IsSession}

/-- The order has one session at most, and it can be used. -/
structure Books.OneSession (b : Books) (o : OrderId) : Prop where
  subsingleton : (b.sessions o).Subsingleton
  fits : ∀ p payment, b.payments.rows p = some payment → payment.order = o → payment.IsSession →
    b.OrderIs o payment.FitsOrder

/-! ## Changes that open no session -/

/-- The change opens no session, and leaves the total of every order alone. -/
def Change.LeavesSessions : Change → Prop
  | openOnline _ | checkout .. | counterCheckout .. | amend .. => False
  | _ => True

theorem Change.Guard.not_processing (hguard : ch.Guard b) {f : Payment → Payment}
    (h : ch.rewrites = some (p, f)) (payment : Payment) : (f payment).status ≠ .processing := by
  cases ch with
  | settle =>
    cases h
    rw [(hguard.2 payment).2]
    nofun
  | capture | fail | failLate | cancelPayment =>
    cases h
    rw [(hguard.2.1 payment).2]
    nofun
  | captureAgain =>
    cases h
    nofun
  | _ => exact nomatch h

/-- A session that is open after the change was so before. -/
theorem session_of_apply (hguard : ch.Guard b) (hleaves : ch.LeavesSessions)
    (hrow : (ch.apply b).payments.rows p = some payment) (hsession : payment.IsSession) :
    b.payments.rows p = some payment := by
  rcases Change.payment_of_apply hrow with hrow | ⟨f, payment, hrewrites, -, rfl⟩ |
    ⟨payment, -, -, -, -, rfl⟩ | ⟨hopens, -⟩
  · exact hrow
  · exact (hguard.not_processing hrewrites payment hsession.2).elim
  · exact nomatch hsession.2
  · cases ch with
    | openOffline =>
      cases hopens
      exact (hguard.1 (.inl hsession.1)).elim
    | openOnline | checkout | counterCheckout => exact hleaves.elim
    | _ => exact nomatch hopens

theorem Change.LeavesSessions.total_eq (hleaves : ch.LeavesSessions) {f : Order → Order}
    (h : ch.updates = some (o, f)) (order : Order) : (f order).total = order.total := by
  cases ch with
  | amend | openOnline | checkout | counterCheckout => exact hleaves.elim
  | transition | cancel | failOrder | requestRefund | refund | deliver | deliverCod | payOnline
  | payAtCounter | confirmCod | noteCash | receiveCash | capture | fail | cancelPayment =>
    cases h
    rfl
  | _ => exact nomatch h

/-- As long as its total stays, a session that fits the order goes on to do so. -/
theorem fits_apply (htotal : ∀ f, ch.updates = some (o, f) → ∀ order, (f order).total = order.total)
    (h : b.OrderIs o payment.FitsOrder) : (ch.apply b).OrderIs o payment.FitsOrder := by
  obtain ⟨order, hrow, hfits⟩ := h
  rcases Change.order_apply ch hrow with hrow' | ⟨f, hupdates, hrow'⟩
  · exact ⟨order, hrow', hfits⟩
  · refine ⟨f order, hrow', hfits.authority, hfits.url, ?_, hfits.currency⟩
    rw [htotal f hupdates order]
    exact hfits.amount

theorem oneSession_apply (h : b.OneSession o) (hguard : ch.Guard b) (hleaves : ch.LeavesSessions) :
    (ch.apply b).OneSession o where
  subsingleton := by
    rintro p ⟨payment, hrow, hsession⟩ p' ⟨payment', hrow', hsession'⟩
    exact h.subsingleton ⟨payment, session_of_apply hguard hleaves hrow hsession.2, hsession⟩
      ⟨payment', session_of_apply hguard hleaves hrow' hsession'.2, hsession'⟩
  fits p _ hrow horder hsession := fits_apply (fun _ => hleaves.total_eq)
    (h.fits p _ (session_of_apply hguard hleaves hrow hsession) horder hsession)

/-- A session may be opened where none is. -/
theorem oneSession_openOnline (h : b.OneSession o)
    (hopens : payment.order = o → payment.IsSession →
      b.sessions o = ∅ ∧ b.OrderIs o payment.FitsOrder) :
    ((Change.openOnline payment).apply b).OneSession o := by
  have hrows : ∀ {p payment'}, ((Change.openOnline payment).apply b).payments.rows p =
      some payment' → b.payments.rows p = some payment' ∨
        payment' = payment ∧ p = b.payments.next := by
    intro p payment' hrow
    rcases Change.payment_of_apply hrow with hrow | ⟨f, payment, hrewrites, -, -⟩ |
      ⟨payment, hrefunds, -⟩ | ⟨hopens, hp⟩
    · exact .inl hrow
    · exact nomatch hrewrites
    · exact nomatch hrefunds
    · exact .inr ⟨(Option.some.inj hopens).symm, hp⟩
  have hempty : ∀ {p payment'}, payment.order = o → payment.IsSession →
      b.payments.rows p = some payment' → ¬(payment'.order = o ∧ payment'.IsSession) :=
    fun horder hsession hrow hboth =>
      Set.eq_empty_iff_forall_notMem.1 (hopens horder hsession).1 _ ⟨_, hrow, hboth⟩
  constructor
  · rintro p ⟨payment₁, hrow₁, hsession₁⟩ p' ⟨payment₂, hrow₂, hsession₂⟩
    rcases hrows hrow₁ with hold₁ | ⟨rfl, rfl⟩ <;> rcases hrows hrow₂ with hold₂ | ⟨rfl, rfl⟩
    · exact h.subsingleton ⟨payment₁, hold₁, hsession₁⟩ ⟨payment₂, hold₂, hsession₂⟩
    · exact (hempty hsession₂.1 hsession₂.2 hold₁ hsession₁).elim
    · exact (hempty hsession₁.1 hsession₁.2 hold₂ hsession₂).elim
    · rfl
  · intro p payment' hrow horder hsession
    refine fits_apply (fun f hupdates order => by cases hupdates; rfl) ?_
    rcases hrows hrow with hold | ⟨rfl, -⟩
    · exact h.fits p payment' hold horder hsession
    · exact (hopens horder hsession).2

/-! ## Opening a session -/

/-- The gateway answers a payment request that it accepts with an authority. -/
def Env.NamesAuthority (env : Env) : Prop := ∀ request authority,
  ZarinpalPaymentProvider.readRequestReply (env.gateways.zarinpalRequest request) =
    .ok authority → authority ≠ ""

/-- What the provider opens at Zarinpal has an authority and an address. -/
def CheckoutProvider.OpensSessions (provider : CheckoutProvider) : Prop :=
  provider.providerName = .zarinpal → ∀ order payment w,
    (provider.createCheckoutSession order payment).Ensures
      (fun session _ => session.sessionId ≠ "" ∧ session.url ≠ "") w

theorem zarinpal_opensSessions (hgateway : env.NamesAuthority) (order : Order)
    (payment : PaymentId × Payment) (w : World Shop (List Observation)) :
    (ZarinpalPaymentProvider.createCheckoutSession env order payment).Ensures
      (fun session _ => session.sessionId ≠ "" ∧ session.url ≠ "") w := by
  refine Tx.Ensures.bind (P := fun _ _ => True) ((Tx.wp_iff _).2 ?_) fun amount w' _ => ?_
  · exact ⟨fun _ _ _ => trivial, fun _ _ _ => trivial⟩
  refine Tx.ensures_check fun _ => ?_
  dsimp only
  split
  · exact trivial
  · next authority hreply =>
    refine ⟨hgateway _ authority hreply, fun hurl => ?_⟩
    simp only [String.append_eq_empty_iff] at hurl
    exact absurd hurl.1.2 (by decide)

theorem getOnlinePaymentProvider_opensSessions (hgateway : env.NamesAuthority) :
    (getOnlinePaymentProvider env).Yields Shop.books b fun provider _ => provider.OpensSessions := by
  refine .ite (fun _ => ?_) fun _ => .ite (fun _ => ?_) fun _ => Tx.yields_raise _
  · refine Tx.yields_check fun _ => Tx.yields_pure fun _ => ?_
    exact fun order payment w => zarinpal_opensSessions hgateway order payment w
  · refine Tx.yields_check fun _ => Tx.Yields.bind (P := fun _ _ => True) ?_ fun _ _ _ => ?_
    · exact fun w _ => (Tx.wp_iff _).2 ⟨fun _ _ _ => trivial, fun _ _ _ => trivial⟩
    · exact Tx.yields_pure nofun

namespace PaymentService

/-- A session at Zarinpal has an authority and a page. -/
theorem createCheckoutSession_urls {provider : CheckoutProvider} (hopens : provider.OpensSessions)
    {payment : PaymentId × Payment} :
    (provider.createCheckoutSession order payment).Yields Shop.books b fun session _ =>
      provider.providerName = .zarinpal → session.sessionId ≠ "" ∧ session.url ≠ "" := by
  intro w _
  by_cases hname : provider.providerName = .zarinpal
  · exact (hopens hname order payment w).mono fun _ _ h _ => h
  · exact (Tx.wp_iff _).2 ⟨fun _ _ _ h => (hname h).elim, fun _ _ _ => trivial⟩

theorem openPayment_fits {provider : CheckoutProvider} (hreads : provider.ReadsOnly)
    (hopens : provider.OpensSessions) {currency : String} (hcurrency : lower currency = "irr") :
    (openPayment env provider o order currency).Yields Shop.books b fun e _ =>
      e.2.IsSession → provider.providerName = .zarinpal ∧ e.2.FitsOrder order := by
  refine createPayment_yields.bind ?_
  rintro payment _ ⟨rfl, rfl⟩
  refine ((yields_of_reads (hreads order _)).and (createCheckoutSession_urls hopens)).bind ?_
  rintro session _ ⟨rfl, hsession⟩
  refine yields_updatePayment (yields_setPaymentStatus (Tx.yields_pure fun h => ?_))
  exact ⟨h.1, (hsession h.1).1, (hsession h.1).2, rfl, hcurrency⟩

/-- Whether it is opened or was open, the session that a customer is sent to fits the order. -/
theorem initiateOnline_fits (hgateway : env.NamesAuthority) (h : b.OneSession o) :
    (initiateOnline env o).Yields Shop.books b fun e _ => e.2.IsSession →
      env.settings.defaultPaymentProvider = "zarinpal" ∧ b.OrderIs o e.2.FitsOrder := by
  refine .atomic (yields_lockOrder fun order hrow => Tx.yields_check fun hunpaid =>
    Tx.yields_check fun hcurrency => (getOnlinePaymentProvider_yields.and
      (getOnlinePaymentProvider_opensSessions hgateway)).bind ?_)
  rintro provider _ ⟨⟨rfl, hreads, -, hzarinpal⟩, hopens⟩
  refine Tx.yields_getDb fun shop hshop => ?_
  dsimp only
  split
  · next existing hexisting =>
    refine Tx.yields_check fun _ => Tx.yields_check fun _ => Tx.yields_pure fun hsession => ?_
    by_cases hname : provider.providerName = .zarinpal
    · rw [if_pos hname] at hexisting
      obtain ⟨hrow', horder, -⟩ := getReusableZarinpalPayment_eq_some hexisting
      refine ⟨hzarinpal.1 hname, h.fits existing.1 existing.2 ?_ horder hsession⟩
      rw [← hshop]
      exact hrow'
    · rw [if_neg hname] at hexisting
      exact nomatch hexisting
  · refine (openPayment_fits hreads hopens ?_).mono fun e _ hfits hsession => ?_
    · rw [not_not.1 hcurrency]
      decide
    · exact ⟨hzarinpal.1 (hfits hsession).1, order, hrow, (hfits hsession).2⟩

/-- The only session of an order is the one that the query finds. -/
theorem getReusableZarinpalPayment_session {shop : Shop} (h : shop.books.OneSession o)
    (hrow : shop.payments.rows p = some payment) (horder : payment.order = o)
    (hsession : payment.IsSession) : getReusableZarinpalPayment shop o = some (p, payment) := by
  obtain ⟨order, -, hfits⟩ := h.fits p payment hrow horder hsession
  have hmem : (p, payment) ∈ shop.paymentsWhere fun p => p.order = o ∧ p.provider = .zarinpal ∧
      p.status = .processing ∧ p.providerCheckoutSessionId ≠ "" ∧ p.checkoutUrl ≠ "" :=
    Table.mem_filter.2 ⟨hrow, decide_eq_true
      ⟨horder, hsession.1, hsession.2, hfits.authority, hfits.url⟩⟩
  obtain ⟨x, rest, hlist⟩ := List.exists_cons_of_ne_nil (List.ne_nil_of_mem hmem)
  obtain ⟨e, he⟩ := newest_isSome x rest
  rw [← hlist] at he
  obtain ⟨hrow', hmatches⟩ := newest_paymentsWhere he
  have hmatches := of_decide_eq_true hmatches
  obtain rfl : e.1 = p := h.subsingleton
    ⟨e.2, hrow', hmatches.1, hmatches.2.1, hmatches.2.2.1⟩ ⟨payment, hrow, horder, hsession⟩
  obtain rfl := Option.some.inj (hrow.symm.trans hrow')
  rw [getReusableZarinpalPayment, he]
  exact Option.filter_eq_some_iff.2 ⟨rfl, decide_eq_true
    ⟨hsession.1, hsession.2, hfits.authority, hfits.url⟩⟩

/-- A payment is opened only where no session is. -/
theorem sessions_eq_empty {shop : Shop} (h : shop.books.OneSession o)
    (hnone : getReusableZarinpalPayment shop o = none) : shop.books.sessions o = ∅ := by
  refine Set.eq_empty_iff_forall_notMem.2 fun p hp => ?_
  obtain ⟨payment, hrow, horder, hsession⟩ := hp
  exact nomatch hnone.symm.trans (getReusableZarinpalPayment_session h hrow horder hsession)

/-- A call opens a session of its own order, if there is none. -/
theorem initiateOnline_oneSession (hgateway : env.NamesAuthority) {shop : Shop} {o₁ : OrderId}
    (h : shop.books.OneSession o) : (initiateOnline env o₁).Yields Shop.books shop.books
      fun _ b' => b'.OneSession o := by
  by_cases ho : o₁ = o
  · subst o₁
    refine (initiateOnline_yields.and (initiateOnline_fits hgateway h)).mono ?_
    rintro e _ ⟨⟨rfl, -⟩ | ⟨hback, -, -, rfl⟩, hfits⟩
    · exact h
    · refine oneSession_openOnline h fun _ hsession => ?_
      obtain ⟨henv, hfits⟩ := hfits hsession
      have hnone := hback shop rfl
      rw [handedBack, if_pos henv] at hnone
      exact ⟨sessions_eq_empty h hnone, hfits⟩
  · refine initiateOnline_yields.mono ?_
    rintro e _ (⟨rfl, -⟩ | ⟨-, horder, -, rfl⟩)
    · exact h
    · exact oneSession_openOnline h fun ho' => (ho (horder.symm.trans ho')).elim

end PaymentService

/-! ## Using the session that is open -/

/-- Zarinpal is the provider, and it is configured. -/
structure Env.UsesZarinpal (env : Env) : Prop where
  provider : env.settings.defaultPaymentProvider = "zarinpal"
  merchant : env.settings.zarinpalMerchantId ≠ ""
  currency : lower env.settings.onlinePaymentCurrency = "irr"

/-- Whatever is asked of it, the gateway answers with an error. -/
def Env.GatewayFails (env : Env) : Prop := ∀ request, ∃ exc,
  ZarinpalPaymentProvider.readRequestReply (env.gateways.zarinpalRequest request) = .error exc

namespace PaymentService

variable {w : World Shop (List Observation)}

/-- The customer of an unpaid order is sent to the session that is open; the gateway is not
    asked, and nothing is written. -/
theorem initiateOnline_reuses (henv : env.UsesZarinpal) (h : w.db.books.OneSession o)
    (hrowo : w.db.orders.rows o = some order) (hunpaid : ¬order.paymentStatus.isSuccessful)
    (hrow : w.db.payments.rows p = some payment) (horder : payment.order = o)
    (hsession : payment.IsSession) : initiateOnline env o w = (.ok (p, payment), w) := by
  obtain ⟨order', hrow', hfits⟩ := h.fits p payment hrow horder hsession
  obtain rfl := Option.some.inj (hrowo.symm.trans hrow')
  have hprovider : getOnlinePaymentProvider env w = (.ok
      { providerName := .zarinpal,
        createCheckoutSession := ZarinpalPaymentProvider.createCheckoutSession env }, w) :=
    (Tx.ite_of henv.provider).trans (Tx.bind_of_ok (Tx.when_of_not henv.merchant))
  have hreuse : reusePayment order (lower env.settings.onlinePaymentCurrency) (p, payment) w =
      (.ok (p, payment), w) := by
    refine (Tx.bind_of_ok (Tx.when_of_not (not_not.2 hfits.amount))).trans ?_
    exact Tx.bind_of_ok (Tx.when_of_not (not_not.2 (hfits.currency.trans henv.currency.symm)))
  refine Tx.atomic_of_ok ((Tx.bind_of_ok (lockOrder_of_some hrowo)).trans ?_)
  refine (Tx.bind_of_ok (Tx.when_of_not hunpaid)).trans ?_
  refine (Tx.bind_of_ok (Tx.when_of_not (not_not.2 henv.currency))).trans ?_
  refine (Tx.bind_of_ok hprovider).trans ((Tx.bind_of_ok (x := Tx.getDb) rfl).trans ?_)
  dsimp only
  rw [if_pos rfl, getReusableZarinpalPayment_session h hrow horder hsession]
  exact hreuse

/-- A call whose request fails leaves no payment behind, nor anything else. -/
theorem initiateOnline_fails (hprovider : env.settings.defaultPaymentProvider = "zarinpal")
    (hfails : env.GatewayFails) (o : OrderId) (w : World Shop (List Observation)) :
    (initiateOnline env o w).2 = w := by
  have hraises (order : Order) (payment : PaymentId × Payment) (w' : World Shop (List Observation)) :
      (ZarinpalPaymentProvider.createCheckoutSession env order payment).wp (fun _ _ => False)
        (fun _ w'' => w'' = w') w' := by
    refine Tx.wp_seq (validateOrderPaymentAmount_reads order payment.2 w') ?_ fun _ _ => Eq.symm
    rintro amount _ rfl
    refine Tx.wp_bind.2 (Tx.wp_when.2 ⟨fun _ => rfl, fun _ => ?_⟩)
    obtain ⟨exc, hreply⟩ := hfails
      { merchantId := env.settings.zarinpalMerchantId, amount, callbackUrl := _,
        description := s!"CRUMBS order {order.orderNumber}", orderNumber := order.orderNumber,
        paymentId := payment.1 }
    dsimp only
    rw [hreply]
    exact rfl
  have hopen (provider : CheckoutProvider) (order : Order) (currency : String)
      (hsession : provider.createCheckoutSession =
        ZarinpalPaymentProvider.createCheckoutSession env) :
      (openPayment env provider o order currency).wp (fun _ _ => False)
        (fun _ w' => w'.ext = w.ext) w := by
    refine Tx.wp_seq (P := fun _ w' => w'.ext = w.ext) (F := fun _ _ => False) rfl ?_ nofun
    intro payment w₁ hext
    rw [hsession]
    exact Tx.wp_seq (hraises order payment w₁) (fun _ _ => False.elim)
      fun _ _ h => (congrArg World.ext h).trans hext
  have hcall : (initiateOnline env o).wp (fun _ w' => w' = w) (fun _ w' => w' = w) w := by
    refine Tx.wp_atomic.2 (Tx.wp_bind.2 (wp_lockOrder.2 ⟨fun order _ => ?_, fun _ => rfl⟩))
    refine Tx.wp_bind.2 (Tx.wp_when.2 ⟨fun _ => rfl, fun _ => ?_⟩)
    refine Tx.wp_bind.2 (Tx.wp_when.2 ⟨fun _ => rfl, fun _ => ?_⟩)
    refine Tx.wp_seq (P := fun provider w' => w' = w ∧ provider.createCheckoutSession =
      ZarinpalPaymentProvider.createCheckoutSession env) (F := fun _ w' => w' = w) ?_ ?_ ?_
    · rw [getOnlinePaymentProvider, if_pos hprovider]
      exact Tx.wp_bind.2 (Tx.wp_when.2 ⟨fun _ => rfl, fun _ => ⟨rfl, rfl⟩⟩)
    · rintro provider _ ⟨rfl, hsession⟩
      refine Tx.wp_bind.2 (Tx.wp_getDb.2 ?_)
      dsimp only
      split
      · refine Tx.wp_bind.2 (Tx.wp_when.2 ⟨fun _ => rfl, fun _ => ?_⟩)
        exact Tx.wp_bind.2 (Tx.wp_when.2 ⟨fun _ => rfl, fun _ => rfl⟩)
      · refine Tx.wp_mono (hopen provider order _ hsession) (fun _ _ => False.elim) fun _ w' h => ?_
        rw [h]
    · rintro _ _ rfl
      rfl
  rcases hrun : initiateOnline env o w with ⟨_ | _, w'⟩
  · have h := Tx.wp_of_error hcall hrun
    exact h
  · have h := Tx.wp_of_ok hcall hrun
    exact h

end PaymentService

/-! ## Runs -/

/-- A customer comes back from the gateway, or stays away. -/
def Operation.ClosesSessions : Operation → Prop
  | .call (.cleanupStaleOnlinePayment _) | .call (.cleanupStaleOnlinePayments _) => True
  | .zarinpalCallback _ | .stripeWebhook _ _ => True
  | .call _ => False

/-- A customer asks for a session, comes back from one, or lets it run out. -/
def Operation.IsSessionTraffic : Operation → Prop
  | .call (.initiateOnline _) | .call (.initiatePayment _ _) => True
  | operation => operation.ClosesSessions

theorem Operation.Asks.leavesSessions {db : Database} {operation : Operation}
    (h : operation.Asks env db b ch) (hcloses : operation.ClosesSessions) : ch.LeavesSessions := by
  cases operation with
  | call call =>
    cases call with
    | cleanupStaleOnlinePayment | cleanupStaleOnlinePayments =>
      cases ch with
      | fail | unlock => trivial
      | _ => exact h.elim
    | _ => exact hcloses.elim
  | zarinpalCallback =>
    obtain ⟨-, p, payment, order, -, hasks⟩ := h
    cases ch with
    | captureAgain | fail | failLate | capture => trivial
    | _ => exact hasks.elim
  | stripeWebhook =>
    obtain ⟨-, event, -, -, hasks⟩ := h
    cases ch with
    | captureAgain | capture | cancelPayment | fail | failLate | refund => trivial
    | _ => exact hasks.elim

section Steps

variable {step : Step} {db : Database}

theorem oneSession_closes (hcloses : step.operation.ClosesSessions) (h : db.shop.books.OneSession o) :
    (step.exec db).db.shop.books.OneSession o :=
  (step.follows db).inv h fun _ _ hb hguard hasks =>
    oneSession_apply hb hguard (hasks.leavesSessions hcloses)

theorem oneSession_opens {call : ShopCall} (hoperation : step.operation = .call call)
    (hrolls : (call.run step.env).RollsBack) (h : db.shop.books.OneSession o)
    (hyields : (call.run step.env).Yields Shop.books db.shop.books fun _ b' => b'.OneSession o) :
    (step.exec db).db.shop.books.OneSession o := by
  rcases Step.ends hoperation (ends_steps (w := ⟨db.shop, []⟩) hrolls
    (hyields.mono fun _ _ => .inr)) with hsame | hone
  · rw [hsame]
    exact h
  · exact hone

theorem oneSession_exec (htraffic : step.operation.IsSessionTraffic)
    (hgateway : step.env.NamesAuthority) (h : db.shop.books.OneSession o) :
    (step.exec db).db.shop.books.OneSession o := by
  have hcloses (hcloses : step.operation.ClosesSessions) := oneSession_closes hcloses h
  cases hoperation : step.operation with
  | call call =>
    rw [hoperation] at htraffic hcloses
    cases call with
    | initiateOnline o₁ =>
      exact oneSession_opens hoperation ((Tx.rollsBack_atomic _).map _) h
        (PaymentService.initiateOnline_oneSession hgateway h).void
    | initiatePayment o₁ seen =>
      refine oneSession_opens hoperation (Tx.RollsBack.map ?_ _) h (Tx.Yields.void ?_)
      · intro w
        exact Tx.wp_ite.2 ⟨fun _ => Tx.rollsBack_atomic _ w, fun _ => Tx.rollsBack_atomic _ w⟩
      · refine .ite (fun _ => PaymentService.initiateCod_yields.mono ?_) fun _ =>
          PaymentService.initiateOnline_oneSession hgateway h
        rintro _ _ ⟨payment, -, -, rfl | ⟨ch, hmem, hguard, rfl⟩⟩
        · exact h
        · obtain rfl := List.mem_singleton.1 hmem
          exact oneSession_apply h hguard trivial
    | cleanupStaleOnlinePayment | cleanupStaleOnlinePayments => exact hcloses trivial
    | _ => exact htraffic.elim
  | zarinpalCallback | stripeWebhook =>
    rw [hoperation] at hcloses
    exact hcloses trivial

end Steps

/-- Whatever customers, callbacks and cleanups do, in every state that a run comes to the order has
    one session at most, which fits it; as long as it is open, a customer who asks again is sent to
    it and the gateway is not asked; and a request that fails leaves nothing behind. -/
theorem oneSession_of_run (o : OrderId) (db : Database) (run : List Step)
    (hstart : db.shop.books.OneSession o)
    (htraffic : ∀ step ∈ run, step.operation.IsSessionTraffic)
    (hgateway : ∀ step ∈ run, step.env.NamesAuthority) :
    (after db run).shop.books.OneSession o ∧
      (∀ (env : Env) (order : Order) (p : PaymentId) (payment : Payment) (trace : List Observation),
        env.UsesZarinpal → (after db run).shop.orders.rows o = some order →
          ¬order.paymentStatus.isSuccessful → (after db run).shop.payments.rows p = some payment →
            payment.order = o → payment.IsSession →
              PaymentService.initiateOnline env o ⟨(after db run).shop, trace⟩ =
                (.ok (p, payment), ⟨(after db run).shop, trace⟩)) ∧
      ∀ (env : Env) (trace : List Observation),
        env.settings.defaultPaymentProvider = "zarinpal" → env.GatewayFails →
          (PaymentService.initiateOnline env o ⟨(after db run).shop, trace⟩).2 =
            ⟨(after db run).shop, trace⟩ := by
  have hone : (after db run).shop.books.OneSession o := by
    induction run generalizing db with
    | nil => exact hstart
    | cons step rest ih =>
      refine ih (step.exec db).db ?_ (fun step' h => htraffic step' (List.mem_cons_of_mem step h))
        fun step' h => hgateway step' (List.mem_cons_of_mem step h)
      exact oneSession_exec (htraffic step List.mem_cons_self) (hgateway step List.mem_cons_self)
        hstart
  refine ⟨hone, ?_, ?_⟩
  · intro env order p payment trace henv hrowo hunpaid hrow horder hsession
    exact PaymentService.initiateOnline_reuses henv hone hrowo hunpaid hrow horder hsession
  · intro env trace hprovider hfails
    exact PaymentService.initiateOnline_fails hprovider hfails o _

theorem cornerEnv_namesAuthority : cornerEnv.NamesAuthority := by
  rintro request authority hreply
  obtain rfl : s!"A{request.paymentId}" = authority := Except.ok.inj hreply
  intro hempty
  simp only [String.append_eq_empty_iff] at hempty
  exact absurd hempty.1 (by decide)

/-- The one payment of a shop is the one session. -/
theorem oneSession_of_only {shop : Shop} (payment : Payment) (order : Order)
    (hnext : shop.payments.next = 1) (hrow : shop.payments.rows 0 = some payment)
    (hrowo : shop.orders.rows o = some order) (hfits : payment.FitsOrder order) :
    shop.books.OneSession o := by
  have honly {p : PaymentId} {payment' : Payment} (h : shop.payments.rows p = some payment') :
      p = 0 := Nat.lt_one_iff.1 (hnext ▸ Table.lt_next h)
  constructor
  · rintro p ⟨_, hp, -⟩ q ⟨_, hq, -⟩
    exact (honly hp).trans (honly hq).symm
  · intro p payment' hp _ _
    obtain rfl := honly hp
    obtain rfl := Option.some.inj (hrow.symm.trans hp)
    exact ⟨order, hrowo, hfits⟩

/-- A customer who has asked once more asks again. -/
theorem oneSession_of_run_corner :
    PaymentService.initiateOnline cornerEnv 0
        ⟨(after (after cornerShop [cornerCheckout]) [cornerCall (.initiateOnline 0)]).shop, []⟩ =
      (.ok (0, cornerPayment),
        ⟨(after (after cornerShop [cornerCheckout]) [cornerCall (.initiateOnline 0)]).shop, []⟩) :=
  have hstart : (after cornerShop [cornerCheckout]).shop.books.OneSession 0 :=
    oneSession_of_only cornerPayment cornerOrder (by decide +kernel)
      (by decide +kernel) (by decide +kernel)
      ⟨by decide +kernel, by decide +kernel, by decide +kernel, by decide +kernel⟩
  (oneSession_of_run 0 (after cornerShop [cornerCheckout]) [cornerCall (.initiateOnline 0)]
    hstart (fun step h => by rw [List.mem_singleton.1 h]; trivial)
    (fun step h => by rw [List.mem_singleton.1 h]; exact cornerEnv_namesAuthority)).2.1
    cornerEnv cornerOrder 0 cornerPayment [] ⟨by decide, by decide, by decide⟩
    (by decide +kernel) (by decide) (by decide +kernel) rfl ⟨rfl, rfl⟩

end Crumbs
