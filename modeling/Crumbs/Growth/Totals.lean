import Crumbs.Growth.Checkout
import Crumbs.Orders.Outcomes

/-!
# What an Order Costs

The total of an order beside the parts that are recorded with it, and beside the amount that the
gateways are asked to collect. The coupon and the promotion rules are capped together when the
total is worked out, but recorded as they were before; Zarinpal is asked for the total in whole
rials, Stripe for the order lines.

## Contents

- `applyToOrder_row`: the order with its discounts
- `reconciles_iff`: when the recorded parts add up to the total
- `AsksOnly`: a computation that asks a gateway one thing
- `collects_iff`: when the gateways are asked for the amount of the payment
-/

namespace Crumbs

open Crumbs.Db

/-! ## The order with its discounts -/

/-- The order after `Crumbs.applyToOrder`. -/
def Order.discounted (order : Order) (growth : GrowthCheckoutContext) : Order :=
  { order with
    discountAmount := growth.couponDiscount
    promotionDiscountAmount := growth.promotionDiscount
    total := max 0 (order.subtotal + order.deliveryFee - growth.totalDiscount) }

theorem applyToOrder_discounts {w : World Shop (List Observation)} {o : OrderId} {order : Order}
    (growth : GrowthCheckoutContext) (hrow : w.db.orders.rows o = some order) :
    (Crumbs.applyToOrder o growth).Ensures
      (fun _ w' => w'.db.orders.rows o = some (order.discounted growth)) w := by
  refine Tx.Ensures.atomic (Tx.ensures_check fun _ => Tx.wp_bind.2 ?_)
  refine (Tx.wp_iff_of_ok (lockOrder_of_some hrow)).2 (Tx.wp_modifyDb.2 ?_)
  change (w.db.updateOrder o _).orders.rows o = _
  rw [Shop.updateOrder, Table.rows_modify_self, hrow]
  rfl

/-- An order of 2000 toman, before its discounts. -/
def saleOrder : Order where
  orderNumber := "CR-1"
  user := none
  email := ""
  status := .pendingPayment
  paymentStatus := .pendingPayment
  paymentMethod := .online
  deliveryType := .pickup
  deliveryFee := 0
  subtotal := 200000
  total := 200000
  createdAt := 0

namespace GrowthCheckoutFacade

/-- Writes to the tables of the growth app leave the shop alone. -/
private theorem modifyGrowth_leaves (f : Growth → Growth) :
    (GrowthTx.modifyGrowth f).Steps (Tx.Leaves GrowthDatabase.shop) := fun _ => rfl

private theorem attachPendingReferral_leaves (user : Option UserId) (id : ReferralCodeId)
    (referralCode : ReferralCode) :
    (ReferralService.attachPendingReferral user id referralCode).Steps
      (Tx.Leaves GrowthDatabase.shop) := by
  intro w
  refine Tx.StepsAt.atomic ?_
  cases user with
  | none => exact Tx.steps_pure none w
  | some user =>
    refine (Tx.steps_getDb w).bind fun db w => .ite (fun _ => Tx.steps_pure none w) fun _ => ?_
    exact (modifyGrowth_leaves _ w).bind fun _ => Tx.steps_pure _

private theorem lockOrder_leaves (o : OrderId) :
    (GrowthTx.onShop (lockOrder o)).Steps (Tx.Leaves GrowthDatabase.shop) := fun w =>
  Tx.wp_zoom.2 ((wp_lockOrder (w := ⟨w.db.shop, w.ext⟩)).2 ⟨fun _ _ => rfl, fun _ => rfl⟩)

/-- The facade writes the discounts into the order as the shop's part of it does. -/
theorem applyToOrder_row {w : World GrowthDatabase (List Observation)} {o : OrderId}
    {order : Order} (ctx : Context) (user : Option UserId)
    (hrow : w.db.shop.orders.rows o = some order) :
    (applyToOrder o ctx user).Ensures (fun _ w' => w'.db.shop.orders.rows o =
      some (order.discounted ctx.toGrowthCheckoutContext)) w := by
  refine Tx.Ensures.atomic (Tx.Ensures.bind (P := fun _ w' => w'.db.shop.orders.rows o =
    some (order.discounted ctx.toGrowthCheckoutContext)) ?_ fun _ w₁ h₁ => ?_)
  · exact Tx.wp_zoom.2 (applyToOrder_discounts ctx.toGrowthCheckoutContext
      (w := ⟨w.db.shop, w.ext⟩) hrow)
  · refine Tx.wp_mono (Q := fun _ w' => Tx.Leaves GrowthDatabase.shop w₁ w')
      (E := fun _ w' => Tx.Leaves GrowthDatabase.shop w₁ w')
      (Tx.StepsAt.bind (modifyGrowth_leaves _ w₁) fun _ w₂ => ?_) (fun _ w' h => ?_)
      fun _ _ _ => trivial
    · refine (Tx.steps_getDb w₂).bind fun db w₃ => Tx.StepsAt.bind (.when fun _ => .ifSome
        fun e _ => .void ((lockOrder_leaves o w₃).bind fun order =>
          attachPendingReferral_leaves order.user e.1 e.2)) fun _ => modifyGrowth_leaves _
    · rw [show w'.db.shop = w₁.db.shop from h, h₁]

end GrowthCheckoutFacade

/-! ## The parts and the total -/

/-- The parts recorded with the order add up to its total. -/
def Order.Reconciles (order : Order) : Prop :=
  order.total = order.subtotal + order.deliveryFee - order.discountAmount -
    order.promotionDiscountAmount

instance (order : Order) : Decidable order.Reconciles := inferInstanceAs (Decidable (_ = _))

/-- A total that is capped twice, and its parts. -/
private theorem capped_total (s f c p : ℤ) :
    0 ≤ max 0 (s + f - min s (c + p)) ∧
      (max 0 (s + f - min s (c + p)) = s + f - c - p ↔ c + p ≤ min s (s + f)) := by omega

/-- The total is never negative, and the parts explain it unless more is taken off than there
    is. -/
theorem Order.discounted_reconciles_iff (order : Order) {growth : GrowthCheckoutContext}
    (htotal : growth.totalDiscount =
      min order.subtotal (growth.couponDiscount + growth.promotionDiscount)) :
    0 ≤ (order.discounted growth).total ∧ ((order.discounted growth).Reconciles ↔
      growth.couponDiscount + growth.promotionDiscount ≤
        min order.subtotal (order.subtotal + order.deliveryFee)) := by
  simp only [Order.Reconciles, Order.discounted, htotal]
  exact capped_total _ _ _ _

namespace GrowthCheckoutFacade

variable {env : Env} {db : GrowthDatabase} {items : List CartItem} {user : Option UserId}
  {codes : Codes} {subtotal : Money} {ctx : Context}

/-- The coupon of a checkout and the promotion rules together take off no more than there is. -/
def DiscountsFit (env : Env) (db : GrowthDatabase) (items : List CartItem) (user : Option UserId)
    (codes : Codes) (subtotal deliveryFee : Money) : Prop :=
  ∀ coupon promo,
    CouponService.validate env db (firstCode codes.couponCode codes.cartCouponCode) subtotal user =
        .ok coupon →
      PromotionRuleService.evaluate env db items user subtotal = .ok promo →
        coupon.discountAmount + promo.totalDiscount ≤ min subtotal (subtotal + deliveryFee)

/-- A sequence that returns has returned in both parts. -/
theorem bind_eq_ok {ε α β : Type} {x : Except ε α} {f : α → Except ε β} {b : β}
    (h : x >>= f = .ok b) : ∃ a, x = .ok a ∧ f a = .ok b := by
  cases x with
  | error e => exact nomatch h
  | ok a => exact ⟨a, rfl, h⟩

/-- What `prepare` answers. -/
theorem prepare_ok (h : prepare env db items user codes subtotal = .ok ctx) :
    ∃ coupon promo,
      CouponService.validate env db (firstCode codes.couponCode codes.cartCouponCode) subtotal
          user = .ok coupon ∧
        PromotionRuleService.evaluate env db items user subtotal = .ok promo ∧
          ctx.couponDiscount = coupon.discountAmount ∧
            ctx.promotionDiscount = promo.totalDiscount ∧
              ctx.totalDiscount = min subtotal (coupon.discountAmount + promo.totalDiscount) := by
  obtain ⟨coupon, hcoupon, h⟩ := bind_eq_ok h
  obtain ⟨promo, hpromo, h⟩ := bind_eq_ok h
  obtain ⟨_, -, h⟩ := bind_eq_ok h
  obtain rfl := Except.ok.inj h
  exact ⟨coupon, promo, hcoupon, hpromo, rfl, rfl, rfl⟩

theorem discountsFit_iff {deliveryFee : Money}
    (h : prepare env db items user codes subtotal = .ok ctx) :
    DiscountsFit env db items user codes subtotal deliveryFee ↔
      ctx.couponDiscount + ctx.promotionDiscount ≤ min subtotal (subtotal + deliveryFee) := by
  obtain ⟨coupon, promo, hcoupon, hpromo, hc, hp, -⟩ := prepare_ok h
  rw [hc, hp]
  refine ⟨fun hfit => hfit coupon promo hcoupon hpromo, fun hle coupon' promo' hc' hp' => ?_⟩
  obtain rfl := Except.ok.inj (hcoupon.symm.trans hc')
  obtain rfl := Except.ok.inj (hpromo.symm.trans hp')
  exact hle

/-- An order after `prepare` and `applyToOrder`: its total is not negative, and the recorded parts
    add up to it exactly if the discounts together are not more than there is. -/
theorem reconciles_iff {w w' : World GrowthDatabase (List Observation)} {o : OrderId}
    {order : Order} {applicant : Option UserId} (hrow : w.db.shop.orders.rows o = some order)
    (hprepare : prepare env db items user codes order.subtotal = .ok ctx)
    (happly : applyToOrder o ctx applicant w = (.ok (), w')) :
    ∃ order', w'.db.shop.orders.rows o = some order' ∧ 0 ≤ order'.total ∧
      (order'.Reconciles ↔
        DiscountsFit env db items user codes order.subtotal order.deliveryFee) := by
  have hrow' := (applyToOrder_row ctx applicant hrow).of_ok happly
  obtain ⟨coupon, promo, -, -, hc, hp, htotal⟩ := prepare_ok hprepare
  have hdiscounted := Order.discounted_reconciles_iff order
    (show ctx.totalDiscount = _ by rw [htotal, hc, hp])
  exact ⟨_, hrow', hdiscounted.1, hdiscounted.2.trans (discountsFit_iff hprepare).symm⟩

/-! ### A coupon and a rule at once -/

/-- A coupon and a promotion rule, of `percent` each. -/
def sale (percent : ℕ) : GrowthDatabase where
  shop :=
    { stock := { products := fun _ => ⟨"Loaf", 200000, .available⟩ }
      orders := Table.empty.insert saleOrder }
  growth :=
    { coupons := Table.empty.insert
        { code := "SALE", discountType := .percentage, discountValue := percent * 100 }
      promotionRules := Table.empty.insert
        { name := "Every day", ruleType := .weekendDiscount,
          config := { percent := some percent, weekdays := some [0, 1, 2, 3, 4, 5, 6] } } }

/-- What `prepare` answers to the coupon. -/
def saleContext (percent : ℕ) (totalDiscount : Money) : Context where
  couponDiscount := percent * 2000
  promotionDiscount := percent * 2000
  totalDiscount
  coupon := some 0
  promotionLabels := ["Every day"]

/-- Of 30 percent each: the parts add up. -/
theorem reconciles_iff_sale : ∃ order',
    (applyToOrder 0 (saleContext 30 120000) none ⟨sale 30, []⟩).2.db.shop.orders.rows 0 =
        some order' ∧ 0 ≤ order'.total ∧ order'.Reconciles := by
  have hprepare : prepare {} (sale 30) [] none { couponCode := "SALE" } 200000 =
      .ok (saleContext 30 120000) := by decide +kernel
  have happly : (applyToOrder 0 (saleContext 30 120000) none ⟨sale 30, []⟩).1 = .ok () := by
    decide +kernel
  obtain ⟨order', hrow, htotal, hiff⟩ := reconciles_iff (w := ⟨sale 30, []⟩)
    (show (sale 30).shop.orders.rows 0 = some saleOrder from rfl) hprepare (Tx.run_of_fst happly)
  exact ⟨order', hrow, htotal, hiff.2 ((discountsFit_iff hprepare).2 (by decide))⟩

/-- Of 60 percent each: the order is free, and the parts say that it costs less than nothing. -/
theorem not_forall_reconciles :
    ¬∀ (env : Env) (db : GrowthDatabase) (items : List CartItem) (user : Option UserId)
      (codes : Codes) (ctx : Context) (w w' : World GrowthDatabase (List Observation))
      (o : OrderId) (order : Order) (applicant : Option UserId),
      w.db.shop.orders.rows o = some order →
      prepare env db items user codes order.subtotal = .ok ctx →
      applyToOrder o ctx applicant w = (.ok (), w') →
      ∃ order', w'.db.shop.orders.rows o = some order' ∧ 0 ≤ order'.total ∧
        order'.Reconciles := by
  intro h
  have hprepare : prepare {} (sale 60) [] none { couponCode := "SALE" } 200000 =
      .ok (saleContext 60 200000) := by decide +kernel
  have happly : (applyToOrder 0 (saleContext 60 200000) none ⟨sale 60, []⟩).1 = .ok () := by
    decide +kernel
  have hrun : applyToOrder 0 (saleContext 60 200000) none ⟨sale 60, []⟩ = (.ok (), _) :=
    Tx.run_of_fst happly
  obtain ⟨order', hrow, -, hreconciles⟩ := h {} (sale 60) [] none { couponCode := "SALE" }
    (saleContext 60 200000) ⟨sale 60, []⟩ _ 0 saleOrder none rfl hprepare hrun
  have hrow' := (applyToOrder_row (w := ⟨sale 60, []⟩) (saleContext 60 200000) none
    (show (sale 60).shop.orders.rows 0 = some saleOrder from rfl)).of_ok hrun
  obtain rfl := Option.some.inj (hrow'.symm.trans hrow)
  exact absurd hreconciles (by decide)

end GrowthCheckoutFacade

/-! ## What the gateways are asked for -/

/-- A computation that uses a service outside for one request, `r`: the reply to it decides the
    outcome, and not every service leads to the same one. -/
structure AsksOnly {ρ σ β : Type} (x : (ρ → σ) → β) (r : ρ) : Prop where
  decided : ∃ answer : σ → β, ∀ service, x service = answer (service r)
  needed : ∃ service service', x service ≠ x service'

/-- There is only one such request. -/
theorem AsksOnly.eq {ρ σ β : Type} {x : (ρ → σ) → β} {r r' : ρ} (h : AsksOnly x r)
    (h' : ∃ answer : σ → β, ∀ service, x service = answer (service r')) : r = r' := by
  classical
  obtain ⟨answer, hanswer⟩ := h.decided
  obtain ⟨answer', hanswer'⟩ := h'
  obtain ⟨service, service', hne⟩ := h.needed
  by_contra hr
  -- a service that is like the one at `r`, and like the other at `r'`
  let mixed := fun q => if q = r then service q else service' q
  have hleft : x mixed = x service := by
    rw [hanswer mixed, hanswer service, show mixed r = service r from if_pos rfl]
  have hright : x mixed = x service' := by
    rw [hanswer' mixed, hanswer' service', show mixed r' = service' r' from if_neg (Ne.symm hr)]
  exact hne (hleft.symm.trans hright)

/-- A computation that never gets to ask does not need the service. -/
theorem AsksOnly.not_const {ρ σ β : Type} {x : (ρ → σ) → β} {r : ρ} (h : AsksOnly x r) (b : β) :
    ¬∀ service, x service = b := fun hconst => by
  obtain ⟨service, service', hne⟩ := h.needed
  exact hne ((hconst service).trans (hconst service').symm)

/-- The surroundings with another Zarinpal. -/
def Env.withZarinpal (env : Env) (zarinpalRequest : ZarinpalRequest → RequestReply) : Env :=
  { env with gateways := { env.gateways with zarinpalRequest } }

/-- The surroundings with another Stripe. -/
def Env.withStripe (env : Env)
    (stripeCreateSession : StripeSessionRequest → Except String CheckoutSessionResult) : Env :=
  { env with gateways := { env.gateways with stripeCreateSession } }

/-- What Zarinpal is asked to collect, in hundredths; it is asked in whole rials. -/
def ZarinpalRequest.collects (r : ZarinpalRequest) : Money := r.amount * 100

/-- What Stripe is asked to collect, in hundredths. -/
def StripeSessionRequest.collects (r : StripeSessionRequest) : Money :=
  (r.lineItems.map fun item => item.unitAmount * (item.quantity : ℤ)).sum

/-- The prices of the lines of an order. -/
def linesTotal (items : List OrderItem) : Money :=
  (items.map fun item => item.unitPrice * (item.quantity : ℤ)).sum

section Gateways

variable {env : Env} {order : Order} {payment : PaymentId × Payment}
  {w : World Shop (List Observation)}

theorem ZarinpalPaymentProvider.validateOrderPaymentAmount_of_ok {amount : ℤ}
    {w' : World Shop (List Observation)}
    (h : validateOrderPaymentAmount order payment.2 w = (.ok amount, w')) :
    amount = order.total.toInt := by
  have hvalid : (validateOrderPaymentAmount order payment.2).Ensures
      (fun amount _ => amount = order.total.toInt) w :=
    Tx.ensures_check fun _ => Tx.ensures_check fun _ => Tx.ensures_check fun _ => rfl
  exact hvalid.of_ok h

/-- The request of `requestPayment`. -/
def ZarinpalPaymentProvider.sessionRequest (env : Env) (order : Order) (p : PaymentId)
    (amountRials : ℤ) : ZarinpalRequest where
  merchantId := env.settings.zarinpalMerchantId
  amount := amountRials
  callbackUrl := if env.settings.zarinpalCallbackUrl ≠ "" then env.settings.zarinpalCallbackUrl
    else env.settings.paymentSuccessUrl
  description := s!"CRUMBS order {order.orderNumber}"
  orderNumber := order.orderNumber
  paymentId := p

/-- The request of `StripePaymentProvider.createCheckoutSession`. -/
def StripePaymentProvider.sessionRequest (env : Env) (order : Order)
    (payment : PaymentId × Payment) (items : List OrderItem) : StripeSessionRequest where
  lineItems := lineItems items payment.2.currency
  successUrl := env.settings.paymentSuccessUrl
  cancelUrl := env.settings.paymentCancelUrl
  customerEmail := order.email
  clientReferenceId := order.orderNumber
  paymentId := payment.1

theorem ZarinpalPaymentProvider.createCheckoutSession_decided {amount : ℤ}
    {w' : World Shop (List Observation)}
    (h : validateOrderPaymentAmount order payment.2 w = (.ok amount, w')) :
    ∃ answer : RequestReply → _, ∀ service,
      createCheckoutSession (env.withZarinpal service) order payment w =
        answer (service (sessionRequest env order payment.1 amount)) :=
  ⟨fun reply => requestPayment (env.withZarinpal fun _ => reply) order payment amount w',
    fun _ => (Tx.bind_of_ok h).trans rfl⟩

/-- A call that passes the checks asks Zarinpal once. -/
theorem ZarinpalPaymentProvider.asksOnly {amount : ℤ} {w' : World Shop (List Observation)}
    (h : validateOrderPaymentAmount order payment.2 w = (.ok amount, w'))
    (hcallback : (sessionRequest env order payment.1 amount).callbackUrl ≠ "") :
    AsksOnly (fun service => createCheckoutSession (env.withZarinpal service) order payment w)
      (sessionRequest env order payment.1 amount) where
  decided := createCheckoutSession_decided h
  needed := by
    refine ⟨fun _ => .malformed "a", fun _ => .malformed "b", fun heq => ?_⟩
    have hrun (text : String) :
        (createCheckoutSession (env.withZarinpal fun _ => .malformed text) order payment w).1 =
          .error (.builtinError text) := by
      have hrequest : requestPayment (env.withZarinpal fun _ => .malformed text) order payment
          amount w' = (.error (.builtinError text), w') :=
        (Tx.bind_of_ok (Tx.when_of_not hcallback)).trans rfl
      exact congrArg Prod.fst ((Tx.bind_of_ok h).trans hrequest)
    have hsame := (hrun "a").symm.trans ((congrArg Prod.fst heq).trans (hrun "b"))
    exact absurd (Exn.builtinError.inj (Except.error.inj hsame)) (by decide)

/-- Zarinpal is asked for the total of the order, without what is behind the point. -/
theorem ZarinpalPaymentProvider.collects_of_asks {r : ZarinpalRequest}
    (h : AsksOnly (fun service => createCheckoutSession (env.withZarinpal service) order payment w)
      r) : r.collects = order.total.toInt * 100 := by
  rcases hvalid : validateOrderPaymentAmount order payment.2 w with ⟨e | amount, w₁⟩
  · exact absurd (fun service => Tx.bind_of_error hvalid) (h.not_const (.error e, w₁))
  · rw [h.eq (createCheckoutSession_decided hvalid), ZarinpalRequest.collects, sessionRequest,
      validateOrderPaymentAmount_of_ok hvalid]

theorem StripePaymentProvider.createCheckoutSession_decided
    (henabled : ¬env.settings.stripeEnabled = false) :
    ∃ answer : Except String CheckoutSessionResult → _, ∀ service,
      createCheckoutSession (env.withStripe service) order payment w =
        answer (service (sessionRequest env order payment (w.db.orderItems payment.2.order))) := by
  refine ⟨fun reply => createCheckoutSession (env.withStripe fun _ => reply) order payment w,
    fun service => ?_⟩
  refine (Tx.bind_of_ok (Tx.when_of_not henabled)).trans (Eq.symm ?_)
  exact (Tx.bind_of_ok (Tx.when_of_not henabled)).trans rfl

/-- Stripe is asked once, if it is switched on. -/
theorem StripePaymentProvider.asksOnly (henabled : ¬env.settings.stripeEnabled = false) :
    AsksOnly (fun service => createCheckoutSession (env.withStripe service) order payment w)
      (sessionRequest env order payment (w.db.orderItems payment.2.order)) where
  decided := createCheckoutSession_decided henabled
  needed := by
    refine ⟨fun _ => .error "a", fun _ => .error "b", fun heq => ?_⟩
    have hrun (text : String) :
        (createCheckoutSession (env.withStripe fun _ => .error text) order payment w).1 =
          .error (.paymentProviderError text) :=
      congrArg Prod.fst ((Tx.bind_of_ok (Tx.when_of_not henabled)).trans rfl)
    have hsame := (hrun "a").symm.trans ((congrArg Prod.fst heq).trans (hrun "b"))
    exact absurd (Exn.paymentProviderError.inj (Except.error.inj hsame)) (by decide)

/-- Stripe is asked for the prices of the lines. -/
theorem StripePaymentProvider.collects_of_asks {r : StripeSessionRequest}
    (h : AsksOnly (fun service => createCheckoutSession (env.withStripe service) order payment w)
      r) : r.collects = linesTotal (w.db.orderItems payment.2.order) := by
  have henabled : ¬env.settings.stripeEnabled = false := fun hdisabled =>
    h.not_const _ fun service => Tx.bind_of_error (Tx.ite_of hdisabled)
  rw [h.eq (createCheckoutSession_decided henabled), StripeSessionRequest.collects, linesTotal,
    sessionRequest, lineItems, List.map_map]
  refine congrArg List.sum (List.map_congr_left fun item _ => ?_)
  change (item.unitPrice * 100).tdiv 100 * (item.quantity : ℤ) = _
  rw [Int.mul_tdiv_cancel _ (by decide)]

/-- The totals of an order as a checkout leaves them: the subtotal is that of its lines, and
    `discount` has been taken off. -/
structure Order.IsReckoned (order : Order) (items : List OrderItem) (discount : Money) : Prop where
  subtotal : order.subtotal = linesTotal items
  total : order.total = max 0 (order.subtotal + order.deliveryFee - discount)

/-- A price that is not negative is what is left after a fee and a discount. -/
private theorem charged_eq_iff (s f d : ℤ) :
    s = max 0 (s + f - d) ↔ 0 ≤ s ∧ (f = d ∨ s = 0 ∧ f ≤ d) := by omega

/-- A payment of an order that a checkout has left with its totals: Zarinpal is asked for the
    amount of the payment exactly if that is a number of whole rials, and Stripe exactly if the
    discount that was taken off is the delivery fee, or the order was free anyway. -/
theorem collects_iff {discount : Money}
    (hreckoned : order.IsReckoned (w.db.orderItems payment.2.order) discount)
    (hamount : payment.2.amount = order.total) :
    (∀ r, AsksOnly (fun service => ZarinpalPaymentProvider.createCheckoutSession
        (env.withZarinpal service) order payment w) r →
      (r.collects = payment.2.amount ↔ 100 ∣ order.total)) ∧
    ∀ r, AsksOnly (fun service => StripePaymentProvider.createCheckoutSession
        (env.withStripe service) order payment w) r →
      (r.collects = payment.2.amount ↔ 0 ≤ order.subtotal ∧
        (order.deliveryFee = discount ∨ order.subtotal = 0 ∧ order.deliveryFee ≤ discount)) := by
  rw [hamount]
  constructor
  · intro r hasks
    rw [ZarinpalPaymentProvider.collects_of_asks hasks, Money.toInt]
    exact ⟨fun h => ⟨order.total.tdiv 100, by rw [mul_comm]; exact h.symm⟩, Int.tdiv_mul_cancel⟩
  · intro r hasks
    rw [StripePaymentProvider.collects_of_asks hasks, ← hreckoned.subtotal, hreckoned.total]
    exact charged_eq_iff _ _ _

end Gateways

/-! ### One loaf at Stripe -/

/-- An order of one loaf. -/
def loafShop : Shop where
  stock := { products := fun _ => ⟨"Loaf", 200000, .available⟩ }
  orderItems := fun _ =>
    [{ product := 0, productName := "Loaf", unitPrice := 200000, quantity := 1,
       lineTotal := 200000, fulfillmentDate := none, quantity_pos := Nat.one_pos }]

/-- The payment that is opened for it. -/
def loafPayment (order : Order) : PaymentId × Payment :=
  (0, { order := 0, provider := .stripe, status := .pending, amount := order.total,
        currency := "irr", createdAt := 0 })

/-- Stripe is switched on. -/
def loafEnv : Env where
  settings := { stripeEnabled := true }

/-- What Stripe is asked. -/
def loafRequest (order : Order) : StripeSessionRequest :=
  StripePaymentProvider.sessionRequest loafEnv order (loafPayment order) (loafShop.orderItems 0)

theorem asksOnly_loafRequest (order : Order) :
    AsksOnly (fun service => StripePaymentProvider.createCheckoutSession
      (loafEnv.withStripe service) order (loafPayment order) ⟨loafShop, []⟩) (loafRequest order) :=
  StripePaymentProvider.asksOnly (by decide)

/-- Without a discount Stripe collects what is recorded. -/
theorem collects_iff_loaf : (loafRequest saleOrder).collects = (loafPayment saleOrder).2.amount :=
  have hreckoned : saleOrder.IsReckoned (loafShop.orderItems (loafPayment saleOrder).2.order) 0 :=
    ⟨rfl, rfl⟩
  have hamount : (loafPayment saleOrder).2.amount = saleOrder.total := rfl
  ((collects_iff (w := ⟨loafShop, []⟩) hreckoned hamount).2 _ (asksOnly_loafRequest saleOrder)).2
    (by decide)

/-- With a discount Stripe collects the price before it. -/
theorem not_forall_collects :
    ¬∀ (env : Env) (order : Order) (payment : PaymentId × Payment)
      (w : World Shop (List Observation)) (discount : Money),
      order.IsReckoned (w.db.orderItems payment.2.order) discount →
      payment.2.amount = order.total →
      (∀ r, AsksOnly (fun service => ZarinpalPaymentProvider.createCheckoutSession
          (env.withZarinpal service) order payment w) r → r.collects = payment.2.amount) ∧
      ∀ r, AsksOnly (fun service => StripePaymentProvider.createCheckoutSession
          (env.withStripe service) order payment w) r → r.collects = payment.2.amount := by
  intro h
  let order := saleOrder.discounted { couponDiscount := 60000, totalDiscount := 60000 }
  have hcollects := (h loafEnv order (loafPayment order) ⟨loafShop, []⟩ 60000 ⟨rfl, rfl⟩ rfl).2
    (loafRequest order) (asksOnly_loafRequest order)
  exact absurd hcollects (by decide +kernel)

end Crumbs
