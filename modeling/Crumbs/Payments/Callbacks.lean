import Crumbs.Orders.Outcomes
import Crumbs.Payments.Deliveries

/-!
# What a Zarinpal Callback Comes To

A callback names a payment by its authority and says how the visit at the gateway ended. It counts
only if it reaches a payment: the authority is known, and no callback for it has been processed
before. What happens then depends on the payment, on its order and on the gateway.

## Contents

- `CallbackRequest.Reaches`: the callback gets as far as the payment
- `zarinpalCallback_settled`, `zarinpalCallback_raises`, `zarinpalCallback_misses`: the view
- `Fits`, `Confirms`: when the gateway is asked, and when it confirms the capture
- `settleCallback_captured`, `settleCallback_tooLate`, …: the cases of the handler
-/

namespace Crumbs

open Crumbs.Db

/-! ## Reaching a payment -/

namespace CallbackRequest

/-- The data of the event that the view makes of the request. -/
def data (request : CallbackRequest) (p : Option PaymentId) :
    ZarinpalPaymentProvider.CallbackData where
  authority := request.theAuthority
  status := (truthy (some request.theStatus)).or none
  paymentId := p

/-- The event that the view makes of the request. -/
def event (request : CallbackRequest) (p : Option PaymentId) :
    VerifiedWebhookEvent ZarinpalPaymentProvider.CallbackData where
  eventId := ZarinpalPaymentProvider.eventId request.theAuthority
  eventType := "payment.callback"
  dataObject := request.data p

/-- The payload that the view makes of the request. -/
def payload (request : CallbackRequest) (p : Option PaymentId) :
    ZarinpalPaymentProvider.CallbackPayload :=
  .object (some request.theAuthority) none (some request.theStatus) none p

/-- The payment that the view finds. -/
def payment (request : CallbackRequest) (shop : Shop) : Option (PaymentId × Payment) :=
  newest (shop.paymentsWhere fun p =>
    p.provider = .zarinpal ∧ p.providerCheckoutSessionId = request.theAuthority)

/-- The callback claims that the money was captured. -/
def SaysOk (request : CallbackRequest) : Prop := upper request.theStatus = "OK"

instance (request : CallbackRequest) : Decidable request.SaysOk :=
  inferInstanceAs (Decidable (_ = _))

/-- The callback gets as far as a payment and its order. -/
structure Reaches (request : CallbackRequest) (env : Env) (db : Database) (p : PaymentId)
    (payment : Payment) (order : Order) : Prop where
  authority : request.theAuthority ≠ ""
  configured : env.settings.zarinpalMerchantId ≠ ""
  unprocessed : ¬db.isProcessed (ZarinpalPaymentProvider.eventId request.theAuthority)
  found : request.payment db.shop = some (p, payment)
  row : db.shop.orders.rows payment.order = some order

variable {request : CallbackRequest} {shop : Shop} {p : PaymentId} {payment : Payment}

theorem payment_eq_some (h : request.payment shop = some (p, payment)) :
    shop.payments.rows p = some payment ∧ payment.provider = .zarinpal ∧
      payment.providerCheckoutSessionId = request.theAuthority := by
  obtain ⟨hrow, hmatches⟩ := newest_paymentsWhere h
  exact ⟨hrow, of_decide_eq_true hmatches⟩

theorem payment_eq_none (h : request.payment shop = none) : (shop.paymentsWhere fun p =>
    p.provider = .zarinpal ∧ p.providerCheckoutSessionId = request.theAuthority) = [] := by
  rw [payment] at h
  generalize (shop.paymentsWhere _) = payments at h ⊢
  cases payments with
  | nil => rfl
  | cons x rest =>
    obtain ⟨e, he⟩ := newest_isSome x rest
    exact nomatch h.symm.trans he

theorem truthy_some {s : String} (h : s ≠ "") : truthy (some s) = some s :=
  Option.filter_eq_some_iff.2 ⟨rfl, decide_eq_true h⟩

theorem verifyWebhook_payload (env : Env) (h : request.theAuthority ≠ "")
    (p : Option PaymentId) : (ZarinpalPaymentProvider.webhooks env).verifyWebhook
      (request.payload p) "" = .ok (request.event p) := by
  have hfirst : firstTruthy (some request.theAuthority) none = some request.theAuthority := by
    rw [firstTruthy, truthy_some h]
    rfl
  simp only [ZarinpalPaymentProvider.webhooks, payload, ZarinpalPaymentProvider.verifyWebhook,
    hfirst]
  rfl

theorem callbackStatus_data (p : Option PaymentId) :
    ZarinpalPaymentProvider.callbackStatus (request.data p) = "OK" ↔ request.SaysOk := by
  rw [ZarinpalPaymentProvider.callbackStatus, SaysOk, data]
  by_cases h : request.theStatus = ""
  · rw [h]
    exact iff_of_false (show ¬upper "None" = "OK" by decide) (by decide)
  · rw [truthy_some h]
    rfl

end CallbackRequest

/-! ## The view -/

section View

variable {env : Env} {request : CallbackRequest} {p : PaymentId} {payment : Payment}
  {order : Order} {w : World Database (List Observation)}

/-- The handler begins with the payment that the view has found. -/
theorem handleWebhookEvent_found (h : request.payment w.db.shop = some (p, payment)) :
    ZarinpalPaymentProvider.handleWebhookEvent env (request.event (some p)) ⟨w.db.shop, w.ext⟩ =
      ZarinpalPaymentProvider.settleCallback env (request.data (some p)) p
        ⟨w.db.shop, w.ext⟩ := by
  obtain ⟨hrow, hprovider, -⟩ := CallbackRequest.payment_eq_some h
  refine Tx.bind_of_ok (a := (p, payment)) (v := ⟨w.db.shop, w.ext⟩) ?_
  have hfilter : (w.db.shop.payments.rows p).filter (·.provider = .zarinpal) = some payment :=
    Option.filter_eq_some_iff.2 ⟨hrow, decide_eq_true hprovider⟩
  have hget : (getRow "Payment" ((w.db.shop.payments.rows p).filter (·.provider = .zarinpal)) :
      ShopTx Payment) ⟨w.db.shop, w.ext⟩ = (.ok payment, ⟨w.db.shop, w.ext⟩) := by
    rw [hfilter]
    rfl
  exact (Tx.bind_of_ok (x := Tx.getDb) rfl).trans (Tx.bind_of_ok hget)

/-- The view around the webhook service. -/
theorem zarinpalCallback_webhook (hauthority : request.theAuthority ≠ "")
    (hconfigured : env.settings.zarinpalMerchantId ≠ "") :
    zarinpalCallback env request w = Tx.catching
      (do
        let event ← processWebhook env (ZarinpalPaymentProvider.webhooks env)
          (request.payload ((request.payment w.db.shop).map Prod.fst)) ""
        pure (.processed event.2.processed event.1)) callbackError w := by
  refine (Tx.ite_of_not hauthority).trans ((Tx.bind_of_ok (x := Tx.getDb) rfl).trans ?_)
  have hhandle (payload : ZarinpalPaymentProvider.CallbackPayload) :
      handleZarinpalCallback env payload =
        processWebhook env (ZarinpalPaymentProvider.webhooks env) payload "" :=
    funext fun w' => Tx.bind_of_ok (Tx.when_of_not hconfigured)
  simp only [hhandle]
  rfl

theorem zarinpalCallback_of_ok (hauthority : request.theAuthority ≠ "")
    (hconfigured : env.settings.zarinpalMerchantId ≠ "") {e : String × PaymentEvent}
    {w' : World Database (List Observation)}
    (hwebhook : processWebhook env (ZarinpalPaymentProvider.webhooks env)
      (request.payload ((request.payment w.db.shop).map Prod.fst)) "" w = (.ok e, w')) :
    (zarinpalCallback env request w).2 = w' := by
  have hrun : zarinpalCallback env request w = (.ok (.processed e.2.processed e.1), w') :=
    (zarinpalCallback_webhook hauthority hconfigured).trans
      (Tx.catching_of_ok (Tx.bind_of_ok hwebhook))
  exact congrArg Prod.snd hrun

/-- An exception of the webhook service leaves the database as it was, and the view answers. -/
theorem zarinpalCallback_of_error (hauthority : request.theAuthority ≠ "")
    (hconfigured : env.settings.zarinpalMerchantId ≠ "") (text : String)
    {trace : List Observation}
    (hwebhook : processWebhook env (ZarinpalPaymentProvider.webhooks env)
      (request.payload ((request.payment w.db.shop).map Prod.fst)) "" w =
        (.error (.webhookProcessingError text), ⟨w.db, trace⟩)) :
    (zarinpalCallback env request w).2 = ⟨w.db, trace⟩ := by
  have hrun : zarinpalCallback env request w = (.ok (.error 500 text), ⟨w.db, trace⟩) :=
    (zarinpalCallback_webhook hauthority hconfigured).trans
      (Tx.catching_of_error (Tx.bind_of_error hwebhook))
  exact congrArg Prod.snd hrun

/-- The handler returns: its writes are committed, and the callback is processed. -/
theorem zarinpalCallback_settled (h : request.Reaches env w.db p payment order)
    {w' : World Shop (List Observation)}
    (hrun : ZarinpalPaymentProvider.settleCallback env (request.data (some p)) p
      ⟨w.db.shop, w.ext⟩ = (.ok (), w')) :
    ∃ db, (zarinpalCallback env request w).2 = ⟨db, w'.ext⟩ ∧ db.shop = w'.db ∧
      db.isProcessed (ZarinpalPaymentProvider.eventId request.theAuthority) := by
  obtain ⟨e, db, hwebhook, -, hshop, hprocessed, -⟩ := processWebhook_returns env
    (CallbackRequest.verifyWebhook_payload env h.authority (some p)) h.unprocessed
    ((handleWebhookEvent_found h.found).trans hrun)
  refine ⟨db, ?_, hshop, hprocessed⟩
  refine zarinpalCallback_of_ok h.authority h.configured
    (e := ((request.event (some p)).eventId, e)) ?_
  rw [h.found]
  exact hwebhook

/-- The handler raises: the database stays as it was. -/
theorem zarinpalCallback_raises (h : request.Reaches env w.db p payment order)
    {w' : World Shop (List Observation)} {exc : Exn}
    (hrun : ZarinpalPaymentProvider.settleCallback env (request.data (some p)) p
      ⟨w.db.shop, w.ext⟩ = (.error exc, w')) :
    (zarinpalCallback env request w).2 = ⟨w.db, w'.ext⟩ := by
  refine zarinpalCallback_of_error h.authority h.configured exc.text ?_
  rw [h.found]
  exact processWebhook_raises env (CallbackRequest.verifyWebhook_payload env h.authority (some p))
    h.unprocessed ((handleWebhookEvent_found h.found).trans hrun)

theorem zarinpalCallback_unconfigured (h : env.settings.zarinpalMerchantId = "") :
    (zarinpalCallback env request w).2 = w := by
  by_cases hauthority : request.theAuthority = ""
  · exact congrArg Prod.snd (Tx.ite_of hauthority)
  have hhandle (payload : ZarinpalPaymentProvider.CallbackPayload) :
      handleZarinpalCallback env payload w = (.error (.paymentConfigurationError
        "ZARINPAL_MERCHANT_ID is not configured."), w) := Tx.bind_of_error (Tx.ite_of h)
  rw [zarinpalCallback, Tx.ite_of_not hauthority, Tx.bind_of_ok (x := Tx.getDb) rfl,
    Tx.catching_of_error (Tx.bind_of_error (hhandle _))]
  rfl

/-- A callback for an authority that was dealt with before changes nothing. -/
theorem zarinpalCallback_processed
    (hprocessed : w.db.isProcessed (ZarinpalPaymentProvider.eventId request.theAuthority)) :
    (zarinpalCallback env request w).2 = w := by
  by_cases hauthority : request.theAuthority = ""
  · exact congrArg Prod.snd (Tx.ite_of hauthority)
  by_cases hconfigured : env.settings.zarinpalMerchantId = ""
  · exact zarinpalCallback_unconfigured hconfigured
  obtain ⟨e, hwebhook⟩ := processWebhook_processed env
    (CallbackRequest.verifyWebhook_payload env hauthority ((request.payment w.db.shop).map Prod.fst))
    hprocessed
  exact zarinpalCallback_of_ok hauthority hconfigured hwebhook

/-- Nor does one that does not reach a payment. -/
theorem zarinpalCallback_misses (h : ∀ p payment order, ¬request.Reaches env w.db p payment order) :
    (zarinpalCallback env request w).2 = w := by
  by_cases hauthority : request.theAuthority = ""
  · exact congrArg Prod.snd (Tx.ite_of hauthority)
  by_cases hconfigured : env.settings.zarinpalMerchantId = ""
  · exact zarinpalCallback_unconfigured hconfigured
  by_cases hprocessed : w.db.isProcessed (ZarinpalPaymentProvider.eventId request.theAuthority)
  · exact zarinpalCallback_processed hprocessed
  have hraises : ∃ exc, ZarinpalPaymentProvider.handleWebhookEvent env
      (request.event ((request.payment w.db.shop).map Prod.fst)) ⟨w.db.shop, w.ext⟩ =
        (.error exc, ⟨w.db.shop, w.ext⟩) := by
    cases hfound : request.payment w.db.shop with
    | none =>
      refine ⟨.doesNotExist "Payment",
        Tx.bind_of_error ((Tx.bind_of_ok (x := Tx.getDb) rfl).trans ?_)⟩
      exact congrArg (fun payments => (getOnly "Payment" payments : ShopTx _) ⟨w.db.shop, w.ext⟩)
        (CallbackRequest.payment_eq_none hfound)
    | some e =>
      obtain ⟨p, payment⟩ := e
      obtain ⟨hrow, hprovider, -⟩ := CallbackRequest.payment_eq_some hfound
      have horder : w.db.shop.orders.rows payment.order = none := by
        cases horder : w.db.shop.orders.rows payment.order with
        | none => rfl
        | some order =>
          exact (h p payment order ⟨hauthority, hconfigured, hprocessed, hfound, horder⟩).elim
      have hlock : lockPaymentWithOrder p ⟨w.db.shop, w.ext⟩ =
          (.error (.doesNotExist "Order"), ⟨w.db.shop, w.ext⟩) :=
        (Tx.bind_of_ok (lockPayment_of_some hrow)).trans (Tx.bind_of_error (lockOrder_of_none horder))
      exact ⟨_, (handleWebhookEvent_found hfound).trans (Tx.atomic_of_error (Tx.bind_of_error hlock))⟩
  obtain ⟨exc, hraises⟩ := hraises
  exact zarinpalCallback_of_error hauthority hconfigured exc.text
    (processWebhook_raises env (CallbackRequest.verifyWebhook_payload env hauthority _)
      hprocessed hraises)

end View

/-! ## The gateway -/

namespace ZarinpalPaymentProvider

/-- The payment is in rials, over the total of its order, and not too small. -/
structure Fits (order : Order) (payment : Payment) : Prop where
  currency : lower payment.currency = "irr"
  amount : payment.amount.toInt = order.total.toInt
  minimum : minAmountIrr ≤ order.total.toInt

/-- The verify call that the handler makes for a payment of an order. -/
def theVerifyRequest (env : Env) (order : Order) (authority : String) : ZarinpalVerifyRequest :=
  verifyRequest env order.total.toInt authority

/-- The gateway confirms the capture, with a reference. -/
structure Confirms (env : Env) (order : Order) (payment : Payment) (authority : String)
    (refId : ℤ) : Prop where
  fits : Fits order payment
  reply : readVerifyReply (env.gateways.zarinpalVerify (theVerifyRequest env order authority)) =
    .ok refId

section Gateway

variable {env : Env} {order : Order} {payment : Payment} {p : PaymentId} {authority : String}
  {refId : ℤ} {w : World Shop (List Observation)}

theorem validateOrderPaymentAmount_fits (h : Fits order payment) :
    validateOrderPaymentAmount order payment w = (.ok order.total.toInt, w) := by
  refine (Tx.bind_of_ok (Tx.when_of_not (not_not.2 h.currency))).trans ?_
  refine (Tx.bind_of_ok (Tx.when_of_not (not_not.2 h.amount))).trans ?_
  exact (Tx.bind_of_ok (Tx.when_of_not (not_lt.2 h.minimum))).trans rfl

theorem validateOrderPaymentAmount_unfit (h : ¬Fits order payment) :
    ∃ e, validateOrderPaymentAmount order payment w = (.error e, w) := by
  by_cases hcurrency : lower payment.currency = "irr"
  · by_cases hamount : payment.amount.toInt = order.total.toInt
    · have hminimum : order.total.toInt < minAmountIrr :=
        not_le.1 fun hminimum => h ⟨hcurrency, hamount, hminimum⟩
      exact ⟨_, (Tx.bind_of_ok (Tx.when_of_not (not_not.2 hcurrency))).trans <|
        (Tx.bind_of_ok (Tx.when_of_not (not_not.2 hamount))).trans <|
          Tx.bind_of_error (Tx.ite_of hminimum)⟩
    · exact ⟨_, (Tx.bind_of_ok (Tx.when_of_not (not_not.2 hcurrency))).trans <|
        Tx.bind_of_error (Tx.ite_of hamount)⟩
  · exact ⟨_, Tx.bind_of_error (Tx.ite_of hcurrency)⟩

/-- The world after a verify call. -/
def verifiedWorld (env : Env) (order : Order) (p : PaymentId) (authority : String)
    (w : World Shop (List Observation)) : World Shop (List Observation) :=
  ⟨w.db, w.ext ++ [.verified p (theVerifyRequest env order authority)
    (env.gateways.zarinpalVerify (theVerifyRequest env order authority))]⟩

theorem verifyPayment_fits (h : Fits order payment) : verifyPayment env order (p, payment) authority w =
    (readVerifyReply (env.gateways.zarinpalVerify (theVerifyRequest env order authority)),
      verifiedWorld env order p authority w) := by
  refine (Tx.bind_of_ok (validateOrderPaymentAmount_fits h)).trans ?_
  refine (Tx.bind_of_ok (x := observe _) (v := verifiedWorld env order p authority w) rfl).trans ?_
  dsimp only [theVerifyRequest]
  cases readVerifyReply (env.gateways.zarinpalVerify (verifyRequest env order.total.toInt authority))
    <;> rfl

theorem verifyOrFail_confirms (h : Confirms env order payment authority refId) :
    verifyOrFail env order (p, payment) authority w =
      (.ok (some refId), verifiedWorld env order p authority w) := by
  refine Tx.catching_of_ok ((Tx.bind_of_ok ((verifyPayment_fits h.fits).trans ?_)).trans rfl)
  rw [h.reply]

end Gateway

/-! ## The handler -/

section Handler

variable {env : Env} {data : CallbackData} {p : PaymentId} {payment : Payment} {order : Order}
  {refId : ℤ} {w : World Shop (List Observation)}

theorem lockPaymentWithOrder_of_some (hpay : w.db.payments.rows p = some payment)
    (hrow : w.db.orders.rows payment.order = some order) :
    lockPaymentWithOrder p w = (.ok (payment, order), w) :=
  (Tx.bind_of_ok (lockPayment_of_some hpay)).trans
    ((Tx.bind_of_ok (lockOrder_of_some hrow)).trans rfl)

variable (hpay : w.db.payments.rows p = some payment)
  (hrow : w.db.orders.rows payment.order = some order)
include hpay hrow

theorem settleCallback_succeeded (h : payment.status = .succeeded) :
    settleCallback env data p w = (.ok (), w) :=
  Tx.atomic_of_ok ((Tx.bind_of_ok (lockPaymentWithOrder_of_some hpay hrow)).trans (Tx.ite_of h))

/-- A callback for a paid order: the payment succeeds, whatever the callback says. -/
theorem settleCallback_successful (h : payment.status ≠ .succeeded)
    (hpaid : order.paymentStatus.isSuccessful) : settleCallback env data p w =
      (.ok (), { w with db := w.db.updatePayment p (·.succeed) }) :=
  Tx.atomic_of_ok <| (Tx.bind_of_ok (lockPaymentWithOrder_of_some hpay hrow)).trans <|
    (Tx.ite_of_not h).trans <| (Tx.ite_of hpaid).trans (Tx.bind_of_ok (x := Tx.modifyDb _) rfl)

/-- The callback does not say OK: the payment has failed. -/
theorem settleCallback_failed (h : payment.status ≠ .succeeded)
    (hunpaid : ¬order.paymentStatus.isSuccessful) (hstatus : callbackStatus data ≠ "OK") :
    settleCallback env data p w = PaymentService.markFailed payment.order p
      "Zarinpal payment was not completed." w := by
  rcases hmark : PaymentService.markFailed payment.order p
    "Zarinpal payment was not completed." w with ⟨e | _, w'⟩
  · have hdb : w'.db = w.db := (Tx.rollsBack_atomic _).run hmark
    refine (Tx.atomic_of_error (v := w') (e := e)
      ((Tx.bind_of_ok (lockPaymentWithOrder_of_some hpay hrow)).trans ?_)).trans (by rw [← hdb])
    exact (Tx.ite_of_not h).trans ((Tx.ite_of_not hunpaid).trans
      ((Tx.ite_of hstatus).trans (Tx.bind_of_error hmark)))
  · refine Tx.atomic_of_ok ((Tx.bind_of_ok (lockPaymentWithOrder_of_some hpay hrow)).trans ?_)
    exact (Tx.ite_of_not h).trans ((Tx.ite_of_not hunpaid).trans
      ((Tx.ite_of hstatus).trans (Tx.bind_of_ok hmark)))

/-- The handler up to the verify call. -/
theorem settleCallback_verifies (h : payment.status ≠ .succeeded)
    (hunpaid : ¬order.paymentStatus.isSuccessful) (hstatus : callbackStatus data = "OK") :
    settleCallback env data p w = Tx.atomic
      (do
        match ← verifyOrFail env order (p, payment) data.authority with
        | none => return ()
        | some refId => do
          Tx.modifyDb fun shop => shop.updatePayment p (withReference · data.authority refId)
          PaymentService.markPaid payment.order p) w := by
  have hbody : ∀ {x y : ShopTx Unit}, x w = y w → Tx.atomic x w = Tx.atomic y w := by
    intro x y hxy
    rw [Tx.atomic, Tx.atomic, hxy]
  refine hbody ((Tx.bind_of_ok (lockPaymentWithOrder_of_some hpay hrow)).trans ?_)
  exact (Tx.ite_of_not h).trans ((Tx.ite_of_not hunpaid).trans
    (Tx.ite_of_not (not_not.2 hstatus)))

/-- The payment as a capture leaves it. -/
def capturedPayment (payment : Payment) (authority : String) (refId : ℤ) : Payment :=
  (withReference payment authority refId).succeed

/-- A confirmed capture of an order that can still become paid. -/
theorem settleCallback_captured (h : payment.status ≠ .succeeded)
    (hunpaid : ¬order.paymentStatus.isSuccessful) (hstatus : callbackStatus data = "OK")
    (hconfirms : Confirms env order payment data.authority refId)
    (hpayable : order.status.isPayable) :
    ∃ w', settleCallback env data p w = (.ok (), w') ∧
      w'.db.payments = w.db.payments.modify p (capturedPayment · data.authority refId) ∧
      w'.db.orders.rows payment.order =
        some { order with paymentStatus := .paid, status := .confirmedByShop } ∧
      Quiet (verifiedWorld env order p data.authority w).ext w'.ext := by
  let w₁ : World Shop (List Observation) :=
    ⟨w.db.updatePayment p (withReference · data.authority refId),
      (verifiedWorld env order p data.authority w).ext⟩
  have hpay₁ : w₁.db.payments.rows p = some (withReference payment data.authority refId) := by
    change (w.db.payments.modify p _).rows p = _
    rw [Table.rows_modify_self, hpay]
    rfl
  obtain ⟨w', hpaid, hcaptured⟩ := markPaid_payable (w := w₁) hrow hpay₁ h hunpaid hpayable
  refine ⟨w', (settleCallback_verifies hpay hrow h hunpaid hstatus).trans (Tx.atomic_of_ok ?_), ?_,
    hcaptured.row, hcaptured.quiet⟩
  · exact (Tx.bind_of_ok (verifyOrFail_confirms hconfirms)).trans
      ((Tx.bind_of_ok (x := Tx.modifyDb _) (v := w₁) rfl).trans hpaid)
  · rw [hcaptured.payments]
    exact Table.modify_modify _ p _ _

/-- A confirmed capture that comes too late: the order cannot become paid, and everything but the
    verify call is undone. -/
theorem settleCallback_tooLate (h : payment.status ≠ .succeeded)
    (hunpaid : ¬order.paymentStatus.isSuccessful) (hstatus : callbackStatus data = "OK")
    (hconfirms : Confirms env order payment data.authority refId)
    (hunpayable : ¬order.status.isPayable) :
    ∃ e trace, settleCallback env data p w = (.error e, ⟨w.db, trace⟩) ∧
      Quiet (verifiedWorld env order p data.authority w).ext trace := by
  let w₁ : World Shop (List Observation) :=
    ⟨w.db.updatePayment p (withReference · data.authority refId),
      (verifiedWorld env order p data.authority w).ext⟩
  have hpay₁ : w₁.db.payments.rows p = some (withReference payment data.authority refId) := by
    change (w.db.payments.modify p _).rows p = _
    rw [Table.rows_modify_self, hpay]
    rfl
  obtain ⟨e, trace, hpaid, hquiet⟩ := markPaid_unpayable (w := w₁) hrow hpay₁ h hunpaid hunpayable
  refine ⟨e, trace, (settleCallback_verifies hpay hrow h hunpaid hstatus).trans
    ((Tx.atomic_of_error (v := ⟨w₁.db, trace⟩) ?_).trans rfl), hquiet⟩
  exact (Tx.bind_of_ok (verifyOrFail_confirms hconfirms)).trans
    ((Tx.bind_of_ok (x := Tx.modifyDb _) (v := w₁) rfl).trans hpaid)

end Handler

end ZarinpalPaymentProvider

end Crumbs
