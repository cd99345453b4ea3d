import Crumbs.Payments.Captures

/-!
# Sequences of Callbacks

Anyone can call the callback address, with any status. For one authority the first callback that
is dealt with decides what becomes of the payment and its order; from then on the event is
processed, and no callback for that authority changes anything.

## Contents

- `Step.IsCallbackFor`: a callback that carries a given authority
- `after_processed`: callbacks for an authority that was dealt with
- `callback_ok`, `callback_not_ok`: the first callback
- `first_callback_decides`
-/

namespace Crumbs

open Crumbs.Db ZarinpalPaymentProvider

/-- A callback that carries the authority, in whatever surroundings. -/
def Step.IsCallbackFor (step : Step) (authority : String) : Prop :=
  ∃ request, step.operation = .zarinpalCallback request ∧ request.theAuthority = authority

section Runs

variable {db : Database} {step : Step} {request : CallbackRequest} {p : PaymentId}
  {payment : Payment} {order : Order} {refId : ℤ}

/-- Once a callback for the authority has been dealt with, the others change nothing. -/
theorem after_processed {authority : String} {run : List Step}
    (hprocessed : db.isProcessed (eventId authority))
    (hrun : ∀ step ∈ run, step.IsCallbackFor authority) : after db run = db := by
  induction run with
  | nil => rfl
  | cons step rest ih =>
    obtain ⟨request, hoperation, rfl⟩ := hrun step List.mem_cons_self
    have hexec : (step.exec db).db = db := by
      rw [Step.exec_callback hoperation, zarinpalCallback_processed hprocessed]
    rw [after_cons, hexec]
    exact ih fun step' hstep' => hrun step' (List.mem_cons_of_mem step hstep')

variable (hoperation : step.operation = .zarinpalCallback request)
  (hreaches : request.Reaches step.env db p payment order)
  (hunsettled : Unsettled payment order) (hpayable : order.status.isPayable)
include hoperation hreaches hunsettled hpayable

/-- The first callback says OK, and the gateway confirms it: the order is paid. -/
theorem callback_ok (hok : request.SaysOk)
    (hconfirms : Confirms step.env order payment request.theAuthority refId) :
    (step.exec db).db.isProcessed (eventId request.theAuthority) ∧
      (step.exec db).db.shop.payments.rows p =
        some (capturedPayment payment request.theAuthority refId) ∧
      (step.exec db).db.shop.orders.rows payment.order =
        some { order with paymentStatus := .paid, status := .confirmedByShop } := by
  have hpay := (CallbackRequest.payment_eq_some hreaches.found).1
  obtain ⟨w', hrun, hpayments, horder, -⟩ := settleCallback_captured (w := ⟨db.shop, []⟩)
    hpay hreaches.row hunsettled.payment hunsettled.order
    ((CallbackRequest.callbackStatus_data (some p)).2 hok) hconfirms hpayable
  obtain ⟨db', hdb, hshop, hprocessed⟩ := zarinpalCallback_settled (w := ⟨db, []⟩) hreaches hrun
  rw [Step.exec_callback hoperation, hdb]
  refine ⟨hprocessed, ?_, by rw [hshop, horder]⟩
  rw [hshop, hpayments, Table.rows_modify_self, hpay]
  rfl

/-- The first callback does not say OK: payment and order end. -/
theorem callback_not_ok (hok : ¬request.SaysOk) :
    (step.exec db).db.isProcessed (eventId request.theAuthority) ∧
      (step.exec db).db.shop.payments.rows p =
        some (payment.fail "Zarinpal payment was not completed.") ∧
      (step.exec db).db.shop.orders.rows payment.order =
        some { order with paymentStatus := .failed, status := .cancelled } := by
  have hpay := (CallbackRequest.payment_eq_some hreaches.found).1
  have hopen : ¬order.status.isClosed ∧ order.status ≠ .delivered := by
    rcases hpayable with h | h <;> rw [h] <;> decide
  obtain ⟨w', hrun, horder, hpayments, -⟩ := markFailed_open (w := ⟨db.shop, []⟩)
    "Zarinpal payment was not completed." hreaches.row hpay hunsettled.payment
    hunsettled.order hopen.1 hopen.2
  have hsettle : settleCallback step.env (request.data (some p)) p ⟨db.shop, []⟩ = (.ok (), w') :=
    (settleCallback_failed hpay hreaches.row hunsettled.payment hunsettled.order
      fun h => hok ((CallbackRequest.callbackStatus_data _).1 h)).trans hrun
  obtain ⟨db', hdb, hshop, hprocessed⟩ := zarinpalCallback_settled (w := ⟨db, []⟩) hreaches hsettle
  rw [Step.exec_callback hoperation, hdb]
  refine ⟨hprocessed, ?_, by rw [hshop, horder]⟩
  rw [hshop, hpayments, Table.rows_modify_self, hpay]
  rfl

end Runs

/-- The first callback for an open payment of a payable order decides: after OK the order is paid,
    after anything else payment and order have ended, and whatever callbacks follow, the database
    stays as the first one has left it. -/
theorem first_callback_decides {db : Database} {first : Step} {rest : List Step}
    {request : CallbackRequest} {p : PaymentId} {payment : Payment} {order : Order} {refId : ℤ}
    (hoperation : first.operation = .zarinpalCallback request)
    (hreaches : request.Reaches first.env db p payment order)
    (hprocessing : payment.status = .processing) (hunpaid : ¬order.paymentStatus.isSuccessful)
    (hpayable : order.status.isPayable)
    (hconfirms : Confirms first.env order payment request.theAuthority refId)
    (hrest : ∀ step ∈ rest, step.IsCallbackFor request.theAuthority) :
    after db (first :: rest) = after db [first] ∧
      (request.SaysOk →
        (after db [first]).shop.payments.rows p =
            some (capturedPayment payment request.theAuthority refId) ∧
          (after db [first]).shop.orders.rows payment.order =
            some { order with paymentStatus := .paid, status := .confirmedByShop }) ∧
      (¬request.SaysOk →
        (after db [first]).shop.payments.rows p =
            some (payment.fail "Zarinpal payment was not completed.") ∧
          (after db [first]).shop.orders.rows payment.order =
            some { order with paymentStatus := .failed, status := .cancelled }) := by
  have hunsettled : Unsettled payment order := ⟨by rw [hprocessing]; decide, hunpaid⟩
  rw [after_cons, after_cons, after_nil]
  by_cases hok : request.SaysOk
  · obtain ⟨hprocessed, hpaid⟩ :=
      callback_ok hoperation hreaches hunsettled hpayable hok hconfirms
    exact ⟨after_processed hprocessed hrest, fun _ => hpaid, fun h => absurd hok h⟩
  · obtain ⟨hprocessed, hfailed⟩ := callback_not_ok hoperation hreaches hunsettled hpayable hok
    exact ⟨after_processed hprocessed hrest, fun h => absurd h hok, fun _ => hfailed⟩

/-- A callback that does not say OK and one that does, in this order, cancel a payment that the
    gateway would have confirmed. -/
theorem not_ok_then_ok :
    let db := after cornerShop [cornerCheckout]
    let alone := after db [cornerCallback 0 "OK"]
    let after := after db [cornerCallback 0 "NOK", cornerCallback 0 "OK"]
    db.shop.payments.rows 0 = some cornerPayment ∧ db.shop.orders.rows 0 = some cornerOrder ∧
      (alone.shop.payments.rows 0).map (·.status) = some .succeeded ∧
      (alone.shop.orders.rows 0).map (·.paymentStatus) = some .paid ∧
      (after.shop.payments.rows 0).map (·.status) = some .failed ∧
      (after.shop.orders.rows 0).map (·.status) = some .cancelled := by
  decide +kernel

theorem cornerRequest_theAuthority (status : String) :
    (cornerRequest 0 status).theAuthority = "A0" := show s!"A{0}" = "A0" by decide +kernel

/-- The callback reaches the payment of the online checkout. -/
theorem cornerRequest_reaches (status : String) :
    (cornerRequest 0 status).Reaches cornerEnv (after cornerShop [cornerCheckout]) 0 cornerPayment
      cornerOrder where
  authority := by
    rw [cornerRequest_theAuthority]
    decide
  configured := by decide
  unprocessed := by
    rw [cornerRequest_theAuthority]
    rintro ⟨event, hevent, -⟩
    have hnone : (after cornerShop [cornerCheckout]).events (eventId "A0") = none := by
      decide +kernel
    exact nomatch hnone.symm.trans hevent
  found := by
    rw [CallbackRequest.payment, cornerRequest_theAuthority]
    decide +kernel
  row := by decide +kernel

theorem cornerPayment_confirms (authority : String) :
    Confirms cornerEnv cornerOrder cornerPayment authority 7 where
  fits := ⟨by decide +kernel, by decide, by decide⟩
  reply := rfl

/-- OK comes first. -/
theorem first_callback_decides_ok :
    let db := after cornerShop [cornerCheckout]
    after db [cornerCallback 0 "OK", cornerCallback 0 "NOK"] = after db [cornerCallback 0 "OK"] ∧
      ((after db [cornerCallback 0 "OK"]).shop.payments.rows 0).map (·.status) =
        some .succeeded := by
  have h := first_callback_decides
    (show (cornerCallback 0 "OK").operation = .zarinpalCallback (cornerRequest 0 "OK") from rfl)
    (cornerRequest_reaches "OK") rfl (by decide) (by decide) (cornerPayment_confirms _)
    fun step (hstep : step ∈ [cornerCallback 0 "NOK"]) => by
      obtain rfl := List.mem_singleton.1 hstep
      exact ⟨cornerRequest 0 "NOK", rfl, by rw [cornerRequest_theAuthority, cornerRequest_theAuthority]⟩
  refine ⟨h.1, ?_⟩
  rw [(h.2.1 (by decide +kernel)).1]
  rfl

end Crumbs
