import Crumbs.Writes.Runs

/-!
# Confirmed Captures

When the gateway confirms a capture, the customer's money is gone, and no rollback brings it back.
Whether the shop then records the payment depends on the order alone: on whether it can still
become paid.

## Contents

- `KeepsCaptures`: every capture that a step got confirmed is recorded when the step ends
- `OrderStillPayable`: no capture is confirmed for an order that cannot become paid any more
- `keepsCaptures_iff`
-/

namespace Crumbs

open Crumbs.Db ZarinpalPaymentProvider

/-! ## What is claimed, and when it holds -/

/-- Every capture that the gateway confirmed during the step is on record when the step ends: the
    payment has succeeded, with the gateway's reference. -/
def KeepsCaptures (db : Database) (step : Step) : Prop :=
  ∀ p request reply refId, .verified p request reply ∈ (step.exec db).ext →
    readVerifyReply reply = .ok refId →
    ∃ payment, (step.exec db).db.shop.payments.rows p = some payment ∧
      payment.status = .succeeded ∧ payment.providerPaymentId = toString refId

/-- A payment and its order that are both still open. -/
structure Unsettled (payment : Payment) (order : Order) : Prop where
  payment : payment.status ≠ .succeeded
  order : ¬order.paymentStatus.isSuccessful

/-- If the step is a callback whose capture the gateway confirms, the order can still become
    paid. -/
def OrderStillPayable (db : Database) (step : Step) : Prop :=
  ∀ request p payment order refId, step.operation = .zarinpalCallback request →
    request.Reaches step.env db p payment order → request.SaysOk → Unsettled payment order →
    Confirms step.env order payment request.theAuthority refId → order.status.isPayable

/-! ## Steps without a confirmed capture -/

section Steps

variable {db : Database} {step : Step}

theorem keepsCaptures_of_unconfirmed
    (h : Grows Observation.IsUnconfirmed [] (step.exec db).ext) : KeepsCaptures db step := by
  intro p request reply refId hmem hreply
  obtain ⟨obs, hext, hobs⟩ := h
  rw [hext, List.nil_append] at hmem
  exact (hobs _ hmem refId hreply).elim

/-- Only a Zarinpal callback asks the gateway. -/
theorem keepsCaptures_of_quiet (h : Quiet [] (step.exec db).ext) : KeepsCaptures db step :=
  keepsCaptures_of_unconfirmed (h.mono fun _ => Observation.IsClamp.isUnconfirmed)

theorem Step.exec_quiet (h : ∀ request, step.operation ≠ .zarinpalCallback request) :
    Quiet [] (step.exec db).ext := by
  have hsteps : (step.operation.run step.env).StepsAt (OnShop (Moves True)) ⟨db, []⟩ := by
    cases hoperation : step.operation with
    | call call => exact onShop_steps (call.run_moves step.env _)
    | zarinpalCallback request => exact (h request hoperation).elim
    | stripeWebhook payload signature => exact (stripeWebhook_moves step.env payload signature _).void
  exact (Tx.StepsAt.run hsteps).quiet

theorem Step.exec_callback {request : CallbackRequest}
    (h : step.operation = .zarinpalCallback request) :
    step.exec db = (zarinpalCallback step.env request ⟨db, []⟩).2 := by
  rw [Step.exec, h]
  change (Tx.void (zarinpalCallback step.env request) ⟨db, []⟩).2 = _
  rcases hrun : zarinpalCallback step.env request ⟨db, []⟩ with ⟨_ | _, w'⟩
  · rw [Tx.void, Tx.bind_of_error hrun]
  · rw [Tx.void, Tx.bind_of_ok hrun]
    rfl

end Steps

/-! ## Callbacks -/

section Callback

variable {db : Database} {step : Step} {request : CallbackRequest} {p : PaymentId}
  {payment : Payment} {order : Order} {refId : ℤ}

/-- The callback begins to settle the payment that it reaches. -/
theorem exec_settles (hoperation : step.operation = .zarinpalCallback request)
    (h : request.Reaches step.env db p payment order)
    {R : World Shop (List Observation) → World Shop (List Observation) → Prop} [Tx.RestoresDb R]
    (hsettle : (settleCallback step.env (request.data (some p)) p).StepsAt R ⟨db.shop, []⟩) :
    OnShop R ⟨db, []⟩ (step.exec db) := by
  rw [Step.exec_callback hoperation]
  have hrun := hsettle.run
  rcases hx : settleCallback step.env (request.data (some p)) p ⟨db.shop, []⟩ with ⟨exc | _, w'⟩
  · rw [hx] at hrun
    rw [zarinpalCallback_raises (w := ⟨db, []⟩) h hx]
    exact Tx.RestoresDb.restore hrun
  · rw [hx] at hrun
    obtain ⟨db', hdb, hshop, -⟩ := zarinpalCallback_settled (w := ⟨db, []⟩) h hx
    rw [hdb]
    change R ⟨db.shop, []⟩ ⟨db'.shop, w'.ext⟩
    rw [hshop]
    exact hrun

/-- The only capture that a callback can get confirmed is the one it asks for. -/
theorem confirmed_of_mem {trace trace' : List Observation} {q : PaymentId}
    {verify : ZarinpalVerifyRequest} {reply : VerifyReply}
    (hconfirms : Confirms step.env order payment request.theAuthority refId)
    (htrace : trace = [.verified p (theVerifyRequest step.env order request.theAuthority)
      (step.env.gateways.zarinpalVerify (theVerifyRequest step.env order request.theAuthority))])
    (hquiet : Quiet trace trace') (hmem : .verified q verify reply ∈ trace') {refId' : ℤ}
    (hreply : readVerifyReply reply = .ok refId') : q = p ∧ refId' = refId := by
  have hmem' := hquiet.mem_of_not hmem id
  rw [htrace, List.mem_singleton, Observation.verified.injEq] at hmem'
  obtain ⟨rfl, -, rfl⟩ := hmem'
  exact ⟨rfl, Except.ok.inj (hreply.symm.trans hconfirms.reply)⟩

variable (hoperation : step.operation = .zarinpalCallback request)
  (hreaches : request.Reaches step.env db p payment order)
include hoperation hreaches

/-- A capture of an order that can become paid is recorded. -/
theorem keepsCaptures_of_payable (hok : request.SaysOk) (hunsettled : Unsettled payment order)
    (hconfirms : Confirms step.env order payment request.theAuthority refId)
    (hpayable : order.status.isPayable) : KeepsCaptures db step := by
  have hpay := (CallbackRequest.payment_eq_some hreaches.found).1
  obtain ⟨w', hrun, hpayments, -, hquiet⟩ := settleCallback_captured (w := ⟨db.shop, []⟩)
    hpay hreaches.row hunsettled.payment hunsettled.order
    ((CallbackRequest.callbackStatus_data (some p)).2 hok) hconfirms hpayable
  obtain ⟨db', hdb, hshop, -⟩ := zarinpalCallback_settled (w := ⟨db, []⟩) hreaches hrun
  intro q verify reply refId' hmem hreply
  rw [Step.exec_callback hoperation, hdb] at hmem ⊢
  obtain ⟨rfl, rfl⟩ := confirmed_of_mem hconfirms rfl hquiet hmem hreply
  refine ⟨capturedPayment payment request.theAuthority refId', ?_, rfl, rfl⟩
  rw [hshop, hpayments, Table.rows_modify_self, hpay]
  rfl

/-- A capture of an order that cannot become paid is confirmed and lost. -/
theorem not_keepsCaptures (hok : request.SaysOk) (hunsettled : Unsettled payment order)
    (hconfirms : Confirms step.env order payment request.theAuthority refId)
    (hunpayable : ¬order.status.isPayable) : ¬KeepsCaptures db step := by
  have hpay := (CallbackRequest.payment_eq_some hreaches.found).1
  obtain ⟨exc, trace, hrun, hquiet⟩ := settleCallback_tooLate (w := ⟨db.shop, []⟩)
    hpay hreaches.row hunsettled.payment hunsettled.order
    ((CallbackRequest.callbackStatus_data (some p)).2 hok) hconfirms hunpayable
  have hexec : step.exec db = ⟨db, trace⟩ :=
    (Step.exec_callback hoperation).trans (zarinpalCallback_raises (w := ⟨db, []⟩) hreaches hrun)
  intro hkeeps
  have hmem : .verified p (theVerifyRequest step.env order request.theAuthority)
      (step.env.gateways.zarinpalVerify (theVerifyRequest step.env order request.theAuthority)) ∈
        (step.exec db).ext := by
    rw [hexec]
    exact hquiet.mem (List.mem_append_right [] List.mem_cons_self)
  obtain ⟨payment', hrow', hsucceeded, -⟩ := hkeeps p _ _ refId hmem hconfirms.reply
  rw [hexec] at hrow'
  obtain rfl : payment = payment' := Option.some.inj (hpay.symm.trans hrow')
  exact hunsettled.payment hsucceeded

end Callback

/-! ## The criterion -/

/-- A step keeps the captures exactly if none is confirmed for an order that cannot become
    paid. -/
theorem keepsCaptures_step_iff (db : Database) (step : Step) :
    KeepsCaptures db step ↔ OrderStillPayable db step := by
  constructor
  · intro hkeeps request p payment order refId hoperation hreaches hok hunsettled hconfirms
    by_contra hunpayable
    exact not_keepsCaptures hoperation hreaches hok hunsettled hconfirms hunpayable hkeeps
  · intro h
    by_cases hcallback : ∀ request, step.operation ≠ .zarinpalCallback request
    · exact keepsCaptures_of_quiet (Step.exec_quiet hcallback)
    obtain ⟨request, hoperation⟩ := not_forall_not.1 hcallback
    by_cases hreached : ∃ p payment order, request.Reaches step.env db p payment order
    · obtain ⟨p, payment, order, hreaches⟩ := hreached
      by_cases hconfirmed : request.SaysOk ∧ Unsettled payment order ∧
          ∃ refId, Confirms step.env order payment request.theAuthority refId
      · obtain ⟨hok, hunsettled, refId, hconfirms⟩ := hconfirmed
        exact keepsCaptures_of_payable hoperation hreaches hok hunsettled hconfirms
          (h request p payment order refId hoperation hreaches hok hunsettled hconfirms)
      · have hpay := (CallbackRequest.payment_eq_some hreaches.found).1
        refine keepsCaptures_of_unconfirmed (exec_settles (R := Settles) hoperation hreaches
          (settleCallback_settles hpay hreaches.row ?_)).unconfirmed
        intro hpayment horder hstatus refId hconfirms
        exact hconfirmed ⟨(CallbackRequest.callbackStatus_data _).1 hstatus, ⟨hpayment, horder⟩,
          refId, hconfirms⟩
    · refine keepsCaptures_of_quiet ?_
      rw [Step.exec_callback hoperation, zarinpalCallback_misses fun p payment order hreaches =>
        hreached ⟨p, payment, order, hreaches⟩]
      exact .refl []

/-- In a run, the captures that the gateway confirms are all recorded exactly if each of them is
    for an order that can still become paid. -/
theorem keepsCaptures_iff (db : Database) (run : List Step) :
    Always KeepsCaptures db run ↔ Always OrderStillPayable db run :=
  ⟨fun h => h.mono fun db step => (keepsCaptures_step_iff db step).1,
    fun h => h.mono fun db step => (keepsCaptures_step_iff db step).2⟩

/-- The customer pays at the gateway while the order is being cancelled. -/
theorem not_keepsCaptures_cancelled : ¬Always KeepsCaptures cornerShop
    [cornerCheckout, cornerCall (.cancel 0 "" "admin"), cornerCallback 0 "OK"] := by
  rintro ⟨-, -, hkeeps, -⟩
  have hmem : Observation.verified 0 ⟨"M", 2000, "A0"⟩ (.body [] (some 100) (some 7)) ∈
      ((cornerCallback 0 "OK").exec
        (after cornerShop [cornerCheckout, cornerCall (.cancel 0 "" "admin")])).ext := by
    decide +kernel
  obtain ⟨payment, hrow, hsucceeded, -⟩ := hkeeps 0 _ _ 7 hmem (by decide)
  have hstatus : (((cornerCallback 0 "OK").exec (after cornerShop
      [cornerCheckout, cornerCall (.cancel 0 "" "admin")])).db.shop.payments.rows 0).map
        (·.status) = some .processing := by decide +kernel
  rw [after_cons, after_cons, after_nil] at hstatus
  rw [hrow, Option.map_some, hsucceeded] at hstatus
  exact nomatch hstatus

end Crumbs
