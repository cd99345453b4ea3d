import Crumbs.Payments.Callbacks
import Crumbs.Writes.Checkouts

/-!
# What Callbacks and Webhooks Write

The handlers of the two online providers, and the service and the views around them. The Zarinpal
handler asks the gateway before it knows whether the order can still become paid, so what it
writes is described apart from what it observes.

## Contents

- `Settles`: a chain of writes while no capture is confirmed
- `Rewrites`: a chain of writes, whatever is observed
- `settleCallback_settles`, `settleCallback_rewrites`: the Zarinpal handler
- `StripePaymentProvider.handleWebhookEvent_moves`: the Stripe handler
- `OnShop`, `stripeWebhook_moves`, `zarinpalCallback_rewrites`: the views
-/

namespace Crumbs

open Crumbs.Db

variable {α : Type}

/-! ## Writes and observations -/

/-- No capture is confirmed. -/
def Observation.IsUnconfirmed : Observation → Prop
  | clamped .. => True
  | verified _ _ reply => ∀ refId, ZarinpalPaymentProvider.readVerifyReply reply ≠ .ok refId

theorem Observation.IsClamp.isUnconfirmed : ∀ {o : Observation}, o.IsClamp → o.IsUnconfirmed
  | clamped .., _ => trivial

/-- A chain of writes, while no capture is confirmed. -/
structure Settles (w w' : World Shop (List Observation)) : Prop where
  writes : Relation.ReflTransGen (Shop.Write True) w.db w'.db
  unconfirmed : Grows Observation.IsUnconfirmed w.ext w'.ext

/-- A chain of writes, whatever is observed. -/
def Rewrites (w w' : World Shop (List Observation)) : Prop :=
  Relation.ReflTransGen (Shop.Write True) w.db w'.db

section Relations

variable {w w' : World Shop (List Observation)}

instance : IsPreorder (World Shop (List Observation)) Settles where
  refl w := ⟨.refl, .refl w.ext⟩
  trans _ _ _ h h' := ⟨h.writes.trans h'.writes, h.unconfirmed.trans h'.unconfirmed⟩

instance : Tx.RestoresDb Settles where
  restore h := ⟨.refl, h.unconfirmed⟩

instance : IsPreorder (World Shop (List Observation)) Rewrites where
  refl _ := .refl
  trans _ _ _ h h' := Relation.ReflTransGen.trans h h'

instance : Tx.RestoresDb Rewrites where
  restore _ := .refl

theorem Moves.settles (h : Moves True w w') : Settles w w' :=
  ⟨h.writes, h.quiet.mono fun _ => Observation.IsClamp.isUnconfirmed⟩

theorem Moves.rewrites (h : Moves True w w') : Rewrites w w' := h.writes

theorem steps_rewrites {x : ShopTx α} (h : x.Steps (Moves True)) : x.Steps Rewrites := fun w =>
  (h w).mono fun _ => Moves.rewrites

end Relations

/-! ## Zarinpal -/

theorem lockPaymentWithOrder_moves {q : Prop} (p : PaymentId) :
    (lockPaymentWithOrder p).Steps (Moves q) :=
  (lockPayment_moves p).bind fun payment => (lockOrder_moves payment.order).bind fun _ =>
    Tx.steps_pure _

theorem savePaymentStatus_moves {q : Prop} (p : PaymentId) (status : PaymentStatus)
    (failureMessage : String) : (savePaymentStatus p status failureMessage).Steps (Moves q) :=
  updatePayment_moves p _

namespace ZarinpalPaymentProvider

section Settle

variable {env : Env} {data : CallbackData} {p : PaymentId}
  {payment : Payment} {order : Order} {w : World Shop (List Observation)}

/-- The gateway does not confirm the capture: the payment fails, or the handler raises. -/
theorem verifyOrFail_settles {authority : String}
    (hunconfirmed : ∀ refId, ¬Confirms env order payment authority refId) :
    (verifyOrFail env order (p, payment) authority).StepsTo Settles
      (fun refId _ => refId = none) w := by
  have hhandler (exc : Exn) {w₁ : World Shop (List Observation)} (h₁ : Settles w w₁) :
      (if exc.isPaymentProviderError then do
        PaymentService.markFailed payment.order p exc.text
        pure none
      else Tx.raise exc : ShopTx (Option ℤ)).wp (fun refId w' => Settles w w' ∧ refId = none)
        (fun _ w' => Settles w w') w₁ := by
    refine Tx.wp_ite.2 ⟨fun _ => ?_, fun _ => h₁⟩
    exact Tx.wp_seq (PaymentService.markFailed_moves payment.order p exc.text w₁)
      (fun _ _ h => ⟨trans_of Settles h₁ h.settles, rfl⟩)
      (fun _ _ h => trans_of Settles h₁ h.settles)
  refine Tx.wp_catching.2 (Tx.wp_bind.2 ?_)
  by_cases hfits : Fits order payment
  · have hrun : verifyPayment env order (p, payment) authority w = _ := verifyPayment_fits hfits
    cases hreply : readVerifyReply
      (env.gateways.zarinpalVerify (theVerifyRequest env order authority)) with
    | ok refId => exact (hunconfirmed refId ⟨hfits, hreply⟩).elim
    | error exc =>
      rw [hreply] at hrun
      refine (Tx.wp_iff_of_error hrun).2 (hhandler exc ⟨.refl, [_], rfl, fun o ho => ?_⟩)
      obtain rfl := List.mem_singleton.1 ho
      exact fun refId h => nomatch hreply.symm.trans h
  · obtain ⟨exc, hrun⟩ := validateOrderPaymentAmount_unfit (w := w) hfits
    have hverify : verifyPayment env order (p, payment) authority w = (.error exc, w) :=
      Tx.bind_of_error hrun
    exact (Tx.wp_iff_of_error hverify).2 (hhandler exc (refl_of Settles w))

/-- Without a confirmed capture the handler chains writes, and observes none. -/
theorem settleCallback_settles (hpay : w.db.payments.rows p = some payment)
    (hrow : w.db.orders.rows payment.order = some order)
    (h : payment.status ≠ .succeeded → ¬order.paymentStatus.isSuccessful →
      callbackStatus data = "OK" → ∀ refId, ¬Confirms env order payment data.authority refId) :
    (settleCallback env data p).StepsAt Settles w := by
  by_cases hsucceeded : payment.status = .succeeded
  · exact .of_run (by rw [settleCallback_succeeded hpay hrow hsucceeded]; exact refl_of Settles w)
  by_cases hpaid : order.paymentStatus.isSuccessful
  · refine .of_run ?_
    rw [settleCallback_successful hpay hrow hsucceeded hpaid]
    exact (Moves.of_write (w := w) (.payments w.db _)).settles
  by_cases hstatus : callbackStatus data = "OK"
  · refine .congr (settleCallback_verifies hpay hrow hsucceeded hpaid hstatus) ?_
    have hverify := verifyOrFail_settles (p := p) (w := w) (h hsucceeded hpaid hstatus)
    refine Tx.StepsAt.atomic ?_
    refine hverify.seq ?_
    rintro _ w' - rfl
    exact Tx.steps_pure () w'
  · refine .congr (settleCallback_failed hpay hrow hsucceeded hpaid hstatus) ?_
    exact (PaymentService.markFailed_moves payment.order p _ w).mono fun _ => Moves.settles

theorem verifyPayment_rewrites (authority : String) :
    (verifyPayment env order (p, payment) authority).Steps Rewrites := by
  refine (steps_of_eq (validateOrderPaymentAmount_reads order payment)).bind fun amount => ?_
  refine Tx.Steps.bind (fun w => Relation.ReflTransGen.refl) fun _ w => ?_
  split
  · exact Tx.steps_raise _ w
  · exact Tx.steps_pure _ w

theorem verifyOrFail_rewrites (authority : String) :
    (verifyOrFail env order (p, payment) authority).Steps Rewrites := fun w =>
  .catching ((verifyPayment_rewrites authority w).bind fun _ => Tx.steps_pure _) fun exc w₁ =>
    .ite (fun _ => (steps_rewrites (PaymentService.markFailed_moves payment.order p exc.text) w₁).bind
      fun _ => Tx.steps_pure _) fun _ => Tx.steps_raise _ w₁

/-- Whatever the gateway says, the handler chains writes. -/
theorem settleCallback_rewrites (env : Env) (data : CallbackData) (p : PaymentId) :
    (settleCallback env data p).Steps Rewrites := by
  refine Tx.Steps.atomic ((steps_rewrites (lockPaymentWithOrder_moves p)).bind
    fun ⟨payment, order⟩ w => ?_)
  refine .ite (fun _ => Tx.steps_pure _ w) fun _ => .ite (fun _ => ?_) fun _ => .ite (fun _ => ?_)
    fun _ => ?_
  · exact (steps_rewrites (savePaymentStatus_moves p .succeeded "") w).bind fun _ => Tx.steps_pure _
  · exact (steps_rewrites (PaymentService.markFailed_moves payment.order p _) w).bind fun _ =>
      Tx.steps_pure _
  · refine (verifyOrFail_rewrites data.authority w).bind fun refId => ?_
    cases refId with
    | none => exact Tx.steps_pure _
    | some refId => exact (steps_rewrites (updatePayment_moves p _)).bind fun _ =>
        steps_rewrites (PaymentService.markPaid_moves payment.order p)

theorem resolvePayment_moves {q : Prop} (data : CallbackData) :
    (resolvePayment data).Steps (Moves q) := by
  refine Tx.steps_getDb.bind fun shop => ?_
  cases data.paymentId with
  | some p => exact (getRow_steps "Payment" _).bind fun _ => Tx.steps_pure _
  | none => exact getOnly_steps "Payment" _

theorem handleWebhookEvent_rewrites (env : Env) (event : VerifiedWebhookEvent CallbackData) :
    (handleWebhookEvent env event).Steps Rewrites :=
  (steps_rewrites (resolvePayment_moves event.dataObject)).bind fun payment =>
    settleCallback_rewrites env event.dataObject payment.1

end Settle

end ZarinpalPaymentProvider

/-! ## Stripe -/

namespace StripePaymentProvider

variable (data : StripeObject)

theorem getPaymentFromEvent_reads : (getPaymentFromEvent data).Steps Eq := by
  refine Tx.steps_getDb.bind fun shop w => ?_
  split
  · exact (getRow_steps "Payment" _).bind (fun _ => Tx.steps_pure _) w
  split
  · exact (getOnly_steps "Payment" _).bind (fun _ => Tx.steps_pure _) w
  split
  · exact (getRow_steps "Payment" _).bind (fun _ => Tx.steps_pure _) w
  · exact Tx.steps_raise _ w

theorem getPaymentFromEvent_moves {q : Prop} : (getPaymentFromEvent data).Steps (Moves q) :=
  steps_of_eq (getPaymentFromEvent_reads data)

theorem handleCheckoutCompleted_moves : (handleCheckoutCompleted data).Steps (Moves True) := by
  refine (getPaymentFromEvent_moves data).bind fun p => Tx.Steps.atomic
    ((lockPaymentWithOrder_moves p).bind fun ⟨payment, order⟩ w => ?_)
  refine .ite (fun _ => Tx.steps_pure _ w) fun _ => .ite (fun _ => ?_) fun _ => ?_
  · exact (savePaymentStatus_moves p .succeeded "" w).bind fun _ => Tx.steps_pure _
  · exact (updatePayment_moves p _ w).bind fun _ => PaymentService.markPaid_moves payment.order p

theorem handleCheckoutExpired_moves : (handleCheckoutExpired data).Steps (Moves True) := by
  refine (getPaymentFromEvent_moves data).bind fun p => Tx.Steps.atomic
    ((lockPaymentWithOrder_moves p).bind fun ⟨payment, order⟩ w => ?_)
  exact .ite (fun _ => Tx.steps_pure _ w) fun _ => PaymentService.markCancelled_moves payment.order p _ w

theorem handlePaymentFailed_moves : (handlePaymentFailed data).Steps (Moves True) := by
  refine (getPaymentFromEvent_moves data).bind fun p => Tx.Steps.atomic
    ((lockPaymentWithOrder_moves p).bind fun ⟨payment, order⟩ w => ?_)
  refine .ite (fun _ => Tx.steps_pure _ w) fun _ => .ite (fun _ => Tx.steps_pure _ w) fun _ => ?_
  exact (updatePayment_moves p _ w).bind fun _ => PaymentService.markFailed_moves payment.order p _

theorem handleChargeRefunded_moves : (handleChargeRefunded data).Steps (Moves True) :=
  Tx.steps_getDb.bind fun _ => (getOnly_steps "Payment" _).bind fun payment =>
    (OrderService.processRefund_moves payment.2.order _ _).bind fun _ => Tx.steps_pure _

theorem handleWebhookEvent_moves (event : VerifiedWebhookEvent StripeObject) :
    (handleWebhookEvent event).Steps (Moves True) := fun w =>
  .ite (fun _ => handleCheckoutCompleted_moves _ w) fun _ =>
    .ite (fun _ => handleCheckoutExpired_moves _ w) fun _ =>
      .ite (fun _ => handlePaymentFailed_moves _ w) fun _ =>
        .ite (fun _ => handleChargeRefunded_moves _ w) fun _ => Tx.steps_pure _ w

end StripePaymentProvider

/-! ## The service and the views -/

/-- The shop in the world of the database. -/
def shopWorld (w : World Database (List Observation)) : World Shop (List Observation) :=
  ⟨w.db.shop, w.ext⟩

/-- A relation between shops, on whole databases. -/
def OnShop (R : World Shop (List Observation) → World Shop (List Observation) → Prop)
    (w w' : World Database (List Observation)) : Prop := R (shopWorld w) (shopWorld w')

section Service

variable {R : World Shop (List Observation) → World Shop (List Observation) → Prop}

instance [IsPreorder _ R] : IsPreorder (World Database (List Observation)) (OnShop R) where
  refl w := refl_of R (shopWorld w)
  trans _ _ _ h h' := trans_of R h h'

instance [Tx.RestoresDb R] : Tx.RestoresDb (OnShop R) where
  restore {w w'} h := Tx.RestoresDb.restore (R := R) (w := shopWorld w) (v := shopWorld w') h

theorem onShop_steps {x : ShopTx α} {w : World Database (List Observation)}
    (h : x.StepsAt R (shopWorld w)) : (DbTx.onShop x).StepsAt (OnShop R) w :=
  h.zoom fun _ h' => h'

variable [IsPreorder _ R]

/-- The events are none of the shop's business. -/
theorem modifyDb_onShop {f : Database → Database} (h : ∀ db, (f db).shop = db.shop) :
    (Tx.modifyDb f : DbTx Unit).Steps (OnShop R) := by
  intro w
  change R (shopWorld w) ⟨(f w.db).shop, w.ext⟩
  rw [h]
  exact refl_of R _

theorem runHandler_onShop {eventId : String} {handler : ShopTx Unit}
    {w : World Database (List Observation)} (h : handler.StepsAt R (shopWorld w)) :
    (runHandler eventId handler).StepsAt (OnShop R) w :=
  .catching (onShop_steps h) fun _ =>
    (modifyDb_onShop (f := fun db => db.updateEvent _ _) fun _ => rfl).bind fun _ => Tx.steps_raise _

/-- The shop changes by what the handler does. -/
theorem processWebhook_onShop [Tx.RestoresDb R] {π κ : Type} {env : Env}
    {provider : WebhookProvider π κ} {payload : π} {signature : String}
    {w : World Database (List Observation)}
    (h : ∀ event, provider.verifyWebhook payload signature = .ok event →
      ¬w.db.isProcessed event.eventId →
        (provider.handleWebhookEvent event).StepsAt R (shopWorld w)) :
    (processWebhook env provider payload signature).StepsAt (OnShop R) w := by
  refine Tx.StepsAt.atomic (.seq (Tx.wp_ofExcept.2 ⟨fun event hevent => ⟨refl_of _ w, ?_⟩,
    fun _ _ => refl_of _ w⟩))
  refine .seq ⟨refl_of _ w, .seq ⟨refl_of R _, .ite (fun _ => Tx.steps_pure _ _) fun hnew => ?_⟩⟩
  have hunprocessed : ¬w.db.isProcessed event.eventId := by
    rintro ⟨e, he, hprocessed⟩
    refine hnew ?_
    rw [receivedEvent, he]
    exact hprocessed
  refine .bind (runHandler_onShop (h event hevent hunprocessed)) fun _ => ?_
  exact (modifyDb_onShop (f := fun db => db.updateEvent _ _) fun _ => rfl).bind fun _ =>
    Tx.steps_pure _

variable {env : Env}

theorem stripeError_onShop (exc : Exn) : (stripeError exc).Steps (OnShop R) := by
  cases exc <;> first | exact Tx.steps_pure _ | exact Tx.steps_raise _

theorem callbackError_onShop (exc : Exn) : (callbackError exc).Steps (OnShop R) := by
  cases exc <;> first | exact Tx.steps_pure _ | exact Tx.steps_raise _

theorem stripeWebhook_onShop [Tx.RestoresDb R] {payload signature : String}
    {w : World Database (List Observation)}
    (h : ∀ event, StripePaymentProvider.verifyWebhook env payload signature = .ok event →
      ¬w.db.isProcessed event.eventId →
        (StripePaymentProvider.handleWebhookEvent event).StepsAt R (shopWorld w)) :
    (stripeWebhook env payload signature).StepsAt (OnShop R) w := by
  refine .catching (.bind ?_ fun _ => Tx.steps_pure _) stripeError_onShop
  refine .seq (Tx.wp_when.2 ⟨fun _ => refl_of (OnShop R) w, fun _ => ⟨refl_of _ w, ?_⟩⟩)
  refine .seq (Tx.wp_bind.2 (Tx.wp_when.2 ⟨fun _ => refl_of (OnShop R) w, fun _ => ?_⟩))
  exact Tx.wp_when.2 ⟨fun _ => refl_of (OnShop R) w, fun _ => ⟨refl_of _ w, processWebhook_onShop h⟩⟩

theorem zarinpalCallback_onShop [Tx.RestoresDb R] {request : CallbackRequest}
    {w : World Database (List Observation)}
    (h : ∀ event, (ZarinpalPaymentProvider.handleWebhookEvent env event).StepsAt R (shopWorld w)) :
    (zarinpalCallback env request).StepsAt (OnShop R) w := by
  refine .ite (fun _ => Tx.steps_pure _ w) fun _ => .seq ⟨refl_of _ w, ?_⟩
  refine .catching (.bind ?_ fun _ => Tx.steps_pure _) callbackError_onShop
  refine .seq (Tx.wp_when.2 ⟨fun _ => refl_of (OnShop R) w, fun _ => ⟨refl_of _ w, ?_⟩⟩)
  exact processWebhook_onShop fun event _ _ => h event

end Service

theorem stripeWebhook_moves (env : Env) (payload signature : String) :
    (stripeWebhook env payload signature).Steps (OnShop (Moves True)) := fun _ =>
  stripeWebhook_onShop fun event _ _ => StripePaymentProvider.handleWebhookEvent_moves event _

theorem zarinpalCallback_rewrites (env : Env) (request : CallbackRequest) :
    (zarinpalCallback env request).Steps (OnShop Rewrites) := fun _ =>
  zarinpalCallback_onShop fun event =>
    ZarinpalPaymentProvider.handleWebhookEvent_rewrites env event _

end Crumbs
