import Crumbs.System
import Crumbs.Writes.Webhooks

/-!
# What a Run Writes

Every operation of the system is a chain of writes to the shop, and so is every run. What each
write preserves therefore holds after every run.

## Contents

- `ShopCall.run_moves`: the calls
- `Step.exec_writes`: the steps
- `inv_of_write`: invariants of the writes are invariants of the runs
- `not_notesFailure_after`: the failed deliveries of a run leave no note
-/

namespace Crumbs

open Crumbs.Db

theorem steps_void {α δ : Type} {R : World δ (List Observation) → World δ (List Observation) → Prop}
    [IsPreorder _ R] {x : Tx δ (List Observation) Exn α} (h : x.Steps R) : (Tx.void x).Steps R :=
  fun w => (h w).void

theorem ShopCall.run_moves (env : Env) (call : ShopCall) : (call.run env).Steps (Moves True) := by
  cases call with
  | expireStaleReservations => exact steps_void (expireStaleReservations_does env).moves
  | addItem c product quantity => exact steps_void (addItem_moves env c product quantity)
  | setItemQuantity c product quantity =>
    exact steps_void (setItemQuantity_moves env c product quantity)
  | removeItem c product => exact removeItem_moves c product
  | clearCart c => exact clearCart_moves c
  | processCheckout c customer user growth =>
    exact steps_void (DeliveryServiceCheckout.processCheckout_moves env c customer user growth)
  | processCounterCheckout c customer paymentMethod user =>
    exact steps_void (CounterCheckoutService.processCheckout_moves env c customer paymentMethod user)
  | transition o newStatus note actor =>
    exact steps_void (OrderService.transition_moves o newStatus note actor)
  | cancel o reason actor => exact steps_void (OrderService.cancel_moves o reason actor)
  | markPaymentFailed o reason actor =>
    exact steps_void (OrderService.markPaymentFailed_moves o reason actor)
  | requestRefund o reason actor => exact steps_void (OrderService.requestRefund_moves o reason actor)
  | processRefund o reason actor => exact steps_void (OrderService.processRefund_moves o reason actor)
  | completeDelivery o actor => exact steps_void (OrderService.completeDelivery_moves o actor)
  | reserveStock o => exact OrderService.reserveStock_moves o env
  | confirmStock o => exact OrderService.confirmStock_moves o
  | releaseStock o => exact OrderService.releaseStock_moves o
  | finalizeCounterPayment o actor =>
    exact steps_void (OrderService.finalizeCounterPayment_moves o actor)
  | finalizeOnlinePayment o => exact steps_void (OrderService.finalizeOnlinePayment_moves o)
  | confirmCod o actor => exact steps_void (OrderService.confirmCod_moves o actor)
  | recordCashReceived o actor => exact steps_void (OrderService.recordCashReceived_moves o actor)
  | startPreparing o seen actor => exact steps_void (startPreparing_moves o seen actor)
  | markReady o actor => exact steps_void (markReady_moves o actor)
  | completePickupOrder o seen actor => exact steps_void (completePickupOrder_moves o seen actor)
  | initiateOnline o => exact steps_void (PaymentService.initiateOnline_moves env o)
  | initiatePayment o seen => exact steps_void (PaymentService.initiatePayment_moves env o seen)
  | initiateCounterPayment o seen paymentMethod =>
    exact steps_void (PaymentService.initiateCounterPayment_moves env o seen paymentMethod)
  | markCounterCashReceived o p actor =>
    exact steps_void (PaymentService.markCounterPaymentReceived_moves o p actor _).atomic
  | markCounterCardReceived o p actor =>
    exact steps_void (PaymentService.markCounterPaymentReceived_moves o p actor _).atomic
  | markPaid o p => exact PaymentService.markPaid_moves o p
  | markCodCashReceived o p actor =>
    exact steps_void (PaymentService.markCodCashReceived_moves o p actor)
  | ensureCodCashFinalized o p actor =>
    exact steps_void (PaymentService.ensureCodCashFinalized_moves o actor p)
  | markFailed o p message => exact PaymentService.markFailed_moves o p message
  | markCancelled o p message => exact PaymentService.markCancelled_moves o p message
  | refundPayment o => exact PaymentService.processRefund_moves o
  | cleanupStaleOnlinePayment p => exact steps_void (cleanupStaleOnlinePayment_moves env p)
  | cleanupStaleOnlinePayments timeoutMinutes =>
    exact steps_void (cleanupStaleOnlinePayments_moves env timeoutMinutes)

/-- Whatever a step runs, it chains writes to the shop. -/
theorem Step.exec_writes (step : Step) (db : Database) :
    Relation.ReflTransGen (Shop.Write True) db.shop (step.exec db).db.shop := by
  have hsteps : (step.operation.run step.env).StepsAt (OnShop Rewrites) ⟨db, []⟩ := by
    cases step.operation with
    | call call => exact onShop_steps (steps_rewrites (call.run_moves step.env) _)
    | zarinpalCallback request => exact (zarinpalCallback_rewrites step.env request _).void
    | stripeWebhook payload signature =>
      exact ((stripeWebhook_moves step.env payload signature _).mono
        fun _ h => Moves.rewrites h).void
  exact hsteps.run

/-- What every write preserves holds after every run. -/
theorem inv_of_write {I : Shop → Prop} (hwrite : ∀ {s s'}, Shop.Write True s s' → I s → I s')
    {db : Database} (run : List Step) (hdb : I db.shop) : I (after db run).shop := by
  refine inv_after (I := fun db => I db.shop) run hdb fun db step h => ?_
  have hwrites := step.exec_writes db
  generalize (step.exec db).db.shop = s' at hwrites ⊢
  induction hwrites with
  | refl => exact h
  | tail _ hlast ih => exact hwrite hlast ih

/-! ## Events -/

/-- Every event with a row stays processed. -/
private def KeepsProcessed (w w' : World Database (List Observation)) : Prop :=
  w.db.AllProcessed → w'.db.AllProcessed

private instance : IsPreorder (World Database (List Observation)) KeepsProcessed where
  refl _ := id
  trans _ _ _ h h' := h' ∘ h

private theorem processWebhook_keepsProcessed {π κ : Type} (env : Env)
    (provider : WebhookProvider π κ) (payload : π) (signature : String) :
    (processWebhook env provider payload signature).Steps KeepsProcessed := fun _ =>
  .of_run processWebhook_allProcessed

private theorem onShop_keepsProcessed (x : ShopTx Unit) :
    (DbTx.onShop x).Steps KeepsProcessed := fun _ =>
  Tx.wp_zoom.2 ((Tx.wp_iff x).2 ⟨fun _ _ _ h => h, fun _ _ _ h => h⟩)

/-- No step leaves an unprocessed event behind. -/
theorem Step.exec_allProcessed (step : Step) {db : Database} (h : db.AllProcessed) :
    (step.exec db).db.AllProcessed := by
  have hsteps : (step.operation.run step.env).Steps KeepsProcessed := by
    cases step.operation with
    | call call => exact onShop_keepsProcessed (call.run step.env)
    | zarinpalCallback request =>
      refine steps_void fun w => .ite (fun _ => Tx.steps_pure _ w) fun _ => ?_
      refine .bind (Tx.steps_getDb w) fun _ w => ?_
      refine .catching (.bind (.bind (.when fun _ => Tx.steps_raise _ w) fun _ => ?_)
        fun _ => Tx.steps_pure _) fun exc => ?_
      · exact processWebhook_keepsProcessed _ _ _ _
      · cases exc <;> first | exact Tx.steps_pure _ | exact Tx.steps_raise _
    | stripeWebhook payload signature =>
      refine steps_void fun w => .catching (.bind (.bind (.when fun _ => Tx.steps_raise _ w)
        fun _ => ?_) fun _ => Tx.steps_pure _) fun exc => ?_
      · refine .bind (fun w => .bind (.when fun _ => Tx.steps_raise _ w) fun _ w =>
          .when fun _ => Tx.steps_raise _ w) fun _ => processWebhook_keepsProcessed _ _ _ _
      · cases exc <;> first | exact Tx.steps_pure _ | exact Tx.steps_raise _
  exact (hsteps ⟨db, []⟩).run h

/-- From a database in which every event was processed, no run ever leads to one that notes a
    failure. -/
theorem not_notesFailure_after {db : Database} (run : List Step) (h : db.AllProcessed)
    (id : String) (exc : Exn) : ¬(after db run).NotesFailure id exc :=
  (inv_after run h fun _ step hdb => step.exec_allProcessed hdb).not_notesFailure id exc

end Crumbs
