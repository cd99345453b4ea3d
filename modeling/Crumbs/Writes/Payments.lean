import Crumbs.Writes.Orders

/-!
# What the Payment Services Write

## Contents

- `CheckoutProvider.ReadsOnly`: providers only ask their gateways
- `PaymentService.…_moves`: the operations
-/

namespace Crumbs

open Crumbs.Db

variable {α : Type} {q : Prop}

/-! ## Payments -/

theorem updatePayment_moves (p : PaymentId) (f : Payment → Payment) :
    (Tx.modifyDb fun shop => shop.updatePayment p f : ShopTx Unit).Steps (Moves q) :=
  moves_modifyDb fun s => .payments s _

theorem createPayment_moves (payment : Payment) : (createPayment payment).Steps (Moves q) :=
  Tx.steps_getDb.bind fun _ =>
    Tx.Steps.bind (moves_modifyDb fun s => .payments s _) fun _ => Tx.steps_pure _

/-! ## Providers -/

/-- The provider asks its gateway and reads the shop, and writes nothing. -/
def CheckoutProvider.ReadsOnly (provider : CheckoutProvider) : Prop :=
  ∀ order payment, (provider.createCheckoutSession order payment).Steps Eq

theorem validateOrderPaymentAmount_reads (order : Order) (payment : Payment) :
    (ZarinpalPaymentProvider.validateOrderPaymentAmount order payment).Steps Eq := by
  refine Tx.Steps.bind (fun w => .when fun _ => Tx.steps_raise _ w) fun _ => ?_
  refine Tx.Steps.bind (fun w => .when fun _ => Tx.steps_raise _ w) fun _ => ?_
  exact Tx.Steps.bind (fun w => .when fun _ => Tx.steps_raise _ w) fun _ => Tx.steps_pure _

theorem zarinpal_reads (env : Env) (order : Order) (payment : PaymentId × Payment) :
    (ZarinpalPaymentProvider.createCheckoutSession env order payment).Steps Eq := by
  refine (validateOrderPaymentAmount_reads order payment.2).bind fun amount => ?_
  refine Tx.Steps.bind (fun w => .when fun _ => Tx.steps_raise _ w) fun _ w => ?_
  dsimp only
  split
  · exact Tx.steps_raise _ w
  · exact Tx.steps_pure _ w

theorem stripe_reads (env : Env) (order : Order) (payment : PaymentId × Payment) :
    (StripePaymentProvider.createCheckoutSession env order payment).Steps Eq := by
  refine Tx.Steps.bind (fun w => .when fun _ => Tx.steps_raise _ w) fun _ => ?_
  refine Tx.steps_getDb.bind fun shop w => ?_
  dsimp only
  split
  · exact Tx.steps_raise _ w
  · exact Tx.steps_pure _ w

theorem getOnlinePaymentProvider_reads (env : Env) (w : World Shop (List Observation)) :
    (getOnlinePaymentProvider env).wp (fun provider w' => w = w' ∧ provider.ReadsOnly)
      (fun _ w' => w = w') w := by
  rw [getOnlinePaymentProvider, Tx.wp_ite, Tx.wp_ite]
  refine ⟨fun _ => ?_, fun _ => ⟨fun _ => ?_, fun _ => rfl⟩⟩
  · exact Tx.wp_seq (P := fun _ w' => w = w') (Tx.StepsAt.when fun _ => Tx.steps_raise _ w)
      (fun _ _ h => ⟨h, zarinpal_reads env⟩) (fun _ _ h => h)
  · refine Tx.wp_seq (P := fun _ w' => w = w') (Tx.StepsAt.when fun _ => Tx.steps_raise _ w)
      (fun _ w' h => ?_) (fun _ _ h => h)
    subst h
    refine Tx.wp_seq (P := fun _ w' => w = w') (F := fun _ w' => w = w') ?_
      (fun _ _ h => ⟨h, stripe_reads env⟩) (fun _ _ h => h)
    exact Tx.StepsAt.bind (.when fun _ => Tx.steps_raise _ w) fun _ w =>
      .when fun _ => Tx.steps_raise _ w

theorem steps_of_eq {R : World Shop (List Observation) → World Shop (List Observation) → Prop}
    [IsPreorder _ R] {x : ShopTx α} (h : x.Steps Eq) : x.Steps R := fun w =>
  (h w).mono fun _ hw => hw ▸ refl_of R w

/-! ## Opening a payment -/

namespace PaymentService

variable (env : Env) (o : OrderId)

theorem reusePayment_moves (order : Order) (currency : String) (existing : PaymentId × Payment) :
    (reusePayment order currency existing).Steps (Moves q) :=
  Tx.Steps.bind (fun w => .when fun _ => Tx.steps_raise _ w) fun _ =>
    Tx.Steps.bind (fun w => .when fun _ => Tx.steps_raise _ w) fun _ => Tx.steps_pure _

theorem openPayment_moves {provider : CheckoutProvider} (hprovider : provider.ReadsOnly)
    (order : Order) (currency : String) :
    (openPayment env provider o order currency).Steps (Moves q) := by
  refine (createPayment_moves _).bind fun payment => ?_
  refine (steps_of_eq (hprovider order payment)).bind fun session => ?_
  exact (updatePayment_moves payment.1 _).bind fun _ =>
    (setPaymentStatus_moves o order .pendingPayment).bind fun _ => Tx.steps_pure _

theorem initiateOnline_moves : (initiateOnline env o).Steps (Moves q) := by
  refine fun w => Tx.StepsAt.atomic (moves_lockOrder fun order _ => ?_)
  refine .bind (.when fun _ => Tx.steps_raise _ w) fun _ => ?_
  refine Tx.Steps.bind (fun w => .when fun _ => Tx.steps_raise _ w) fun _ w => ?_
  refine .seq (Tx.wp_mono (getOnlinePaymentProvider_reads env w) (fun provider w' h => ?_)
    (fun _ _ h => h ▸ refl_of _ w))
  obtain ⟨rfl, hprovider⟩ := h
  refine ⟨refl_of _ w, .seq ⟨refl_of _ w, ?_⟩⟩
  dsimp only
  split
  · exact reusePayment_moves order _ _ w
  · exact openPayment_moves env o hprovider order _ w

theorem initiateCod_moves (order : Order) : (initiateCod env o order).Steps (Moves q) :=
  Tx.Steps.atomic (Tx.Steps.bind (fun w => .when fun _ => Tx.steps_raise _ w) fun _ =>
    createPayment_moves _)

theorem initiatePayment_moves (order : Order) :
    (initiatePayment env o order).Steps (Moves q) := fun w =>
  .ite (fun _ => initiateCod_moves env o order w) fun _ => initiateOnline_moves env o w

theorem initiateCounterPayment_moves (order : Order) (paymentMethod : PaymentMethod) :
    (initiateCounterPayment env o order paymentMethod).Steps (Moves q) := by
  refine Tx.Steps.atomic (Tx.Steps.bind (fun w => .when fun _ => Tx.steps_raise _ w) fun _ => ?_)
  refine Tx.Steps.bind (fun w => .when fun _ => Tx.steps_raise _ w) fun _ => ?_
  refine Tx.Steps.bind (fun w => ?_) fun provider => Tx.steps_getDb.bind fun shop w => ?_
  · cases paymentMethod <;> first | exact Tx.steps_pure _ w | exact Tx.steps_raise _ w
  · dsimp only
    split
    · exact Tx.steps_pure _ w
    · exact createPayment_moves _ w

/-! ## The money has arrived, or has not -/

variable (p : PaymentId) (actor message : String)

theorem markCounterPaymentReceived_moves (expectedProvider : Provider) :
    (markCounterPaymentReceived o p expectedProvider actor).Steps (Moves True) := by
  refine fun w => Tx.StepsAt.atomic (moves_lockOrder fun order _ => ?_)
  refine (lockPayment_moves p w).bind fun payment => ?_
  refine Tx.Steps.bind (fun w => .when fun _ => Tx.steps_raise _ w) fun _ => ?_
  refine Tx.Steps.bind (fun w => .when fun _ => Tx.steps_raise _ w) fun _ => ?_
  refine Tx.Steps.bind (fun w => .when fun _ => Tx.steps_raise _ w) fun _ w => ?_
  refine .ite (fun _ => Tx.steps_pure _ w) fun _ => .ite (fun _ => .ite
    (fun _ => Tx.steps_pure _ w) fun _ => OrderService.finalizeCounterPayment_moves o actor w)
    fun _ => ?_
  exact (updatePayment_moves p _ w).bind fun _ => OrderService.finalizeCounterPayment_moves o actor

theorem markPaid_moves : (markPaid o p).Steps (Moves True) := by
  refine fun w => Tx.StepsAt.atomic (moves_lockOrder fun order _ => ?_)
  refine (lockPayment_moves p w).bind fun payment w => .ite (fun _ => Tx.steps_pure _ w) fun _ => ?_
  refine .ite (fun _ => (updatePayment_moves p _ w).bind fun _ => Tx.steps_pure _) fun _ => ?_
  exact (updatePayment_moves p _ w).bind fun _ =>
    (OrderService.finalizeOnlinePayment_moves o).bind fun _ => Tx.steps_pure _

theorem codPayment_moves (payment : Option PaymentId) :
    (codPayment o payment).Steps (Moves q) := by
  cases payment with
  | some p => exact (lockPayment_moves p).bind fun _ => Tx.steps_pure _
  | none => exact Tx.steps_getDb.bind fun _ => Tx.steps_pure _

theorem ensureCodCashFinalized_moves (payment : Option PaymentId) :
    (ensureCodCashFinalized o payment actor).Steps (Moves True) := by
  refine fun w => Tx.StepsAt.atomic (moves_lockOrder fun order _ => ?_)
  refine .ite (fun _ => Tx.steps_pure _ w) fun _ => (codPayment_moves o payment w).bind fun found => ?_
  cases found with
  | none => exact Tx.steps_pure _
  | some e => exact Tx.Steps.bind (fun w => .when fun _ => updatePayment_moves e.1 _ w) fun _ =>
      OrderService.recordCashReceived_moves o actor

theorem markCodCashReceived_moves : (markCodCashReceived o p actor).Steps (Moves True) := by
  refine fun w => Tx.StepsAt.atomic (moves_lockOrder fun order _ => ?_)
  refine (lockPayment_moves p w).bind fun payment => ?_
  refine Tx.Steps.bind (fun w => .when fun _ => Tx.steps_raise _ w) fun _ => ?_
  refine Tx.Steps.bind (fun w => .when fun _ => Tx.steps_raise _ w) fun _ => ?_
  refine Tx.Steps.bind (fun w => .when fun _ => ?_) fun _ =>
    ensureCodCashFinalized_moves o actor (some p)
  exact (setPaymentStatus_moves o order .cashReceived w).bind fun _ => Tx.steps_pure _

theorem markFailed_moves : (markFailed o p message).Steps (Moves True) := by
  refine fun w => Tx.StepsAt.atomic (moves_lockOrder fun order _ => ?_)
  refine (lockPayment_moves p w).bind fun payment w => .ite (fun _ => Tx.steps_pure _ w) fun _ =>
    .ite (fun _ => Tx.steps_pure _ w) fun _ => ?_
  exact (updatePayment_moves p _ w).bind fun _ =>
    (OrderService.markPaymentFailed_moves o message _).bind fun _ => Tx.steps_pure _

theorem markCancelled_moves : (markCancelled o p message).Steps (Moves q) := by
  refine fun w => Tx.StepsAt.atomic (moves_lockOrder fun order _ => ?_)
  refine (lockPayment_moves p w).bind fun payment w => .ite (fun _ => Tx.steps_pure _ w) fun _ =>
    .ite (fun _ => Tx.steps_pure _ w) fun _ => ?_
  exact (updatePayment_moves p _ w).bind fun _ w => .when fun _ =>
    (setPaymentStatus_moves o order .pendingPayment w).bind fun _ => Tx.steps_pure _

end PaymentService

end Crumbs
