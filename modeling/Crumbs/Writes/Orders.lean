import Crumbs.Writes.Rules

/-!
# What the Order Services Write

## Contents

- `OrderService.…_moves`: the operations, those that keep the status of the order first
- `startPreparing_moves`, …: the staff screens
-/

namespace Crumbs

open Crumbs.Db

variable {α : Type}

/-! ## Orders -/

section Orders

variable {q : Prop} (o : OrderId)

theorem setPaymentStatus_moves (order : Order) (paymentStatus : OrderPaymentStatus) :
    (setPaymentStatus o order paymentStatus).Steps (Moves q) :=
  Tx.Steps.bind (moves_modifyDb fun s => .order s o _ fun _ => rfl) fun _ => Tx.steps_pure _

/-- Booking the lines of an order is not atomic by itself. -/
theorem reserveOrderItems_commits (env : Env) (items : List (OrderItem × ℕ))
    (w : World Shop (List Observation)) : Commits q (reserveOrderItems env o items) w := by
  induction items generalizing w with
  | nil => exact refl_of _ w
  | cons item rest ih =>
    refine .bind ?_ fun reservation w₁ => ?_
    · refine Tx.wp_zoom.2 (Tx.wp_mono (reserveItem_does _ _ _ _ _ _ (stockWorld w))
        (fun _ w' h => ?_) (fun _ _ h => h.quiet))
      obtain ⟨obs, hsections, hext⟩ := h
      exact ⟨.single (.stock w.db w'.db obs hsections), ⟨obs, hext, hsections.isClamp⟩⟩
    · refine .bind (.of_moves (moves_modifyDb (fun s => .orderItems s _) w₁)) fun _ w₂ => ?_
      exact .bind (ih w₂) fun _ w₃ => refl_of _ w₃

theorem reserveForOrder_moves (env : Env) : (reserveForOrder env o).Steps (Moves q) := by
  refine fun w => Commits.atomic (.bind (.of_moves (Tx.steps_getDb w)) fun shop w₁ => ?_)
  refine .bind (reserveOrderItems_commits o env _ w₁) fun reservations w₂ => .of_moves ?_
  refine Tx.StepsAt.bind (moves_modifyDb (fun s => .order s o _ ?fields) w₂) fun _ =>
    Tx.steps_pure _
  case fields => exact fun _ => rfl

theorem PaymentService.processRefund_moves :
    (PaymentService.processRefund o).Steps (Moves q) := by
  refine fun w => Tx.StepsAt.atomic (moves_lockOrder fun order _ => ?_)
  refine .seq ⟨refl_of _ w, .ifSome fun e he => .when fun hsucceeded => ?_⟩
  exact Moves.of_write (.payments _ _)

namespace OrderService

theorem addNote_moves (order : Order) (note actor : String) {w : World Shop (List Observation)}
    (hrow : w.db.orders.rows o = some order) :
    (Tx.modifyDb fun shop => shop.addStatusLog
      { order := o, fromStatus := order.status, toStatus := order.status, note, actor } :
        ShopTx Unit).StepsAt (Moves q) w :=
  Moves.of_write (.note _ o order note actor hrow)

theorem requestRefund_moves (reason actor : String) :
    (requestRefund o reason actor).Steps (Moves q) := by
  refine fun w => Tx.StepsAt.atomic (moves_lockOrder fun order hrow => ?_)
  refine .seq ⟨Moves.of_write (.order _ o _ fun _ => rfl), ?_⟩
  refine .bind (addNote_moves o { order with paymentStatus := .refundRequested } _ actor ?_)
    fun _ => Tx.steps_pure _
  change (w.db.orders.modify o _).rows o = _
  rw [Table.rows_modify_self, hrow]
  rfl

theorem settleDelivery_moves (order : Order) : (settleDelivery o order).Steps (Moves q) :=
  fun w => .ite (fun _ => .when fun _ => Tx.steps_raise _ w) fun _ =>
    (fulfillReservations_does o).moves w

theorem confirmStock_moves : (confirmStock o).Steps (Moves q) :=
  (confirmReservations_does o).moves.atomic

theorem releaseStock_moves : (releaseStock o).Steps (Moves q) :=
  (releaseReservations_does o).moves.atomic

theorem confirmCod_moves (actor : String) : (confirmCod o actor).Steps (Moves q) := by
  refine fun w => Tx.StepsAt.atomic (moves_lockOrder fun order hrow => ?_)
  refine .seq (Tx.wp_when.2 ⟨fun _ => refl_of _ w, fun _ => ⟨refl_of _ w, ?_⟩⟩)
  refine .seq ⟨Moves.of_write (.order _ o _ fun _ => rfl), ?_⟩
  refine .bind (addNote_moves o { order with paymentStatus := .codConfirmed } _ actor ?_)
    fun _ => Tx.steps_pure _
  change (w.db.orders.modify o _).rows o = _
  rw [Table.rows_modify_self, hrow]
  rfl

theorem reserveStock_moves (env : Env) : (reserveStock env o).Steps (Moves q) :=
  Tx.Steps.atomic (Tx.Steps.bind (reserveForOrder_moves o env) fun _ => Tx.steps_pure _)

end OrderService

namespace OrderService

theorem transition_moves (newStatus : OrderStatus) (note actor : String) :
    (transition o newStatus note actor).Steps (Moves True) := by
  intro w
  cases hrow : w.db.orders.rows o with
  | none =>
    obtain ⟨e, hrun⟩ := transition_missing newStatus note actor hrow
    exact moves_of_error hrun (.refl _)
  | some order =>
    by_cases hsame : order.status = newStatus
    · have hrun := transition_same newStatus note actor hrow hsame
      exact (Tx.wp_iff _).2 ⟨fun _ w' h => by cases hrun.symm.trans h; exact refl_of _ w,
        fun _ _ h => (nomatch hrun.symm.trans h)⟩
    · by_cases hedge : newStatus ∈ order.status.allowedTransitions
      · have hrun := transition_changes newStatus note actor hrow hsame hedge
        refine (Tx.wp_iff _).2 ⟨fun _ w' h => ?_, fun _ _ h => (nomatch hrun.symm.trans h)⟩
        cases hrun.symm.trans h
        exact .of_write (.restatus _ o order newStatus note actor hrow
          trivial hsame hedge)
      · obtain ⟨e, hrun⟩ := transition_forbidden newStatus note actor hrow
          (not_or.2 ⟨hsame, hedge⟩)
        exact moves_of_error hrun (.refl _)

theorem cancel_moves (reason actor : String) : (cancel o reason actor).Steps (Moves True) := by
  refine fun w => Tx.StepsAt.atomic (moves_lockOrder fun order _ => ?_)
  refine .ite (fun _ => Tx.steps_pure _ w) fun _ => ?_
  refine ((releaseReservations_does o).moves w).bind fun _ => ?_
  refine Tx.Steps.bind (fun w => ?_) fun _ =>
    (transition_moves o .cancelled reason actor).bind fun _ => Tx.steps_pure _
  exact Tx.StepsAt.ite (fun _ => setPaymentStatus_moves o order .failed w) fun _ =>
    Tx.steps_pure _ w

theorem markPaymentFailed_moves (reason actor : String) :
    (markPaymentFailed o reason actor).Steps (Moves True) := by
  refine fun w => Tx.StepsAt.atomic (moves_lockOrder fun order _ => ?_)
  refine .ite (fun _ => Tx.steps_pure _ w) fun _ => .ite (fun _ => Tx.steps_pure _ w) fun _ => ?_
  refine ((releaseReservations_does o).moves w).bind fun _ => ?_
  exact (setPaymentStatus_moves o order .failed).bind fun _ =>
    (transition_moves o .cancelled reason actor).bind fun _ => Tx.steps_pure _

theorem completeDelivery_moves (actor : String) :
    (completeDelivery o actor).Steps (Moves True) := by
  refine fun w => Tx.StepsAt.atomic (moves_lockOrder fun order _ => ?_)
  exact (settleDelivery_moves o order w).bind fun _ => transition_moves o .delivered "" actor

theorem finalizeCounterPayment_moves (actor : String) :
    (finalizeCounterPayment o actor).Steps (Moves True) := by
  refine fun w => Tx.StepsAt.atomic (moves_lockOrder fun order _ => ?_)
  refine .ite (fun _ => Tx.steps_pure _ w) fun _ => ?_
  refine (setPaymentStatus_moves o order .paid w).bind fun _ => ?_
  exact (confirmReservations_does o).moves.bind fun _ => transition_moves o .preparing _ actor

theorem finalizeOnlinePayment_moves : (finalizeOnlinePayment o).Steps (Moves True) := by
  refine fun w => Tx.StepsAt.atomic (moves_lockOrder fun order _ => ?_)
  refine .ite (fun _ => Tx.steps_pure _ w) fun _ => ?_
  refine (setPaymentStatus_moves o order .paid w).bind fun _ => ?_
  refine (confirmReservations_does o).moves.bind fun _ => ?_
  exact (transition_moves o .paid _ _).bind fun _ => transition_moves o .confirmedByShop _ _

theorem recordCashReceived_moves (actor : String) :
    (recordCashReceived o actor).Steps (Moves True) := by
  refine fun w => Tx.StepsAt.atomic (moves_lockOrder fun order _ => ?_)
  refine ((confirmReservations_does o).moves w).bind fun _ => ?_
  refine (fulfillReservations_does o).moves.bind fun _ => Tx.Steps.bind (fun w => ?_) fun _ w => ?_
  · exact Tx.StepsAt.ite (fun _ => setPaymentStatus_moves o order .cashReceived w) fun _ =>
      Tx.steps_pure _ w
  · exact .ite (fun _ => transition_moves o .delivered _ actor w) fun _ => Tx.steps_pure _ w

theorem processRefund_moves (reason actor : String) :
    (processRefund o reason actor).Steps (Moves True) := by
  refine fun w => Tx.StepsAt.atomic (moves_lockOrder fun order _ => ?_)
  refine .ite (fun _ => Tx.steps_pure _ w) fun _ => ?_
  refine (PaymentService.processRefund_moves o w).bind fun _ => ?_
  refine (releaseReservations_does o).moves.bind fun _ => ?_
  exact (setPaymentStatus_moves o order .refundProcessed).bind fun _ =>
    (transition_moves o .refunded reason actor).bind fun _ => Tx.steps_pure _

end OrderService

/-! ### Staff screens -/

theorem completePickupOrder_moves (seen : OrderStatus) (actor : String) :
    (completePickupOrder o seen actor).Steps (Moves True) := by
  refine Tx.Steps.bind (fun w => .when fun _ => ?_) fun _ =>
    OrderService.completeDelivery_moves o actor
  exact (OrderService.transition_moves o .outForDelivery _ actor w).bind fun _ => Tx.steps_pure _

theorem startConfirmed_moves (order : Order) (actor : String) :
    (startConfirmed o order actor).Steps (Moves True) := fun w =>
  .ite (fun _ => OrderService.transition_moves o .preparing _ actor w) fun _ => Tx.steps_raise _ w

theorem startPreparing_moves (seen : Order) (actor : String) :
    (startPreparing o seen actor).Steps (Moves True) := by
  refine fun w => .ite (fun _ => Tx.steps_pure _ w) fun _ => .ite (fun _ => ?_) fun _ =>
    startConfirmed_moves o seen actor w
  refine (OrderService.transition_moves o .confirmedByShop _ actor w).bind fun _ w => ?_
  exact moves_lockOrder fun order _ => startConfirmed_moves o order actor w

theorem markReady_moves (actor : String) : (markReady o actor).Steps (Moves True) :=
  OrderService.transition_moves o .packaged _ actor

end Orders

end Crumbs
