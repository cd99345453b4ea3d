import Crumbs.Orders.Validation
import Crumbs.Writes.Payments

/-!
# What Carts, Checkouts and the Cleanup Write

## Contents

- `addItem_moves`, …: carts
- `processCheckout_moves`, …: checkouts
- `cleanupStaleOnlinePayments_moves`: the cleanup task
-/

namespace Crumbs

open Crumbs.Db

variable {α : Type}

/-! ## Carts -/

section Carts

variable {q : Prop} (env : Env) (c : CartId) (product : ProductId) (quantity : ℤ)

/-- Looking things up fills in default rows of the stock. -/
theorem OnlyLooks.moves {x : StockTx α} (h : OnlyLooks x) :
    (ShopTx.onStock x).Steps (Moves q) := fun w =>
  Tx.wp_zoom.2 (Tx.wp_mono (h (stockWorld w))
    (fun _ w' h' => ⟨.single (.touch w.db w'.db h'.1), h'.2 ▸ .refl _⟩)
    (fun _ w' h' => ⟨.single (.touch w.db w'.db h'.1), h'.2 ▸ .refl _⟩))

theorem getRow_steps {R : World Shop (List Observation) → World Shop (List Observation) → Prop}
    [IsPreorder _ R] (model : String) (row : Option α) : (getRow model row : ShopTx α).Steps R := by
  cases row with
  | none => exact Tx.steps_raise _
  | some a => exact Tx.steps_pure a

theorem getOnly_steps {R : World Shop (List Observation) → World Shop (List Observation) → Prop}
    [IsPreorder _ R] (model : String) (rows : List α) :
    (getOnly model rows : ShopTx α).Steps R := by
  rcases rows with _ | ⟨a, _ | ⟨b, rest⟩⟩
  · exact Tx.steps_raise _
  · exact Tx.steps_pure a
  · exact Tx.steps_raise _

theorem getCart_moves : (getCart c).Steps (Moves q) :=
  Tx.steps_getDb.bind fun _ => getRow_steps "Cart" _

theorem lockOrder_moves (o : OrderId) : (lockOrder o).Steps (Moves q) :=
  Tx.steps_getDb.bind fun _ => getRow_steps "Order" _

theorem updateCart_moves (f : Cart → Cart) :
    (Tx.modifyDb fun shop => shop.updateCart c f : ShopTx Unit).Steps (Moves q) :=
  moves_modifyDb fun s => .carts s _ s.cartItems

theorem ensureCartMutable_moves : (ensureCartMutable c).Steps (Moves q) :=
  (getCart_moves c).bind fun _ w => .ifSome fun o _ =>
    (lockOrder_moves o).bind (fun _ w => .when fun _ => Tx.steps_raise _ w) w

theorem validateProduct_moves (cart : Option CartId) :
    (validateProduct product quantity cart).Steps (Moves q) :=
  Tx.steps_getDb.bind fun _ => Tx.Steps.bind (fun w => .when fun _ => Tx.steps_raise _ w) fun _ =>
    checkCartAvailability_looks.moves

theorem saveCartItem_moves : (saveCartItem c product quantity).Steps (Moves q) := by
  intro w
  rw [saveCartItem]
  split
  · exact (Tx.Steps.bind (moves_modifyDb fun s => .carts s s.carts _) fun _ => Tx.steps_pure _) w
  · exact Tx.steps_raise _ w

theorem addItem_moves : (addItem env c product quantity).Steps (Moves q) := by
  refine Tx.Steps.atomic ((ensureCartMutable_moves c).bind fun _ => ?_)
  refine Tx.Steps.bind (fun w => .when fun _ => Tx.steps_raise _ w) fun _ => ?_
  refine Tx.steps_getDb.bind fun shop => (validateProduct_moves product _ (some c)).bind fun _ => ?_
  exact (saveCartItem_moves c product _).bind fun item =>
    (reserveForCartItem_does env c product _).moves.bind fun _ => Tx.steps_pure _

theorem setItemQuantity_moves : (setItemQuantity env c product quantity).Steps (Moves q) := by
  refine Tx.Steps.atomic ((ensureCartMutable_moves c).bind fun _ => ?_)
  refine Tx.Steps.bind (fun w => .when fun _ => Tx.steps_raise _ w) fun _ => ?_
  refine (validateProduct_moves product _ (some c)).bind fun _ => ?_
  exact (saveCartItem_moves c product _).bind fun item =>
    (reserveForCartItem_does env c product _).moves.bind fun _ => Tx.steps_pure _

theorem removeItem_moves : (removeItem c product).Steps (Moves q) :=
  (ensureCartMutable_moves c).bind fun _ =>
    (releaseCartReservationsForProduct_does c product).moves.bind fun _ =>
      moves_modifyDb fun s => .carts s s.carts _

theorem clearCart_moves : (clearCart c).Steps (Moves q) :=
  (releaseCartReservations_does c).moves.bind fun _ => moves_modifyDb fun s => .carts s s.carts _

end Carts

/-! ## Checkouts -/

section Checkouts

variable {q : Prop} (env : Env) (c : CartId)

theorem validateCartItems_moves (items : List CartItem) :
    (validateCartItems items).Steps (Moves q) := by
  refine Tx.Steps.bind (fun w => .when fun _ => Tx.steps_raise _ w) fun _ => ?_
  refine Tx.steps_getDb.bind fun shop => ?_
  refine Tx.Steps.bind (fun w => .when fun _ => Tx.steps_raise _ w) fun _ => ?_
  exact Tx.Steps.forM fun item _ w =>
    .catching (checkCartAvailability_looks.moves w) fun _ => Tx.steps_raise _

theorem generateOrderNumber_moves : (generateOrderNumber env).Steps (Moves q) := by
  refine Tx.steps_getDb.bind fun shop => ?_
  generalize List.range 5 = attempts
  induction attempts with
  | nil => exact Tx.steps_raise _
  | cons attempt rest ih => exact fun w => .ite (fun _ => Tx.steps_pure _ w) fun _ => ih w

theorem assignDailySequence_moves (o : OrderId) :
    (assignDailySequence env o).Steps (Moves q) := fun w =>
  Tx.StepsAt.atomic (moves_lockOrder fun _ _ => .when fun _ =>
    (Tx.steps_getDb w).bind fun _ => moves_modifyDb fun s => .order s o _ fun _ => rfl)

/-- The order of a cart is there, in the status that it was created with. -/
theorem createOrderFromCart_spec (cart : Cart) (customer : CustomerDetails)
    (user : Option UserId) (items : List CartItem) (initialStatus : OrderStatus)
    (initialPaymentStatus : OrderPaymentStatus) (w : World Shop (List Observation)) :
    (createOrderFromCart env cart customer user items initialStatus initialPaymentStatus).StepsTo
      (Moves False) (fun o w' => w'.db.HasStatus o initialStatus) w := by
  refine Tx.wp_atomic.2 (Tx.wp_mono (E := fun _ w' => Moves False w w') ?_ (fun _ _ h => h)
    fun _ _ h => Tx.RestoresDb.restore h)
  refine (validateCartItems_moves items w).bindTo fun _ w₁ _ => ?_
  refine (generateOrderNumber_moves env w₁).bindTo fun orderNumber w₂ _ => ?_
  refine Tx.StepsTo.bind (P := fun o w' => w'.db.HasStatus o initialStatus)
    ⟨Moves.of_write (.createOrder w₂.db _), _, Table.rows_insert_self _ _, rfl⟩
    fun o w₃ _ hstatus => ?_
  refine (Tx.steps_getDb w₃).bindTo fun shop w₄ h₄ => ?_
  refine Tx.StepsAt.bindTo (moves_modifyDb (fun s => .orderItems s _) w₄) fun _ w₅ h₅ => ?_
  refine Tx.StepsAt.bindTo (moves_modifyDb (fun s => .order s o _ ?fields) w₅) fun _ w₆ h₆ => ?_
  case fields => exact fun _ => rfl
  refine (assignDailySequence_moves env o w₆).bindTo fun _ w₇ h₇ => ⟨refl_of _ w₇, ?_⟩
  exact h₇.hasStatus (h₆.hasStatus (h₅.hasStatus (h₄.hasStatus hstatus)))

theorem finalizeCheckoutStock_moves (o : OrderId) :
    (finalizeCheckoutStock env c o).Steps (Moves q) :=
  Tx.Steps.atomic <| (releaseCartReservations_does c).moves.bind fun _ =>
    (reserveForOrder_moves o env).bind fun _ => clearCart_moves c

theorem applyToOrder_moves (o : OrderId) (growth : GrowthCheckoutContext) :
    (applyToOrder o growth).Steps (Moves q) := fun w =>
  Tx.StepsAt.atomic <| .bind (.when fun _ => Tx.steps_raise _ w) fun _ _ =>
    moves_lockOrder fun _ _ => Moves.of_write (.order _ o _ fun _ => rfl)

theorem lockCartForCheckout_moves : (lockCartForCheckout c).Steps (Moves q) :=
  (getCart_moves c).bind fun _ => Tx.steps_getDb.bind fun _ => Tx.steps_pure _

/-! ### Online checkout -/

/-- Nothing but clamps is observed. -/
def Hushes (w w' : World Shop (List Observation)) : Prop := Quiet w.ext w'.ext

instance : IsPreorder (World Shop (List Observation)) Hushes where
  refl w := .refl w.ext
  trans _ _ _ h h' := h.trans h'

namespace DeliveryServiceCheckout

theorem resolveInProgressCheckout_moves (cart : Cart) (paymentMethod : PaymentMethod) :
    (resolveInProgressCheckout c cart paymentMethod).Steps (Moves q) := by
  rw [resolveInProgressCheckout]
  cases cart.activeCheckoutOrder with
  | none => exact Tx.steps_pure _
  | some o =>
    refine (lockOrder_moves o).bind fun order w => .ite (fun _ => ?_) fun _ => ?_
    · exact Tx.Steps.bind (updateCart_moves c _) (fun _ => Tx.steps_pure _) w
    · exact Tx.Steps.bind Tx.steps_getDb (fun shop => Tx.Steps.bind
        (fun w => .when fun _ => Tx.steps_raise _ w) fun _ => Tx.steps_pure _) w

theorem cleanupFailedCheckout_hushes (order : Option OrderId) :
    (cleanupFailedCheckout c order).Steps Hushes := by
  refine Tx.Steps.bind (fun w => .ifSome fun o _ => ?_) fun _ w => .refl w.ext
  refine .bind ((OrderService.releaseStock_moves (q := True) o w).mono
    fun _ h => h.quiet) fun _ => ?_
  exact Tx.steps_getDb.bind fun shop => Tx.Steps.bind
    (fun w => .when fun _ => Tx.steps_raise _ w) fun _ =>
      Tx.Steps.bind (fun w => .refl w.ext) fun _ w => .refl w.ext

theorem abortCheckout_fails (order : Option OrderId) (message : String)
    (w : World Shop (List Observation)) :
    Fails (abortCheckout c order message : ShopTx α) w :=
  Tx.wp_seq (cleanupFailedCheckout_hushes c order w) (fun _ _ h => h) (fun _ _ h => h)

theorem placeOrder_spec (cart : Cart) (customer : CustomerDetails) (user : Option UserId)
    (items : List CartItem) (growth : GrowthCheckoutContext) (w : World Shop (List Observation)) :
    (placeOrder env c cart customer user items growth).wp
      (fun o w' => Moves False w w' ∧ w'.db.HasStatus o .pendingPayment)
      (fun _ w' => Quiet w.ext w'.ext) w := by
  refine Tx.wp_seq (P := fun o w' => Moves False w w' ∧ w'.db.HasStatus o .pendingPayment)
    (F := fun _ w' => Quiet w.ext w'.ext) ?_ (fun o w₁ h₁ => ?_) (fun _ _ h => h)
  · refine Tx.wp_catching.2 (Tx.wp_mono (createOrderFromCart_spec env cart customer user items
      .pendingPayment .pendingPayment w) (fun _ _ h => h) fun e w' h => ?_)
    exact Tx.wp_mono (abortCheckout_fails c none e.text w') (fun _ _ h' => h'.elim)
      (fun _ _ h' => h.quiet.trans h')
  · have hbody : Commits False (Tx.catching
        (do
          setActiveCheckoutOrder c o
          applyToOrder o growth
          finalizeCheckoutStock env c o)
        fun exc => abortCheckout c (some o) exc.text) w₁ :=
      .catching (.of_moves (Tx.StepsAt.bind (updateCart_moves c _ w₁) fun _ =>
        (applyToOrder_moves o growth).bind fun _ => finalizeCheckoutStock_moves env c o))
        fun e w' => abortCheckout_fails c (some o) e.text w'
    exact Tx.wp_seq hbody (fun _ w₂ h₂ => ⟨trans_of _ h₁.1 h₂, h₂.hasStatus h₁.2⟩)
      (fun _ _ h₂ => h₁.1.quiet.trans h₂)

theorem payOrder_commits (o : OrderId) (w : World Shop (List Observation)) :
    Commits False (payOrder env c o) w := by
  refine Tx.wp_catching.2 (Tx.wp_mono (PaymentService.initiateOnline_moves env o w)
    (fun _ _ h => h) fun e w' h => Tx.wp_ite.2 ⟨fun _ => ?_, fun _ => h.quiet⟩)
  exact Tx.wp_mono (abortCheckout_fails c (some o) _ w') (fun _ _ h' => h'.elim)
    (fun _ _ h' => h.quiet.trans h')

/-- The last write of a checkout finds the status that it writes. -/
theorem startCheckout_commits (cart : Cart) (items : List CartItem) (customer : CustomerDetails)
    (user : Option UserId) (growth : GrowthCheckoutContext) (w : World Shop (List Observation)) :
    Commits False (startCheckout env c cart items customer user growth) w := by
  refine commits_check fun _ => commits_check fun _ => commits_check fun _ => ?_
  refine .seq (Tx.wp_mono (placeOrder_spec env c cart _ user items growth w)
    (fun o w₁ h₁ => ⟨h₁.1, ?_⟩) (fun _ _ h => h))
  refine .seq (Tx.wp_mono (payOrder_commits env c o w₁) (fun payment w₂ h₂ => ⟨h₂, ?_⟩)
    (fun _ _ h => h))
  have hpaying : Moves False w₂
      ⟨w₂.db.updateOrder o ({ · with paymentStatus := .pendingPayment }), w₂.ext⟩ :=
    .of_write (.order _ o _ fun _ => rfl)
  exact .seq ⟨hpaying, .of_moves ((setStatus_moves (hpaying.hasStatus (h₂.hasStatus h₁.2))).bind
    fun _ => Tx.steps_pure _)⟩

theorem processCheckout_moves (customer : CustomerDetails) (user : Option UserId)
    (growth : Cart → Money → GrowthCheckoutContext) :
    (processCheckout env c customer user growth).Steps (Moves q) := by
  refine fun w => Tx.StepsAt.mono (R := Moves False) ?_ fun _ => Moves.thaw
  refine Commits.atomic (.bind (.of_moves (lockCartForCheckout_moves c w)) fun cart w₁ => ?_)
  refine .bind (.of_moves (resolveInProgressCheckout_moves c cart.1 .online w₁)) fun existing w₂ => ?_
  cases existing with
  | some existing => exact .of_moves (Tx.steps_pure existing w₂)
  | none => exact .bind (.of_moves (Tx.steps_getDb w₂)) fun shop w₃ =>
      startCheckout_commits env c cart.1 cart.2 customer user _ w₃

end DeliveryServiceCheckout

/-! ### Counter checkout -/

theorem CounterCheckoutService.processCheckout_moves (customer : CustomerDetails)
    (paymentMethod : PaymentMethod) (user : Option UserId) :
    (CounterCheckoutService.processCheckout env c customer paymentMethod user).Steps
      (Moves q) := by
  refine Tx.Steps.atomic (Tx.Steps.bind (fun w => .when fun _ => Tx.steps_raise _ w) fun _ => ?_)
  refine Tx.Steps.bind (fun w => .when fun _ => Tx.steps_raise _ w) fun _ => ?_
  refine (lockCartForCheckout_moves c).bind fun cart => ?_
  refine Tx.Steps.bind (fun w => .when fun _ => Tx.steps_raise _ w) fun _ => ?_
  refine Tx.Steps.bind (fun w => (createOrderFromCart_spec env _ _ _ _ _ _ w).stepsAt.mono
    fun _ => Moves.thaw) fun o => ?_
  refine (finalizeCheckoutStock_moves env c o).bind fun _ => (lockOrder_moves o).bind fun order => ?_
  exact (PaymentService.initiateCounterPayment_moves env o order _).bind fun _ => Tx.steps_pure _

end Checkouts

/-! ## The cleanup -/

section Cleanup

variable (env : Env)

theorem cleanupStaleOnlinePayment_moves (p : PaymentId) :
    (cleanupStaleOnlinePayment env p).Steps (Moves True) := by
  refine fun w => Tx.StepsAt.atomic (.seq ⟨refl_of _ w, ?_⟩)
  cases w.db.payments.rows p with
  | none => exact Tx.steps_pure _ w
  | some payment =>
    refine moves_lockOrder fun order _ => ?_
    cases skipReason payment order (getStaleOnlinePaymentCutoff env none) with
    | some reason => exact Tx.steps_pure _ w
    | none =>
      exact (PaymentService.markFailed_moves payment.order p _ w).bind fun _ =>
        Tx.Steps.bind (moves_modifyDb fun s => .carts s _ s.cartItems) fun _ => Tx.steps_pure _

theorem cleanupStaleOnlinePayments_moves (timeoutMinutes : Option ℤ) :
    (cleanupStaleOnlinePayments env timeoutMinutes).Steps (Moves True) := by
  have heach (payments : List PaymentId) :
      ∀ result, (cleanupEach env result payments).Steps (Moves True) := by
    induction payments with
    | nil => exact fun _ => Tx.steps_pure _
    | cons p rest ih =>
      refine fun result => Tx.Steps.bind (fun w => .catching ?_ fun _ => Tx.steps_pure _) fun _ => ih _
      exact (cleanupStaleOnlinePayment_moves env p w).bind fun _ => Tx.steps_pure _
  exact Tx.steps_getDb.bind fun shop => heach _ _

end Cleanup

end Crumbs
