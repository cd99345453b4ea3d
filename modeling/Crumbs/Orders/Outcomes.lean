import Crumbs.Inventory.Sections
import Crumbs.Payments.Services

/-!
# What the Order Operations Come To

For the operations on which the payments depend: when they return, what they leave, and when
they raise.

## Contents

- `Quiet`: nothing was observed but clamps, which is all that inventory work shows
- `onStock_releaseReservations`, `onStock_confirmReservations`: these never raise
- `transition_same`, `transition_changes`, `transition_forbidden`: one status change
- `finalizeOnlinePayment_payable`, `finalizeOnlinePayment_unpayable`, `markPaid_payable`, …
-/

namespace Crumbs

open Crumbs.Db

/-! ## Observations -/

/-- The observation is the evaluation of a clamp. -/
def Observation.IsClamp : Observation → Prop
  | clamped .. => True
  | verified .. => False

/-- The trace grows by observations of a kind. -/
def Grows (P : Observation → Prop) (trace trace' : List Observation) : Prop :=
  ∃ obs, trace' = trace ++ obs ∧ ∀ o ∈ obs, P o

namespace Grows

variable {P P' : Observation → Prop} {trace trace' trace'' : List Observation}

theorem refl (trace : List Observation) : Grows P trace trace :=
  ⟨[], (List.append_nil _).symm, fun _ h => absurd h List.not_mem_nil⟩

theorem trans (h : Grows P trace trace') (h' : Grows P trace' trace'') : Grows P trace trace'' := by
  obtain ⟨obs, rfl, hobs⟩ := h
  obtain ⟨obs', rfl, hobs'⟩ := h'
  exact ⟨obs ++ obs', List.append_assoc .., fun o ho =>
    (List.mem_append.1 ho).elim (hobs o) (hobs' o)⟩

theorem mono (h : Grows P trace trace') (hP : ∀ o, P o → P' o) : Grows P' trace trace' :=
  h.imp fun _ h => ⟨h.1, fun o ho => hP o (h.2 o ho)⟩

/-- What was observed stays observed. -/
theorem mem (h : Grows P trace trace') {o : Observation} (hmem : o ∈ trace) : o ∈ trace' := by
  obtain ⟨obs, rfl, -⟩ := h
  exact List.mem_append_left obs hmem

/-- An observation of another kind was there before. -/
theorem mem_of_not (h : Grows P trace trace') {o : Observation} (hmem : o ∈ trace') (ho : ¬P o) :
    o ∈ trace := by
  obtain ⟨obs, rfl, hobs⟩ := h
  exact (List.mem_append.1 hmem).elim id fun h' => (ho (hobs o h')).elim

end Grows

/-- The trace grows by clamps only. -/
abbrev Quiet (trace trace' : List Observation) : Prop := Grows Observation.IsClamp trace trace'

theorem Stock.Clamps.isClamp {s : Stock} {r : StockReservation} {o : Observation}
    (h : s.Clamps r o) : o.IsClamp := by
  rcases h with ⟨-, rfl | rfl⟩ | rfl <;> trivial

theorem Section.Effect.isClamp {sec : Section} {s s' : Stock} {obs : List Observation}
    (h : sec.Effect s obs s') : ∀ o ∈ obs, o.IsClamp := by
  cases h with
  | touch => exact fun _ h => absurd h List.not_mem_nil
  | reserve => exact fun _ h => absurd h List.not_mem_nil
  | release _ _ _ _ hobs => exact fun o ho => (hobs o ho).isClamp
  | expire _ _ _ _ hobs => exact fun o ho => (hobs o ho).isClamp
  | confirm => exact fun _ h => absurd h List.not_mem_nil
  | fulfill _ _ _ _ _ _ _ hobs => exact fun o ho => (hobs o ho).isClamp

theorem Sections.isClamp {s s' : Stock} {obs : List Observation} (h : Sections s obs s') :
    ∀ o ∈ obs, o.IsClamp := by
  induction h with
  | refl => exact fun _ h => absurd h List.not_mem_nil
  | tail _ hran ih => exact fun o ho => (List.mem_append.1 ho).elim (ih o) (hran.effect.isClamp o)

theorem Reached.quiet {w w' : World Stock (List Observation)} (h : Reached w w') :
    Quiet w.ext w'.ext := by
  obtain ⟨obs, hsections, hext⟩ := h
  exact ⟨obs, hext, hsections.isClamp⟩

theorem Abandoned.quiet {w w' : World Stock (List Observation)} (h : Abandoned w w') :
    Quiet w.ext w'.ext := by
  obtain ⟨obs, s, hsections, hext⟩ := h
  exact ⟨obs, hext, hsections.isClamp⟩

/-! ## Inventory work that never raises -/

/-- The computation returns, from everywhere. -/
def Returns {δ α : Type} (x : Tx δ (List Observation) Exn α) : Prop :=
  ∀ w, x.wp (fun _ _ => True) (fun _ _ => False) w

/-- A release of reservations that are still live. -/
theorem releaseAll_returns {reservations : List (ReservationId × StockReservation)}
    (hlive : ∀ e ∈ reservations, e.2.isLive) : Returns (releaseAll reservations) := by
  intro w
  let I := fun (rest : List (ReservationId × StockReservation))
    (_ : World Stock (List Observation)) => ∀ e ∈ rest, e.2.isLive
  refine Tx.wp_seq (P := fun _ _ => True) (F := fun _ _ => False) ?_ (fun _ _ _ => trivial)
    (fun _ _ h => h)
  refine Tx.wp_mono (Tx.wp_forM (I := I) (fun e rest w h => ?_) hlive) (fun _ _ _ => trivial)
    (fun _ _ h => h)
  refine Tx.wp_mono (releaseSingleReservation_spec e.1 (h e List.mem_cons_self)) (fun _ _ _ => ?_)
    (fun _ _ h => h)
  exact fun e' he' => h e' (List.mem_cons_of_mem e he')

theorem releaseReservations_returns (o : OrderId) : Returns (releaseReservations o) := by
  intro w
  rw [releaseReservations, Tx.wp_atomic, Tx.wp_bind, Tx.wp_getDb]
  refine Tx.wp_seq (releaseAll_returns (fun e he => ?_) w) (fun _ _ _ => trivial) (fun _ _ h => h)
  exact (of_decide_eq_true (mem_reservationsWhere.1 he).2).2

theorem confirmReservations_returns (o : OrderId) : Returns (confirmReservations o) := by
  intro w
  rw [confirmReservations, Tx.wp_atomic, Tx.wp_bind, Tx.wp_getDb]
  exact Tx.wp_forM (I := fun _ _ => True) (fun _ _ _ _ => trivial) trivial

/-- Inventory work that returns changes the stock and nothing else. -/
theorem onStock_ok {x : StockTx Unit} (hreturns : Returns x) (hdoes : Does x)
    (w : World Shop (List Observation)) : ∃ stock trace,
    ShopTx.onStock x w = (.ok (), ⟨{ w.db with stock }, trace⟩) ∧ Quiet w.ext trace := by
  rcases hx : x (stockWorld w) with ⟨_ | _, w'⟩
  · exact (Tx.wp_of_error (hreturns _) hx).elim
  · exact ⟨w'.db, w'.ext, Tx.zoom_apply hx, (Tx.wp_of_ok (hdoes _) hx).quiet⟩

theorem onStock_releaseReservations (o : OrderId) (w : World Shop (List Observation)) :
    ∃ stock trace, ShopTx.onStock (releaseReservations o) w =
      (.ok (), ⟨{ w.db with stock }, trace⟩) ∧ Quiet w.ext trace :=
  onStock_ok (releaseReservations_returns o) (releaseReservations_does o) w

theorem onStock_confirmReservations (o : OrderId) (w : World Shop (List Observation)) :
    ∃ stock trace, ShopTx.onStock (confirmReservations o) w =
      (.ok (), ⟨{ w.db with stock }, trace⟩) ∧ Quiet w.ext trace :=
  onStock_ok (confirmReservations_returns o) (confirmReservations_does o) w

/-! ## Rows -/

section Rows

variable {α : Type} {Q : Order → World Shop (List Observation) → Prop}
  {Q' : Payment → World Shop (List Observation) → Prop}
  {E : Exn → World Shop (List Observation) → Prop} {w : World Shop (List Observation)}
  {o : OrderId} {p : PaymentId} {order : Order} {payment : Payment}

theorem lockOrder_of_some (h : w.db.orders.rows o = some order) :
    lockOrder o w = (.ok order, w) := by
  change getRow "Order" (w.db.orders.rows o) w = _
  rw [h]
  rfl

theorem lockOrder_of_none (h : w.db.orders.rows o = none) :
    lockOrder o w = (.error (.doesNotExist "Order"), w) := by
  change getRow "Order" (w.db.orders.rows o) w = _
  rw [h]
  rfl

theorem lockPayment_of_some (h : w.db.payments.rows p = some payment) :
    lockPayment p w = (.ok payment, w) := by
  change getRow "Payment" (w.db.payments.rows p) w = _
  rw [h]
  rfl

theorem lockPayment_of_none (h : w.db.payments.rows p = none) :
    lockPayment p w = (.error (.doesNotExist "Payment"), w) := by
  change getRow "Payment" (w.db.payments.rows p) w = _
  rw [h]
  rfl

@[simp] theorem wp_lockOrder : (lockOrder o).wp Q E w ↔
    (∀ order, w.db.orders.rows o = some order → Q order w) ∧
      (w.db.orders.rows o = none → E (.doesNotExist "Order") w) := by
  unfold Tx.wp
  cases h : w.db.orders.rows o with
  | none => simp [lockOrder_of_none h]
  | some order => simp [lockOrder_of_some h]

@[simp] theorem wp_lockPayment : (lockPayment p).wp Q' E w ↔
    (∀ payment, w.db.payments.rows p = some payment → Q' payment w) ∧
      (w.db.payments.rows p = none → E (.doesNotExist "Payment") w) := by
  unfold Tx.wp
  cases h : w.db.payments.rows p with
  | none => simp [lockPayment_of_none h]
  | some payment => simp [lockPayment_of_some h]

end Rows

/-! ## The newest payment -/

theorem later_eq (best : Option (PaymentId × Payment)) (e : PaymentId × Payment) :
    later best e = some e ∨ later best e = best ∧ best.isSome := by
  cases best with
  | none => exact .inl rfl
  | some b =>
    by_cases h : b.2.createdAt ≤ e.2.createdAt
    · exact .inl (if_pos h)
    · exact .inr ⟨if_neg h, rfl⟩

theorem foldl_later (payments : List (PaymentId × Payment)) :
    ∀ {best : Option (PaymentId × Payment)} {e : PaymentId × Payment},
      payments.foldl later best = some e → e ∈ payments ∨ best = some e := by
  induction payments with
  | nil => exact fun h => .inr h
  | cons x rest ih =>
    intro best e h
    rcases ih h with hmem | hbest
    · exact .inl (List.mem_cons_of_mem x hmem)
    · rcases later_eq best x with hx | ⟨hx, -⟩
      · exact .inl (Option.some.inj (hx.symm.trans hbest) ▸ List.mem_cons_self)
      · exact .inr (hx.symm.trans hbest)

theorem newest_mem {payments : List (PaymentId × Payment)} {e : PaymentId × Payment}
    (h : newest payments = some e) : e ∈ payments :=
  (foldl_later payments h).resolve_right (nomatch ·)

/-- Among some payments there is a newest one. -/
theorem newest_isSome (x : PaymentId × Payment) (rest : List (PaymentId × Payment)) :
    ∃ e, newest (x :: rest) = some e := by
  have hfold : ∀ (l : List (PaymentId × Payment)) (b : PaymentId × Payment),
      ∃ e, l.foldl later (some b) = some e := by
    intro l
    induction l with
    | nil => exact fun b => ⟨b, rfl⟩
    | cons y rest ih =>
      intro b
      rcases later_eq (some b) y with hy | ⟨hy, -⟩
      · exact (ih y).imp fun _ h => by rw [List.foldl_cons, hy, h]
      · exact (ih b).imp fun _ h => by rw [List.foldl_cons, hy, h]
  exact hfold rest x

/-- What a query for payments finds is in the table, as it is there. -/
theorem newest_paymentsWhere {shop : Shop} {P : Payment → Bool} {e : PaymentId × Payment}
    (h : newest (shop.paymentsWhere P) = some e) :
    shop.payments.rows e.1 = some e.2 ∧ P e.2 = true := Table.mem_filter.1 (newest_mem h)

/-! ## Status changes -/

/-- A change of status together with its log. -/
def Shop.restatus (shop : Shop) (o : OrderId) (fromStatus toStatus : OrderStatus)
    (note actor : String) : Shop :=
  (shop.setStatus o toStatus).addStatusLog { order := o, fromStatus, toStatus, note, actor }

section Restatus

variable (shop : Shop) (o : OrderId) (fromStatus toStatus : OrderStatus) (note actor : String)

@[simp] theorem orders_restatus : (shop.restatus o fromStatus toStatus note actor).orders =
    shop.orders.modify o ({ · with status := toStatus }) := rfl

@[simp] theorem payments_restatus :
    (shop.restatus o fromStatus toStatus note actor).payments = shop.payments := rfl

@[simp] theorem stock_restatus :
    (shop.restatus o fromStatus toStatus note actor).stock = shop.stock := rfl

@[simp] theorem orderItems_restatus :
    (shop.restatus o fromStatus toStatus note actor).orderItems = shop.orderItems := rfl

end Restatus

section Transition

variable {w : World Shop (List Observation)} {o : OrderId} {order : Order}
  (newStatus : OrderStatus) (note actor : String)

/-- The status is not changed, and not logged. -/
theorem transition_same (hrow : w.db.orders.rows o = some order) (h : order.status = newStatus) :
    OrderService.transition o newStatus note actor w = (.ok order, w) := by
  refine Tx.atomic_of_ok ((Tx.bind_of_ok (lockOrder_of_some hrow)).trans ?_)
  refine (Tx.bind_of_ok (Tx.when_of_not (not_not.2 (.inl h)))).trans ?_
  exact Tx.ite_of h

/-- The status is changed along an edge, and logged. -/
theorem transition_changes (hrow : w.db.orders.rows o = some order)
    (hne : order.status ≠ newStatus) (hedge : newStatus ∈ order.status.allowedTransitions) :
    OrderService.transition o newStatus note actor w = (.ok { order with status := newStatus },
      { w with db := w.db.restatus o order.status newStatus note actor }) := by
  refine Tx.atomic_of_ok ((Tx.bind_of_ok (lockOrder_of_some hrow)).trans ?_)
  refine (Tx.bind_of_ok (Tx.when_of_not (not_not.2 (.inr hedge)))).trans ?_
  exact Tx.ite_of_not hne

/-- There is no such edge: the database stays as it was. -/
theorem transition_forbidden (hrow : w.db.orders.rows o = some order)
    (h : ¬canTransition order.status newStatus) :
    ∃ e, OrderService.transition o newStatus note actor w = (.error e, w) := by
  have hvalidate : ∃ e, validateTransition order newStatus w = (.error e, w) := by
    rw [validateTransition, Tx.when, if_pos h]
    exact ⟨_, rfl⟩
  obtain ⟨e, hvalidate⟩ := hvalidate
  exact ⟨e, Tx.atomic_of_error
    ((Tx.bind_of_ok (lockOrder_of_some hrow)).trans (Tx.bind_of_error hvalidate))⟩

theorem transition_missing (hrow : w.db.orders.rows o = none) :
    ∃ e, OrderService.transition o newStatus note actor w = (.error e, w) :=
  ⟨_, Tx.atomic_of_error (Tx.bind_of_error (lockOrder_of_none hrow))⟩

/-- A change of status leaves everything but the row of the order and the history. -/
theorem transition_ensures (hrow : w.db.orders.rows o = some order) :
    (OrderService.transition o newStatus note actor).Ensures (fun _ w' =>
      w'.db.orders.rows o = some { order with status := newStatus } ∧
        w'.db.payments = w.db.payments ∧ w'.db.stock = w.db.stock ∧
        ∃ logs, w'.db.statusLogs = w.db.statusLogs ++ logs ∧ logs.length ≤ 1) w := by
  by_cases hsame : order.status = newStatus
  · refine (Tx.wp_iff_of_ok (transition_same newStatus note actor hrow hsame)).2
      ⟨?_, rfl, rfl, [], (List.append_nil _).symm, Nat.zero_le 1⟩
    rw [hrow, ← hsame]
  by_cases hedge : newStatus ∈ order.status.allowedTransitions
  · refine (Tx.wp_iff_of_ok (transition_changes newStatus note actor hrow hsame hedge)).2
      ⟨?_, rfl, rfl, _, rfl, le_rfl⟩
    rw [orders_restatus, Table.rows_modify_self, hrow]
    rfl
  · obtain ⟨e, hrun⟩ := transition_forbidden newStatus note actor hrow
      (not_or.2 ⟨hsame, hedge⟩)
    exact (Tx.wp_iff_of_error hrun).2 trivial

end Transition

/-! ## Finalising an online payment -/

/-- An order that a first online payment can still finalise. -/
def OrderStatus.isPayable (status : OrderStatus) : Prop := status = pendingPayment ∨ status = paid

instance (status : OrderStatus) : Decidable status.isPayable := inferInstanceAs (Decidable (_ ∨ _))

section Finalize

variable {w : World Shop (List Observation)} {o : OrderId} {order : Order}

/-- What a finalisation leaves in place: everything but the stock, the history and the row of
    the order, which is confirmed. -/
structure Finalized (o : OrderId) (order : Order) (w w' : World Shop (List Observation)) :
    Prop where
  row : w'.db.orders.rows o =
    some { order with paymentStatus := .paid, status := .confirmedByShop }
  otherOrders : ∀ o', o' ≠ o → w'.db.orders.rows o' = w.db.orders.rows o'
  payments : w'.db.payments = w.db.payments
  quiet : Quiet w.ext w'.ext

/-- The two status changes of a finalisation. -/
theorem transition_paid_confirmed (hrow : w.db.orders.rows o = some order)
    (hpayable : order.status.isPayable) (note note' actor : String) :
    ∃ shop, (do
        let _ ← OrderService.transition o .paid note actor
        OrderService.transition o .confirmedByShop note' actor) w =
        (.ok { order with status := .confirmedByShop }, ⟨shop, w.ext⟩) ∧
      shop.orders.rows o = some { order with status := .confirmedByShop } ∧
      (∀ o', o' ≠ o → shop.orders.rows o' = w.db.orders.rows o') ∧
      shop.payments = w.db.payments := by
  rcases hpayable with hpending | hpaid
  · have hchange := transition_changes .paid note actor hrow
      (by rw [hpending]; decide) (by rw [hpending]; decide)
    have hrow' : (w.db.restatus o order.status .paid note actor).orders.rows o =
        some { order with status := .paid } := by
      rw [orders_restatus, Table.rows_modify_self, hrow]
      rfl
    have hchange' := transition_changes
      (w := { w with db := w.db.restatus o order.status .paid note actor })
      .confirmedByShop note' actor hrow' (fun h => nomatch h) List.mem_cons_self
    refine ⟨_, (Tx.bind_of_ok hchange).trans hchange', ?_, fun o' ho' => ?_, rfl⟩
    · rw [orders_restatus, Table.rows_modify_self, hrow']
      rfl
    · rw [orders_restatus, Table.rows_modify_ne _ _ ho', orders_restatus,
        Table.rows_modify_ne _ _ ho']
  · refine ⟨_, (Tx.bind_of_ok (transition_same _ _ _ hrow hpaid)).trans
      (transition_changes _ _ _ hrow
      (by rw [hpaid]; decide) (by rw [hpaid]; decide)), ?_, fun o' ho' => ?_, rfl⟩
    · rw [orders_restatus, Table.rows_modify_self, hrow]
      rfl
    · rw [orders_restatus, Table.rows_modify_ne _ _ ho']

theorem finalizeOnlinePayment_payable (hrow : w.db.orders.rows o = some order)
    (hunpaid : order.paymentStatus ≠ .paid) (hpayable : order.status.isPayable) :
    ∃ order' w', OrderService.finalizeOnlinePayment o w = (.ok order', w') ∧
      Finalized o order w w' := by
  let w₁ : World Shop (List Observation) :=
    { w with db := w.db.updateOrder o ({ · with paymentStatus := .paid }) }
  obtain ⟨stock, trace, hconfirm, hquiet⟩ := onStock_confirmReservations o w₁
  have hrow₁ : w₁.db.orders.rows o = some { order with paymentStatus := .paid } := by
    change (w.db.orders.modify o _).rows o = _
    rw [Table.rows_modify_self, hrow]
    rfl
  obtain ⟨shop, hrun, hrow', hothers, hpayments⟩ := transition_paid_confirmed
    (w := ⟨{ w₁.db with stock }, trace⟩) hrow₁ hpayable "Online payment received"
    "Auto-confirmed after payment" "system"
  refine ⟨{ order with paymentStatus := .paid, status := .confirmedByShop }, ⟨shop, trace⟩,
    Tx.atomic_of_ok ((Tx.bind_of_ok (lockOrder_of_some hrow)).trans ?_),
    hrow', fun o' ho' => ?_, hpayments, hquiet⟩
  · refine (Tx.ite_of_not fun h => hunpaid h.1).trans ?_
    exact (Tx.bind_of_ok (x := setPaymentStatus o order .paid) rfl).trans
      ((Tx.bind_of_ok hconfirm).trans hrun)
  · rw [hothers o' ho']
    exact Table.rows_modify_ne _ _ ho'

/-- In any other status the payment comes too late, and nothing is written. -/
theorem finalizeOnlinePayment_unpayable (hrow : w.db.orders.rows o = some order)
    (hunpaid : order.paymentStatus ≠ .paid) (hunpayable : ¬order.status.isPayable) :
    ∃ e trace, OrderService.finalizeOnlinePayment o w = (.error e, ⟨w.db, trace⟩) ∧
      Quiet w.ext trace := by
  let w₁ : World Shop (List Observation) :=
    { w with db := w.db.updateOrder o ({ · with paymentStatus := .paid }) }
  obtain ⟨stock, trace, hconfirm, hquiet⟩ := onStock_confirmReservations o w₁
  have hrow₁ : w₁.db.orders.rows o = some { order with paymentStatus := .paid } := by
    change (w.db.orders.modify o _).rows o = _
    rw [Table.rows_modify_self, hrow]
    rfl
  have hforbidden : ¬canTransition order.status .paid := by
    intro h
    cases hstatus : order.status <;> rw [hstatus] at h hunpayable <;> revert h hunpayable <;> decide
  obtain ⟨e, hrun⟩ := transition_forbidden (w := ⟨{ w₁.db with stock }, trace⟩)
    .paid "Online payment received" "system" hrow₁ hforbidden
  refine ⟨e, trace, Tx.atomic_of_error
    (v := ⟨{ w₁.db with stock }, trace⟩)
    ((Tx.bind_of_ok (lockOrder_of_some hrow)).trans ?_), hquiet⟩
  refine (Tx.ite_of_not fun h => hunpaid h.1).trans ?_
  exact (Tx.bind_of_ok (x := setPaymentStatus o order .paid) rfl).trans
    ((Tx.bind_of_ok hconfirm).trans (Tx.bind_of_error hrun))

end Finalize

/-! ## Recording a capture -/

section MarkPaid

variable {w : World Shop (List Observation)} {o : OrderId} {p : PaymentId} {order : Order}
  {payment : Payment}

/-- A payment whose money has arrived. -/
def Payment.succeed (payment : Payment) : Payment :=
  { payment with status := .succeeded, failureMessage := "" }

/-- What a capture leaves: the payment has succeeded, and its order is confirmed. -/
structure Captured (o : OrderId) (order : Order) (p : PaymentId)
    (w w' : World Shop (List Observation)) : Prop where
  row : w'.db.orders.rows o =
    some { order with paymentStatus := .paid, status := .confirmedByShop }
  otherOrders : ∀ o', o' ≠ o → w'.db.orders.rows o' = w.db.orders.rows o'
  payments : w'.db.payments = w.db.payments.modify p (·.succeed)
  quiet : Quiet w.ext w'.ext

theorem markPaid_payable (hrow : w.db.orders.rows o = some order)
    (hpay : w.db.payments.rows p = some payment) (h : payment.status ≠ .succeeded)
    (hunpaid : ¬orderHasSuccessfulPayment order) (hpayable : order.status.isPayable) :
    ∃ w', PaymentService.markPaid o p w = (.ok (), w') ∧ Captured o order p w w' := by
  obtain ⟨order', w', hrun, hfinal⟩ := finalizeOnlinePayment_payable
    (w := { w with db := w.db.updatePayment p (·.succeed) }) hrow
    (fun hpaid => hunpaid (.inl hpaid)) hpayable
  refine ⟨w', Tx.atomic_of_ok ?_, hfinal.row, hfinal.otherOrders, hfinal.payments, hfinal.quiet⟩
  refine (Tx.bind_of_ok (lockOrder_of_some hrow)).trans ?_
  refine (Tx.bind_of_ok (lockPayment_of_some hpay)).trans ?_
  refine (Tx.ite_of_not h).trans ((Tx.ite_of_not hunpaid).trans ?_)
  exact (Tx.bind_of_ok (x := Tx.modifyDb _) rfl).trans ((Tx.bind_of_ok hrun).trans rfl)

theorem markPaid_unpayable (hrow : w.db.orders.rows o = some order)
    (hpay : w.db.payments.rows p = some payment) (h : payment.status ≠ .succeeded)
    (hunpaid : ¬orderHasSuccessfulPayment order) (hunpayable : ¬order.status.isPayable) :
    ∃ e trace, PaymentService.markPaid o p w = (.error e, ⟨w.db, trace⟩) ∧ Quiet w.ext trace := by
  obtain ⟨e, trace, hrun, hquiet⟩ := finalizeOnlinePayment_unpayable
    (w := { w with db := w.db.updatePayment p (·.succeed) }) hrow
    (fun hpaid => hunpaid (.inl hpaid)) hunpayable
  refine ⟨e, trace, Tx.atomic_of_error
    (v := ⟨w.db.updatePayment p (·.succeed), trace⟩) ?_, hquiet⟩
  refine (Tx.bind_of_ok (lockOrder_of_some hrow)).trans ?_
  refine (Tx.bind_of_ok (lockPayment_of_some hpay)).trans ?_
  refine (Tx.ite_of_not h).trans ((Tx.ite_of_not hunpaid).trans ?_)
  exact (Tx.bind_of_ok (x := Tx.modifyDb _) rfl).trans (Tx.bind_of_error hrun)

end MarkPaid

/-! ## Recording a failure -/

section MarkFailed

variable {w : World Shop (List Observation)} {o : OrderId} {p : PaymentId} {order : Order}
  {payment : Payment} (reason actor message : String)

/-- A payment that has failed. -/
def Payment.fail (payment : Payment) (message : String) : Payment :=
  { payment with status := .failed, failureMessage := message }

/-- An order that is neither closed nor delivered is cancelled. -/
theorem markPaymentFailed_open (hrow : w.db.orders.rows o = some order)
    (hunpaid : ¬order.paymentStatus.isSuccessful) (hopen : ¬order.status.isClosed)
    (hdelivered : order.status ≠ .delivered) :
    ∃ order' w', OrderService.markPaymentFailed o reason actor w = (.ok order', w') ∧
      w'.db.orders.rows o = some { order with paymentStatus := .failed, status := .cancelled } ∧
      w'.db.payments = w.db.payments ∧ Quiet w.ext w'.ext := by
  obtain ⟨stock, trace, hrelease, hquiet⟩ := onStock_releaseReservations o w
  let w₁ : World Shop (List Observation) :=
    ⟨({ w.db with stock } : Shop).updateOrder o ({ · with paymentStatus := .failed }), trace⟩
  have hrow₁ : w₁.db.orders.rows o = some { order with paymentStatus := .failed } := by
    change (w.db.orders.modify o _).rows o = _
    rw [Table.rows_modify_self, hrow]
    rfl
  have hedge : .cancelled ∈ order.status.allowedTransitions := by
    cases hstatus : order.status <;> rw [hstatus] at hopen hdelivered <;>
      revert hopen hdelivered <;> decide
  have hchange := transition_changes (w := w₁) .cancelled reason actor hrow₁
    (fun h => hopen (.inl h)) hedge
  refine ⟨_, _, Tx.atomic_of_ok ((Tx.bind_of_ok (lockOrder_of_some hrow)).trans <|
    (Tx.ite_of_not hunpaid).trans <| (Tx.ite_of_not hopen).trans <|
    (Tx.bind_of_ok hrelease).trans <|
    (Tx.bind_of_ok (x := setPaymentStatus o order .failed) (v := w₁) rfl).trans <|
    Tx.bind_of_ok hchange), ?_, rfl, hquiet⟩
  change ((w₁.db.orders.modify o _).rows o) = _
  rw [Table.rows_modify_self, hrow₁]
  rfl

/-- The failure of an open order's payment: both end. -/
theorem markFailed_open (hrow : w.db.orders.rows o = some order)
    (hpay : w.db.payments.rows p = some payment) (h : payment.status ≠ .succeeded)
    (hunpaid : ¬orderHasSuccessfulPayment order) (hopen : ¬order.status.isClosed)
    (hdelivered : order.status ≠ .delivered) :
    ∃ w', PaymentService.markFailed o p message w = (.ok (), w') ∧
      w'.db.orders.rows o = some { order with paymentStatus := .failed, status := .cancelled } ∧
      w'.db.payments = w.db.payments.modify p (·.fail message) ∧ Quiet w.ext w'.ext := by
  let w₁ : World Shop (List Observation) :=
    { w with db := w.db.updatePayment p (·.fail message) }
  obtain ⟨_, w', hrun, hrow', hpayments, hquiet⟩ := markPaymentFailed_open (w := w₁)
    message "payment_webhook" hrow hunpaid hopen hdelivered
  refine ⟨w', Tx.atomic_of_ok ?_, hrow', hpayments, hquiet⟩
  refine (Tx.bind_of_ok (lockOrder_of_some hrow)).trans ?_
  refine (Tx.bind_of_ok (lockPayment_of_some hpay)).trans ?_
  refine (Tx.ite_of_not h).trans ((Tx.ite_of_not hunpaid).trans ?_)
  exact (Tx.bind_of_ok (x := Tx.modifyDb _) rfl).trans ((Tx.bind_of_ok hrun).trans rfl)

end MarkFailed

/-! ## Payments at the counter and at the door -/

section Received

variable {w : World Shop (List Observation)} {o : OrderId} {order : Order} {actor : String}

end Received

end Crumbs
