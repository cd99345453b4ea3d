import Crumbs.Lifecycle.Rows
import Crumbs.Lifecycle.Runs

/-!
# Refunds

The state machine lets an order be refunded once it is paid for, and never again after it is
cancelled. Money that reaches an order elsewhere cannot be given back through a refund.

## Contents

- `Refundable`: a refund of the order goes through
- `refundable_iff`: the statuses in which it does
- `SparesMoney`: no order is cancelled with its money, and none that is stuck gets any
- `refundable_of_sparesMoney`
- `RefundsAll`: a refunded order has no money left
- `refundsAll_of_paidByNewest`: it has none if its newest payment was the only one with money
-/

namespace Crumbs

open Crumbs.Db

/-! ## What a refund needs -/

/-- The call returns and leaves the order refunded. -/
def Refunds (o : OrderId) (x : ShopTx Order) (w : World Shop (List Observation)) : Prop :=
  x.wp (fun _ w' => w'.db.books.OrderIs o fun order => order.status = .refunded)
    (fun _ _ => False) w

/-- A refund of the order goes through, at once or after it has been asked for. -/
def Refundable (o : OrderId) (shop : Shop) : Prop :=
  ∀ reason actor trace, Refunds o (OrderService.processRefund o reason actor) ⟨shop, trace⟩ ∧
    ∀ note clerk, Refunds o (do
      let _ ← OrderService.requestRefund o note clerk
      OrderService.processRefund o reason actor) ⟨shop, trace⟩

/-- The statuses that no refund leads out of. -/
def OrderStatus.isStuck (status : OrderStatus) : Prop :=
  status ∈ [.pendingPayment, .awaitingPayment, .cancelled]

instance (status : OrderStatus) : Decidable status.isStuck := inferInstanceAs (Decidable (_ ∈ _))

theorem OrderStatus.isStuck_iff {status : OrderStatus} :
    status.isStuck ↔ status ≠ .refunded ∧ .refunded ∉ status.allowedTransitions := by
  cases status <;> decide

section Returns

variable {w : World Shop (List Observation)} {o : OrderId} {order : Order} {reason actor : String}

/-- The refund of the payment returns, and writes to payments only. -/
theorem refundNewest_returns (hrow : w.db.orders.rows o = some order) :
    (PaymentService.processRefund o).wp (fun _ w' => w'.db.orders = w.db.orders)
      (fun _ _ => False) w := by
  refine Tx.wp_atomic.2 (Tx.wp_bind.2 (wp_lockOrder.2 ⟨fun _ _ => ?_, fun hnone => ?_⟩))
  · refine Tx.wp_bind.2 (Tx.wp_getDb.2 (Tx.wp_ifSome.2 ⟨fun e _ => ?_, fun _ => rfl⟩))
    exact Tx.wp_when.2 ⟨fun _ => rfl, fun _ => rfl⟩
  · exact nomatch hrow.symm.trans hnone

/-- A refund goes through from every status that is not stuck. -/
theorem processRefund_refunds (hrow : w.db.orders.rows o = some order)
    (hfree : ¬order.status.isStuck) : Refunds o (OrderService.processRefund o reason actor) w := by
  refine Tx.wp_atomic.2 (Tx.wp_bind.2 (wp_lockOrder.2 ⟨fun order' hrow' => ?_, fun hnone => ?_⟩))
  swap
  · exact nomatch hrow.symm.trans hnone
  obtain rfl := Option.some.inj (hrow.symm.trans hrow')
  refine Tx.wp_ite.2 ⟨fun hrefunded => ⟨order, hrow, hrefunded⟩, fun hne => ?_⟩
  refine Tx.wp_seq (refundNewest_returns hrow) (fun _ w₁ horders => ?_) fun _ _ h => h
  obtain ⟨stock, trace, hrelease, -⟩ := onStock_releaseReservations o w₁
  refine Tx.wp_bind.2 ((Tx.wp_iff_of_ok hrelease).2 (Tx.wp_bind.2 ?_))
  let w₂ : World Shop (List Observation) :=
    ⟨({ w₁.db with stock } : Shop).updateOrder o ({ · with paymentStatus := .refundProcessed }),
      trace⟩
  have hrow₂ : w₂.db.orders.rows o = some { order with paymentStatus := .refundProcessed } := by
    change (w₁.db.orders.modify o _).rows o = _
    rw [Table.rows_modify_self, horders, hrow]
    rfl
  have hedge : .refunded ∈ order.status.allowedTransitions := by
    by_contra h
    exact hfree (OrderStatus.isStuck_iff.2 ⟨hne, h⟩)
  have hchange := transition_changes (w := w₂) .refunded reason actor hrow₂ hne hedge
  refine (Tx.wp_iff_of_ok (x := setPaymentStatus o order .refundProcessed) (v := w₂) rfl).2
    (Tx.wp_bind.2 ((Tx.wp_iff_of_ok hchange).2 ?_))
  refine ⟨{ order with paymentStatus := .refundProcessed, status := .refunded }, ?_, rfl⟩
  change (w₂.db.orders.modify o _).rows o = _
  rw [Table.rows_modify_self, hrow₂]
  rfl

/-- Nothing but the payment status changes when a refund is asked for. -/
theorem requestRefund_returns (hrow : w.db.orders.rows o = some order) :
    (OrderService.requestRefund o reason actor).wp (fun _ w' => w'.db.orders.rows o =
      some { order with paymentStatus := .refundRequested }) (fun _ _ => False) w := by
  refine Tx.wp_atomic.2 (Tx.wp_bind.2 (wp_lockOrder.2 ⟨fun order' hrow' => ?_, fun hnone => ?_⟩))
  · obtain rfl := Option.some.inj (hrow.symm.trans hrow')
    change (w.db.orders.modify o _).rows o = _
    rw [Table.rows_modify_self, hrow]
    rfl
  · exact nomatch hrow.symm.trans hnone

end Returns

/-- An order can be refunded exactly when its status is not stuck. -/
theorem refundable_iff {shop : Shop} {o : OrderId} {order : Order}
    (hrow : shop.orders.rows o = some order) : Refundable o shop ↔ ¬order.status.isStuck := by
  constructor
  · intro h hstuck
    obtain ⟨hne, hedge⟩ := OrderStatus.isStuck_iff.1 hstuck
    have hyields : (OrderService.processRefund o "" "").Yields Shop.books shop.books _ :=
      OrderService.processRefund_made
    have hmade := hyields.ensures (w := ⟨shop, []⟩)
    rcases hrun : OrderService.processRefund o "" "" ⟨shop, []⟩ with ⟨_ | _, w'⟩
    · exact Tx.wp_of_error (h "" "" []).1 hrun
    · rcases Tx.wp_of_ok hmade hrun with ⟨-, order', hrow', hrefunded⟩ | ⟨⟨order', hrow', hcan⟩, -⟩
      · obtain rfl := Option.some.inj (hrow.symm.trans hrow')
        exact hne hrefunded
      · obtain rfl := Option.some.inj (hrow.symm.trans hrow')
        exact hedge hcan
  · intro hfree reason actor trace
    refine ⟨processRefund_refunds hrow hfree, fun note clerk => ?_⟩
    exact Tx.wp_seq (requestRefund_returns (w := ⟨shop, trace⟩) hrow)
      (fun _ _ hrow' => processRefund_refunds hrow' hfree) fun _ _ h => h

/-! ## What is claimed, and when it holds -/

namespace Books

/-- Money has come in for the order. -/
def HasMoney (b : Books) (o : OrderId) : Prop :=
  ∃ p, b.PaymentIs p fun payment => payment.order = o ∧ payment.status = .succeeded

/-- The order is there, and a refund leads out of its status. -/
def IsFree (b : Books) (o : OrderId) : Prop := b.OrderIs o fun order => ¬order.status.isStuck

end Books

/-- The operation takes money at the counter. -/
def Operation.IsCounterReceipt : Operation → Prop
  | call (.markCounterCashReceived ..) | call (.markCounterCardReceived ..) => True
  | _ => False

/-- No order is cancelled that has its money. A payment succeeds only for an order that is not
    stuck, or together with its order. -/
structure SparesMoney (operation : Operation) (b : Books) (ch : Change) : Prop where
  cancels : ∀ o, ch.cancels = some o → ¬b.HasMoney o
  pays : ∀ p, ch.pays = some p → operation.IsCounterReceipt ∨ b.PaymentIs p fun payment =>
    (∃ f, ch.updates = some (payment.order, f)) ∨ b.IsFree payment.order

/-- The orders with their money are free; those in `E` need not be. -/
def Books.MoneyIsFree (E : Set OrderId) (b : Books) : Prop :=
  ∀ o ∉ E, b.HasMoney o → b.IsFree o

/-! ## Changes -/

section Changes

variable {b : Books} {ch : Change} {o : OrderId} {operation : Operation} {E : Set OrderId}

/-- The state machine leads into a stuck status only by a cancellation. -/
theorem not_isStuck_of_mem {status newStatus : OrderStatus}
    (h : newStatus ∈ status.allowedTransitions) (hne : newStatus ≠ .cancelled) :
    ¬newStatus.isStuck := by
  revert h hne
  cases status <;> cases newStatus <;> decide

/-- What an update makes of an order is stuck only if the order was, or is cancelled. -/
theorem not_isStuck_of_updates (hguard : ch.Guard b) {f : Order → Order} {order : Order}
    (hupdates : ch.updates = some (o, f)) (hcancels : ch.cancels ≠ some o)
    (hrow : b.orders.rows o = some order) :
    (f order).status = order.status ∨ ¬(f order).status.isStuck := by
  cases ch with
  | amend =>
    cases hupdates
    exact .inl (hguard order).status
  | requestRefund | confirmCod | noteCash | openOnline | cancelPayment =>
    cases hupdates
    exact .inl rfl
  | cancel | failOrder | fail =>
    cases hupdates
    exact (hcancels rfl).elim
  | transition o' newStatus =>
    cases hupdates
    obtain ⟨order', hrow', hedge⟩ := hguard
    exact .inr (not_isStuck_of_mem hedge fun h => hcancels
      (by rw [show newStatus = .cancelled from h]; rfl))
  | refund =>
    cases hupdates
    exact .inr (show ¬OrderStatus.refunded.isStuck by decide)
  | deliver | deliverCod | receiveCash =>
    cases hupdates
    exact .inr (show ¬OrderStatus.delivered.isStuck by decide)
  | payOnline | capture =>
    cases hupdates
    exact .inr (show ¬OrderStatus.confirmedByShop.isStuck by decide)
  | payAtCounter =>
    cases hupdates
    exact .inr (show ¬OrderStatus.preparing.isStuck by decide)
  | _ => exact nomatch hupdates

/-- Only a cancellation gets an order stuck. -/
theorem isFree_apply (hguard : ch.Guard b) (hcancels : ch.cancels ≠ some o) (h : b.IsFree o) :
    (ch.apply b).IsFree o := by
  obtain ⟨order, hrow, hfree⟩ := h
  rcases Change.order_apply ch hrow with hsame | ⟨f, hupdates, hrow'⟩
  · exact ⟨order, hsame, hfree⟩
  · refine ⟨f order, hrow', ?_⟩
    rcases not_isStuck_of_updates hguard hupdates hcancels hrow with hsame | hfree'
    · rwa [hsame]
    · exact hfree'

/-- An order that gets its money is free, and one that has it stays so. -/
theorem moneyIsFree_apply (hguard : ch.Guard b) (hcancels : ∀ o, ch.cancels = some o → ¬b.HasMoney o)
    (hpays : ∀ p, ch.pays = some p → b.PaymentIs p fun payment => payment.order ∈ E ∨
      (∃ f, ch.updates = some (payment.order, f)) ∨ b.IsFree payment.order)
    (h : b.MoneyIsFree E) : (ch.apply b).MoneyIsFree E := by
  rintro o ho ⟨p, payment', hrow', rfl, hsucceeded⟩
  rcases Change.payment_of_apply hrow' with hsame | ⟨f, payment, hrewrites, hrow, rfl⟩ |
    ⟨payment, -, -, -, -, rfl⟩ | ⟨hopens, -⟩
  · -- the money was there
    have hmoney : b.HasMoney payment'.order := ⟨p, payment', hsame, rfl, hsucceeded⟩
    exact isFree_apply hguard (fun hc => hcancels _ hc hmoney) (h _ ho hmoney)
  · -- the payment succeeds now
    rw [(hguard.sameTerms hrewrites payment).order] at ho ⊢
    rcases hguard.pays_or hrewrites with hp | hnot
    · have hcancels : ∀ o, ch.cancels ≠ some o := by
        cases ch with
        | settle | capture | captureAgain => exact nofun
        | _ => exact nomatch hp
      obtain ⟨payment₁, hrow₁, hE | ⟨g, hupdates⟩ | hfree⟩ := hpays p hp
      all_goals obtain rfl := Option.some.inj (hrow.symm.trans hrow₁)
      · exact (ho hE).elim
      · cases ch with
        | capture o' =>
          cases hupdates
          obtain ⟨order, hrow, -⟩ := hguard.2.2
          refine ⟨order.paidOnline, ?_, show ¬OrderStatus.confirmedByShop.isStuck by decide⟩
          exact (Table.rows_modify_self ..).trans (congrArg (Option.map _) hrow)
        | settle | captureAgain => exact nomatch hupdates
        | _ => exact nomatch hp
      · exact isFree_apply hguard (hcancels _) hfree
    · exact (hnot payment hsucceeded).elim
  · exact nomatch hsucceeded
  · exact absurd (hguard.opens_open hopens) (by rw [hsucceeded]; decide)

end Changes

/-! ## Runs -/

/-- At the counter a payment succeeds before its order goes on; both have happened at the end. -/
theorem moneyIsFree_counter {db : Database} {step : Step} {o : OrderId} {p : PaymentId}
    {provider : Provider} (h : step.Only (SparesMoney step.operation) db)
    (hasks : ∀ b ch, step.operation.Asks step.env db b ch →
      PaymentService.CounterAsks o p provider db.shop.books b ch)
    (hends : (step.exec db).db.shop.books = db.shop.books ∨
      (step.exec db).db.shop.books.OrderIs o fun order =>
        order.paymentStatus = .paid ∧ order.status = .preparing)
    (hfree : db.shop.books.MoneyIsFree ∅) : (step.exec db).db.shop.books.MoneyIsFree ∅ := by
  rcases hends with hsame | ⟨order, hrow, -, hpreparing⟩
  · rwa [hsame]
  have hothers : (step.exec db).db.shop.books.MoneyIsFree {o} := by
    refine h.follows.inv (I := fun b => b.MoneyIsFree {o}) (fun o' _ => hfree o' id) ?_
    rintro b ch hb hguard ⟨hasked, hspares⟩
    refine moneyIsFree_apply hguard hspares.cancels (fun q hpays => ?_) hb
    have hcounter := hasks b ch hasked
    cases ch with
    | settle =>
      cases hpays
      obtain ⟨-, rfl, hpayment, -⟩ := hcounter
      exact hpayment.imp fun payment hpayment => ⟨hpayment.1, .inl hpayment.2.1⟩
    | payAtCounter => exact nomatch hpays
    | _ => exact hcounter.elim
  intro o' _ hmoney
  by_cases ho : o' = o
  · refine ⟨order, ho ▸ hrow, show ¬order.status.isStuck from ?_⟩
    rw [hpreparing]
    decide
  · exact hothers o' ho hmoney

theorem moneyIsFree_step {db : Database} {step : Step}
    (h : step.Only (SparesMoney step.operation) db) (hfree : db.shop.books.MoneyIsFree ∅) :
    (step.exec db).db.shop.books.MoneyIsFree ∅ := by
  by_cases hcounter : step.operation.IsCounterReceipt
  · cases hoperation : step.operation with
    | call call =>
      cases call with
      | markCounterCashReceived o p actor | markCounterCardReceived o p actor =>
        exact moneyIsFree_counter h (by rw [hoperation]; exact fun _ _ => id)
          (Step.ends hoperation (Tx.StepsAt.void (ends_steps (Tx.rollsBack_atomic _) (.atomic
            PaymentService.markCounterPaymentReceived_prepares)))) hfree
      | _ =>
        rw [hoperation] at hcounter
        exact hcounter.elim
    | _ =>
      rw [hoperation] at hcounter
      exact hcounter.elim
  · refine h.follows.inv (I := fun b => b.MoneyIsFree ∅) hfree fun b ch hb hguard hasks => ?_
    refine moneyIsFree_apply hguard hasks.2.cancels (fun p hpays => ?_) hb
    exact ((hasks.2.pays p hpays).resolve_left hcounter).imp fun _ hpayment =>
      ⟨hpayment.1, .inr hpayment.2⟩

/-- In a shop that begins without money, an order that has its money can always be refunded, as
    long as no order is cancelled with its money and no stuck order gets any. -/
theorem refundable_of_sparesMoney (db : Database) (run : List Step)
    (hstart : ∀ o, ¬db.shop.books.HasMoney o)
    (h : Always (fun db step => step.Only (SparesMoney step.operation) db) db run)
    (o : OrderId) (hmoney : (after db run).shop.books.HasMoney o) :
    Refundable o (after db run).shop := by
  have hfree : (after db run).shop.books.MoneyIsFree ∅ :=
    h.inv (I := fun db => db.shop.books.MoneyIsFree ∅) (fun o _ hm => (hstart o hm).elim)
      fun _ _ hfree hstep => moneyIsFree_step hstep hfree
  obtain ⟨order, hrow, hfree⟩ := hfree o id hmoney
  exact (refundable_iff hrow).2 hfree

/-! ## A paid order that is cancelled -/

theorem hasMoney_of_row {shop : Shop} {p : PaymentId} {o : OrderId}
    (h : (shop.payments.rows p).map (fun payment => (payment.order, payment.status)) =
      some (o, .succeeded)) : shop.books.HasMoney o := by
  obtain ⟨payment, hrow, hpayment⟩ := Option.map_eq_some_iff.1 h
  obtain ⟨horder, hsucceeded⟩ := Prod.mk.inj hpayment
  exact ⟨p, payment, hrow, horder, hsucceeded⟩

theorem not_hasMoney_of_empty {shop : Shop} (h : shop.payments.next = 0) (o : OrderId) :
    ¬shop.books.HasMoney o := fun ⟨_, _, hrow, _⟩ =>
  absurd (h ▸ Table.lt_next hrow) (Nat.not_lt_zero _)

/-- A counter order that is paid, and nothing else. -/
def paidAtCounterRun : List Step :=
  [cornerCounterCheckout, cornerCall (.markCounterCashReceived 0 0 "cashier")]

theorem refundable_of_sparesMoney_counter : Refundable 0 (after cornerShop paidAtCounterRun).shop := by
  refine refundable_of_sparesMoney cornerShop paidAtCounterRun (not_hasMoney_of_empty rfl)
    ⟨?_, ?_, trivial⟩ 0 (hasMoney_of_row (p := 0) (by decide +kernel))
  · rintro b ch ⟨-, order, reservations, payment, rfl⟩ -
    exact ⟨nofun, nofun⟩
  · rintro b ch hasks -
    refine ⟨fun o hcancels => ?_, fun p _ => .inl trivial⟩
    cases ch with
    | settle | payAtCounter => exact nomatch hcancels
    | _ => exact hasks.elim

/-- What a refund needs, read off the shop. -/
theorem Refundable.not_isStuck {shop : Shop} {o : OrderId} (status : OrderStatus)
    (h : Refundable o shop) (hrow : (shop.orders.rows o).map (·.status) = some status) :
    ¬status.isStuck := by
  obtain ⟨order, hthere, rfl⟩ := Option.map_eq_some_iff.1 hrow
  exact (refundable_iff hthere).1 h

/-- A paid order is cancelled, and its money cannot be given back any more. -/
theorem not_refundable_cancelled : ¬∀ o,
    (after cornerShop (paidAtCounterRun ++ [cornerCall (.cancel 0 "" "admin")])).shop.books.HasMoney
      o → Refundable o
        (after cornerShop (paidAtCounterRun ++ [cornerCall (.cancel 0 "" "admin")])).shop := by
  intro h
  exact (h 0 (hasMoney_of_row (p := 0) (by decide +kernel))).not_isStuck .cancelled
    (by decide +kernel) (by decide)

/-! ## All of the money -/

/-- The order is refunded. -/
def Books.IsRefunded (b : Books) (o : OrderId) : Prop :=
  b.OrderIs o fun order => order.status = .refunded

/-- The orders that the step is to refund, in the database that it begins with: the one that it is
    called with, or that of the one payment with the intent of a refunded charge. -/
def Step.AsksRefund (db : Database) (step : Step) (o : OrderId) : Prop :=
  match step.operation with
  | .call (.processRefund o' _ _) => o' = o
  | .stripeWebhook payload signature => ∃ event p payment,
      StripePaymentProvider.verifyWebhook step.env payload signature = .ok event ∧
        ¬db.isProcessed event.eventId ∧ event.eventType = "charge.refunded" ∧
          db.shop.books.payments.filter
              (fun p => some p.providerPaymentId = event.dataObject.paymentIntent) =
            [(p, payment)] ∧ payment.order = o
  | _ => False

/-- An order that the step has refunded has no money left. -/
def RefundsAll (db : Database) (step : Step) : Prop :=
  ∀ o, step.AsksRefund db o → (step.exec db).db.shop.books.IsRefunded o →
    ¬(step.exec db).db.shop.books.HasMoney o

/-- The newest payment of an order that is to be refunded, and can be, is the only one with money;
    if the order is refunded already, none has. -/
def PaidByNewest (db : Database) (step : Step) : Prop :=
  ∀ o, step.AsksRefund db o → db.shop.books.IsFree o →
    (∀ p, (db.shop.books.PaymentIs p fun payment => payment.order = o ∧
        payment.status = .succeeded) → (db.shop.books.newestPayment o).map Prod.fst = some p) ∧
      (db.shop.books.IsRefunded o → ¬db.shop.books.HasMoney o)

/-- A refund leaves no money behind if the newest payment has it all. -/
theorem not_hasMoney_refund {b : Books} {o : OrderId}
    (hnewest : ∀ p, (b.PaymentIs p fun payment => payment.order = o ∧
      payment.status = .succeeded) → (b.newestPayment o).map Prod.fst = some p) :
    ¬((Change.refund o).apply b).HasMoney o := by
  rintro ⟨p, payment', hrow', horder, hsucceeded⟩
  have hrefunded : (Change.refundNewest b o).payments.rows p = some payment' := hrow'
  rcases Change.payment_of_refundNewest hrefunded with hrow | ⟨payment, -, -, -, -, rfl⟩
  · obtain ⟨e, he, rfl⟩ := Option.map_eq_some_iff.1 (hnewest p ⟨payment', hrow, horder, hsucceeded⟩)
    obtain ⟨hthere, -⟩ := Table.mem_filter.1 (newest_mem he)
    obtain rfl := Option.some.inj (hrow.symm.trans hthere)
    rw [Change.refundNewest, he] at hrefunded
    dsimp only at hrefunded
    rw [if_pos hsucceeded, Books.updatePayment, Table.rows_modify_self, hrow] at hrefunded
    have hstatus : PaymentStatus.refunded = .succeeded :=
      (congrArg Payment.status (Option.some.inj hrefunded)).trans hsucceeded
    cases hstatus
  · cases hsucceeded

theorem refundsAll_step {db : Database} {step : Step} (h : PaidByNewest db step) :
    RefundsAll db step := by
  intro o hasks hrefunded
  have hpaid := h o hasks
  have hpinned : (step.exec db).db.shop.books = db.shop.books ∨ (Change.refund o).Guard db.shop.books ∧
      (step.exec db).db.shop.books = (Change.refund o).apply db.shop.books := by
    have hfollows := step.follows db
    cases hoperation : step.operation with
    | call call =>
      cases call with
      | processRefund o' reason actor =>
        rw [Step.AsksRefund, hoperation] at hasks
        subst hasks
        rw [hoperation] at hfollows
        rcases hfollows.pinned fun _ _ h => h.1 with hsame | ⟨ch, hguard, ⟨-, rfl⟩, hdone⟩
        · exact .inl hsame
        · exact .inr ⟨hguard, hdone⟩
      | _ =>
        rw [Step.AsksRefund, hoperation] at hasks
        exact hasks.elim
    | zarinpalCallback request =>
      rw [Step.AsksRefund, hoperation] at hasks
      exact hasks.elim
    | stripeWebhook payload signature =>
      rw [Step.AsksRefund, hoperation] at hasks
      obtain ⟨event, p, payment, hverified, -, htype, honly, rfl⟩ := hasks
      rw [hoperation] at hfollows
      rcases hfollows.pinned fun _ _ h => h.1 with hsame | ⟨ch, hguard,
        ⟨-, event', hverified', -, hasked⟩, hdone⟩
      · exact .inl hsame
      · obtain rfl := Except.ok.inj (hverified.symm.trans hverified')
        cases ch with
        | refund o' =>
          obtain ⟨-, p', payment', honly', rfl⟩ := hasked
          obtain ⟨-, rfl⟩ := Prod.mk.inj (List.singleton_inj.1 (honly.symm.trans honly'))
          exact .inr ⟨hguard, hdone⟩
        | captureAgain | capture | fail | failLate | cancelPayment =>
          exact absurd (htype.symm.trans hasked.1) (by decide)
        | _ => exact hasked.elim
  rcases hpinned with hsame | ⟨⟨order, hrow, hedge⟩, happlied⟩
  · rw [hsame] at hrefunded ⊢
    obtain ⟨order, hrow, hstatus⟩ := id hrefunded
    exact (hpaid ⟨order, hrow, fun hstuck => (OrderStatus.isStuck_iff.1 hstuck).1 hstatus⟩).2
      hrefunded
  · rw [happlied]
    exact not_hasMoney_refund
      (hpaid ⟨order, hrow, fun hstuck => (OrderStatus.isStuck_iff.1 hstuck).2 hedge⟩).1

/-- As long as refunds find all the money in the newest payment, they leave none behind. -/
theorem refundsAll_of_paidByNewest (db : Database) (run : List Step)
    (h : Always PaidByNewest db run) : Always RefundsAll db run :=
  h.mono fun _ _ => refundsAll_step

/-! ## Money in two payments -/

/-- The condition in a shop with one payment, read off the database. -/
theorem paidByNewest_of_only {db : Database} {step : Step} {o : OrderId}
    (hasks : ∀ o', step.AsksRefund db o' → o' = o) (hnext : db.shop.payments.next = 1)
    (hnewest : (db.shop.books.newestPayment o).map Prod.fst = some 0)
    (hstatus : (db.shop.orders.rows o).map (·.status) ≠ some .refunded) : PaidByNewest db step := by
  intro o' ho _
  obtain rfl := hasks o' ho
  refine ⟨fun p ⟨_, hrow, _⟩ => ?_, fun ⟨order, hrow, hrefunded⟩ => (hstatus ?_).elim⟩
  · obtain rfl : p = 0 := Nat.lt_one_iff.1 (hnext ▸ Table.lt_next hrow)
    exact hnewest
  · exact Option.map_eq_some_iff.2 ⟨order, hrow, hrefunded⟩

/-- A counter order is paid, and refunded. -/
theorem refundsAll_of_paidByNewest_counter : Always RefundsAll cornerShop
    (paidAtCounterRun ++ [cornerCall (.processRefund 0 "" "admin")]) :=
  refundsAll_of_paidByNewest cornerShop _ ⟨nofun, nofun,
    paidByNewest_of_only (o := 0) (fun _ h => h.symm) (by decide +kernel) (by decide +kernel)
      (by decide +kernel), trivial⟩

/-- A second session is opened a minute later, and both are paid. -/
def paidTwoSessionsRun : List Step :=
  [cornerStripeCall (.processCheckout 0 { email := "", phone := "1" } none fun _ _ => {}),
    { env := { cornerStripe with now := 60 }, operation := .call (.initiateOnline 0) },
    cornerStripeCall (.markPaid 0 0), cornerStripeCall (.markPaid 0 1)]

/-- What a refund must leave, read off the databases. -/
theorem RefundsAll.not_succeeded {db : Database} {step : Step} (h : RefundsAll db step)
    {o : OrderId} {p : PaymentId} {reason actor : String}
    (hoperation : step.operation = .call (.processRefund o reason actor))
    (hrow : ((step.exec db).db.shop.orders.rows o).map (·.status) = some .refunded) :
    ((step.exec db).db.shop.payments.rows p).map (fun payment =>
      (payment.order, payment.status)) ≠ some (o, .succeeded) := fun hp => by
  refine h o ?_ (Option.map_eq_some_iff.1 hrow) (hasMoney_of_row hp)
  rw [Step.AsksRefund, hoperation]

/-- Only one of them is refunded with the order. -/
theorem not_refundsAll_twoSessions : ¬Always RefundsAll cornerShop
    (paidTwoSessionsRun ++ [cornerStripeCall (.processRefund 0 "" "admin")]) := by
  rintro ⟨-, -, -, -, hall, -⟩
  exact hall.not_succeeded (p := 0) rfl (by decide +kernel) (by decide +kernel)

end Crumbs
