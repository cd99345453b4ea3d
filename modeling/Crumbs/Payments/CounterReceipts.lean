import Crumbs.Db.Once
import Crumbs.Inventory.Holds
import Crumbs.Orders.Outcomes
import Crumbs.System

/-!
# Payments at the Counter

Cash or a card payment that is recorded for an order of the counter. The call may be repeated, and
come with the wrong payment: of the calls for one payment at most one has an effect, and a call that
raises has none.

## Contents

- `finalizeCounterPayment_ensures`: what the order goes through
- `CounterCall`: the two services, as calls for one order
- `CounterRecorded`, `RecordsOnce`: what a call with an effect leaves, and that there is one at most
- `recordsOnce_run`: that this holds of all calls, except that an order that is paid and being
  prepared already keeps its reservations as they are
-/

namespace Crumbs

open Crumbs.Db

/-! ## Finalising an order -/

namespace Shop

/-- The order is paid and being prepared. -/
def finalizedAtCounter (shop : Shop) (o : OrderId) : Bool :=
  (shop.orders.rows o).any fun order => order.paymentStatus = .paid ∧ order.status = .preparing

/-- The reservations after all those of the order were confirmed. -/
def confirmedHolds (o : OrderId) (shop : Shop) : Holds := Holds.confirm o shop.stock.reservations

/-- The reservations after a receipt: an order that is finalised already is left alone. -/
def holdsAfterReceipt (o : OrderId) (shop : Shop) : Holds :=
  if shop.finalizedAtCounter o then shop.stock.reservations else shop.confirmedHolds o

end Shop

/-- What finalising leaves: the order is paid and being prepared, and its change of status, if there
    was one, is logged. -/
structure FinalizedAtCounter (o : OrderId) (shop shop' : Shop) : Prop where
  order : ∃ order, shop.orders.rows o = some order ∧
    shop'.orders.rows o = some { order with paymentStatus := .paid, status := .preparing }
  payments : shop'.payments = shop.payments
  stock : shop'.stock = { shop.stock with reservations := shop.holdsAfterReceipt o }
  logs : ∃ logs, shop'.statusLogs = shop.statusLogs ++ logs ∧ logs.length ≤ 1

section Finalize

variable {w : World Shop (List Observation)} {o : OrderId} {order : Order}

theorem onStock_confirmReservations_eq (o : OrderId) (w : World Shop (List Observation)) :
    ShopTx.onStock (confirmReservations o) w = (.ok (), ⟨{ w.db with
      stock := { w.db.stock with reservations := w.db.confirmedHolds o } }, w.ext⟩) :=
  Tx.zoom_apply (confirmReservations_spec o (stockWorld w))

theorem finalizeCounterPayment_ensures (actor : String) :
    (OrderService.finalizeCounterPayment o actor).Ensures
      (fun _ w' => FinalizedAtCounter o w.db w'.db) w := by
  refine Tx.Ensures.atomic (Tx.wp_bind.2 (wp_lockOrder.2 ⟨fun order hrow => ?_, fun _ => trivial⟩))
  have hfinalized : w.db.finalizedAtCounter o =
      decide (order.paymentStatus = .paid ∧ order.status = .preparing) := by
    rw [Shop.finalizedAtCounter, hrow, Option.any_some]
  refine Tx.Ensures.ite (fun hdone => ?_) fun hopen => ?_
  · refine ⟨⟨order, hrow, ?_⟩, rfl, ?_, [], (List.append_nil _).symm, Nat.zero_le 1⟩
    · rw [← hdone.1, ← hdone.2, hrow]
    · rw [Shop.holdsAfterReceipt, hfinalized, decide_eq_true hdone, if_pos rfl]
  · let w₁ : World Shop (List Observation) :=
      { w with db := w.db.updateOrder o ({ · with paymentStatus := .paid }) }
    let w₂ : World Shop (List Observation) := ⟨{ w₁.db with
      stock := { w₁.db.stock with reservations := w₁.db.confirmedHolds o } }, w₁.ext⟩
    have hrow₂ : w₂.db.orders.rows o = some { order with paymentStatus := .paid } := by
      change (w.db.orders.modify o _).rows o = _
      rw [Table.rows_modify_self, hrow]
      rfl
    have hpaid : setPaymentStatus o order .paid w =
        (.ok { order with paymentStatus := .paid }, w₁) := rfl
    refine Tx.wp_bind.2 ((Tx.wp_iff_of_ok hpaid).2 (Tx.wp_bind.2 ?_))
    refine (Tx.wp_iff_of_ok (onStock_confirmReservations_eq o w₁)).2 ?_
    refine (transition_ensures (w := w₂) .preparing "Counter payment received" actor hrow₂).mono
      fun _ w' h => ?_
    obtain ⟨hrow', hpayments, hstock, hlogs⟩ := h
    refine ⟨⟨order, hrow, hrow'⟩, hpayments, hstock.trans ?_, hlogs⟩
    rw [Shop.holdsAfterReceipt, hfinalized, decide_eq_false hopen, if_neg Bool.false_ne_true]
    rfl

end Finalize

/-! ## The calls -/

/-- `mark_counter_cash_received` and `mark_counter_card_received`, called for some order. -/
inductive CounterCall where
  | cash (p : PaymentId) (actor : String)
  | card (p : PaymentId) (actor : String)

namespace CounterCall

/-- The payment that the call is made with. -/
def payment : CounterCall → PaymentId
  | cash p _ | card p _ => p

/-- The provider that the payment must have. -/
def provider : CounterCall → Provider
  | cash _ _ => .cash
  | card _ _ => .counterCard

def actor : CounterCall → String
  | cash _ actor | card _ actor => actor

/-- The code that a call runs. -/
def run (o : OrderId) : CounterCall → ShopTx Order
  | cash p actor => PaymentService.markCounterCashReceived o p actor
  | card p actor => PaymentService.markCounterCardReceived o p actor

/-- The shop that a call leaves. -/
def exec (o : OrderId) (call : CounterCall) (shop : Shop) : Shop := (call.run o ⟨shop, []⟩).2.db

def Raises (o : OrderId) (call : CounterCall) (shop : Shop) : Prop :=
  ∃ e, (call.run o ⟨shop, []⟩).1 = .error e

end CounterCall

/-- What a call with an effect leaves, where `holds` says what becomes of the reservations. -/
structure CounterRecorded (holds : Shop → Holds) (o : OrderId) (p : PaymentId) (provider : Provider)
    (shop shop' : Shop) : Prop where
  payment : ∃ payment, shop'.payments.rows p = some payment ∧ payment.order = o ∧
    payment.provider = provider ∧ payment.status = .succeeded
  otherPayments : ∀ q, q ≠ p → shop'.payments.rows q = shop.payments.rows q
  order : ∃ order, shop.orders.rows o = some order ∧ order.isCounterPayment ∧
    shop'.orders.rows o = some { order with paymentStatus := .paid, status := .preparing }
  stock : shop'.stock = { shop.stock with reservations := holds shop }
  logs : ∃ logs, shop'.statusLogs = shop.statusLogs ++ logs ∧ logs.length ≤ 1

/-- The calls record each payment of the order once: a call that raises leaves the shop as it was;
    a call that has an effect records its payment, and no later call for this payment has any. -/
def RecordsOnce (holds : Shop → Holds) (o : OrderId) (calls : List CounterCall) (shop : Shop) :
    Prop :=
  ∀ earlier call later, calls = earlier ++ call :: later →
    let before := runCallsOn (CounterCall.exec o) earlier shop
    (call.Raises o before → call.exec o before = before) ∧
      (call.exec o before ≠ before →
        CounterRecorded holds o call.payment call.provider before (call.exec o before) ∧
        ∀ mid call' rest, later = mid ++ call' :: rest → call'.payment = call.payment →
          let found := runCallsOn (CounterCall.exec o) (call :: mid) before
          call'.exec o found = found)

/-- The payment of the order has succeeded, and the order does not wait for it any more. -/
def CounterSettled (o : OrderId) (p : PaymentId) (shop : Shop) : Prop :=
  ∃ order payment, shop.orders.rows o = some order ∧ order.status ≠ .awaitingPayment ∧
    shop.payments.rows p = some payment ∧ payment.status = .succeeded

section Calls

variable {w : World Shop (List Observation)} {o : OrderId} {p : PaymentId}

/-- A call that returns finds the payment settled and leaves the shop as it was, or records it. -/
theorem markCounterPaymentReceived_ensures (provider : Provider) (actor : String) :
    (PaymentService.markCounterPaymentReceived o p provider actor).Ensures (fun _ w' =>
      w'.db = w.db ∧ CounterSettled o p w.db ∨
        CounterRecorded (Shop.holdsAfterReceipt o) o p provider w.db w'.db) w := by
  refine Tx.Ensures.atomic (Tx.wp_bind.2 (wp_lockOrder.2 ⟨fun order hrow => ?_, fun _ => trivial⟩))
  refine Tx.wp_bind.2 (wp_lockPayment.2 ⟨fun payment hpay => ?_, fun _ => trivial⟩)
  refine Tx.ensures_check fun hprovider => Tx.ensures_check fun horder =>
    Tx.ensures_check fun hcounter => ?_
  have hprovider := not_not.1 hprovider
  have horder := not_not.1 horder
  have hcounter := not_not.1 hcounter
  refine Tx.Ensures.ite (fun h => .inl ⟨rfl, order, payment, hrow, h.1, hpay, h.2⟩) fun hnot => ?_
  refine Tx.Ensures.ite (fun hsucceeded => ?_) fun hopen => ?_
  · refine Tx.Ensures.ite (fun h => ?_) fun _ => ?_
    · exact .inl ⟨rfl, order, payment, hrow, by rw [h]; decide, hpay, hsucceeded⟩
    · refine (finalizeCounterPayment_ensures actor).mono fun _ w' h => .inr ?_
      obtain ⟨order', hrow', hdone⟩ := h.order
      obtain rfl := Option.some.inj (hrow.symm.trans hrow')
      refine ⟨⟨payment, ?_, horder, hprovider, hsucceeded⟩, fun _ _ => by rw [h.payments],
        ⟨order, hrow, hcounter, hdone⟩, h.stock, h.logs⟩
      rw [h.payments, hpay]
  · refine Tx.wp_bind.2 (Tx.wp_modifyDb.2 ?_)
    refine (finalizeCounterPayment_ensures actor).mono fun _ w' h => .inr ?_
    obtain ⟨order', hrow', hdone⟩ := h.order
    obtain rfl := Option.some.inj (hrow.symm.trans hrow')
    refine ⟨⟨PaymentService.received payment "counter_payment_event" "counter_payment_received"
      "counter_payment_actor" actor, ?_, horder, hprovider, rfl⟩, fun q hq => ?_,
      ⟨order, hrow, hcounter, hdone⟩, h.stock, h.logs⟩ <;> rw [h.payments]
    · exact (Table.rows_modify_self ..).trans (congrArg _ hpay)
    · exact Table.rows_modify_ne _ _ hq

/-- A call for a settled payment leaves the shop as it is, whether it returns or raises. -/
theorem markCounterPaymentReceived_settled (provider : Provider) (actor : String)
    (h : CounterSettled o p w.db) :
    (PaymentService.markCounterPaymentReceived o p provider actor).Ensures
      (fun _ w' => w'.db = w.db) w := by
  obtain ⟨order, payment, hrow, hstatus, hpay, hsucceeded⟩ := h
  refine Tx.Ensures.atomic (Tx.wp_bind.2 (wp_lockOrder.2 ⟨fun order' hrow' => ?_, fun _ => trivial⟩))
  obtain rfl := Option.some.inj (hrow.symm.trans hrow')
  refine Tx.wp_bind.2 (wp_lockPayment.2 ⟨fun payment' hpay' => ?_, fun _ => trivial⟩)
  obtain rfl := Option.some.inj (hpay.symm.trans hpay')
  refine Tx.ensures_check fun _ => Tx.ensures_check fun _ => Tx.ensures_check fun _ => ?_
  exact Tx.Ensures.ite (fun _ => rfl) fun hnot => (hnot ⟨hstatus, hsucceeded⟩).elim

end Calls

namespace CounterCall

variable {o : OrderId} {call : CounterCall} {shop : Shop}

theorem run_eq (o : OrderId) (call : CounterCall) : call.run o =
    Tx.atomic (PaymentService.markCounterPaymentReceived o call.payment call.provider call.actor) := by
  cases call <;> rfl

theorem exec_of_raises (h : call.Raises o shop) : call.exec o shop = shop := by
  obtain ⟨e, he⟩ := h
  have hrollback : (call.run o).RollsBack := run_eq o call ▸ Tx.rollsBack_atomic _
  exact hrollback.run (Prod.ext he rfl)

/-- A call finds the payment settled, or it raises, or it records the payment. -/
theorem exec_or (o : OrderId) (call : CounterCall) (shop : Shop) : call.exec o shop = shop ∨
    CounterRecorded (Shop.holdsAfterReceipt o) o call.payment call.provider shop
      (call.exec o shop) := by
  have hspec := (markCounterPaymentReceived_ensures (w := ⟨shop, []⟩) (o := o) (p := call.payment)
    call.provider call.actor).atomic_or
  rw [← run_eq] at hspec
  rcases hrun : call.run o ⟨shop, []⟩ with ⟨e | order, w'⟩
  · exact .inl (exec_of_raises ⟨e, congrArg Prod.fst hrun⟩)
  · have hexec : call.exec o shop = w'.db := congrArg (·.2.db) hrun
    rw [hexec]
    exact (Tx.wp_of_ok hspec hrun).imp_left And.left

theorem exec_settled (h : CounterSettled o call.payment shop) : call.exec o shop = shop := by
  have hspec := (markCounterPaymentReceived_settled (w := ⟨shop, []⟩) call.provider call.actor
    h).atomic_or
  rw [← run_eq] at hspec
  rcases hrun : call.run o ⟨shop, []⟩ with ⟨e | order, w'⟩
  · exact exec_of_raises ⟨e, congrArg Prod.fst hrun⟩
  · have hexec : call.exec o shop = w'.db := congrArg (·.2.db) hrun
    rw [hexec]
    exact Tx.wp_of_ok hspec hrun

end CounterCall

/-- A recorded payment is settled, and so are the payments that were settled before. -/
theorem CounterRecorded.settled {holds : Shop → Holds} {o : OrderId} {p q : PaymentId}
    {provider : Provider} {shop shop' : Shop} (h : CounterRecorded holds o p provider shop shop')
    (hq : q = p ∨ CounterSettled o q shop) : CounterSettled o q shop' := by
  obtain ⟨payment, hpay, -, -, hsucceeded⟩ := h.payment
  obtain ⟨order, -, -, hrow⟩ := h.order
  have hstatus : OrderStatus.preparing ≠ .awaitingPayment := by decide
  by_cases hqp : q = p
  · exact ⟨_, payment, hrow, hstatus, hqp ▸ hpay, hsucceeded⟩
  · obtain ⟨-, payment', -, -, hpay', hsucceeded'⟩ := hq.resolve_left hqp
    exact ⟨_, payment', hrow, hstatus, (h.otherPayments q hqp).trans hpay', hsucceeded'⟩

theorem counterCalls_countOnce (o : OrderId) :
    CountsOnce (CounterCall.exec o) CounterCall.payment (fun _ => True) (CounterSettled o) where
  fits _ := trivial
  settles {c s} _ := (c.exec_or o s).imp_right fun h => h.settled (.inl rfl)
  noop _ h := CounterCall.exec_settled h
  keeps {c k s} _ h := by
    rcases c.exec_or o s with hsame | hrecorded
    · rwa [hsame]
    · exact hrecorded.settled (.inr h)

/-- The calls record each payment once. What becomes of the reservations is not always what the
    name of the call suggests: those of an order that is paid and being prepared stay as they are. -/
theorem recordsOnce_run (o : OrderId) (calls : List CounterCall) (shop : Shop) :
    RecordsOnce (Shop.holdsAfterReceipt o) o calls shop := by
  intro earlier call later _ before
  refine ⟨CounterCall.exec_of_raises, fun heffect => ?_⟩
  refine ⟨(call.exec_or o before).resolve_left heffect, fun mid call' rest _ hsame => ?_⟩
  exact (counterCalls_countOnce o).later_noop trivial heffect mid hsame

/-! ## An order that is finalised without its payment -/

/-- What the calls must do to a reservation, read off the shops before and after. -/
theorem RecordsOnce.status_eq {holds : Shop → Holds} {o : OrderId} {call : CounterCall}
    {shop : Shop} (h : RecordsOnce holds o [call] shop) {p : PaymentId}
    (heffect : ((call.exec o shop).payments.rows p).map (·.status) ≠
      (shop.payments.rows p).map (·.status)) (i : ReservationId) :
    ((call.exec o shop).stock.reservations.rows i).map (·.status) =
      ((holds shop).rows i).map (·.status) := by
  obtain ⟨hrecorded, -⟩ := (h [] call [] rfl).2 fun hsame => heffect (by
    rw [show call.exec o shop = shop from hsame])
  rw [show (call.exec o shop).stock = _ from hrecorded.stock]
  rfl

/-- A counter order is finalised without its payment, and then booked again. -/
def finalizedUnpaid : Shop :=
  (after cornerShop [cornerCounterCheckout, cornerCall (.finalizeCounterPayment 0 "admin"),
    cornerCall (.reserveStock 0)]).shop

/-- Its payment is recorded, and the new reservation is not confirmed. -/
theorem not_recordsOnce_finalizedUnpaid :
    ¬RecordsOnce (Shop.confirmedHolds 0) 0 [.cash 0 "cashier"] finalizedUnpaid := by
  intro h
  have hstatus := h.status_eq (p := 0) (by decide +kernel) 1
  exact absurd hstatus (by decide +kernel)

end Crumbs
