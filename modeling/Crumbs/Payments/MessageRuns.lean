import Crumbs.Db.Runs
import Crumbs.Payments.Messages
import Crumbs.System

/-!
# Messages over Whole Runs

The order and payment operations one after another, with whatever else happens to the shop between
them, and with exceptions that strike in the middle of a call.

## Contents

- `LifecycleCall`: the operations that save orders
- `LifecycleCall.EndsWell`: nothing raises once the first message is out
- `messageStep`: a call, or something else that happens to the shop
- `accounted_of_endsWell`: then every message tells of a committed change
-/

namespace Crumbs

open Crumbs.Db

/-! ## Calls -/

/-- A call of an operation that saves an order. -/
inductive LifecycleCall where
  | transition (o : OrderId) (newStatus : OrderStatus) (note actor : String)
  | cancel (o : OrderId) (reason actor : String)
  | markPaymentFailed (o : OrderId) (reason actor : String)
  | requestRefund (o : OrderId) (reason actor : String)
  | processRefund (o : OrderId) (reason actor : String)
  | completeDelivery (o : OrderId) (actor : String)
  | finalizeCounterPayment (o : OrderId) (actor : String)
  | finalizeOnlinePayment (o : OrderId)
  | confirmCod (o : OrderId) (actor : String)
  | recordCashReceived (o : OrderId) (actor : String)
  | initiateOnline (around : Env) (o : OrderId)
  | markCounterCashReceived (o : OrderId) (p : PaymentId) (actor : String)
  | markCounterCardReceived (o : OrderId) (p : PaymentId) (actor : String)
  | markPaid (o : OrderId) (p : PaymentId)
  | ensureCodCashFinalized (o : OrderId) (payment : Option PaymentId) (actor : String)
  | markCodCashReceived (o : OrderId) (p : PaymentId) (actor : String)
  | markFailed (o : OrderId) (p : PaymentId) (message : String)
  | markCancelled (o : OrderId) (p : PaymentId) (message : String)

/-- The outermost transaction of a call. What goes wrong last is its commit. -/
def commit {α : Type} (env : EventEnv) (x : EventTx α) : EventTx Unit := Tx.atomic do
  let _ ← x
  strikes env

namespace LifecycleCall

def run (env : EventEnv) : LifecycleCall → EventTx Unit
  | transition o newStatus note actor => commit env (Emitting.transition env o newStatus note actor)
  | cancel o reason actor => commit env (Emitting.cancel env o reason actor)
  | markPaymentFailed o reason actor => commit env (Emitting.markPaymentFailed env o reason actor)
  | requestRefund o reason actor => commit env (Emitting.requestRefund env o reason actor)
  | processRefund o reason actor => commit env (Emitting.processRefund env o reason actor)
  | completeDelivery o actor => commit env (Emitting.completeDelivery env o actor)
  | finalizeCounterPayment o actor => commit env (Emitting.finalizeCounterPayment env o actor)
  | finalizeOnlinePayment o => commit env (Emitting.finalizeOnlinePayment env o)
  | confirmCod o actor => commit env (Emitting.confirmCod env o actor)
  | recordCashReceived o actor => commit env (Emitting.recordCashReceived env o actor)
  | initiateOnline around o => commit env (Emitting.initiateOnline env around o)
  | markCounterCashReceived o p actor => commit env (Emitting.markCounterCashReceived env o p actor)
  | markCounterCardReceived o p actor => commit env (Emitting.markCounterCardReceived env o p actor)
  | markPaid o p => commit env (Emitting.markPaid env o p)
  | ensureCodCashFinalized o payment actor =>
    commit env (Emitting.ensureCodCashFinalized env o payment actor)
  | markCodCashReceived o p actor => commit env (Emitting.markCodCashReceived env o p actor)
  | markFailed o p message => commit env (Emitting.markFailed env o p message)
  | markCancelled o p message => commit env (Emitting.markCancelled env o p message)

/-! ## Which of them end well -/

open Emitting (MayFollow)

/-- The counter payment is not recorded, or the order may be prepared. -/
def CounterEndsWell (db : EventDatabase) (o : OrderId) (p : PaymentId) (expectedProvider : Provider) :
    Prop :=
  ∀ order ∈ db.shop.orders.rows o, ∀ payment ∈ db.shop.payments.rows p,
    payment.provider = expectedProvider → payment.order = o → order.isCounterPayment →
      order.status ≠ .awaitingPayment ∧ payment.status = .succeeded ∨
        MayFollow db o order .paid .preparing

instance (db : EventDatabase) (o : OrderId) (p : PaymentId) (expectedProvider : Provider) :
    Decidable (CounterEndsWell db o p expectedProvider) :=
  inferInstanceAs (Decidable (∀ order ∈ db.shop.orders.rows o, ∀ payment ∈ _, _))

/-- The status that the order has allows the change of status that comes after a message about its
    payment status, or there is no such message. -/
def EndsWell (db : EventDatabase) : LifecycleCall → Prop
  | cancel o _ _ => ∀ order ∈ db.shop.orders.rows o, order.status.isClosed ∨
      order.paymentStatus ≠ .pendingPayment ∨ MayFollow db o order .failed .cancelled
  | markPaymentFailed o _ _ => ∀ order ∈ db.shop.orders.rows o,
      order.paymentStatus.isSuccessful ∨ order.status.isClosed ∨
        MayFollow db o order .failed .cancelled
  | processRefund o _ _ => ∀ order ∈ db.shop.orders.rows o, order.status = .refunded ∨
      MayFollow db o order .refundProcessed .refunded
  | finalizeCounterPayment o _ => ∀ order ∈ db.shop.orders.rows o,
      MayFollow db o order .paid .preparing
  | finalizeOnlinePayment o => ∀ order ∈ db.shop.orders.rows o, MayFollow db o order .paid .paid
  | recordCashReceived o _ => ∀ order ∈ db.shop.orders.rows o,
      order.paymentStatus = .cashReceived ∨ MayFollow db o order .cashReceived .delivered
  | markCounterCashReceived o p _ => CounterEndsWell db o p .cash
  | markCounterCardReceived o p _ => CounterEndsWell db o p .counterCard
  | markPaid o p => ∀ order ∈ db.shop.orders.rows o, ∀ payment ∈ db.shop.payments.rows p,
      payment.status = .succeeded ∨ orderHasSuccessfulPayment order ∨
        MayFollow db o order .paid .paid
  | markCodCashReceived o p _ => ∀ order ∈ db.shop.orders.rows o,
      ∀ payment ∈ db.shop.payments.rows p, payment.provider = .cod → payment.order = o →
        order.paymentStatus = .cashReceived ∨
          ¬db.Announces o { order with paymentStatus := .cashReceived } ∨ ¬order.isCod ∨
            canTransition order.status .delivered ∧ db.shop.stock.CanFulfill o
  | markFailed o p _ => ∀ order ∈ db.shop.orders.rows o, ∀ payment ∈ db.shop.payments.rows p,
      payment.status = .succeeded ∨ order.paymentStatus.isSuccessful ∨ order.status.isClosed ∨
        MayFollow db o order .failed .cancelled
  | transition .. | requestRefund .. | completeDelivery .. | confirmCod .. | initiateOnline ..
  | ensureCodCashFinalized .. | markCancelled .. => True

instance (db : EventDatabase) : (call : LifecycleCall) → Decidable (call.EndsWell db)
  | cancel .. | markPaymentFailed .. | processRefund .. | finalizeCounterPayment ..
  | finalizeOnlinePayment _ | recordCashReceived .. =>
    inferInstanceAs (Decidable (∀ order ∈ db.shop.orders.rows _, _))
  | markCounterCashReceived .. | markCounterCardReceived .. =>
    inferInstanceAs (Decidable (CounterEndsWell ..))
  | markPaid .. | markCodCashReceived .. | markFailed .. =>
    inferInstanceAs (Decidable (∀ order ∈ db.shop.orders.rows _,
      ∀ payment ∈ db.shop.payments.rows _, _))
  | transition .. | requestRefund .. | completeDelivery .. | confirmCod .. | initiateOnline ..
  | ensureCodCashFinalized .. | markCancelled .. => inferInstanceAs (Decidable True)

variable {env : EventEnv} {w : World EventDatabase EventExt}

theorem commit_clean {α : Type} (h : env.fault = none) {x : EventTx α}
    (hx : orderOutbox.Clean x w) : orderOutbox.Clean (commit env x) w := by
  rw [commit, strikes_of_none h]
  exact .atomic (hx.map _)

/-- A call that ends well has sent nothing if it raises. -/
theorem run_clean (h : env.fault = none) {call : LifecycleCall} (hends : call.EndsWell w.db) :
    orderOutbox.Clean (call.run env) w := by
  cases call with
  | transition => exact commit_clean h (Emitting.transition_clean h _ _ _)
  | cancel => exact commit_clean h (Emitting.cancel_clean h _ _ hends)
  | markPaymentFailed => exact commit_clean h (Emitting.markPaymentFailed_clean h _ _ hends)
  | requestRefund => exact commit_clean h (Emitting.requestRefund_clean h _ _)
  | processRefund => exact commit_clean h (Emitting.processRefund_clean h _ _ hends)
  | completeDelivery => exact commit_clean h (Emitting.completeDelivery_clean h _)
  | finalizeCounterPayment =>
    exact commit_clean h (Emitting.finalizeCounterPayment_clean h _ hends)
  | finalizeOnlinePayment => exact commit_clean h (Emitting.finalizeOnlinePayment_clean h hends)
  | confirmCod => exact commit_clean h (Emitting.confirmCod_clean h _)
  | recordCashReceived => exact commit_clean h (Emitting.recordCashReceived_clean h _ hends)
  | initiateOnline around => exact commit_clean h (Emitting.initiateOnline_clean h around)
  | markCounterCashReceived =>
    exact commit_clean h (.atomic (Emitting.markCounterPaymentReceived_clean h _ _ hends))
  | markCounterCardReceived =>
    exact commit_clean h (.atomic (Emitting.markCounterPaymentReceived_clean h _ _ hends))
  | markPaid => exact commit_clean h (Emitting.markPaid_clean h hends)
  | ensureCodCashFinalized =>
    exact commit_clean h (Emitting.ensureCodCashFinalized_clean h _ _)
  | markCodCashReceived => exact commit_clean h (Emitting.markCodCashReceived_clean h _ hends)
  | markFailed => exact commit_clean h (Emitting.markFailed_clean h _ hends)
  | markCancelled => exact commit_clean h (Emitting.markCancelled_clean h _)

end LifecycleCall

/-! ## Exceptions before the first message -/

/-- What goes wrong during the call does so at its next statement. -/
def EventEnv.IsDue (env : EventEnv) (ext : EventExt) : Prop :=
  ∃ fault ∈ env.fault, fault.queued ≤ ext.queue.length

instance (env : EventEnv) (ext : EventExt) : Decidable (env.IsDue ext) :=
  inferInstanceAs (Decidable (∃ fault ∈ env.fault, _))

/-- The computation raises, and has sent nothing. -/
def Stops {α : Type} (x : EventTx α) (w : World EventDatabase EventExt) : Prop :=
  x.wp (fun _ _ => False) (fun _ w' => w'.ext.queue = w.ext.queue) w

section Stops

variable {env : EventEnv} {w : World EventDatabase EventExt} {α β : Type} {x : EventTx α}

theorem Stops.atomic (h : Stops x w) : Stops (Tx.atomic x) w := Tx.wp_atomic.2 h

theorem Stops.bind (h : Stops x w) (f : α → EventTx β) : Stops (x >>= f) w :=
  Tx.wp_seq h (fun _ _ => False.elim) fun _ _ h' => h'

/-- A call begins with a statement. -/
theorem stops_call (h : env.IsDue w.ext) (x : ShopTx α) (f : α → EventTx β) :
    Stops (Tx.atomic (EventTx.onShop env x >>= f)) w := by
  obtain ⟨fault, hfault, hdue⟩ := h
  refine .atomic (.bind (.bind ?_ _) f)
  have hstrikes : strikes env w = (.error fault.exn, w) := by
    rw [strikes, show env.fault = some fault from hfault]
    exact (Tx.bind_of_ok (x := Tx.getExt) rfl).trans (Tx.ite_of hdue)
  exact (Tx.wp_iff_of_error hstrikes).2 rfl

theorem commit_stops (h : Stops x w) : Stops (commit env x) w := .atomic (h.bind _)

theorem LifecycleCall.run_stops (h : env.IsDue w.ext) (call : LifecycleCall) :
    Stops (call.run env) w := by
  cases call with
  | markCounterCashReceived => exact commit_stops (.atomic (stops_call h _ _))
  | markCounterCardReceived => exact commit_stops (.atomic (stops_call h _ _))
  | _ => exact commit_stops (stops_call h _ _)

theorem Stops.clean (h : Stops x w) : orderOutbox.Clean x w :=
  Tx.wp_mono h (fun _ _ => False.elim) fun _ _ h' => h'

end Stops

/-! ## Runs -/

/-- What may happen: a call, or something that saves no order. Workers mark their tasks, carts are
    checked out, customers change their phone. -/
inductive MessageAction where
  | call (env : EventEnv) (call : LifecycleCall)
  | elsewhere (shop : Shop) (recipients : OrderId → Recipient) (profilePhones : UserId → String)
      (tasks : String → Option BackgroundTaskLog)

/-- The history and the queue are as they were after what happens elsewhere. -/
def messageStep (w : World EventDatabase EventExt) : MessageAction →
    Option (World EventDatabase EventExt)
  | .call env call => some (call.run env w).2
  | .elsewhere shop recipients profilePhones tasks =>
    some ⟨{ shop, recipients, profilePhones, tasks, changes := w.db.changes }, w.ext⟩

theorem mem_messageStep_call (w : World EventDatabase EventExt) (env : EventEnv)
    (c : LifecycleCall) : (c.run env w).2 ∈ messageStep w (.call env c) := rfl

instance (w : World EventDatabase EventExt) : Decidable (orderOutbox.Accounted w) :=
  inferInstanceAs (Decidable (∀ m ∈ w.ext.queue, m.change ∈ w.db.changes))

/-- Nothing raises once a message of the call is out: neither the change of status that may come
    last, nor anything for no reason of the shop's own. -/
def MessageAction.EndsWell (w : World EventDatabase EventExt) : MessageAction → Prop
  | .call env c => env.IsDue w.ext ∨ env.fault = none ∧ c.EndsWell w.db
  | .elsewhere .. => True

instance (w : World EventDatabase EventExt) : (action : MessageAction) →
    Decidable (action.EndsWell w)
  | .call env c =>
    inferInstanceAs (Decidable (env.IsDue w.ext ∨ env.fault = none ∧ c.EndsWell w.db))
  | .elsewhere .. => inferInstanceAs (Decidable True)

theorem LifecycleCall.run_rollsBack (env : EventEnv) (call : LifecycleCall) :
    (call.run env).RollsBack := by
  cases call <;> exact Tx.rollsBack_atomic _

theorem messageStep_accounted {w w' : World EventDatabase EventExt} {action : MessageAction}
    (hw : orderOutbox.Accounted w) (hends : action.EndsWell w) (h : messageStep w action = some w') :
    orderOutbox.Accounted w' := by
  cases action with
  | call env call =>
    obtain rfl := Option.some.inj h
    refine Outbox.accounted_of_clean ?_ (call.run_rollsBack env) hw
    rcases hends with hdue | ⟨hfault, hcall⟩
    · exact (call.run_stops hdue).clean
    · exact LifecycleCall.run_clean hfault hcall
  | elsewhere =>
    obtain rfl := Option.some.inj h
    exact hw

/-- In runs whose calls end well every message in the queue tells of a change that was committed,
    and stays so. -/
theorem accounted_of_endsWell (w : World EventDatabase EventExt) (run : List MessageAction)
    (hw : orderOutbox.Accounted w) (h : Guarded messageStep MessageAction.EndsWell w run) :
    Throughout messageStep orderOutbox.Accounted w run :=
  h.throughout (fun _ _ _ hw hends hstep => messageStep_accounted hw hends hstep) hw

/-- The corner shop after an online checkout. The customer has left a phone number. -/
def messageShop : EventDatabase where
  shop := (after cornerShop [cornerCheckout]).shop
  recipients := fun _ => { phone := "1" }

/-- The payment arrives, a call breaks off at once, and the order is prepared. -/
theorem accounted_messageShop : Throughout messageStep orderOutbox.Accounted ⟨messageShop, {}⟩
    [.call {} (.markPaid 0 0),
      .call { fault := some ⟨0, .builtinError "OperationalError"⟩ } (.cancel 0 "" "admin"),
      .call {} (.transition 0 .preparing "" "admin")] :=
  accounted_of_endsWell _ _ (fun _ hm => absurd hm List.not_mem_nil) (by decide +kernel)

/-- The money for an order that was cancelled arrives: that the order is paid is in the queue when
    the change of its status is refused and the payment is rolled back. -/
theorem not_accounted_markPaid : ¬∀ run : List MessageAction,
    Throughout messageStep orderOutbox.Accounted ⟨messageShop, {}⟩ run := by
  intro h
  have hrun := (h [.call {} (.cancel 0 "" "admin"), .call {} (.markPaid 0 0)]).2 _
    (mem_messageStep_call ..)
  have hlast := (hrun.2 _ (mem_messageStep_call ..)).head
  exact absurd hlast (by decide +kernel)

end Crumbs
