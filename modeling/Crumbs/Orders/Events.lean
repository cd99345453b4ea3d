import Crumbs.Db.Simulation
import Crumbs.Orders.OrderService

/-!
# Lifecycle Events of an Order

Whenever an order is saved, a signal compares what was saved with the row before it and hands a
message with the lifecycle events to the task queue: texts to the customer, points, the end of a
coupon's checkout, analytics. The log of the tasks, which keeps a message from being sent twice, is a
table of the same database; the queue is not.

## Contents

- `LifecycleEvent`, `buildOrderLifecycleEvents`: what there is to tell
- `idempotencyKey`: the name of a message
- `EventDatabase`, `EventExt`, `EventEnv`: the shop with the log of the tasks, the queue, and what
  may go wrong
- `emitOrderLifecycleEvents`: from the events to the queue
- `saveOrder`: a save of an order, with its signals
-/

namespace Crumbs

open Crumbs.Db

/-! ## Texts -/

/-- The value of the payment status in the database and in messages. -/
def OrderPaymentStatus.value : OrderPaymentStatus → String
  | pendingPayment => "pending_payment"
  | paid => "paid"
  | codPending => "cod_pending"
  | codConfirmed => "cod_confirmed"
  | cashReceived => "cash_received"
  | failed => "failed"
  | refundRequested => "refund_requested"
  | refundProcessed => "refund_processed"

namespace OrderStatus

/-- `STATUS_LABELS_FA` -/
def labelFa : OrderStatus → String
  | pendingPayment => "در انتظار پرداخت"
  | awaitingPayment => "در انتظار پرداخت در صندوق"
  | paid => "پرداخت شده"
  | confirmedByShop => "تأیید فروشگاه"
  | preparing => "در حال آماده‌سازی"
  | packaged => "بسته‌بندی شد"
  | outForDelivery => "در مسیر تحویل"
  | delivered => "تحویل داده شد"
  | cancelled => "لغو شد"
  | refunded => "استرداد شد"

/-- `STATUS_TO_SMS_EVENT` -/
def smsEvent : OrderStatus → Option String
  | awaitingPayment => some "order_created"
  | confirmedByShop => some "order_confirmed_by_shop"
  | preparing => some "order_preparing"
  | packaged => some "order_packaged"
  | outForDelivery => some "order_out_for_delivery"
  | delivered => some "delivered"
  | cancelled => some "order_cancelled"
  | refunded => some "refund_processed"
  | pendingPayment | paid => none

end OrderStatus

/-! ## Events -/

/-- The context of a text; `status` is there if the text is about one. -/
structure EventContext where
  name : String
  orderNumber : String
  total : ℤ
  status : Option String := none
  deriving DecidableEq, Repr

/-- One entry of the list that a message carries. -/
inductive LifecycleEvent where
  | smsEvent (eventCode phone : String) (context : EventContext) (user : Option UserId)
      (order : OrderId)
  | abandonedCartRecovered (order : OrderId)
  | loyaltyAward (order : OrderId)
  | growthFinalize (order : OrderId)
  | analyticsTouch (order : OrderId) (event : String)
  deriving DecidableEq, Repr

/-- The `event_code` of an event, or else its `kind`. -/
def LifecycleEvent.code : LifecycleEvent → String
  | smsEvent eventCode .. => eventCode
  | abandonedCartRecovered _ => "abandoned_cart_recovered"
  | loyaltyAward _ => "loyalty_award"
  | growthFinalize _ => "growth_finalize"
  | analyticsTouch .. => "analytics_touch"

/-- What an order has of its customer, beside the fields that the services read. -/
structure Recipient where
  phone : String := ""
  firstName : String := ""
  deriving DecidableEq, Repr

/-- What was saved: an order object, and the row that it replaces, if there was one. -/
structure Saved where
  o : OrderId
  order : Order
  previous : Option Order

namespace Saved

def prevPayment (s : Saved) : Option OrderPaymentStatus := s.previous.map (·.paymentStatus)

def prevStatus (s : Saved) : Option OrderStatus := s.previous.map (·.status)

/-- `_resolve_phone`; `profilePhones` is `""` for a user without a profile. -/
def resolvePhone (s : Saved) (recipient : Recipient) (profilePhones : UserId → String) : String :=
  if recipient.phone ≠ "" then recipient.phone
  else s.order.user.elim "" profilePhones

/-- `_base_context` -/
def baseContext (s : Saved) (recipient : Recipient) : EventContext where
  name := if recipient.firstName = "" then "مشتری" else recipient.firstName
  orderNumber := s.order.orderNumber
  total := s.order.total.toInt

/-- A text to the customer. -/
def sms (s : Saved) (phone : String) (context : EventContext) (eventCode : String) :
    LifecycleEvent := .smsEvent eventCode phone context s.order.user s.o

/-- What there is to tell about the payment status. -/
def paymentEvents (s : Saved) (phone : String) (context : EventContext) : List LifecycleEvent :=
  if s.order.paymentStatus.isSuccessful ∧ ¬∃ p ∈ s.prevPayment, p.isSuccessful then
    [s.sms phone context "payment_success", .abandonedCartRecovered s.o,
      .loyaltyAward s.o, .growthFinalize s.o, .analyticsTouch s.o "payment_success"]
  else if s.order.paymentStatus = .codConfirmed ∧ s.prevPayment ≠ some .codConfirmed then
    [s.sms phone context "order_confirmed_by_shop"]
  else if s.order.paymentStatus = .failed ∧ s.prevPayment ≠ some .failed then
    [s.sms phone context "payment_failed"]
  else if s.order.paymentStatus = .refundProcessed ∧
      s.prevPayment ≠ some .refundProcessed then
    [s.sms phone context "refund_processed", .analyticsTouch s.o "refund_processed"]
  else []

/-- What there is to tell about a status that has changed. -/
def statusEvents (s : Saved) (phone : String) (context : EventContext) : List LifecycleEvent :=
  let status := s.order.status
  let named := status.smsEvent.elim [] fun eventCode =>
    [s.sms phone { context with status := some status.labelFa } eventCode,
      .analyticsTouch s.o s!"status:{status.value}"]
  let reminder := if status = .outForDelivery ∧ s.order.isCod ∧
      s.order.paymentStatus = .codConfirmed then [s.sms phone context "cod_reminder"] else []
  let delivered := if status = .delivered then [.analyticsTouch s.o "delivered"] else []
  named ++ reminder ++ delivered

/-- `build_order_lifecycle_events`: nothing for a customer without a phone. -/
def buildOrderLifecycleEvents (s : Saved) (created : Bool) (recipient : Recipient)
    (profilePhones : UserId → String) : List LifecycleEvent :=
  let phone := s.resolvePhone recipient profilePhones
  let context := s.baseContext recipient
  if phone = "" then []
  else if created then [s.sms phone context "order_created"]
  else s.paymentEvents phone context ++
    if some s.order.status ≠ s.prevStatus then s.statusEvents phone context else []

/-- `_idempotency_key` -/
def idempotencyKey (s : Saved) (events : List LifecycleEvent) : String :=
  let codes := ",".intercalate ((events.map (·.code)).mergeSort fun a b => decide (a ≤ b))
  let prevPayment := s.prevPayment.elim "None" (·.value)
  let prevStatus := s.prevStatus.elim "None" (·.value)
  s!"order-lifecycle:{s.o}:{prevPayment}:{s.order.paymentStatus.value}:" ++
    s!"{prevStatus}:{s.order.status.value}:{codes}"

end Saved

/-! ## The log of the tasks, and the queue -/

/-- `BackgroundTaskLog.Status` -/
inductive TaskStatus where
  | pending
  | started
  | success
  | failure
  | retry
  | dead
  deriving DecidableEq, Repr

/-- The log of one task. -/
structure BackgroundTaskLog where
  taskName : String
  taskId : String
  status : TaskStatus
  payload : OrderId × List LifecycleEvent
  deriving DecidableEq, Repr

/-- One save of an order: its number, and what became of the two statuses. -/
structure StateChange where
  number : ℕ
  order : OrderId
  fromPayment : Option OrderPaymentStatus
  toPayment : OrderPaymentStatus
  fromStatus : Option OrderStatus
  toStatus : OrderStatus
  deriving DecidableEq, Repr

/-- A task in the queue. `change` is the save that the events are about; no service reads it. -/
structure Message where
  taskId : String
  queue : String
  order : OrderId
  events : List LifecycleEvent
  change : StateChange
  deriving DecidableEq, Repr

/-- The tables of a shop that sends messages. `changes` is a history variable: every save of an
    order is appended, and a rollback takes it back with everything else. -/
structure EventDatabase where
  shop : Shop
  recipients : OrderId → Recipient := fun _ => {}
  profilePhones : UserId → String := fun _ => ""
  tasks : String → Option BackgroundTaskLog := fun _ => none
  changes : List StateChange := []

/-- What no rollback reaches: what was observed, the messages in the queue, and how many saves of
    orders there were. -/
structure EventExt where
  trace : List Observation := []
  queue : List Message := []
  saves : ℕ := 0

/-- An exception for no reason of the shop's own, in the next statement after so many messages are
    in the queue. -/
structure Fault where
  queued : ℕ
  exn : Exn

/-- Whether the broker of the queue answers, and what goes wrong during the call. -/
structure EventEnv where
  broker : Bool := true
  fault : Option Fault := none

/-- Work on a shop that sends messages. -/
abbrev EventTx := Tx EventDatabase EventExt Exn

/-- The shop, and what is observed of it. -/
def shopView : View EventDatabase EventExt Shop (List Observation) where
  db := EventDatabase.shop
  setDb shop db := { db with shop }
  ext := EventExt.trace
  setExt trace ext := { ext with trace }
  db_setDb _ _ := rfl
  ext_setExt _ _ := rfl

/-- The fault of the call, if it is due. -/
def strikes (env : EventEnv) : EventTx Unit :=
  match env.fault with
  | none => pure ()
  | some fault => do
    let ext ← Tx.getExt
    Tx.when (fault.queued ≤ ext.queue.length) (Tx.raise fault.exn)

/-- A statement on the shop; any of them may raise. -/
def EventTx.onShop {α : Type} (env : EventEnv) (x : ShopTx α) : EventTx α := do
  strikes env
  Tx.within shopView x

/-! ## From an event to the queue -/

/-- The task of the key is waiting, running or done. -/
def EventDatabase.isInFlight (db : EventDatabase) (key : String) : Prop :=
  ∃ log ∈ db.tasks key, log.status ∈ [.pending, .started, .success]

instance (db : EventDatabase) (key : String) : Decidable (db.isInFlight key) :=
  inferInstanceAs (Decidable (∃ log ∈ db.tasks key, _))

/-- `update_or_create` -/
def EventDatabase.setTask (db : EventDatabase) (key : String) (log : BackgroundTaskLog) :
    EventDatabase := { db with tasks := fun k => if k = key then some log else db.tasks k }

/-- `claim_idempotency_key` -/
def claimIdempotencyKey (key taskName taskId : String)
    (payload : OrderId × List LifecycleEvent) : EventTx Bool := do
  if key = "" then
    return true
  let db ← Tx.getDb
  if db.isInFlight key then
    return false
  Tx.modifyDb fun db => db.setTask key { taskName, taskId, status := .pending, payload }
  return true

/-- `task.apply_async`: a broker that does not answer raises, and `emit_order_lifecycle_events`
    goes on without the message. -/
def applyAsync (env : EventEnv) (message : Message) : EventTx Unit :=
  Tx.when env.broker (Tx.modifyExt fun ext => { ext with queue := ext.queue ++ [message] })

/-- `apply_idempotent_task` for `process_order_lifecycle_events` -/
def applyIdempotentTask (env : EventEnv) (key : String) (o : OrderId)
    (events : List LifecycleEvent) (change : StateChange) : EventTx Unit := do
  let taskId := String.ofList (key.toList.take 255)
  let claimed ← claimIdempotencyKey key "orders.tasks.process_order_lifecycle_events" taskId
    (o, events)
  Tx.when claimed (applyAsync env { taskId, queue := "orders", order := o, events, change })

/-- `emit_order_lifecycle_events` -/
def emitOrderLifecycleEvents (env : EventEnv) (s : Saved) (created : Bool)
    (change : StateChange) : EventTx Unit := do
  let db ← Tx.getDb
  let events := s.buildOrderLifecycleEvents created (db.recipients s.o) db.profilePhones
  Tx.when (events ≠ []) (applyIdempotentTask env (s.idempotencyKey events) s.o events change)

/-- The save is the next in the history. -/
def recordChange (s : Saved) : EventTx StateChange := do
  let ext ← Tx.getExt
  let change :=
    { number := ext.saves, order := s.o, fromPayment := s.prevPayment,
      toPayment := s.order.paymentStatus, fromStatus := s.prevStatus, toStatus := s.order.status }
  Tx.modifyExt fun ext => { ext with saves := ext.saves + 1 }
  Tx.modifyDb fun db => { db with changes := db.changes ++ [change] }
  return change

/-- `order.save(update_fields=…)` for an order that is there, which `f` writes to its row:
    `cache_order_previous_state` before it, and `enqueue_order_lifecycle_events` after it. -/
def saveOrder (env : EventEnv) (o : OrderId) (order : Order) (f : Shop → Shop) : EventTx Unit := do
  let shop ← EventTx.onShop env Tx.getDb
  let saved : Saved := { o, order, previous := shop.orders.rows o }
  EventTx.onShop env (Tx.modifyDb f)
  let change ← recordChange saved
  emitOrderLifecycleEvents env saved false change

end Crumbs
