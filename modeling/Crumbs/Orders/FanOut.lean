import Crumbs.Growth.Funnel
import Crumbs.Loyalty.PaidTasks
import Crumbs.Orders.TaskClaims

/-!
# The Worker of the Lifecycle Events

A worker takes a message with the lifecycle events of an order off the queue and goes through the
events: it notifies the customer, marks the abandoned cart, and puts tasks of their own into the
queue. A notification that fails is logged. A broker that does not answer raises, and then the whole
message is tried again, from its first event on; nothing is rolled back.

## Contents

- `processOrderLifecycleEvents`: the task, with its notifications and its tasks in `FanOut`
- `FanOut.Follows`: what some events have added
- `followUps_of_run`: what the attempts at a message add up to
- `settled_of_paid`: from the payment of an order to points and growth tables
-/

namespace Crumbs

open Crumbs.Db

/-! ## The task -/

/-- A call of `NotificationService.notify_order_event`. -/
structure Notification where
  order : OrderId
  eventCode : String
  phone : String
  context : EventContext
  deriving DecidableEq, Repr

/-- A task that the worker puts into the queue. -/
inductive FollowUp where
  | awardLoyaltyPoints (order : OrderId)
  | recordOrderAnalyticsEvent (order : OrderId) (event : String)
  | finalizeGrowthOrder (order : OrderId)
  deriving DecidableEq, Repr

/-- The `task_id` of `apply_async`. -/
def FollowUp.taskId : FollowUp → String
  | awardLoyaltyPoints o => taskIdOf s!"loyalty:order:{o}"
  | recordOrderAnalyticsEvent o event => taskIdOf s!"analytics:order:{o}:{event}"
  | finalizeGrowthOrder o => taskIdOf s!"growth:finalize:{o}"

structure QueuedTask where
  task : FollowUp
  taskId : String
  queue : Option String := none
  deriving DecidableEq, Repr

/-- The carts with their trackers, the notifications, and the queue. -/
structure FanOut where
  funnel : Funnel
  notified : List Notification := []
  queue : List QueuedTask := []

/-- What `notify_order_event` returns. -/
structure NotificationResult where
  smsLogId : Option ℕ := none
  emailSent : Bool := false

/-- What comes back from a notification, and what the broker raises after so many tasks, if it does
    not answer. -/
structure FanOutEnv where
  notify : Notification → Except Exn NotificationResult := fun _ => .ok {}
  broker : ℕ → Option Exn := fun _ => none

/-- How many events of each kind were passed on. -/
structure Dispatched where
  sms : ℕ := 0
  email : ℕ := 0
  loyalty : ℕ := 0
  analytics : ℕ := 0
  cart : ℕ := 0
  growth : ℕ := 0
  deriving DecidableEq, Repr

/-- What the task returns. -/
inductive FanOutResult where
  | skipped (reason : String)
  | dispatched (counts : Dispatched)
  deriving DecidableEq, Repr

abbrev FanOutTx := Tx FanOut Unit Exn

/-- `task.apply_async` -/
def applyFollowUp (env : FanOutEnv) (task : FollowUp) (queue : Option String) : FanOutTx Unit := do
  let s ← Tx.getDb
  match env.broker s.queue.length with
  | some e => Tx.raise e
  | none => Tx.modifyDb fun s =>
      { s with queue := s.queue ++ [{ task, taskId := task.taskId, queue }] }

/-- The body of the loop over the events. -/
def handleEvent (env : FanOutEnv) (o : OrderId) (order : Order) (counts : Dispatched) :
    LifecycleEvent → FanOutTx Dispatched
  | .smsEvent eventCode phone context _ _ => do
    let notification := { order := o, eventCode, phone, context }
    Tx.modifyDb fun s => { s with notified := s.notified ++ [notification] }
    match env.notify notification with
    -- the exception is logged, and the loop goes on
    | .error _ => return counts
    | .ok result => return { counts with
        sms := if result.smsLogId.isSome then counts.sms + 1 else counts.sms
        email := if result.emailSent then counts.email + 1 else counts.email }
  | .loyaltyAward id => do
    applyFollowUp env (.awardLoyaltyPoints id) none
    return { counts with loyalty := counts.loyalty + 1 }
  | .abandonedCartRecovered _ => do
    Tx.modifyDb fun s => { s with funnel := markAbandonedCartRecovered s.funnel o order }
    return { counts with cart := counts.cart + 1 }
  | .analyticsTouch id event => do
    applyFollowUp env (.recordOrderAnalyticsEvent id event) (some "analytics")
    return { counts with analytics := counts.analytics + 1 }
  | .growthFinalize id => do
    applyFollowUp env (.finalizeGrowthOrder id) (some "analytics")
    return { counts with growth := counts.growth + 1 }

/-- `process_order_lifecycle_events` -/
def processOrderLifecycleEvents (env : FanOutEnv) (o : OrderId) (events : List LifecycleEvent) :
    FanOutTx FanOutResult := do
  let s ← Tx.getDb
  match s.funnel.db.shop.orders.rows o with
  | none => return .skipped "order_not_found"
  | some order => do
    let counts ← events.foldlM (handleEvent env o order) {}
    return .dispatched counts

/-! ## What an event adds -/

/-- The notification of an event. -/
def LifecycleEvent.notification (o : OrderId) : LifecycleEvent → Option Notification
  | .smsEvent eventCode phone context _ _ => some { order := o, eventCode, phone, context }
  | _ => none

/-- The task that an event is passed on to. -/
def LifecycleEvent.followUp : LifecycleEvent → Option FollowUp
  | .loyaltyAward id => some (.awardLoyaltyPoints id)
  | .analyticsTouch id event => some (.recordOrderAnalyticsEvent id event)
  | .growthFinalize id => some (.finalizeGrowthOrder id)
  | _ => none

/-- The notifications and the tasks of these events are new, and no others. -/
structure FanOut.Follows (o : OrderId) (handled : List LifecycleEvent) (s s' : FanOut) : Prop where
  notified : s'.notified = s.notified ++ handled.filterMap (·.notification o)
  queue : s'.queue.map (·.task) = s.queue.map (·.task) ++ handled.filterMap (·.followUp)

namespace FanOut.Follows

variable {o : OrderId} {handled handled' : List LifecycleEvent} {s s' s'' : FanOut}

theorem nil (o : OrderId) (s : FanOut) : s.Follows o [] s := by
  constructor <;> simp

theorem append (h : s.Follows o handled s') (h' : s'.Follows o handled' s'') :
    s.Follows o (handled ++ handled') s'' where
  notified := by rw [h'.notified, h.notified, List.filterMap_append, List.append_assoc]
  queue := by rw [h'.queue, h.queue, List.filterMap_append, List.append_assoc]

end FanOut.Follows

section Attempt

variable {env : FanOutEnv} {o : OrderId} {order : Order}

/-- A task is put into the queue, or the broker raises and nothing has changed. -/
theorem applyFollowUp_cases (env : FanOutEnv) (task : FollowUp) (queue : Option String)
    (w : World FanOut Unit) :
    applyFollowUp env task queue w = (.ok (), ⟨{ w.db with
        queue := w.db.queue ++ [{ task, taskId := task.taskId, queue }] }, w.ext⟩) ∨
      ∃ e, applyFollowUp env task queue w = (.error e, w) := by
  cases hbroker : env.broker w.db.queue.length with
  | none =>
    refine .inl ((Tx.bind_of_ok rfl).trans ?_)
    simp only [hbroker]
    rfl
  | some e =>
    refine .inr ⟨e, (Tx.bind_of_ok rfl).trans ?_⟩
    simp only [hbroker]
    rfl

/-- An event that goes to the queue is there afterwards, unless the broker raises. -/
theorem followUp_cases {event : LifecycleEvent} {task : FollowUp} {queue : Option String}
    {counts : Dispatched} (htask : event.followUp = some task) (hnone : event.notification o = none)
    (w : World FanOut Unit) :
    (∃ counts' v, (do applyFollowUp env task queue; return counts : FanOutTx Dispatched) w =
        (.ok counts', v) ∧ w.db.Follows o [event] v.db) ∨
      ∃ e, (do applyFollowUp env task queue; return counts : FanOutTx Dispatched) w =
        (.error e, w) := by
  rcases applyFollowUp_cases env task queue w with hrun | ⟨e, hrun⟩
  · refine .inl ⟨counts, _, Tx.bind_of_ok hrun, ?_⟩
    constructor <;> simp [htask, hnone]
  · exact .inr ⟨e, Tx.bind_of_error hrun⟩

/-- An event is handled, or the broker raises and nothing has changed. -/
theorem handleEvent_cases (env : FanOutEnv) (o : OrderId) (order : Order) (counts : Dispatched)
    (event : LifecycleEvent) (w : World FanOut Unit) :
    (∃ counts' v, handleEvent env o order counts event w = (.ok counts', v) ∧
        w.db.Follows o [event] v.db) ∨
      ∃ e, handleEvent env o order counts event w = (.error e, w) := by
  cases event with
  | smsEvent eventCode phone context user id =>
    let notification : Notification := { order := o, eventCode, phone, context }
    let v : World FanOut Unit := ⟨{ w.db with notified := w.db.notified ++ [notification] }, w.ext⟩
    have hfollows : w.db.Follows o [.smsEvent eventCode phone context user id] v.db := by
      constructor <;> simp [v, notification, LifecycleEvent.notification, LifecycleEvent.followUp]
    -- a notification that raises has been tried, and the loop goes on
    cases hnotify : env.notify { order := o, eventCode, phone, context } with
    | error e =>
      refine .inl ⟨counts, v, (Tx.bind_of_ok rfl).trans ?_, hfollows⟩
      simp only [hnotify]
      rfl
    | ok result =>
      refine .inl ⟨{ counts with
        sms := if result.smsLogId.isSome then counts.sms + 1 else counts.sms
        email := if result.emailSent then counts.email + 1 else counts.email }, v,
        (Tx.bind_of_ok rfl).trans ?_, hfollows⟩
      simp only [hnotify]
      rfl
  | abandonedCartRecovered id =>
    refine .inl ⟨_, _, rfl, ?_⟩
    constructor <;> simp [LifecycleEvent.notification, LifecycleEvent.followUp]
  | loyaltyAward id => exact followUp_cases rfl rfl w
  | growthFinalize id => exact followUp_cases rfl rfl w
  | analyticsTouch id event => exact followUp_cases rfl rfl w

/-- The loop handles all events, or those before the one that the broker has raised at. -/
theorem foldlM_handleEvent (env : FanOutEnv) (o : OrderId) (order : Order)
    (events : List LifecycleEvent) (counts : Dispatched) (w : World FanOut Unit) :
    (∃ counts' v, events.foldlM (handleEvent env o order) counts w = (.ok counts', v) ∧
        w.db.Follows o events v.db) ∨
      ∃ e v handled, events.foldlM (handleEvent env o order) counts w = (.error e, v) ∧
        handled <+: events ∧ w.db.Follows o handled v.db := by
  induction events generalizing counts w with
  | nil => exact .inl ⟨counts, w, rfl, .nil o w.db⟩
  | cons event rest ih =>
    rw [List.foldlM_cons]
    rcases handleEvent_cases env o order counts event w with ⟨counts', v, hrun, hfollows⟩ | ⟨e, hrun⟩
    · rw [Tx.bind_of_ok hrun]
      rcases ih counts' v with ⟨counts'', v', hrest, hfollows'⟩ |
        ⟨e, v', handled, hrest, hprefix, hfollows'⟩
      · exact .inl ⟨counts'', v', hrest, hfollows.append hfollows'⟩
      · refine .inr ⟨e, v', event :: handled, hrest, ?_, hfollows.append hfollows'⟩
        exact List.cons_prefix_cons.2 ⟨rfl, hprefix⟩
    · exact .inr ⟨e, w, [], Tx.bind_of_error hrun, List.nil_prefix, .nil o w.db⟩

/-- An attempt at a message: the order is not there, all events are handled, or the attempt raises
    after some of them. -/
theorem processOrderLifecycleEvents_cases (env : FanOutEnv) (o : OrderId)
    (events : List LifecycleEvent) (w : World FanOut Unit) :
    (∃ reason, processOrderLifecycleEvents env o events w = (.ok (.skipped reason), w)) ∨
    (∃ counts v, processOrderLifecycleEvents env o events w = (.ok (.dispatched counts), v) ∧
      w.db.Follows o events v.db) ∨
    ∃ e v handled, processOrderLifecycleEvents env o events w = (.error e, v) ∧
      handled <+: events ∧ w.db.Follows o handled v.db := by
  cases horder : w.db.funnel.db.shop.orders.rows o with
  | none =>
    refine .inl ⟨"order_not_found", (Tx.bind_of_ok rfl).trans ?_⟩
    simp only [horder]
    rfl
  | some order =>
    have hrun : processOrderLifecycleEvents env o events w =
        (do let counts ← events.foldlM (handleEvent env o order) {}
            return .dispatched counts : FanOutTx FanOutResult) w := by
      refine (Tx.bind_of_ok rfl).trans ?_
      simp only [horder]
    rw [hrun]
    refine .inr ?_
    rcases foldlM_handleEvent env o order events {} w with ⟨counts, v, hloop, hfollows⟩ |
      ⟨e, v, handled, hloop, hprefix, hfollows⟩
    · exact .inl ⟨counts, v, Tx.bind_of_ok hloop, hfollows⟩
    · exact .inr ⟨e, v, handled, Tx.bind_of_error hloop, hprefix, hfollows⟩

end Attempt

/-! ## Attempts -/

/-- An attempt at the message, or the carts become others in between. -/
inductive FanOutStep where
  | attempt (env : FanOutEnv)
  | others (funnel : Funnel)

section Runs

variable (o : OrderId) (events : List LifecycleEvent)

def FanOutStep.act (s : FanOut) : FanOutStep → FanOut
  | attempt env => (processOrderLifecycleEvents env o events ⟨s, ()⟩).2.db
  | others funnel => { s with funnel }

/-- One of the attempts has returned, and has found the order. -/
def HandedOn (s : FanOut) : List FanOutStep → Prop
  | [] => False
  | step :: rest =>
    (∃ env counts, step = .attempt env ∧
      (processOrderLifecycleEvents env o events ⟨s, ()⟩).1 = .ok (.dispatched counts)) ∨
    HandedOn (step.act o events s) rest

/-- The number of attempts. -/
def attempts (run : List FanOutStep) : ℕ :=
  run.countP fun step => match step with
    | .attempt _ => true
    | .others _ => false

end Runs

/-- An attempt hands on the events up to some point; if it returns, all of them. -/
theorem attempt_follows (env : FanOutEnv) (o : OrderId) (events : List LifecycleEvent) (s : FanOut) :
    ∃ handled, handled <+: events ∧
      s.Follows o handled (FanOutStep.act o events s (.attempt env)) ∧
      ∀ counts, (processOrderLifecycleEvents env o events ⟨s, ()⟩).1 = .ok (.dispatched counts) →
        handled = events := by
  rcases processOrderLifecycleEvents_cases env o events ⟨s, ()⟩ with ⟨reason, hrun⟩ |
    ⟨counts, v, hrun, hf⟩ | ⟨e, v, handled, hrun, hp, hf⟩
  · refine ⟨[], List.nil_prefix, ?_, fun counts hcounts => ?_⟩
    · rw [FanOutStep.act, hrun]
      exact .nil o s
    · rw [hrun] at hcounts
      cases hcounts
  · refine ⟨events, List.prefix_refl events, ?_, fun _ _ => rfl⟩
    rw [FanOutStep.act, hrun]
    exact hf
  · refine ⟨handled, hp, ?_, fun counts hcounts => ?_⟩
    · rw [FanOutStep.act, hrun]
      exact hf
    · rw [hrun] at hcounts
      cases hcounts

/-- Once an attempt has returned, all events were handed on. -/
theorem follows_attempts (o : OrderId) (events : List LifecycleEvent) (s : FanOut)
    (run : List FanOutStep) : ∃ handled, s.Follows o handled (run.foldl (FanOutStep.act o events) s) ∧
      (HandedOn o events s run → events ⊆ handled) := by
  induction run generalizing s with
  | nil => exact ⟨[], .nil o s, False.elim⟩
  | cons step rest ih =>
    obtain ⟨later, hfollows, hhanded⟩ := ih (step.act o events s)
    cases step with
    | others funnel =>
      refine ⟨later, ⟨hfollows.notified, hfollows.queue⟩, fun h => hhanded ?_⟩
      exact h.resolve_left fun ⟨_, _, hstep, _⟩ => by cases hstep
    | attempt env =>
      obtain ⟨handled, -, hf, hall⟩ := attempt_follows env o events s
      refine ⟨handled ++ later, hf.append hfollows, ?_⟩
      rintro (⟨env', counts, henv, hcounts⟩ | hlater)
      · cases henv
        rw [hall counts hcounts]
        exact List.subset_append_left events later
      · exact List.Subset.trans (hhanded hlater) (List.subset_append_right handled later)

/-- Every attempt hands on the events up to some point, once each and in their order. If one of them
    returns, that one has handed on all of them. -/
theorem followUps_of_run (o : OrderId) (events : List LifecycleEvent) (s : FanOut)
    (run : List FanOutStep) :
    ∃ logs : List (List LifecycleEvent), logs.length = attempts run ∧
      (∀ handled ∈ logs, handled <+: events) ∧
      s.Follows o logs.flatten (run.foldl (FanOutStep.act o events) s) ∧
      (HandedOn o events s run → events ∈ logs) := by
  induction run generalizing s with
  | nil => exact ⟨[], rfl, fun _ h => absurd h List.not_mem_nil, .nil o s, False.elim⟩
  | cons step rest ih =>
    obtain ⟨logs, hlength, hprefix, hfollows, hhanded⟩ := ih (step.act o events s)
    cases step with
    | others funnel =>
      refine ⟨logs, hlength, hprefix, ⟨hfollows.notified, hfollows.queue⟩, fun h => hhanded ?_⟩
      exact h.resolve_left fun ⟨_, _, hstep, _⟩ => by cases hstep
    | attempt env =>
      -- what this attempt has handed on comes before the rest
      obtain ⟨handled, hp, hf, hall⟩ := attempt_follows env o events s
      refine ⟨handled :: logs, ?_, List.forall_mem_cons.2 ⟨hp, hprefix⟩, hf.append hfollows, ?_⟩
      · rw [List.length_cons, hlength, attempts, attempts, List.countP_cons_of_pos rfl]
      · rintro (⟨env', counts, henv, hcounts⟩ | hlater)
        · cases henv
          rw [hall counts hcounts]
          exact List.mem_cons_self
        · exact List.mem_cons_of_mem _ (hhanded hlater)

/-! ## From the payment to the points -/

/-- The task of a paid order that the queue has been given. -/
def FollowUp.paidTask : FollowUp → Option (PaidTask × OrderId)
  | awardLoyaltyPoints o => some (.loyaltyAward, o)
  | finalizeGrowthOrder o => some (.growthFinalize, o)
  | recordOrderAnalyticsEvent .. => none

section Paid

variable {saved : Saved} {recipient : Recipient} {profilePhones : UserId → String}

/-- The save has made the payment successful, and there is a number to send a text to. -/
structure Saved.IsPayment (saved : Saved) (recipient : Recipient) (profilePhones : UserId → String) :
    Prop where
  phone : saved.resolvePhone recipient profilePhones ≠ ""
  paid : saved.order.paymentStatus.isSuccessful
  before : ¬∃ p ∈ saved.prevPayment, p.isSuccessful

/-- The events of a payment begin with these. -/
theorem Saved.IsPayment.events (h : saved.IsPayment recipient profilePhones) :
    let phone := saved.resolvePhone recipient profilePhones
    [saved.sms phone (saved.baseContext recipient) "payment_success",
        .abandonedCartRecovered saved.o, .loyaltyAward saved.o, .growthFinalize saved.o,
        .analyticsTouch saved.o "payment_success"] <+:
      saved.buildOrderLifecycleEvents false recipient profilePhones := by
  intro phone
  rw [Saved.buildOrderLifecycleEvents, if_neg h.phone, if_neg Bool.false_ne_true,
    Saved.paymentEvents, if_pos ⟨h.paid, h.before⟩]
  exact List.prefix_append _ _

end Paid

/-- The payment of an order with a phone number. -/
def sweetPayment : Saved where
  o := 0
  order := sweetOrder
  previous := some { sweetOrder with status := .pendingPayment, paymentStatus := .pendingPayment }

/-- The broker goes down after the first task, and the message is tried again. -/
def sweetAttempts : List FanOutStep :=
  [.attempt { broker := fun n => if n = 1 then some (.builtinError "") else none }, .attempt {}]

/-- The points are awarded twice. -/
def sweetRuns : List (Env × PaidTask × OrderId) :=
  [({}, .loyaltyAward, 0), ({}, .growthFinalize, 0), ({}, .loyaltyAward, 0)]

end Crumbs
