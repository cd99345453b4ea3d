import Crumbs.Orders.Pickup
import Crumbs.Lifecycle.Records

/-!
# The Screens of an Order

An order is shown in three places: the customer follows it on a timeline, the kitchen in the columns
of its queue, and the counter on the pickup screen. Each place reads the order's row on its own. They
show the same order at the same point, and none of them goes back, except that the timeline has no
step for an order that is out for delivery or closed, and then shows all of them as upcoming.

## Contents

- `mapOrderStatusToTimelineKey`, `buildOrderStatusTimeline`: the customer's timeline
- `kitchenOrderQueryset`, `partitionKitchenOrders`, `pickupScreenQueryset`: the staff screens
- `screens_agree`: the columns, the pickup screen and the timeline show the same
- `OrderStatusTimeline.Precedes`, `screens_of_run`: the screens over a run
-/

namespace Crumbs

open Crumbs.Db

/-! ## The timeline -/

/-- `TIMELINE_STEP_…` -/
inductive TimelineKey where
  | awaitingPayment
  | preparing
  | ready
  | delivered
  deriving DecidableEq, Repr

/-- `CUSTOMER_TIMELINE_STEPS`: the keys with their labels. -/
def customerTimelineSteps : List (TimelineKey × String) :=
  [(.awaitingPayment, "در انتظار پرداخت"), (.preparing, "در حال آماده‌سازی"),
    (.ready, "آماده تحویل از کانتر"), (.delivered, "تحویل شد")]

def counterAwaitingPaymentMessage : String := "لطفاً برای نهایی شدن سفارش به صندوق مراجعه کنید."

def packagedReadyMessage : String := "سفارش شما آماده تحویل از کانتر است."

/-- `TimelineStep.state` -/
inductive StepState where
  | upcoming
  | current
  | complete
  deriving DecidableEq, Repr

structure TimelineStep where
  key : TimelineKey
  label : String
  state : StepState
  deriving DecidableEq, Repr

structure OrderStatusTimeline where
  steps : List TimelineStep
  banner : String
  currentKey : Option TimelineKey
  deriving DecidableEq, Repr

/-- `map_order_status_to_timeline_key` -/
def mapOrderStatusToTimelineKey (status : OrderStatus) : Option TimelineKey :=
  if status ∈ [.awaitingPayment, .pendingPayment] then some .awaitingPayment
  else if status ∈ [.paid, .confirmedByShop, .preparing] then some .preparing
  else if status = .packaged then some .ready
  else if status = .delivered then some .delivered
  else none

/-- The state of the step with the index, where `currentIndex` is that of the current one. -/
def stepState (index currentIndex : ℕ) : StepState :=
  if index < currentIndex then .complete
  else if index = currentIndex then .current
  else .upcoming

/-- `build_order_status_timeline` -/
def buildOrderStatusTimeline (order : Order) : OrderStatusTimeline where
  steps :=
    match mapOrderStatusToTimelineKey order.status with
    | none => customerTimelineSteps.map fun (key, label) => { key, label, state := .upcoming }
    | some currentKey =>
      let stepKeys := customerTimelineSteps.map Prod.fst
      customerTimelineSteps.zipIdx.map fun ((key, label), index) =>
        { key, label, state := stepState index (stepKeys.idxOf currentKey) }
  banner :=
    if order.status = .awaitingPayment ∧ order.isCounterPayment then counterAwaitingPaymentMessage
    else if order.status = .packaged then packagedReadyMessage
    else ""
  currentKey := mapOrderStatusToTimelineKey order.status

/-! ## The staff screens -/

/-- `KITCHEN_EXCLUDED_PAYMENT_STATUSES` -/
def kitchenExcludedPaymentStatuses : List OrderPaymentStatus := [.pendingPayment, .failed, .codPending]

/-- `order_by("created_at")` -/
def byCreatedAt (orders : List (OrderId × Order)) : List (OrderId × Order) :=
  orders.mergeSort fun e e' => decide (e.2.createdAt ≤ e'.2.createdAt)

/-- `kitchen_order_queryset` -/
def kitchenOrderQueryset (shop : Shop) : List (OrderId × Order) :=
  byCreatedAt (shop.orders.filter fun order => decide (isOnKitchenScreen order))

/-- The columns of the kitchen queue. -/
structure KitchenColumns where
  waiting : List (OrderId × Order) := []
  preparing : List (OrderId × Order) := []
  ready : List (OrderId × Order) := []
  deriving DecidableEq, Repr

/-- The body of the loop in `_partition_kitchen_orders`. -/
def KitchenColumns.add (columns : KitchenColumns) (e : OrderId × Order) : KitchenColumns :=
  if e.2.status ∈ [.paid, .confirmedByShop] then
    { columns with waiting := columns.waiting ++ [e] }
  else if e.2.status = .preparing then { columns with preparing := columns.preparing ++ [e] }
  else if e.2.status = .packaged then { columns with ready := columns.ready ++ [e] }
  else columns

/-- `_partition_kitchen_orders` -/
def partitionKitchenOrders (orders : List (OrderId × Order)) : KitchenColumns :=
  orders.foldl KitchenColumns.add {}

/-- `pickup_screen_queryset` -/
def pickupScreenQueryset (shop : Shop) : List (OrderId × Order) :=
  byCreatedAt (shop.orders.filter fun order => decide (isOnPickupScreen order))

/-- `order_is_kitchen_relevant` -/
def orderIsKitchenRelevant (order : Order) : Bool :=
  if order.status ∉ kitchenQueueStatuses then false
  else if order.paymentStatus ∉ counterPaymentStatuses then false
  else decide (order.paymentStatus ∉ kitchenExcludedPaymentStatuses)

/-- `order_is_pickup_relevant` -/
def orderIsPickupRelevant (order : Order) : Bool :=
  decide (order.status = .packaged ∧ order.paymentStatus ∈ counterPaymentStatuses)

/-! ## One shop -/

section Screens

variable {shop : Shop} {e : OrderId × Order} {order : Order}

theorem kitchen_relevant_iff : orderIsKitchenRelevant order = true ↔
    order.status ∈ kitchenQueueStatuses ∧ order.paymentStatus ∈ counterPaymentStatuses := by
  unfold orderIsKitchenRelevant
  by_cases hstatus : order.status ∈ kitchenQueueStatuses
  · by_cases hpayment : order.paymentStatus ∈ counterPaymentStatuses
    · -- a status that the kitchen wants is not one that it excludes
      have hkept : order.paymentStatus ∉ kitchenExcludedPaymentStatuses := by
        revert hpayment
        cases order.paymentStatus <;> decide
      simp [hstatus, hpayment, hkept]
    · simp [hstatus, hpayment]
  · simp [hstatus]

theorem mem_kitchenOrderQueryset : e ∈ kitchenOrderQueryset shop ↔
    shop.orders.rows e.1 = some e.2 ∧ orderIsKitchenRelevant e.2 = true := by
  rw [kitchenOrderQueryset, byCreatedAt, List.mem_mergeSort, Table.mem_filter, decide_eq_true_iff,
    kitchen_relevant_iff]
  refine and_congr_right fun _ => ⟨fun h => ⟨h.1, h.2.1⟩, fun h => ⟨h.1, h.2, ?_⟩⟩
  have hpayment := h.2
  revert hpayment
  cases e.2.paymentStatus <;> decide

theorem mem_pickupScreenQueryset : e ∈ pickupScreenQueryset shop ↔
    shop.orders.rows e.1 = some e.2 ∧ orderIsPickupRelevant e.2 = true := by
  rw [pickupScreenQueryset, byCreatedAt, List.mem_mergeSort, Table.mem_filter]
  rfl

/-- The loop puts every order into the column of its status, behind those before it. -/
theorem foldl_columns (orders : List (OrderId × Order)) (columns : KitchenColumns) :
    orders.foldl KitchenColumns.add columns =
      { waiting := columns.waiting ++
          orders.filter fun e => decide (e.2.status ∈ [.paid, .confirmedByShop])
        preparing := columns.preparing ++ orders.filter fun e => decide (e.2.status = .preparing)
        ready := columns.ready ++ orders.filter fun e => decide (e.2.status = .packaged) } := by
  induction orders generalizing columns with
  | nil => simp
  | cons e rest ih =>
    rw [List.foldl_cons, ih]
    cases hstatus : e.2.status <;> simp [KitchenColumns.add, hstatus]

theorem partitionKitchenOrders_eq (orders : List (OrderId × Order)) :
    partitionKitchenOrders orders =
      { waiting := orders.filter fun e => decide (e.2.status ∈ [.paid, .confirmedByShop])
        preparing := orders.filter fun e => decide (e.2.status = .preparing)
        ready := orders.filter fun e => decide (e.2.status = .packaged) } := by
  rw [partitionKitchenOrders, foldl_columns]
  simp

/-- Orders of the queue have one column each. -/
theorem columns_perm {orders : List (OrderId × Order)}
    (h : ∀ e ∈ orders, e.2.status ∈ kitchenQueueStatuses) :
    ((partitionKitchenOrders orders).waiting ++ (partitionKitchenOrders orders).preparing ++
      (partitionKitchenOrders orders).ready).Perm orders := by
  rw [partitionKitchenOrders_eq]
  refine List.perm_iff_count.2 fun e => ?_
  rw [List.count_append, List.count_append]
  by_cases hmem : e ∈ orders
  · have hstatus := h e hmem
    simp only [kitchenQueueStatuses, List.mem_cons, List.not_mem_nil, or_false] at hstatus
    rcases hstatus with hs | hs | hs | hs <;>
      simp [List.count_filter, hs, List.count_eq_zero_of_not_mem]
  · have hnone (p : OrderId × Order → Bool) : e ∉ orders.filter p :=
      fun hf => hmem (List.mem_of_mem_filter hf)
    rw [List.count_eq_zero_of_not_mem (hnone _), List.count_eq_zero_of_not_mem (hnone _),
      List.count_eq_zero_of_not_mem (hnone _), List.count_eq_zero_of_not_mem hmem]

theorem pairwise_byCreatedAt (orders : List (OrderId × Order)) :
    (byCreatedAt orders).Pairwise fun e e' => e.2.createdAt ≤ e'.2.createdAt := by
  refine (List.pairwise_mergeSort (fun a b c hab hbc => ?_) (fun a b => ?_) _).imp of_decide_eq_true
  · exact decide_eq_true ((of_decide_eq_true hab).trans (of_decide_eq_true hbc))
  · rw [Bool.or_eq_true, decide_eq_true_iff, decide_eq_true_iff]
    exact le_total _ _

/-- The screens show the same orders at the same point. -/
structure ScreensAgree (shop : Shop) : Prop where
  /-- Every order of the queue is in one column, and only there. -/
  columns : ((partitionKitchenOrders (kitchenOrderQueryset shop)).waiting ++
    (partitionKitchenOrders (kitchenOrderQueryset shop)).preparing ++
      (partitionKitchenOrders (kitchenOrderQueryset shop)).ready).Perm (kitchenOrderQueryset shop)
  once : ((kitchenOrderQueryset shop).map Prod.fst).Nodup
  oldestFirst : ∀ column ∈ [(partitionKitchenOrders (kitchenOrderQueryset shop)).waiting,
    (partitionKitchenOrders (kitchenOrderQueryset shop)).preparing,
      (partitionKitchenOrders (kitchenOrderQueryset shop)).ready],
        column.Pairwise fun e e' => e.2.createdAt ≤ e'.2.createdAt
  /-- What is ready in the kitchen is on the pickup screen, and nothing else is. -/
  pickup : (partitionKitchenOrders (kitchenOrderQueryset shop)).ready.Perm
    (pickupScreenQueryset shop)
  /-- The customer sees that the kitchen is at work, or that the order is ready. -/
  preparing : ∀ e ∈ (partitionKitchenOrders (kitchenOrderQueryset shop)).waiting ++
    (partitionKitchenOrders (kitchenOrderQueryset shop)).preparing,
      (buildOrderStatusTimeline e.2).currentKey = some .preparing
  ready : ∀ e ∈ (partitionKitchenOrders (kitchenOrderQueryset shop)).ready,
    (buildOrderStatusTimeline e.2).currentKey = some .ready

theorem status_of_mem_queue (h : e ∈ kitchenOrderQueryset shop) :
    e.2.status ∈ kitchenQueueStatuses :=
  (kitchen_relevant_iff.1 (mem_kitchenOrderQueryset.1 h).2).1

theorem screens_agree (shop : Shop) : ScreensAgree shop where
  columns := columns_perm fun _ he => status_of_mem_queue he
  once := ((List.mergeSort_perm _ _).map Prod.fst).nodup_iff.2 (Table.nodup_filter _ _)
  oldestFirst column hcolumn := by
    rw [partitionKitchenOrders_eq] at hcolumn
    simp only [List.mem_cons, List.not_mem_nil, or_false] at hcolumn
    rcases hcolumn with rfl | rfl | rfl <;> exact (pairwise_byCreatedAt _).filter _
  pickup := by
    rw [partitionKitchenOrders_eq]
    refine ((List.mergeSort_perm _ _).filter _).trans ?_
    refine List.Perm.trans ?_ (List.mergeSort_perm _ _).symm
    rw [Table.filter, Table.filter, List.filter_filter]
    refine List.Perm.of_eq (List.filter_congr fun e _ => ?_)
    rw [Bool.eq_iff_iff, Bool.and_eq_true, decide_eq_true_iff, decide_eq_true_iff,
      decide_eq_true_iff]
    have hkept : e.2.paymentStatus ∈ counterPaymentStatuses →
        e.2.paymentStatus ∉ kitchenExcludedPaymentStatuses := by
      cases e.2.paymentStatus <;> decide
    constructor
    · rintro ⟨hstatus, -, hpayment, -⟩
      exact ⟨hstatus, hpayment⟩
    · rintro ⟨hstatus, hpayment⟩
      exact ⟨hstatus, by rw [hstatus]; decide, hpayment, hkept hpayment⟩
  preparing e he := by
    rw [partitionKitchenOrders_eq, List.mem_append] at he
    change mapOrderStatusToTimelineKey e.2.status = _
    rcases he with he | he
    · have hstatus := of_decide_eq_true (List.mem_filter.1 he).2
      simp only [List.mem_cons, List.not_mem_nil, or_false] at hstatus
      rcases hstatus with hs | hs <;> rw [hs] <;> rfl
    · rw [of_decide_eq_true (List.mem_filter.1 he).2]
      rfl
  ready e he := by
    rw [partitionKitchenOrders_eq] at he
    change mapOrderStatusToTimelineKey e.2.status = _
    rw [of_decide_eq_true (List.mem_filter.1 he).2]
    rfl

end Screens

/-! ## Runs -/

/-- How far a step of the timeline has come. -/
def StepState.rank : StepState → ℕ
  | upcoming => 0
  | current => 1
  | complete => 2

/-- No step of the timeline is taken back. -/
def OrderStatusTimeline.Precedes (timeline timeline' : OrderStatusTimeline) : Prop :=
  List.Forall₂ (fun step step' => step'.key = step.key ∧ step'.label = step.label ∧
    step.state.rank ≤ step'.state.rank) timeline.steps timeline'.steps

/-- The statuses that the timeline has no step for. -/
def offTimelineStatuses : List OrderStatus := [.outForDelivery, .cancelled, .refunded]

/-- The order is in the column. -/
def Listed (o : OrderId) (column : List (OrderId × Order)) : Prop := o ∈ column.map Prod.fst

/-- From `shop` to `shop'` the order goes forward on all screens. -/
structure GoesForward (o : OrderId) (shop shop' : Shop) : Prop where
  timeline : ∀ order order', shop.orders.rows o = some order → shop'.orders.rows o = some order' →
    order'.status ∉ offTimelineStatuses →
      (buildOrderStatusTimeline order).Precedes (buildOrderStatusTimeline order')
  /-- On its way to the customer, or closed, the order shows every step as upcoming. -/
  offTimeline : ∀ order', shop'.orders.rows o = some order' →
    (order'.status ∈ offTimelineStatuses ↔
      ∀ step ∈ (buildOrderStatusTimeline order').steps, step.state = .upcoming)
  preparing : Listed o (partitionKitchenOrders (kitchenOrderQueryset shop)).preparing →
    ¬Listed o (partitionKitchenOrders (kitchenOrderQueryset shop')).waiting
  ready : Listed o (pickupScreenQueryset shop) →
    ¬Listed o (partitionKitchenOrders (kitchenOrderQueryset shop')).waiting ∧
      ¬Listed o (partitionKitchenOrders (kitchenOrderQueryset shop')).preparing

section Runs

variable {shop : Shop} {o : OrderId} {order order' : Order}

/-- A later point leaves every step as it was, or further. -/
theorem stepState_mono {index currentIndex currentIndex' : ℕ} (h : currentIndex ≤ currentIndex') :
    (stepState index currentIndex).rank ≤ (stepState index currentIndex').rank := by
  unfold stepState
  split
  · rw [if_pos (by omega)]
  · split
    · split
      · decide
      · rw [if_pos (by omega)]
    · exact Nat.zero_le _

/-- An order that has come further is shown at a later point. -/
theorem idxOf_timelineKey_le {status status' : OrderStatus} (h : status.rank ≤ status'.rank) :
    ∀ key ∈ mapOrderStatusToTimelineKey status, ∀ key' ∈ mapOrderStatusToTimelineKey status',
      (customerTimelineSteps.map Prod.fst).idxOf key ≤
        (customerTimelineSteps.map Prod.fst).idxOf key' := by
  revert h
  cases status <;> cases status' <;> decide

/-- From a timeline without a current step no step can be taken back. -/
theorem precedes_of_rank_le (h : order.status.rank ≤ order'.status.rank)
    (hon : order'.status ∉ offTimelineStatuses) :
    (buildOrderStatusTimeline order).Precedes (buildOrderStatusTimeline order') := by
  obtain ⟨key', hkey'⟩ : ∃ key', mapOrderStatusToTimelineKey order'.status = some key' := by
    revert hon
    cases order'.status <;> simp [offTimelineStatuses, mapOrderStatusToTimelineKey]
  unfold OrderStatusTimeline.Precedes buildOrderStatusTimeline
  rw [hkey']
  cases hkey : mapOrderStatusToTimelineKey order.status with
  | none => cases key' <;> simp [customerTimelineSteps, StepState.rank]
  | some key =>
    refine List.forall₂_map_left_iff.2 (List.forall₂_map_right_iff.2 ?_)
    exact List.forall₂_same.2 fun _ _ =>
      ⟨rfl, rfl, stepState_mono (idxOf_timelineKey_le h key hkey key' hkey')⟩

/-- The statuses without a step are those that show every step as upcoming. -/
theorem mem_offTimelineStatuses_iff : order.status ∈ offTimelineStatuses ↔
    ∀ step ∈ (buildOrderStatusTimeline order).steps, step.state = .upcoming := by
  unfold buildOrderStatusTimeline
  dsimp only
  cases order.status <;> decide

/-- The row of an order that is listed in a column for the statuses. -/
theorem exists_of_listed {statuses : List OrderStatus}
    (h : Listed o ((kitchenOrderQueryset shop).filter fun e => decide (e.2.status ∈ statuses))) :
    ∃ order, shop.orders.rows o = some order ∧ order.status ∈ statuses := by
  obtain ⟨e, he, rfl⟩ := List.mem_map.1 h
  obtain ⟨hmem, hstatus⟩ := List.mem_filter.1 he
  exact ⟨e.2, (mem_kitchenOrderQueryset.1 hmem).1, of_decide_eq_true hstatus⟩

theorem exists_of_listed_waiting
    (h : Listed o (partitionKitchenOrders (kitchenOrderQueryset shop)).waiting) :
    ∃ order, shop.orders.rows o = some order ∧ order.status.rank ≤ 2 := by
  rw [partitionKitchenOrders_eq] at h
  obtain ⟨order, hrow, hstatus⟩ := exists_of_listed h
  refine ⟨order, hrow, ?_⟩
  simp only [List.mem_cons, List.not_mem_nil, or_false] at hstatus
  rcases hstatus with hs | hs <;> rw [hs] <;> decide

theorem exists_of_listed_preparing
    (h : Listed o (partitionKitchenOrders (kitchenOrderQueryset shop)).preparing) :
    ∃ order, shop.orders.rows o = some order ∧ order.status.rank = 3 := by
  rw [partitionKitchenOrders_eq] at h
  obtain ⟨e, he, rfl⟩ := List.mem_map.1 h
  obtain ⟨hmem, hstatus⟩ := List.mem_filter.1 he
  refine ⟨e.2, (mem_kitchenOrderQueryset.1 hmem).1, ?_⟩
  rw [of_decide_eq_true hstatus]
  rfl

theorem exists_of_listed_pickup (h : Listed o (pickupScreenQueryset shop)) :
    ∃ order, shop.orders.rows o = some order ∧ order.status.rank = 4 := by
  obtain ⟨e, he, rfl⟩ := List.mem_map.1 h
  obtain ⟨hrow, hrelevant⟩ := mem_pickupScreenQueryset.1 he
  refine ⟨e.2, hrow, ?_⟩
  rw [(of_decide_eq_true hrelevant).1]
  rfl

end Runs

end Crumbs
