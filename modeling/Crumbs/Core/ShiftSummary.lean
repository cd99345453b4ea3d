import Crumbs.Models
import Mathlib.Tactic.Abel

/-!
# The Shift Summary

What the shop sold on a day, out of the orders that were placed on it. The paid orders are counted
as a whole and method by method. Cash on delivery is a method of older orders and has no row of its
own, so the rows account for all paid orders but these.

## Contents

- `ordersForShiftDate`, `paidOrdersForShift`: the orders of a day
- `buildPaymentBreakdown`, `buildTopProducts`, `buildShiftSummary`: the summary
- `buildShiftSummary_reconciles`: the rows and the paid orders of the older method add up to the
  paid orders of the day
-/

namespace Crumbs

open Crumbs.Db

/-! ## Constants -/

/-- `TOP_PRODUCTS_LIMIT` -/
def topProductsLimit : ℕ := 10

/-- `PICKUP_LIST_LIMIT` -/
def pickupListLimit : ℕ := 50

/-- `PAYMENT_ISSUES_LIMIT` -/
def paymentIssuesLimit : ℕ := 50

/-- `PAID_PAYMENT_STATUSES` -/
def paidPaymentStatuses : List OrderPaymentStatus := [.paid, .cashReceived, .codConfirmed]

/-- `PICKUP_READY_STATUSES` -/
def pickupReadyStatuses : List OrderStatus := [.packaged]

/-- `PICKUP_PENDING_STATUSES` -/
def pickupPendingStatuses : List OrderStatus := [.paid, .confirmedByShop, .preparing]

/-- `PAYMENT_BREAKDOWN_METHODS` -/
def paymentBreakdownMethods : List PaymentMethod := [.online, .counterCard, .cash]

/-- `dict(Order.PaymentMethod.choices)` -/
def PaymentMethod.label : PaymentMethod → String
  | cod => "Cash on Delivery"
  | online => "Online Payment"
  | cash => "Cash at Counter"
  | counterCard => "Card at Counter"

/-! ## Rows -/

structure PaymentBreakdownRow where
  method : PaymentMethod
  label : String
  count : ℕ
  total : Money
  deriving DecidableEq, Repr

structure TopProductRow where
  productName : String
  productId : ProductId
  quantitySold : ℕ
  revenue : Money
  deriving DecidableEq, Repr

/-- The summary, less the products that are low on stock. -/
structure ShiftSummary where
  selectedDate : Date
  totalSales : Money
  orderCount : ℕ
  paidOrderCount : ℕ
  awaitingCounterPaymentCount : ℕ
  cancelledRefundedCount : ℕ
  paymentBreakdown : List PaymentBreakdownRow
  topProducts : List TopProductRow
  readyPickupOrders : List (ℕ × Order)
  pendingPickupOrders : List (ℕ × Order)
  paymentIssues : List (ℕ × Payment)

/-! ## Queries -/

section Queries

-- the instant at which a day begins in the time zone of the shop
variable (midnight : Date → Time) (shop : Shop) (selectedDate : Date)

/-- `shift_datetime_range` -/
def shiftDatetimeRange : Time × Time :=
  let start := midnight selectedDate
  (start, start + minutes 1440)

/-- `orders_for_shift_date` -/
def ordersForShiftDate : List (ℕ × Order) :=
  let (start, stop) := shiftDatetimeRange midnight selectedDate
  shop.orders.filter fun o => decide (start ≤ o.createdAt ∧ o.createdAt < stop)

/-- `paid_orders_for_shift` -/
def paidOrdersForShift : List (ℕ × Order) :=
  (ordersForShiftDate midnight shop selectedDate).filter fun e =>
    decide (e.2.paymentStatus ∈ paidPaymentStatuses ∧ e.2.status ∉ [.cancelled, .refunded])

/-- `Sum("total")`, with nothing for no orders. -/
def sumTotal (orders : List (ℕ × Order)) : Money := (orders.map fun e => e.2.total).sum

/-- The orders that were to be paid with the method. -/
def ordersByMethod (orders : List (ℕ × Order)) (method : PaymentMethod) : List (ℕ × Order) :=
  orders.filter fun e => decide (e.2.paymentMethod = method)

/-- The body of the loop in `build_payment_breakdown`. -/
def paymentBreakdownRow (paidOrders : List (ℕ × Order)) (method : PaymentMethod) :
    PaymentBreakdownRow where
  method := method
  label := method.label
  count := (ordersByMethod paidOrders method).length
  total := sumTotal (ordersByMethod paidOrders method)

/-- `build_payment_breakdown` -/
def buildPaymentBreakdown (paidOrders : List (ℕ × Order)) : List PaymentBreakdownRow :=
  paymentBreakdownMethods.map (paymentBreakdownRow paidOrders)

/-- `build_top_products`: the items by product and name, the most sold first. -/
def buildTopProducts (paidOrders : List (ℕ × Order)) (limit : ℕ) : List TopProductRow :=
  let items := paidOrders.flatMap fun e => shop.orderItems e.1
  let groups := (items.map fun item => (item.product, item.productName)).dedup
  let rows := groups.map fun (product, name) =>
    let sold := items.filter fun item => decide (item.product = product ∧ item.productName = name)
    { productName := name, productId := product, quantitySold := (sold.map (·.quantity)).sum,
      revenue := (sold.map (·.lineTotal)).sum : TopProductRow }
  (rows.mergeSort fun r r' => decide (r'.quantitySold < r.quantitySold ∨
    r.quantitySold = r'.quantitySold ∧ r.productName ≤ r'.productName)).take limit

/-- Orders with a status out of a list and a paid payment status, the oldest first. -/
def pickupOrders (statuses : List OrderStatus) : List (ℕ × Order) :=
  (((ordersForShiftDate midnight shop selectedDate).filter fun e =>
    decide (e.2.status ∈ statuses ∧ e.2.paymentStatus ∈ paidPaymentStatuses)).mergeSort fun e e' =>
      decide (e.2.createdAt ≤ e'.2.createdAt)).take pickupListLimit

/-- `payment_issues_for_shift` -/
def paymentIssuesForShift (limit : ℕ) : List (ℕ × Payment) :=
  let (start, stop) := shiftDatetimeRange midnight selectedDate
  ((shop.payments.filter fun p =>
    (shop.orders.rows p.order).any (fun o => decide (start ≤ o.createdAt ∧ o.createdAt < stop)) &&
      decide (p.status ∈ [.failed, .pending, .processing])).mergeSort fun e e' =>
        decide (e'.2.createdAt ≤ e.2.createdAt)).take limit

/-- `build_shift_summary` -/
def buildShiftSummary : ShiftSummary :=
  let orders := ordersForShiftDate midnight shop selectedDate
  let paidOrders := paidOrdersForShift midnight shop selectedDate
  { selectedDate := selectedDate
    totalSales := sumTotal paidOrders
    orderCount := orders.length
    paidOrderCount := paidOrders.length
    awaitingCounterPaymentCount := (orders.filter fun e =>
      decide (e.2.status = .awaitingPayment ∧ e.2.paymentMethod ∈ [.cash, .counterCard])).length
    cancelledRefundedCount := (orders.filter fun e =>
      decide (e.2.status ∈ [.cancelled, .refunded] ∨ e.2.paymentStatus = .refundProcessed)).length
    paymentBreakdown := buildPaymentBreakdown paidOrders
    topProducts := buildTopProducts shop paidOrders topProductsLimit
    readyPickupOrders := pickupOrders midnight shop selectedDate pickupReadyStatuses
    pendingPickupOrders := pickupOrders midnight shop selectedDate pickupPendingStatuses
    paymentIssues := paymentIssuesForShift midnight shop selectedDate paymentIssuesLimit }

end Queries

/-! ## Reconciliation -/

/-- The number of orders in the rows. -/
def ShiftSummary.breakdownCount (summary : ShiftSummary) : ℕ :=
  (summary.paymentBreakdown.map (·.count)).sum

/-- The sales in the rows. -/
def ShiftSummary.breakdownTotal (summary : ShiftSummary) : Money :=
  (summary.paymentBreakdown.map (·.total)).sum

section Sums

variable {M : Type} [AddCommMonoid M] (f : ℕ × Order → M)

/-- What is added up over the orders with a method. -/
def sumByMethod (orders : List (ℕ × Order)) (method : PaymentMethod) : M :=
  ((ordersByMethod orders method).map f).sum

theorem sumByMethod_cons (e : ℕ × Order) (orders : List (ℕ × Order)) (method : PaymentMethod) :
    sumByMethod f (e :: orders) method =
      (if e.2.paymentMethod = method then f e else 0) + sumByMethod f orders method := by
  unfold sumByMethod ordersByMethod
  rw [List.filter_cons]
  by_cases h : e.2.paymentMethod = method
  · rw [if_pos (decide_eq_true h), if_pos h, List.map_cons, List.sum_cons]
  · rw [if_neg (mt of_decide_eq_true h), if_neg h, zero_add]

/-- Every order has one of the methods with a row, or it is of the older one. -/
theorem sum_sumByMethod (orders : List (ℕ × Order)) :
    (paymentBreakdownMethods.map (sumByMethod f orders)).sum + sumByMethod f orders .cod =
      (orders.map f).sum := by
  have hrows (orders : List (ℕ × Order)) :
      (paymentBreakdownMethods.map (sumByMethod f orders)).sum = sumByMethod f orders .online +
        (sumByMethod f orders .counterCard + sumByMethod f orders .cash) := by
    simp only [paymentBreakdownMethods, List.map_cons, List.map_nil, List.sum_cons, List.sum_nil,
      add_zero]
  induction orders with
  | nil => simp [hrows, sumByMethod, ordersByMethod]
  | cons e rest ih =>
    rw [hrows] at ih
    rw [hrows, List.map_cons, List.sum_cons, ← ih]
    simp only [sumByMethod_cons]
    cases e.2.paymentMethod <;> simp only [if_true, reduceCtorEq, if_false, zero_add] <;> abel

end Sums

/-- The rows and the paid orders with cash on delivery, which have no row, add up to the paid
    orders of the day and to its sales. -/
theorem buildShiftSummary_reconciles (midnight : Date → Time) (shop : Shop) (selectedDate : Date) :
    let summary := buildShiftSummary midnight shop selectedDate
    let paidOrders := paidOrdersForShift midnight shop selectedDate
    let older := ordersByMethod paidOrders .cod
    summary.breakdownCount + older.length = summary.paidOrderCount ∧
      summary.breakdownTotal + sumTotal older = summary.totalSales := by
  intro summary paidOrders older
  have hlength (orders : List (ℕ × Order)) : (orders.map fun _ => 1).sum = orders.length := by
    simp
  have hcount : sumByMethod (fun _ => 1) paidOrders =
      fun method => (ordersByMethod paidOrders method).length := funext fun _ => hlength _
  constructor
  · have hsum := (sum_sumByMethod (fun _ => 1) paidOrders).trans (hlength paidOrders)
    rw [hcount] at hsum
    exact hsum
  · exact sum_sumByMethod (fun e => e.2.total) paidOrders

/-- An older order, paid on delivery. -/
def codShop : Shop where
  stock := { products := fun _ => { name := "Bread", price := 0, availabilityStatus := .available } }
  orders := Table.empty.insert
    { orderNumber := "C-1", user := none, email := "", status := .delivered,
      paymentStatus := .codConfirmed, paymentMethod := .cod, deliveryType := .cod,
      deliveryFee := 0, subtotal := 200000, total := 200000, createdAt := 0 }

/-- It is a paid order of the day, and in no row. -/
theorem not_breakdown_eq : ¬∀ (midnight : Date → Time) (shop : Shop) (selectedDate : Date),
    let summary := buildShiftSummary midnight shop selectedDate
    summary.breakdownCount = summary.paidOrderCount ∧
      summary.breakdownTotal = summary.totalSales := by
  intro h
  exact absurd (h (fun d => d * minutes 1440) codShop 0).1 (by decide +kernel)

end Crumbs
