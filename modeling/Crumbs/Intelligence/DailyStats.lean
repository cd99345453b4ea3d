import Crumbs.Core.ShiftSummary
import Crumbs.Db.Dict
import Crumbs.Intelligence.Models
import Mathlib.Data.List.MinMax

/-!
# Daily Demand

For each product sold on a day the shop keeps a row with the units, the revenue, the number of
orders and the hours. The units, the revenue and the hours are sums over the items of the day's
paid orders. The number of orders is the number of different dates in UTC at which they were
placed, and a row that an earlier run wrote stays when the product is no longer sold.

## Contents

- `aggregateDailyStats`: the loop over the items and the rows it writes
- `Shop.soldOn`: what the rows should agree with
- `aggregateDailyStats_sold`, `aggregateDailyStats_unsold`: what a run leaves of each product
- `aggregateDailyStats_agrees_iff`: when a run leaves statistics that agree with the orders
-/

namespace Crumbs

open Crumbs.Db

/-! ## The job -/

/-- A row of the query over the items. -/
structure SoldItem where
  product : ProductId
  quantity : ℕ
  lineTotal : Money
  createdAt : Time

/-- What the query reads of an item and its order. -/
def soldItem (order : Order) (item : OrderItem) : SoldItem where
  product := item.product
  quantity := item.quantity
  lineTotal := item.lineTotal
  createdAt := order.createdAt

/-- A value of `buckets`. -/
structure SalesBucket where
  units : ℕ
  revenue : Money
  orders : Finset Date
  hours : Dict ℕ ℕ

def SalesBucket.empty : SalesBucket := { units := 0, revenue := 0, orders := ∅, hours := .empty }

/-- `createdAt.date()`, of a time in UTC -/
def utcDate (t : Time) : Date := t / minutes 1440

/-- `date.weekday()`, which is 0 on a Monday -/
def weekday (d : Date) : ℕ := ((d + 3) % 7).toNat

section Job

-- the instant at which a day begins, and the hour of an instant, in the time zone of the shop
variable (midnight : Date → Time) (localHour : Time → ℕ) (shop : Shop) (statDate : Date)

/-- The orders of the day that are paid now. -/
def paidOrdersOn : List (ℕ × Order) :=
  (ordersForShiftDate midnight shop statDate).filter fun e =>
    decide (e.2.paymentStatus ∈ growthPaidStatuses)

/-- The query over the items, in the order of their keys -/
def soldItems : List SoldItem :=
  (paidOrdersOn midnight shop statDate).flatMap fun e =>
    (shop.orderItems e.1).map (soldItem e.2)

/-- The body of the loop over the items. -/
def SalesBucket.add (bucket : SalesBucket) (row : SoldItem) : SalesBucket where
  units := bucket.units + row.quantity
  revenue := bucket.revenue + row.lineTotal
  orders := insert (utcDate row.createdAt) bucket.orders
  hours := bucket.hours.update (localHour row.createdAt) fun n => n.getD 0 + row.quantity

/-- `buckets`, after the loop -/
def salesBuckets : Dict ProductId SalesBucket :=
  Dict.group SoldItem.product (SalesBucket.add localHour) .empty
    (soldItems midnight shop statDate)

/-- The values that the row of a bucket gets. -/
def SalesBucket.row (bucket : SalesBucket) : ProductDailyStats where
  unitsSold := bucket.units
  revenue := bucket.revenue
  orderCount := bucket.orders.card
  peakHour := (bucket.hours.items.argmax Prod.snd).map Prod.fst
  weekday := some (weekday statDate)
  hourlyDistribution := bucket.hours.items

/-- `ProductDailyStats.objects.update_or_create` -/
def writeStats (table : DailyStatsTable) (entry : ProductId × SalesBucket) : DailyStatsTable :=
  fun p d => if p = entry.1 ∧ d = statDate then some (entry.2.row statDate) else table p d

/-- `aggregate_daily_stats`, with the number of products and the rows then -/
def aggregateDailyStats (table : DailyStatsTable) : ℕ × DailyStatsTable :=
  let buckets := salesBuckets midnight localHour shop statDate
  (buckets.items.length, buckets.items.foldl (writeStats statDate) table)

end Job

/-! ## What the orders say -/

section Sold

variable (midnight : Date → Time) (shop : Shop) (statDate : Date) (p : ProductId)

/-- The items of a product in the day's paid orders. -/
def Shop.soldOn : List OrderItem :=
  (paidOrdersOn midnight shop statDate).flatMap fun e =>
    (shop.orderItems e.1).filter fun item => item.product = p

/-- The day's paid orders that contain a product. -/
def Shop.ordersWith : List (ℕ × Order) :=
  (paidOrdersOn midnight shop statDate).filter fun e =>
    (shop.orderItems e.1).any fun item => item.product = p

/-- The rows of the day agree with the orders of the day that are paid now. -/
structure DailyStatsAgree (table : DailyStatsTable) : Prop where
  sold : ∀ p, shop.ordersWith midnight statDate p ≠ [] →
    ∃ row, table p statDate = some row ∧
      row.unitsSold = ((shop.soldOn midnight statDate p).map (·.quantity)).sum ∧
      row.unitsSold = (row.hourlyDistribution.map Prod.snd).sum ∧
      row.revenue = ((shop.soldOn midnight statDate p).map (·.lineTotal)).sum ∧
      row.orderCount = (shop.ordersWith midnight statDate p).length
  unsold : ∀ p, shop.ordersWith midnight statDate p = [] →
    ∀ row, table p statDate = some row → row.unitsSold = 0

/-- The rows of the query for a product, order by order. -/
theorem filter_soldItems : (soldItems midnight shop statDate).filter (fun row => row.product = p) =
    (paidOrdersOn midnight shop statDate).flatMap fun e =>
      ((shop.orderItems e.1).filter fun item => item.product = p).map (soldItem e.2) := by
  rw [soldItems, List.filter_flatMap]
  congr 1
  funext e
  rw [List.filter_map]
  rfl

theorem map_filter_soldItems {β : Type*} (f : ProductId → ℕ → Money → β) :
    ((soldItems midnight shop statDate).filter fun row => row.product = p).map
      (fun row => f row.product row.quantity row.lineTotal) =
      (shop.soldOn midnight statDate p).map fun item =>
        f item.product item.quantity item.lineTotal := by
  rw [filter_soldItems, Shop.soldOn, List.map_flatMap, List.map_flatMap]
  congr 1
  funext e
  rw [List.map_map]
  rfl

/-- The dates in UTC that the items of a product bring are those of the orders with it. -/
theorem toFinset_filter_soldItems :
    (((soldItems midnight shop statDate).filter fun row => row.product = p).map
      fun row => utcDate row.createdAt).toFinset =
      ((shop.ordersWith midnight statDate p).map fun e => utcDate e.2.createdAt).toFinset := by
  ext d
  simp only [List.mem_toFinset, List.mem_map]
  constructor
  · rintro ⟨row, hrow, rfl⟩
    rw [filter_soldItems] at hrow
    obtain ⟨e, he, hrow⟩ := List.mem_flatMap.1 hrow
    obtain ⟨item, hitem, rfl⟩ := List.mem_map.1 hrow
    obtain ⟨hitem, hp⟩ := List.mem_filter.1 hitem
    exact ⟨e, List.mem_filter.2 ⟨he, List.any_eq_true.2 ⟨item, hitem, hp⟩⟩, rfl⟩
  · rintro ⟨e, he, rfl⟩
    obtain ⟨he, found⟩ := List.mem_filter.1 he
    obtain ⟨item, hitem, hp⟩ := List.any_eq_true.1 found
    refine ⟨soldItem e.2 item, ?_, rfl⟩
    rw [filter_soldItems]
    exact List.mem_flatMap.2 ⟨e, he, List.mem_map_of_mem (List.mem_filter.2 ⟨hitem, hp⟩)⟩

/-- A product is in the query if and only if it is in an order. -/
theorem exists_soldItem_iff : (∃ row ∈ soldItems midnight shop statDate, row.product = p) ↔
    shop.ordersWith midnight statDate p ≠ [] := by
  constructor
  · rintro ⟨row, hrow, hp⟩
    obtain ⟨e, he, hrow⟩ := List.mem_flatMap.1 hrow
    obtain ⟨item, hitem, rfl⟩ := List.mem_map.1 hrow
    have found : e ∈ shop.ordersWith midnight statDate p :=
      List.mem_filter.2 ⟨he, List.any_eq_true.2 ⟨item, hitem, decide_eq_true hp⟩⟩
    exact List.ne_nil_of_mem found
  · intro sold
    obtain ⟨e, he⟩ := List.exists_mem_of_ne_nil _ sold
    obtain ⟨he, found⟩ := List.mem_filter.1 he
    obtain ⟨item, hitem, hp⟩ := List.any_eq_true.1 found
    exact ⟨soldItem e.2 item, List.mem_flatMap.2 ⟨e, he, List.mem_map_of_mem hitem⟩,
      of_decide_eq_true hp⟩

end Sold

/-! ## The buckets -/

section Buckets

variable (localHour : Time → ℕ)

/-- What the loop adds to a bucket over some rows. -/
theorem foldl_add (rows : List SoldItem) (bucket : SalesBucket) :
    (rows.foldl (SalesBucket.add localHour) bucket).units =
      bucket.units + (rows.map (·.quantity)).sum ∧
    (rows.foldl (SalesBucket.add localHour) bucket).revenue =
      bucket.revenue + (rows.map (·.lineTotal)).sum ∧
    (rows.foldl (SalesBucket.add localHour) bucket).orders =
      bucket.orders ∪ (rows.map fun row => utcDate row.createdAt).toFinset ∧
    ((rows.foldl (SalesBucket.add localHour) bucket).hours.items.map Prod.snd).sum =
      (bucket.hours.items.map Prod.snd).sum + (rows.map (·.quantity)).sum := by
  induction rows generalizing bucket with
  | nil => simp
  | cons row rows ih =>
    obtain ⟨units, revenue, orders, hours⟩ := ih (bucket.add localHour row)
    simp only [List.foldl_cons, List.map_cons, List.sum_cons, List.toFinset_cons]
    refine ⟨?_, ?_, ?_, ?_⟩
    · rw [units, SalesBucket.add, Nat.add_assoc]
    · rw [revenue, SalesBucket.add, add_assoc]
    · rw [orders, SalesBucket.add, Finset.insert_union, Finset.union_insert]
    · rw [hours, SalesBucket.add, Dict.sum_update_add, Nat.add_assoc]

/-- The write of a run leaves the rows of other dates and of other products. -/
theorem foldl_writeStats_of_not_mem {statDate : Date} {entries : List (ProductId × SalesBucket)}
    {p : ProductId} {d : Date} (other : d ≠ statDate ∨ p ∉ entries.map Prod.fst) :
    ∀ table : DailyStatsTable, entries.foldl (writeStats statDate) table p d = table p d := by
  induction entries with
  | nil => exact fun _ => rfl
  | cons e entries ih =>
    intro table
    have rest : d ≠ statDate ∨ p ∉ entries.map Prod.fst :=
      other.imp_right fun h hp => h (List.mem_cons_of_mem _ hp)
    rw [List.foldl_cons, ih rest]
    refine if_neg fun hit => ?_
    rcases other with date | product
    · exact date hit.2
    · exact product (hit.1 ▸ List.mem_cons_self)

theorem foldl_writeStats_of_mem {statDate : Date} {entries : List (ProductId × SalesBucket)}
    (distinct : (entries.map Prod.fst).Nodup) {p : ProductId} {bucket : SalesBucket}
    (h : (p, bucket) ∈ entries) :
    ∀ table : DailyStatsTable,
      entries.foldl (writeStats statDate) table p statDate = some (bucket.row statDate) := by
  induction entries with
  | nil => cases h
  | cons e entries ih =>
    intro table
    obtain ⟨fresh, distinct⟩ := List.nodup_cons.1 distinct
    rw [List.foldl_cons]
    rcases List.mem_cons.1 h with rfl | later
    · rw [foldl_writeStats_of_not_mem (.inr fresh)]
      exact if_pos ⟨rfl, rfl⟩
    · exact ih distinct later _

end Buckets

/-! ## The rows after a run -/

section Run

variable (midnight : Date → Time) (localHour : Time → ℕ) (shop : Shop) (statDate : Date)
  (table : DailyStatsTable)

/-- The bucket of a product that is sold. -/
theorem get?_salesBuckets {p : ProductId} (sold : shop.ordersWith midnight statDate p ≠ []) :
    (salesBuckets midnight localHour shop statDate).get? p =
      some (((soldItems midnight shop statDate).filter fun row => row.product = p).foldl
        (SalesBucket.add localHour) .empty) := by
  rw [salesBuckets, Dict.get?_group, if_pos ((exists_soldItem_iff ..).2 sold)]

/-- The row of a product that is sold. The orders are counted by their dates in UTC. -/
theorem aggregateDailyStats_sold {p : ProductId}
    (sold : shop.ordersWith midnight statDate p ≠ []) :
    ∃ row, (aggregateDailyStats midnight localHour shop statDate table).2 p statDate = some row ∧
      row.unitsSold = ((shop.soldOn midnight statDate p).map (·.quantity)).sum ∧
      row.unitsSold = (row.hourlyDistribution.map Prod.snd).sum ∧
      row.revenue = ((shop.soldOn midnight statDate p).map (·.lineTotal)).sum ∧
      row.orderCount = ((shop.ordersWith midnight statDate p).map
        fun e => utcDate e.2.createdAt).toFinset.card := by
  have bucket := (Dict.get?_eq_some_iff _ _ _).1
    (get?_salesBuckets midnight localHour shop statDate sold)
  refine ⟨_, foldl_writeStats_of_mem (Dict.nodup _) bucket table, ?_⟩
  obtain ⟨units, revenue, orders, hours⟩ := foldl_add localHour
    ((soldItems midnight shop statDate).filter fun row => row.product = p) .empty
  have quantities := map_filter_soldItems midnight shop statDate p fun _ quantity _ => quantity
  have lineTotals := map_filter_soldItems midnight shop statDate p fun _ _ lineTotal => lineTotal
  refine ⟨?_, ?_, ?_, ?_⟩
  · rw [SalesBucket.row, units, quantities]
    exact Nat.zero_add _
  · rw [SalesBucket.row, units, hours]
    rfl
  · rw [SalesBucket.row, revenue, lineTotals]
    exact zero_add _
  · have dates := orders.trans (Finset.empty_union _)
    rw [toFinset_filter_soldItems] at dates
    exact congrArg Finset.card dates

/-- A product that is not sold keeps the row that it has. -/
theorem aggregateDailyStats_unsold {p : ProductId}
    (unsold : shop.ordersWith midnight statDate p = []) :
    (aggregateDailyStats midnight localHour shop statDate table).2 p statDate =
      table p statDate := by
  refine foldl_writeStats_of_not_mem (.inr fun h => ?_) table
  have found := (Dict.mem_keys_group SoldItem.product (SalesBucket.add localHour) .empty
    (soldItems midnight shop statDate) p).1 h
  exact (exists_soldItem_iff ..).1 found unsold

theorem card_toFinset_eq_length_iff {α : Type*} [DecidableEq α] (l : List α) :
    l.toFinset.card = l.length ↔ l.Nodup := by
  rw [List.card_toFinset]
  constructor
  · intro h
    rw [← List.dedup_eq_self]
    exact (List.dedup_sublist l).eq_of_length h
  · intro h
    rw [h.dedup]

/-- A run leaves rows that agree with the orders if and only if no two of the day's orders with
one product were placed on one date in UTC, and no product that is not sold has a row with units. -/
theorem aggregateDailyStats_agrees_iff :
    DailyStatsAgree midnight shop statDate
      (aggregateDailyStats midnight localHour shop statDate table).2 ↔
    (∀ p, ((shop.ordersWith midnight statDate p).map fun e => utcDate e.2.createdAt).Nodup) ∧
      ∀ p, shop.ordersWith midnight statDate p = [] →
        ∀ row, table p statDate = some row → row.unitsSold = 0 := by
  constructor
  · rintro ⟨agree, none_left⟩
    refine ⟨fun p => ?_, fun p unsold row hrow => ?_⟩
    · by_cases sold : shop.ordersWith midnight statDate p = []
      · rw [sold]
        exact List.nodup_nil
      · obtain ⟨row, hrow, -, -, -, count⟩ := agree p sold
        obtain ⟨row', hrow', -, -, -, dates⟩ :=
          aggregateDailyStats_sold midnight localHour shop statDate table sold
        rw [hrow, Option.some.injEq] at hrow'
        rw [← card_toFinset_eq_length_iff, List.length_map, ← dates, ← hrow', count]
    · refine none_left p unsold row ?_
      rw [aggregateDailyStats_unsold midnight localHour shop statDate table unsold, hrow]
  · rintro ⟨dates, none_left⟩
    refine ⟨fun p sold => ?_, fun p unsold row hrow => ?_⟩
    · obtain ⟨row, hrow, units, hours, revenue, count⟩ :=
        aggregateDailyStats_sold midnight localHour shop statDate table sold
      have all := (card_toFinset_eq_length_iff _).2 (dates p)
      rw [List.length_map] at all
      exact ⟨row, hrow, units, hours, revenue, count.trans all⟩
    · rw [aggregateDailyStats_unsold midnight localHour shop statDate table unsold] at hrow
      exact none_left p unsold row hrow

end Run

/-- Two orders for coffee on one day. -/
theorem aggregateDailyStats_not_agrees :
    ¬ ∀ (midnight : Date → Time) (localHour : Time → ℕ) (shop : Shop) (statDate : Date)
      (table : DailyStatsTable), DailyStatsAgree midnight shop statDate
        (aggregateDailyStats midnight localHour shop statDate table).2 := by
  intro agrees
  obtain ⟨row, hrow, -, -, -, count⟩ := (agrees (fun d => d * minutes 1440) (fun _ => 0) coffeeShop
    0 fun _ _ => none).sold 1 (by decide +kernel)
  have two : (coffeeShop.ordersWith (fun d => d * minutes 1440) 0 1).length = 2 := by
    decide +kernel
  have one : ((aggregateDailyStats (fun d => d * minutes 1440) (fun _ => 0) coffeeShop 0
      fun _ _ => none).2 1 0).map (·.orderCount) = some 1 := by
    decide +kernel
  rw [hrow, Option.map_some, count, two] at one
  exact absurd one (by decide)

end Crumbs
