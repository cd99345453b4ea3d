import Crumbs.Intelligence.DailyStats
import Crumbs.Num.Decimals
import Mathlib.Algebra.Order.BigOperators.Group.List
import Mathlib.Algebra.Order.Group.MinMax

/-!
# Demand Forecasts

The demand for a product on a day is predicted from its daily statistics: the mean over the days
before, times a factor for the day of the week. The mean cancels out, so that what is predicted is
the mean over the days before that are of the same day of the week. The arithmetic is decimal, with
28 digits; the errors are too small to move a prediction by more than a cent, and in a window of
less than three weeks they do not move it at all.

## Contents

- `forecastProduct`, `generateForecasts`: the prediction, and the job
- `weekdayMean`: the mean over the days of the same day of the week
- `forecastProduct_near`: a prediction is this mean, up to a cent
- `statsRun`, `countedUnits`: runs of the job that makes the statistics
- `forecasts_of_run`: what is predicted after any such run
-/

namespace Crumbs

open Crumbs.Db Crumbs.Num

/-! ## The prediction -/

/-- A result of `Decimal` arithmetic in the default context -/
def decimal (q : ℚ) : ℚ := toDigits 28 q

/-- A row, without the product, the date and the window that it is found by. The bounds of its
columns, ten digits with two places for the units and the average and six with four for the
factor, are not modelled: the database refuses a row that exceeds them. -/
structure ProductDemandForecast where
  predictedUnits : ℚ
  historicalAvg : ℚ
  weekdayFactor : ℚ
  deriving DecidableEq

/-- The rows by product, date and window. -/
abbrev ForecastTable := ProductId → Date → ℕ → Option ProductDemandForecast

/-- The days of a window, which ends the day before. -/
def windowDates (date : Date) (windowDays : ℕ) : List Date :=
  (List.range windowDays).map fun i : ℕ => date - windowDays + i

/-- `aggregate(total=Sum("units_sold"))["total"] or 0` -/
def totalUnits (stats : List ProductDailyStats) : ℕ := (stats.map (·.unitsSold)).sum

/-- `_forecast_product` -/
def forecastProduct (table : DailyStatsTable) (p : ProductId) (forecastDate : Date)
    (windowDays : ℕ) : Option ProductDemandForecast :=
  let stats := (windowDates forecastDate windowDays).filterMap (table p)
  -- the source asks twice, `exists()` and `count()`
  if stats.length = 0 then none
  else
    let movingAvg := decimal (totalUnits stats / stats.length)
    let weekdayStats := stats.filter fun row => row.weekday = some (weekday forecastDate)
    let weekdayDays := if weekdayStats.length = 0 then 1 else weekdayStats.length
    let weekdayAvg := decimal (totalUnits weekdayStats / weekdayDays)
    let weekdayFactor := if movingAvg = 0 then 1 else decimal (weekdayAvg / movingAvg)
    let predicted := roundTo (1 / 100) (decimal (movingAvg * weekdayFactor))
    some
      { predictedUnits := max predicted 0
        historicalAvg := roundTo (1 / 100) movingAvg
        weekdayFactor := roundTo (1 / 10000) weekdayFactor }

/-- `Product.objects.filter(availability_status=AVAILABLE)` -/
def productsOnSale (products : List CatalogProduct) : List ProductId :=
  (products.filter fun p => p.availabilityStatus = .available).map (·.pk)

/-- The body of the loops, for a product and a window, with the number of forecasts so far. -/
def writeForecast (stats : DailyStatsTable) (forecastDate : Date) (state : ℕ × ForecastTable)
    (key : ProductId × ℕ) : ℕ × ForecastTable :=
  match forecastProduct stats key.1 forecastDate key.2 with
  | none => state
  | some forecast => (state.1 + 1, fun p d w =>
      if p = key.1 ∧ d = forecastDate ∧ w = key.2 then some forecast else state.2 p d w)

/-- `generate_forecasts`, with the number of forecasts and the rows then -/
def generateForecasts (products : List CatalogProduct) (stats : DailyStatsTable)
    (forecastDate : Date) (windows : List ℕ) (table : ForecastTable) : ℕ × ForecastTable :=
  ((productsOnSale products).flatMap fun p => windows.map fun w => (p, w)).foldl
    (writeForecast stats forecastDate) (0, table)

/-! ## What is predicted -/

/-- The days of a window that are of the day of the week of the day after it. -/
def sameWeekdays (date : Date) (windowDays : ℕ) : List Date :=
  (windowDates date windowDays).filter fun d => weekday d = weekday date

/-- The mean, 0 of no numbers. -/
def meanOf (ns : List ℕ) : ℚ := ns.sum / ns.length

/-- The mean over the days of the same day of the week, of those that are counted. -/
def weekdayMean (counted : Date → Option ℕ) (date : Date) (windowDays : ℕ) : ℚ :=
  meanOf ((sameWeekdays date windowDays).filterMap counted)

/-- The day of the week of a row is that of its date. -/
def DailyStatsTable.IsDated (table : DailyStatsTable) : Prop :=
  ∀ p d row, table p d = some row → row.weekday = some (weekday d)

/-- The units of a row. -/
def DailyStatsTable.units (table : DailyStatsTable) (p : ProductId) (d : Date) : Option ℕ :=
  (table p d).map (·.unitsSold)

/-- The largest number that the column of the units holds. -/
def maxPositiveInteger : ℕ := 2147483647

section Prediction

variable {table : DailyStatsTable} {p : ProductId} {date : Date} {windowDays : ℕ}

theorem meanOf_nonneg (ns : List ℕ) : 0 ≤ meanOf ns := by
  unfold meanOf
  positivity

/-- A mean of at most two whole numbers is a whole number of halves. -/
theorem meanOf_halves {ns : List ℕ} (h : ns.length ≤ 2) : ∃ n : ℤ, meanOf ns = n / 2 := by
  match ns, h with
  | [], _ => exact ⟨0, by simp [meanOf]⟩
  | [a], _ =>
    refine ⟨2 * a, ?_⟩
    simp [meanOf]
  | [a, b], _ =>
    refine ⟨a + b, ?_⟩
    simp [meanOf]

theorem meanOf_le {ns : List ℕ} {n : ℕ} (h : ∀ m ∈ ns, m ≤ n) : meanOf ns ≤ n := by
  have hsum : (ns.sum : ℚ) ≤ ns.length * n := by
    exact_mod_cast (List.sum_le_card_nsmul ns n h).trans_eq (nsmul_eq_mul _ _)
  rw [meanOf]
  rcases Nat.eq_zero_or_pos ns.length with hzero | hpos
  · rw [hzero, Nat.cast_zero, div_zero]
    exact Nat.cast_nonneg n
  · rw [div_le_iff₀ (by exact_mod_cast hpos)]
    linarith

/-- In less than three weeks a day of the week comes at most twice. -/
theorem length_sameWeekdays_le (h : windowDays < 21) : (sameWeekdays date windowDays).length ≤ 2 := by
  have hweek : ∀ w < 21, ((List.range w).filter fun i => decide ((w - i) % 7 = 0)).length ≤ 2 := by
    decide
  rw [sameWeekdays, windowDates, List.filter_map, List.length_map]
  refine le_trans (le_of_eq (congrArg List.length (List.filter_congr fun i hi => ?_)))
    (hweek windowDays h)
  have hlt := List.mem_range.1 hi
  refine decide_eq_decide.2 ?_
  simp only [weekday]
  omega

/-- The rows of the same day of the week are those of its days. -/
theorem filter_weekday (hdated : table.IsDated) :
    ((windowDates date windowDays).filterMap (table p)).filter
        (fun row => row.weekday = some (weekday date)) =
      (sameWeekdays date windowDays).filterMap (table p) := by
  rw [sameWeekdays]
  induction windowDates date windowDays with
  | nil => rfl
  | cons d rest ih =>
    cases hrow : table p d with
    | none =>
      by_cases hday : weekday d = weekday date <;> simp [hrow, hday, ih]
    | some row =>
      have hweekday := hdated p d row hrow
      by_cases hday : weekday d = weekday date <;> simp [hrow, hday, hweekday, ih]

theorem map_units (dates : List Date) :
    (dates.filterMap (table p)).map (·.unitsSold) = dates.filterMap (table.units p) := by
  rw [List.map_filterMap]
  rfl

/-- The mean of the rows of the day of the week, whose number is 1 if there are none. -/
theorem totalUnits_div (stats : List ProductDailyStats) :
    (totalUnits stats / (if stats.length = 0 then 1 else stats.length : ℕ) : ℚ) =
      meanOf (stats.map (·.unitsSold)) := by
  rw [meanOf, List.length_map, totalUnits]
  split_ifs with hnone
  · rw [List.length_eq_zero_iff.1 hnone]
    simp
  · rfl

/-- The relative error of a prediction before its last rounding. -/
def predictionError : ℚ := 1 / 10 ^ 26

/-- Three results are rounded on the way, and the mean of all days cancels out. -/
theorem near_decimal_mul {mean : ℚ} (hmean : mean ≠ 0) (q : ℚ) :
    Near predictionError (decimal (mean * decimal (decimal q / mean))) q := by
  have hunit : (0 : ℚ) ≤ halfUnit 28 := (halfUnit_pos 28).le
  have hproduct : Near (halfUnit 28) (mean * decimal (decimal q / mean)) (decimal q) :=
    (near_toDigits 28 _).mul_div hmean
  have hsum := Near.trans hunit (near_toDigits 28 (mean * decimal (decimal q / mean)))
    (hproduct.trans hunit (near_toDigits 28 q))
  refine hsum.mono ?_
  rw [halfUnit, predictionError]
  norm_num

/-- The same of numbers of units, in absolute terms. -/
theorem abs_decimal_mul_sub_le {mean q : ℚ} (hmean : mean ≠ 0) (hq : 0 ≤ q)
    (hfits : q ≤ maxPositiveInteger) :
    |decimal (mean * decimal (decimal q / mean)) - q| ≤ 1 / 1000 := by
  calc |decimal (mean * decimal (decimal q / mean)) - q|
      ≤ predictionError * |q| := near_decimal_mul hmean q
    _ ≤ predictionError * maxPositiveInteger := by
      rw [abs_of_nonneg hq]
      exact mul_le_mul_of_nonneg_left hfits (by norm_num [predictionError])
    _ ≤ 1 / 1000 := by norm_num [predictionError, maxPositiveInteger]

/-- What is predicted for a mean `q`, of the day of the week, if the mean of all days is not 0. -/
theorem abs_predicted_sub_le {mean q : ℚ} (hmean : mean ≠ 0) (hq : 0 ≤ q)
    (hfits : q ≤ maxPositiveInteger) :
    |max (roundTo (1 / 100) (decimal (mean * decimal (decimal q / mean)))) 0 - q| ≤ 1 / 100 := by
  have hround := abs_roundTo_sub_le (show (0 : ℚ) < 1 / 100 by norm_num)
    (decimal (mean * decimal (decimal q / mean)))
  have hsmall := abs_decimal_mul_sub_le hmean hq hfits
  calc |max (roundTo (1 / 100) (decimal (mean * decimal (decimal q / mean)))) 0 - q|
      = |max (roundTo (1 / 100) (decimal (mean * decimal (decimal q / mean)))) 0 - max q 0| := by
        rw [max_eq_left hq]
    _ ≤ |roundTo (1 / 100) (decimal (mean * decimal (decimal q / mean))) - q| :=
      abs_max_sub_max_le_abs _ _ _
    _ ≤ 1 / 100 := by
      have htriangle := abs_sub_le (roundTo (1 / 100) (decimal (mean * decimal (decimal q / mean))))
        (decimal (mean * decimal (decimal q / mean))) q
      linarith

/-- Halves are predicted as they are. -/
theorem predicted_eq {mean q : ℚ} {n : ℤ} (hmean : mean ≠ 0) (hq : 0 ≤ q)
    (hfits : q ≤ maxPositiveInteger) (hhalves : q = n / 2) :
    max (roundTo (1 / 100) (decimal (mean * decimal (decimal q / mean)))) 0 = q := by
  have hcents : ((n * 50 : ℤ) : ℚ) * (1 / 100) = q := by
    rw [hhalves]
    push_cast
    ring
  have hsmall := abs_decimal_mul_sub_le hmean hq hfits
  rw [roundTo_of_near (n := n * 50) (by norm_num), hcents, max_eq_left hq]
  rw [hcents]
  exact hsmall.trans_lt (by norm_num)

/-- A prediction is the mean over the days of the same day of the week, up to a cent; in less than
three weeks, of which there are at most two, exactly. -/
theorem forecastProduct_near (hdated : table.IsDated)
    (hfits : ∀ d n, table.units p d = some n → n ≤ maxPositiveInteger)
    {forecast : ProductDemandForecast} (h : forecastProduct table p date windowDays = some forecast) :
    |forecast.predictedUnits - weekdayMean (table.units p) date windowDays| ≤ 1 / 100 ∧
      (windowDays < 21 →
        forecast.predictedUnits = weekdayMean (table.units p) date windowDays) := by
  have hmean : weekdayMean (table.units p) date windowDays = meanOf
      (((sameWeekdays date windowDays).filterMap (table p)).map (·.unitsSold)) := by
    rw [map_units, weekdayMean]
  have hnonneg : 0 ≤ weekdayMean (table.units p) date windowDays := meanOf_nonneg _
  have hmax : weekdayMean (table.units p) date windowDays ≤ maxPositiveInteger := by
    refine meanOf_le fun n hn => ?_
    obtain ⟨d, -, hunits⟩ := List.mem_filterMap.1 hn
    exact hfits d n hunits
  rw [forecastProduct] at h
  simp only [filter_weekday hdated, totalUnits_div] at h
  rw [← hmean] at h
  split_ifs at h with hnone hzero
  · -- no units at all
    obtain rfl := Option.some.inj h
    have htotal : totalUnits ((windowDates date windowDays).filterMap (table p)) = 0 := by
      have hquotient := (toDigits_eq_zero (by norm_num)).1 hzero
      rcases div_eq_zero_iff.1 hquotient with h | h
      · exact_mod_cast h
      · exact (hnone (by exact_mod_cast h)).elim
    have hweekday : weekdayMean (table.units p) date windowDays = 0 := by
      rw [hmean, meanOf, div_eq_zero_iff]
      refine .inl (Nat.cast_eq_zero.2 (Nat.le_zero.1 (le_trans ?_ htotal.le)))
      exact (((List.filter_sublist.filterMap _).map _).sum_le_sum fun _ _ => Nat.zero_le _)
    rw [hweekday, hzero]
    have hrest : max (roundTo (1 / 100) (decimal (0 * 1))) 0 = 0 := by
      simp [decimal, toDigits, roundTo_zero]
    simp only [hrest]
    norm_num
  · obtain rfl := Option.some.inj h
    refine ⟨abs_predicted_sub_le hzero hnonneg hmax, fun hshort => ?_⟩
    have htwo : ((sameWeekdays date windowDays).filterMap (table.units p)).length ≤ 2 :=
      (List.length_filterMap_le _ _).trans (length_sameWeekdays_le hshort)
    obtain ⟨n, hhalves⟩ := meanOf_halves htwo
    exact predicted_eq hzero hnonneg hmax hhalves

end Prediction

/-! ## The job -/

section Job

variable {stats : DailyStatsTable} {date : Date} {windows : List ℕ} {p : ProductId} {w : ℕ}

theorem foldl_writeForecast (stats : DailyStatsTable) (date : Date) (keys : List (ProductId × ℕ))
    (state : ℕ × ForecastTable) (p : ProductId) (d : Date) (w : ℕ) :
    (keys.foldl (writeForecast stats date) state).2 p d w =
      if (p, w) ∈ keys ∧ d = date then (forecastProduct stats p date w).or (state.2 p d w)
      else state.2 p d w := by
  induction keys generalizing state with
  | nil => simp
  | cons key rest ih =>
    rw [List.foldl_cons, ih]
    have hwrite : (writeForecast stats date state key).2 p d w =
        if (p, w) = key ∧ d = date then (forecastProduct stats p date w).or (state.2 p d w)
        else state.2 p d w := by
      rw [writeForecast]
      by_cases hkey : (p, w) = key ∧ d = date
      · obtain ⟨rfl, rfl⟩ := hkey
        cases hforecast : forecastProduct stats p d w <;> simp
      · rw [if_neg hkey]
        cases hforecast : forecastProduct stats key.1 date key.2 with
        | none => rfl
        | some forecast =>
          refine if_neg fun h => hkey ⟨?_, h.2.1⟩
          rw [h.1, h.2.2]
    rw [hwrite]
    by_cases hd : d = date
    · by_cases hkey : (p, w) = key
      · -- a key that comes twice gets the same forecast again
        cases forecastProduct stats p date w <;> simp [hkey, hd]
      · simp [hkey, hd]
    · simp [hd]

/-- What the job writes: the forecasts of the available products for the day, where there are
statistics to make them from. -/
theorem generateForecasts_apply (products : List CatalogProduct) (stats : DailyStatsTable)
    (date : Date) (windows : List ℕ) (table : ForecastTable) (p : ProductId) (d : Date) (w : ℕ) :
    (generateForecasts products stats date windows table).2 p d w =
      if p ∈ productsOnSale products ∧ w ∈ windows ∧ d = date then
        (forecastProduct stats p date w).or (table p d w)
      else table p d w := by
  rw [generateForecasts, foldl_writeForecast]
  have hkeys : (p, w) ∈ (productsOnSale products).flatMap (fun p => windows.map fun w => (p, w)) ↔
      p ∈ productsOnSale products ∧ w ∈ windows := by
    simp [List.mem_flatMap]
  simp only [hkeys, and_assoc]

theorem forecastProduct_eq_none_iff :
    forecastProduct stats p date w = none ↔ ∀ d ∈ windowDates date w, stats.units p d = none := by
  have hnil : ((windowDates date w).filterMap (stats p)).length = 0 ↔
      ∀ d ∈ windowDates date w, stats.units p d = none := by
    rw [List.length_eq_zero_iff, List.filterMap_eq_nil_iff]
    exact forall₂_congr fun d _ => Option.map_eq_none_iff.symm
  rw [← hnil, forecastProduct]
  split_ifs with h <;> simp [h]

end Job

/-! ## Runs -/

section Runs

variable (midnight : Date → Time) (localHour : Time → ℕ)

/-- Runs of the job that makes the statistics, on the shop as it is then and for any dates. -/
def statsRun (runs : List (Shop × Date)) : DailyStatsTable :=
  runs.foldl (fun table run => (aggregateDailyStats midnight localHour run.1 run.2 table).2)
    fun _ _ => none

/-- The units that the last of these runs has counted which was for the date and in which the
product was sold. -/
def countedUnits (runs : List (Shop × Date)) (p : ProductId) (d : Date) : Option ℕ :=
  runs.foldl (fun counted run =>
    if run.2 = d ∧ run.1.ordersWith midnight d p ≠ [] then
      some ((run.1.soldOn midnight d p).map (·.quantity)).sum
    else counted) none

variable {midnight localHour} {table : DailyStatsTable}

/-- A row that a run leaves is one of before or has the day of the week of its date. -/
theorem isDated_aggregateDailyStats (shop : Shop) (statDate : Date) (h : table.IsDated) :
    (aggregateDailyStats midnight localHour shop statDate table).2.IsDated := by
  rw [aggregateDailyStats]
  induction (salesBuckets midnight localHour shop statDate).items generalizing table with
  | nil => exact h
  | cons entry rest ih =>
    refine ih fun p d row hrow => ?_
    rw [writeStats] at hrow
    split at hrow
    next hkey =>
      obtain rfl := Option.some.inj hrow
      exact congrArg some (congrArg weekday hkey.2.symm)
    next => exact h p d row hrow

theorem units_aggregateDailyStats (shop : Shop) (statDate : Date) (p : ProductId) (d : Date) :
    (aggregateDailyStats midnight localHour shop statDate table).2.units p d =
      if statDate = d ∧ shop.ordersWith midnight d p ≠ [] then
        some ((shop.soldOn midnight d p).map (·.quantity)).sum
      else table.units p d := by
  by_cases hdate : statDate = d
  · subst hdate
    by_cases hsold : shop.ordersWith midnight statDate p = []
    · rw [if_neg fun h => h.2 hsold, DailyStatsTable.units,
        aggregateDailyStats_unsold midnight localHour shop statDate table hsold]
      rfl
    · obtain ⟨row, hrow, hunits, -⟩ :=
        aggregateDailyStats_sold midnight localHour shop statDate table hsold
      rw [if_pos ⟨rfl, hsold⟩, DailyStatsTable.units, hrow, Option.map_some, hunits]
  · have hother : (salesBuckets midnight localHour shop statDate).items.foldl
        (writeStats statDate) table p d = table p d :=
      foldl_writeStats_of_not_mem (.inl (Ne.symm hdate)) table
    rw [if_neg fun h => hdate h.1]
    exact congrArg (Option.map _) hother

variable (midnight localHour) in
/-- After any runs the rows have the units that were counted last, and the right day of the week. -/
theorem statsRun_spec (runs : List (Shop × Date)) :
    (statsRun midnight localHour runs).IsDated ∧
      ∀ p d, (statsRun midnight localHour runs).units p d = countedUnits midnight runs p d := by
  induction runs using List.reverseRecOn with
  | nil =>
    refine ⟨fun p d row hrow => ?_, fun _ _ => rfl⟩
    exact nomatch hrow
  | append_singleton runs run ih =>
    rw [statsRun, List.foldl_append, ← statsRun]
    refine ⟨isDated_aggregateDailyStats run.1 run.2 ih.1, fun p d => ?_⟩
    rw [countedUnits, List.foldl_append, ← countedUnits]
    change (aggregateDailyStats midnight localHour run.1 run.2 _).2.units p d = _
    rw [units_aggregateDailyStats, ih.2]
    rfl

variable (midnight localHour) in
/-- However often and for whatever dates the statistics were made: the forecast for an available
product is the mean of the units that were counted for the days of the window that are of the same
day of the week, exactly if the window is shorter than three weeks, and up to a cent else. It is not
made if nothing was counted in the window. -/
theorem forecasts_of_run (runs : List (Shop × Date)) (products : List CatalogProduct) (date : Date)
    (windows : List ℕ) (table : ForecastTable) {p : ProductId} {w : ℕ}
    (havailable : p ∈ productsOnSale products) (hw : w ∈ windows)
    (hfits : ∀ d n, countedUnits midnight runs p d = some n → n ≤ maxPositiveInteger) :
    let forecasts :=
      (generateForecasts products (statsRun midnight localHour runs) date windows table).2
    if ∀ d ∈ windowDates date w, countedUnits midnight runs p d = none then
      forecasts p date w = table p date w
    else
      ∃ forecast, forecasts p date w = some forecast ∧
        |forecast.predictedUnits - weekdayMean (countedUnits midnight runs p) date w| ≤ 1 / 100 ∧
          (w < 21 →
            forecast.predictedUnits = weekdayMean (countedUnits midnight runs p) date w) := by
  obtain ⟨hdated, hunits⟩ := statsRun_spec midnight localHour runs
  have hcounted : (statsRun midnight localHour runs).units p = countedUnits midnight runs p :=
    funext (hunits p)
  have hnone : forecastProduct (statsRun midnight localHour runs) p date w = none ↔
      ∀ d ∈ windowDates date w, (statsRun midnight localHour runs).units p d = none :=
    forecastProduct_eq_none_iff
  rw [hcounted] at hnone
  simp only [generateForecasts_apply, havailable, hw, true_and, if_true, ← hnone]
  cases hforecast : forecastProduct (statsRun midnight localHour runs) p date w with
  | none => simp
  | some forecast =>
    have hnear := forecastProduct_near hdated (hcounted ▸ hfits) hforecast
    rw [hcounted] at hnear
    simpa using hnear

/-- In the coffee shop two coffees are counted for a day, and nothing else. -/
theorem countedUnits_coffee {d : Date} {n : ℕ}
    (h : countedUnits (fun d => d * minutes 1440) [(coffeeShop, 0)] 1 d = some n) : n = 2 := by
  have hd : 0 = d := by
    by_contra hne
    exact nomatch (if_neg fun h => hne h.1).symm.trans h
  subst hd
  exact Option.some.inj (h.symm.trans (show countedUnits _ _ _ _ = some 2 by decide +kernel))

/-- The same is predicted for a week later. -/
theorem forecasts_of_run_coffee :
    ∃ forecast, (generateForecasts coffeeData.products
        (statsRun (fun d => d * minutes 1440) (fun _ => 0) [(coffeeShop, 0)]) 7 [7, 14]
        fun _ _ _ => none).2 1 7 7 = some forecast ∧ forecast.predictedUnits = 2 := by
  have h := forecasts_of_run (fun d => d * minutes 1440) (fun _ => 0) [(coffeeShop, 0)]
    coffeeData.products 7 [7, 14] (fun _ _ _ => none) (p := 1) (w := 7) (by decide) (by decide)
    fun d n hn => by rw [countedUnits_coffee hn]; decide
  rw [if_neg (by decide +kernel)] at h
  obtain ⟨forecast, hforecast, -, hexact⟩ := h
  refine ⟨forecast, hforecast, (hexact (by decide)).trans ?_⟩
  decide +kernel

end Runs

end Crumbs
