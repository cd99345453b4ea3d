import Crumbs.Intelligence.Forecast

/-!
# What to Bake

For each product that is sold, the shop suggests how many to bake on a day: the forecast of the day
and a safety stock, less what is there, and no more than the day's capacity. A product for which
nothing is predicted counts as if five were.

## Contents

- `recommendForProduct`, `generateRecommendations`: the suggestion, and the job
- `forecastDemand`, `safetyStock`: what is to be covered
- `Covers`: what a suggestion promises
- `generateRecommendations_apply`: what the job writes
- `recommendations_of_run`: from the orders of the day a week before to the suggestion
-/

namespace Crumbs

open Crumbs.Db Crumbs.Num

/-! ## The job -/

/-- `ProductBakeRecommendation.Status` -/
inductive BakeStatus where
  | ok
  | lowStock
  | overstockRisk
  deriving DecidableEq, Repr

/-- A row, without the product and the date that it is found by. -/
structure ProductBakeRecommendation where
  suggestedBakeQty : ℤ
  forecastDemand : ℚ
  currentStock : ℕ
  capacityAvailable : ℕ
  status : BakeStatus
  notes : String
  deriving DecidableEq

/-- The rows by product and date. -/
abbrev BakeTable := ProductId → Date → Option ProductBakeRecommendation

/-- An inventory with the threshold that only this job reads. -/
structure StockLevel extends ProductInventory where
  lowStockThreshold : ℕ := 5
  deriving DecidableEq, Repr

/-- The tables that the job reads, besides the forecasts and what these are made from. -/
structure BakeryData where
  products : List CatalogProduct
  inventories : ProductId → Option StockLevel
  capacities : ProductId → Date → Option DailyProductionCapacity

/-- `int(…)` of a `Decimal` -/
def truncate (q : ℚ) : ℤ := if 0 ≤ q then ⌊q⌋ else ⌈q⌉

def safetyStockRatio : ℚ := 15 / 100

def overstockRatio : ℚ := 150 / 100

/-- `predicted`, after the default for days without a prediction -/
def forecastDemand (forecast : Option ProductDemandForecast) : ℤ :=
  let predicted := forecast.elim 0 fun forecast => truncate forecast.predictedUnits
  if predicted ≤ 0 then 5 else predicted

/-- `safety` -/
def safetyStock (predicted : ℤ) : ℤ := truncate (decimal (predicted * safetyStockRatio)) + 1

section Job

variable (data : BakeryData) (stats : DailyStatsTable) (recommendationDate : Date)

/-- `_recommend_for_product`, from the forecast that it has found -/
def recommendForProduct (p : ProductId) (forecast : Option ProductDemandForecast) :
    ProductBakeRecommendation :=
  let predicted := forecastDemand forecast
  let inventory := data.inventories p
  let currentStock := inventory.elim 0 fun inventory => inventory.availableQuantity
  let capacity := data.capacities p recommendationDate
  let suggested := max 0 (predicted + safetyStock predicted - currentStock)
  let lowThreshold := inventory.elim 5 (·.lowStockThreshold)
  { suggestedBakeQty := capacity.elim suggested fun capacity => min suggested capacity.availableUnits
    forecastDemand := predicted
    currentStock
    capacityAvailable := capacity.elim 0 fun capacity => capacity.availableUnits
    status :=
      if currentStock ≤ lowThreshold then .lowStock
      else if decimal (predicted * overstockRatio) < currentStock ∧ 0 < predicted then .overstockRisk
      else .ok
    notes :=
      if currentStock ≤ lowThreshold then
        s!"Current stock ({currentStock}) at or below threshold ({lowThreshold})."
      else if decimal (predicted * overstockRatio) < currentStock ∧ 0 < predicted then
        s!"Stock ({currentStock}) exceeds forecast ({predicted}) by >50%."
      else "" }

/-- The forecast for the day, with the rows after it was looked for. If there is none, the forecasts
of all products are made. -/
def forecastFor (forecasts : ForecastTable) (p : ProductId) :
    Option ProductDemandForecast × ForecastTable :=
  match forecasts p recommendationDate 7 with
  | some forecast => (some forecast, forecasts)
  | none =>
    let forecasts := (generateForecasts data.products stats recommendationDate [7] forecasts).2
    (forecasts p recommendationDate 7, forecasts)

/-- The body of the loop, with the number of suggestions so far. -/
def writeRecommendation (state : ℕ × ForecastTable × BakeTable) (p : ProductId) :
    ℕ × ForecastTable × BakeTable :=
  let (forecast, forecasts) := forecastFor data stats recommendationDate state.2.1 p
  let recommendation := recommendForProduct data recommendationDate p forecast
  (state.1 + 1, forecasts, fun q d =>
    if q = p ∧ d = recommendationDate then some recommendation else state.2.2 q d)

/-- `generate_recommendations`, with their number and the rows then -/
def generateRecommendations (forecasts : ForecastTable) (table : BakeTable) :
    ℕ × ForecastTable × BakeTable :=
  (productsOnSale data.products).foldl (writeRecommendation data stats recommendationDate)
    (0, forecasts, table)

end Job

/-! ## One suggestion -/

section Suggestion

variable {data : BakeryData} {date : Date} {p : ProductId}

theorem truncate_intCast (n : ℤ) : truncate (n : ℚ) = n := by
  rw [truncate, Int.floor_intCast, Int.ceil_intCast, ite_self]

theorem forecastDemand_pos (forecast : Option ProductDemandForecast) :
    0 < forecastDemand forecast := by
  simp only [forecastDemand]
  split
  next => decide
  next h => exact not_le.1 h

/-- Hundredths of a number of units are not rounded. -/
theorem decimal_hundredths {n m : ℤ} (hm : |m| ≤ 1000) (hn : |n| ≤ maxPositiveInteger) :
    decimal (n * (m / 100)) = n * (m / 100) := by
  refine toDigits_eq_self (k := 2) (n := n * m) ?_ ?_
  · push_cast
    ring
  · have hproduct : |n| * |m| ≤ maxPositiveInteger * 1000 :=
      mul_le_mul hn hm (abs_nonneg m) (Nat.cast_nonneg _)
    have habs : |(n : ℚ) * (m / 100)| = (|n| * |m| : ℤ) / 100 := by
      rw [abs_mul, abs_div]
      push_cast
      norm_num
      ring
    have hle : ((|n| * |m| : ℤ) : ℚ) ≤ maxPositiveInteger * 1000 := by exact_mod_cast hproduct
    rw [habs]
    calc ((|n| * |m| : ℤ) : ℚ) / 100 ≤ maxPositiveInteger * 1000 / 100 := by gcongr
      _ < 10 ^ ((28 : ℕ) - (2 : ℕ) : ℤ) := by norm_num [maxPositiveInteger]

/-- The safety stock is the least number of units above 15 percent. -/
theorem safetyStock_spec {n : ℤ} (hpos : 0 < n) (hn : n ≤ maxPositiveInteger) :
    15 * n < 100 * safetyStock n ∧ 100 * safetyStock n ≤ 15 * n + 100 := by
  have hexact : decimal (n * safetyStockRatio) = n * (15 / 100) :=
    decimal_hundredths (m := 15) (by norm_num) (by rwa [abs_of_pos hpos])
  have hnonneg : (0 : ℚ) ≤ n * (15 / 100) := by positivity
  have hfloor := Int.floor_le ((n : ℚ) * (15 / 100))
  have hlt := Int.lt_floor_add_one ((n : ℚ) * (15 / 100))
  rw [safetyStock, hexact, truncate, if_pos hnonneg]
  constructor
  · have hcast : (15 * n : ℚ) < 100 * (⌊(n : ℚ) * (15 / 100)⌋ + 1) := by linarith
    exact_mod_cast hcast
  · have hcast : (100 * (⌊(n : ℚ) * (15 / 100)⌋ + 1) : ℚ) ≤ 15 * n + 100 := by linarith
    exact_mod_cast hcast

/-- What a suggestion promises for a demand: it never leads over the capacity, it covers the demand
and 15 percent more unless all that is left of the capacity is baked, it bakes no unit that this does
not need, and it warns if there is little on stock, or much more than the demand. -/
structure Covers (data : BakeryData) (date : Date) (p : ProductId) (demand : ℤ)
    (recommendation : ProductBakeRecommendation) : Prop where
  forecast : recommendation.forecastDemand = demand
  onStock : recommendation.currentStock =
    (data.inventories p).elim 0 fun inventory => inventory.availableQuantity
  nonneg : 0 ≤ recommendation.suggestedBakeQty
  capacity : ∀ capacity, data.capacities p date = some capacity →
    recommendation.suggestedBakeQty ≤ capacity.availableUnits
  covered : 115 * demand < 100 * ((recommendation.currentStock : ℤ) + recommendation.suggestedBakeQty) ∨
    ∃ capacity, data.capacities p date = some capacity ∧
      recommendation.suggestedBakeQty = capacity.availableUnits
  needed : 0 < recommendation.suggestedBakeQty →
    100 * ((recommendation.currentStock : ℤ) + recommendation.suggestedBakeQty) ≤ 115 * demand + 100
  low : recommendation.status = .lowStock ↔ recommendation.currentStock ≤
    (data.inventories p).elim 5 (·.lowStockThreshold)
  excess : recommendation.status = .overstockRisk ↔
    (data.inventories p).elim 5 (·.lowStockThreshold) < recommendation.currentStock ∧
      3 * demand < 2 * recommendation.currentStock

theorem recommendForProduct_covers (forecast : Option ProductDemandForecast)
    (hn : forecastDemand forecast ≤ maxPositiveInteger) :
    Covers data date p (forecastDemand forecast) (recommendForProduct data date p forecast) := by
  have hpos := forecastDemand_pos forecast
  obtain ⟨hlower, hupper⟩ := safetyStock_spec hpos hn
  have hover : decimal (forecastDemand forecast * overstockRatio) =
      forecastDemand forecast * (150 / 100) :=
    decimal_hundredths (m := 150) (by norm_num) (by rwa [abs_of_pos hpos])
  have hratio (stock : ℕ) : decimal (forecastDemand forecast * overstockRatio) < stock ↔
      3 * forecastDemand forecast < 2 * stock := by
    rw [hover]
    constructor
    · intro h
      have hcast : (3 * forecastDemand forecast : ℚ) < 2 * stock := by linarith
      exact_mod_cast hcast
    · intro h
      have hcast : (3 * forecastDemand forecast : ℚ) < 2 * stock := by exact_mod_cast h
      linarith
  generalize hdemand : forecastDemand forecast = demand at *
  refine
    { forecast := by rw [recommendForProduct, hdemand]
      onStock := rfl, nonneg := ?_, capacity := ?_, covered := ?_, needed := ?_, low := ?_,
      excess := ?_ } <;> simp only [recommendForProduct, hdemand, hratio]
  · cases data.capacities p date <;> simp
  · intro capacity hcapacity
    simp [hcapacity]
  · cases hcapacity : data.capacities p date with
    | none =>
      simp only [Option.elim_none]
      left
      omega
    | some capacity =>
      simp only [Option.elim_some, Option.some.injEq, exists_eq_left']
      omega
  · cases data.capacities p date <;> simp only [Option.elim_none, Option.elim_some] <;> omega
  · split_ifs <;> simp_all
  · split_ifs <;> simp_all

end Suggestion

/-! ## The loop -/

section Loop

variable {data : BakeryData} {stats : DailyStatsTable} {date : Date} {forecasts : ForecastTable}
  {p : ProductId}

/-- Forecasts that are there for the day were made from the statistics as they are now. -/
def IsFresh (stats : DailyStatsTable) (date : Date) (forecasts : ForecastTable) : Prop :=
  ∀ p forecast, forecasts p date 7 = some forecast → forecastProduct stats p date 7 = some forecast

theorem isFresh_generateForecasts (h : IsFresh stats date forecasts) (products : List CatalogProduct)
    (windows : List ℕ) :
    IsFresh stats date (generateForecasts products stats date windows forecasts).2 := by
  intro p forecast hforecast
  rw [generateForecasts_apply] at hforecast
  split at hforecast
  next =>
    cases hmade : forecastProduct stats p date 7 with
    | some made =>
      rw [hmade] at hforecast
      exact hforecast
    | none =>
      rw [hmade] at hforecast
      exact hmade.symm.trans (h p forecast hforecast)
  next => exact h p forecast hforecast

/-- The loop finds the forecast that the statistics give, whether it was there or not. -/
theorem forecastFor_fresh (h : IsFresh stats date forecasts)
    (havailable : p ∈ productsOnSale data.products) :
    (forecastFor data stats date forecasts p).1 = forecastProduct stats p date 7 ∧
      IsFresh stats date (forecastFor data stats date forecasts p).2 := by
  rw [forecastFor]
  cases hfound : forecasts p date 7 with
  | some forecast => exact ⟨(h p forecast hfound).symm, h⟩
  | none =>
    refine ⟨?_, isFresh_generateForecasts h data.products [7]⟩
    simp [generateForecasts_apply, havailable, hfound]

theorem foldl_writeRecommendation (products : List ProductId) (state : ℕ × ForecastTable × BakeTable)
    (hproducts : ∀ q ∈ products, q ∈ productsOnSale data.products)
    (h : IsFresh stats date state.2.1) (p : ProductId) (d : Date) :
    (products.foldl (writeRecommendation data stats date) state).2.2 p d =
      if p ∈ products ∧ d = date then
        some (recommendForProduct data date p (forecastProduct stats p date 7))
      else state.2.2 p d := by
  induction products generalizing state with
  | nil => simp
  | cons q rest ih =>
    obtain ⟨hforecast, hfresh⟩ := forecastFor_fresh h (hproducts q List.mem_cons_self)
    rw [List.foldl_cons, ih _ (fun q' hq' => hproducts q' (List.mem_cons_of_mem q hq')) hfresh]
    simp only [writeRecommendation, hforecast, List.mem_cons]
    by_cases hrest : p ∈ rest ∧ d = date
    · rw [if_pos hrest, if_pos ⟨.inr hrest.1, hrest.2⟩]
    · rw [if_neg hrest]
      by_cases hq : p = q ∧ d = date
      · rw [if_pos hq, if_pos ⟨.inl hq.1, hq.2⟩, hq.1]
      · rw [if_neg hq, if_neg]
        rintro ⟨rfl | hp, hd⟩
        · exact hq ⟨rfl, hd⟩
        · exact hrest ⟨hp, hd⟩

/-- What the job writes: a suggestion for each available product, for the day. -/
theorem generateRecommendations_apply (h : IsFresh stats date forecasts) (table : BakeTable)
    (p : ProductId) (d : Date) :
    (generateRecommendations data stats date forecasts table).2.2 p d =
      if p ∈ productsOnSale data.products ∧ d = date then
        some (recommendForProduct data date p (forecastProduct stats p date 7))
      else table p d :=
  foldl_writeRecommendation _ (0, forecasts, table) (fun _ hq => hq) h p d

end Loop

/-! ## From the orders to the suggestion -/

/-- In a week a day of the week comes once. -/
theorem weekdayMean_seven (counted : Date → Option ℕ) (date : Date) :
    weekdayMean counted date 7 = ((counted (date - 7)).getD 0 : ℕ) := by
  have hsame : sameWeekdays date 7 = [date - 7] := by
    have hdays : windowDates date 7 = [date - 7, date - 6, date - 5, date - 4, date - 3, date - 2,
        date - 1] := by
      simp only [windowDates, List.range, List.range.loop, List.map_cons, List.map_nil]
      congr 1 <;> push_cast <;> ring_nf
    have hother (k : ℤ) (hk : 1 ≤ k ∧ k ≤ 6) : weekday (date - k) ≠ weekday date := by
      unfold weekday
      omega
    have hseven : weekday (date - 7) = weekday date := by
      unfold weekday
      omega
    simp [sameWeekdays, hdays, hseven, hother]
  rw [weekdayMean, hsame]
  cases hcounted : counted (date - 7) <;> simp [meanOf, hcounted]

section Runs

variable (midnight : Date → Time) (localHour : Time → ℕ)

/-- However often and for whatever dates the statistics were made: the job suggests for each
available product what covers the units that were counted for the day a week before, or five if none
were, and leaves the suggestions for other days and products. -/
theorem recommendations_of_run (runs : List (Shop × Date)) (data : BakeryData) (date : Date)
    (forecasts : ForecastTable) (table : BakeTable)
    (hfresh : IsFresh (statsRun midnight localHour runs) date forecasts) (p : ProductId)
    (hfits : ∀ d n, countedUnits midnight runs p d = some n → n ≤ maxPositiveInteger) (d : Date) :
    let recommendations := (generateRecommendations data (statsRun midnight localHour runs) date
      forecasts table).2.2
    let sold := (countedUnits midnight runs p (date - 7)).getD 0
    if p ∈ productsOnSale data.products ∧ d = date then
      ∃ recommendation, recommendations p d = some recommendation ∧
        Covers data date p (if sold = 0 then 5 else sold) recommendation
    else recommendations p d = table p d := by
  simp only [generateRecommendations_apply hfresh]
  split
  · refine ⟨_, rfl, ?_⟩
    obtain ⟨hdated, hunits⟩ := statsRun_spec midnight localHour runs
    have hcounted : (statsRun midnight localHour runs).units p = countedUnits midnight runs p :=
      funext (hunits p)
    have hdemand : forecastDemand (forecastProduct (statsRun midnight localHour runs) p date 7) =
        if (countedUnits midnight runs p (date - 7)).getD 0 = 0 then 5
        else ((countedUnits midnight runs p (date - 7)).getD 0 : ℤ) := by
      cases hforecast : forecastProduct (statsRun midnight localHour runs) p date 7 with
      | none =>
        -- nothing was counted in the week, nor on its first day
        have hnone := forecastProduct_eq_none_iff.1 hforecast (date - 7)
          (List.mem_map.2 ⟨0, by decide, by simp⟩)
        rw [hcounted] at hnone
        rw [hnone]
        rfl
      | some forecast =>
        have hexact := (forecastProduct_near hdated (hcounted ▸ hfits) hforecast).2 (by decide)
        rw [hcounted, weekdayMean_seven] at hexact
        have htruncate (n : ℕ) : truncate (n : ℚ) = n := by exact_mod_cast truncate_intCast n
        simp only [forecastDemand, Option.elim_some, hexact, htruncate]
        refine if_congr ?_ rfl rfl
        omega
    rw [← hdemand]
    refine recommendForProduct_covers _ ?_
    rw [hdemand]
    cases hlast : countedUnits midnight runs p (date - 7) with
    | none => decide
    | some n =>
      have hn : (n : ℤ) ≤ maxPositiveInteger := by exact_mod_cast hfits _ n hlast
      rw [Option.getD_some]
      split
      · decide
      · exact hn
  · rfl

/-- A week after two coffees were sold, three are suggested for a shelf without any. -/
theorem recommendations_of_run_coffee :
    ∃ recommendation, (generateRecommendations
        { products := coffeeData.products, inventories := fun _ => none,
          capacities := fun _ _ => none }
        (statsRun (fun d => d * minutes 1440) (fun _ => 0) [(coffeeShop, 0)]) 7
        (fun _ _ _ => none) fun _ _ => none).2.2 1 7 = some recommendation ∧
      Covers
        { products := coffeeData.products, inventories := fun _ => none,
          capacities := fun _ _ => none } 7 1 2 recommendation := by
  have h := recommendations_of_run (fun d => d * minutes 1440) (fun _ => 0) [(coffeeShop, 0)]
    { products := coffeeData.products, inventories := fun _ => none, capacities := fun _ _ => none }
    7 (fun _ _ _ => none) (fun _ _ => none) (fun _ _ h => nomatch h) 1
    (fun d n hn => by rw [countedUnits_coffee hn]; decide) 7
  have hsold : (countedUnits (fun d => d * minutes 1440) [(coffeeShop, 0)] 1 (7 - 7)).getD 0 = 2 := by
    decide +kernel
  rw [if_pos (by decide), hsold] at h
  exact h

end Runs

end Crumbs
