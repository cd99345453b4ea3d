import Crumbs.Db.Counters
import Crumbs.Inventory.Sales
import Crumbs.Writes.Runs

/-!
# The Shelf and the Days

What is handed over leaves the stock of its product and is entered as fulfilled on the day that it
was booked for. The two columns are in different tables and written in different statements, and
nothing but handing over writes either of them. So whatever the shop does, the stock of a product and
the fulfilled units of its days have one sum, although there is no last day.

## Contents

- `Stock.fulfilledUnits`: the fulfilled units of a day
- `Stock.Delivers`: what the days have gained is what the stock has lost
- `Stock.KeepsCapacities`: what can be produced on a day stays as it is
- `Section.Ran.delivers`, `Step.delivers`: every section and every step delivers like that
- `stock_of_run`: the ledger, the capacities and the stock over a run of the whole system
-/

namespace Crumbs

open Crumbs.Db

/-! ## Stock and days -/

namespace Stock

/-- `fulfilled_units` of a day; a row that is not there yet will start from zero. -/
def fulfilledUnits (s : Stock) (p : ProductId) (d : Date) : ℕ :=
  (s.capacities p d).elim 0 (·.fulfilledUnits)

/-- The days of `p` have gained what its stock has lost. -/
def Delivers (p : ProductId) (s s' : Stock) : Prop :=
  ∃ n, GrowsBy n (s.fulfilledUnits p) (s'.fulfilledUnits p) ∧
    (s'.inventory p).stockQuantity + n = (s.inventory p).stockQuantity

/-- What can be produced on the days that are known stays as it is. -/
def KeepsCapacities (s s' : Stock) : Prop :=
  ∀ p d cap, s.capacities p d = some cap →
    ∃ cap', s'.capacities p d = some cap' ∧ cap'.maxUnits = cap.maxUnits

theorem KeepsCapacities.refl (s : Stock) : s.KeepsCapacities s := fun _ _ cap h => ⟨cap, h, rfl⟩

theorem KeepsCapacities.trans {s s' s'' : Stock} (h : s.KeepsCapacities s')
    (h' : s'.KeepsCapacities s'') : s.KeepsCapacities s'' := by
  intro p d cap hcap
  obtain ⟨cap', hcap', hmax⟩ := h p d cap hcap
  obtain ⟨cap'', hcap'', hmax'⟩ := h' p d cap' hcap'
  exact ⟨cap'', hcap'', hmax'.trans hmax⟩

end Stock

section Sections

variable {s s' s'' : Stock} {p : ProductId} {i : ReservationId} {r : StockReservation}
  {sec : Section} {obs : List Observation}

theorem Stock.Delivers.refl (p : ProductId) (s : Stock) : s.Delivers p s := ⟨0, .refl _, rfl⟩

theorem Stock.Delivers.trans (h : s.Delivers p s') (h' : s'.Delivers p s'') : s.Delivers p s'' := by
  obtain ⟨n, hdays, hstock⟩ := h
  obtain ⟨n', hdays', hstock'⟩ := h'
  exact ⟨n + n', hdays.trans hdays', by omega⟩

/-- The counters that other writes leave alone. -/
theorem Stock.Delivers.of_eq (hdays : s'.fulfilledUnits p = s.fulfilledUnits p)
    (hstock : (s'.inventory p).stockQuantity = (s.inventory p).stockQuantity) : s.Delivers p s' :=
  ⟨0, .of_eq hdays, hstock⟩

theorem fulfilledUnits_touch (h : s.Touches s') : s'.fulfilledUnits p = s.fulfilledUnits p := by
  funext d
  rw [Stock.fulfilledUnits, Stock.fulfilledUnits]
  rcases h.capacities p d with hsame | ⟨hnone, maxUnits, hnew⟩
  · rw [hsame]
  · rw [hnone, hnew]
    rfl

/-- A write to a day that leaves its fulfilled units. -/
theorem fulfilledUnits_update {q : ProductId} {d : Date}
    {f : DailyProductionCapacity → DailyProductionCapacity}
    (h : s'.capacities = (s.updateCapacity q d f).capacities)
    (hf : ∀ cap, (f cap).fulfilledUnits = cap.fulfilledUnits) :
    s'.fulfilledUnits p = s.fulfilledUnits p := by
  funext e
  rw [Stock.fulfilledUnits, h, Stock.capacities_updateCapacity]
  split
  next heq =>
    obtain ⟨rfl, rfl⟩ := heq
    rw [Stock.fulfilledUnits]
    cases s.capacities p e with
    | none => rfl
    | some cap => exact hf cap
  next => rfl

theorem keepsCapacities_touch (h : s.Touches s') : s.KeepsCapacities s' := by
  intro q d cap hcap
  rcases h.capacities q d with hsame | ⟨hnone, -, -⟩
  · exact ⟨cap, hsame.trans hcap, rfl⟩
  · exact nomatch hnone.symm.trans hcap

/-- A write to a day that leaves what can be produced on it. -/
theorem keepsCapacities_update {q : ProductId} {d : Date}
    {f : DailyProductionCapacity → DailyProductionCapacity}
    (h : s'.capacities = (s.updateCapacity q d f).capacities)
    (hf : ∀ cap, (f cap).maxUnits = cap.maxUnits) : s.KeepsCapacities s' := by
  intro q' e cap hcap
  rw [h, Stock.capacities_updateCapacity]
  split
  next heq =>
    obtain ⟨rfl, rfl⟩ := heq
    exact ⟨f cap, congrArg (Option.map f) hcap, hf cap⟩
  next => exact ⟨cap, hcap, rfl⟩

/-- Handing over is entered on the day of the reservation. -/
theorem fulfilledUnits_consume {cap : DailyProductionCapacity}
    (hcap : s.capacities r.product r.productionDate = some cap) :
    GrowsBy (unitsOf p [r]) (s.fulfilledUnits p)
      ((s.consume i r (cap.fulfilledUnits + r.quantity)).fulfilledUnits p) := by
  have hrow (d : Date) : (s.consume i r (cap.fulfilledUnits + r.quantity)).fulfilledUnits p d =
      if p = r.product ∧ d = r.productionDate then cap.fulfilledUnits + r.quantity
      else s.fulfilledUnits p d := by
    rw [Stock.fulfilledUnits, capacities_consume, Stock.capacities_updateCapacity]
    split
    · rw [hcap]
      rfl
    · rfl
  have hunits : unitsOf p [r] = if r.product = p then r.quantity else 0 := by
    rw [unitsOf, List.map_singleton, List.sum_singleton]
  rw [hunits]
  by_cases hp : r.product = p
  · subst hp
    rw [if_pos rfl]
    refine .single (i := r.productionDate) ?_ fun d hd => ?_
    · rw [hrow, if_pos ⟨rfl, rfl⟩, Stock.fulfilledUnits, hcap]
      rfl
    · rw [hrow, if_neg fun h => hd h.2]
  · rw [if_neg hp]
    refine .of_eq (funext fun d => ?_)
    rw [hrow, if_neg fun h => hp h.1.symm]

/-- Every section of a transaction delivers what it takes. -/
theorem Section.Ran.delivers (hc : Covered p s) (h : sec.Ran s obs s') : s.Delivers p s' := by
  have hstock := (h.respects hc).stock
  cases h.effect with
  | touch htouch => exact .of_eq (fulfilledUnits_touch htouch) hstock
  | reserve r htouch hstatus =>
    refine .of_eq ?_ hstock
    exact (fulfilledUnits_update capacities_hold fun _ => rfl).trans (fulfilledUnits_touch htouch)
  | release i r hrow hlive =>
    exact .of_eq (fulfilledUnits_update (capacities_release _) fun _ => rfl) hstock
  | expire i r hrow hlive =>
    exact .of_eq (fulfilledUnits_update (capacities_release _) fun _ => rfl) hstock
  | confirm i r hrow hactive => exact .of_eq rfl hstock
  | fulfill i r htouch hrow hconfirmed hinv hcap =>
    have hrow₀ : s.reservations.rows i = some r := by rw [← htouch.reservations, hrow]
    rw [show Section.handedOver s (.fulfill i) = [r] by simp [Section.handedOver, hrow₀]] at hstock
    refine ⟨unitsOf p [r], ?_, hstock⟩
    rw [← fulfilledUnits_touch htouch]
    exact fulfilledUnits_consume hcap

/-- No section changes what can be produced on a day. -/
theorem Section.Ran.keepsCapacities (h : sec.Ran s obs s') : s.KeepsCapacities s' := by
  cases h.effect with
  | touch htouch => exact keepsCapacities_touch htouch
  | reserve r htouch hstatus =>
    exact (keepsCapacities_touch htouch).trans
      (keepsCapacities_update capacities_hold fun _ => rfl)
  | release i r hrow hlive => exact keepsCapacities_update (capacities_release _) fun _ => rfl
  | expire i r hrow hlive => exact keepsCapacities_update (capacities_release _) fun _ => rfl
  | confirm i r hrow hactive => exact .refl s
  | fulfill i r htouch hrow hconfirmed hinv hcap =>
    exact (keepsCapacities_touch htouch).trans
      (keepsCapacities_update (capacities_consume _) fun _ => rfl)

theorem Sections.keepsCapacities (h : Sections s obs s') : s.KeepsCapacities s' := by
  induction h with
  | refl => exact .refl _
  | tail _ hran ih => exact ih.trans hran.keepsCapacities

theorem Sections.delivers (hc : Covered p s) (h : Sections s obs s') :
    Covered p s' ∧ s.Delivers p s' := by
  induction h with
  | refl => exact ⟨hc, .refl p _⟩
  | tail _ hran ih =>
    obtain ⟨hcovered, hdelivers⟩ := ih
    exact ⟨(hran.respects hcovered).covered, hdelivers.trans (hran.delivers hcovered)⟩

end Sections

/-! ## Runs of the system -/

/-- What the inventory tables look like after some work, and how they got there. -/
structure Stock.Sound (s s' : Stock) : Prop where
  ledger : Ledger s'
  evolves : s.Evolves s'
  capacities : s.KeepsCapacities s'
  covered : ∀ p, Covered p s → Covered p s'
  delivers : ∀ p, Covered p s → s.Delivers p s'

section Runs

variable {s s' s'' : Stock}

theorem Stock.Sound.refl (h : Ledger s) : s.Sound s :=
  ⟨h, .refl s, .refl s, fun _ => id, fun p _ => .refl p s⟩

theorem Stock.Sound.trans (h : s.Sound s') (h' : s'.Sound s'') : s.Sound s'' where
  ledger := h'.ledger
  evolves := h.evolves.trans h'.evolves
  capacities := h.capacities.trans h'.capacities
  covered p hc := h'.covered p (h.covered p hc)
  delivers p hc := (h.delivers p hc).trans (h'.delivers p (h.covered p hc))

/-- Every write to the shop: those outside the inventory leave it alone. -/
theorem Shop.Write.sound {q : Prop} {shop shop' : Shop} (h : Shop.Write q shop shop')
    (hl : Ledger shop.stock) : shop.stock.Sound shop'.stock := by
  cases h with
  | stock stock obs hsections =>
    obtain ⟨hledger, -, hevolves⟩ := hsections.ledger hl
    exact ⟨hledger, hevolves, hsections.keepsCapacities, fun p hc => (hsections.delivers hc).1,
      fun p hc => (hsections.delivers hc).2⟩
  | touch stock htouch =>
    exact ⟨hl.touch htouch, htouch.evolves, keepsCapacities_touch htouch,
      fun p hc => hc.touch htouch, fun p _ => .of_eq (fulfilledUnits_touch htouch) (by rw [htouch.inventory])⟩
  | _ => exact .refl hl

/-- Whatever a step runs, and also if it raises. -/
theorem Step.sound (step : Step) {db : Database} (hl : Ledger db.shop.stock) :
    db.shop.stock.Sound (step.exec db).db.shop.stock := by
  have hwrites := step.exec_writes db
  generalize (step.exec db).db.shop = shop' at hwrites ⊢
  induction hwrites with
  | refl => exact .refl hl
  | tail _ hlast ih => exact ih.trans (hlast.sound ih.ledger)

/-- Over every run of the system: the reserved quantities and units are the sums of the live
    reservations, no day is booked beyond its capacity, the capacities of known days stay, and the
    stock of a product that covers its reservations goes on to cover them and falls by what its days
    have gained. -/
theorem stock_of_run (db : Database) (run : List Step) (hl : Ledger db.shop.stock) :
    db.shop.stock.Sound (after db run).shop.stock :=
  inv_after (I := fun db' => db.shop.stock.Sound db'.shop.stock) run (.refl hl)
    fun _ step h => h.trans (step.sound h.ledger)

/-- In the corner shop an order is paid at the counter, packaged and handed over. -/
theorem stock_of_run_counter : cornerShop.shop.stock.Sound (after cornerShop
    [cornerCounterCheckout, cornerCall (.markCounterCashReceived 0 0 "cashier"),
      cornerCall (.transition 0 .packaged "" "admin"),
      cornerCall (.transition 0 .outForDelivery "" "admin"),
      cornerCall (.completeDelivery 0 "admin")]).shop.stock := by
  refine stock_of_run cornerShop _ ⟨fun p => ?_, fun p d => rfl⟩
  rintro -
  by_cases hp : p = 0
  · subst hp
    rfl
  · unfold Stock.inventory
    rw [show cornerShop.shop.stock.inventories p = none from if_neg hp]
    rfl

end Runs

end Crumbs
