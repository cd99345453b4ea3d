import Crumbs.Inventory.Sections

/-!
# The Inventory Ledger

Two counters say how many units are spoken for: `reserved_quantity` of a product and
`reserved_units` of a product's day. Both are sums over the live reservations, and every
section of the inventory services keeps them so.

## Contents

- `QuantityLedger`, `UnitsLedger`, `Ledger`: the counters are the sums. A product or a day
  without a row counts with the row that `get_or_create` would insert
- `Section.Ran.ledger`: one section keeps the ledger and cuts nothing off at zero
- `InventoryCall`, `runCalls`: runs of the inventory services, failed calls included
- `ledger_of_run`: the ledger over a run
-/

namespace Crumbs

open Crumbs.Db

/-! ## The ledger -/

namespace StockReservation

/-- What a reservation adds to the reserved quantity of `p`. -/
def liveQuantity (p : ProductId) (r : StockReservation) : ℕ :=
  if r.isLive ∧ r.product = p then r.quantity else 0

/-- What a reservation adds to the reserved units of `p` on the day `d`. -/
def liveUnits (p : ProductId) (d : Date) (r : StockReservation) : ℕ :=
  if r.isLive ∧ r.product = p ∧ r.productionDate = d then r.quantity else 0

end StockReservation

open StockReservation

/-- If `p` is tracked, its reserved quantity is the sum over its live reservations. -/
def QuantityLedger (s : Stock) (p : ProductId) : Prop :=
  (s.inventory p).trackStock →
    (s.inventory p).reservedQuantity = s.reservations.total (liveQuantity p)

/-- The reserved units of a day are the sum over its live reservations. -/
def UnitsLedger (s : Stock) (p : ProductId) (d : Date) : Prop :=
  s.reservedUnits p d = s.reservations.total (liveUnits p d)

/-- The counters of tracked products and of all days are the sums over the live
    reservations. -/
structure Ledger (s : Stock) : Prop where
  quantity : ∀ p, QuantityLedger s p
  units : ∀ p d, UnitsLedger s p d

/-- A day is not booked beyond what can be produced. -/
def WithinCapacity (s : Stock) (p : ProductId) (d : Date) : Prop :=
  ∀ cap, s.capacities p d = some cap → cap.reservedUnits + cap.fulfilledUnits ≤ cap.maxUnits

/-- The clamp left the difference as it was. -/
def Observation.Exact : Observation → Prop
  | .clamped (.reservedQuantity _) value quantity => quantity ≤ value
  | .clamped (.reservedUnits _ _) value quantity => quantity ≤ value
  | _ => True

/-- Reservations stay, and none becomes live again; no day is overbooked by the way. -/
structure Stock.Evolves (s s' : Stock) : Prop where
  reservations : ∀ i r, s.reservations.rows i = some r → ∃ r', s'.reservations.rows i = some r' ∧
    (r'.isLive → r.isLive)
  capacities : ∀ p d, WithinCapacity s p d → WithinCapacity s' p d

theorem Stock.Evolves.refl (s : Stock) : s.Evolves s :=
  ⟨fun _ r h => ⟨r, h, id⟩, fun _ _ h => h⟩

theorem Stock.Evolves.trans {s s' s'' : Stock} (h : s.Evolves s') (h' : s'.Evolves s'') :
    s.Evolves s'' := by
  refine ⟨fun i r hr => ?_, fun p d hp => h'.capacities p d (h.capacities p d hp)⟩
  obtain ⟨r', hr', hlive⟩ := h.reservations i r hr
  obtain ⟨r'', hr'', hlive'⟩ := h'.reservations i r' hr'
  exact ⟨r'', hr'', hlive ∘ hlive'⟩

/-! ## Counters after a write -/

section Counters

variable {s : Stock} {p : ProductId} {d : Date} {i : ReservationId} {r : StockReservation}

theorem inventory_updateInventory (f : ProductInventory → ProductInventory) (q : ProductId) :
    (s.updateInventory q f).inventory p =
      if p = q ∧ s.inventories q ≠ none then f (s.inventory q) else s.inventory p := by
  by_cases h : p = q
  · subst h
    cases hrow : s.inventories p <;>
      simp [Stock.inventory, Stock.inventories_updateInventory, hrow]
  · simp [Stock.inventory, Stock.inventories_updateInventory, h]

theorem reservedUnits_updateCapacity (f : DailyProductionCapacity → DailyProductionCapacity)
    (q : ProductId) (e : Date) : (s.updateCapacity q e f).reservedUnits p d =
      if p = q ∧ d = e then (s.capacities q e).elim 0 fun cap => (f cap).reservedUnits
      else s.reservedUnits p d := by
  by_cases h : p = q ∧ d = e
  · rw [if_pos h, Stock.reservedUnits, Stock.capacities_updateCapacity, if_pos h]
    cases s.capacities q e <;> rfl
  · rw [if_neg h, Stock.reservedUnits, Stock.capacities_updateCapacity, if_neg h]
    rfl

@[simp] theorem inventory_updateCapacity (q : ProductId) (e : Date)
    (f : DailyProductionCapacity → DailyProductionCapacity) :
    (s.updateCapacity q e f).inventory p = s.inventory p := rfl

@[simp] theorem inventory_updateReservation (f : StockReservation → StockReservation) :
    (s.updateReservation i f).inventory p = s.inventory p := rfl

@[simp] theorem inventory_setAvailability (q : ProductId) (a : AvailabilityStatus) :
    (s.setAvailability q a).inventory p = s.inventory p := rfl

@[simp] theorem inventory_closeSoldOut (q : ProductId) :
    (s.closeSoldOut q).inventory p = s.inventory p := by
  unfold Stock.closeSoldOut
  split <;> rfl

@[simp] theorem capacities_closeSoldOut (q : ProductId) :
    (s.closeSoldOut q).capacities = s.capacities := by
  unfold Stock.closeSoldOut
  split <;> rfl

theorem inventory_hold (hinv : s.inventories r.product ≠ none) : (s.hold r).inventory p =
    if p = r.product ∧ (s.inventory r.product).trackStock then
      { s.inventory p with reservedQuantity := (s.inventory p).reservedQuantity + r.quantity }
    else s.inventory p := by
  unfold Stock.hold
  by_cases ht : (s.inventory r.product).trackStock
  · simp only [ht, if_true, and_true]
    refine (inventory_updateInventory _ _).trans ?_
    by_cases hp : p = r.product
    · subst hp
      rw [if_pos rfl, if_pos ⟨rfl, hinv⟩]
      rfl
    · rw [if_neg hp, if_neg fun h => hp h.1]
      rfl
  · simp only [if_neg ht]
    rw [if_neg fun h => ht h.2]
    rfl

theorem inventory_returnUnits : (s.returnUnits r).inventory p =
    if p = r.product ∧ (s.inventory r.product).trackStock then
      { s.inventory p with reservedQuantity := (s.inventory p).reservedQuantity - r.quantity }
    else s.inventory p := by
  unfold Stock.returnUnits
  by_cases ht : (s.inventory r.product).trackStock
  · rw [if_pos ht, inventory_updateInventory]
    by_cases hp : p = r.product
    · subst hp
      -- without a row there is nothing to subtract from
      simp only [ht, true_and, and_true, if_true]
      cases hrow : s.inventories r.product <;> simp [Stock.inventory, hrow]
    · rw [if_neg fun h => hp h.1, if_neg fun h => hp h.1]
  · rw [if_neg ht, if_neg fun h => ht h.2]

theorem inventory_release (status : ReservationStatus) : (s.release i r status).inventory p =
    if p = r.product ∧ (s.inventory r.product).trackStock then
      { s.inventory p with reservedQuantity := (s.inventory p).reservedQuantity - r.quantity }
    else s.inventory p := by
  rw [Stock.release, inventory_updateReservation, Stock.returnCapacity, inventory_updateCapacity,
    inventory_returnUnits]

theorem inventory_consume (hinv : s.inventories r.product ≠ none) (n : ℕ) :
    (s.consume i r n).inventory p =
      if p = r.product ∧ (s.inventory r.product).trackStock then
        { s.inventory p with
          stockQuantity := (s.inventory p).stockQuantity - r.quantity
          reservedQuantity := (s.inventory p).reservedQuantity - r.quantity }
      else s.inventory p := by
  rw [Stock.consume, inventory_closeSoldOut, inventory_updateReservation, inventory_updateCapacity,
    Stock.takeUnits]
  by_cases ht : (s.inventory r.product).trackStock
  · rw [if_pos ht, inventory_updateInventory]
    by_cases hp : p = r.product
    · subst hp
      rw [if_pos ⟨rfl, hinv⟩, if_pos ⟨rfl, ht⟩]
    · rw [if_neg fun h => hp h.1, if_neg fun h => hp h.1]
  · rw [if_neg ht, if_neg fun h => ht h.2]

@[simp] theorem capacities_hold : (s.hold r).capacities = (s.updateCapacity r.product
    r.productionDate ({ · with
      reservedUnits := s.reservedUnits r.product r.productionDate + r.quantity })).capacities := by
  unfold Stock.hold
  split <;> rfl

@[simp] theorem capacities_release (status : ReservationStatus) :
    (s.release i r status).capacities = (s.returnCapacity r).capacities := by
  rw [Stock.release, Stock.capacities_updateReservation, Stock.returnCapacity,
    Stock.updateCapacity, capacities_returnUnits, Stock.reservedUnits, capacities_returnUnits]
  rfl

@[simp] theorem capacities_takeUnits : (s.takeUnits r).capacities = s.capacities := by
  unfold Stock.takeUnits
  split <;> rfl

@[simp] theorem capacities_consume (n : ℕ) : (s.consume i r n).capacities =
    (s.updateCapacity r.product r.productionDate ({ · with
      fulfilledUnits := n
      reservedUnits := s.reservedUnits r.product r.productionDate - r.quantity })).capacities := by
  rw [Stock.consume, capacities_closeSoldOut, Stock.capacities_updateReservation,
    Stock.updateCapacity, capacities_takeUnits]
  rfl

/-- Only the counters of the reservation's own day move. -/
theorem reservedUnits_hold {cap : DailyProductionCapacity}
    (hcap : s.capacities r.product r.productionDate = some cap) : (s.hold r).reservedUnits p d =
      s.reservedUnits p d + if r.product = p ∧ r.productionDate = d then r.quantity else 0 := by
  rw [Stock.reservedUnits, capacities_hold, ← Stock.reservedUnits, reservedUnits_updateCapacity]
  by_cases h : p = r.product ∧ d = r.productionDate
  · obtain ⟨rfl, rfl⟩ := h
    rw [if_pos ⟨rfl, rfl⟩, if_pos ⟨rfl, rfl⟩, hcap, Option.elim_some]
  · rw [if_neg h, if_neg fun h' => h ⟨h'.1.symm, h'.2.symm⟩, Nat.add_zero]

theorem reservedUnits_returnCapacity : (s.returnCapacity r).reservedUnits p d =
    s.reservedUnits p d - if r.product = p ∧ r.productionDate = d then r.quantity else 0 := by
  rw [Stock.returnCapacity, reservedUnits_updateCapacity]
  by_cases h : p = r.product ∧ d = r.productionDate
  · obtain ⟨rfl, rfl⟩ := h
    rw [if_pos ⟨rfl, rfl⟩, if_pos ⟨rfl, rfl⟩]
    cases hrow : s.capacities r.product r.productionDate <;> simp [Stock.reservedUnits, hrow]
  · rw [if_neg h, if_neg fun h' => h ⟨h'.1.symm, h'.2.symm⟩, Nat.sub_zero]

theorem reservedUnits_consume {cap : DailyProductionCapacity}
    (hcap : s.capacities r.product r.productionDate = some cap) (n : ℕ) :
    (s.consume i r n).reservedUnits p d =
      s.reservedUnits p d - if r.product = p ∧ r.productionDate = d then r.quantity else 0 := by
  rw [Stock.reservedUnits, capacities_consume, ← Stock.reservedUnits, reservedUnits_updateCapacity]
  by_cases h : p = r.product ∧ d = r.productionDate
  · obtain ⟨rfl, rfl⟩ := h
    rw [if_pos ⟨rfl, rfl⟩, if_pos ⟨rfl, rfl⟩, hcap, Option.elim_some]
  · rw [if_neg h, if_neg fun h' => h ⟨h'.1.symm, h'.2.symm⟩, Nat.sub_zero]

end Counters

/-! ## One write keeps the ledger -/

section Writes

variable {s s' : Stock} {i : ReservationId} {r : StockReservation} {obs : List Observation}

theorem liveQuantity_of_live (hlive : r.isLive) (p : ProductId) :
    liveQuantity p r = if r.product = p then r.quantity else 0 := by
  simp [liveQuantity, hlive]

theorem liveUnits_of_live (hlive : r.isLive) (p : ProductId) (d : Date) :
    liveUnits p d r = if r.product = p ∧ r.productionDate = d then r.quantity else 0 := by
  simp [liveUnits, hlive]

theorem liveQuantity_of_ended (h : ¬r.isLive) (p : ProductId) : liveQuantity p r = 0 := by
  simp [liveQuantity, h]

theorem liveUnits_of_ended (h : ¬r.isLive) (p : ProductId) (d : Date) : liveUnits p d r = 0 := by
  simp [liveUnits, h]

/-- A live reservation is covered by its product's reserved quantity. -/
theorem QuantityLedger.covers (hl : QuantityLedger s r.product)
    (hrow : s.reservations.rows i = some r) (hlive : r.isLive)
    (ht : (s.inventory r.product).trackStock) :
    r.quantity ≤ (s.inventory r.product).reservedQuantity := by
  have h := Table.le_total hrow (liveQuantity r.product)
  rwa [← hl ht, liveQuantity_of_live hlive, if_pos rfl] at h

theorem UnitsLedger.covers (hl : UnitsLedger s r.product r.productionDate)
    (hrow : s.reservations.rows i = some r) (hlive : r.isLive) :
    r.quantity ≤ s.reservedUnits r.product r.productionDate := by
  have h := Table.le_total hrow (liveUnits r.product r.productionDate)
  rwa [← hl, liveUnits_of_live hlive, if_pos ⟨rfl, rfl⟩] at h

theorem Ledger.exact (hl : Ledger s) (hrow : s.reservations.rows i = some r) (hlive : r.isLive)
    {o : Observation} (ho : s.Clamps r o) : o.Exact := by
  rcases ho with ⟨ht, rfl | rfl⟩ | rfl
  · exact (hl.quantity _).covers hrow hlive ht
  · trivial
  · exact (hl.units _ _).covers hrow hlive

section Quantity

variable {p : ProductId}

theorem QuantityLedger.touch (hl : QuantityLedger s p) (h : s.Touches s') :
    QuantityLedger s' p := by
  intro hp
  rw [h.inventory] at hp ⊢
  rw [h.reservations]
  exact hl hp

theorem QuantityLedger.hold (hl : QuantityLedger s p) (hlive : r.isLive)
    (hinv : s.inventories r.product ≠ none) : QuantityLedger (s.hold r) p := by
  intro hp
  rw [inventory_hold hinv] at hp ⊢
  rw [reservations_hold, Table.total_insert, liveQuantity_of_live hlive]
  by_cases h : p = r.product
  · subst h
    by_cases ht : (s.inventory r.product).trackStock
    · simp [ht, hl ht]
    · simp [ht] at hp
  · rw [if_neg fun h' => h h'.1] at hp ⊢
    rw [if_neg fun h' => h h'.symm, hl hp, Nat.add_zero]

/-- Ending a live reservation takes its share out of the sum. -/
theorem total_end (hrow : s.reservations.rows i = some r) {g : StockReservation → StockReservation}
    {f : StockReservation → ℕ} (hend : f (g r) = 0) :
    (s.reservations.modify i g).total f = s.reservations.total f - f r := by
  have h := Table.total_modify hrow g f
  omega

theorem not_live_released (r : StockReservation) {status : ReservationStatus}
    (hstatus : status = .released ∨ status = .expired) :
    ¬({ r with status } : StockReservation).isLive := by
  rcases hstatus with rfl | rfl <;> simp [StockReservation.isLive]

theorem QuantityLedger.release (hl : QuantityLedger s p)
    (hrow : s.reservations.rows i = some r) (hlive : r.isLive) {status : ReservationStatus}
    (hstatus : status = .released ∨ status = .expired) :
    QuantityLedger (s.release i r status) p := by
  intro hp
  rw [inventory_release] at hp ⊢
  rw [reservations_release, total_end hrow (liveQuantity_of_ended (not_live_released r hstatus) p),
    liveQuantity_of_live hlive]
  by_cases h : p = r.product
  · subst h
    by_cases ht : (s.inventory r.product).trackStock
    · simp [ht, hl ht]
    · simp [ht] at hp
  · rw [if_neg fun h' => h h'.1] at hp ⊢
    rw [if_neg fun h' => h h'.symm, hl hp, Nat.sub_zero]

theorem QuantityLedger.consume (hl : QuantityLedger s p)
    (hrow : s.reservations.rows i = some r) (hlive : r.isLive)
    (hinv : s.inventories r.product ≠ none) (n : ℕ) : QuantityLedger (s.consume i r n) p := by
  intro hp
  rw [inventory_consume hinv] at hp ⊢
  rw [reservations_consume, total_end hrow (liveQuantity_of_ended (not_live_released r (.inl rfl)) p),
    liveQuantity_of_live hlive]
  by_cases h : p = r.product
  · subst h
    by_cases ht : (s.inventory r.product).trackStock
    · simp [ht, hl ht]
    · simp [ht] at hp
  · rw [if_neg fun h' => h h'.1] at hp ⊢
    rw [if_neg fun h' => h h'.symm, hl hp, Nat.sub_zero]

/-- Confirming moves a reservation between the two live statuses. -/
theorem total_confirm (hrow : s.reservations.rows i = some r) (f : StockReservation → ℕ)
    (hf : f { r with status := .confirmed, expiresAt := none } = f r) :
    (s.confirm i).reservations.total f = s.reservations.total f := by
  have h := Table.total_modify hrow ({ · with status := .confirmed, expiresAt := none }) f
  rw [hf] at h
  exact Nat.add_right_cancel h

theorem QuantityLedger.confirm (hl : QuantityLedger s p)
    (hrow : s.reservations.rows i = some r) (hactive : r.status = .active) :
    QuantityLedger (s.confirm i) p := by
  intro hp
  rw [total_confirm hrow]
  · exact hl hp
  · simp [liveQuantity, StockReservation.isLive, hactive]

end Quantity

theorem Ledger.touch (hl : Ledger s) (h : s.Touches s') : Ledger s' where
  quantity p := (hl.quantity p).touch h
  units p d := by
    rw [UnitsLedger, h.reservedUnits, h.reservations]
    exact hl.units p d

theorem Ledger.hold (hl : Ledger s) (hlive : r.isLive) (hinv : s.inventories r.product ≠ none)
    {cap : DailyProductionCapacity} (hcap : s.capacities r.product r.productionDate = some cap) :
    Ledger (s.hold r) where
  quantity p := (hl.quantity p).hold hlive hinv
  units p d := by
    rw [UnitsLedger, reservedUnits_hold hcap, reservations_hold, Table.total_insert,
      liveUnits_of_live hlive, hl.units]

theorem Ledger.release (hl : Ledger s) (hrow : s.reservations.rows i = some r) (hlive : r.isLive)
    {status : ReservationStatus} (hstatus : status = .released ∨ status = .expired) :
    Ledger (s.release i r status) where
  quantity p := (hl.quantity p).release hrow hlive hstatus
  units p d := by
    rw [UnitsLedger, Stock.reservedUnits, capacities_release, ← Stock.reservedUnits,
      reservedUnits_returnCapacity, reservations_release,
      total_end hrow (liveUnits_of_ended (not_live_released r hstatus) p d),
      liveUnits_of_live hlive, hl.units]

theorem Ledger.consume (hl : Ledger s) (hrow : s.reservations.rows i = some r) (hlive : r.isLive)
    (hinv : s.inventories r.product ≠ none) {cap : DailyProductionCapacity}
    (hcap : s.capacities r.product r.productionDate = some cap) (n : ℕ) :
    Ledger (s.consume i r n) where
  quantity p := (hl.quantity p).consume hrow hlive hinv n
  units p d := by
    rw [UnitsLedger, reservedUnits_consume hcap, reservations_consume,
      total_end hrow (liveUnits_of_ended (not_live_released r (.inl rfl)) p d),
      liveUnits_of_live hlive, hl.units]

theorem Ledger.confirm (hl : Ledger s) (hrow : s.reservations.rows i = some r)
    (hactive : r.status = .active) : Ledger (s.confirm i) where
  quantity p := (hl.quantity p).confirm hrow hactive
  units p d := by
    rw [UnitsLedger, total_confirm hrow]
    · exact hl.units p d
    · simp [liveUnits, StockReservation.isLive, hactive]

/-! ## One section keeps the ledger -/

/-- Rewriting one row in place keeps the rows, if it does not bring the row back to life. -/
theorem reservations_modify_evolve (i : ReservationId) (f : StockReservation → StockReservation)
    (hf : ∀ r, s.reservations.rows i = some r → (f r).isLive → r.isLive) :
    ∀ j r, s.reservations.rows j = some r →
      ∃ r', (s.reservations.modify i f).rows j = some r' ∧ (r'.isLive → r.isLive) := by
  intro j r hr
  by_cases h : j = i
  · subst h
    exact ⟨f r, by rw [Table.rows_modify_self, hr, Option.map_some], hf r hr⟩
  · exact ⟨r, by rw [Table.rows_modify_ne _ _ h, hr], id⟩

/-- A day whose counters are rewritten stays within its capacity if the new counters fit. -/
theorem withinCapacity_update {p : ProductId} {d : Date}
    {f : DailyProductionCapacity → DailyProductionCapacity}
    (hcap : s'.capacities = (s.updateCapacity p d f).capacities)
    (hf : ∀ cap, s.capacities p d = some cap →
      cap.reservedUnits + cap.fulfilledUnits ≤ cap.maxUnits →
        (f cap).reservedUnits + (f cap).fulfilledUnits ≤ (f cap).maxUnits) :
    ∀ q e, WithinCapacity s q e → WithinCapacity s' q e := by
  intro q e hwithin cap' hcap'
  rw [hcap, Stock.capacities_updateCapacity] at hcap'
  split at hcap'
  · next h =>
    obtain ⟨rfl, rfl⟩ := h
    obtain ⟨cap, hrow, rfl⟩ := Option.map_eq_some_iff.1 hcap'
    exact hf cap hrow (hwithin cap hrow)
  · exact hwithin cap' hcap'

theorem Stock.Touches.evolves (h : s.Touches s') : s.Evolves s' where
  reservations i r hr := ⟨r, by rw [h.reservations, hr], id⟩
  capacities p d hwithin cap hcap := by
    rcases h.capacities p d with h | ⟨-, maxUnits, h⟩
    · exact hwithin cap (h ▸ hcap)
    · rw [h, Option.some.injEq] at hcap
      subst hcap
      exact Nat.zero_le _

theorem evolves_hold {cap : DailyProductionCapacity}
    (hcap : s.capacities r.product r.productionDate = some cap)
    (hunits : r.quantity ≤ cap.availableUnits) : s.Evolves (s.hold r) where
  reservations i r' hr' := ⟨r', by rw [reservations_hold, Table.rows_insert_of_some _ hr'], id⟩
  capacities := withinCapacity_update capacities_hold fun cap' hcap' hle => by
    obtain rfl : cap = cap' := Option.some.inj (hcap.symm.trans hcap')
    rw [reservedUnits_of_some hcap]
    rw [DailyProductionCapacity.availableUnits] at hunits
    dsimp only
    omega

theorem evolves_release (hrow : s.reservations.rows i = some r) (hlive : r.isLive)
    (status : ReservationStatus) : s.Evolves (s.release i r status) where
  reservations := by
    rw [reservations_release]
    refine reservations_modify_evolve i _ fun r' hr' _ => ?_
    rwa [← Option.some.inj (hrow.symm.trans hr')]
  capacities := withinCapacity_update (capacities_release status) fun cap hcap hle => by
    rw [reservedUnits_of_some hcap]
    dsimp only
    omega

theorem evolves_confirm (hrow : s.reservations.rows i = some r) (hactive : r.status = .active) :
    s.Evolves (s.confirm i) where
  reservations := reservations_modify_evolve i _ fun _ hr' _ =>
    .inl (Option.some.inj (hrow.symm.trans hr') ▸ hactive)
  capacities _ _ hwithin := hwithin

/-- Units that are handed over move from the day's reserved to its fulfilled count. -/
theorem evolves_consume (hl : Ledger s) (hrow : s.reservations.rows i = some r)
    (hlive : r.isLive) {cap : DailyProductionCapacity}
    (hcap : s.capacities r.product r.productionDate = some cap) :
    s.Evolves (s.consume i r (cap.fulfilledUnits + r.quantity)) where
  reservations := by
    rw [reservations_consume]
    refine reservations_modify_evolve i _ fun r' hr' _ => ?_
    rwa [← Option.some.inj (hrow.symm.trans hr')]
  capacities := withinCapacity_update (capacities_consume _) fun cap' hcap' hle => by
    obtain rfl : cap = cap' := Option.some.inj (hcap.symm.trans hcap')
    have hcover := (hl.units _ _).covers hrow hlive
    rw [reservedUnits_of_some hcap] at hcover ⊢
    dsimp only
    omega

/-- One section keeps the ledger, cuts nothing off, and moves the stock forward. -/
theorem Section.Ran.ledger {sec : Section} (h : sec.Ran s obs s') (hl : Ledger s) :
    Ledger s' ∧ (∀ o ∈ obs, o.Exact) ∧ s.Evolves s' := by
  cases h.effect with
  | touch htouch => exact ⟨hl.touch htouch, by simp, htouch.evolves⟩
  | reserve r htouch hstatus hinv hcap hunits hstock =>
    exact ⟨(hl.touch htouch).hold (.inl hstatus) hinv hcap, by simp,
      htouch.evolves.trans (evolves_hold hcap hunits)⟩
  | release i r hrow hlive hobs =>
    exact ⟨hl.release hrow hlive (.inl rfl), fun o ho => hl.exact hrow hlive (hobs o ho),
      evolves_release hrow hlive _⟩
  | expire i r hrow hlive hobs =>
    exact ⟨hl.release hrow hlive (.inr rfl), fun o ho => hl.exact hrow hlive (hobs o ho),
      evolves_release hrow hlive _⟩
  | confirm i r hrow hactive =>
    exact ⟨hl.confirm hrow hactive, by simp, evolves_confirm hrow hactive⟩
  | fulfill i r htouch hrow hconfirmed hinv hcap hobs =>
    have hl' := hl.touch htouch
    exact ⟨hl'.consume hrow (.inr hconfirmed) (by simp [hinv]) hcap _,
      fun o ho => hl'.exact hrow (.inr hconfirmed) (hobs o ho),
      htouch.evolves.trans (evolves_consume hl' hrow (.inr hconfirmed) hcap)⟩

theorem Sections.ledger (h : Sections s obs s') (hl : Ledger s) :
    Ledger s' ∧ (∀ o ∈ obs, o.Exact) ∧ s.Evolves s' := by
  induction h with
  | refl => exact ⟨hl, by simp, .refl _⟩
  | tail _ hstep ih =>
    obtain ⟨hl', hexact, hevolves⟩ := ih
    obtain ⟨hl'', hexact', hevolves'⟩ := hstep.ledger hl'
    refine ⟨hl'', fun o ho => ?_, hevolves.trans hevolves'⟩
    rcases List.mem_append.1 ho with ho | ho
    · exact hexact o ho
    · exact hexact' o ho

end Writes

/-! ## Runs of the services -/

/-- The services that work on reservations. -/
inductive InventoryCall where
  | reserveForOrder (order : OrderId)
  | reserveForCartItem (cart : CartId) (product : ProductId) (quantity : ℤ)
  | releaseCartReservations (cart : CartId)
  | releaseCartReservationsForProduct (cart : CartId) (product : ProductId)
  | releaseReservations (order : OrderId)
  | confirmReservations (order : OrderId)
  | fulfillReservations (order : OrderId)
  | expireStaleReservations

/-- What a call runs; results are dropped. -/
def InventoryCall.exec (env : Env) : InventoryCall → ShopTx Unit
  | .reserveForOrder order => do
    let _ ← Crumbs.reserveForOrder env order
  | .reserveForCartItem cart product quantity => do
    let _ ← ShopTx.onStock (Crumbs.reserveForCartItem env cart product quantity)
  | .releaseCartReservations cart => do
    let _ ← ShopTx.onStock (Crumbs.releaseCartReservations cart)
  | .releaseCartReservationsForProduct cart product => do
    let _ ← ShopTx.onStock (Crumbs.releaseCartReservationsForProduct cart product)
  | .releaseReservations order => ShopTx.onStock (Crumbs.releaseReservations order)
  | .confirmReservations order => ShopTx.onStock (Crumbs.confirmReservations order)
  | .fulfillReservations order => ShopTx.onStock (Crumbs.fulfillReservations order)
  | .expireStaleReservations => do
    let _ ← ShopTx.onStock (Crumbs.expireStaleReservations env)

/-- Calls one after the other, each in its own surroundings. A call that raises is over, and
    the next one finds the database as the exception left it. -/
def runCalls (calls : List (Env × InventoryCall)) (w : World Shop (List Observation)) :
    World Shop (List Observation) :=
  calls.foldl (fun w call => (call.2.exec call.1 w).2) w

theorem InventoryCall.exec_does (env : Env) (call : InventoryCall) : ShopDoes (call.exec env) := by
  cases call with
  | reserveForOrder order => exact (reserveForOrder_does env order).bind fun _ => .pure _
  | reserveForCartItem cart product quantity =>
    exact (reserveForCartItem_does env cart product quantity).onStock.bind fun _ => .pure _
  | releaseCartReservations cart =>
    exact (releaseCartReservations_does cart).onStock.bind fun _ => .pure _
  | releaseCartReservationsForProduct cart product =>
    exact (releaseCartReservationsForProduct_does cart product).onStock.bind fun _ => .pure _
  | releaseReservations order => exact (releaseReservations_does order).onStock
  | confirmReservations order => exact (confirmReservations_does order).onStock
  | fulfillReservations order => exact (fulfillReservations_does order).onStock
  | expireStaleReservations => exact (expireStaleReservations_does env).onStock.bind fun _ => .pure _

/-- Every service is one transaction. -/
theorem InventoryCall.exec_rollsBack (env : Env) (call : InventoryCall) :
    (call.exec env).RollsBack := by
  have onStock {α : Type} {x : StockTx α} (h : x.RollsBack) : (ShopTx.onStock x).RollsBack :=
    h.zoom fun _ => rfl
  cases call with
  | reserveForOrder => exact (Tx.rollsBack_atomic _).map _
  | reserveForCartItem => exact (onStock (Tx.rollsBack_atomic _)).map _
  | releaseCartReservations => exact (onStock (Tx.rollsBack_atomic _)).map _
  | releaseCartReservationsForProduct => exact (onStock (Tx.rollsBack_atomic _)).map _
  | releaseReservations => exact onStock (Tx.rollsBack_atomic _)
  | confirmReservations => exact onStock (Tx.rollsBack_atomic _)
  | fulfillReservations => exact onStock (Tx.rollsBack_atomic _)
  | expireStaleReservations => exact (onStock (Tx.rollsBack_atomic _)).map _

/-- The step of a run: what a call observed is a chain of sections, and the stock is at its
    end, or back at its beginning if the call raised. -/
theorem InventoryCall.exec_step (env : Env) (call : InventoryCall)
    (w : World Shop (List Observation)) : ∃ obs s, Sections w.db.stock obs s ∧
      (call.exec env w).2.ext = w.ext ++ obs ∧
      ((call.exec env w).2.db.stock = s ∨ (call.exec env w).2.db.stock = w.db.stock) := by
  rcases hx : call.exec env w with ⟨e | a, w'⟩
  · obtain ⟨obs, s, hsections, hext⟩ := Tx.wp_of_error (call.exec_does env w) hx
    exact ⟨obs, s, hsections, hext, .inr (by rw [(call.exec_rollsBack env).run hx])⟩
  · obtain ⟨obs, hsections, hext⟩ := Tx.wp_of_ok (call.exec_does env w) hx
    exact ⟨obs, _, hsections, hext, .inl rfl⟩

theorem runCalls_ledger {w : World Shop (List Observation)} (hl : Ledger w.db.stock)
    (hexact : ∀ o ∈ w.ext, o.Exact) (calls : List (Env × InventoryCall)) :
    Ledger (runCalls calls w).db.stock ∧ (∀ o ∈ (runCalls calls w).ext, o.Exact) ∧
      w.db.stock.Evolves (runCalls calls w).db.stock := by
  induction calls generalizing w with
  | nil => exact ⟨hl, hexact, .refl _⟩
  | cons call calls ih =>
    obtain ⟨obs, s, hsections, hext, hdb⟩ := call.2.exec_step call.1 w
    obtain ⟨hl', hobs, hevolves⟩ := hsections.ledger hl
    have hall : ∀ o ∈ (call.2.exec call.1 w).2.ext, o.Exact := fun o ho => by
      rw [hext] at ho
      exact (List.mem_append.1 ho).elim (hexact o) (hobs o)
    rcases hdb with hdb | hdb
    · obtain ⟨hl'', hexact'', hevolves'⟩ := ih (hdb ▸ hl') hall
      exact ⟨hl'', hexact'', (hdb ▸ hevolves).trans hevolves'⟩
    · obtain ⟨hl'', hexact'', hevolves'⟩ := ih (hdb ▸ hl) hall
      exact ⟨hl'', hexact'', hdb ▸ hevolves'⟩

theorem runCalls_append (earlier later : List (Env × InventoryCall))
    (w : World Shop (List Observation)) :
    runCalls (earlier ++ later) w = runCalls later (runCalls earlier w) := List.foldl_append ..

/-- From a state whose counters are the sums over the live reservations, every run of the
    inventory services keeps them so; keeps days within their capacity; never brings an ended
    reservation back to life; and evaluates no `max(0, …)` on a reserved counter that changes
    the value. -/
theorem ledger_of_run {shop : Shop} (hl : Ledger shop.stock)
    (calls : List (Env × InventoryCall)) :
    let w := runCalls calls ⟨shop, []⟩
    Ledger w.db.stock ∧
      (∀ p d, WithinCapacity shop.stock p d → WithinCapacity w.db.stock p d) ∧
      (∀ earlier later, calls = earlier ++ later → ∀ i r,
        (runCalls earlier ⟨shop, []⟩).db.stock.reservations.rows i = some r → ¬r.isLive →
          ∃ r', w.db.stock.reservations.rows i = some r' ∧ ¬r'.isLive) ∧
      ∀ o ∈ w.ext, o.Exact := by
  obtain ⟨hl', hexact, hevolves⟩ := runCalls_ledger (w := ⟨shop, []⟩) hl (by simp) calls
  refine ⟨hl', hevolves.capacities, fun earlier later hsplit i r hr hended => ?_, hexact⟩
  obtain ⟨hmid, hexact', -⟩ := runCalls_ledger (w := ⟨shop, []⟩) hl (by simp) earlier
  obtain ⟨-, -, hevolves'⟩ := runCalls_ledger hmid hexact' later
  obtain ⟨r', hr', hlive⟩ := hevolves'.reservations i r hr
  rw [hsplit, runCalls_append]
  exact ⟨r', hr', fun h => hended (hlive h)⟩

/-- A shop with three loaves on the shelf and no reservations. -/
def shelf : Shop where
  stock :=
    { products := fun _ => { name := "Sourdough", price := 12000000, availabilityStatus := .available }
      inventories := fun p =>
        if p = 0 then some { stockQuantity := 3, allowPreorder := false } else none }

theorem shelf_ledger : Ledger shelf.stock := by
  refine ⟨fun p _ => ?_, fun p d => rfl⟩
  by_cases hp : p = 0 <;> simp [shelf, Stock.inventory, hp]

theorem ledger_of_run_shelf :
    Ledger (runCalls [({}, .reserveForCartItem 7 0 2), ({}, .reserveForCartItem 7 0 3),
      ({}, .reserveForCartItem 8 0 1), ({ now := minutes 31 }, .expireStaleReservations)]
        ⟨shelf, []⟩).db.stock := (ledger_of_run shelf_ledger _).1

end Crumbs
