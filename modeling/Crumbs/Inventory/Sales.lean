import Crumbs.Inventory.Concurrency
import Crumbs.Inventory.Handouts

/-!
# Sales of a Product

The stock of a product falls only when reservations of it end. A release ends them as well, so what
has ended is an upper bound of what was sold. For the services that hand an order out it is met: what
the order does not hold any more has left the stock.

## Contents

- `Stock.endedUnits`, `Stock.endedFor`: the units of a product in reservations that have ended
- `Stock.Sells`: the stock has fallen by no more than what has ended
- `Section.Ran.sells`, `Sections.sells`: every section sells like that
- `Stock.HandsOver`: the stock has fallen by what an order does not hold any more
- `confirmReservations_handsOver`, `fulfillReservations_handsOver`
-/

namespace Crumbs

open Crumbs.Db StockReservation

/-! ## Reservations that have ended -/

/-- What a reservation has of `p` once it has ended. -/
def StockReservation.endedQuantity (p : ProductId) (r : StockReservation) : ℕ :=
  if ¬r.isLive ∧ r.product = p then r.quantity else 0

/-- The same of the reservations of one order. -/
def StockReservation.endedFor (o : OrderId) (p : ProductId) (r : StockReservation) : ℕ :=
  if r.order = some o then r.endedQuantity p else 0

namespace Stock

/-- The units of `p` in reservations that have ended. -/
def endedUnits (s : Stock) (p : ProductId) : ℕ := s.reservations.total (endedQuantity p)

/-- The units of `p` in those of the order. -/
def endedFor (s : Stock) (o : OrderId) (p : ProductId) : ℕ :=
  s.reservations.total (StockReservation.endedFor o p)

/-- The stock of `p` has fallen, by no more than what has ended. -/
structure Sells (p : ProductId) (s s' : Stock) : Prop where
  stock_le : (s'.inventory p).stockQuantity ≤ (s.inventory p).stockQuantity
  ended : (s.inventory p).stockQuantity + s.endedUnits p ≤
    (s'.inventory p).stockQuantity + s'.endedUnits p

end Stock

section Ended

variable {s s' s'' : Stock} {p : ProductId} {i : ReservationId} {r : StockReservation}

theorem endedQuantity_of_live (h : r.isLive) : endedQuantity p r = 0 := if_neg fun h' => h'.1 h

theorem endedQuantity_of_ended (h : ¬r.isLive) :
    endedQuantity p r = if r.product = p then r.quantity else 0 :=
  if_congr (and_iff_right h) rfl rfl

/-- A reservation that ends is counted from then on. -/
theorem endedUnits_end {f : StockReservation → StockReservation}
    (h : s'.reservations = s.reservations.modify i f) (hrow : s.reservations.rows i = some r)
    (hlive : r.isLive) (hended : ¬(f r).isLive) (hproduct : (f r).product = r.product)
    (hquantity : (f r).quantity = r.quantity) :
    s'.endedUnits p = s.endedUnits p + unitsOf p [r] := by
  have htotal := Table.total_modify hrow f (endedQuantity p)
  rw [endedQuantity_of_live hlive, endedQuantity_of_ended hended, hproduct, hquantity] at htotal
  rw [Stock.endedUnits, h, Stock.endedUnits, unitsOf, List.map_singleton, List.sum_singleton]
  exact htotal

theorem endedUnits_touch (h : s.Touches s') : s'.endedUnits p = s.endedUnits p := by
  rw [Stock.endedUnits, h.reservations, Stock.endedUnits]

theorem Stock.Sells.refl (p : ProductId) (s : Stock) : s.Sells p s := ⟨le_rfl, le_rfl⟩

theorem Stock.Sells.trans (h : s.Sells p s') (h' : s'.Sells p s'') : s.Sells p s'' :=
  ⟨h'.stock_le.trans h.stock_le, h.ended.trans h'.ended⟩

end Ended

/-! ## Sections -/

section Sections

variable {s s' : Stock} {p : ProductId} {sec : Section} {obs : List Observation}

/-- What a section hands over has ended with it. -/
theorem Section.Effect.endedUnits_le (h : sec.Effect s obs s') :
    s.endedUnits p + unitsOf p (sec.handedOver s) ≤ s'.endedUnits p := by
  cases h with
  | touch htouch => exact (endedUnits_touch htouch).ge
  | reserve r htouch hstatus =>
    -- the new reservation is live
    rw [Stock.endedUnits, Stock.endedUnits, reservations_hold, Table.total_insert,
      endedQuantity_of_live (.inl hstatus), htouch.reservations]
    exact le_rfl
  | release i r hrow hlive =>
    rw [endedUnits_end (reservations_release _ _ _ _) hrow hlive (not_live_released r (.inl rfl))
      rfl rfl]
    exact Nat.le_add_right _ _
  | expire i r hrow hlive =>
    rw [endedUnits_end (reservations_release _ _ _ _) hrow hlive (not_live_released r (.inr rfl))
      rfl rfl]
    exact Nat.le_add_right _ _
  | confirm i r hrow hactive =>
    -- confirming ends nothing
    have htotal := Table.total_modify hrow ({ · with status := .confirmed, expiresAt := none })
      (endedQuantity p)
    rw [endedQuantity_of_live (.inl hactive), endedQuantity_of_live (.inr rfl)] at htotal
    exact htotal.ge
  | fulfill i r htouch hrow hconfirmed =>
    have hrow₀ : s.reservations.rows i = some r := by rw [← htouch.reservations, hrow]
    rw [endedUnits_end (reservations_consume _ _ _ _) hrow (.inr hconfirmed)
      (not_live_released r (.inl rfl)) rfl rfl, endedUnits_touch htouch,
      show Section.handedOver s (.fulfill i) = [r] by simp [Section.handedOver, hrow₀]]

/-- A section takes no more from the stock than what it ends. -/
theorem Section.Ran.sells (hc : Covered p s) (h : sec.Ran s obs s') : s.Sells p s' := by
  have hstock := (h.respects hc).stock
  have hended := h.effect.endedUnits_le (p := p)
  exact ⟨by omega, by omega⟩

theorem Sections.sells (hc : Covered p s) (h : Sections s obs s') :
    Covered p s' ∧ s.Sells p s' := by
  induction h with
  | refl => exact ⟨hc, .refl p _⟩
  | tail _ hran ih =>
    obtain ⟨hcovered, hsells⟩ := ih
    exact ⟨(hran.respects hcovered).covered, hsells.trans (hran.sells hcovered)⟩

end Sections

/-! ## Handing over -/

/-- While `p` is covered, its stock falls by what the order does not hold of it any more. -/
def Stock.HandsOver (o : OrderId) (p : ProductId) (s s' : Stock) : Prop :=
  Covered p s → Covered p s' ∧ (s'.inventory p).stockQuantity + s.reservedFor o p =
    (s.inventory p).stockQuantity + s'.reservedFor o p

section Handover

variable {s s' s'' : Stock} {o : OrderId} {p : ProductId} {w : World Stock (List Observation)}

theorem Stock.HandsOver.refl (s : Stock) : s.HandsOver o p s := fun hc => ⟨hc, rfl⟩

theorem Stock.HandsOver.trans (h : s.HandsOver o p s') (h' : s'.HandsOver o p s'') :
    s.HandsOver o p s'' := by
  intro hc
  obtain ⟨hc', hfirst⟩ := h hc
  obtain ⟨hc'', hsecond⟩ := h' hc'
  exact ⟨hc'', by omega⟩

theorem Stock.HandsOver.touch (h : s.Touches s') : s.HandsOver o p s' := by
  refine fun hc => ⟨hc.touch h, ?_⟩
  rw [h.inventory, Stock.reservedFor, Stock.reservedFor, h.reservations]

/-- A confirmed reservation of the order is handed over. -/
theorem handsOver_consume {i : ReservationId} {r : StockReservation}
    (hrow : s.reservations.rows i = some r) (hlive : r.isLive) (horder : r.order = some o)
    (hinv : s.inventories r.product ≠ none) (n : ℕ) : s.HandsOver o p (s.consume i r n) := by
  intro hc
  obtain ⟨hcovered, hstock⟩ := hc.consume hrow hlive hinv n
  have hheld := Stock.reservedFor_consume hrow hlive horder n p
  rw [unitsOf, List.map_singleton, List.sum_singleton] at hstock
  exact ⟨hcovered, by omega⟩

/-- Confirming takes nothing, and the order holds what it has held. -/
theorem confirmReservations_handsOver (o : OrderId) (p : ProductId) :
    (confirmReservations o).Ensures (fun _ w' => w.db.HandsOver o p w'.db) w := by
  refine (Tx.wp_iff_of_ok (confirmReservations_spec o w)).2 fun hc => ?_
  have hshare (r : StockReservation) (hr : r.status = .active) :
      liveQuantity p { r with status := .confirmed, expiresAt := none } = liveQuantity p r := by
    rw [liveQuantity_of_live (.inl hr), liveQuantity_of_live (.inr rfl)]
  refine ⟨⟨hc.trackStock, hc.allowPreorder, hc.ledger.trans ?_, hc.reserved_le⟩, ?_⟩
  · exact (Table.total_updateWhere_same fun r hr => hshare r (of_decide_eq_true hr).2).symm
  · exact congrArg _ (Table.total_updateWhere_same fun r hr =>
      liveFor_confirmed (of_decide_eq_true hr).2 p).symm

/-- What the order has confirmed leaves the stock, also if not all of it could be confirmed. -/
theorem fulfillReservations_handsOver (o : OrderId) (p : ProductId) :
    (fulfillReservations o).Ensures (fun _ w' => w.db.HandsOver o p w'.db) w := by
  refine Tx.Ensures.atomic (Tx.wp_bind.2 (Tx.wp_getDb.2 ?_))
  refine forM_reservationsWhere (J := fun w' => w.db.HandsOver o p w'.db) w
    (fun w' i r hrow hr hJ => ?_) (.refl _)
  obtain ⟨horder, hconfirmed⟩ := of_decide_eq_true hr
  refine Tx.wp_mono (fulfillSingleReservation_spec i) (fun _ w'' h => ?_) fun _ _ _ => trivial
  obtain ⟨s, inv, cap, htouch, hinv, -, hdb, -⟩ := h
  have hrow' : s.reservations.rows i = some r := by rw [htouch.reservations, hrow]
  rw [hdb]
  refine ⟨(hJ.trans (.touch htouch)).trans (handsOver_consume hrow' (.inr hconfirmed) horder
    (by simp [hinv]) _), fun j hj => ?_⟩
  rw [reservations_consume, Table.rows_modify_ne _ _ hj, htouch.reservations]

end Handover

end Crumbs
