import Crumbs.Inventory.Holds

/-!
# Units that Leave the Stock

Handing an order out takes the units of its confirmed reservations out of the stock. As long as the
counters are the sums over the live reservations, and no more is reserved than there is, nothing is
cut off at zero, and what leaves the stock is what was reserved for the order.

## Contents

- `Stock.reservedFor`: the units of a product that an order still holds
- `Stock.Stocked`: no more is reserved than there is
- `Stock.HandsOut`: the counters fall by what the order does not hold any more
- `handsOut_confirm`, `fulfillReservations_handsOut`
-/

namespace Crumbs

open Crumbs.Db StockReservation

/-! ## What an order holds -/

/-- What a reservation holds of `p` for the order. -/
def StockReservation.liveFor (o : OrderId) (p : ProductId) (r : StockReservation) : ℕ :=
  if r.order = some o then r.liveQuantity p else 0

namespace Stock

/-- The units of `p` that the order still holds. -/
def reservedFor (s : Stock) (o : OrderId) (p : ProductId) : ℕ := s.reservations.total (liveFor o p)

/-- No more is reserved of a tracked product than there is. -/
def Stocked (s : Stock) : Prop := ∀ p, (s.inventory p).trackStock →
  (s.inventory p).reservedQuantity ≤ (s.inventory p).stockQuantity

/-- From `s` to `s'` the counters of tracked products fall by the units that the order does not hold
    any more. -/
structure HandsOut (o : OrderId) (s s' : Stock) : Prop where
  tracks : ∀ p, (s'.inventory p).trackStock = (s.inventory p).trackStock
  stock : ∀ p, (s.inventory p).trackStock → (s'.inventory p).stockQuantity + s.reservedFor o p =
    (s.inventory p).stockQuantity + s'.reservedFor o p
  reserved : ∀ p, (s.inventory p).trackStock →
    (s'.inventory p).reservedQuantity + s.reservedFor o p =
      (s.inventory p).reservedQuantity + s'.reservedFor o p

variable {s s' s'' : Stock} {o : OrderId} {p : ProductId} {i : ReservationId}
  {r : StockReservation}

/-- An order without live reservations holds nothing. -/
theorem reservedFor_eq_zero (h : ∀ i r, s.reservations.rows i = some r → r.order = some o →
    ¬r.isLive) (p : ProductId) : s.reservedFor o p = 0 := by
  refine Table.total_eq_zero fun i r hrow => ?_
  unfold liveFor
  split
  · next horder => exact liveQuantity_of_ended (h i r hrow horder) p
  · rfl

namespace HandsOut

theorem refl (s : Stock) : s.HandsOut o s := ⟨fun _ => rfl, fun _ _ => rfl, fun _ _ => rfl⟩

theorem trans (h : s.HandsOut o s') (h' : s'.HandsOut o s'') : s.HandsOut o s'' := by
  refine ⟨fun p => (h'.tracks p).trans (h.tracks p), fun p ht => ?_, fun p ht => ?_⟩
  · have hfirst := h.stock p ht
    have hsecond := h'.stock p (h.tracks p ▸ ht)
    omega
  · have hfirst := h.reserved p ht
    have hsecond := h'.reserved p (h.tracks p ▸ ht)
    omega

/-- The counters stay, and so does what the order holds. -/
theorem of_same (hinventory : ∀ p, s'.inventory p = s.inventory p)
    (hreserved : ∀ p, s'.reservedFor o p = s.reservedFor o p) : s.HandsOut o s' :=
  ⟨fun p => by rw [hinventory], fun p _ => by rw [hinventory, hreserved],
    fun p _ => by rw [hinventory, hreserved]⟩

theorem touch (h : s.Touches s') : s.HandsOut o s' :=
  of_same h.inventory fun p => by rw [reservedFor, h.reservations, reservedFor]

end HandsOut

theorem Stocked.touch (hs : s.Stocked) (h : s.Touches s') : s'.Stocked := by
  intro p ht
  rw [h.inventory] at ht ⊢
  exact hs p ht

theorem liveFor_of_ended (h : ¬r.isLive) : liveFor o p r = 0 := by
  unfold liveFor
  split
  · exact liveQuantity_of_ended h p
  · rfl

theorem reservedFor_consume (hrow : s.reservations.rows i = some r) (hlive : r.isLive)
    (horder : r.order = some o) (n : ℕ) (p : ProductId) :
    (s.consume i r n).reservedFor o p + (if r.product = p then r.quantity else 0) =
      s.reservedFor o p := by
  have htotal := Table.total_modify hrow ({ · with status := .released }) (liveFor o p)
  have hbefore : liveFor o p r = if r.product = p then r.quantity else 0 := by
    rw [liveFor, if_pos horder, liveQuantity_of_live hlive]
  rw [liveFor_of_ended (not_live_released r (.inl rfl)), hbefore, Nat.add_zero] at htotal
  rw [reservedFor, reservations_consume, htotal, reservedFor]

theorem counters_consume (hinv : s.inventories r.product ≠ none) (n : ℕ)
    (ht : (s.inventory p).trackStock) : (s.consume i r n).inventory p = { s.inventory p with
      stockQuantity := (s.inventory p).stockQuantity - if r.product = p then r.quantity else 0
      reservedQuantity :=
        (s.inventory p).reservedQuantity - if r.product = p then r.quantity else 0 } := by
  rw [inventory_consume hinv]
  by_cases hp : p = r.product
  · subst hp
    rw [if_pos ⟨rfl, ht⟩, if_pos rfl]
  · rw [if_neg fun h => hp h.1, if_neg (Ne.symm hp)]
    rfl

/-- Handing out a live reservation of the order cuts nothing off. -/
theorem handsOut_consume (hl : Ledger s) (hs : s.Stocked) (hrow : s.reservations.rows i = some r)
    (hlive : r.isLive) (horder : r.order = some o) (hinv : s.inventories r.product ≠ none) (n : ℕ) :
    s.HandsOut o (s.consume i r n) ∧ (s.consume i r n).Stocked := by
  have htracks : ∀ p, ((s.consume i r n).inventory p).trackStock = (s.inventory p).trackStock := by
    intro p
    rw [inventory_consume hinv]
    split <;> rfl
  have hcovers : ∀ p, (s.inventory p).trackStock →
      (if r.product = p then r.quantity else 0) ≤ (s.inventory p).reservedQuantity := by
    intro p ht
    split
    · next heq =>
      subst heq
      exact (hl.quantity r.product).covers hrow hlive ht
    · exact Nat.zero_le _
  have hheld := reservedFor_consume hrow hlive horder n
  refine ⟨⟨htracks, fun p ht => ?_, fun p ht => ?_⟩, fun p ht => ?_⟩
  · rw [counters_consume hinv n ht, ← hheld p]
    have hle := (hcovers p ht).trans (hs p ht)
    dsimp only
    omega
  · rw [counters_consume hinv n ht, ← hheld p]
    have hle := hcovers p ht
    dsimp only
    omega
  · rw [htracks] at ht
    rw [counters_consume hinv n ht]
    exact Nat.sub_le_sub_right (hs p ht) _

end Stock

/-! ## The services -/

section Services

variable {w : World Stock (List Observation)} {o : OrderId}

theorem liveFor_confirmed {r : StockReservation} (h : r.status = .active) (p : ProductId) :
    liveFor o p { r with status := .confirmed, expiresAt := none } = liveFor o p r := by
  simp [liveFor, liveQuantity, StockReservation.isLive, h]

/-- Confirming leaves the counters, and what the order holds, as they are. -/
theorem handsOut_confirm (s : Stock) :
    s.HandsOut o { s with reservations := Holds.confirm o s.reservations } := by
  refine .of_same (fun _ => rfl) fun p => ?_
  exact Table.total_updateWhere_same fun r hr => liveFor_confirmed (of_decide_eq_true hr).2 p

/-- What the order holds leaves the stock. -/
theorem fulfillReservations_handsOut (hl : Ledger w.db) (hs : w.db.Stocked) :
    (fulfillReservations o).Ensures (fun _ w' => w.db.HandsOut o w'.db) w := by
  refine Tx.Ensures.atomic (Tx.wp_bind.2 (Tx.wp_getDb.2 ?_))
  refine Tx.Ensures.mono (forM_reservationsWhere (J := fun w' => Ledger w'.db ∧ w'.db.Stocked ∧
    w.db.HandsOut o w'.db) w (fun w' i r hrow hr hJ => ?_) ⟨hl, hs, .refl _⟩) fun _ _ h => h.2.2
  obtain ⟨horder, hconfirmed⟩ := of_decide_eq_true hr
  obtain ⟨hl', hs', hhands⟩ := hJ
  refine Tx.wp_mono (fulfillSingleReservation_spec i) (fun _ w'' h => ?_) fun _ _ _ => trivial
  obtain ⟨s, inv, cap, htouch, hinv, hcap, hdb, -⟩ := h
  have hrow' : s.reservations.rows i = some r := by rw [htouch.reservations, hrow]
  have hthere : s.inventories r.product ≠ none := by simp [hinv]
  obtain ⟨hconsume, hstocked⟩ := Stock.handsOut_consume (hl'.touch htouch) (hs'.touch htouch) hrow'
    (.inr hconfirmed) horder hthere (cap.fulfilledUnits + r.quantity)
  rw [hdb]
  refine ⟨⟨(hl'.touch htouch).consume hrow' (.inr hconfirmed) hthere hcap _, hstocked,
    (hhands.trans (.touch htouch)).trans hconsume⟩, fun j hj => ?_⟩
  rw [reservations_consume, Table.rows_modify_ne _ _ hj, htouch.reservations]

/-- An order that holds nothing has nothing to confirm. -/
theorem confirm_of_released {s : Stock} (h : ∀ i r, s.reservations.rows i = some r →
    r.order = some o → ¬r.isLive) : Holds.confirm o s.reservations = s.reservations :=
  Table.updateWhere_eq_self _ fun i r hrow hr =>
    h i r hrow (of_decide_eq_true hr).1 (.inl (of_decide_eq_true hr).2)

/-- An order that holds nothing has nothing to hand out. -/
theorem fulfillReservations_released (h : ∀ i r, w.db.reservations.rows i = some r →
    r.order = some o → ¬r.isLive) : fulfillReservations o w = (.ok (), w) := by
  have hnone : w.db.reservationsWhere (fun r => r.order = some o ∧ r.status = .confirmed) = [] := by
    rw [List.eq_nil_iff_forall_not_mem]
    intro e he
    obtain ⟨hrow, hr⟩ := mem_reservationsWhere.1 he
    obtain ⟨horder, hconfirmed⟩ := of_decide_eq_true hr
    exact h e.1 e.2 hrow horder (.inr hconfirmed)
  refine Tx.atomic_of_ok ((Tx.bind_of_ok (x := Tx.getDb) rfl).trans ?_)
  rw [hnone]
  rfl

end Services

end Crumbs
