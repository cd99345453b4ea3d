import Crumbs.Inventory.Ledger

/-!
# What the Inventory Services Do to the Reservations

The services that work on all reservations of an order or of a cart come down to one update of
the table of reservations. The counters are left to the ledger; prices stay as they are, and so
does which products are tracked.

## Contents

- `Holds`: the table of reservations, and the updates it goes through
- `releaseReservations_holds`, …: what each service does to it
- `Stock.CanFulfill`: the handover of an order will not raise
- `SameGoods`: the same prices, and the same products tracked
- `Rebooks`, `releaseReservations_rebooks`, …: both together
-/

namespace Crumbs

open Crumbs.Db

/-! ## Updates -/

/-- The table of reservations. -/
abbrev Holds := Table StockReservation

namespace Holds

def release (o : OrderId) (holds : Holds) : Holds :=
  holds.updateWhere (fun r => r.order = some o ∧ (r.status = .active ∨ r.status = .confirmed))
    ({ · with status := .released })

def confirm (o : OrderId) (holds : Holds) : Holds :=
  holds.updateWhere (fun r => r.order = some o ∧ r.status = .active)
    ({ · with status := .confirmed, expiresAt := none })

def fulfill (o : OrderId) (holds : Holds) : Holds :=
  holds.updateWhere (fun r => r.order = some o ∧ r.status = .confirmed)
    ({ · with status := .released })

def expire (now : Time) (holds : Holds) : Holds :=
  holds.updateWhere (isStale now) ({ · with status := .expired })

def releaseCart (c : CartId) (holds : Holds) : Holds :=
  holds.updateWhere (fun r => r.cart = some c ∧ r.status = .active) ({ · with status := .released })

def releaseCartProduct (c : CartId) (p : ProductId) (holds : Holds) : Holds :=
  holds.updateWhere (fun r => r.cart = some c ∧ r.product = p ∧ r.status = .active)
    ({ · with status := .released })

end Holds

/-! ## Loops -/

section Loops

variable {w : World Stock (List Observation)} {P : StockReservation → Bool}
  {f : ReservationId × StockReservation → StockTx Unit} {g : StockReservation → StockReservation}

/-- A loop that updates each row that a query has found is one `UPDATE … WHERE`. -/
theorem forM_holds (h : ∀ e w, P e.2 = true → (f e).Ensures
    (fun _ w' => w'.db.reservations = w.db.reservations.modify e.1 g) w) :
    ((w.db.reservationsWhere P).forM f).Ensures
      (fun _ w' => w'.db.reservations = w.db.reservations.updateWhere P g) w := by
  let I := fun (rest : List (ReservationId × StockReservation))
    (w' : World Stock (List Observation)) =>
    (∀ e ∈ rest, P e.2 = true) ∧
      rest.foldl (fun t e => t.modify e.1 g) w'.db.reservations =
        w.db.reservations.updateWhere P g
  have hstart : I (w.db.reservationsWhere P) w :=
    ⟨fun e he => (Table.mem_filter.1 (List.mem_reverse.1 he)).2,
      Table.foldl_modify_filter w.db.reservations P g⟩
  refine Tx.wp_mono (Tx.wp_forM (fun e rest w₁ hI => ?_) hstart) (fun _ _ hI => hI.2)
    (fun _ _ h => h)
  refine (h e w₁ (hI.1 e List.mem_cons_self)).mono fun _ w₂ h₂ => ?_
  exact ⟨fun e' he' => hI.1 e' (List.mem_cons_of_mem e he'), by rw [h₂]; exact hI.2⟩

theorem releaseSingleReservation_holds (e : ReservationId × StockReservation)
    (hlive : e.2.isLive) : (releaseSingleReservation e).Ensures (fun _ w' =>
      w'.db.reservations = w.db.reservations.modify e.1 ({ · with status := .released })) w :=
  Tx.wp_mono (releaseSingleReservation_spec e.1 hlive)
    (fun _ _ h => by rw [h.1, reservations_release]) (fun _ _ h => h)

theorem releaseAll_holds (hP : ∀ r, P r = true → r.isLive) :
    (releaseAll (w.db.reservationsWhere P)).Ensures (fun _ w' => w'.db.reservations =
      w.db.reservations.updateWhere P ({ · with status := .released })) w :=
  Tx.Ensures.bind (forM_holds fun e _ hr => releaseSingleReservation_holds e (hP e.2 hr))
    fun _ _ h => h

theorem releaseWhere_holds (hP : ∀ r, P r = true → r.isLive) :
    (do
      let stock ← Tx.getDb
      releaseAll (stock.reservationsWhere P) : StockTx ℕ).Ensures (fun _ w' =>
        w'.db.reservations =
          w.db.reservations.updateWhere P ({ · with status := .released })) w :=
  Tx.wp_bind.2 (Tx.wp_getDb.2 (releaseAll_holds hP))

end Loops

/-! ## Services -/

section Services

variable {w : World Stock (List Observation)} (env : Env)

theorem releaseReservations_holds (o : OrderId) : (releaseReservations o).Ensures
    (fun _ w' => w'.db.reservations = Holds.release o w.db.reservations) w := by
  refine Tx.wp_atomic.2 (Tx.wp_bind.2 (Tx.wp_getDb.2 ?_))
  exact Tx.Ensures.bind (releaseAll_holds fun _ hr => (of_decide_eq_true hr).2) fun _ _ h => h

theorem releaseCartReservations_holds (c : CartId) : (releaseCartReservations c).Ensures
    (fun _ w' => w'.db.reservations = Holds.releaseCart c w.db.reservations) w :=
  (releaseWhere_holds fun _ hr => .inl (of_decide_eq_true hr).2).atomic

theorem releaseCartReservationsForProduct_holds (c : CartId) (p : ProductId) :
    (releaseCartReservationsForProduct c p).Ensures
      (fun _ w' => w'.db.reservations = Holds.releaseCartProduct c p w.db.reservations) w :=
  (releaseWhere_holds fun _ hr => .inl (of_decide_eq_true hr).2.2).atomic

theorem confirmReservations_holds (o : OrderId) : (confirmReservations o).Ensures
    (fun _ w' => w'.db.reservations = Holds.confirm o w.db.reservations) w := by
  refine Tx.wp_atomic.2 (Tx.wp_bind.2 (Tx.wp_getDb.2 ?_))
  exact forM_holds fun e w _ => rfl

theorem fulfillReservations_holds (o : OrderId) : (fulfillReservations o).Ensures
    (fun _ w' => w'.db.reservations = Holds.fulfill o w.db.reservations) w := by
  refine Tx.wp_atomic.2 (Tx.wp_bind.2 (Tx.wp_getDb.2 ?_))
  refine forM_holds fun e w _ => Tx.wp_mono (fulfillSingleReservation_spec e.1) (fun _ w' h => ?_)
    fun _ _ _ => trivial
  obtain ⟨s, inv, cap, htouch, -, -, hdb, -⟩ := h
  rw [hdb, reservations_consume, htouch.reservations]

theorem expireStaleReservations_holds : (expireStaleReservations env).Ensures
    (fun _ w' => w'.db.reservations = Holds.expire env.now w.db.reservations) w := by
  refine Tx.wp_atomic.2 (Tx.wp_bind.2 (Tx.wp_getDb.2 ?_))
  refine Tx.Ensures.bind (forM_holds fun e w hr => ?_) fun _ _ h => h
  refine Tx.wp_mono (expireSingleReservation_spec e.1 (.inl (of_decide_eq_true hr).1))
    (fun _ _ h => ?_) fun _ _ h => h
  rw [h.1, reservations_release]

/-- A booking is one more ACTIVE reservation, with an end. -/
theorem reserveItem_holds (order : Option OrderId) (p : ProductId) (quantity : ℤ)
    (cart : Option CartId) (holdMinutes : ℤ) :
    (reserveItem env order p quantity cart holdMinutes).Ensures (fun e w' =>
      w'.db.reservations = w.db.reservations.insert e.2 ∧ e.2.order = order ∧ e.2.product = p ∧
        (e.2.quantity : ℤ) = quantity ∧ e.2.cart = cart ∧ e.2.status = .active) w := by
  refine Tx.wp_mono (reserveItem_spec env order p quantity cart holdMinutes w) (fun e w' h => ?_)
    fun _ _ _ => trivial
  obtain ⟨⟨horder, hproduct, hquantity, hcart, hstatus, -, s, cap, htouch, hdb, -⟩, -⟩ := h
  refine ⟨?_, horder, hproduct, hquantity, hcart, hstatus⟩
  rw [hdb, reservations_hold, htouch.reservations]

end Services

/-! ## Services that return -/

/-- Every product that is on hold for the order has an inventory row, so that the units can be
    taken out of it. -/
def Stock.CanFulfill (s : Stock) (o : OrderId) : Prop :=
  ∀ e ∈ s.reservationsWhere (fun r => r.order = some o ∧ r.isLive),
    (s.inventories e.2.product).isSome

instance (s : Stock) (o : OrderId) : Decidable (s.CanFulfill o) :=
  inferInstanceAs (Decidable (∀ e ∈ _, _))

theorem Stock.isSome_consume {s : Stock} {i : ReservationId} {r : StockReservation} {n : ℕ}
    {p : ProductId} (h : (s.inventories p).isSome) : ((s.consume i r n).inventories p).isSome := by
  have htake : ((s.takeUnits r).inventories p).isSome := by
    unfold Stock.takeUnits
    split
    · rw [Stock.inventories_updateInventory]
      split
      · next heq => exact (Option.isSome_map ..).trans (heq ▸ h)
      · exact h
    · exact h
  unfold Stock.consume Stock.closeSoldOut
  split <;> exact htake

/-- Handing over ends well if every product has its row. -/
theorem fulfillReservations_returns {o : OrderId} {w : World Stock (List Observation)}
    (h : ∀ e ∈ w.db.reservationsWhere (fun r => r.order = some o ∧ r.status = .confirmed),
      (w.db.inventories e.2.product).isSome) :
    (fulfillReservations o).wp (fun _ _ => True) (fun _ _ => False) w := by
  rw [fulfillReservations, Tx.wp_atomic, Tx.wp_bind, Tx.wp_getDb]
  let I := fun (rest : List (ReservationId × StockReservation))
    (w : World Stock (List Observation)) => ∀ e ∈ rest, (w.db.inventories e.2.product).isSome
  refine Tx.wp_mono (Tx.wp_forM (I := I) (fun e rest w hI => ?_) h) (fun _ _ _ => trivial)
    fun _ _ h => h
  refine Tx.wp_mono (fulfillSingleReservation_spec e.1) (fun _ w' h' e' he' => ?_) fun _ _ h' => ?_
  · obtain ⟨s, inv, cap, htouches, -, -, hdb, -⟩ := h'
    obtain ⟨inv', hinv'⟩ := Option.isSome_iff_exists.1 (hI e' (List.mem_cons_of_mem e he'))
    rw [hdb]
    exact Stock.isSome_consume (Option.isSome_iff_exists.2 ⟨inv', htouches.inventories_some hinv'⟩)
  · have hsome := hI e List.mem_cons_self
    rw [h'.2] at hsome
    exact Bool.false_ne_true hsome

/-- Confirming the reservations of an order is one update of the table. -/
theorem confirmReservations_spec (o : OrderId) (w : World Stock (List Observation)) :
    confirmReservations o w = (.ok (),
      ⟨{ w.db with reservations := Holds.confirm o w.db.reservations }, w.ext⟩) := by
  have hloop : ∀ (rest : List (ReservationId × StockReservation)) (w : World Stock (List Observation)),
      rest.forM confirmSingleReservation w = (.ok (), ⟨{ w.db with
        reservations := rest.foldl
          (fun t e => Table.modify t e.1 ({ · with status := .confirmed, expiresAt := none }))
          w.db.reservations }, w.ext⟩) := by
    intro rest
    induction rest with
    | nil => exact fun _ => rfl
    | cons e rest ih =>
      intro w
      have hfirst : confirmSingleReservation e w = (.ok (), ⟨w.db.confirm e.1, w.ext⟩) := rfl
      exact (Tx.bind_of_ok hfirst).trans (ih ⟨w.db.confirm e.1, w.ext⟩)
  refine Tx.atomic_of_ok ((Tx.bind_of_ok (x := Tx.getDb) rfl).trans ((hloop _ w).trans ?_))
  rw [Stock.reservationsWhere, Table.foldl_modify_filter]
  rfl

/-- Confirming keeps the products, and no reservation comes to life by it. -/
theorem Stock.CanFulfill.confirm {s : Stock} {o : OrderId} (h : s.CanFulfill o) :
    Stock.CanFulfill { s with reservations := Holds.confirm o s.reservations } o := by
  rintro ⟨i, r⟩ he
  obtain ⟨hrow, hr⟩ := mem_reservationsWhere.1 he
  obtain ⟨r', hrow', rfl⟩ := Option.map_eq_some_iff.1 hrow
  have hr := of_decide_eq_true hr
  split at hr
  · next hactive =>
    have hactive := of_decide_eq_true hactive
    rw [if_pos (decide_eq_true hactive)]
    exact h (i, r') (mem_reservationsWhere.2 ⟨hrow', decide_eq_true ⟨hactive.1, .inl hactive.2⟩⟩)
  · next hnot =>
    rw [if_neg hnot]
    exact h (i, r') (mem_reservationsWhere.2 ⟨hrow', decide_eq_true hr⟩)

/-! ## What no service changes -/

namespace Stock

def price (s : Stock) (p : ProductId) : Money := (s.products p).price

def tracks (s : Stock) (p : ProductId) : Bool := (s.inventory p).trackStock

/-- The same prices, and the same products tracked. -/
structure SameGoods (s s' : Stock) : Prop where
  price : s'.price = s.price
  tracks : s'.tracks = s.tracks

namespace SameGoods

variable {s s' s'' : Stock}

theorem refl (s : Stock) : s.SameGoods s := ⟨rfl, rfl⟩

theorem trans (h : s.SameGoods s') (h' : s'.SameGoods s'') : s.SameGoods s'' :=
  ⟨h'.price.trans h.price, h'.tracks.trans h.tracks⟩

/-- The products are the same, and no inventory row changes its `track_stock`. -/
theorem of_inventory (hproducts : s'.products = s.products)
    (h : ∀ p, (s'.inventory p).trackStock = (s.inventory p).trackStock) : s.SameGoods s' :=
  ⟨funext fun p => by rw [Stock.price, Stock.price, hproducts], funext h⟩

theorem touch (h : s.Touches s') : s.SameGoods s' :=
  of_inventory h.products fun p => by rw [h.inventory]

variable {i : ReservationId} {r : StockReservation}

theorem hold (hinv : s.inventories r.product ≠ none) : s.SameGoods (s.hold r) := by
  refine of_inventory ?_ fun p => ?_
  · unfold Stock.hold
    split <;> rfl
  · rw [inventory_hold hinv]
    split <;> rfl

theorem release (status : ReservationStatus) : s.SameGoods (s.release i r status) := by
  refine of_inventory ?_ fun p => ?_
  · unfold Stock.release Stock.returnUnits
    split <;> rfl
  · rw [inventory_release]
    split <;> rfl

theorem confirm : s.SameGoods (s.confirm i) := ⟨rfl, rfl⟩

theorem setAvailability (p : ProductId) (status : AvailabilityStatus) :
    s.SameGoods (s.setAvailability p status) := by
  refine ⟨funext fun q => ?_, rfl⟩
  by_cases hq : q = p <;> simp [Stock.price, Stock.setAvailability, hq]

theorem closeSoldOut (p : ProductId) : s.SameGoods (s.closeSoldOut p) := by
  unfold Stock.closeSoldOut
  split
  · exact setAvailability p _
  · exact refl s

theorem consume (hinv : s.inventories r.product ≠ none) (n : ℕ) :
    s.SameGoods (s.consume i r n) := by
  refine ⟨(closeSoldOut r.product).price.trans ?_, funext fun p => ?_⟩
  · unfold Stock.takeUnits
    split <;> rfl
  · rw [Stock.tracks, inventory_consume hinv, Stock.tracks]
    split <;> rfl

end SameGoods

end Stock

theorem Section.Ran.sameGoods {sec : Section} {s s' : Stock} {obs : List Observation}
    (h : sec.Ran s obs s') : s.SameGoods s' := by
  cases h.effect with
  | touch htouch => exact .touch htouch
  | reserve r htouch hstatus hinv => exact (Stock.SameGoods.touch htouch).trans (.hold hinv)
  | release => exact .release _
  | expire => exact .release _
  | confirm => exact .confirm
  | fulfill i r htouch hrow hconfirmed hinv =>
    exact (Stock.SameGoods.touch htouch).trans (.consume (by simp [hinv]) _)

theorem Sections.sameGoods {s s' : Stock} {obs : List Observation} (h : Sections s obs s') :
    s.SameGoods s' := by
  induction h with
  | refl => exact .refl _
  | tail _ hran ih => exact ih.trans hran.sameGoods

/-! ## Services on the reservations -/

/-- The service updates the table of reservations by `g`, and leaves the goods alone. -/
def Rebooks {α : Type} (x : StockTx α) (g : Holds → Holds) : Prop :=
  ∀ w, x.Ensures (fun _ w' => w'.db.reservations = g w.db.reservations ∧
    w.db.SameGoods w'.db) w

/-- Sections leave the goods alone. -/
theorem Does.rebooks {α : Type} {x : StockTx α} {g : Holds → Holds} (hdoes : Does x)
    (h : ∀ w, x.Ensures (fun _ w' => w'.db.reservations = g w.db.reservations) w) :
    Rebooks x g := fun w =>
  Tx.wp_mono (Tx.wp_and (h w) (hdoes w)) (fun _ _ h => ⟨h.1, h.2.choose_spec.1.sameGoods⟩)
    fun _ _ _ => trivial

section Rebooks

variable (env : Env) (o : OrderId) (c : CartId) (p : ProductId)

theorem releaseReservations_rebooks : Rebooks (releaseReservations o) (Holds.release o) :=
  (releaseReservations_does o).rebooks fun _ => releaseReservations_holds o

theorem confirmReservations_rebooks : Rebooks (confirmReservations o) (Holds.confirm o) :=
  (confirmReservations_does o).rebooks fun _ => confirmReservations_holds o

theorem fulfillReservations_rebooks : Rebooks (fulfillReservations o) (Holds.fulfill o) :=
  (fulfillReservations_does o).rebooks fun _ => fulfillReservations_holds o

theorem releaseCartReservations_rebooks :
    Rebooks (releaseCartReservations c) (Holds.releaseCart c) :=
  (releaseCartReservations_does c).rebooks fun _ => releaseCartReservations_holds c

theorem releaseCartReservationsForProduct_rebooks :
    Rebooks (releaseCartReservationsForProduct c p) (Holds.releaseCartProduct c p) :=
  (releaseCartReservationsForProduct_does c p).rebooks fun _ =>
    releaseCartReservationsForProduct_holds c p

theorem expireStaleReservations_rebooks :
    Rebooks (expireStaleReservations env) (Holds.expire env.now) :=
  (expireStaleReservations_does env).rebooks fun _ => expireStaleReservations_holds env

end Rebooks

end Crumbs
