import Crumbs.Inventory.Rebooking

/-!
# Shelves

Everything that a booking looks at belongs to one product: its row, its counters, its days and its
reservations. Bookings of other products leave all of it as it is.

## Contents

- `Stock.SameShelf`: the same of one product
- `capacity_withdraw`: what a day has left after holds have been given back
- `SameShelf.rebookable_iff`: a booking depends on the shelf of its product
- `reserveForCartItem_shelves`: it leaves the other shelves alone
-/

namespace Crumbs

open Crumbs.Db

namespace Stock

/-! ## One product -/

/-- `s'` has of `p` what `s` has. -/
structure SameShelf (p : ProductId) (s s' : Stock) : Prop where
  product : s'.products p = s.products p
  inventory : s'.inventory p = s.inventory p
  capacity : ∀ d, s'.capacity p d = s.capacity p d
  reservations : ∀ P : StockReservation → Bool, (∀ r, P r = true → r.product = p) →
    s'.reservationsWhere P = s.reservationsWhere P

namespace SameShelf

variable {s s' s'' : Stock} {p : ProductId}

theorem refl (p : ProductId) (s : Stock) : s.SameShelf p s := ⟨rfl, rfl, fun _ => rfl, fun _ _ => rfl⟩

theorem trans (h : s.SameShelf p s') (h' : s'.SameShelf p s'') : s.SameShelf p s'' :=
  ⟨h'.product.trans h.product, h'.inventory.trans h.inventory,
    fun d => (h'.capacity d).trans (h.capacity d),
    fun P hP => (h'.reservations P hP).trans (h.reservations P hP)⟩

theorem symm (h : s.SameShelf p s') : s'.SameShelf p s :=
  ⟨h.product.symm, h.inventory.symm, fun d => (h.capacity d).symm,
    fun P hP => (h.reservations P hP).symm⟩

theorem of_days (h : s.SameDays s') : s.SameShelf p s' :=
  ⟨congrFun h.touches.products p, h.inventory p, h.capacity p, fun P _ => by
    rw [reservationsWhere, h.touches.reservations, reservationsWhere]⟩

end SameShelf

/-! ## Days after holds have been given back -/

/-- The units of `p` that a query finds on a day. -/
def unitsOn (s : Stock) (P : StockReservation → Bool) (p : ProductId) (d : Date) : ℕ :=
  ((s.reservationsWhere P).map fun e =>
    if e.2.product = p ∧ e.2.productionDate = d then e.2.quantity else 0).sum

section Withdraw

variable {s s' : Stock} {p q : ProductId} {P : StockReservation → Bool} {status : ReservationStatus}

theorem capacity_release (s : Stock) (i : ReservationId) (r : StockReservation) (p : ProductId)
    (d : Date) : (s.release i r status).capacity p d =
      { s.capacity p d with reservedUnits := (s.capacity p d).reservedUnits -
          if r.product = p ∧ r.productionDate = d then r.quantity else 0 } := by
  have hdefault : (s.release i r status).defaultCapacity p = s.defaultCapacity p := by
    unfold defaultCapacity
    rw [inventory_release_eq]
    split <;> rfl
  have hrow : (s.release i r status).capacities p d =
      if p = r.product ∧ d = r.productionDate then (s.capacities p d).map
        ({ · with reservedUnits := s.reservedUnits p d - r.quantity }) else s.capacities p d := by
    have hunits : (s.returnUnits r).capacities = s.capacities := by
      unfold returnUnits
      split <;> rfl
    unfold release returnCapacity
    rw [capacities_updateReservation, capacities_updateCapacity, hunits]
    refine ite_congr rfl (fun h => ?_) fun _ => rfl
    rw [h.1, h.2, reservedUnits, hunits, reservedUnits]
  unfold capacity
  rw [hrow, hdefault]
  by_cases hday : p = r.product ∧ d = r.productionDate
  · rw [if_pos hday, if_pos ⟨hday.1.symm, hday.2.symm⟩, reservedUnits]
    cases s.capacities p d with
    | none => simp
    | some cap => rfl
  · rw [if_neg hday, if_neg fun h => hday ⟨h.1.symm, h.2.symm⟩]
    rfl

/-- A day has left what it had and what it got back. -/
theorem capacity_withdraw (s : Stock) (P : StockReservation → Bool) (status : ReservationStatus)
    (p : ProductId) (d : Date) : (s.withdraw P status).capacity p d =
      { s.capacity p d with
        reservedUnits := (s.capacity p d).reservedUnits - s.unitsOn P p d } := by
  rw [withdraw, unitsOn]
  induction s.reservationsWhere P generalizing s with
  | nil => rfl
  | cons e rest ih =>
    rw [List.foldl_cons, ih, capacity_release, List.map_cons, List.sum_cons, ← Nat.sub_sub]

theorem reservations_withdraw (s : Stock) (P : StockReservation → Bool) (status : ReservationStatus) :
    (s.withdraw P status).reservations = s.reservations.updateWhere P ({ · with status }) := by
  have hfold (es : List (ReservationId × StockReservation)) (s : Stock) :
      (es.foldl (fun s e => s.release e.1 e.2 status) s).reservations =
        es.foldl (fun t e => t.modify e.1 ({ · with status })) s.reservations := by
    induction es generalizing s with
    | nil => rfl
    | cons e rest ih => rw [List.foldl_cons, ih, reservations_release, List.foldl_cons]
  rw [withdraw, hfold, reservationsWhere, Table.foldl_modify_filter]

/-- What is given back of a product depends on its shelf. -/
theorem SameShelf.withdraw (h : s.SameShelf p s') (hP : ∀ r, P r = true → r.product = p) :
    (s'.withdraw P status).inventory p = (s.withdraw P status).inventory p ∧
      ∀ d, (s'.withdraw P status).capacity p d = (s.withdraw P status).capacity p d := by
  have hfound := h.reservations P hP
  refine ⟨?_, fun d => ?_⟩
  · rw [inventory_withdraw, inventory_withdraw, h.inventory, unitsWhere, hfound, unitsWhere]
  · rw [capacity_withdraw, capacity_withdraw, h.capacity, unitsOn, hfound, unitsOn]

/-- Holds on another product that are given back. -/
theorem SameShelf.of_withdraw (h : ∀ r, P r = true → r.product ≠ p) :
    s.SameShelf p (s.withdraw P status) := by
  refine ⟨by rw [products_withdraw], ?_, fun d => ?_, fun Q hQ => ?_⟩
  · rw [inventory_withdraw, unitsWhere_of_other h, Nat.sub_zero, ite_self]
  · have hnone : s.unitsOn P p d = 0 := List.sum_eq_zero fun n hn => by
      obtain ⟨e, he, rfl⟩ := List.mem_map.1 hn
      exact if_neg fun h' => h e.2 (mem_reservationsWhere.1 he).2 h'.1
    rw [capacity_withdraw, hnone, Nat.sub_zero]
  · rw [reservationsWhere, reservations_withdraw, reservationsWhere]
    congr 1
    refine Table.filter_updateWhere _ _ _ _ fun i r _ hr => ⟨?_, ?_⟩
    · exact Bool.eq_false_iff.2 fun hQr => h r hr (hQ r hQr)
    · exact Bool.eq_false_iff.2 fun hQr => h r hr (hQ { r with status } hQr)

end Withdraw

/-! ## Bookings -/

section Rebookable

variable {s s' : Stock} {p : ProductId} {cart : CartId} {env : Env} {quantity : ℤ}

/-- What a cart books from belongs to one shelf. -/
theorem SameShelf.withoutHolds (h : s.SameShelf p s') (cart : CartId) :
    (s'.withoutHolds cart p).inventory p = (s.withoutHolds cart p).inventory p ∧
      ∀ d, (s'.withoutHolds cart p).capacity p d = (s.withoutHolds cart p).capacity p d := by
  have hinserted (s : Stock) : s.SameShelf p (s.setInventory p (s.inventory p)) :=
    .of_days (.setInventory s p)
  exact (((hinserted s).symm.trans h).trans (hinserted s')).withdraw fun r hr =>
    (of_decide_eq_true hr).2.1

/-- Whether a cart can have a quantity depends on the shelf of the product. -/
theorem SameShelf.rebookable_iff (h : s.SameShelf p s') :
    Rebookable env s' cart p quantity ↔ Rebookable env s cart p quantity := by
  obtain ⟨hinventory, hcapacity⟩ := h.withoutHolds cart
  simp only [Rebookable, InStock, Fits, foundDate_congr hinventory hcapacity, hinventory, hcapacity]

end Rebookable

end Stock

/-- A computation on `p` writes to no day of another product. -/
def DaysElsewhere (p : ProductId) (w w' : World Stock (List Observation)) : Prop :=
  ∀ q ≠ p, ∀ d, w'.db.capacities q d = w.db.capacities q d

instance (p : ProductId) : IsPreorder (World Stock (List Observation)) (DaysElsewhere p) where
  refl _ _ _ _ := rfl
  trans _ _ _ h h' q hq d := (h' q hq d).trans (h q hq d)

section Services

variable {env : Env} {p q : ProductId} {quantity : ℤ}

theorem getOrCreateInventory_elsewhere : (getOrCreateInventory p).Steps (DaysElsewhere p) :=
  Tx.steps_getDb.bind fun _ => Tx.Steps.bind (fun _ => Tx.steps_modifyDb fun _ _ _ => rfl) fun _ =>
    Tx.steps_pure _

theorem getOrCreateDailyCapacity_elsewhere (d : Date) :
    (getOrCreateDailyCapacity p d).Steps (DaysElsewhere p) := by
  refine (getOrCreateInventory_elsewhere.bind fun _ => Tx.steps_pure _).bind fun _ =>
    Tx.steps_getDb.bind fun _ => Tx.Steps.bind (fun w => Tx.steps_modifyDb fun q hq e => ?_)
      fun _ => Tx.steps_pure _
  exact if_neg fun h => hq h.1

theorem searchFulfillmentDate_elsewhere (inventory : ProductInventory) (current : Date)
    (offsets : List ℕ) :
    (searchFulfillmentDate p inventory quantity current offsets).Steps (DaysElsewhere p) := by
  induction offsets with
  | nil => exact Tx.steps_pure _
  | cons offset rest ih =>
    refine (getOrCreateDailyCapacity_elsewhere _).bind fun capacity w => ?_
    exact .ite (fun _ => Tx.steps_pure _ w) fun _ => .ite (fun _ => Tx.steps_pure _ w) fun _ => ih w

theorem findFulfillmentDate_elsewhere (startDate : Option Date) :
    (findFulfillmentDate env p quantity startDate).Steps (DaysElsewhere p) := by
  refine getOrCreateInventory_elsewhere.bind fun _ => Tx.steps_getDb.bind fun _ =>
    (searchFulfillmentDate_elsewhere _ _ _).bind fun found w => ?_
  cases found with
  | some target => exact Tx.steps_pure _ w
  | none => exact .ite (fun _ => Tx.steps_raise _ w) fun _ => Tx.steps_raise _ w

theorem positiveInteger_elsewhere (v : ℤ) : (positiveInteger v).Steps (DaysElsewhere p) := fun w =>
  .ite (fun _ => Tx.steps_raise _ w) fun _ => Tx.steps_pure _ w

theorem reserveItem_elsewhere (order : Option OrderId) (cart : Option CartId) (holdMinutes : ℤ) :
    (reserveItem env order p quantity cart holdMinutes).Steps (DaysElsewhere p) := by
  refine getOrCreateInventory_elsewhere.bind fun inventory => Tx.steps_getDb.bind fun _ =>
    (findFulfillmentDate_elsewhere _).bind fun date => Tx.Steps.bind (fun w => ?_) fun date =>
    (getOrCreateDailyCapacity_elsewhere _).bind fun _ =>
    Tx.Steps.bind (fun w => .when fun _ => Tx.steps_raise _ w) fun _ =>
    (positiveInteger_elsewhere _).bind fun _ =>
    Tx.Steps.bind (fun w => Tx.steps_modifyDb fun q hq d => if_neg fun h => hq h.1) fun _ =>
    Tx.Steps.bind (fun w => .when fun _ => ?_) fun _ =>
    (positiveInteger_elsewhere _).bind fun _ => Tx.steps_getDb.bind fun _ =>
    Tx.Steps.bind (fun _ => Tx.steps_modifyDb fun _ _ _ => rfl) fun _ => Tx.steps_pure _
  · exact .ite (fun _ => .ite (fun _ => findFulfillmentDate_elsewhere _ w) fun _ =>
      Tx.steps_raise _ w) fun _ => Tx.steps_pure _ w
  · exact (positiveInteger_elsewhere _).bind (fun _ _ => Tx.steps_modifyDb fun _ _ _ => rfl) w

/-- A booking leaves the shelves of other products. -/
theorem reserveItem_shelves (hq : q ≠ p) (order : Option OrderId) (cart : Option CartId)
    (holdMinutes : ℤ) (w : World Stock (List Observation)) :
    (reserveItem env order p quantity cart holdMinutes).Ensures
      (fun _ w' => w.db.SameShelf q w'.db) w := by
  refine Tx.wp_mono (Tx.wp_and (reserveItem_spec env order p quantity cart holdMinutes w)
    (reserveItem_elsewhere order cart holdMinutes w)) (fun e w' h => ?_) fun _ _ _ => trivial
  obtain ⟨⟨hreserved, -⟩, hdays⟩ := h
  obtain ⟨t, cap, htouch, hhold, hthere, -⟩ := hreserved.booked
  have hother : q ≠ e.2.product := hreserved.product.symm ▸ hq
  have hinventory : w'.db.inventory q = w.db.inventory q := by
    rw [hhold, inventory_hold (hreserved.product.symm ▸ hthere), if_neg fun h => hother h.1,
      htouch.inventory]
  refine ⟨?_, hinventory, fun d => ?_, fun P hP => ?_⟩
  · rw [hhold, Stock.hold]
    dsimp only
    split <;> exact congrFun htouch.products q
  · rw [Stock.capacity, hdays q hq, Stock.defaultCapacity, hinventory]
    rfl
  · rw [Stock.reservationsWhere, hhold, reservations_hold, Table.filter_insert,
      if_neg fun hr => hother (hP e.2 hr).symm, List.append_nil, htouch.reservations]
    rfl

/-- Replacing a hold leaves the shelves of other products. -/
theorem reserveForCartItem_shelves (hq : q ≠ p) (cart : CartId) (w : World Stock (List Observation)) :
    (reserveForCartItem env cart p quantity).Ensures (fun _ w' => w.db.SameShelf q w'.db) w := by
  refine Tx.Ensures.atomic (Tx.wp_seq getOrCreateInventory_days (fun inventory w₁ h₁ => ?_)
    fun _ _ h => h)
  have hlooked : w.db.SameShelf q w₁.db := .of_days h₁.2
  refine Tx.Ensures.ite (fun _ => hlooked) fun _ => Tx.wp_bind.2 (Tx.wp_getDb.2 ?_)
  refine Tx.wp_seq (releaseAll_withdraws fun _ hr => .inl (of_decide_eq_true hr).2.2)
    (fun _ w₂ h₂ => ?_) fun _ _ h => h
  have hreleased : w₁.db.SameShelf q w₂.db := h₂ ▸ .of_withdraw fun r hr hproduct =>
    hq (hproduct.symm.trans (of_decide_eq_true hr).2.1)
  refine Tx.Ensures.bind (reserveItem_shelves hq none (some cart) _ w₂) fun e w₃ h₃ => ?_
  exact (hlooked.trans hreleased).trans h₃

end Services

end Crumbs
