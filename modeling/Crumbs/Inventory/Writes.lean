import Crumbs.Inventory.Services

/-!
# What the Inventory Services Write

The writes of the inventory services as plain functions of the stock, and for each piece of
code that works on one reservation what it writes, what it observes and when it raises.

## Contents

- `Stock.Touches`: default rows are filled in, and nothing else changes
- `Stock.hold`, `Stock.release`, `Stock.confirm`, `Stock.consume`: booking, giving back,
  confirming, handing over
- `OnlyLooks`: the searches for a day
- `reserveItem_spec`, `releaseSingleReservation_spec`, `expireSingleReservation_spec`,
  `fulfillSingleReservation_spec`
-/

namespace Crumbs

open Crumbs.Db

variable {α β : Type}

/-! ## Rows after a write -/

namespace Stock

section Rows

variable (s : Stock) (p q : ProductId) (d e : Date) (i : ReservationId)
  (inv : ProductInventory) (cap : DailyProductionCapacity)
  (f : ProductInventory → ProductInventory)
  (g : DailyProductionCapacity → DailyProductionCapacity)
  (h : StockReservation → StockReservation)

theorem inventories_updateInventory : (s.updateInventory p f).inventories q =
    if q = p then (s.inventories p).map f else s.inventories q := rfl

@[simp] theorem capacities_updateInventory : (s.updateInventory p f).capacities = s.capacities :=
  rfl

@[simp] theorem reservations_updateInventory :
    (s.updateInventory p f).reservations = s.reservations := rfl

theorem capacities_updateCapacity : (s.updateCapacity p d g).capacities q e =
    if q = p ∧ e = d then (s.capacities p d).map g else s.capacities q e := rfl

@[simp] theorem inventories_updateCapacity :
    (s.updateCapacity p d g).inventories = s.inventories := rfl

@[simp] theorem reservations_updateCapacity :
    (s.updateCapacity p d g).reservations = s.reservations := rfl

@[simp] theorem inventories_updateReservation :
    (s.updateReservation i h).inventories = s.inventories := rfl

@[simp] theorem capacities_updateReservation :
    (s.updateReservation i h).capacities = s.capacities := rfl

@[simp] theorem reservations_updateReservation :
    (s.updateReservation i h).reservations = s.reservations.modify i h := rfl

@[simp] theorem inventories_setAvailability (a : AvailabilityStatus) :
    (s.setAvailability p a).inventories = s.inventories := rfl

@[simp] theorem capacities_setAvailability (a : AvailabilityStatus) :
    (s.setAvailability p a).capacities = s.capacities := rfl

@[simp] theorem reservations_setAvailability (a : AvailabilityStatus) :
    (s.setAvailability p a).reservations = s.reservations := rfl

end Rows

/-- `reserved_units` of a day; a row that is not there yet will start from zero. -/
def reservedUnits (s : Stock) (p : ProductId) (d : Date) : ℕ :=
  (s.capacities p d).elim 0 (·.reservedUnits)

/-! ## Writes -/

/-- From `s` to `s'` rows with default values may have been inserted, nothing else. -/
structure Touches (s s' : Stock) : Prop where
  products : s'.products = s.products
  reservations : s'.reservations = s.reservations
  inventories : ∀ p, s'.inventories p = s.inventories p ∨
    s.inventories p = none ∧ s'.inventories p = some {}
  capacities : ∀ p d, s'.capacities p d = s.capacities p d ∨
    s.capacities p d = none ∧ ∃ maxUnits, s'.capacities p d = some { maxUnits }

/-- Books a reservation: one more row, counted on its day and, if stock is tracked, in its
    product's inventory. -/
def hold (s : Stock) (r : StockReservation) : Stock :=
  let s₁ := s.updateCapacity r.product r.productionDate
    ({ · with reservedUnits := s.reservedUnits r.product r.productionDate + r.quantity })
  let s₂ := if (s.inventory r.product).trackStock then s₁.updateInventory r.product
      ({ · with reservedQuantity := (s.inventory r.product).reservedQuantity + r.quantity })
    else s₁
  { s₂ with reservations := s₂.reservations.insert r }

/-- Gives the units of a reservation back to a tracked inventory. -/
def returnUnits (s : Stock) (r : StockReservation) : Stock :=
  if (s.inventory r.product).trackStock then
    s.updateInventory r.product
      ({ · with reservedQuantity := (s.inventory r.product).reservedQuantity - r.quantity })
  else s

/-- Gives the units of a reservation back to its day. -/
def returnCapacity (s : Stock) (r : StockReservation) : Stock :=
  s.updateCapacity r.product r.productionDate
    ({ · with reservedUnits := s.reservedUnits r.product r.productionDate - r.quantity })

/-- Ends a reservation and gives its units back. -/
def release (s : Stock) (i : ReservationId) (r : StockReservation) (status : ReservationStatus) :
    Stock :=
  ((s.returnUnits r).returnCapacity r).updateReservation i ({ · with status })

def confirm (s : Stock) (i : ReservationId) : Stock :=
  s.updateReservation i ({ · with status := .confirmed, expiresAt := none })

/-- Takes the units of a reservation out of a tracked inventory. -/
def takeUnits (s : Stock) (r : StockReservation) : Stock :=
  if (s.inventory r.product).trackStock then
    s.updateInventory r.product
      ({ · with
        stockQuantity := (s.inventory r.product).stockQuantity - r.quantity
        reservedQuantity := (s.inventory r.product).reservedQuantity - r.quantity })
  else s

/-- A tracked product of which nothing is left is out of stock. -/
def closeSoldOut (s : Stock) (p : ProductId) : Stock :=
  if (s.inventory p).trackStock ∧ (s.inventory p).availableQuantity = 0 then
    s.setAvailability p .outOfStock
  else s

/-- Ends a reservation by handing its units over; `fulfilledUnits` is the new count of its
    day. -/
def consume (s : Stock) (i : ReservationId) (r : StockReservation) (fulfilledUnits : ℕ) : Stock :=
  (((s.takeUnits r).updateCapacity r.product r.productionDate
    ({ · with
      fulfilledUnits
      reservedUnits := s.reservedUnits r.product r.productionDate - r.quantity })
    ).updateReservation i ({ · with status := .released })).closeSoldOut r.product

/-- The clamps that taking `r` off the counters evaluates. -/
def Clamps (s : Stock) (r : StockReservation) (o : Observation) : Prop :=
  let inv := s.inventory r.product
  inv.trackStock ∧
      (o = .clamped (.reservedQuantity r.product) inv.reservedQuantity r.quantity ∨
        o = .clamped (.stockQuantity r.product) inv.stockQuantity r.quantity) ∨
    o = .clamped (.reservedUnits r.product r.productionDate)
      (s.reservedUnits r.product r.productionDate) r.quantity

end Stock

/-! ## Filling in defaults -/

namespace Stock.Touches

variable {s s' s'' : Stock}

theorem refl (s : Stock) : s.Touches s where
  products := rfl
  reservations := rfl
  inventories _ := .inl rfl
  capacities _ _ := .inl rfl

theorem trans (h : s.Touches s') (h' : s'.Touches s'') : s.Touches s'' where
  products := h'.products.trans h.products
  reservations := h'.reservations.trans h.reservations
  inventories p := by
    rcases h.inventories p with h₁ | ⟨h₁, h₂⟩ <;> rcases h'.inventories p with h₃ | ⟨h₃, h₄⟩
    · exact .inl (h₃.trans h₁)
    · exact .inr ⟨h₁ ▸ h₃, h₄⟩
    · exact .inr ⟨h₁, h₃.trans h₂⟩
    · exact .inr ⟨h₁, h₄⟩
  capacities p d := by
    rcases h.capacities p d with h₁ | ⟨h₁, h₂⟩ <;> rcases h'.capacities p d with h₃ | ⟨h₃, h₄⟩
    · exact .inl (h₃.trans h₁)
    · exact .inr ⟨h₁ ▸ h₃, h₄⟩
    · exact .inr ⟨h₁, h₃ ▸ h₂⟩
    · exact .inr ⟨h₁, h₄⟩

theorem inventory (h : s.Touches s') (p : ProductId) : s'.inventory p = s.inventory p := by
  rcases h.inventories p with h | ⟨h, h'⟩
  · rw [Stock.inventory, h, Stock.inventory]
  · rw [Stock.inventory, h', Stock.inventory, h]; rfl

theorem reservedUnits (h : s.Touches s') (p : ProductId) (d : Date) :
    s'.reservedUnits p d = s.reservedUnits p d := by
  rcases h.capacities p d with h | ⟨h, _, h'⟩
  · rw [Stock.reservedUnits, h, Stock.reservedUnits]
  · rw [Stock.reservedUnits, h', Stock.reservedUnits, h]; rfl

/-- A row that is there stays as it is. -/
theorem inventories_some (h : s.Touches s') {p : ProductId} {inv : ProductInventory}
    (hp : s.inventories p = some inv) : s'.inventories p = some inv := by
  rcases h.inventories p with h | ⟨h, -⟩
  · rw [h, hp]
  · simp [h] at hp

theorem setInventory (s : Stock) (p : ProductId) :
    s.Touches (s.setInventory p (s.inventory p)) where
  products := rfl
  reservations := rfl
  capacities _ _ := .inl rfl
  inventories q := by
    by_cases hq : q = p
    · subst q
      cases h : s.inventories p <;> simp [Stock.setInventory, Stock.inventory, h]
    · exact .inl (if_neg hq)

theorem setCapacity (s : Stock) (p : ProductId) (d : Date) (maxUnits : ℕ) :
    s.Touches (s.setCapacity p d ((s.capacities p d).getD { maxUnits })) where
  products := rfl
  reservations := rfl
  inventories _ := .inl rfl
  capacities q e := by
    by_cases hq : q = p ∧ e = d
    · obtain ⟨rfl, rfl⟩ := hq
      cases h : s.capacities q e <;> simp [Stock.setCapacity]
    · exact .inl (if_neg hq)

end Stock.Touches

/-- Default rows may have been filled in, and nothing was observed. -/
def Looks (w w' : World Stock (List Observation)) : Prop :=
  w.db.Touches w'.db ∧ w'.ext = w.ext

namespace Looks

variable {w w' w'' : World Stock (List Observation)}

theorem refl (w : World Stock (List Observation)) : Looks w w := ⟨.refl _, rfl⟩

theorem trans (h : Looks w w') (h' : Looks w' w'') : Looks w w'' :=
  ⟨h.1.trans h'.1, h'.2.trans h.2⟩

end Looks

/-- The computation may fill in default rows, also before it raises. -/
def OnlyLooks (x : StockTx α) : Prop := ∀ w, x.wp (fun _ => Looks w) (fun _ => Looks w) w

theorem OnlyLooks.bind {x : StockTx α} {f : α → StockTx β} (hx : OnlyLooks x)
    (hf : ∀ a, OnlyLooks (f a)) : OnlyLooks (x >>= f) := by
  refine fun w => Tx.wp_seq (hx w) (fun a w' h => ?_) (fun _ _ h => h)
  exact Tx.wp_mono (hf a w') (fun _ _ h' => h.trans h') (fun _ _ h' => h.trans h')

section Lookups

variable {E : Exn → World Stock (List Observation) → Prop} (env : Env) (p : ProductId) (d : Date)
  (quantity : ℤ) (w : World Stock (List Observation))

/-- The row that comes back is in the table. -/
theorem getOrCreateInventory_spec : (getOrCreateInventory p).wp (fun inv w' =>
    Looks w w' ∧ inv = w.db.inventory p ∧ w'.db.inventories p = some inv) E w := by
  exact ⟨⟨.setInventory _ _, rfl⟩, rfl, if_pos rfl⟩

theorem defaultDailyCapacity_spec : (defaultDailyCapacity p).wp (fun _ w' =>
    Looks w w' ∧ w'.db.inventories p ≠ none) E w := by
  refine Tx.wp_seq (getOrCreateInventory_spec p w) (fun _ w' h => ⟨h.1, ?_⟩) (fun _ _ h => h)
  rw [h.2.2]
  exact Option.some_ne_none _

theorem getOrCreateDailyCapacity_spec : (getOrCreateDailyCapacity p d).wp (fun cap w' =>
    Looks w w' ∧ w'.db.capacities p d = some cap ∧ w'.db.inventories p ≠ none) E w := by
  refine Tx.wp_seq (defaultDailyCapacity_spec p w) (fun _ w' h => ?_) (fun _ _ h => h)
  exact ⟨h.1.trans ⟨.setCapacity _ _ _ _, rfl⟩, if_pos ⟨rfl, rfl⟩, h.2⟩

theorem getOrCreateDailyCapacity_looks : OnlyLooks (getOrCreateDailyCapacity p d) := fun w =>
  Tx.wp_mono (getOrCreateDailyCapacity_spec p d w) (fun _ _ h => h.1) (fun _ _ h => h)

theorem searchFulfillmentDate_looks (inv : ProductInventory) (current : Date)
    (offsets : List ℕ) : OnlyLooks (searchFulfillmentDate p inv quantity current offsets) := by
  induction offsets with
  | nil => exact fun w => Looks.refl w
  | cons offset rest ih =>
    refine (getOrCreateDailyCapacity_looks p _).bind fun cap w => ?_
    simp only [Tx.wp_ite, Tx.wp_pure]
    exact ⟨fun _ => Looks.refl w, fun _ => ⟨fun _ => Looks.refl w, fun _ => ih w⟩⟩

theorem getOrCreateInventory_looks : OnlyLooks (getOrCreateInventory p) := fun w =>
  Tx.wp_mono (getOrCreateInventory_spec p w) (fun _ _ h => h.1) (fun _ _ h => h)

theorem findFulfillmentDate_looks (startDate : Option Date) :
    OnlyLooks (findFulfillmentDate env p quantity startDate) := by
  refine (getOrCreateInventory_looks p).bind fun inv => ?_
  refine OnlyLooks.bind (fun w => Looks.refl w) fun stock => ?_
  refine (searchFulfillmentDate_looks p quantity inv _ _).bind fun found w => ?_
  cases found with
  | some target => exact Looks.refl w
  | none => rw [Tx.wp_ite]; exact ⟨fun _ => Looks.refl w, fun _ => Looks.refl w⟩

/-- A quantity that is let through is in stock, or goes on pre-order, or is not tracked. -/
theorem chooseFulfillmentDate_spec (inv : ProductInventory) (name : String) :
    (chooseFulfillmentDate env p quantity inv name d).wp
      (fun _ w' => Looks w w' ∧ (inv.trackStock → inv.allowPreorder = false →
        quantity ≤ inv.availableQuantity)) (fun _ => Looks w) w := by
  simp only [chooseFulfillmentDate, Tx.wp_ite, Tx.wp_pure, Tx.wp_raise]
  refine ⟨fun _ => ⟨fun hpre => ?_, fun _ => Looks.refl w⟩, fun h => ⟨Looks.refl w, ?_⟩⟩
  · refine Tx.wp_mono (findFulfillmentDate_looks env p quantity (some d) w)
      (fun _ _ h => ⟨h, fun _ hno => ?_⟩) (fun _ _ h => h)
    simp [hpre] at hno
  · intro htrack _
    by_contra hlt
    exact h ⟨htrack, by omega⟩

end Lookups

/-! ## Reserving -/

@[simp] theorem wp_positiveInteger {Q : ℕ → World Stock (List Observation) → Prop}
    {E : Exn → World Stock (List Observation) → Prop} {w : World Stock (List Observation)} (v : ℤ) :
    (positiveInteger v).wp Q E w ↔
      (v < 0 → E (.integrityError "CHECK constraint failed") w) ∧ (¬v < 0 → Q v.toNat w) := by
  rw [positiveInteger, Tx.wp_ite, Tx.wp_raise, Tx.wp_pure]

/-- A reservation that is returned was booked on a stock with default rows filled in, and
    everything that was checked holds of that stock. -/
structure Reserved (s₀ : Stock) (order : Option OrderId) (p : ProductId) (quantity : ℤ)
    (cart : Option CartId) (e : ReservationId × StockReservation) (s' : Stock) : Prop where
  order : e.2.order = order
  product : e.2.product = p
  quantity : (e.2.quantity : ℤ) = quantity
  cart : e.2.cart = cart
  status : e.2.status = .active
  id : e.1 = s₀.reservations.next
  booked : ∃ s cap, s₀.Touches s ∧ s' = s.hold e.2 ∧ s.inventories p ≠ none ∧
    s.capacities p e.2.productionDate = some cap ∧ e.2.quantity ≤ cap.availableUnits ∧
    ((s.inventory p).trackStock → (s.inventory p).allowPreorder = false →
      e.2.quantity ≤ (s.inventory p).availableQuantity)

theorem reserveItem_spec (env : Env) (order : Option OrderId) (p : ProductId) (quantity : ℤ)
    (cart : Option CartId) (holdMinutes : ℤ) (w : World Stock (List Observation)) :
    (reserveItem env order p quantity cart holdMinutes).wp
      (fun e w' => Reserved w.db order p quantity cart e w'.db ∧ w'.ext = w.ext)
      (fun _ w' => w'.ext = w.ext) w := by
  rw [reserveItem]
  refine Tx.wp_seq (getOrCreateInventory_spec p w) (fun inv w₁ h₁ => ?_) (fun _ _ h => h)
  obtain ⟨look₁, rfl, hinv₁⟩ := h₁
  rw [Tx.wp_bind, Tx.wp_getDb]
  refine Tx.wp_seq (findFulfillmentDate_looks env p quantity none w₁) (fun first w₂ look₂ => ?_)
    (fun _ _ h => (look₁.trans h).2)
  refine Tx.wp_seq (chooseFulfillmentDate_spec env p first quantity w₂ _ _) (fun d w₃ h₃ => ?_)
    (fun _ _ h => ((look₁.trans look₂).trans h).2)
  refine Tx.wp_seq (getOrCreateDailyCapacity_spec p d w₃) (fun cap w₄ h₄ => ?_) (fun _ _ h => h)
  have look : Looks w w₄ := ((look₁.trans look₂).trans h₃.1).trans h₄.1
  have hinv : w₄.db.inventory p = w.db.inventory p := look.1.inventory p
  have hunits : w₄.db.reservedUnits p d = cap.reservedUnits := by
    rw [Stock.reservedUnits, h₄.2.1, Option.elim_some]
  simp only [Tx.wp_when, Tx.wp_raise, Tx.wp_bind, wp_positiveInteger, Tx.wp_modifyDb, Tx.wp_getDb,
    Tx.wp_pure]
  refine ⟨fun _ => look.2, fun hfit => ⟨fun _ => look.2, fun hpos => ⟨fun htrack => ?_,
    fun htrack => ?_⟩⟩⟩
  · refine ⟨fun _ => look.2, fun hpos' => ⟨fun _ => look.2, fun hpos'' => ⟨?_, look.2⟩⟩⟩
    have hq : ((quantity.toNat : ℕ) : ℤ) = quantity := Int.toNat_of_nonneg (by omega)
    refine ⟨rfl, rfl, hq, rfl, rfl, congrArg Table.next look.1.reservations, w₄.db, cap, look.1, ?_,
      h₄.2.2, h₄.2.1, by dsimp only; omega, fun ht hp => ?_⟩
    · have h₁ : (cap.reservedUnits + quantity).toNat = cap.reservedUnits + quantity.toNat := by omega
      have h₂ : ((w.db.inventory p).reservedQuantity + quantity).toNat =
          (w.db.inventory p).reservedQuantity + quantity.toNat := by omega
      simp only [Stock.hold, hinv, hunits, htrack, if_true, h₁, h₂]
    · rw [hinv] at ht hp ⊢
      have := h₃.2 ht hp
      dsimp only
      omega
  · refine ⟨fun _ => look.2, fun hpos'' => ⟨?_, look.2⟩⟩
    have hq : ((quantity.toNat : ℕ) : ℤ) = quantity := Int.toNat_of_nonneg (by omega)
    refine ⟨rfl, rfl, hq, rfl, rfl, congrArg Table.next look.1.reservations, w₄.db, cap, look.1, ?_,
      h₄.2.2, h₄.2.1, by dsimp only; omega, fun ht _ => absurd (hinv ▸ ht) htrack⟩
    have h₁ : (cap.reservedUnits + quantity).toNat = cap.reservedUnits + quantity.toNat := by omega
    simp only [Stock.hold, hinv, hunits, htrack, h₁]
    rfl

/-! ## Ending a reservation -/

section Ending

variable {w : World Stock (List Observation)} {i : ReservationId} {r : StockReservation}
  {E : Exn → World Stock (List Observation) → Prop}

@[simp] theorem wp_clampedSub {Q : ℕ → World Stock (List Observation) → Prop} (c : Counter)
    (value quantity : ℕ) : (clampedSub c value quantity).wp Q E w ↔
      Q (value - quantity) { w with ext := w.ext ++ [.clamped c value quantity] } := Iff.rfl

/-- The database becomes `s'`, with the clamps of `r` on record. -/
def Takes (r : StockReservation) (s' : Stock) (w w' : World Stock (List Observation)) : Prop :=
  w'.db = s' ∧ ∃ obs, w'.ext = w.ext ++ obs ∧ ∀ o ∈ obs, w.db.Clamps r o

theorem inventory_of_some {s : Stock} {p : ProductId} {inv : ProductInventory}
    (h : s.inventories p = some inv) : s.inventory p = inv := by
  rw [Stock.inventory, h, Option.getD_some]

theorem reservedUnits_of_some {s : Stock} {p : ProductId} {d : Date}
    {cap : DailyProductionCapacity} (h : s.capacities p d = some cap) :
    s.reservedUnits p d = cap.reservedUnits := by
  rw [Stock.reservedUnits, h, Option.elim_some]

theorem Stock.updateInventory_of_none {s : Stock} {p : ProductId}
    (h : s.inventories p = none) (f : ProductInventory → ProductInventory) :
    s.updateInventory p f = s := by
  have hfun : (fun q => if q = p then (s.inventories p).map f else s.inventories q) =
      s.inventories := by
    funext q
    split
    · next hq => rw [hq, h, Option.map_none]
    · rfl
  rw [Stock.updateInventory, hfun]

theorem Stock.updateCapacity_of_none {s : Stock} {p : ProductId} {d : Date}
    (h : s.capacities p d = none) (f : DailyProductionCapacity → DailyProductionCapacity) :
    s.updateCapacity p d f = s := by
  have hfun : (fun q e => if q = p ∧ e = d then (s.capacities p d).map f else s.capacities q e) =
      s.capacities := by
    funext q e
    split
    · next hq => rw [hq.1, hq.2, h, Option.map_none]
    · rfl
  rw [Stock.updateCapacity, hfun]

/-- The units of a reservation go back to the stock, where there is a tracked inventory. -/
theorem returnUnits_spec (r : StockReservation) (w : World Stock (List Observation)) :
    (Tx.ifSome (w.db.inventories r.product) (returnUnits r)).wp
      (fun _ => Takes r (w.db.returnUnits r) w) E w := by
  rw [Tx.wp_ifSome]
  refine ⟨fun inv hrow => ?_, fun hrow => ⟨?_, [], by simp, by simp⟩⟩
  · have hinv := inventory_of_some hrow
    simp only [returnUnits, Tx.wp_when, Tx.wp_bind, wp_clampedSub, Tx.wp_modifyDb]
    refine ⟨fun ht => ⟨?_, _, rfl, fun o ho => ?_⟩, fun ht => ⟨?_, [], by simp, by simp⟩⟩
    · rw [Stock.returnUnits, hinv, if_pos ht]
    · rw [List.mem_singleton.1 ho, Stock.Clamps, hinv]
      exact .inl ⟨ht, .inl rfl⟩
    · rw [Stock.returnUnits, hinv, if_neg ht]
  · rw [Stock.returnUnits, Stock.updateInventory_of_none hrow, ite_self]

/-- The units of a reservation go back to its day, where the day has a row. -/
theorem returnCapacity_spec (r : StockReservation) (w : World Stock (List Observation)) :
    (Tx.ifSome (w.db.capacities r.product r.productionDate) (returnCapacity r)).wp
      (fun _ w' => w'.db = w.db.returnCapacity r ∧ ∃ obs, w'.ext = w.ext ++ obs ∧
        ∀ o ∈ obs, o = .clamped (.reservedUnits r.product r.productionDate)
          (w.db.reservedUnits r.product r.productionDate) r.quantity) E w := by
  rw [Tx.wp_ifSome]
  refine ⟨fun cap hrow => ?_, fun hrow => ⟨?_, [], by simp, by simp⟩⟩
  · have hunits := reservedUnits_of_some hrow
    simp only [returnCapacity, Tx.wp_bind, wp_clampedSub, Tx.wp_modifyDb]
    exact ⟨by rw [Stock.returnCapacity, hunits], _, rfl, fun o ho => by
      rw [List.mem_singleton.1 ho, hunits]⟩
  · rw [Stock.returnCapacity, Stock.updateCapacity_of_none hrow]

@[simp] theorem capacities_returnUnits (s : Stock) (r : StockReservation) :
    (s.returnUnits r).capacities = s.capacities := by
  unfold Stock.returnUnits
  split <;> rfl

theorem releaseSingleReservation_spec (i : ReservationId) (hlive : r.isLive) :
    (releaseSingleReservation (i, r)).wp (fun _ => Takes r (w.db.release i r .released) w) E w := by
  have hended : ¬(r.status = .released ∨ r.status = .expired) := by
    rcases hlive with h | h <;> simp [h]
  rw [releaseSingleReservation, if_neg hended, Tx.wp_bind, Tx.wp_getDb, Tx.wp_bind, Tx.wp_when]
  refine ⟨fun _ => ?_, fun h => absurd hlive.symm h⟩
  refine Tx.wp_seq (returnUnits_spec r w) (fun _ w₁ h₁ => ?_) (fun _ _ h => h)
  obtain ⟨hdb₁, obs₁, hext₁, hobs₁⟩ := h₁
  have hcap : w₁.db.capacities = w.db.capacities := by rw [hdb₁, capacities_returnUnits]
  rw [← hcap]
  refine Tx.wp_mono (returnCapacity_spec r w₁) (fun _ w₂ h₂ => ?_) (fun _ _ h => h)
  obtain ⟨hdb₂, obs₂, hext₂, hobs₂⟩ := h₂
  rw [saveReservationStatus, Tx.wp_modifyDb]
  refine ⟨?_, obs₁ ++ obs₂, by rw [← List.append_assoc, ← hext₁, ← hext₂], fun o ho => ?_⟩
  · rw [hdb₂, hdb₁, Stock.release]
  · rcases List.mem_append.1 ho with ho | ho
    · exact hobs₁ o ho
    · rw [hobs₂ o ho, Stock.reservedUnits, hcap]
      exact .inr rfl

theorem expireSingleReservation_spec (i : ReservationId) (hlive : r.isLive) :
    (expireSingleReservation (i, r)).wp (fun _ => Takes r (w.db.release i r .expired) w) E w := by
  refine Tx.wp_seq (releaseSingleReservation_spec i hlive) (fun _ w₁ h₁ => ?_) (fun _ _ h => h)
  obtain ⟨hdb, hobs⟩ := h₁
  refine ⟨?_, hobs⟩
  change w₁.db.updateReservation i ({ · with status := .expired }) = _
  rw [hdb, Stock.release, Stock.updateReservation, Stock.reservations_updateReservation,
    Table.modify_modify]
  rfl

theorem consumeUnits_spec {inv : ProductInventory} (hrow : w.db.inventories r.product = some inv) :
    (consumeUnits r inv).wp (fun inv' w' =>
      Takes r (w.db.takeUnits r) w w' ∧ w'.db.inventories r.product = some inv') E w := by
  have hinv := inventory_of_some hrow
  simp only [consumeUnits, Tx.wp_ite, Tx.wp_bind, wp_clampedSub, Tx.wp_modifyDb, Tx.wp_pure]
  refine ⟨fun ht => ⟨⟨?_, _, List.append_assoc _ _ _, fun o ho => ?_⟩, ?_⟩,
    fun ht => ⟨⟨?_, [], by simp, by simp⟩, hrow⟩⟩
  · rw [Stock.takeUnits, hinv, if_pos ht]
  · rw [Stock.Clamps, hinv]
    rcases List.mem_cons.1 ho with rfl | ho
    · exact .inl ⟨ht, .inr rfl⟩
    · exact .inl ⟨ht, .inl (List.mem_singleton.1 ho)⟩
  · rw [Stock.inventories_updateInventory, if_pos rfl, hrow, Option.map_some]
  · rw [Stock.takeUnits, hinv, if_neg ht]

/-- Handing over fills in the day's row if need be, then consumes; it raises before it has
    observed anything. -/
theorem fulfillSingleReservation_spec (i : ReservationId) :
    (fulfillSingleReservation (i, r)).wp (fun _ w' => ∃ s inv cap, w.db.Touches s ∧
      s.inventories r.product = some inv ∧ s.capacities r.product r.productionDate = some cap ∧
      w'.db = s.consume i r (cap.fulfilledUnits + r.quantity) ∧
      ∃ obs, w'.ext = w.ext ++ obs ∧ ∀ o ∈ obs, s.Clamps r o)
      (fun _ w' => w'.ext = w.ext ∧ w.db.inventories r.product = none) w := by
  rw [fulfillSingleReservation, Tx.wp_bind, Tx.wp_getDb, Tx.wp_bind]
  cases hrow : w.db.inventories r.product with
  | none => exact ⟨rfl, rfl⟩
  | some inv =>
    rw [getRow, Tx.wp_pure]
    refine Tx.wp_seq (getOrCreateDailyCapacity_spec _ _ w) (fun cap w₁ h₁ => ?_) (fun _ _ h => h)
    obtain ⟨look₁, hcap, -⟩ := h₁
    have hrow₁ := look₁.1.inventories_some hrow
    refine Tx.wp_seq (consumeUnits_spec hrow₁) (fun inv' w₂ h₂ => ?_) (fun _ _ h => h)
    obtain ⟨⟨hdb₂, obs, hext, hobs⟩, hinv'⟩ := h₂
    have hunits := reservedUnits_of_some hcap
    have hsold : ∀ g h, ((w₂.db.updateCapacity r.product r.productionDate g).updateReservation i
        h).inventory r.product = inv' := fun _ _ => inventory_of_some hinv'
    simp only [Tx.wp_bind, wp_clampedSub, Tx.wp_modifyDb, saveReservationStatus, Tx.wp_when]
    have hext' : ∀ o, w₂.ext ++ [o] = w.ext ++ (obs ++ [o]) := fun o => by
      rw [hext, look₁.2, List.append_assoc]
    have hobs' : ∀ o ∈ obs ++ [.clamped (.reservedUnits r.product r.productionDate)
        cap.reservedUnits r.quantity], w₁.db.Clamps r o := fun o ho => by
      rcases List.mem_append.1 ho with ho | ho
      · exact hobs o ho
      · rw [List.mem_singleton.1 ho, ← hunits]
        exact .inr rfl
    refine ⟨fun hout => ⟨w₁.db, inv, cap, look₁.1, hrow₁, hcap, ?_, _, hext' _, hobs'⟩,
      fun hleft => ⟨w₁.db, inv, cap, look₁.1, hrow₁, hcap, ?_, _, hext' _, hobs'⟩⟩
    · rw [Stock.consume, Stock.closeSoldOut, ← hdb₂, hsold, if_pos hout, hunits]
    · rw [Stock.consume, Stock.closeSoldOut, ← hdb₂, hsold, if_neg hleft, hunits]

end Ending

/-! ## The rows of the reservations -/

theorem mem_reservationsWhere {s : Stock} {P : StockReservation → Bool}
    {e : ReservationId × StockReservation} :
    e ∈ s.reservationsWhere P ↔ s.reservations.rows e.1 = some e.2 ∧ P e.2 = true := by
  rw [Stock.reservationsWhere, List.mem_reverse, Table.mem_filter]

@[simp] theorem reservations_hold {s : Stock} {r : StockReservation} :
    (s.hold r).reservations = s.reservations.insert r := by
  unfold Stock.hold
  dsimp only
  split <;> rfl

@[simp] theorem reservations_returnUnits (s : Stock) (r : StockReservation) :
    (s.returnUnits r).reservations = s.reservations := by
  unfold Stock.returnUnits
  split <;> rfl

@[simp] theorem reservations_release (s : Stock) (i : ReservationId) (r : StockReservation)
    (status : ReservationStatus) : (s.release i r status).reservations =
      s.reservations.modify i ({ · with status }) := by
  rw [Stock.release, Stock.reservations_updateReservation, Stock.returnCapacity,
    Stock.reservations_updateCapacity, reservations_returnUnits]

@[simp] theorem reservations_takeUnits (s : Stock) (r : StockReservation) :
    (s.takeUnits r).reservations = s.reservations := by
  unfold Stock.takeUnits
  split <;> rfl

@[simp] theorem reservations_closeSoldOut (s : Stock) (p : ProductId) :
    (s.closeSoldOut p).reservations = s.reservations := by
  unfold Stock.closeSoldOut
  split <;> rfl

@[simp] theorem reservations_consume (s : Stock) (i : ReservationId) (r : StockReservation)
    (n : ℕ) : (s.consume i r n).reservations =
      s.reservations.modify i ({ · with status := .released }) := by
  rw [Stock.consume, reservations_closeSoldOut, Stock.reservations_updateReservation,
    Stock.reservations_updateCapacity, reservations_takeUnits]

end Crumbs
