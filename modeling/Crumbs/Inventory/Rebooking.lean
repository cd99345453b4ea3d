import Crumbs.Inventory.FulfillmentDates
import Crumbs.Inventory.Ledger

/-!
# Giving Holds Back and Booking Again

A cart that changes a line gives its holds on the product back and books the new quantity. What the
booking then finds on the shelf is what was there plus the cart's own units.

## Contents

- `Stock.withdraw`, `inventory_withdraw`: the reservations that a query finds end, and their units
  go back
- `releaseWhere_withdraws`, `expireStaleReservations_withdraws`: the services that do it
- `Rebookable`, `reserveForCartItem_rebooks`: when a cart's hold is replaced by another one
-/

namespace Crumbs

open Crumbs.Db

/-! ## Giving holds back -/

namespace Stock

/-- Ends the reservations that a query finds, and gives their units back. -/
def withdraw (s : Stock) (P : StockReservation → Bool) (status : ReservationStatus) : Stock :=
  (s.reservationsWhere P).foldl (fun s e => s.release e.1 e.2 status) s

/-- The units of `p` in the reservations that a query finds. -/
def unitsWhere (s : Stock) (P : StockReservation → Bool) (p : ProductId) : ℕ :=
  ((s.reservationsWhere P).map fun e => if e.2.product = p then e.2.quantity else 0).sum

section Withdraw

variable {s s' : Stock} {p : ProductId} {P : StockReservation → Bool} {status : ReservationStatus}

@[simp] theorem products_release {i : ReservationId} {r : StockReservation} :
    (s.release i r status).products = s.products := by
  unfold release returnCapacity returnUnits
  split <;> rfl

theorem inventory_release_eq (s : Stock) (i : ReservationId) (r : StockReservation)
    (p : ProductId) : (s.release i r status).inventory p =
      if (s.inventory p).trackStock then
        { s.inventory p with reservedQuantity := (s.inventory p).reservedQuantity -
            if r.product = p then r.quantity else 0 }
      else s.inventory p := by
  rw [inventory_release]
  by_cases hp : p = r.product
  · subst hp
    simp only [true_and, if_true]
  · rw [if_neg fun h => hp h.1, if_neg (Ne.symm hp), Nat.sub_zero, ite_self]

theorem inventory_foldl_release (es : List (ReservationId × StockReservation)) (s : Stock)
    (p : ProductId) : (es.foldl (fun s e => s.release e.1 e.2 status) s).inventory p =
      if (s.inventory p).trackStock then
        { s.inventory p with reservedQuantity := (s.inventory p).reservedQuantity -
            (es.map fun e => if e.2.product = p then e.2.quantity else 0).sum }
      else s.inventory p := by
  induction es generalizing s with
  | nil => rw [List.foldl_nil, List.map_nil, List.sum_nil, Nat.sub_zero, ite_self]
  | cons e rest ih =>
    rw [List.foldl_cons, ih, inventory_release_eq, List.map_cons, List.sum_cons]
    by_cases htrack : (s.inventory p).trackStock
    · simp only [htrack, if_true, Nat.sub_sub]
    · simp only [if_neg htrack]

/-- What the shelf counts as reserved falls by the units that were found. -/
theorem inventory_withdraw (s : Stock) (P : StockReservation → Bool) (status : ReservationStatus)
    (p : ProductId) : (s.withdraw P status).inventory p =
      if (s.inventory p).trackStock then
        { s.inventory p with
          reservedQuantity := (s.inventory p).reservedQuantity - s.unitsWhere P p }
      else s.inventory p := inventory_foldl_release _ s p

theorem products_withdraw (s : Stock) (P : StockReservation → Bool) (status : ReservationStatus) :
    (s.withdraw P status).products = s.products := by
  rw [withdraw]
  induction s.reservationsWhere P generalizing s with
  | nil => rfl
  | cons e rest ih => rw [List.foldl_cons, ih, products_release]

theorem unitsWhere_touch (h : s.Touches s') : s'.unitsWhere P p = s.unitsWhere P p := by
  rw [unitsWhere, reservationsWhere, h.reservations, unitsWhere, reservationsWhere]

/-- A query for another product finds no units. -/
theorem unitsWhere_of_other (h : ∀ r, P r = true → r.product ≠ p) : s.unitsWhere P p = 0 := by
  refine List.sum_eq_zero fun n hn => ?_
  obtain ⟨e, he, rfl⟩ := List.mem_map.1 hn
  exact if_neg (h e.2 (mem_reservationsWhere.1 he).2)

end Withdraw

end Stock

section Services

variable {E : Exn → World Stock (List Observation) → Prop} {w : World Stock (List Observation)}
  {P : StockReservation → Bool}

/-- The loop of a release ends what its query found. -/
theorem releaseAll_withdraws (hP : ∀ r, P r = true → r.isLive) :
    (releaseAll (w.db.reservationsWhere P)).wp
      (fun _ w' => w'.db = w.db.withdraw P .released) E w := by
  let I := fun (rest : List (ReservationId × StockReservation))
    (w' : World Stock (List Observation)) => (∀ e ∈ rest, e.2.isLive) ∧
      rest.foldl (fun s e => s.release e.1 e.2 .released) w'.db = w.db.withdraw P .released
  have hstart : I (w.db.reservationsWhere P) w :=
    ⟨fun e he => hP e.2 (mem_reservationsWhere.1 he).2, rfl⟩
  refine Tx.wp_seq (Tx.wp_forM (I := I) (fun e rest w' h => ?_) hstart) (fun _ _ h => h.2)
    fun _ _ h => h
  refine Tx.wp_mono (releaseSingleReservation_spec e.1 (h.1 e List.mem_cons_self))
    (fun _ w'' h' => ⟨fun e' he' => h.1 e' (List.mem_cons_of_mem e he'), ?_⟩) fun _ _ h => h
  rw [h'.1]
  exact h.2

theorem releaseWhere_withdraws (hP : ∀ r, P r = true → r.isLive) :
    (do let stock ← Tx.getDb
        releaseAll (stock.reservationsWhere P) : StockTx ℕ).wp
      (fun _ w' => w'.db = w.db.withdraw P .released) E w :=
  Tx.wp_bind.2 (releaseAll_withdraws hP)

theorem releaseReservations_withdraws (order : OrderId) : (releaseReservations order).wp
    (fun _ w' => w'.db = w.db.withdraw
      (fun r => r.order = some order ∧ (r.status = .active ∨ r.status = .confirmed)) .released)
    (fun _ _ => False) w := by
  refine Tx.wp_atomic.2 (Tx.wp_bind.2 (Tx.wp_seq (releaseAll_withdraws fun _ hr => ?_)
    (fun _ _ h => h) fun _ _ h => h))
  exact (of_decide_eq_true hr).2

theorem expireStaleReservations_withdraws (env : Env) : (expireStaleReservations env).wp
    (fun _ w' => w'.db = w.db.withdraw (isStale env.now) .expired) (fun _ _ => False) w := by
  let I := fun (rest : List (ReservationId × StockReservation))
    (w' : World Stock (List Observation)) => (∀ e ∈ rest, e.2.isLive) ∧
      rest.foldl (fun s e => s.release e.1 e.2 .expired) w'.db =
        w.db.withdraw (isStale env.now) .expired
  have hstart : I (w.db.reservationsWhere (isStale env.now)) w :=
    ⟨fun e he => .inl (of_decide_eq_true (mem_reservationsWhere.1 he).2).1, rfl⟩
  refine Tx.wp_atomic.2 (Tx.wp_bind.2 (Tx.wp_seq (Tx.wp_forM (I := I) (fun e rest w' h => ?_)
    hstart) (fun _ _ h => h.2) fun _ _ h => h))
  refine Tx.wp_mono (expireSingleReservation_spec e.1 (h.1 e List.mem_cons_self))
    (fun _ w'' h' => ⟨fun e' he' => h.1 e' (List.mem_cons_of_mem e he'), ?_⟩) fun _ _ h => h
  rw [h'.1]
  exact h.2

end Services

/-! ## Booking again -/

/-- What a cart holds of a product. -/
def isCartHold (cart : CartId) (product : ProductId) (r : StockReservation) : Bool :=
  r.cart = some cart ∧ r.product = product ∧ r.status = .active

/-- The stock that a cart books from when it changes a line: its own holds are back. -/
def Stock.withoutHolds (s : Stock) (cart : CartId) (product : ProductId) : Stock :=
  (s.setInventory product (s.inventory product)).withdraw (isCartHold cart product) .released

/-- The cart can have `quantity` units of a tracked product in place of those that it holds: the
    search finds a day, that day has room, and the units are on the shelf or may be pre-ordered. -/
def Rebookable (env : Env) (s : Stock) (cart : CartId) (product : ProductId) (quantity : ℤ) : Prop :=
  let s' := s.withoutHolds cart product
  0 ≤ quantity ∧ (s'.InStock product quantity ∨ (s'.inventory product).allowPreorder) ∧
    ∃ d ∈ s'.foundDate product quantity env.today, s'.Fits product quantity d

instance (env : Env) (s : Stock) (cart : CartId) (product : ProductId) (quantity : ℤ) :
    Decidable (Rebookable env s cart product quantity) :=
  inferInstanceAs (Decidable (_ ∧ _ ∧ ∃ d ∈ _, _))

section Rebooking

variable {w : World Stock (List Observation)} (env : Env) (cart : CartId) (product : ProductId)
  (quantity : ℤ)

/-- Of an untracked product nothing is held. The hold on a tracked one is replaced if and only if
    the new quantity can be booked. -/
theorem reserveForCartItem_rebooks : (reserveForCartItem env cart product quantity).wp
    (fun _ w' => (w.db.inventory product).trackStock = false ∧ w.db.SameDays w'.db ∨
      (w.db.inventory product).trackStock ∧ Rebookable env w.db cart product quantity ∧
        ∃ e, Reserved (w.db.withoutHolds cart product) none product quantity (some cart) e w'.db)
    (fun _ w' => w'.db = w.db ∧ (w.db.inventory product).trackStock ∧
      ¬Rebookable env w.db cart product quantity) w := by
  have hinventory : (getOrCreateInventory product).wp (fun inv w' => inv = w.db.inventory product ∧
      w'.db = w.db.setInventory product (w.db.inventory product))
      (fun _ _ => False) w := ⟨rfl, rfl⟩
  refine Tx.wp_atomic.2 (Tx.wp_seq hinventory (fun inv w₁ h₁ => ?_) fun _ _ h => h.elim)
  obtain ⟨rfl, hdb₁⟩ := h₁
  refine Tx.wp_ite.2 ⟨fun huntracked => ?_, fun htrack => ?_⟩
  · exact .inl ⟨huntracked, hdb₁ ▸ .setInventory _ _⟩
  have htrack : (w.db.inventory product).trackStock := by simpa using htrack
  rw [Tx.wp_bind, Tx.wp_getDb]
  refine Tx.wp_seq (releaseAll_withdraws fun _ hr => .inl (of_decide_eq_true hr).2.2)
    (fun _ w₂ h₂ => ?_) fun _ _ h => h
  have hdb₂ : w₂.db = w.db.withoutHolds cart product := by rw [h₂, hdb₁]; rfl
  refine Tx.wp_seq (Tx.wp_and (reserveItem_spec env none product quantity (some cart) _ w₂)
    (Tx.wp_self _ w₂)) (fun e w₃ h₃ => ?_) fun e w₃ h₃ => ⟨rfl, htrack, fun h => ?_⟩
  · obtain ⟨⟨hreserved, -⟩, hrun⟩ := h₃
    have hpos : 0 ≤ quantity := hreserved.quantity ▸ Int.natCast_nonneg _
    lift quantity to ℕ using hpos
    obtain ⟨hfound, hor, hfits⟩ := Tx.wp_of_ok (reserveItem_days env _ _ _ _ quantity) hrun
    rw [hdb₂] at hfound hor hfits hreserved
    exact .inr ⟨htrack, ⟨Int.natCast_nonneg _, hor, _, hfound, hfits⟩, e, hreserved⟩
  · obtain ⟨hpos, hor, d, hfound, hfits⟩ := h
    lift quantity to ℕ using hpos
    rw [← hdb₂] at hfound hor hfits
    exact Tx.wp_of_error (reserveItem_days env _ _ _ _ quantity) h₃.2 d hfound hor hfits

end Rebooking

end Crumbs
