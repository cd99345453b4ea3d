import Crumbs.Lifecycle.Rows
import Crumbs.Lifecycle.Runs

/-!
# What Is Booked for an Order

An order is booked when it is placed, one reservation for each line. Whatever becomes of these
reservations, they stay rows of the table, for the same product and the same quantity. So what is
booked for an order is what it has on its lines, for as long as it is there.

## Contents

- `Books.ordered`, `Books.bookedFor`: the units on the lines of an order, and on its bookings
- `Change.books`: the reservations that a change books
- `bookedFor_apply`, `ordered_apply`: what it adds to the bookings; the lines of an order stay
- `Books.IsBooked`: the lines of an order are covered by its bookings
-/

namespace Crumbs

open Crumbs.Db

/-! ## Lines and bookings -/

/-- What a reservation books of `p` for the order, whatever has become of it. -/
def StockReservation.bookedFor (o : OrderId) (p : ProductId) (r : StockReservation) : ℕ :=
  if r.order = some o ∧ r.cart = none ∧ r.product = p then r.quantity else 0

namespace Books

/-- The units of `p` on the lines of the order. -/
def ordered (b : Books) (o : OrderId) (p : ProductId) : ℕ :=
  (((b.lines o).filter (·.product = p)).map (·.quantity)).sum

/-- The units of `p` on the bookings of the order. -/
def bookedFor (b : Books) (o : OrderId) (p : ProductId) : ℕ :=
  b.holds.total (StockReservation.bookedFor o p)

end Books

section Holds

variable {holds holds' : Holds} {o : OrderId} {p : ProductId} {c : CartId}

/-- A table that has the rows of others has all that is booked for orders. -/
theorem bookedFor_le (h : ∀ i r, r.cart ≠ some c → holds.rows i = some r → holds'.rows i = some r) :
    holds.total (StockReservation.bookedFor o p) ≤ holds'.total (StockReservation.bookedFor o p) := by
  refine Table.total_mono fun i => ?_
  cases hrow : holds.rows i with
  | none => exact Nat.zero_le _
  | some r =>
    rw [Option.elim_some]
    by_cases hcart : r.cart = some c
    · rw [StockReservation.bookedFor, if_neg fun h => Option.some_ne_none c (hcart.symm.trans h.2.1)]
      exact Nat.zero_le _
    · rw [h i r hcart hrow]
      exact le_rfl

theorem bookedFor_reshelves (h : Reshelves c holds holds') :
    holds'.total (StockReservation.bookedFor o p) = holds.total (StockReservation.bookedFor o p) :=
  (bookedFor_le fun i r hr => (h.others i r hr).1).antisymm
    (bookedFor_le fun i r hr => (h.others i r hr).2)

theorem sum_bookedFor {lines : List OrderLine} {reservations : List StockReservation}
    (h : Bookings o lines reservations) (p : ProductId) :
    (reservations.map (StockReservation.bookedFor o p)).sum =
      ((lines.filter (·.product = p)).map (·.quantity)).sum := by
  have hpairs : reservations.map (StockReservation.bookedFor o p) =
      (reservations.map fun r => (r.product, r.quantity)).map
        fun e => if e.1 = p then e.2 else 0 := by
    rw [List.map_map]
    refine List.map_congr_left fun r hr => ?_
    obtain ⟨horder, hcart, -⟩ := h.each r hr
    exact if_congr ⟨fun hbooks => hbooks.2.2, fun hp => ⟨horder, hcart, hp⟩⟩ rfl rfl
  rw [hpairs, h.lines, List.map_map]
  refine (List.sum_map_ite (fun line : OrderLine => line.product = p) (·.quantity) (fun _ => 0)
    lines).trans ?_
  simp

end Holds

/-! ## Changes -/

/-- The reservations that the change books. -/
def Change.books : Change → List StockReservation
  | reserve _ reservations | checkout _ _ reservations _ | counterCheckout _ _ reservations _ =>
    reservations
  | _ => []

section Changes

variable {b : Books} {ch : Change} {o : OrderId}

/-- What is counted of a reservation whatever its status is. -/
def StockReservation.Lasting (f : StockReservation → ℕ) : Prop :=
  ∀ (r : StockReservation) status expiresAt, f { r with status, expiresAt } = f r

/-- Reservations stay, whatever becomes of them, and new ones are added to them. -/
theorem total_apply (ch : Change) {f : StockReservation → ℕ} (hf : StockReservation.Lasting f)
    (hshelve : ∀ c items holds, ch = .shelve c items holds → holds.total f = b.holds.total f) :
    (ch.apply b).holds.total f = b.holds.total f + (ch.books.map f).sum := by
  have hsame (P : StockReservation → Bool) (status : ReservationStatus) (holds : Holds) :
      (holds.updateWhere P ({ · with status })).total f = holds.total f :=
    Table.total_updateWhere_same fun r _ => hf r status r.expiresAt
  have hconfirmed (P : StockReservation → Bool) (holds : Holds) :
      (holds.updateWhere P ({ · with status := .confirmed, expiresAt := none })).total f =
        holds.total f :=
    Table.total_updateWhere_same fun r _ => hf r .confirmed none
  cases ch with
  | shelve c items holds => exact hshelve c items holds rfl
  | expire => exact hsame _ .expired _
  | release | cancel | failOrder | fail | deliver => exact hsame _ .released _
  | refund o' =>
    change (Holds.release o' (Change.refundNewest b o').holds).total _ = _
    rw [Change.holds_refundNewest]
    exact hsame _ .released _
  | refundPayment o' =>
    change (Change.refundNewest b o').holds.total _ = _
    rw [Change.holds_refundNewest]
    rfl
  | confirm | payOnline | payAtCounter | capture => exact hconfirmed _ _
  | receiveCash => exact (hsame _ .released _).trans (hconfirmed _ _)
  | reserve => exact Table.total_insertAll ..
  | checkout | counterCheckout =>
    refine (hsame _ .released _).trans ((Table.total_insertAll ..).trans ?_)
    exact congrArg (· + _) (hsame _ .released _)
  | _ => rfl

/-- The bookings of an order stay, whatever becomes of them, and new ones are added to them. -/
theorem bookedFor_apply (hguard : ch.Guard b) (o : OrderId) (p : ProductId) :
    (ch.apply b).bookedFor o p =
      b.bookedFor o p + (ch.books.map (StockReservation.bookedFor o p)).sum := by
  refine total_apply ch (fun _ _ _ => rfl) ?_
  rintro c items holds rfl
  exact bookedFor_reshelves hguard

theorem bookedFor_le_apply (hguard : ch.Guard b) (o : OrderId) (p : ProductId) :
    b.bookedFor o p ≤ (ch.apply b).bookedFor o p := by
  rw [bookedFor_apply hguard]
  exact Nat.le_add_right _ _

/-- The order that a change places is booked by it. -/
theorem bookedFor_place (hguard : ch.Guard b) {order : Order} (h : ch.places = some order)
    (p : ProductId) : (ch.apply b).bookedFor b.orders.next p =
      b.bookedFor b.orders.next p + (ch.apply b).ordered b.orders.next p := by
  have hlines {c : CartId} {reservations : List StockReservation}
      (hbookings : Bookings b.orders.next (b.cartLines c) reservations) (hbooks : ch.books = reservations)
      (hplaced : (ch.apply b).lines b.orders.next = b.cartLines c) :
      (ch.books.map (StockReservation.bookedFor b.orders.next p)).sum =
        (ch.apply b).ordered b.orders.next p := by
    rw [hbooks, sum_bookedFor hbookings, Books.ordered, hplaced]
  rw [bookedFor_apply hguard]
  cases ch with
  | checkout => rw [hlines hguard.1.bookings rfl (if_pos rfl)]
  | counterCheckout => rw [hlines hguard.1.bookings rfl (if_pos rfl)]
  | _ => exact nomatch h

theorem ordered_apply (h : o < b.orders.next) (p : ProductId) :
    (ch.apply b).ordered o p = b.ordered o p := by
  rw [Books.ordered, Change.lines_apply h, Books.ordered]

end Changes

/-! ## Orders that are booked -/

/-- The order, if it is there, has all its lines booked. -/
def Books.IsBooked (b : Books) (o : OrderId) : Prop :=
  b.orders.rows o ≠ none → ∀ p, b.ordered o p ≤ b.bookedFor o p

/-- Orders stay booked. -/
theorem isBooked_apply {b : Books} {ch : Change} {o : OrderId} (hguard : ch.Guard b)
    (h : b.IsBooked o) : (ch.apply b).IsBooked o := by
  intro hthere p
  obtain ⟨order', hrow'⟩ := Option.ne_none_iff_exists'.1 hthere
  have hold {order : Order} (hrow : b.orders.rows o = some order) :
      (ch.apply b).ordered o p ≤ (ch.apply b).bookedFor o p := by
    rw [ordered_apply (Table.lt_next hrow)]
    exact (h (Option.ne_none_iff_exists'.2 ⟨order, hrow⟩) p).trans (bookedFor_le_apply hguard o p)
  rcases Change.order_of_apply hrow' with hrow | ⟨-, order, -, hrow, -⟩ | ⟨hplaces, rfl⟩
  · exact hold hrow
  · exact hold hrow
  · rw [bookedFor_place hguard hplaces]
    exact Nat.le_add_left _ _

end Crumbs
