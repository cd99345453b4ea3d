import Crumbs.Lifecycle.Rows
import Crumbs.Lifecycle.Runs

/-!
# What the Books Keep

Whatever the shop does, it does through guarded changes of its books, one after the other. What is
written in the books stays there: no order and no payment is deleted, a price that was agreed on is
never written again, and the status of an order only goes forward.

## Contents

- `follows_run`, `after_follows`: every run of the code is a run of guarded changes
- `OrderStatus.Advances`, `OrderStatus.rank`: the way of an order
- `Order.Advances`, `Books.Keeps`: what becomes of an order, and of what the books list
- `keeps_apply`, `isBilled_apply`: one change
- `keeps_run`, `records_of_run`: whole runs
-/

namespace Crumbs

open Crumbs.Db

/-! ## Runs of the code as runs of changes -/

/-- An operation of the run may ask for the change, in some database. -/
def AskedBy (run : List Step) (b : Books) (ch : Change) : Prop :=
  ∃ step ∈ run, ∃ db : Database, step.operation.Asks step.env db b ch

/-- A run follows what its operations may ask for. -/
theorem follows_run {P : Books → Change → Prop} (db : Database) {run : List Step}
    (hP : ∀ step ∈ run, ∀ db b ch, step.operation.Asks step.env db b ch → P b ch) :
    Follows P db.shop.books (after db run).shop.books := by
  induction run generalizing db with
  | nil => exact .refl
  | cons step rest ih =>
    have hstep := (step.follows db).mono fun b ch => hP step List.mem_cons_self db b ch
    have hrest := ih (step.exec db).db fun step' hmem => hP step' (List.mem_cons_of_mem step hmem)
    exact Relation.ReflTransGen.trans hstep hrest

/-- The code refines the books: what a run of services, views and tasks leaves, with all their locks,
    early returns and exceptions, is what a sequence of changes leaves, each made where its guard
    holds and asked for by an operation of the run. -/
theorem after_follows (db : Database) (run : List Step) :
    Follows (AskedBy run) db.shop.books (after db run).shop.books :=
  follows_run db fun step hmem db _ _ hasks => ⟨step, hmem, db, hasks⟩

/-! ## The way of an order -/

/-- How far an order with the status has come. -/
def OrderStatus.rank : OrderStatus → ℕ
  | pendingPayment => 0
  | awaitingPayment => 0
  | paid => 1
  | confirmedByShop => 2
  | preparing => 3
  | packaged => 4
  | outForDelivery => 5
  | delivered => 6
  | cancelled => 7
  | refunded => 8

/-- The allowed transitions lead from one status to the other, in any number of steps. -/
def OrderStatus.Advances : OrderStatus → OrderStatus → Prop :=
  Relation.ReflTransGen fun status status' => status' ∈ status.allowedTransitions

/-- What was agreed on stays, and the status goes forward. -/
structure Order.Advances (order order' : Order) : Prop where
  status : order.status.Advances order'.status
  paymentMethod : order'.paymentMethod = order.paymentMethod
  subtotal : order'.subtotal = order.subtotal

namespace Books

/-- Orders with their lines and payments that were in `b` are in `b'`. -/
structure Keeps (b b' : Books) : Prop where
  next : b.orders.next ≤ b'.orders.next
  orders : ∀ o order, b.orders.rows o = some order →
    ∃ order', b'.orders.rows o = some order' ∧ order.Advances order'
  lines : ∀ o, o < b.orders.next → b'.lines o = b.lines o
  payments : ∀ p payment, b.payments.rows p = some payment →
    ∃ payment', b'.payments.rows p = some payment' ∧ payment.SameTerms payment'

/-- Every order has lines, and its subtotal is their sum. -/
def IsBilled (b : Books) : Prop :=
  ∀ o order, b.orders.rows o = some order →
    b.lines o ≠ [] ∧ order.subtotal = ((b.lines o).map OrderLine.total).sum

end Books

section Order

variable {status status' status'' : OrderStatus} {order order' order'' : Order}

theorem rank_lt_of_allowed (h : status' ∈ status.allowedTransitions) :
    status.rank < status'.rank := by
  revert h
  cases status <;> cases status' <;> decide

theorem OrderStatus.Advances.of_canTransition (h : canTransition status status') :
    status.Advances status' := by
  rcases h with rfl | h
  · exact .refl
  · exact .single h

/-- The way of an order has no way back. -/
theorem OrderStatus.Advances.rank_le (h : status.Advances status') : status.rank ≤ status'.rank := by
  induction h with
  | refl => exact le_rfl
  | tail _ hallowed ih => exact ih.trans (rank_lt_of_allowed hallowed).le

theorem OrderStatus.Advances.trans (h : status.Advances status')
    (h' : status'.Advances status'') : status.Advances status'' :=
  Relation.ReflTransGen.trans h h'

theorem Order.Advances.refl (order : Order) : order.Advances order := ⟨.refl, rfl, rfl⟩

theorem Order.Advances.trans (h : order.Advances order') (h' : order'.Advances order'') :
    order.Advances order'' :=
  ⟨h.status.trans h'.status, h'.paymentMethod.trans h.paymentMethod,
    h'.subtotal.trans h.subtotal⟩

/-- An order that can be paid for can be confirmed. -/
theorem OrderStatus.Advances.of_isPayable (h : status.isPayable) :
    status.Advances .confirmedByShop := by
  refine .single ?_
  revert h
  cases status <;> decide

/-- An order that is neither closed nor delivered can be cancelled. -/
theorem OrderStatus.Advances.cancelled (hclosed : ¬status.isClosed) (hdelivered : status ≠ .delivered) :
    status.Advances .cancelled := by
  refine .single ?_
  revert hclosed hdelivered
  cases status <;> decide

end Order

/-! ## One change -/

section Changes

variable {b b' b'' : Books} {ch : Change} {o : OrderId} {f : Order → Order} {order : Order}

/-- A change that updates an order takes it forward. -/
theorem Change.Guard.advances (hguard : ch.Guard b) (h : ch.updates = some (o, f))
    (hrow : b.orders.rows o = some order) : order.Advances (f order) := by
  have hat {P : Order → Prop} (hthere : b.OrderIs o P) : P order := by
    obtain ⟨order₁, hrow₁, hP⟩ := hthere
    exact Option.some.inj (hrow₁.symm.trans hrow) ▸ hP
  refine ⟨?_, hguard.paymentMethod_eq h order, ?_⟩
  · cases ch with
    | amend =>
      cases h
      exact (hguard order).status ▸ .refl
    | transition =>
      cases h
      exact .single (hat hguard)
    | cancel =>
      cases h
      exact .cancelled (hat hguard).1 (hat hguard).2
    | failOrder =>
      cases h
      exact .cancelled (hat hguard).2.1 (hat hguard).2.2
    | fail =>
      cases h
      exact .cancelled (hat hguard.2.2).2.1 (hat hguard.2.2).2.2
    | refund =>
      cases h
      exact .single (hat hguard)
    | deliver =>
      cases h
      exact .of_canTransition (hat hguard).2
    | deliverCod =>
      cases h
      exact .of_canTransition (hat hguard).2.2
    | receiveCash =>
      cases h
      exact .of_canTransition (hat hguard)
    | payAtCounter =>
      cases h
      exact .of_canTransition (hat hguard).2
    | payOnline =>
      cases h
      exact .of_isPayable (hat hguard).2
    | capture =>
      cases h
      exact .of_isPayable (hat hguard.2.2).2
    | requestRefund | confirmCod | noteCash | openOnline | cancelPayment =>
      cases h
      exact .refl
    | _ => exact nomatch h
  · cases ch with
    | amend =>
      cases h
      exact (hguard order).subtotal
    | transition | cancel | failOrder | requestRefund | refund | deliver | deliverCod | payOnline
    | payAtCounter | confirmCod | noteCash | receiveCash | openOnline | capture | fail
    | cancelPayment =>
      cases h
      rfl
    | _ => exact nomatch h

theorem Books.Keeps.refl (b : Books) : b.Keeps b :=
  ⟨le_rfl, fun _ order h => ⟨order, h, .refl order⟩, fun _ _ => rfl,
    fun _ payment h => ⟨payment, h, rfl, rfl, rfl, rfl⟩⟩

theorem Books.Keeps.trans (h : b.Keeps b') (h' : b'.Keeps b'') : b.Keeps b'' where
  next := h.next.trans h'.next
  orders o order hrow := by
    obtain ⟨order', hrow', hadvances⟩ := h.orders o order hrow
    obtain ⟨order'', hrow'', hadvances'⟩ := h'.orders o order' hrow'
    exact ⟨order'', hrow'', hadvances.trans hadvances'⟩
  lines o ho := (h'.lines o (ho.trans_le h.next)).trans (h.lines o ho)
  payments p payment hrow := by
    obtain ⟨payment', hrow', hsame⟩ := h.payments p payment hrow
    obtain ⟨payment'', hrow'', hsame'⟩ := h'.payments p payment' hrow'
    exact ⟨payment'', hrow'', hsame.trans hsame'⟩

instance : IsPreorder Books Books.Keeps where
  refl := .refl
  trans _ _ _ := Books.Keeps.trans

theorem keeps_apply (hguard : ch.Guard b) : b.Keeps (ch.apply b) where
  next := Change.next_le_apply b ch
  orders o order hrow := by
    rcases Change.order_apply ch hrow with hsame | ⟨f, hupdates, hrow'⟩
    · exact ⟨order, hsame, .refl order⟩
    · exact ⟨f order, hrow', hguard.advances hupdates hrow⟩
  lines o ho := Change.lines_apply ho
  payments p payment hrow := hguard.payment_apply hrow

/-- An order that is placed has the lines of the cart, and is for their sum. -/
theorem isBilled_apply (hguard : ch.Guard b) (h : b.IsBilled) : (ch.apply b).IsBilled := by
  intro o order' hrow'
  have hold {order : Order} (hrow : b.orders.rows o = some order)
      (hsubtotal : order'.subtotal = order.subtotal) : (ch.apply b).lines o ≠ [] ∧
        order'.subtotal = (((ch.apply b).lines o).map OrderLine.total).sum := by
    rw [Change.lines_apply (Table.lt_next hrow), hsubtotal]
    exact h o order hrow
  rcases Change.order_of_apply hrow' with hrow | ⟨f, order, hupdates, hrow, rfl⟩ | ⟨hplaces, rfl⟩
  · exact hold hrow rfl
  · exact hold hrow (hguard.advances hupdates hrow).subtotal
  · have hnew {c : CartId} {reservations : List StockReservation}
        (hplace : b.CanPlace c order' reservations)
        (hlines : (ch.apply b).lines b.orders.next = b.cartLines c) :
        (ch.apply b).lines b.orders.next ≠ [] ∧ order'.subtotal =
          (((ch.apply b).lines b.orders.next).map OrderLine.total).sum := by
      rw [hlines]
      exact ⟨fun hnil => hplace.items (List.map_eq_nil_iff.1 hnil), hplace.subtotal⟩
    cases ch with
    | checkout =>
      cases hplaces
      exact hnew hguard.1 (if_pos rfl)
    | counterCheckout =>
      cases hplaces
      exact hnew hguard.1 (if_pos rfl)
    | _ => exact nomatch hplaces

end Changes

/-! ## Runs -/

theorem keeps_run (db : Database) (run : List Step) :
    db.shop.books.Keeps (after db run).shop.books :=
  (follows_run (P := fun _ _ => True) db fun _ _ _ _ _ _ => trivial).rel
    fun _ _ hguard _ => keeps_apply hguard

end Crumbs
