import Crumbs.Lifecycle.Changes

/-!
# Rows after a Change

A change touches at most one order and one payment. What it does to them is read off here once, so
that an invariant about orders or payments needs a case only for the changes that touch them.

## Contents

- `Change.places`, `Change.updates`: the order that is new, or not what it was
- `Change.opens`, `Change.rewrites`, `Change.refunds`: the same for payments
- `order_of_apply`, `payment_of_apply`: where a row comes from
-/

namespace Crumbs

open Crumbs.Db

variable {b : Books} {ch : Change} {o : OrderId} {p : PaymentId}

/-! ## Orders -/

namespace Change

/-- The order that the change creates. -/
def places : Change → Option Order
  | checkout _ order _ _ | counterCheckout _ order _ _ => some order
  | _ => none

/-- The order that the change updates, and how. -/
def updates : Change → Option (OrderId × (Order → Order))
  | amend o f => some (o, f)
  | transition o status => some (o, ({ · with status }))
  | cancel o => some (o, Order.cancelled)
  | failOrder o | fail o _ _ => some (o, Order.failed)
  | requestRefund o => some (o, ({ · with paymentStatus := .refundRequested }))
  | refund o => some (o, Order.refunded)
  | deliver o | deliverCod o => some (o, ({ · with status := .delivered }))
  | payOnline o | capture o _ _ => some (o, Order.paidOnline)
  | payAtCounter o => some (o, Order.paidAtCounter)
  | confirmCod o => some (o, ({ · with paymentStatus := .codConfirmed }))
  | noteCash o => some (o, ({ · with paymentStatus := .cashReceived }))
  | receiveCash o => some (o, Order.cashReceived)
  | openOnline payment => some (payment.order, ({ · with paymentStatus := .pendingPayment }))
  | cancelPayment o _ _ => some (o, ({ · with paymentStatus := .pendingPayment }))
  | _ => none

/-- The order that the change cancels. -/
def cancels : Change → Option OrderId
  | cancel o | failOrder o | fail o _ _ | transition o .cancelled => some o
  | _ => none

theorem orders_apply (b : Books) (ch : Change) : (ch.apply b).orders =
    match ch.places, ch.updates with
    | some order, _ => b.orders.insert order
    | none, some (o, f) => b.orders.modify o f
    | none, none => b.orders := by
  cases ch with
  | refund o => exact congrArg (·.modify o Order.refunded) (orders_refundNewest b o)
  | refundPayment o => exact orders_refundNewest b o
  | _ => rfl

/-- The order was there and is as it was, or it was updated, or it is new. -/
theorem order_of_apply {order' : Order} (h : (ch.apply b).orders.rows o = some order') :
    b.orders.rows o = some order' ∨
      (∃ f order, ch.updates = some (o, f) ∧ b.orders.rows o = some order ∧ order' = f order) ∨
        (ch.places = some order' ∧ o = b.orders.next) := by
  rw [orders_apply] at h
  cases hplaces : ch.places with
  | some order =>
    rw [hplaces, Table.rows_insert] at h
    split at h
    next ho => exact .inr (.inr ⟨h, ho⟩)
    next => exact .inl h
  | none =>
    cases hupdates : ch.updates with
    | none =>
      rw [hplaces, hupdates] at h
      exact .inl h
    | some e =>
      rw [hplaces, hupdates] at h
      rcases Table.rows_modify_eq_some.1 h with ⟨rfl, order, hrow, rfl⟩ | ⟨-, hrow⟩
      · exact .inr (.inl ⟨e.2, order, rfl, hrow, rfl⟩)
      · exact .inl hrow

/-- An order that is there stays there. -/
theorem exists_order_apply (ch : Change) {order : Order} (h : b.orders.rows o = some order) :
    ∃ order', (ch.apply b).orders.rows o = some order' := by
  rw [orders_apply]
  cases ch.places with
  | some new => exact ⟨order, Table.rows_insert_of_some new h⟩
  | none =>
    cases ch.updates with
    | none => exact ⟨order, h⟩
    | some e =>
      by_cases ho : o = e.1
      · exact ⟨e.2 order, by rw [ho, Table.rows_modify_self, ← ho, h]; rfl⟩
      · exact ⟨order, (Table.rows_modify_ne _ _ ho).trans h⟩

/-- An order that is there is left alone or updated. -/
theorem order_apply (ch : Change) {order : Order} (h : b.orders.rows o = some order) :
    (ch.apply b).orders.rows o = some order ∨
      ∃ f, ch.updates = some (o, f) ∧ (ch.apply b).orders.rows o = some (f order) := by
  obtain ⟨order', hrow'⟩ := exists_order_apply ch h
  rcases order_of_apply hrow' with hsame | ⟨f, order₁, hupdates, hrow₁, rfl⟩ | ⟨-, rfl⟩
  · obtain rfl := Option.some.inj (h.symm.trans hsame)
    exact .inl hrow'
  · obtain rfl := Option.some.inj (h.symm.trans hrow₁)
    exact .inr ⟨f, hupdates, hrow'⟩
  · exact nomatch h.symm.trans (b.orders.fresh _ le_rfl)

/-- How an order is to be paid is never changed. -/
theorem Guard.paymentMethod_eq (hguard : ch.Guard b) {f : Order → Order}
    (h : ch.updates = some (o, f)) (order : Order) :
    (f order).paymentMethod = order.paymentMethod := by
  cases ch with
  | amend =>
    cases h
    exact (hguard order).paymentMethod
  | transition | cancel | failOrder | requestRefund | refund | deliver | deliverCod | payOnline
  | payAtCounter | confirmCod | noteCash | receiveCash | openOnline | capture | fail
  | cancelPayment =>
    cases h
    rfl
  | _ => exact nomatch h

/-- The lines of an order are written once. -/
theorem lines_apply (h : o < b.orders.next) : (ch.apply b).lines o = b.lines o := by
  cases ch with
  | checkout | counterCheckout => exact if_neg h.ne
  | refund o' | refundPayment o' => exact congrFun (lines_refundNewest b o') o
  | _ => rfl

theorem next_le_apply (b : Books) (ch : Change) : b.orders.next ≤ (ch.apply b).orders.next := by
  rw [orders_apply]
  split
  · exact Nat.le_succ _
  · exact le_rfl
  · exact le_rfl

/-! ## Payments -/

/-- The payment that the change opens. -/
def opens : Change → Option Payment
  | openOnline payment | openOffline payment => some payment
  | checkout _ _ _ payment | counterCheckout _ _ _ payment => payment
  | _ => none

/-- The payment that the change rewrites, and how. -/
def rewrites : Change → Option (PaymentId × (Payment → Payment))
  | settle p f | capture _ p f | fail _ p f | failLate _ p f | cancelPayment _ p f => some (p, f)
  | captureAgain _ p => some (p, Payment.succeed)
  | _ => none

/-- The payment that the change gives its money. -/
def pays : Change → Option PaymentId
  | settle p _ | capture _ p _ | captureAgain _ p => some p
  | _ => none

/-- The order whose newest payment the change refunds. -/
def refunds : Change → Option OrderId
  | refund o | refundPayment o => some o
  | _ => none

theorem payments_apply (b : Books) (ch : Change) : (ch.apply b).payments =
    match ch.opens, ch.rewrites, ch.refunds with
    | some payment, _, _ => b.payments.insert payment
    | none, some (p, f), _ => b.payments.modify p f
    | none, none, some o => (refundNewest b o).payments
    | none, none, none => b.payments := by
  cases ch with
  | checkout c order reservations payment => cases payment <;> rfl
  | counterCheckout c order reservations payment => cases payment <;> rfl
  | _ => rfl

/-- A refund touches one payment of the order, and only if it has succeeded. -/
theorem payment_of_refundNewest {payment' : Payment}
    (h : (refundNewest b o).payments.rows p = some payment') :
    b.payments.rows p = some payment' ∨ ∃ payment, b.newestPayment o = some (p, payment) ∧
      b.payments.rows p = some payment ∧ payment.order = o ∧ payment.status = .succeeded ∧
        payment' = payment.refund := by
  rw [refundNewest] at h
  cases hnewest : b.newestPayment o with
  | none =>
    rw [hnewest] at h
    exact .inl h
  | some e =>
    rw [hnewest] at h
    dsimp only at h
    split at h
    next hsucceeded =>
      obtain ⟨hrow, horder⟩ := Table.mem_filter.1 (newest_mem hnewest)
      rcases Table.rows_modify_eq_some.1 h with ⟨rfl, payment, hpay, rfl⟩ | ⟨-, hpay⟩
      · obtain rfl := Option.some.inj (hrow.symm.trans hpay)
        exact .inr ⟨e.2, rfl, hrow, of_decide_eq_true horder, hsucceeded, rfl⟩
      · exact .inl hpay
    next => exact .inl h

/-- The payment was there and is as it was, or it was rewritten or refunded, or it is new. -/
theorem payment_of_apply {payment' : Payment} (h : (ch.apply b).payments.rows p = some payment') :
    b.payments.rows p = some payment' ∨
      (∃ f payment, ch.rewrites = some (p, f) ∧ b.payments.rows p = some payment ∧
        payment' = f payment) ∨
        (∃ payment, ch.refunds = some payment.order ∧
          b.newestPayment payment.order = some (p, payment) ∧ b.payments.rows p = some payment ∧
            payment.status = .succeeded ∧ payment' = payment.refund) ∨
          (ch.opens = some payment' ∧ p = b.payments.next) := by
  rw [payments_apply] at h
  cases hopens : ch.opens with
  | some payment =>
    rw [hopens, Table.rows_insert] at h
    split at h
    next hp => exact .inr (.inr (.inr ⟨h, hp⟩))
    next => exact .inl h
  | none =>
    cases hrewrites : ch.rewrites with
    | some e =>
      rw [hopens, hrewrites] at h
      rcases Table.rows_modify_eq_some.1 h with ⟨rfl, payment, hrow, rfl⟩ | ⟨-, hrow⟩
      · exact .inr (.inl ⟨e.2, payment, rfl, hrow, rfl⟩)
      · exact .inl hrow
    | none =>
      cases hrefunds : ch.refunds with
      | none =>
        rw [hopens, hrewrites, hrefunds] at h
        exact .inl h
      | some o =>
        rw [hopens, hrewrites, hrefunds] at h
        rcases payment_of_refundNewest h with hrow | ⟨payment, hnewest, hrow, rfl, hsucceeded, rfl⟩
        · exact .inl hrow
        · exact .inr (.inr (.inl ⟨payment, rfl, hnewest, hrow, hsucceeded, rfl⟩))

/-- A payment that is there stays there. -/
theorem exists_payment_apply (ch : Change) {payment : Payment} (h : b.payments.rows p = some payment) :
    ∃ payment', (ch.apply b).payments.rows p = some payment' := by
  have hmodify (q : PaymentId) (f : Payment → Payment) :
      ∃ payment', (b.payments.modify q f).rows p = some payment' := by
    by_cases hp : p = q
    · exact ⟨f payment, by rw [hp, Table.rows_modify_self, ← hp, h]; rfl⟩
    · exact ⟨payment, (Table.rows_modify_ne _ _ hp).trans h⟩
  rw [payments_apply]
  cases ch.opens with
  | some new => exact ⟨payment, Table.rows_insert_of_some new h⟩
  | none =>
    cases ch.rewrites with
    | some e => exact hmodify e.1 e.2
    | none =>
      cases ch.refunds with
      | none => exact ⟨payment, h⟩
      | some o =>
        change ∃ payment', (refundNewest b o).payments.rows p = some payment'
        rw [refundNewest]
        split
        · exact ⟨payment, h⟩
        · split
          · exact hmodify _ _
          · exact ⟨payment, h⟩

/-- A new payment is open. -/
theorem Guard.opens_open (hguard : ch.Guard b) {payment : Payment} (h : ch.opens = some payment) :
    payment.status.isOpen := by
  cases ch with
  | openOnline =>
    cases h
    exact .inr hguard.1.2
  | openOffline =>
    cases h
    exact .inl hguard.2
  | checkout =>
    cases h
    exact .inr hguard.2.2.2.2.2.2.2
  | counterCheckout =>
    cases h
    exact .inl hguard.2.2.2.2.2.2
  | _ => exact nomatch h

/-- Only a payment without its money is ever rewritten. -/
theorem Guard.isUnsettled (hguard : ch.Guard b) {f : Payment → Payment}
    (h : ch.rewrites = some (p, f)) : b.IsUnsettled p := by
  cases ch with
  | settle | capture | captureAgain | fail | failLate | cancelPayment =>
    cases h
    exact hguard.1
  | _ => exact nomatch h

/-- A payment that is rewritten gets its money, or has none. -/
theorem Guard.pays_or (hguard : ch.Guard b) {f : Payment → Payment}
    (h : ch.rewrites = some (p, f)) : ch.pays = some p ∨ ∀ payment, (f payment).status ≠ .succeeded := by
  cases ch with
  | settle | capture | captureAgain =>
    cases h
    exact .inl rfl
  | fail | failLate | cancelPayment =>
    cases h
    refine .inr fun payment => ?_
    rw [(hguard.2.1 payment).2]
    nofun
  | _ => exact nomatch h

/-- It stays a payment for the same order. -/
theorem Guard.sameTerms (hguard : ch.Guard b) {f : Payment → Payment}
    (h : ch.rewrites = some (p, f)) (payment : Payment) : payment.SameTerms (f payment) := by
  cases ch with
  | settle =>
    cases h
    exact (hguard.2 payment).1
  | capture | fail | failLate | cancelPayment =>
    cases h
    exact (hguard.2.1 payment).1
  | captureAgain =>
    cases h
    exact (Payment.becomes_succeed payment).1
  | _ => exact nomatch h

/-- A payment that is there stays a payment for the same order. -/
theorem Guard.payment_apply (hguard : ch.Guard b) {payment : Payment}
    (h : b.payments.rows p = some payment) :
    ∃ payment', (ch.apply b).payments.rows p = some payment' ∧ payment.SameTerms payment' := by
  obtain ⟨payment', hrow'⟩ := exists_payment_apply ch h
  refine ⟨payment', hrow', ?_⟩
  rcases payment_of_apply hrow' with hsame | ⟨f, payment₁, hrewrites, hrow₁, rfl⟩ |
    ⟨payment₁, -, -, hrow₁, -, rfl⟩ | ⟨-, rfl⟩
  · obtain rfl := Option.some.inj (h.symm.trans hsame)
    exact ⟨rfl, rfl, rfl, rfl⟩
  · obtain rfl := Option.some.inj (h.symm.trans hrow₁)
    exact hguard.sameTerms hrewrites payment
  · obtain rfl := Option.some.inj (h.symm.trans hrow₁)
    exact ⟨rfl, rfl, rfl, rfl⟩
  · exact nomatch h.symm.trans (b.payments.fresh _ le_rfl)

end Change

end Crumbs
