import Crumbs.Lifecycle.Payments
import Crumbs.System

/-!
# The Sweep of Stale Payments

The periodic task selects the open payments that are older than its timeout, and looks at each of
them again under a lock. The second look has a timeout of its own, which is always thirty minutes.

## Contents

- `Books.cleanUp`, `Books.due`: what cleaning a payment does, and which payments are cleaned
- `cleanupStaleOnlinePayment_cleans`, `cleanupEach_run`: the second look and the loop
- `due_eq_of_before`, `before_of_length_due`: two cutoffs clean the same payments of a list that is
  sorted by age if and only if none of those due lies between them
- `HonoursTimeout`, `honoursTimeout_iff`
-/

namespace Crumbs

open Crumbs.Db

/-! ## Sweeping the books -/

namespace Books

/-- The payment fails with its order, whose stock is released and whose carts are free again. -/
def cleanUp (b : Books) (e : PaymentId × Payment) : Books :=
  (Change.unlock e.2.order).apply
    ((Change.fail e.2.order e.1 (·.fail cleanupMessage)).apply b)

/-- The order is neither paid nor terminal. -/
def isUnpaid (b : Books) (o : OrderId) : Bool :=
  (b.orders.rows o).any fun order => ¬order.paymentStatus.isSuccessful ∧ ¬order.status.isClosed ∧
    order.status ≠ .delivered

/-- The payments of a list that are older than the cutoff and whose order, when they are reached, is
    neither paid nor terminal. -/
def due (b : Books) (cutoff : Time) : List (PaymentId × Payment) → List (PaymentId × Payment)
  | [] => []
  | e :: rest =>
    if e.2.createdAt < cutoff ∧ b.isUnpaid e.2.order then e :: (b.cleanUp e).due cutoff rest
    else b.due cutoff rest

/-- What a query has selected: open online payments of online orders, none of them twice. -/
structure Selects (b : Books) (payments : List (PaymentId × Payment)) : Prop where
  nodup : (payments.map Prod.fst).Nodup
  each : ∀ e ∈ payments, b.payments.rows e.1 = some e.2 ∧ e.2.status.isOpen ∧
    e.2.provider.isOnline ∧ b.OrderIs e.2.order fun order => order.paymentMethod = .online

variable {b : Books} {e : PaymentId × Payment} {rest payments : List (PaymentId × Payment)}
  {cutoff cutoff' : Time}

theorem Selects.tail (h : b.Selects (e :: rest)) : b.Selects rest :=
  ⟨(List.nodup_cons.1 h.nodup).2, fun e' he' => h.each e' (List.mem_cons_of_mem e he')⟩

/-- Cleaning a payment leaves the others that were selected as they are. -/
theorem Selects.cleanUp (h : b.Selects (e :: rest)) : (b.cleanUp e).Selects rest := by
  refine ⟨h.tail.nodup, fun e' he' => ?_⟩
  obtain ⟨hrow, hopen, honline, order, horder, hmethod⟩ := h.tail.each e' he'
  have hne : e'.1 ≠ e.1 := fun heq =>
    (List.nodup_cons.1 h.nodup).1 (heq ▸ List.mem_map_of_mem he')
  refine ⟨(Table.rows_modify_ne _ _ hne).trans hrow, hopen, honline, ?_⟩
  by_cases heq : e'.2.order = e.2.order
  · refine ⟨order.failed, ?_, hmethod⟩
    rw [heq] at horder ⊢
    exact (Table.rows_modify_self _ _ _).trans (congrArg (Option.map Order.failed) horder)
  · exact ⟨order, (Table.rows_modify_ne _ _ heq).trans horder, hmethod⟩

/-! ### Two cutoffs -/

theorem due_cons_of (hold : e.2.createdAt < cutoff) (hunpaid : b.isUnpaid e.2.order) :
    b.due cutoff (e :: rest) = e :: (b.cleanUp e).due cutoff rest := if_pos ⟨hold, hunpaid⟩

theorem due_cons_of_not (h : ¬(e.2.createdAt < cutoff ∧ b.isUnpaid e.2.order)) :
    b.due cutoff (e :: rest) = b.due cutoff rest := if_neg h

/-- If the payments that are due at one cutoff lie before another one, they are due at both. -/
theorem due_eq_of_before (hselected : ∀ e ∈ payments, e.2.createdAt < cutoff)
    (h : ∀ e ∈ b.due cutoff payments, e.2.createdAt < cutoff') :
    b.due cutoff' payments = b.due cutoff payments := by
  induction payments generalizing b with
  | nil => rfl
  | cons e rest ih =>
    have hrest := fun e' he' => hselected e' (List.mem_cons_of_mem e he')
    by_cases hunpaid : b.isUnpaid e.2.order
    · rw [due_cons_of (hselected e List.mem_cons_self) hunpaid] at h ⊢
      rw [due_cons_of (h e List.mem_cons_self) hunpaid,
        ih hrest fun e' he' => h e' (List.mem_cons_of_mem e he')]
    · rw [due_cons_of_not fun hdue => hunpaid hdue.2] at h ⊢
      rw [due_cons_of_not fun hdue => hunpaid hdue.2]
      exact ih hrest h

/-- No payment is due if all are younger than the cutoff. -/
theorem due_eq_nil (h : ∀ e ∈ payments, cutoff ≤ e.2.createdAt) : b.due cutoff payments = [] := by
  induction payments with
  | nil => rfl
  | cons e rest ih =>
    rw [due_cons_of_not fun hdue => absurd hdue.1 (not_lt.2 (h e List.mem_cons_self))]
    exact ih fun e' he' => h e' (List.mem_cons_of_mem e he')

/-- If as many payments of a list, oldest first, are due at another cutoff, then those that are due
    lie before it. -/
theorem before_of_length_due
    (hsorted : payments.Pairwise fun e e' => e.2.createdAt ≤ e'.2.createdAt)
    (hselected : ∀ e ∈ payments, e.2.createdAt < cutoff)
    (h : (b.due cutoff' payments).length = (b.due cutoff payments).length) :
    ∀ e ∈ b.due cutoff payments, e.2.createdAt < cutoff' := by
  induction payments generalizing b with
  | nil => exact fun _ he => absurd he List.not_mem_nil
  | cons e rest ih =>
    rw [List.pairwise_cons] at hsorted
    have hrest := fun e' he' => hselected e' (List.mem_cons_of_mem e he')
    by_cases hunpaid : b.isUnpaid e.2.order
    · rw [due_cons_of (hselected e List.mem_cons_self) hunpaid] at h ⊢
      by_cases hold : e.2.createdAt < cutoff'
      · rw [due_cons_of hold hunpaid, List.length_cons, List.length_cons] at h
        intro e' he'
        rcases List.mem_cons.1 he' with rfl | he'
        · exact hold
        · exact ih hsorted.2 hrest (Nat.succ.inj h) e' he'
      · -- all that come after it are as young
        have hyoung : ∀ e' ∈ e :: rest, cutoff' ≤ e'.2.createdAt := by
          intro e' he'
          rcases List.mem_cons.1 he' with rfl | he'
          · exact not_lt.1 hold
          · exact (not_lt.1 hold).trans (hsorted.1 e' he')
        rw [due_eq_nil hyoung] at h
        cases h
    · rw [due_cons_of_not fun hdue => hunpaid hdue.2] at h ⊢
      rw [due_cons_of_not fun hdue => hunpaid hdue.2] at h
      exact ih hsorted.2 hrest h

end Books

/-! ## The second look -/

section SecondLook

variable {env : Env} {w : World Shop (List Observation)} {p : PaymentId} {payment : Payment}
  {order : Order}

/-- A selected payment passes the second look if and only if it is older than the default timeout and
    its order is neither paid nor terminal. -/
theorem skipReason_iff (cutoff : Time) (honline : payment.provider.isOnline)
    (hopen : payment.status.isOpen) (hmethod : order.paymentMethod = .online) :
    skipReason payment order cutoff = none ↔ payment.createdAt < cutoff ∧
      ¬order.paymentStatus.isSuccessful ∧ ¬order.status.isClosed ∧ order.status ≠ .delivered := by
  constructor
  · intro h
    obtain ⟨-, -, hold, -, hunpaid, hclosed, hdelivered⟩ := skipReason_eq_none h
    exact ⟨hold, hunpaid, hclosed, hdelivered⟩
  · rintro ⟨hold, hunpaid, hclosed, hdelivered⟩
    rw [skipReason, if_neg (not_not.2 honline), if_neg (not_not.2 hopen), if_neg (not_le.2 hold),
      if_neg (not_not.2 hmethod), if_neg hunpaid, if_neg (not_or.2 ⟨hclosed, hdelivered⟩)]

theorem skipReason_ne_cleaned {cutoff : Time} {reason : CleanupOutcome}
    (h : skipReason payment order cutoff = some reason) : reason ≠ .cleaned := by
  rw [skipReason] at h
  split_ifs at h <;> cases h <;> decide

/-- A payment with a reason to skip it is left alone. -/
theorem cleanupStaleOnlinePayment_skips {reason : CleanupOutcome}
    (hpay : w.db.payments.rows p = some payment)
    (hrow : w.db.orders.rows payment.order = some order)
    (hskip : skipReason payment order (getStaleOnlinePaymentCutoff env none) = some reason) :
    cleanupStaleOnlinePayment env p w = (.ok reason, w) := by
  refine Tx.atomic_of_ok ((Tx.bind_of_ok (x := Tx.getDb) rfl).trans ?_)
  rw [hpay]
  refine (Tx.bind_of_ok (lockOrder_of_some hrow)).trans ?_
  rw [hskip]
  rfl

/-- A payment without one fails, with its order. -/
theorem cleanupStaleOnlinePayment_cleans (hpay : w.db.payments.rows p = some payment)
    (hrow : w.db.orders.rows payment.order = some order)
    (hskip : skipReason payment order (getStaleOnlinePaymentCutoff env none) = none) :
    ∃ w', cleanupStaleOnlinePayment env p w = (.ok .cleaned, w') ∧
      w'.db.books = w.db.books.cleanUp (p, payment) := by
  obtain ⟨-, hopen, -, -, hunpaid, hclosed, hdelivered⟩ := skipReason_eq_none hskip
  have hunsettled : payment.status ≠ .succeeded := by
    intro hsucceeded
    rw [hsucceeded] at hopen
    exact absurd hopen (by decide)
  obtain ⟨w₁, hfail, hrow₁, hpayments₁, -⟩ := markFailed_open cleanupMessage hrow hpay hunsettled
    hunpaid hclosed hdelivered
  have hbooks : w₁.db.books =
      (Change.fail payment.order p (·.fail cleanupMessage)).apply w.db.books := by
    have hmarks : (PaymentService.markFailed payment.order p cleanupMessage).Yields Shop.books
        w.db.books _ := PaymentService.markFailed_made
    have hmade := (hmarks.ensures (w := w)).of_ok hfail
    rcases hmade with ⟨-, hdone⟩ | ⟨-, hbooks⟩ | ⟨⟨-, -, order', hrow', -, hclosed'⟩, -⟩
    · rcases hdone with ⟨payment', hpay', hsucceeded⟩ | ⟨order', hrow', hpaid⟩
      · obtain rfl := Option.some.inj (hpay.symm.trans hpay')
        exact absurd hsucceeded hunsettled
      · obtain rfl := Option.some.inj (hrow.symm.trans hrow')
        exact absurd hpaid hunpaid
    · exact hbooks
    · obtain rfl := Option.some.inj (hrow.symm.trans hrow')
      exact absurd hclosed' hclosed
  refine ⟨{ w₁ with db := w₁.db.dropCheckout payment.order }, Tx.atomic_of_ok
    ((Tx.bind_of_ok (x := Tx.getDb) rfl).trans ?_), ?_⟩
  · rw [hpay]
    refine (Tx.bind_of_ok (lockOrder_of_some hrow)).trans ?_
    rw [hskip]
    exact (Tx.bind_of_ok hfail).trans rfl
  · exact congrArg (Change.unlock payment.order).apply hbooks

end SecondLook

/-! ## The loop -/

section Loop

variable {env : Env} {payments : List (PaymentId × Payment)}

/-- The loop cleans the payments that are due at the default cutoff, and raises nothing. -/
theorem cleanupEach_run (env : Env) (w : World Shop (List Observation)) (result : CleanupResult)
    (hselects : w.db.books.Selects payments) :
    ∃ result' w', cleanupEach env result (payments.map Prod.fst) w = (.ok result', w') ∧
      result'.cleaned = result.cleaned +
        (w.db.books.due (getStaleOnlinePaymentCutoff env none) payments).length ∧
      result'.errors = result.errors ∧
      w'.db.books = (w.db.books.due (getStaleOnlinePaymentCutoff env none) payments).foldl
        Books.cleanUp w.db.books := by
  induction payments generalizing w result with
  | nil => exact ⟨result, w, rfl, rfl, rfl, rfl⟩
  | cons e rest ih =>
    obtain ⟨hpay, hopen, honline, order, hrow, hmethod⟩ := hselects.each e List.mem_cons_self
    have hunpaid : w.db.books.isUnpaid e.2.order = true ↔ ¬order.paymentStatus.isSuccessful ∧
        ¬order.status.isClosed ∧ order.status ≠ .delivered := by
      rw [Books.isUnpaid, hrow, Option.any_some, decide_eq_true_iff]
    have hiff := skipReason_iff (getStaleOnlinePaymentCutoff env none) honline hopen hmethod
    rw [← hunpaid] at hiff
    cases hskip : skipReason e.2 order (getStaleOnlinePaymentCutoff env none) with
    | none =>
      obtain ⟨hold, hunpaid⟩ := hiff.1 hskip
      obtain ⟨w₁, hrun, hbooks⟩ := cleanupStaleOnlinePayment_cleans hpay hrow hskip
      have hselects₁ : w₁.db.books.Selects rest := hbooks ▸ hselects.cleanUp
      obtain ⟨result', w', hloop, hcleaned, herrors, hbooks'⟩ :=
        ih w₁ (result.add (some .cleaned)) hselects₁
      rw [Books.due_cons_of hold hunpaid]
      refine ⟨result', w', ?_, ?_, herrors, ?_⟩
      · exact (Tx.bind_of_ok (Tx.catching_of_ok ((Tx.bind_of_ok hrun).trans rfl))).trans hloop
      · rw [hcleaned, hbooks, List.length_cons]
        exact Nat.add_right_comm _ _ _
      · rw [hbooks', hbooks]
        rfl
    | some reason =>
      have hnot : ¬(e.2.createdAt < getStaleOnlinePaymentCutoff env none ∧
          w.db.books.isUnpaid e.2.order) := fun h => nomatch hskip.symm.trans (hiff.2 h)
      have hrun := cleanupStaleOnlinePayment_skips hpay hrow hskip
      obtain ⟨result', w', hloop, hcleaned, herrors, hbooks'⟩ :=
        ih w (result.add (some reason)) hselects.tail
      have hsame : (result.add (some reason)).cleaned = result.cleaned ∧
          (result.add (some reason)).errors = result.errors := by
        have hne := skipReason_ne_cleaned hskip
        cases reason <;> first | exact absurd rfl hne | exact ⟨rfl, rfl⟩
      rw [Books.due_cons_of_not hnot]
      refine ⟨result', w', ?_, hsame.1 ▸ hcleaned, herrors.trans hsame.2, hbooks'⟩
      exact (Tx.bind_of_ok (Tx.catching_of_ok ((Tx.bind_of_ok hrun).trans rfl))).trans hloop

end Loop

/-! ## The sweep -/

section Sweep

variable {shop : Shop} {cutoff : Time}

/-- The query selects open online payments of online orders. -/
theorem selects_staleOnlinePayments (shop : Shop) (cutoff : Time) :
    shop.books.Selects (staleOnlinePayments shop cutoff) := by
  refine ⟨?_, fun e he => ?_⟩
  · exact ((List.mergeSort_perm _ _).map Prod.fst).nodup_iff.2 (Table.nodup_filter _ _)
  · obtain ⟨hrow, hquery⟩ := Table.mem_filter.1 (List.mem_mergeSort.1 he)
    obtain ⟨hopen, honline, -, hmethod⟩ := of_decide_eq_true hquery
    obtain ⟨order, horder, hmethod⟩ := Option.any_eq_true _ _ |>.1 hmethod
    exact ⟨hrow, hopen, honline, order, horder, of_decide_eq_true hmethod⟩

theorem staleOnlinePayments_before : ∀ e ∈ staleOnlinePayments shop cutoff,
    e.2.createdAt < cutoff := fun _ he =>
  (of_decide_eq_true (Table.mem_filter.1 (List.mem_mergeSort.1 he)).2).2.2.1

/-- The oldest come first. -/
theorem staleOnlinePayments_sorted : (staleOnlinePayments shop cutoff).Pairwise
    fun e e' => e.2.createdAt ≤ e'.2.createdAt := by
  refine (List.pairwise_mergeSort (fun a b c hab hbc => ?_) (fun a b => ?_) _).imp
    fun h => of_decide_eq_true h
  · exact decide_eq_true ((of_decide_eq_true hab).trans (of_decide_eq_true hbc))
  · rw [Bool.or_eq_true]
    exact (le_total _ _).imp decide_eq_true decide_eq_true

end Sweep

/-- The sweep with a timeout of `t` minutes cleans the open online payments that are older than `t`
    minutes and whose order, when they are reached, is neither paid nor terminal: it reports as many,
    none as an error, and leaves the books as cleaning these payments leaves them. -/
def HonoursTimeout (env : Env) (t : ℤ) (w : World Shop (List Observation)) : Prop :=
  let cutoff := env.now - minutes t
  let due := w.db.books.due cutoff (staleOnlinePayments w.db cutoff)
  ∃ result w', cleanupStaleOnlinePayments env (some t) w = (.ok result, w') ∧
    result.cleaned = due.length ∧ result.errors = 0 ∧
    w'.db.books = due.foldl Books.cleanUp w.db.books

/-- It honours its timeout if and only if the payments to clean are older than the default timeout. -/
theorem honoursTimeout_iff {env : Env} {t : ℤ} (ht : 1 ≤ t) (w : World Shop (List Observation)) :
    HonoursTimeout env t w ↔
      ∀ e ∈ w.db.books.due (env.now - minutes t) (staleOnlinePayments w.db (env.now - minutes t)),
        e.2.createdAt < env.now - minutes staleOnlinePaymentTimeoutMinutes := by
  have hgiven : (some t).filter (· ≠ 0) = some t := by
    rw [Option.filter_some, if_pos (decide_eq_true (by omega))]
  have hcutoff : getStaleOnlinePaymentCutoff env (some t) = env.now - minutes t := by
    rw [getStaleOnlinePaymentCutoff, hgiven, Option.getD_some]
  have hdefault : getStaleOnlinePaymentCutoff env none =
      env.now - minutes staleOnlinePaymentTimeoutMinutes := rfl
  obtain ⟨result, w', hloop, hcleaned, herrors, hbooks⟩ := cleanupEach_run env w
    { examined := (staleOnlinePayments w.db (env.now - minutes t)).length, timeoutMinutes := t }
    (selects_staleOnlinePayments w.db (env.now - minutes t))
  have hrun : cleanupStaleOnlinePayments env (some t) w = (.ok result, w') := by
    refine (Tx.bind_of_ok (x := Tx.getDb) rfl).trans ?_
    rw [hcutoff, hgiven]
    exact hloop
  rw [hdefault] at hcleaned hbooks
  constructor
  · rintro ⟨result₁, w₁, hrun₁, hcleaned₁, -⟩
    obtain rfl := Except.ok.inj (congrArg Prod.fst (hrun.symm.trans hrun₁))
    refine Books.before_of_length_due staleOnlinePayments_sorted staleOnlinePayments_before ?_
    exact (Nat.zero_add _).symm.trans (hcleaned.symm.trans hcleaned₁)
  · intro h
    have hsame := Books.due_eq_of_before staleOnlinePayments_before h
    rw [hsame] at hcleaned hbooks
    exact ⟨result, w', hrun, hcleaned.trans (Nat.zero_add _), herrors, hbooks⟩

/-- A shop with one order that waits for its online payment. -/
def waitingShop : Shop :=
  { cornerShop.shop with
    orders := Table.empty.insert cornerOrder
    payments := Table.empty.insert cornerPayment }

/-- The same shop, some minutes later. -/
def waited (m : ℤ) : Env := { now := minutes m }

theorem honoursTimeout_iff_waited : HonoursTimeout (waited 40) 10 ⟨waitingShop, []⟩ :=
  (honoursTimeout_iff (by decide) _).2 (by decide +kernel)

/-- What a sweep that honours its timeout has cleaned, read off its run. -/
theorem HonoursTimeout.cleaned {env : Env} {t : ℤ} {w : World Shop (List Observation)}
    (h : HonoursTimeout env t w) :
    (cleanupStaleOnlinePayments env (some t) w).1.map (·.cleaned) =
      .ok (w.db.books.due (env.now - minutes t)
        (staleOnlinePayments w.db (env.now - minutes t))).length := by
  obtain ⟨result, w', hrun, hcleaned, -⟩ := h
  rw [hrun, ← hcleaned]
  rfl

/-- A payment that is twenty minutes old survives a sweep with a timeout of ten. -/
theorem not_honoursTimeout_waited : ¬∀ (env : Env) (t : ℤ) (w : World Shop (List Observation)),
    1 ≤ t → HonoursTimeout env t w := by
  intro h
  have hcleaned := (h (waited 20) 10 ⟨waitingShop, []⟩ (by decide)).cleaned
  exact absurd hcleaned (by decide +kernel)

end Crumbs
