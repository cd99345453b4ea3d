import Crumbs.Lifecycle.Ended
import Crumbs.Lifecycle.Money

/-!
# Checkouts that Have Finished

The checkout of an order is in progress as long as its cart must not change. When it is over, by
payment, failure or cancellation, it should be over for good.

## Contents

- `Order.IsSettled`: failed and refunded orders are closed, which every change preserves
- `LeavesFinished`: no refund is requested for an order that is paid and not yet worked on
- `finished_apply`, `staysFinished_of_leavesFinished`: finished checkouts stay finished
-/

namespace Crumbs

open Crumbs.Db

variable {b : Books} {ch : Change} {o : OrderId} {order : Order}

/-! ## Failed and refunded orders -/

/-- An order whose payment has failed or was refunded is closed. -/
def Order.IsSettled (order : Order) : Prop :=
  order.paymentStatus = .failed ∨ order.paymentStatus = .refundProcessed → order.status.isClosed

theorem isSettled_of_updates (hguard : ch.Guard b) (hrow : b.orders.rows o = some order)
    (hsettled : order.IsSettled) {f : Order → Order} (hupdates : ch.updates = some (o, f)) :
    (f order).IsSettled := by
  -- the guards speak of this order
  have hthis {P : Order → Prop} (h : b.OrderIs o P) : P order := by
    obtain ⟨order₁, hrow₁, h⟩ := h
    obtain rfl := Option.some.inj (hrow.symm.trans hrow₁)
    exact h
  intro hended
  cases ch with
  | amend =>
    cases hupdates
    have hterms := hguard order
    rw [hterms.paymentStatus] at hended
    rw [hterms.status]
    exact hsettled hended
  | transition =>
    cases hupdates
    exact (allowedTransitions_of_closed (hsettled hended) (hthis hguard)).elim
  | deliver =>
    cases hupdates
    exact (not_canTransition_of_closed (hsettled hended) (by decide) (hthis hguard).2).elim
  | deliverCod =>
    cases hupdates
    exact (not_canTransition_of_closed (hsettled hended) (by decide) (hthis hguard).2.2).elim
  | cancel | failOrder | fail =>
    cases hupdates
    exact .inl rfl
  | refund =>
    cases hupdates
    exact .inr rfl
  | requestRefund | payOnline | payAtCounter | confirmCod | noteCash | receiveCash | openOnline
  | capture | cancelPayment =>
    cases hupdates
    rcases hended with hended | hended <;> cases hended
  | _ => exact nomatch hupdates

/-- Every change preserves it, and it holds of new orders. -/
theorem isSettled_apply (hguard : ch.Guard b)
    (h : ∀ order, b.orders.rows o = some order → order.IsSettled) {order' : Order}
    (hrow' : (ch.apply b).orders.rows o = some order') : order'.IsSettled := by
  rcases Change.order_of_apply hrow' with hrow | ⟨f, order, hupdates, hrow, rfl⟩ | ⟨hplaces, -⟩
  · exact h order' hrow
  · exact isSettled_of_updates hguard hrow (h order hrow) hupdates
  · intro hended
    cases ch with
    | checkout =>
      cases hplaces
      rw [hguard.2.2.2.1] at hended
      rcases hended with hended | hended <;> cases hended
    | counterCheckout =>
      cases hplaces
      rw [hguard.2.2.1] at hended
      rcases hended with hended | hended <;> cases hended
    | _ => exact nomatch hplaces

/-- An order that is made in the run is settled whenever it has failed or was refunded. -/
theorem isSettled_after {db : Database} (hnew : db.shop.orders.rows o = none) (run : List Step)
    (hrow : (after db run).shop.orders.rows o = some order) : order.IsSettled := by
  refine inv_after (I := fun db => ∀ order, db.shop.orders.rows o = some order → order.IsSettled)
    run (fun order h => nomatch hnew.symm.trans h) (fun db step h => ?_) order hrow
  exact (step.follows db).inv (I := fun b => ∀ order, b.orders.rows o = some order →
    order.IsSettled) h fun b ch hb hguard _ _ hrow' => isSettled_apply hguard hb hrow'

/-! ## Finished checkouts -/

/-- No refund of the order `o` is requested when its checkout is finished, unless the shop is working
    on it already or is done with it. -/
def LeavesFinished (o : OrderId) (b : Books) : Change → Prop
  | .requestRefund o' => o' = o → ∀ order, b.orders.rows o = some order →
      order.status ∈ inProgressOrderStatuses → isOrderCheckoutInProgress order
  | _ => True

/-- A finished checkout whose order is in none of the statuses of a checkout stays finished. -/
theorem not_inProgress_of_status (h : order.status ∉ inProgressOrderStatuses) :
    ¬isOrderCheckoutInProgress order := fun hbusy => h hbusy.2.2

theorem not_inProgress_of_terminal (h : order.paymentStatus ∈ terminalPaymentStatuses) :
    ¬isOrderCheckoutInProgress order := fun hbusy => hbusy.2.1 h

/-- The state machine leads from nowhere else into the statuses of a checkout. -/
theorem not_mem_inProgress_of_transition {status newStatus : OrderStatus}
    (h : status ∉ inProgressOrderStatuses) (hedge : newStatus ∈ status.allowedTransitions) :
    newStatus ∉ inProgressOrderStatuses := by
  revert h hedge
  cases status <;> cases newStatus <;> decide

theorem not_mem_inProgress_of_closed {status : OrderStatus} (h : status.isClosed) :
    status ∉ inProgressOrderStatuses := by
  revert h
  cases status <;> decide

/-- A finished checkout is finished by its status or by its payment. -/
theorem finished_cases (h : ¬isOrderCheckoutInProgress order) :
    order.status ∉ inProgressOrderStatuses ∨ order.paymentStatus ∈ terminalPaymentStatuses := by
  by_contra hneither
  obtain ⟨hstatus, hpayment⟩ := not_or.1 hneither
  have hstatus := not_not.1 hstatus
  refine h ⟨fun hcancelled => ?_, hpayment, hstatus⟩
  rw [hcancelled] at hstatus
  exact absurd hstatus (by decide)

/-- An order that waits for its money again has been closed, if its payment was over. -/
theorem not_mem_inProgress_of_unsuccessful (hsettled : order.IsSettled)
    (hfinished : ¬isOrderCheckoutInProgress order) (hopen : ¬order.paymentStatus.isSuccessful) :
    order.status ∉ inProgressOrderStatuses := by
  refine (finished_cases hfinished).elim id fun hterminal => ?_
  refine not_mem_inProgress_of_closed (hsettled ?_)
  revert hterminal hopen
  cases order.paymentStatus <;> decide

theorem finished_of_updates (hguard : ch.Guard b) (hleaves : LeavesFinished o b ch)
    (hrow : b.orders.rows o = some order) (hsettled : order.IsSettled)
    (hfinished : ¬isOrderCheckoutInProgress order) {f : Order → Order}
    (hupdates : ch.updates = some (o, f)) : ¬isOrderCheckoutInProgress (f order) := by
  have hthis {P : Order → Prop} (h : b.OrderIs o P) : P order := by
    obtain ⟨order₁, hrow₁, h⟩ := h
    obtain rfl := Option.some.inj (hrow.symm.trans hrow₁)
    exact h
  cases ch with
  | amend =>
    cases hupdates
    have hterms := hguard order
    unfold isOrderCheckoutInProgress at hfinished ⊢
    rwa [hterms.status, hterms.paymentStatus]
  | transition =>
    cases hupdates
    rcases finished_cases hfinished with hstatus | hpayment
    · exact not_inProgress_of_status (not_mem_inProgress_of_transition hstatus (hthis hguard))
    · exact not_inProgress_of_terminal hpayment
  | cancel | failOrder | fail =>
    cases hupdates
    exact not_inProgress_of_status (show OrderStatus.cancelled ∉ _ by decide)
  | deliver | deliverCod =>
    cases hupdates
    exact not_inProgress_of_status (show OrderStatus.delivered ∉ _ by decide)
  | refund =>
    cases hupdates
    exact not_inProgress_of_status (show OrderStatus.refunded ∉ _ by decide)
  | payOnline | capture | payAtCounter =>
    cases hupdates
    exact not_inProgress_of_terminal (show OrderPaymentStatus.paid ∈ _ by decide)
  | noteCash | receiveCash =>
    cases hupdates
    exact not_inProgress_of_terminal (show OrderPaymentStatus.cashReceived ∈ _ by decide)
  | confirmCod =>
    cases hupdates
    have hpending : order.paymentStatus = .codPending := hthis hguard
    refine not_inProgress_of_status ((finished_cases hfinished).resolve_right ?_)
    rw [hpending]
    decide
  | requestRefund =>
    cases hupdates
    exact not_inProgress_of_status fun hstatus => hfinished (hleaves rfl order hrow hstatus)
  | openOnline =>
    cases hupdates
    have hstatus := not_mem_inProgress_of_unsuccessful hsettled hfinished (hthis hguard.2)
    exact not_inProgress_of_status hstatus
  | cancelPayment =>
    cases hupdates
    have hstatus := not_mem_inProgress_of_unsuccessful hsettled hfinished (hthis hguard.2.2)
    exact not_inProgress_of_status hstatus
  | _ => exact nomatch hupdates

/-! ## Runs -/

/-- The order is there, and its checkout is finished. -/
def Books.IsFinished (b : Books) (o : OrderId) : Prop :=
  b.OrderIs o fun order => ¬isOrderCheckoutInProgress order

theorem finished_apply (hguard : ch.Guard b) (hleaves : LeavesFinished o b ch)
    (hsettled : ∀ order, b.orders.rows o = some order → order.IsSettled) (h : b.IsFinished o) :
    (ch.apply b).IsFinished o := by
  obtain ⟨order, hrow, hfinished⟩ := h
  rcases Change.order_apply ch hrow with hsame | ⟨f, hupdates, hrow'⟩
  · exact ⟨order, hsame, hfinished⟩
  · exact ⟨f order, hrow',
      finished_of_updates hguard hleaves hrow (hsettled order hrow) hfinished hupdates⟩

/-- If the checkout of the order is finished at some moment of the run, it is finished at its end. -/
def StaysFinished (o : OrderId) (db : Database) (run : List Step) : Prop :=
  ∀ earlier later, run = earlier ++ later → (after db earlier).shop.books.IsFinished o →
    (after db run).shop.books.IsFinished o

/-- The checkout of an order that is made in the run stays finished, as long as no refund of it is
    requested when it is finished and in a status of a checkout. -/
theorem staysFinished_of_leavesFinished {db : Database} (hnew : db.shop.orders.rows o = none)
    (run : List Step) (h : Always (Step.Only (LeavesFinished o)) db run) : StaysFinished o db run := by
  rintro earlier later rfl hfinished
  rw [after_append]
  let I : Books → Prop := fun b =>
    (∀ order, b.orders.rows o = some order → order.IsSettled) ∧ b.IsFinished o
  have hstart : I (after db earlier).shop.books :=
    ⟨fun order hrow => isSettled_after hnew earlier hrow, hfinished⟩
  exact (h.append_right.inv_books (I := I) hstart fun b ch hI hguard hleaves =>
    ⟨fun order hrow => isSettled_apply hguard hI.1 hrow,
      finished_apply hguard hleaves hI.1 hI.2⟩).2

theorem staysFinished_of_leavesFinished_paid : StaysFinished 0 cornerShop paidRun := by
  refine staysFinished_of_leavesFinished rfl paidRun ⟨?_, ?_, trivial⟩
  · rintro b ch ⟨-, order, reservations, payment, rfl⟩ -
    trivial
  · rintro b ch ⟨-, event, -, -, hevent⟩ -
    cases ch with
    | requestRefund => exact hevent.elim
    | _ => trivial

/-- Whether a checkout is finished, read off the shop. -/
theorem isFinished_iff {shop : Shop} : shop.books.IsFinished o ↔
    (shop.orders.rows o).any fun order => ¬isOrderCheckoutInProgress order := by
  rw [Option.any_eq_true]
  exact exists_congr fun order => and_congr_right' decide_eq_true_iff.symm

/-- A refund is requested for an order that is paid. -/
theorem not_staysFinished_refund : ¬∀ (o : OrderId) (db : Database) (run : List Step),
    db.shop.orders.rows o = none → StaysFinished o db run := by
  intro h
  have hstays := h 0 cornerShop (paidRun ++ [cornerStripeCall (.requestRefund 0 "" "admin")]) rfl
    paidRun _ rfl
  have hpaid : (after cornerShop paidRun).shop.books.IsFinished 0 :=
    isFinished_iff.2 (by decide +kernel)
  exact absurd (isFinished_iff.1 (hstays hpaid)) (by decide +kernel)

end Crumbs
