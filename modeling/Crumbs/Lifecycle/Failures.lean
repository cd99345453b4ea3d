import Crumbs.Lifecycle.Ended
import Crumbs.Lifecycle.Refunds

/-!
# Failures of Orders with Several Payments

A payment that fails takes its order with it. That is right as long as no other payment carries the
order: one that has succeeded, or one that is open and younger than the timeout. The services look
at the payment status of the order only. It tells of the money that has come in until a refund is
asked for; and of the other open payments it tells nothing.

## Contents

- `Books.carriers`: the payments that carry an order
- `FailsAlone`: no order is cancelled while a payment carries it
- `MoneyShows`: the payment status tells of the money, or a refund is asked for
- `SparesCarried`: while that hides the money no payment is opened, cancelled or failed, and none
  fails beside one that is open
- `failsAlone_of_sparesCarried`
-/

namespace Crumbs

open Crumbs.Db

/-! ## Payments that carry an order -/

/-- The payment is open, and too young for the cleanup. -/
def Payment.IsYoung (env : Env) (payment : Payment) : Prop :=
  payment.status.isOpen ∧ getStaleOnlinePaymentCutoff env none ≤ payment.createdAt

namespace Books

/-- The payments that carry an order. -/
def carriers (b : Books) (env : Env) (o : OrderId) : Set PaymentId :=
  {p | b.PaymentIs p fun payment =>
    payment.order = o ∧ (payment.status = .succeeded ∨ payment.IsYoung env)}

/-- The order is cancelled. -/
def IsCancelled (b : Books) (o : OrderId) : Prop :=
  b.OrderIs o fun order => order.status = .cancelled

/-- Money has come in for the order, and the order is in the status that the services take for
    unpaid although it need not be. -/
def HidesMoney (b : Books) (o : OrderId) : Prop :=
  b.HasMoney o ∧ b.OrderIs o fun order => order.paymentStatus = .refundRequested

/-- If money has come in for the order, the order is paid, or a refund is asked for, or it is
    closed. -/
def MoneyShows (b : Books) (o : OrderId) : Prop :=
  b.HasMoney o → b.OrderIs o fun order =>
    order.paymentStatus.isSuccessful ∨ order.paymentStatus = .refundRequested ∨
      order.status.isClosed

end Books

/-- What a step cancels on account of a payment is carried by none. -/
def FailsAlone (o : OrderId) (db : Database) (step : Step) : Prop :=
  match step.operation with
  | .call (.markFailed ..) | .call (.cleanupStaleOnlinePayment _)
  | .call (.cleanupStaleOnlinePayments _) | .zarinpalCallback _ | .stripeWebhook .. =>
    ¬db.shop.books.IsCancelled o → (step.exec db).db.shop.books.IsCancelled o →
      (step.exec db).db.shop.books.carriers step.env o = ∅
  | _ => True

/-- What failures need of the order. A payment of it succeeds together with the order, or for an
    order that is paid; while a refund hides the money, no payment is opened, cancelled or failed;
    and none fails beside another one that is open and young. -/
structure SparesCarried (operation : Operation) (env : Env) (o : OrderId) (b : Books) (ch : Change) :
    Prop where
  pays : ∀ p, ch.pays = some p → (b.PaymentIs p fun payment => payment.order = o) →
    operation.IsCounterReceipt ∨ (∃ f, ch.updates = some (o, f)) ∨
      b.OrderIs o fun order => order.paymentStatus.isSuccessful
  opens : ∀ payment, ch = .openOnline payment → payment.order = o → ¬b.HidesMoney o
  cancels : ∀ p f, ch = .cancelPayment o p f → ¬b.HidesMoney o
  fails : ∀ p f, ch = .fail o p f → ¬b.HidesMoney o ∧ ∀ q ≠ p, ¬b.PaymentIs q fun payment =>
    payment.order = o ∧ payment.IsYoung env

/-! ## Changes -/

section Changes

variable {env : Env} {operation : Operation} {b : Books} {ch : Change} {o : OrderId}
  {p : PaymentId}

/-- Money of an order was there before a change, or comes in with it. -/
theorem hasMoney_or_pays (hguard : ch.Guard b) (h : (ch.apply b).HasMoney o) :
    b.HasMoney o ∨ ∃ p, ch.pays = some p ∧ b.PaymentIs p fun payment => payment.order = o := by
  obtain ⟨p, payment', hrow', rfl, hsucceeded⟩ := h
  rcases Change.payment_of_apply hrow' with hrow | ⟨f, payment, hrewrites, hrow, rfl⟩ |
    ⟨payment, -, -, -, -, rfl⟩ | ⟨hopens, -⟩
  · exact .inl ⟨p, payment', hrow, rfl, hsucceeded⟩
  · rcases hguard.pays_or hrewrites with hpays | hnot
    · exact .inr ⟨p, hpays, payment, hrow, (hguard.sameTerms hrewrites payment).order.symm⟩
    · exact (hnot payment hsucceeded).elim
  · exact nomatch hsucceeded
  · exact absurd (hguard.opens_open hopens) (by rw [hsucceeded]; decide)

/-- An order whose payment status tells of its money, or that is closed, stays so, as long as no
    session is opened or given up while a refund is asked for. -/
theorem shows_of_updates (hguard : ch.Guard b) {order : Order} (hrow : b.orders.rows o = some order)
    (hhides : (∃ payment, payment.order = o ∧ ch = .openOnline payment) ∨
      (∃ p f, ch = .cancelPayment o p f) → order.paymentStatus ≠ .refundRequested)
    (hshows : order.paymentStatus.isSuccessful ∨ order.paymentStatus = .refundRequested ∨
      order.status.isClosed) {f : Order → Order} (hupdates : ch.updates = some (o, f)) :
    (f order).paymentStatus.isSuccessful ∨ (f order).paymentStatus = .refundRequested ∨
      (f order).status.isClosed := by
  by_cases hclosed : order.status.isClosed
  · have hstatus := (updates_of_closed hguard hrow hclosed hupdates).1
    exact .inr (.inr (hstatus ▸ hclosed))
  have hpaid : order.paymentStatus.isSuccessful ∨ order.paymentStatus = .refundRequested :=
    hshows.imp_right fun h => h.resolve_right hclosed
  -- the guards speak of this order
  have hthis {P : Order → Prop} (h : b.OrderIs o P) : P order := by
    obtain ⟨order₁, hrow₁, h⟩ := h
    obtain rfl := Option.some.inj (hrow.symm.trans hrow₁)
    exact h
  cases ch with
  | amend =>
    cases hupdates
    rw [(hguard order).paymentStatus, (hguard order).status]
    exact hshows
  | transition | deliver | deliverCod =>
    cases hupdates
    exact hpaid.imp_right .inl
  | cancel | failOrder | fail =>
    cases hupdates
    exact .inr (.inr (.inl rfl))
  | refund =>
    cases hupdates
    exact .inr (.inr (.inr rfl))
  | requestRefund =>
    cases hupdates
    exact .inr (.inl rfl)
  | payOnline | capture | payAtCounter =>
    cases hupdates
    exact .inl (.inl rfl)
  | noteCash | receiveCash =>
    cases hupdates
    exact .inl (.inr rfl)
  | confirmCod =>
    cases hupdates
    have hpending : order.paymentStatus = .codPending := hthis hguard
    rw [hpending] at hpaid
    exact absurd hpaid (by decide)
  | openOnline payment =>
    cases hupdates
    exact (hhides (.inl ⟨payment, rfl, rfl⟩) (hpaid.resolve_left (hthis hguard.2))).elim
  | cancelPayment =>
    cases hupdates
    exact (hhides (.inr ⟨_, _, rfl⟩) (hpaid.resolve_left (hthis hguard.2.2))).elim
  | _ => exact nomatch hupdates

/-- The payment status goes on to tell of the money. At the counter it does so later. -/
theorem moneyShows_apply (hguard : ch.Guard b) (hspares : SparesCarried operation env o b ch)
    (hcounter : operation.IsCounterReceipt → ∀ p, ch.pays = some p →
      ¬b.PaymentIs p fun payment => payment.order = o)
    (h : b.MoneyShows o) : (ch.apply b).MoneyShows o := by
  intro hmoney
  rcases hasMoney_or_pays hguard hmoney with hbefore | ⟨p, hpays, hpayment⟩
  · obtain ⟨order, hrow, hshows⟩ := h hbefore
    rcases Change.order_apply ch hrow with hsame | ⟨f, hupdates, hrow'⟩
    · exact ⟨order, hsame, hshows⟩
    · refine ⟨f order, hrow', shows_of_updates hguard hrow (fun hch hrequested => ?_) hshows hupdates⟩
      have hhides : b.HidesMoney o := ⟨hbefore, order, hrow, hrequested⟩
      rcases hch with ⟨payment, horder, hch⟩ | ⟨q, g, hch⟩
      · exact hspares.opens payment hch horder hhides
      · exact hspares.cancels q g hch hhides
  · rcases hspares.pays p hpays hpayment with hreceipt | ⟨f, hupdates⟩ | ⟨order, hrow, hpaid⟩
    · exact (hcounter hreceipt p hpays hpayment).elim
    · cases ch with
      | capture =>
        cases hupdates
        obtain ⟨order, hrow, -⟩ := hguard.2.2
        refine ⟨order.paidOnline, ?_, .inl (.inl rfl)⟩
        exact (Table.rows_modify_self ..).trans (congrArg (Option.map _) hrow)
      | settle | captureAgain => exact nomatch hupdates
      | _ => exact nomatch hpays
    · rcases Change.order_apply ch hrow with hsame | ⟨f, hupdates, hrow'⟩
      · exact ⟨order, hsame, .inl hpaid⟩
      · cases ch with
        | capture =>
          cases hupdates
          exact ⟨order.paidOnline, hrow', .inl (.inl rfl)⟩
        | settle | captureAgain => exact nomatch hupdates
        | _ => exact nomatch hpays

/-- A failure adds nothing to what carries an order, and takes away the payment that fails. -/
theorem carriers_fail {o' : OrderId} {f : Payment → Payment} {q : PaymentId}
    (hf : Payment.Becomes .failed f) (hq : q ∈ ((Change.fail o' p f).apply b).carriers env o) :
    q ≠ p ∧ q ∈ b.carriers env o := by
  obtain ⟨payment', hrow', horder, hcarries⟩ := hq
  have hpayments : ((Change.fail o' p f).apply b).payments = b.payments.modify p f := rfl
  rw [hpayments] at hrow'
  rcases Table.rows_modify_eq_some.1 hrow' with ⟨rfl, payment, -, rfl⟩ | ⟨hne, hrow⟩
  · rw [Payment.IsYoung, (hf payment).2] at hcarries
    exact absurd hcarries (by simp [PaymentStatus.isOpen])
  · exact ⟨hne, payment', hrow, horder, hcarries⟩

/-- When an order fails with its payment, nothing carries it any more. -/
theorem carriers_fail_eq_empty {f : Payment → Payment} (hguard : (Change.fail o p f).Guard b)
    (hspares : SparesCarried operation env o b (.fail o p f)) (hshows : b.MoneyShows o) :
    ((Change.fail o p f).apply b).carriers env o = ∅ := by
  refine Set.eq_empty_iff_forall_notMem.2 fun q hq => ?_
  obtain ⟨hne, payment, hrow, horder, hcarries⟩ := carriers_fail hguard.2.1 hq
  obtain ⟨hhides, halone⟩ := hspares.fails p f rfl
  rcases hcarries with hsucceeded | hyoung
  · -- the order would be seen to be paid
    have hmoney : b.HasMoney o := ⟨q, payment, hrow, horder, hsucceeded⟩
    obtain ⟨order, hrow₁, hpaid | hrequested | hclosed⟩ := hshows hmoney
    all_goals obtain ⟨order', hrow', hunpaid, hopen, -⟩ := hguard.2.2
    all_goals obtain rfl := Option.some.inj (hrow₁.symm.trans hrow')
    · exact hunpaid hpaid
    · exact hhides ⟨hmoney, order, hrow₁, hrequested⟩
    · exact hopen hclosed
  · exact halone q hne ⟨payment, hrow, horder, hyoung⟩

/-- What can have cancelled an order. -/
theorem cancels_of_apply (hguard : ch.Guard b) (hnot : ¬b.IsCancelled o)
    (h : (ch.apply b).IsCancelled o) : (∃ p f, ch = .fail o p f) ∨ ch = .cancel o ∨
      ch = .failOrder o ∨ ch = .transition o .cancelled := by
  obtain ⟨order', hrow', hcancelled⟩ := h
  rcases Change.order_of_apply hrow' with hrow | ⟨f, order, hupdates, hrow, rfl⟩ | ⟨hplaces, -⟩
  · exact (hnot ⟨order', hrow, hcancelled⟩).elim
  · have hopen : order.status ≠ .cancelled := fun h => hnot ⟨order, hrow, h⟩
    cases ch with
    | fail => cases hupdates; exact .inl ⟨_, _, rfl⟩
    | cancel => cases hupdates; exact .inr (.inl rfl)
    | failOrder => cases hupdates; exact .inr (.inr (.inl rfl))
    | transition o' status =>
      cases hupdates
      obtain rfl : status = .cancelled := hcancelled
      exact .inr (.inr (.inr rfl))
    | amend =>
      cases hupdates
      exact (hopen ((hguard order).status.symm.trans hcancelled)).elim
    | requestRefund | confirmCod | noteCash | openOnline | cancelPayment =>
      cases hupdates
      exact (hopen hcancelled).elim
    | refund | deliver | deliverCod | payOnline | payAtCounter | receiveCash | capture =>
      cases hupdates
      exact nomatch hcancelled
    | _ => exact nomatch hupdates
  · cases ch with
    | checkout =>
      cases hplaces
      exact nomatch hguard.2.2.1.symm.trans hcancelled
    | counterCheckout =>
      cases hplaces
      exact nomatch hguard.2.1.symm.trans hcancelled
    | _ => exact nomatch hplaces

theorem CleanupAsks.examined {ps : List PaymentId} {f : Payment → Payment}
    (h : CleanupAsks env ps b (.fail o p f)) : ps ≠ [] := List.ne_nil_of_mem h.1

/-- An order that the cleanup finds open is left with nothing that carries it, if it is closed. -/
theorem carriers_cleanup {b₀ b' : Books} {ps : List PaymentId} (hopen : ¬b₀.IsCancelled o)
    (h : Follows (fun b ch => CleanupAsks env ps b ch ∧ SparesCarried operation env o b ch) b₀ b')
    (hshows : b₀.MoneyShows o) (hcancelled : b'.IsCancelled o) : b'.carriers env o = ∅ := by
  refine (h.inv (I := fun b => b.MoneyShows o ∧ (b.IsCancelled o → b.carriers env o = ∅))
    ⟨hshows, fun h => (hopen h).elim⟩ ?_).2 hcancelled
  rintro b ch ⟨hshows, hnone⟩ hguard ⟨hasks, hspares⟩
  cases ch with
  | fail o' p f =>
    refine ⟨moneyShows_apply hguard hspares (fun _ _ => nofun) hshows, fun hcancelled => ?_⟩
    by_cases hbefore : b.IsCancelled o
    · refine Set.eq_empty_iff_forall_notMem.2 fun q hq => ?_
      exact Set.eq_empty_iff_forall_notMem.1 (hnone hbefore) q (carriers_fail hguard.2.1 hq).2
    · rcases cancels_of_apply hguard hbefore hcancelled with ⟨p', f', h⟩ | h | h | h
      · obtain ⟨rfl, -, -⟩ := Change.fail.inj h
        exact carriers_fail_eq_empty hguard hspares hshows
      all_goals exact nomatch h
  | unlock => exact ⟨hshows, hnone⟩
  | _ => exact hasks.elim

/-- A change that a gateway's answer, or a payment that fails, is about. -/
theorem carriers_of_answer (operation : Operation) {b' : Books} {P : Books → Change → Prop}
    (h : Follows P b b')
    (hpin : ∀ b₁ ch, P b₁ ch → b₁ = b ∧ SparesCarried operation env o b₁ ch ∧ ch ≠ .cancel o ∧
      ch ≠ .failOrder o ∧ ch ≠ .transition o .cancelled) (hshows : b.MoneyShows o)
    (hopen : ¬b.IsCancelled o) (hcancelled : b'.IsCancelled o) : b'.carriers env o = ∅ := by
  rcases h.pinned fun b₁ ch hP => (hpin b₁ ch hP).1 with rfl | ⟨ch, hguard, hP, rfl⟩
  · exact (hopen hcancelled).elim
  obtain ⟨-, hspares, hcancel, hfail, htransition⟩ := hpin b ch hP
  rcases cancels_of_apply hguard hopen hcancelled with ⟨p, f, rfl⟩ | h | h | h
  · exact carriers_fail_eq_empty hguard hspares hshows
  · exact (hcancel h).elim
  · exact (hfail h).elim
  · exact (htransition h).elim

end Changes

/-! ## Runs -/

section Steps

variable {db : Database} {step : Step} {o : OrderId}

/-- At the counter a payment succeeds before its order goes on; both have happened at the end. -/
theorem moneyShows_counter {o' : OrderId} {p : PaymentId} {provider : Provider}
    (h : step.OnlyReached (SparesCarried step.operation step.env o) db)
    (hasks : ∀ b ch, step.operation.Asks step.env db b ch →
      PaymentService.CounterAsks o' p provider db.shop.books b ch)
    (hends : (step.exec db).db.shop.books = db.shop.books ∨
      (step.exec db).db.shop.books.OrderIs o' fun order =>
        order.paymentStatus = .paid ∧ order.status = .preparing)
    (hshows : db.shop.books.MoneyShows o) : (step.exec db).db.shop.books.MoneyShows o := by
  by_cases ho : o = o'
  · rcases hends with hsame | ⟨order, hrow, hpaid, -⟩
    · rwa [hsame]
    · exact fun _ => ⟨order, ho ▸ hrow, .inl (.inl hpaid)⟩
  · refine h.follows.inv (I := fun b => b.MoneyShows o) hshows ?_
    rintro b ch hb hguard ⟨hasked, hspares⟩
    refine moneyShows_apply hguard hspares (fun _ q hpays => ?_) hb
    have hcounter := hasks b ch hasked
    cases ch with
    | settle =>
      cases hpays
      obtain ⟨-, rfl, ⟨payment, hrow, horder, -⟩, -⟩ := hcounter
      rintro ⟨payment', hrow', horder'⟩
      obtain rfl := Option.some.inj (hrow.symm.trans hrow')
      exact ho (horder'.symm.trans horder)
    | payAtCounter => exact nomatch hpays
    | _ => exact hcounter.elim

theorem moneyShows_step (h : step.OnlyReached (SparesCarried step.operation step.env o) db)
    (hshows : db.shop.books.MoneyShows o) : (step.exec db).db.shop.books.MoneyShows o := by
  by_cases hcounter : step.operation.IsCounterReceipt
  · cases hoperation : step.operation with
    | call call =>
      cases call with
      | markCounterCashReceived o' p actor | markCounterCardReceived o' p actor =>
        exact moneyShows_counter h (by rw [hoperation]; exact fun _ _ => id)
          (Step.ends hoperation (Tx.StepsAt.void (ends_steps (Tx.rollsBack_atomic _) (.atomic
            PaymentService.markCounterPaymentReceived_prepares)))) hshows
      | _ =>
        rw [hoperation] at hcounter
        exact hcounter.elim
    | _ =>
      rw [hoperation] at hcounter
      exact hcounter.elim
  · exact h.follows.inv (I := fun b => b.MoneyShows o) hshows fun b ch hb hguard hasks =>
      moneyShows_apply hguard hasks.2 (fun h => (hcounter h).elim) hb

theorem failsAlone_step (h : step.OnlyReached (SparesCarried step.operation step.env o) db)
    (hshows : db.shop.books.MoneyShows o) : FailsAlone o db step := by
  have hfollows := h.follows
  cases hoperation : step.operation with
  | call call =>
    rw [hoperation] at hfollows
    cases call with
    | markFailed o' p message =>
      rw [FailsAlone, hoperation]
      refine carriers_of_answer (.call (.markFailed o' p message)) hfollows ?_ hshows
      rintro b ch ⟨⟨rfl, f, rfl | rfl⟩, hspares⟩ <;> exact ⟨rfl, hspares, nofun, nofun, nofun⟩
    | cleanupStaleOnlinePayment p =>
      rw [FailsAlone, hoperation]
      exact fun hopen => carriers_cleanup hopen hfollows hshows
    | cleanupStaleOnlinePayments timeoutMinutes =>
      rw [FailsAlone, hoperation]
      exact fun hopen => carriers_cleanup hopen hfollows hshows
    | _ =>
      rw [FailsAlone, hoperation]
      trivial
  | zarinpalCallback request =>
    rw [hoperation] at hfollows
    rw [FailsAlone, hoperation]
    refine carriers_of_answer (.zarinpalCallback request) hfollows ?_ hshows
    rintro b ch ⟨⟨rfl, p, payment, order, -, hasks⟩, hspares⟩
    refine ⟨rfl, hspares, ?_⟩
    cases ch with
    | captureAgain | capture | fail | failLate => exact ⟨nofun, nofun, nofun⟩
    | _ => exact hasks.elim
  | stripeWebhook payload signature =>
    rw [hoperation] at hfollows
    rw [FailsAlone, hoperation]
    refine carriers_of_answer (.stripeWebhook payload signature) hfollows ?_ hshows
    rintro b ch ⟨⟨rfl, event, -, -, hasks⟩, hspares⟩
    refine ⟨rfl, hspares, ?_⟩
    cases ch with
    | captureAgain | capture | fail | failLate | cancelPayment | refund => exact ⟨nofun, nofun, nofun⟩
    | _ => exact hasks.elim

end Steps

/-- Whatever payments an order has, none of them cancels it while another one carries it, as long
    as a refund that is asked for hides no money from the services, and no payment fails beside
    another one that is open and young. -/
theorem failsAlone_of_sparesCarried (o : OrderId) (db : Database) (run : List Step)
    (hstart : db.shop.books.MoneyShows o)
    (h : Always (fun db step => step.OnlyReached (SparesCarried step.operation step.env o) db) db run) :
    Always (FailsAlone o) db run :=
  h.mono_of_inv (I := fun db => db.shop.books.MoneyShows o) hstart
    (fun _ _ hshows hstep => moneyShows_step hstep hshows)
    fun _ _ hshows hstep => failsAlone_step hstep hshows

/-! ## An order that is paid and cancelled -/

/-- An order has two sessions; one of them is paid. -/
def twoSessionsRun : List Step :=
  [cornerStripeCall (.processCheckout 0 { email := "", phone := "1" } none fun _ _ => {}),
    cornerStripeCall (.initiateOnline 0), cornerStripeCall (.markPaid 0 0)]

/-- What is known of the order, with its payment status read off the books. -/
theorem Books.OrderIs.of_paymentStatus {b : Books} {o : OrderId} {P : Order → Prop}
    (h : b.OrderIs o P) {paymentStatus : OrderPaymentStatus}
    (hrow : (b.orders.rows o).map (·.paymentStatus) = some paymentStatus) :
    ∃ order, P order ∧ order.paymentStatus = paymentStatus := by
  obtain ⟨order, hthere, h⟩ := h
  rw [hthere] at hrow
  exact ⟨order, h, Option.some.inj hrow⟩

/-- The other session ends without a payment, and the order stays paid; then the cleanup runs. -/
theorem failsAlone_of_sparesCarried_twoSessions : Always (FailsAlone 0) cornerShop
    (twoSessionsRun ++ [cornerStripeCall (.markFailed 0 1 "Payment failed."),
      cornerStripeCall (.cleanupStaleOnlinePayments none)]) := by
  refine failsAlone_of_sparesCarried 0 cornerShop _ (fun ⟨_, _, hrow, _⟩ => nomatch hrow)
    ⟨?_, ?_, ?_, ?_, ?_, trivial⟩
  · rintro b ch - ⟨rfl, order, reservations, payment, rfl⟩ -
    exact ⟨nofun, nofun, nofun, nofun⟩
  · rintro b ch - ⟨rfl, -, payment, -, rfl⟩ -
    refine ⟨nofun, fun _ _ _ => ?_, nofun, nofun⟩
    rintro ⟨-, hrequested⟩
    obtain ⟨order, hrequested, hpending⟩ :=
      hrequested.of_paymentStatus (show _ = some .pendingPayment by decide +kernel)
    exact nomatch hrequested.symm.trans hpending
  · rintro b ch - ⟨rfl, rfl | rfl⟩ hguard
    · exact ⟨fun _ _ _ => .inr (.inr hguard.2), nofun, nofun, nofun⟩
    · exact ⟨fun _ _ _ => .inr (.inl ⟨_, rfl⟩), nofun, nofun, nofun⟩
  · rintro b ch - ⟨rfl, f, rfl | rfl⟩ hguard
    · -- the guard has seen that the order is paid
      obtain ⟨order, ⟨hunpaid, -⟩, hpaid⟩ :=
        hguard.2.2.of_paymentStatus (show _ = some .paid by decide +kernel)
      exact (hunpaid (.inl hpaid)).elim
    · exact ⟨nofun, nofun, nofun, nofun⟩
  · rintro b ch - hasks -
    cases ch with
    | fail _ _ f => exact absurd (by decide +kernel) (CleanupAsks.examined (f := f) hasks)
    | unlock => exact ⟨nofun, nofun, nofun, nofun⟩
    | _ => exact hasks.elim

/-- What a step that fails a payment must leave, read off the databases. -/
theorem FailsAlone.status_ne_succeeded {db : Database} {step : Step} {o o' : OrderId}
    (h : FailsAlone o db step) {p q : PaymentId} {message : String} (status : PaymentStatus)
    (hoperation : step.operation = .call (.markFailed o' q message))
    (hbefore : (db.shop.orders.rows o).map (·.status) ≠ some .cancelled)
    (hafter : ((step.exec db).db.shop.orders.rows o).map (·.status) = some .cancelled)
    (hp : ((step.exec db).db.shop.payments.rows p).map (fun payment =>
      (payment.order, payment.status)) = some (o, status)) : status ≠ .succeeded := by
  obtain ⟨payment, hrow, hpayment⟩ := Option.map_eq_some_iff.1 hp
  obtain ⟨horder, rfl⟩ := Prod.mk.inj hpayment
  rw [FailsAlone, hoperation] at h
  intro hsucceeded
  refine Set.eq_empty_iff_forall_notMem.1 (h (fun ⟨order, hrow, hcancelled⟩ => hbefore ?_) ?_) p
    ⟨payment, hrow, horder, .inl hsucceeded⟩
  · rw [show db.shop.orders.rows o = some order from hrow, Option.map_some, hcancelled]
  · exact Option.map_eq_some_iff.1 hafter

/-- The same after a refund was asked for: now the order is cancelled, with its money. -/
theorem not_failsAlone_refundRequested : ¬Always (FailsAlone 0) cornerShop
    (twoSessionsRun ++ [cornerStripeCall (.requestRefund 0 "" "admin"),
      cornerStripeCall (.markFailed 0 1 "Payment failed.")]) := by
  rintro ⟨-, -, -, -, halone, -⟩
  exact halone.status_ne_succeeded (p := 0) .succeeded rfl (by decide +kernel)
    (by decide +kernel) (by decide +kernel) rfl

end Crumbs
