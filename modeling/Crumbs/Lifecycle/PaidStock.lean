import Crumbs.Lifecycle.Booked

/-!
# Stock of Paid Orders

An order that becomes PAID has its reservations confirmed, and confirmed reservations do not expire.
But only reservations that are still ACTIVE can be confirmed. If the job that expires them has come
first, the order is paid all the same.

## Contents

- `Books.IsCovered`: confirmed reservations cover the lines of an order
- `PaysCovered`: an order that becomes PAID in the step is covered
- `PaysLive`: an order is paid only while its reservations are live
- `paysCovered_of_paysLive`
-/

namespace Crumbs

open Crumbs.Db

/-! ## What is claimed, and when it holds -/

/-- What a CONFIRMED reservation of the order holds of `p`. -/
def StockReservation.confirmedFor (o : OrderId) (p : ProductId) (r : StockReservation) : ℕ :=
  if r.order = some o ∧ r.product = p ∧ r.status = .confirmed then r.quantity else 0

namespace Books

/-- CONFIRMED reservations of the order cover its lines of tracked products, for their full
    quantity. -/
def IsCovered (b : Books) (o : OrderId) : Prop :=
  ∀ p, b.tracks p → b.ordered o p ≤ b.holds.total (StockReservation.confirmedFor o p)

/-- The payment status of the order is PAID. -/
def HasPaid (b : Books) (o : OrderId) : Prop := b.OrderIs o fun order => order.paymentStatus = .paid

/-- No reservation of the order for a tracked product has expired or been released. -/
def HasLiveBookings (b : Books) (o : OrderId) : Prop :=
  ∀ i r, b.holds.rows i = some r → r.order = some o → b.tracks r.product → r.isLive

end Books

/-- If the order becomes PAID in the step, it is covered in the state that the step commits. -/
def PaysCovered (o : OrderId) (db : Database) (step : Step) : Prop :=
  ¬db.shop.books.HasPaid o → (step.exec db).db.shop.books.HasPaid o →
    (step.exec db).db.shop.books.IsCovered o

/-- The order that the change makes PAID. -/
def Change.finalizes : Change → Option OrderId
  | payOnline o | payAtCounter o | capture o _ _ => some o
  | _ => none

/-- The order is made PAID only while its reservations are live. -/
def PaysLive (o : OrderId) (b : Books) (ch : Change) : Prop :=
  ch.finalizes = some o → b.HasLiveBookings o

/-! ## Changes -/

section Changes

variable {b : Books} {ch : Change} {o : OrderId} {p : ProductId}

/-- An order becomes PAID only by a change that confirms its reservations. -/
theorem finalizes_of_hasPaid (hguard : ch.Guard b) (hbefore : ¬b.HasPaid o)
    (hafter : (ch.apply b).HasPaid o) : b.orders.rows o ≠ none ∧ ch.finalizes = some o := by
  obtain ⟨order', hrow', hpaid⟩ := hafter
  have hunpaid {order : Order} (hrow : b.orders.rows o = some order) :
      order.paymentStatus ≠ .paid := fun h => hbefore ⟨order, hrow, h⟩
  rcases Change.order_of_apply hrow' with hrow | ⟨f, order, hupdates, hrow, rfl⟩ | ⟨hplaces, -⟩
  · exact (hunpaid hrow hpaid).elim
  · refine ⟨Option.ne_none_iff_exists'.2 ⟨order, hrow⟩, ?_⟩
    have hne := hunpaid hrow
    cases ch with
    | payOnline | payAtCounter | capture =>
      cases hupdates
      rfl
    | amend =>
      cases hupdates
      exact (hne ((hguard order).paymentStatus ▸ hpaid)).elim
    | transition | deliver | deliverCod =>
      cases hupdates
      exact (hne hpaid).elim
    | cancel =>
      cases hupdates
      rw [Order.cancelled] at hpaid
      dsimp only at hpaid
      split at hpaid
      · exact nomatch hpaid
      · exact (hne hpaid).elim
    | failOrder | fail | requestRefund | refund | confirmCod | noteCash | receiveCash | openOnline
    | cancelPayment =>
      cases hupdates
      exact nomatch hpaid
    | _ => exact nomatch hupdates
  · cases ch with
    | checkout =>
      cases hplaces
      exact nomatch hguard.2.2.2.1.symm.trans hpaid
    | counterCheckout =>
      cases hplaces
      exact nomatch hguard.2.2.1.symm.trans hpaid
    | _ => exact nomatch hplaces

/-- A reservation that is live covers what it books once it is confirmed. -/
theorem confirmedFor_confirm {r : StockReservation}
    (hlive : r.order = some o → r.product = p → r.isLive) :
    StockReservation.bookedFor o p r ≤ StockReservation.confirmedFor o p
      (if decide (r.order = some o ∧ r.status = .active) then
        { r with status := .confirmed, expiresAt := none } else r) := by
  rw [StockReservation.bookedFor]
  split
  · next hbooks =>
    obtain ⟨horder, -, hproduct⟩ := hbooks
    rcases hlive horder hproduct with hactive | hconfirmed
    · rw [if_pos (decide_eq_true ⟨horder, hactive⟩), StockReservation.confirmedFor,
        if_pos ⟨horder, hproduct, rfl⟩]
    · rw [if_neg (by simp [hconfirmed]), StockReservation.confirmedFor,
        if_pos ⟨horder, hproduct, hconfirmed⟩]
  · exact Nat.zero_le _

/-- An order whose bookings are live is covered once they are confirmed. -/
theorem isCovered_confirm {b' : Books} (hthere : b.orders.rows o ≠ none) (hbooked : b.IsBooked o)
    (hlive : b.HasLiveBookings o) (hlines : b'.lines = b.lines) (htracks : b'.tracks = b.tracks)
    (hholds : b'.holds = Holds.confirm o b.holds) : b'.IsCovered o := by
  intro p htrack
  rw [htracks] at htrack
  calc b'.ordered o p = b.ordered o p := by rw [Books.ordered, hlines, Books.ordered]
    _ ≤ b.bookedFor o p := hbooked hthere p
    _ ≤ b'.holds.total (StockReservation.confirmedFor o p) := by
      rw [hholds]
      refine Table.total_mono fun i => ?_
      rw [Holds.confirm, Table.rows_updateWhere]
      cases hrow : b.holds.rows i with
      | none => exact le_rfl
      | some r =>
        exact confirmedFor_confirm fun horder hproduct =>
          hlive i r hrow horder (hproduct ▸ htrack)

theorem isCovered_finalize (hfinalizes : ch.finalizes = some o) (hthere : b.orders.rows o ≠ none)
    (hbooked : b.IsBooked o) (hpays : PaysLive o b ch) : (ch.apply b).IsCovered o := by
  have hlive := hpays hfinalizes
  cases ch with
  | payOnline | payAtCounter | capture =>
    cases hfinalizes
    exact isCovered_confirm hthere hbooked hlive rfl rfl rfl
  | _ => exact nomatch hfinalizes

end Changes

/-! ## Operations -/

/-- An operation makes one change at most, or takes money at the counter, or makes no order PAID. -/
theorem Operation.asks_cases (env : Env) (db : Database) (operation : Operation) :
    (∀ b ch, operation.Asks env db b ch → b = db.shop.books) ∨
      (∀ b ch, operation.Asks env db b ch →
        (∃ p f, ch = .settle p f) ∨ ∃ o, ch = .payAtCounter o) ∨
        ∀ b ch, operation.Asks env db b ch → ch.finalizes = none := by
  cases operation with
  | zarinpalCallback | stripeWebhook => exact .inl fun _ _ h => h.1
  | call call =>
    cases call with
    | markCounterCashReceived | markCounterCardReceived =>
      refine .inr (.inl fun b ch h => ?_)
      cases ch with
      | settle p f => exact .inl ⟨p, f, rfl⟩
      | payAtCounter o => exact .inr ⟨o, rfl⟩
      | _ => exact h.elim
    | removeItem | clearCart =>
      refine .inr (.inr ?_)
      rintro b ch ⟨items, holds, rfl⟩
      rfl
    | reserveStock =>
      refine .inr (.inr ?_)
      rintro b ch (⟨reservations, rfl⟩ | ⟨f, rfl⟩) <;> rfl
    | startPreparing =>
      refine .inr (.inr ?_)
      rintro b ch (⟨-, -, rfl⟩ | ⟨-, -, rfl⟩ | ⟨-, rfl⟩) <;> rfl
    | completePickupOrder =>
      refine .inr (.inr ?_)
      rintro b ch (⟨-, -, rfl⟩ | ⟨-, rfl | rfl⟩) <;> rfl
    | markCodCashReceived | ensureCodCashFinalized =>
      refine .inr (.inr fun b ch h => ?_)
      cases ch with
      | settle | noteCash | receiveCash => rfl
      | _ => exact h.elim
    | cleanupStaleOnlinePayment | cleanupStaleOnlinePayments =>
      refine .inr (.inr fun b ch h => ?_)
      cases ch with
      | fail | unlock => rfl
      | _ => exact h.elim
    | _ => exact .inl fun _ _ h => h.1

section Steps

variable {o : OrderId} {db : Database} {step : Step}

theorem isBooked_exec (step : Step) (h : db.shop.books.IsBooked o) :
    (step.exec db).db.shop.books.IsBooked o :=
  (step.follows db).inv (I := fun b => b.IsBooked o) h fun _ _ hb hguard _ => isBooked_apply hguard hb

/-- Money at the counter, once it has been taken, leaves the order covered. -/
theorem isCovered_counter {b : Books} {ch : Change}
    (h : (∃ p f, ch = .settle p f) ∨ ∃ o, ch = .payAtCounter o) (hcovered : b.IsCovered o) : (ch.apply b).IsCovered o := by
  rcases h with ⟨p, f, rfl⟩ | ⟨o', rfl⟩
  · exact hcovered
  · intro p htrack
    refine (hcovered p htrack).trans (Table.total_mono fun i => ?_)
    change _ ≤ ((Holds.confirm o' b.holds).rows i).elim 0 _
    rw [Holds.confirm, Table.rows_updateWhere]
    cases b.holds.rows i with
    | none => exact le_rfl
    | some r =>
      rw [Option.map_some, Option.elim_some, Option.elim_some]
      split
      · next hactive =>
        rw [StockReservation.confirmedFor, if_neg (by simp [(of_decide_eq_true hactive).2])]
        exact Nat.zero_le _
      · exact le_rfl

theorem paysCovered_step (hbooked : db.shop.books.IsBooked o) (hpays : step.Only (PaysLive o) db) :
    PaysCovered o db step := by
  intro hbefore hafter
  rcases step.operation.asks_cases step.env db with hpinned | hcounter | hnone
  · rcases hpays.follows.pinned fun _ _ h => hpinned _ _ h.1 with hsame | ⟨ch, hguard, ⟨-, hlive⟩, hexec⟩
    · exact (hbefore (hsame ▸ hafter)).elim
    · rw [hexec] at hafter ⊢
      obtain ⟨hthere, hfinalizes⟩ := finalizes_of_hasPaid hguard hbefore hafter
      exact isCovered_finalize hfinalizes hthere hbooked hlive
  · refine (hpays.follows.inv (I := fun b => b.IsBooked o ∧ (b.HasPaid o → b.IsCovered o))
      ⟨hbooked, fun h => (hbefore h).elim⟩ ?_).2 hafter
    rintro b ch ⟨hbooked, hcovered⟩ hguard ⟨hasks, hlive⟩
    refine ⟨isBooked_apply hguard hbooked, fun hpaid => ?_⟩
    by_cases hwas : b.HasPaid o
    · exact isCovered_counter (hcounter b ch hasks) (hcovered hwas)
    · obtain ⟨hthere, hfinalizes⟩ := finalizes_of_hasPaid hguard hwas hpaid
      exact isCovered_finalize hfinalizes hthere hbooked hlive
  · refine ((step.follows db).inv (I := fun b => ¬b.HasPaid o) hbefore ?_ hafter).elim
    intro b ch hunpaid hguard hasks hpaid
    exact nomatch (hnone b ch hasks).symm.trans (finalizes_of_hasPaid hguard hunpaid hpaid).2

end Steps

/-! ## Runs -/

/-- An order that is new in the run, or booked before it, is covered when it becomes PAID, as long
    as it becomes PAID only while its reservations are live. -/
theorem paysCovered_of_paysLive (o : OrderId) (db : Database) (run : List Step)
    (hbooked : db.shop.books.IsBooked o) (h : Always (Step.Only (PaysLive o)) db run) :
    Always (PaysCovered o) db run := by
  induction run generalizing db with
  | nil => trivial
  | cons step rest ih =>
    exact ⟨paysCovered_step hbooked h.1, ih _ (isBooked_exec step hbooked) h.2⟩

/-- The reservations of an order, read off the shop. -/
theorem hasLiveBookings_of_all {shop : Shop} {o : OrderId}
    (h : ∀ e ∈ shop.stock.reservationsWhere (·.order = some o), e.2.isLive) :
    shop.books.HasLiveBookings o := fun i r hrow horder _ =>
  h (i, r) (mem_reservationsWhere.2 ⟨hrow, decide_eq_true horder⟩)

/-- An online order is paid in time. -/
theorem paysCovered_of_paysLive_online :
    Always (PaysCovered 0) cornerShop [cornerCheckout, cornerCallback 0 "OK"] := by
  refine paysCovered_of_paysLive 0 cornerShop _ (fun hthere => (hthere rfl).elim) ⟨?_, ?_, trivial⟩
  · rintro b ch ⟨-, order, reservations, payment, rfl⟩ - hfinalizes
    exact nomatch hfinalizes
  · rintro b ch ⟨rfl, -⟩ - -
    exact hasLiveBookings_of_all (by decide +kernel)

/-! ## An order that is paid late -/

/-- What a step owes to an order that it makes PAID, read off the shops. -/
theorem PaysCovered.covers {o : OrderId} {db : Database} {step : Step} (h : PaysCovered o db step)
    (hbefore : (db.shop.orders.rows o).map (·.paymentStatus) ≠ some .paid)
    (hafter : ((step.exec db).db.shop.orders.rows o).map (·.paymentStatus) = some .paid)
    {p : ProductId} (htracks : (step.exec db).db.shop.stock.tracks p) :
    (step.exec db).db.shop.books.ordered o p ≤
      (step.exec db).db.shop.stock.reservations.total (StockReservation.confirmedFor o p) :=
  h (fun hpaid => hbefore (Option.map_eq_some_iff.2 hpaid)) (Option.map_eq_some_iff.1 hafter) p htracks

/-- Two hours after the checkouts of the corner shop. -/
def lateEnv : Env := { cornerEnv with now := minutes 121 }

/-- The loaf of an order at the counter is for sale again when the customer comes to pay. -/
def paidLateRun : List Step :=
  [cornerCounterCheckout, { env := lateEnv, operation := .call .expireStaleReservations },
    { env := lateEnv, operation := .call (.markCounterCashReceived 0 0 "cashier") }]

theorem not_paysCovered_late : ¬Always (PaysCovered 0) cornerShop paidLateRun := by
  rintro ⟨-, -, hlast, -⟩
  exact absurd (hlast.covers (p := 0) (by decide +kernel) (by decide +kernel) (by decide +kernel))
    (by decide +kernel)

end Crumbs
