import Crumbs.Lifecycle.Production
import Crumbs.Orders.Admin
import Crumbs.Payments.CodReceipts

/-!
# The Order Form of the Admin

The staff can edit an order in a form. The form writes the columns of the order as they are typed,
the status among them, and asks no state machine. Behind it the cash of a COD order is finalised, if
that is still to be done; what goes wrong there is shown, and the edit stays.

## Contents

- `Shop.codOrderNeedsFinalization`, `OrderAdmin.saveModel`: the form
- `SaveAnswers`: what one save comes to
- `OfficeStep`: the steps of the system, and saves in between
- `stock_of_office`: over every run of them the inventory stays sound, and every save is answered
-/

namespace Crumbs

open Crumbs.Db AdminTx

/-! ## The form -/

/-- `OrderAdmin._cod_order_needs_finalization` -/
def Shop.codOrderNeedsFinalization (shop : Shop) (o : OrderId) : Bool :=
  let payment := newest (shop.paymentsWhere fun p => p.order = o ∧ p.provider = .cod)
  if payment.any (·.2.status ≠ .succeeded) then true
  else !(shop.stock.reservationsWhere fun r => r.order = some o ∧ r.isLive).isEmpty

/-- What is typed is in `obj`, and in the columns that the form does not show `obj` is the order as
    the form was loaded. -/
def OrderAdmin.saveModel (o : OrderId) (obj : Order) (actor : String) : AdminTx Unit := do
  let shop ← Tx.getDb
  let previousPaymentStatus := (shop.orders.rows o).map (·.paymentStatus)
  -- `super().save_model`
  Tx.modifyDb fun shop => shop.updateOrder o fun _ => obj
  let shop ← Tx.getDb
  Tx.when (obj.isCod ∧ obj.paymentStatus = .cashReceived ∧
      (previousPaymentStatus ≠ some .cashReceived ∨ shop.codOrderNeedsFinalization o))
    -- a transaction of its own within that of the form, so what it raises leaves the edit alone
    (attempt (o, obj) (Tx.void (PaymentService.ensureCodCashFinalized o none actor)) (pure ()))

/-! ## Finalising -/

section Finalize

variable {w : World Shop (List Observation)} {shop : Shop} {o : OrderId} {order obj : Order}

/-- The newest of some payments that are changed, but not when they were made. -/
theorem newest_map {f : PaymentId × Payment → PaymentId × Payment}
    (hf : ∀ e, (f e).2.createdAt = e.2.createdAt) (payments : List (PaymentId × Payment)) :
    newest (payments.map f) = (newest payments).map f := by
  have hlater (best : Option (PaymentId × Payment)) (e : PaymentId × Payment) :
      later (best.map f) (f e) = (later best e).map f := by
    cases best with
    | none => rfl
    | some b =>
      by_cases h : b.2.createdAt ≤ e.2.createdAt <;> simp [later, hf, h]
  have hfold : ∀ (l : List (PaymentId × Payment)) (best : Option (PaymentId × Payment)),
      (l.map f).foldl later (best.map f) = (l.foldl later best).map f := by
    intro l
    induction l with
    | nil => exact fun _ => rfl
    | cons e rest ih => exact fun best => by rw [List.map_cons, List.foldl_cons, hlater, ih,
        List.foldl_cons]
  exact hfold payments none

/-- A COD order whose newest COD payment has succeeded, and that holds nothing. -/
theorem not_needsFinalization {e : PaymentId × Payment}
    (hnewest : newest (shop.paymentsWhere fun p => p.order = o ∧ p.provider = .cod) = some e)
    (hsucceeded : e.2.status = .succeeded)
    (hreleased : ∀ i r, shop.stock.reservations.rows i = some r → r.order = some o → ¬r.isLive) :
    shop.codOrderNeedsFinalization o = false := by
  have hnone : (shop.stock.reservationsWhere fun r => r.order = some o ∧ r.isLive) = [] := by
    refine List.eq_nil_iff_forall_not_mem.2 fun x hx => ?_
    obtain ⟨hrow, hlive⟩ := Table.mem_filter.1 (List.mem_reverse.1 hx)
    exact hreleased x.1 x.2 hrow (of_decide_eq_true hlive).1 (of_decide_eq_true hlive).2
  rw [Shop.codOrderNeedsFinalization, hnewest, hnone]
  simp [hsucceeded]

/-- Recording the cash leaves nothing reserved. -/
theorem recordCashReceived_releases (actor : String) (hrow : w.db.orders.rows o = some order) :
    (OrderService.recordCashReceived o actor).Ensures (fun _ w' =>
      w'.db.orders.rows o =
        some { order with paymentStatus := .cashReceived, status := .delivered } ∧
      w'.db.payments = w.db.payments ∧
      ∀ i r, w'.db.stock.reservations.rows i = some r → r.order = some o → ¬r.isLive) w := by
  refine recordCashReceived_of_fulfills (P := fun s => ∀ i r, s.reservations.rows i = some r →
    r.order = some o → ¬r.isLive) actor hrow ((fulfillReservations_holds o).mono fun _ w' h => ?_)
  rw [h]
  exact fun i r => released_of_fulfill

/-- Without the payment of the order at hand its newest one is taken; an order that has none is left
    as it is. -/
theorem ensureCodCashFinalized_none (actor : String) (hrow : w.db.orders.rows o = some order) :
    (PaymentService.ensureCodCashFinalized o none actor).Ensures (fun _ w' =>
      (w'.db = w.db ∧ (order.isCod → order.paymentStatus = .cashReceived →
        newest (w.db.paymentsWhere fun p => p.order = o ∧ p.provider = .cod) = none)) ∨
      (w'.db.orders.rows o =
          some { order with paymentStatus := .cashReceived, status := .delivered } ∧
        w'.db.codOrderNeedsFinalization o = false)) w := by
  refine Tx.Ensures.atomic (Tx.wp_bind.2 (wp_lockOrder.2 ⟨fun order' hrow' => ?_, fun _ => trivial⟩))
  obtain rfl := Option.some.inj (hrow.symm.trans hrow')
  refine Tx.Ensures.ite (fun hnot => .inl ⟨rfl, fun hcod hcash => ?_⟩) fun hcash => ?_
  · exact absurd hcash (hnot.resolve_left (not_not.2 hcod))
  refine Tx.Ensures.bind (P := fun e w' => w' = w ∧
    e = newest (w.db.paymentsWhere fun p => p.order = o ∧ p.provider = .cod)) ⟨rfl, rfl⟩ ?_
  rintro e w₀ ⟨hw, he⟩
  obtain rfl := hw.symm
  cases e with
  | none => exact .inl ⟨rfl, fun _ _ => he.symm⟩
  | some e =>
    -- the payment that has been made to succeed is the newest one afterwards
    let received : Payment → Payment := fun payment => PaymentService.received payment
      "cash_received_event" "cod_cash_finalized" "cash_received_actor" actor
    obtain ⟨w₁, hreceive, horders, hnewest⟩ : ∃ w₁, Tx.when (e.2.status ≠ .succeeded)
        (Tx.modifyDb fun shop => shop.updatePayment e.1 received) w =
          ((.ok (), w₁) : Except Exn Unit × World Shop (List Observation)) ∧
        w₁.db.orders = w.db.orders ∧ ∃ payment, payment.status = .succeeded ∧
          newest (w₁.db.paymentsWhere fun p => p.order = o ∧ p.provider = .cod) =
            some (e.1, payment) := by
      by_cases hsucceeded : e.2.status = .succeeded
      · exact ⟨w, Tx.when_of_not (not_not.2 hsucceeded), rfl, e.2, hsucceeded, he.symm⟩
      · refine ⟨⟨w.db.updatePayment e.1 received, w.ext⟩, Tx.ite_of hsucceeded, rfl,
          received e.2, rfl, ?_⟩
        have hfilter : (w.db.updatePayment e.1 received).paymentsWhere
            (fun p => p.order = o ∧ p.provider = .cod) =
              (w.db.paymentsWhere fun p => p.order = o ∧ p.provider = .cod).map
                fun e' => if e'.1 = e.1 then (e'.1, received e'.2) else e' :=
          Table.filter_modify _ _ _ _ fun _ _ => rfl
        rw [hfilter, newest_map, ← he]
        · simp
        · intro e'
          split <;> rfl
    obtain ⟨payment, hsucceeded, hnewest⟩ := hnewest
    refine Tx.wp_bind.2 ((Tx.wp_iff_of_ok hreceive).2 ?_)
    refine (recordCashReceived_releases actor (horders ▸ hrow)).mono fun _ w' h => .inr ?_
    obtain ⟨hrow', hpayments', hreleased⟩ := h
    refine ⟨hrow', not_needsFinalization (e := (e.1, payment)) ?_ hsucceeded hreleased⟩
    rw [Shop.paymentsWhere, hpayments']
    exact hnewest

end Finalize

/-! ## One save -/

/-- A save never raises. One that shows an error has written what was typed, and nothing else. One
    that shows none leaves nothing to finalise, unless the order has no COD payment at all; and to
    save again what is there then does nothing. -/
structure SaveAnswers (o : OrderId) (obj : Order) (actor : String) (shop : Shop) : Prop where
  returns : (OrderAdmin.saveModel o obj actor ⟨shop, {}⟩).1 = .ok ()
  failed : (OrderAdmin.saveModel o obj actor ⟨shop, {}⟩).2.ext.messages ≠ [] →
    (OrderAdmin.saveModel o obj actor ⟨shop, {}⟩).2.db = shop.updateOrder o fun _ => obj
  settled : (OrderAdmin.saveModel o obj actor ⟨shop, {}⟩).2.ext.messages = [] →
    obj.isCod → obj.paymentStatus = .cashReceived →
    newest (shop.paymentsWhere fun p => p.order = o ∧ p.provider = .cod) ≠ none →
    (OrderAdmin.saveModel o obj actor ⟨shop, {}⟩).2.db.codOrderNeedsFinalization o = false
  again : (OrderAdmin.saveModel o obj actor ⟨shop, {}⟩).2.ext.messages = [] →
    ∀ obj', (OrderAdmin.saveModel o obj actor ⟨shop, {}⟩).2.db.orders.rows o = some obj' →
    ∀ actor', OrderAdmin.saveModel o obj' actor'
      ⟨(OrderAdmin.saveModel o obj actor ⟨shop, {}⟩).2.db, {}⟩ =
        (.ok (), ⟨(OrderAdmin.saveModel o obj actor ⟨shop, {}⟩).2.db, {}⟩)

section Saves

variable {shop : Shop} {o : OrderId} {obj : Order} {actor : String}

/-- The cash is to be finalised behind the save. -/
def Shop.Finalizes (shop : Shop) (o : OrderId) (obj : Order) : Prop :=
  obj.isCod ∧ obj.paymentStatus = .cashReceived ∧
    ((shop.orders.rows o).map (·.paymentStatus) ≠ some .cashReceived ∨
      (shop.updateOrder o fun _ => obj).codOrderNeedsFinalization o = true)

instance : Decidable (shop.Finalizes o obj) := inferInstanceAs (Decidable (_ ∧ _ ∧ _))

theorem saveModel_of_not (actor : String) (h : ¬shop.Finalizes o obj) :
    OrderAdmin.saveModel o obj actor ⟨shop, {}⟩ =
      (.ok (), ⟨shop.updateOrder o fun _ => obj, {}⟩) :=
  Tx.when_of_not h

theorem saveModel_of_ok {order : Order} {w' : World Shop (List Observation)}
    (h : shop.Finalizes o obj) (hrun : PaymentService.ensureCodCashFinalized o none actor
      ⟨shop.updateOrder o fun _ => obj, []⟩ = (.ok order, w')) :
    OrderAdmin.saveModel o obj actor ⟨shop, {}⟩ = (.ok (), ⟨w'.db, {}⟩) :=
  (Tx.when_of h).trans (attempt_of_ok (Tx.bind_of_ok hrun))

theorem saveModel_of_error {exn : Exn} {w' : World Shop (List Observation)}
    (h : shop.Finalizes o obj) (hrun : PaymentService.ensureCodCashFinalized o none actor
      ⟨shop.updateOrder o fun _ => obj, []⟩ = (.error exn, w')) :
    OrderAdmin.saveModel o obj actor ⟨shop, {}⟩ = (.ok (), ⟨shop.updateOrder o fun _ => obj,
      { messages := [⟨.error, s!"{obj.orderNumber}: {exn.text}"⟩] }⟩) := by
  have hdb : w'.db = shop.updateOrder o fun _ => obj := (Tx.rollsBack_atomic _).run hrun
  refine (Tx.when_of h).trans ((attempt_of_error (Tx.bind_of_error hrun)).trans ?_)
  rw [← hdb]
  rfl

theorem updateOrder_self (hrow : shop.orders.rows o = some obj) :
    (shop.updateOrder o fun _ => obj) = shop := by
  have hsame : shop.orders.modify o (fun _ => obj) = shop.orders :=
    Table.modify_eq_self fun r hr => Option.some.inj (hrow.symm.trans hr)
  rw [Shop.updateOrder, hsame]

theorem rows_updateOrder_of_some {order : Order} (hrow : shop.orders.rows o = some order)
    (obj : Order) : (shop.updateOrder o fun _ => obj).orders.rows o = some obj :=
  (Table.rows_modify_self ..).trans (congrArg _ hrow)

/-- The form is saved as it was loaded, and nothing is left to finalise. -/
theorem saveModel_unchanged (actor : String) (hrow : shop.orders.rows o = some obj)
    (h : obj.isCod → obj.paymentStatus = .cashReceived →
      shop.codOrderNeedsFinalization o = false) :
    OrderAdmin.saveModel o obj actor ⟨shop, {}⟩ = (.ok (), ⟨shop, {}⟩) := by
  have hnot : ¬shop.Finalizes o obj := by
    rintro ⟨hcod, hcash, hprevious | hneeds⟩
    · exact hprevious (by rw [hrow, Option.map_some, hcash])
    · rw [updateOrder_self hrow, h hcod hcash] at hneeds
      exact Bool.false_ne_true hneeds
  rw [saveModel_of_not actor hnot, updateOrder_self hrow]

/-- The form is saved as it was loaded, and there is no payment to finalise. -/
theorem saveModel_no_payment (actor : String) (hrow : shop.orders.rows o = some obj)
    (hnone : newest (shop.paymentsWhere fun p => p.order = o ∧ p.provider = .cod) = none) :
    OrderAdmin.saveModel o obj actor ⟨shop, {}⟩ = (.ok (), ⟨shop, {}⟩) := by
  have hsame := updateOrder_self hrow
  by_cases hfinalizes : shop.Finalizes o obj
  · have hrun : PaymentService.ensureCodCashFinalized o none actor
        ⟨shop.updateOrder o fun _ => obj, []⟩ = (.ok obj, ⟨shop, []⟩) := by
      rw [hsame]
      refine Tx.atomic_of_ok ((Tx.bind_of_ok (lockOrder_of_some hrow)).trans ?_)
      refine (Tx.ite_of_not ?_).trans ((Tx.bind_of_ok (a := none) ?_).trans rfl)
      · exact not_or.2 ⟨not_not.2 hfinalizes.1, not_not.2 hfinalizes.2.1⟩
      · exact Prod.ext (congrArg Except.ok hnone) rfl
    exact saveModel_of_ok hfinalizes hrun
  · rw [saveModel_of_not actor hfinalizes, hsame]

/-- Whatever is typed. -/
theorem saveAnswers (o : OrderId) (obj : Order) (actor : String) (shop : Shop) :
    SaveAnswers o obj actor shop := by
  by_cases hfinalizes : shop.Finalizes o obj
  · rcases hrun : PaymentService.ensureCodCashFinalized o none actor
      ⟨shop.updateOrder o fun _ => obj, []⟩ with ⟨exn | order, w'⟩
    · have hsave := saveModel_of_error hfinalizes hrun
      refine ⟨?_, fun _ => ?_, fun hsilent => ?_, fun hsilent => ?_⟩
      · rw [hsave]
      · rw [hsave]
      · rw [hsave] at hsilent
        cases hsilent
      · rw [hsave] at hsilent
        cases hsilent
    · have hsave := saveModel_of_ok hfinalizes hrun
      -- the service has returned, so there was an order to lock
      obtain ⟨order', hrow⟩ : ∃ order', shop.orders.rows o = some order' := by
        refine Option.ne_none_iff_exists'.1 fun hnone => ?_
        have hraises : (PaymentService.ensureCodCashFinalized o none actor).Ensures
            (fun _ _ => False) ⟨shop.updateOrder o fun _ => obj, []⟩ := by
          refine Tx.Ensures.atomic (Tx.wp_bind.2 (wp_lockOrder.2 ⟨fun order' hrow' => ?_,
            fun _ => trivial⟩))
          exact nomatch ((Table.rows_modify_self ..).trans (congrArg _ hnone)).symm.trans hrow'
        exact hraises.of_ok hrun
      have hedited := rows_updateOrder_of_some hrow obj
      rcases (ensureCodCashFinalized_none (w := ⟨shop.updateOrder o fun _ => obj, []⟩) actor
        hedited).of_ok hrun with ⟨hdb, hnone⟩ | ⟨hrow', hsettled⟩
      · -- there is no COD payment: nothing was done, and nothing will be
        have hnone := hnone hfinalizes.1 hfinalizes.2.1
        refine ⟨?_, fun _ => ?_, fun _ _ _ hsome => absurd hnone hsome, fun _ obj' hobj actor' => ?_⟩
        · rw [hsave]
        · rw [hsave, hdb]
        · rw [hsave, hdb] at hobj ⊢
          obtain rfl := Option.some.inj (hedited.symm.trans hobj)
          exact saveModel_no_payment actor' hedited hnone
      · refine ⟨?_, fun hshown => ?_, fun _ _ _ _ => ?_, fun _ obj' hobj actor' => ?_⟩
        · rw [hsave]
        · rw [hsave] at hshown
          exact absurd rfl hshown
        · rw [hsave]
          exact hsettled
        · rw [hsave] at hobj ⊢
          exact saveModel_unchanged actor' hobj fun _ _ => hsettled
  · -- the cash was received before, and the check has found nothing
    have hsave := saveModel_of_not actor hfinalizes
    have hsettled : obj.isCod → obj.paymentStatus = .cashReceived →
        (shop.updateOrder o fun _ => obj).codOrderNeedsFinalization o = false := by
      intro hcod hcash
      exact Bool.eq_false_iff.2 fun hneeds => hfinalizes ⟨hcod, hcash, .inr hneeds⟩
    refine ⟨?_, fun _ => ?_, fun _ hcod hcash _ => ?_, fun _ obj' hobj actor' => ?_⟩
    · rw [hsave]
    · rw [hsave]
    · rw [hsave]
      exact hsettled hcod hcash
    · rw [hsave] at hobj ⊢
      obtain ⟨order, hrow, rfl⟩ := Option.map_eq_some_iff.1
        ((Table.rows_modify_self ..).symm.trans hobj)
      exact saveModel_unchanged actor' hobj hsettled

end Saves

/-! ## Runs -/

/-- A step of the system, or a save of the form in between. -/
inductive OfficeStep where
  | system (step : Step)
  | save (o : OrderId) (obj : Order) (actor : String)

def OfficeStep.exec (db : Database) : OfficeStep → Database
  | .system step => (step.exec db).db
  | .save o obj actor =>
    { db with shop := (OrderAdmin.saveModel o obj actor ⟨db.shop, {}⟩).2.db }

/-- Whatever the services write, and also if they raise. -/
theorem Moves.sound {q : Prop} {w w' : World Shop (List Observation)} (h : Moves q w w')
    (hl : Ledger w.db.stock) : w.db.stock.Sound w'.db.stock := by
  have hwrites := h.writes
  generalize w'.db = shop' at hwrites ⊢
  induction hwrites with
  | refl => exact .refl hl
  | tail _ hlast ih => exact ih.trans (hlast.sound ih.ledger)

/-- What is typed does not reach the inventory. -/
theorem saveModel_sound (o : OrderId) (obj : Order) (actor : String) {shop : Shop}
    (hl : Ledger shop.stock) :
    shop.stock.Sound (OrderAdmin.saveModel o obj actor ⟨shop, {}⟩).2.db.stock := by
  by_cases hfinalizes : shop.Finalizes o obj
  · have hmoves := (PaymentService.ensureCodCashFinalized_moves o actor none
      ⟨shop.updateOrder o fun _ => obj, []⟩).run
    rcases hrun : PaymentService.ensureCodCashFinalized o none actor
      ⟨shop.updateOrder o fun _ => obj, []⟩ with ⟨exn | order, w'⟩
    · rw [saveModel_of_error hfinalizes hrun]
      exact .refl hl
    · rw [saveModel_of_ok hfinalizes hrun]
      rw [hrun] at hmoves
      exact hmoves.sound hl
  · rw [saveModel_of_not actor hfinalizes]
    exact .refl hl

theorem OfficeStep.sound (step : OfficeStep) {db : Database} (hl : Ledger db.shop.stock) :
    db.shop.stock.Sound (step.exec db).shop.stock := by
  cases step with
  | system step => exact step.sound hl
  | save o obj actor => exact saveModel_sound o obj actor hl

/-- The staff may type what they like into the orders, whenever they like: over every run of the
    system with saves in between the reserved quantities and units are the sums of the live
    reservations, no day is booked beyond its capacity, and the stock of a product that covers its
    reservations goes on to cover them and falls by what its days have gained. Every save is answered
    with what has become of the cash. -/
theorem stock_of_office (db : Database) (run : List OfficeStep) (hl : Ledger db.shop.stock) :
    db.shop.stock.Sound (run.foldl OfficeStep.exec db).shop.stock ∧
    ∀ earlier o obj actor later, run = earlier ++ .save o obj actor :: later →
      SaveAnswers o obj actor (earlier.foldl OfficeStep.exec db).shop := by
  refine ⟨?_, fun earlier o obj actor _ _ => saveAnswers o obj actor _⟩
  induction run generalizing db with
  | nil => exact .refl hl
  | cons step rest ih =>
    have hstep := step.sound hl
    exact hstep.trans (ih (step.exec db) hstep.ledger)

/-- The order at the door: its cash is noted, and nothing else is done. -/
def doorstepNoted : Order :=
  { cornerOrder with paymentMethod := .cod, paymentStatus := .cashReceived,
                     status := .outForDelivery }

def doorstepOffice : Database where
  shop := { doorstep with orders := Table.empty.insert doorstepNoted }

/-- The office types the order back into preparation, and is told that it cannot be delivered from
    there. It types the status back, and saves once more. -/
def officeRun : List OfficeStep :=
  [.save 0 { doorstepNoted with status := .preparing } "office", .save 0 doorstepNoted "office",
    .save 0 { doorstepNoted with status := .delivered } "office"]

theorem stock_of_office_doorstep :
    doorstepOffice.shop.stock.Sound (officeRun.foldl OfficeStep.exec doorstepOffice).shop.stock ∧
    ∀ earlier o obj actor later, officeRun = earlier ++ .save o obj actor :: later →
      SaveAnswers o obj actor (earlier.foldl OfficeStep.exec doorstepOffice).shop :=
  stock_of_office doorstepOffice officeRun doorstep_ledger

/-- The loaf leaves the stock once. -/
example : (officeRun.scanl OfficeStep.exec doorstepOffice).map
    (fun db => ((db.shop.stock.inventory 0).stockQuantity, db.shop.codOrderNeedsFinalization 0)) =
      [(3, true), (3, true), (2, false), (2, false)] := by decide +kernel

end Crumbs
