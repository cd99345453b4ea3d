import Crumbs.Lifecycle.Rows
import Crumbs.Lifecycle.Runs

/-!
# Nothing Is Handed Over Unpaid

The state machine knows nothing of payments, so an order that is not paid is kept from the counter
only as long as nobody moves it on by a plain status change.

## Contents

- `Books.IsPaid`, `Books.IsIdle`: orders with their money, and orders that nobody works on
- `HandedOverPaid`: an order that is delivered was paid at some moment of the run
- `WaitsForMoney`: no unpaid order is moved on by a plain status change
- `handedOverPaid_of_waitsForMoney`
-/

namespace Crumbs

open Crumbs.Db

/-! ## Waiting for the money -/

/-- The order is paid, or its cash is in the till. -/
def Books.IsPaid (b : Books) (o : OrderId) : Prop :=
  b.OrderIs o fun order => order.paymentStatus.isSuccessful

/-- The statuses before the shop begins to work on an order, and those of orders that have ended. -/
def OrderStatus.isIdle (status : OrderStatus) : Prop :=
  status ∈ [.pendingPayment, .awaitingPayment, .cancelled, .refunded]

instance (status : OrderStatus) : Decidable status.isIdle := inferInstanceAs (Decidable (_ ∈ _))

/-- The shop does not work on the order, if there is one. -/
def Books.IsIdle (b : Books) (o : OrderId) : Prop :=
  ∀ order, b.orders.rows o = some order → order.status.isIdle

/-- A plain status change does not set the shop to work on an order that is not paid. -/
def WaitsForMoney (b : Books) : Change → Prop
  | .transition o newStatus => ¬newStatus.isIdle → ∀ order, b.orders.rows o = some order →
      order.status.isIdle → order.paymentStatus.isSuccessful
  | _ => True

variable {b : Books} {ch : Change} {o : OrderId}

/-- What is handed over has been worked on. -/
theorem not_idle_of_deliverable {status : OrderStatus} (h : canTransition status .delivered) :
    ¬status.isIdle := by
  revert h
  cases status <;> decide

/-- The shop begins to work only on orders that get their money with it. -/
theorem idle_or_paid_apply (hguard : ch.Guard b) (hwaits : WaitsForMoney b ch) (h : b.IsIdle o) :
    (ch.apply b).IsIdle o ∨ b.IsPaid o ∨ (ch.apply b).IsPaid o := by
  by_cases hidle : (ch.apply b).IsIdle o
  · exact .inl hidle
  refine .inr ?_
  obtain ⟨order', hidle⟩ := not_forall.1 hidle
  obtain ⟨hrow', hbusy⟩ := Classical.not_imp.1 hidle
  rcases Change.order_of_apply hrow' with hrow | ⟨f, order, hupdates, hrow, rfl⟩ | ⟨hplaces, -⟩
  · exact (hbusy (h order' hrow)).elim
  · have hwas := h order hrow
    cases ch with
    | transition o' newStatus =>
      cases hupdates
      exact .inl ⟨order, hrow, hwaits hbusy order hrow hwas⟩
    | payOnline | capture | payAtCounter =>
      cases hupdates
      exact .inr ⟨_, hrow', .inl rfl⟩
    | receiveCash =>
      cases hupdates
      exact .inr ⟨_, hrow', .inr rfl⟩
    | deliver o' =>
      cases hupdates
      obtain ⟨order₁, hrow₁, -, hcan⟩ := hguard
      obtain rfl := Option.some.inj (hrow.symm.trans hrow₁)
      exact (not_idle_of_deliverable hcan hwas).elim
    | deliverCod o' =>
      cases hupdates
      obtain ⟨order₁, hrow₁, -, -, hcan⟩ := hguard
      obtain rfl := Option.some.inj (hrow.symm.trans hrow₁)
      exact (not_idle_of_deliverable hcan hwas).elim
    | amend o' f =>
      cases hupdates
      exact (hbusy ((hguard order).status ▸ hwas)).elim
    | cancel | failOrder | fail =>
      cases hupdates
      exact (hbusy (show OrderStatus.cancelled.isIdle by decide)).elim
    | refund =>
      cases hupdates
      exact (hbusy (show OrderStatus.refunded.isIdle by decide)).elim
    | requestRefund | confirmCod | noteCash | openOnline | cancelPayment =>
      cases hupdates
      exact (hbusy hwas).elim
    | _ => exact nomatch hupdates
  · cases ch with
    | checkout =>
      cases hplaces
      exact (hbusy (hguard.2.2.1 ▸ by decide)).elim
    | counterCheckout =>
      cases hplaces
      exact (hbusy (hguard.2.1 ▸ by decide)).elim
    | _ => exact nomatch hplaces

/-- What an operation does after its first change leaves a paid order paid. -/
theorem isPaid_staged (hguard : ch.Guard b) (hstaged : ch.IsStaged) (h : b.IsPaid o) :
    (ch.apply b).IsPaid o := by
  obtain ⟨order, hrow, hpaid⟩ := h
  obtain ⟨order', hrow'⟩ := Change.exists_order_apply ch hrow
  refine ⟨order', hrow', ?_⟩
  rcases Change.order_of_apply hrow' with hsame | ⟨f, order₁, hupdates, hrow₁, rfl⟩ | ⟨-, rfl⟩
  · obtain rfl := Option.some.inj (hrow.symm.trans hsame)
    exact hpaid
  · obtain rfl := Option.some.inj (hrow.symm.trans hrow₁)
    cases ch with
    | amend =>
      cases hupdates
      exact (hguard order).paymentStatus.symm ▸ hpaid
    | transition | deliver | deliverCod =>
      cases hupdates
      exact hpaid
    | payAtCounter =>
      cases hupdates
      exact .inl rfl
    | noteCash | receiveCash =>
      cases hupdates
      exact .inr rfl
    | fail =>
      cases hupdates
      obtain ⟨order₂, hrow₂, hunpaid, -⟩ := hguard.2.2
      obtain rfl := Option.some.inj (hrow.symm.trans hrow₂)
      exact (hunpaid hpaid).elim
    | shelve | reserve | settle | unlock => exact nomatch hupdates
    | _ => exact hstaged.elim
  · exact nomatch hrow.symm.trans (b.orders.fresh _ le_rfl)

/-! ## Runs -/

/-- An order that is delivered after the run was paid at some moment of it. -/
def HandedOverPaid (o : OrderId) (db : Database) (run : List Step) : Prop :=
  (after db run).shop.books.OrderIs o (fun order => order.status = .delivered) →
    ∃ before rest, run = before ++ rest ∧ (after db before).shop.books.IsPaid o

/-- A step that sets the shop to work on an order finds it paid, or pays it. -/
theorem idle_or_paid_step {db : Database} {step : Step} (hstep : step.Only WaitsForMoney db)
    (h : db.shop.books.IsIdle o) : (step.exec db).db.shop.books.IsIdle o ∨
      db.shop.books.IsPaid o ∨ (step.exec db).db.shop.books.IsPaid o := by
  refine hstep.follows.inv (I := fun b => b.IsIdle o ∨ db.shop.books.IsPaid o ∨ b.IsPaid o)
    (.inl h) ?_
  rintro b ch hb hguard ⟨hasks, hwaits⟩
  -- the order is paid in `b`: either the operation begins here, or the order stays paid
  have hpaid (h : b.IsPaid o) : db.shop.books.IsPaid o ∨ (ch.apply b).IsPaid o := by
    rcases hasks.at_once with rfl | hstaged
    · exact .inl h
    · exact .inr (isPaid_staged hguard hstaged h)
  rcases hb with hidle | hbegin | hb
  · rcases idle_or_paid_apply hguard hwaits hidle with h | h | h
    · exact .inl h
    · exact .inr (hpaid h)
    · exact .inr (.inr h)
  · exact .inr (.inl hbegin)
  · exact .inr (hpaid hb)

theorem handedOverPaid_of_idle {db : Database} {run : List Step}
    (h : Always (Step.Only WaitsForMoney) db run) (hidle : db.shop.books.IsIdle o) :
    HandedOverPaid o db run := by
  rintro ⟨order, hrow, hdelivered⟩
  induction run generalizing db with
  | nil =>
    have hwork : OrderStatus.delivered.isIdle := hdelivered ▸ hidle order hrow
    exact absurd hwork (by decide)
  | cons step rest ih =>
    obtain ⟨hstep, hrest⟩ := h
    rcases idle_or_paid_step hstep hidle with hidle | hpaid | hpaid
    · obtain ⟨before, rest', rfl, hpaid⟩ := ih hrest hidle hrow
      exact ⟨step :: before, rest', rfl, hpaid⟩
    · exact ⟨[], step :: rest, rfl, hpaid⟩
    · exact ⟨[step], rest, rfl, hpaid⟩

/-- An order that the run creates is paid before it is delivered, if no plain status change sets
    the shop to work on it unpaid. -/
theorem handedOverPaid_of_waitsForMoney (o : OrderId) (db : Database) (run : List Step)
    (hnew : db.shop.orders.rows o = none) (h : Always (Step.Only WaitsForMoney) db run) :
    HandedOverPaid o db run :=
  handedOverPaid_of_idle h fun _ hrow => nomatch hnew.symm.trans hrow

/-- The condition of a status change for an order at work, read off the shop. -/
theorem waitsForMoney_of_busy {shop : Shop} {newStatus : OrderStatus} (status : OrderStatus)
    (hrow : (shop.orders.rows o).map (·.status) = some status) (hbusy : ¬status.isIdle) :
    WaitsForMoney shop.books (.transition o newStatus) := by
  obtain ⟨order, hthere, rfl⟩ := Option.map_eq_some_iff.1 hrow
  intro _ order' hrow' hidle
  obtain rfl := Option.some.inj (hthere.symm.trans hrow')
  exact (hbusy hidle).elim

/-- An order at the counter is paid, prepared and handed over. -/
theorem handedOverPaid_of_waitsForMoney_counter : HandedOverPaid 0 cornerShop
    [cornerCounterCheckout, cornerCall (.markCounterCashReceived 0 0 "cashier"),
      cornerCall (.transition 0 .packaged "" "admin"),
      cornerCall (.transition 0 .outForDelivery "" "admin"),
      cornerCall (.completeDelivery 0 "admin")] := by
  refine handedOverPaid_of_waitsForMoney 0 cornerShop _ rfl ⟨?_, ?_, ?_, ?_, ?_, trivial⟩
  · rintro b ch ⟨-, order, reservations, payment, rfl⟩ -
    trivial
  · rintro b ch hasks -
    cases ch with
    | settle | payAtCounter => trivial
    | _ => exact hasks.elim
  · rintro b ch ⟨rfl, rfl⟩ -
    exact waitsForMoney_of_busy .preparing (by decide +kernel) (by decide)
  · rintro b ch ⟨rfl, rfl⟩ -
    exact waitsForMoney_of_busy .packaged (by decide +kernel) (by decide)
  · rintro b ch ⟨-, rfl | rfl⟩ - <;> trivial

/-! ## An order that slips through -/

/-- What an order that is delivered must have been, read off the shops. -/
theorem HandedOverPaid.isSuccessful {db : Database} {run : List Step} (h : HandedOverPaid o db run)
    (hdelivered : ((after db run).shop.orders.rows o).map (·.status) = some .delivered) :
    ∃ n < run.length + 1, ((after db (run.take n)).shop.orders.rows o).any
      fun order => order.paymentStatus.isSuccessful := by
  obtain ⟨before, rest, hrun, order, hrow, hpaid⟩ := h (Option.map_eq_some_iff.1 hdelivered)
  subst hrun
  refine ⟨before.length, Nat.lt_succ_of_le (by simp), ?_⟩
  rw [List.take_left, show (after db before).shop.orders.rows o = some order from hrow]
  exact decide_eq_true hpaid

/-- An order at the counter is moved on by hand until it is handed over. -/
def slippedRun : List Step :=
  [cornerCounterCheckout, cornerCall (.transition 0 .preparing "" "admin"),
    cornerCall (.transition 0 .packaged "" "admin"),
    cornerCall (.transition 0 .outForDelivery "" "admin"), cornerCall (.completeDelivery 0 "admin")]

theorem not_handedOverPaid_slipped : ¬HandedOverPaid 0 cornerShop slippedRun := by
  intro h
  have hpaid := h.isSuccessful (by decide +kernel)
  revert hpaid
  decide +kernel

end Crumbs
