import Crumbs.Orders.Outcomes

/-!
# The Actions of the Order List

The staff select orders in a list and run an action on all of them. The list is loaded once, before
the first service call; every call is a transaction of its own. Most actions note what a call has
raised and go on with the next order. Some do not, and leave the rest of the selection as it is.

## Contents

- `AdminTx`: the shop with the messages for the user and the counters of the loop
- `AdminAction`: the actions
- `OrderAdmin.transitionSelected_spec`: what the three actions that only change the status come to
-/

namespace Crumbs

open Crumbs.Db

/-! ## Messages -/

/-- The levels of `django.contrib.messages` -/
inductive MessageLevel where
  | success
  | info
  | warning
  | error
  deriving DecidableEq, Repr

/-- A message at the top of the list. -/
structure UserMessage where
  level : MessageLevel
  text : String
  deriving DecidableEq, Repr

/-- What an action has told the user so far, and the counters of its loop. -/
structure ActionReport where
  messages : List UserMessage := []
  updated : ℕ := 0
  skipped : ℕ := 0
  deriving DecidableEq, Repr

/-- An order of the selection, as the list has loaded it. -/
abbrev Selected := OrderId × Order

/-- The work of an action. The user does not see what the services show of themselves. -/
abbrev AdminTx := Tx Shop ActionReport Exn

namespace AdminTx

/-- A call of a service, or a query. -/
def call {α : Type} (x : ShopTx α) : AdminTx α := fun w =>
  match x ⟨w.db, []⟩ with
  | (r, w') => (r, ⟨w'.db, w.ext⟩)

def messageUser (level : MessageLevel) (text : String) : AdminTx Unit :=
  Tx.modifyExt fun report => { report with messages := report.messages ++ [⟨level, text⟩] }

/-- `updated += 1` -/
def countUpdated : AdminTx Unit :=
  Tx.modifyExt fun report => { report with updated := report.updated + 1 }

/-- `skipped += 1` -/
def countSkipped : AdminTx Unit :=
  Tx.modifyExt fun report => { report with skipped := report.skipped + 1 }

/-- One pass of a loop: what the service raises is noted, and the loop continues. -/
def attempt (e : Selected) (x : ShopTx Unit) (rest : AdminTx Unit) : AdminTx Unit := do
  let returned ← Tx.catching
    (do
      call x
      return true)
    fun exn => do
      messageUser .error s!"{e.2.orderNumber}: {exn.text}"
      return false
  Tx.when returned rest

/-- An order that reads `unchanged` after the service call is skipped. -/
def attemptUpdate (e : Selected) (x : ShopTx Unit) (refresh : ShopTx Order)
    (unchanged : Order → Prop) [DecidablePred unchanged] (already : String) : AdminTx Unit :=
  attempt e x do
    let order ← call refresh
    if unchanged order then
      countSkipped
      messageUser .info s!"{order.orderNumber}: {already}"
    else
      countUpdated

/-- What is said when the loop is through. -/
def closing (done : ℕ → String) (nothing : String) : AdminTx Unit := do
  let report ← Tx.getExt
  if report.updated ≠ 0 then
    messageUser .success (done report.updated)
  else
    Tx.when (report.skipped = 0) (messageUser .warning nothing)

end AdminTx

/-! ## Actions -/

/-- `conditional_escape` on a string -/
def conditionalEscape (s : String) : String :=
  String.join (s.toList.map fun
    | '&' => "&amp;"
    | '<' => "&lt;"
    | '>' => "&gt;"
    | '"' => "&quot;"
    | '\x27' => "&#x27;"
    | c => String.singleton c)

namespace OrderAdmin

open AdminTx

def createStripeCheckout (env : Env) (selected : List Selected) : AdminTx Unit :=
  selected.forM fun e => do
    let payment ← Tx.catching
      (do
        let payment ← call (PaymentService.initiateOnline env e.1)
        return some payment.2)
      fun exn => do
        Tx.when (¬exn.isPaymentError) (Tx.raise exn)
        messageUser .error s!"{e.2.orderNumber}: {exn.text}"
        return none
    Tx.ifSome payment fun payment => messageUser .success
      (conditionalEscape e.2.orderNumber ++ ": <a href='" ++
        conditionalEscape payment.checkoutUrl ++ "' target='_blank'>Stripe</a>")

/-- The newest payment of the order that satisfies `p`. -/
def newestPayment (o : OrderId) (p : Payment → Bool) : AdminTx (Option (PaymentId × Payment)) := do
  let shop ← Tx.getDb
  return newest (shop.paymentsWhere fun payment => payment.order = o && p payment)

/-- One pass of the loops that note the receipt of money. -/
def receivePayment (e : Selected) (p : Payment → Bool) (missing : String)
    (mark : PaymentId → ShopTx Unit) (settled : OrderStatus) (already : String) : AdminTx Unit := do
  let payment ← newestPayment e.1 p
  match payment with
  | none => messageUser .error s!"{e.2.orderNumber}: {missing}"
  | some (q, payment) =>
    attemptUpdate e (mark q) (do
        let _ ← lockPayment q
        lockOrder e.1)
      (fun _ => payment.status = .succeeded ∧ e.2.status = settled) already

/-- `_mark_counter_payment_received` -/
def markCounterPaymentReceived (selected : List Selected) (mark : OrderId → PaymentId → ShopTx Unit)
    (actionLabel : String) : AdminTx Unit := do
  selected.forM fun e => receivePayment e
    (fun payment => payment.provider ∈ [.cash, .counterCard] ∧
      payment.status ∈ [.pending, .succeeded])
    "No counter payment record found." (mark e.1) .preparing "Counter payment already recorded."
  closing (fun n => s!"Recorded {actionLabel} for {n} order(s).")
    "No counter payment orders were updated."

def markCashReceived (actor : String) (selected : List Selected) : AdminTx Unit :=
  markCounterPaymentReceived (selected.filter fun e => e.2.paymentMethod = .cash)
    (fun o p => Tx.void (PaymentService.markCounterCashReceived o p actor)) "cash received"

def markCardReceived (actor : String) (selected : List Selected) : AdminTx Unit :=
  markCounterPaymentReceived (selected.filter fun e => e.2.paymentMethod = .counterCard)
    (fun o p => Tx.void (PaymentService.markCounterCardReceived o p actor)) "card received"

def confirmCod (actor : String) (selected : List Selected) : AdminTx Unit := do
  (selected.filter fun e => e.2.isCod).forM fun e =>
    attempt e (Tx.void (OrderService.confirmCod e.1 actor)) countUpdated
  let report ← Tx.getExt
  messageUser .success s!"Confirmed {report.updated} COD order(s)."

def markCodCashReceived (actor : String) (selected : List Selected) : AdminTx Unit := do
  (selected.filter fun e => e.2.isCod).forM fun e => receivePayment e
    (fun payment => payment.provider = .cod) "No COD payment record found."
    (fun p => Tx.void (PaymentService.markCodCashReceived e.1 p actor)) .delivered
    "COD cash already recorded."
  closing (fun n => s!"Recorded COD cash for {n} order(s).") "No COD orders were updated."

/-- `_transition` -/
def transitionSelected (actor : String) (newStatus : OrderStatus) (actionLabel : String)
    (selected : List Selected) : AdminTx Unit := do
  selected.forM fun e =>
    attemptUpdate e (Tx.void (OrderService.transition e.1 newStatus "" actor)) (lockOrder e.1)
      (fun order => order.status = e.2.status ∧ e.2.status = newStatus) s!"already {actionLabel}."
  closing (fun n => s!"Marked {n} order(s) as {actionLabel}.") "No orders were updated."

def markDelivered (actor : String) (selected : List Selected) : AdminTx Unit := do
  selected.forM fun e =>
    attemptUpdate e (Tx.void (OrderService.completeDelivery e.1 actor)) (lockOrder e.1)
      (fun order => order.status = e.2.status ∧ e.2.status = .delivered) "already picked up."
  closing (fun n => s!"Marked {n} order(s) as picked up.") "No orders were picked up."

/-- The actions without a `try`: what a call raises ends the loop. -/
def callAll (x : OrderId → ShopTx Order) (done : String) (selected : List Selected) :
    AdminTx Unit := do
  selected.forM fun e => call (Tx.void (x e.1))
  messageUser .success done

end OrderAdmin

/-- The actions of the list. -/
inductive AdminAction where
  | createStripeCheckout
  | markCashReceived
  | markCardReceived
  | confirmCod
  | markCodCashReceived
  | advanceToPreparing
  | advanceToPackaged
  | advanceToOutForDelivery
  | markDelivered
  | cancelOrders
  | requestRefund
  | processRefund
  deriving DecidableEq, Repr

/-- The action, on a selection of orders, for a user. -/
def AdminAction.run (env : Env) (actor : String) (selected : List Selected) :
    AdminAction → AdminTx Unit
  | createStripeCheckout => OrderAdmin.createStripeCheckout env selected
  | markCashReceived => OrderAdmin.markCashReceived actor selected
  | markCardReceived => OrderAdmin.markCardReceived actor selected
  | confirmCod => OrderAdmin.confirmCod actor selected
  | markCodCashReceived => OrderAdmin.markCodCashReceived actor selected
  | advanceToPreparing => OrderAdmin.transitionSelected actor .preparing "preparing" selected
  | advanceToPackaged => OrderAdmin.transitionSelected actor .packaged "packaged" selected
  | advanceToOutForDelivery =>
    OrderAdmin.transitionSelected actor .outForDelivery "ready for counter pickup" selected
  | markDelivered => OrderAdmin.markDelivered actor selected
  | cancelOrders => OrderAdmin.callAll (OrderService.cancel · "Cancelled via admin" actor)
      "Orders cancelled." selected
  | requestRefund => OrderAdmin.callAll (OrderService.requestRefund · "" actor)
      "Refund requested." selected
  | processRefund => OrderAdmin.callAll (OrderService.processRefund · "" actor)
      "Refunds processed." selected

/-! ## One pass -/

section Passes

variable {e : Selected} {x : ShopTx Unit} {rest : AdminTx Unit} {w : World Shop ActionReport}
  {w' : World Shop (List Observation)} {exn : Exn}

namespace AdminTx

theorem call_of_run {α : Type} {x : ShopTx α} {r : Except Exn α} (h : x ⟨w.db, []⟩ = (r, w')) :
    call x w = (r, ⟨w'.db, w.ext⟩) := by
  rw [call, h]

theorem attempt_of_ok (h : x ⟨w.db, []⟩ = (.ok (), w')) :
    attempt e x rest w = rest ⟨w'.db, w.ext⟩ := by
  refine (Tx.bind_of_ok (a := true) ?_).trans rfl
  exact Tx.catching_of_ok (Tx.bind_of_ok (call_of_run h))

theorem attempt_of_error (h : x ⟨w.db, []⟩ = (.error exn, w')) :
    attempt e x rest w = messageUser .error s!"{e.2.orderNumber}: {exn.text}" ⟨w'.db, w.ext⟩ := by
  refine (Tx.bind_of_ok (a := false) ?_).trans rfl
  rw [Tx.catching, Tx.bind_of_error (call_of_run h)]
  rfl

theorem closing_run (done : ℕ → String) (nothing : String) (w : World Shop ActionReport) :
    closing done nothing w = (.ok (), ⟨w.db, { w.ext with messages := w.ext.messages ++
      if w.ext.updated ≠ 0 then [⟨.success, done w.ext.updated⟩]
      else if w.ext.skipped = 0 then [⟨.warning, nothing⟩]
      else [] }⟩) := by
  have hext : (Tx.getExt : AdminTx ActionReport) w = (.ok w.ext, w) := rfl
  refine (Tx.bind_of_ok hext).trans ?_
  by_cases hupdated : w.ext.updated ≠ 0
  · simp only [if_pos hupdated]
    rfl
  · simp only [if_neg hupdated, Tx.when]
    by_cases hskipped : w.ext.skipped = 0
    · simp only [if_pos hskipped]
      rfl
    · simp only [if_neg hskipped, List.append_nil]
      rfl

end AdminTx

end Passes

/-- An order that is paid at the counter. -/
def shiftOrder (status : OrderStatus) : Order where
  orderNumber := "CR-1"
  user := none
  email := ""
  status
  paymentStatus := .paid
  paymentMethod := .cash
  deliveryType := .pickup
  deliveryFee := 0
  subtotal := 200000
  total := 200000
  createdAt := 0

/-- Three orders of a shift, of which the second one is delivered. -/
def shiftOrders : List Selected :=
  [(0, shiftOrder .preparing), (1, shiftOrder .delivered), (2, shiftOrder .preparing)]

/-- A shop with these orders. -/
def shiftShop : Shop where
  stock :=
    { products := fun _ => { name := "Loaf", price := 200000, availabilityStatus := .available }
      inventories := fun _ => none }
  orders := ((Table.empty.insert (shiftOrder .preparing)).insert (shiftOrder .delivered)).insert
    (shiftOrder .preparing)

namespace OrderAdmin

open AdminTx

/-! ## Changes of status -/

/-- The selected orders from which an edge leads to the status. -/
def movable (newStatus : OrderStatus) (selected : List Selected) : List Selected :=
  selected.filter fun e => newStatus ∈ e.2.status.allowedTransitions

/-- The selected orders that have the status. -/
def there (newStatus : OrderStatus) (selected : List Selected) : List Selected :=
  selected.filter fun e => e.2.status = newStatus

/-- What the user is told of an order. -/
def remark (newStatus : OrderStatus) (actionLabel : String) (e : Selected) : Option UserMessage :=
  if e.2.status = newStatus then
    some ⟨.info, s!"{e.2.orderNumber}: " ++ s!"already {actionLabel}."⟩
  else if newStatus ∈ e.2.status.allowedTransitions then
    none
  else
    some ⟨.error, s!"{e.2.orderNumber}: " ++ (s!"Cannot transition order {e.2.orderNumber} from " ++
      s!"'{e.2.status.value}' to '{newStatus.value}'.")⟩

/-- The shop after the orders have moved, one after the other. -/
def advanced (newStatus : OrderStatus) (actor : String) (moved : List Selected) (shop : Shop) :
    Shop :=
  moved.foldl (fun shop e => shop.restatus e.1 e.2.status newStatus "" actor) shop

/-- What the user has been told when the loop is through a list of orders. -/
def reported (newStatus : OrderStatus) (actionLabel : String) (selected : List Selected)
    (report : ActionReport) : ActionReport where
  messages := report.messages ++ selected.filterMap (remark newStatus actionLabel)
  updated := report.updated + (movable newStatus selected).length
  skipped := report.skipped + (there newStatus selected).length

section Transitions

variable {newStatus : OrderStatus} {actor actionLabel : String} {e : Selected}
  {selected : List Selected} {shop : Shop} {report : ActionReport}

/-- No edge leads back. -/
theorem not_mem_allowedTransitions (status : OrderStatus) : status ∉ status.allowedTransitions := by
  cases status <;> decide

/-- The pass for an order with the given status. -/
abbrev transitionPass (newStatus : OrderStatus) (actor actionLabel : String) (e : Selected) :
    AdminTx Unit :=
  attemptUpdate e (Tx.void (OrderService.transition e.1 newStatus "" actor)) (lockOrder e.1)
    (fun order => order.status = e.2.status ∧ e.2.status = newStatus) s!"already {actionLabel}."

theorem transitionPass_there (hrow : shop.orders.rows e.1 = some e.2)
    (h : e.2.status = newStatus) :
    transitionPass newStatus actor actionLabel e ⟨shop, report⟩ = (.ok (), ⟨shop,
      { report with
        messages := report.messages ++
          [⟨.info, s!"{e.2.orderNumber}: " ++ s!"already {actionLabel}."⟩]
        skipped := report.skipped + 1 }⟩) := by
  have hrun : Tx.void (OrderService.transition e.1 newStatus "" actor) ⟨shop, []⟩ =
      (.ok (), ⟨shop, []⟩) := Tx.bind_of_ok (transition_same newStatus "" actor hrow h)
  refine (attempt_of_ok hrun).trans ?_
  refine (Tx.bind_of_ok (call_of_run (lockOrder_of_some hrow))).trans ?_
  have hsame : e.2.status = e.2.status ∧ e.2.status = newStatus := ⟨rfl, h⟩
  exact (Tx.ite_of hsame).trans rfl

theorem transitionPass_movable (hrow : shop.orders.rows e.1 = some e.2)
    (h : newStatus ∈ e.2.status.allowedTransitions) :
    transitionPass newStatus actor actionLabel e ⟨shop, report⟩ =
      (.ok (), ⟨shop.restatus e.1 e.2.status newStatus "" actor,
        { report with updated := report.updated + 1 }⟩) := by
  have hne : e.2.status ≠ newStatus := fun heq =>
    not_mem_allowedTransitions newStatus (by rwa [heq] at h)
  have hrun : Tx.void (OrderService.transition e.1 newStatus "" actor) ⟨shop, []⟩ =
      (.ok (), ⟨shop.restatus e.1 e.2.status newStatus "" actor, []⟩) :=
    Tx.bind_of_ok (transition_changes newStatus "" actor hrow hne h)
  refine (attempt_of_ok hrun).trans ?_
  -- the order is read again, and has the new status
  have hrow' : (shop.restatus e.1 e.2.status newStatus "" actor).orders.rows e.1 =
      some { e.2 with status := newStatus } := by
    rw [orders_restatus, Table.rows_modify_self, hrow]
    rfl
  refine (Tx.bind_of_ok (call_of_run (lockOrder_of_some hrow'))).trans ?_
  exact Tx.ite_of_not fun hsame => hne hsame.2

theorem transitionPass_refused (hrow : shop.orders.rows e.1 = some e.2)
    (hne : e.2.status ≠ newStatus) (h : newStatus ∉ e.2.status.allowedTransitions) :
    transitionPass newStatus actor actionLabel e ⟨shop, report⟩ = (.ok (), ⟨shop,
      { report with messages := report.messages ++
          [⟨.error, s!"{e.2.orderNumber}: " ++
            (s!"Cannot transition order {e.2.orderNumber} from " ++
              s!"'{e.2.status.value}' to '{newStatus.value}'.")⟩] }⟩) := by
  have hvalidate : validateTransition e.2 newStatus ⟨shop, []⟩ =
      (.error (.invalidTransitionError (s!"Cannot transition order {e.2.orderNumber} from " ++
        s!"'{e.2.status.value}' to '{newStatus.value}'.")), ⟨shop, []⟩) := by
    have hforbidden : ¬canTransition e.2.status newStatus := not_or.2 ⟨hne, h⟩
    rw [validateTransition, Tx.when, if_pos hforbidden]
    rfl
  have hrun : OrderService.transition e.1 newStatus "" actor ⟨shop, []⟩ =
      (.error (.invalidTransitionError (s!"Cannot transition order {e.2.orderNumber} from " ++
        s!"'{e.2.status.value}' to '{newStatus.value}'.")), ⟨shop, []⟩) := by
    refine Tx.atomic_of_error (v := ⟨shop, []⟩) ((Tx.bind_of_ok (lockOrder_of_some hrow)).trans ?_)
    exact Tx.bind_of_error hvalidate
  have hvoid : Tx.void (OrderService.transition e.1 newStatus "" actor) ⟨shop, []⟩ = _ :=
    Tx.bind_of_error hrun
  exact (attempt_of_error hvoid).trans rfl

variable (newStatus actor actionLabel report) in
/-- What one pass does. -/
theorem transitionPass_run (hrow : shop.orders.rows e.1 = some e.2) :
    transitionPass newStatus actor actionLabel e ⟨shop, report⟩ =
      (.ok (), ⟨advanced newStatus actor (movable newStatus [e]) shop,
        reported newStatus actionLabel [e] report⟩) := by
  by_cases hthere : e.2.status = newStatus
  · have hnot : newStatus ∉ newStatus.allowedTransitions := not_mem_allowedTransitions newStatus
    rw [transitionPass_there hrow hthere]
    simp [advanced, reported, movable, there, remark, hthere, hnot]
  · by_cases hedge : newStatus ∈ e.2.status.allowedTransitions
    · rw [transitionPass_movable hrow hedge]
      simp [advanced, reported, movable, there, remark, hthere, hedge]
    · rw [transitionPass_refused hrow hthere hedge]
      simp [advanced, reported, movable, there, remark, hthere, hedge]

theorem advanced_append (l l' : List Selected) : advanced newStatus actor (l ++ l') shop =
    advanced newStatus actor l' (advanced newStatus actor l shop) := List.foldl_append

theorem reported_append (l l' : List Selected) : reported newStatus actionLabel (l ++ l') report =
    reported newStatus actionLabel l' (reported newStatus actionLabel l report) := by
  simp [reported, movable, there, Nat.add_assoc]

/-- The orders that do not move keep their rows. -/
theorem rows_advanced_of_not_mem {moved : List Selected} {o : OrderId}
    (h : o ∉ moved.map Prod.fst) :
    (advanced newStatus actor moved shop).orders.rows o = shop.orders.rows o := by
  induction moved generalizing shop with
  | nil => rfl
  | cons e rest ih =>
    rw [List.map_cons, List.mem_cons, not_or] at h
    refine (ih h.2).trans ?_
    rw [orders_restatus]
    exact Table.rows_modify_ne _ _ h.1

/-- The others move, each of them once. -/
theorem rows_advanced {moved : List Selected} (hnodup : (moved.map Prod.fst).Nodup)
    (h : e ∈ moved) : (advanced newStatus actor moved shop).orders.rows e.1 =
      (shop.orders.rows e.1).map ({ · with status := newStatus }) := by
  induction moved generalizing shop with
  | nil => exact absurd h List.not_mem_nil
  | cons e' rest ih =>
    rw [List.map_cons, List.nodup_cons] at hnodup
    rcases List.mem_cons.1 h with rfl | hmem
    · refine (rows_advanced_of_not_mem hnodup.1).trans ?_
      rw [orders_restatus]
      exact Table.rows_modify_self _ _ _
    · refine (ih hnodup.2 hmem).trans ?_
      have hne : e.1 ≠ e'.1 := fun heq => hnodup.1 (heq ▸ List.mem_map_of_mem hmem)
      rw [orders_restatus, Table.rows_modify_ne _ _ hne]

theorem statusLogs_advanced (moved : List Selected) :
    (advanced newStatus actor moved shop).statusLogs = shop.statusLogs ++ moved.map fun e =>
      { order := e.1, fromStatus := e.2.status, toStatus := newStatus, note := "", actor } := by
  induction moved generalizing shop with
  | nil => exact (List.append_nil _).symm
  | cons e rest ih => exact ih.trans (List.append_assoc ..)

/-- Nothing else is written. -/
theorem advanced_eq (moved : List Selected) : advanced newStatus actor moved shop =
    { shop with
      orders := (advanced newStatus actor moved shop).orders
      statusLogs := (advanced newStatus actor moved shop).statusLogs
      statusWrites := (advanced newStatus actor moved shop).statusWrites } := by
  induction moved generalizing shop with
  | nil => rfl
  | cons e rest ih => exact ih

/-- The loop. -/
theorem forM_transitionPass (hnodup : (selected.map Prod.fst).Nodup)
    (hloaded : ∀ e ∈ selected, shop.orders.rows e.1 = some e.2) :
    selected.forM (transitionPass newStatus actor actionLabel) ⟨shop, report⟩ =
      (.ok (), ⟨advanced newStatus actor (movable newStatus selected) shop,
        reported newStatus actionLabel selected report⟩) := by
  induction selected generalizing shop report with
  | nil => simp [advanced, reported, movable, there]; rfl
  | cons e rest ih =>
    rw [List.map_cons, List.nodup_cons] at hnodup
    have hrun := transitionPass_run newStatus actor actionLabel report
      (hloaded e List.mem_cons_self)
    refine (Tx.bind_of_ok hrun).trans ?_
    -- the orders that are left are still as the list has loaded them
    have hkeeps : ∀ e' ∈ rest, (advanced newStatus actor (movable newStatus [e]) shop).orders.rows
        e'.1 = some e'.2 := by
      intro e' he'
      rw [← hloaded e' (List.mem_cons_of_mem e he')]
      refine rows_advanced_of_not_mem fun hmem => hnodup.1 ?_
      obtain ⟨x, hx, hsame⟩ := List.mem_map.1 hmem
      obtain rfl := List.mem_singleton.1 (List.mem_filter.1 hx).1
      exact hsame ▸ List.mem_map_of_mem he'
    refine (ih hnodup.2 hkeeps).trans ?_
    rw [← advanced_append, ← reported_append, movable, movable, ← List.filter_append]
    rfl

end Transitions

/-- An action that changes the status, on distinct orders as the list shows them: it moves the ones
    from which an edge leads there, with one log for each, and counts them; every other selected
    order gets a message that says why it was left, and nothing else in the shop changes. -/
theorem transitionSelected_spec (actor : String) (newStatus : OrderStatus) (actionLabel : String)
    (selected : List Selected) (shop : Shop) (hnodup : (selected.map Prod.fst).Nodup)
    (hloaded : ∀ e ∈ selected, shop.orders.rows e.1 = some e.2) :
    ∃ shop', transitionSelected actor newStatus actionLabel selected ⟨shop, {}⟩ = (.ok (), ⟨shop',
        { messages := selected.filterMap (remark newStatus actionLabel) ++
            if movable newStatus selected ≠ [] then
              [⟨.success,
                s!"Marked {(movable newStatus selected).length} order(s) as {actionLabel}."⟩]
            else if there newStatus selected = [] then
              [⟨.warning, "No orders were updated."⟩]
            else []
          updated := (movable newStatus selected).length
          skipped := (there newStatus selected).length }⟩) ∧
      (∀ e ∈ movable newStatus selected,
        shop'.orders.rows e.1 = some { e.2 with status := newStatus }) ∧
      (∀ o, o ∉ (movable newStatus selected).map Prod.fst →
        shop'.orders.rows o = shop.orders.rows o) ∧
      shop'.statusLogs = shop.statusLogs ++ (movable newStatus selected).map (fun e =>
        { order := e.1, fromStatus := e.2.status, toStatus := newStatus, note := "", actor }) ∧
      shop' = { shop with
        orders := shop'.orders
        statusLogs := shop'.statusLogs
        statusWrites := shop'.statusWrites } := by
  refine ⟨advanced newStatus actor (movable newStatus selected) shop, ?_, fun e he => ?_,
    fun o ho => rows_advanced_of_not_mem ho, statusLogs_advanced _, advanced_eq _⟩
  · refine (Tx.bind_of_ok (forM_transitionPass hnodup hloaded)).trans ?_
    rw [closing_run]
    simp [reported]
  · have hsub : (movable newStatus selected).Sublist selected := List.filter_sublist
    rw [rows_advanced ((hsub.map Prod.fst).nodup hnodup) he, hloaded e (hsub.subset he)]
    rfl

/-- Of three orders two are packaged, and the delivered one stays. -/
theorem transitionSelected_spec_shift : ∃ shop',
    transitionSelected "admin" .packaged "packaged" shiftOrders ⟨shiftShop, {}⟩ = (.ok (), ⟨shop',
      { messages :=
          [⟨.error, "CR-1: Cannot transition order CR-1 from 'delivered' to 'packaged'."⟩,
            ⟨.success, "Marked 2 order(s) as packaged."⟩]
        updated := 2 }⟩) ∧
      shop'.orders.rows 0 = some (shiftOrder .packaged) ∧
      shop'.orders.rows 1 = some (shiftOrder .delivered) := by
  obtain ⟨shop', hrun, hmoved, hothers, -⟩ := transitionSelected_spec "admin" .packaged "packaged"
    shiftOrders shiftShop (by decide) (by decide)
  refine ⟨shop', hrun.trans ?_, hmoved (0, shiftOrder .preparing) (by decide),
    (hothers 1 (by decide)).trans (by decide)⟩
  rw [Prod.mk.injEq, World.mk.injEq]
  exact ⟨rfl, rfl, by decide +kernel⟩

end OrderAdmin

end Crumbs
