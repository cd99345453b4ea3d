import Crumbs.Lifecycle.Isolation
import Crumbs.Lifecycle.Refunds
import Crumbs.Orders.Admin

/-!
# Actions on Many Orders

An action of the order list is a run of the system: one call at most for each selected order, in the
order of the selection, and no more. So whatever holds over all runs holds of the actions, and
orders that are not selected are left alone. An action that does not catch exceptions gets as far as
the first order that its call raises for.

## Contents

- `ShopCall.asStep`, `ShopCall.IsFor`: a call for one order
- `Serves`, `served_of_action`: an action is a run of calls for selected orders
- `AdminAction.Stops`, `AdminAction.Reaches`: where the actions without a `try` stop, and what the
  orders before have come to
- `stopped_of_action`
-/

namespace Crumbs

open Crumbs.Db

/-! ## One call -/

/-- The call as a step of the system. -/
def ShopCall.asStep (env : Env) (call : ShopCall) : Step := { env, operation := .call call }

/-- The call is for the order, and the payment that it names is one of the order. -/
def ShopCall.IsFor (b : Books) (o : OrderId) (call : ShopCall) : Prop :=
  call.order = some o ∧
    ∀ p, call.payment = some p → b.PaymentIs p fun payment => payment.order = o

section Calls

variable {env : Env} {call : ShopCall} {db : Database} {o o' : OrderId}

theorem exec_asStep (env : Env) (call : ShopCall) (db : Database) :
    ((call.asStep env).exec db).db = { db with shop := (call.run env ⟨db.shop, []⟩).2.db } := by
  change (Tx.zoom Database.shop (fun shop db => { db with shop }) (call.run env) ⟨db, []⟩).2.db = _
  rw [Tx.zoom]

variable (env) in
/-- A call for another order. -/
theorem ShopCall.IsFor.not_concerns (h : call.IsFor db.shop.books o') (hne : o ≠ o') :
    ¬(call.asStep env).Concerns o db := by
  obtain ⟨horder, hnamed⟩ := h
  rintro (heq | ⟨p, hp, payment, hrow, heq⟩ | hfound)
  · exact hne (Option.some.inj (heq.symm.trans horder))
  · obtain ⟨payment', hrow', heq'⟩ := hnamed p hp
    obtain rfl := Option.some.inj (hrow.symm.trans hrow')
    exact hne (heq.symm.trans heq')
  · -- the sweeps are for no order
    cases call <;> first | exact hfound | exact nomatch horder

variable (env) in
theorem ShopCall.IsFor.sameFor (h : call.IsFor db.shop.books o') (hne : o ≠ o')
    (hthere : db.shop.orders.rows o ≠ none) :
    db.shop.books.SameFor o (call.run env ⟨db.shop, []⟩).2.db.books := by
  have hsame := sameFor_exec hthere (h.not_concerns env hne)
  rwa [exec_asStep] at hsame

end Calls

/-! ## Actions are runs -/

theorem Always.append {P : Database → Step → Prop} {db : Database} {earlier later : List Step}
    (h : Always P db earlier) (h' : Always P (after db earlier) later) :
    Always P db (earlier ++ later) := by
  induction earlier generalizing db with
  | nil => exact h'
  | cons step rest ih => exact ⟨h.1, ih h.2 h'⟩

/-- The shop is what calls for some of the selected orders leave, in the order of the selection. -/
structure Serves (env : Env) (selected : List Selected) (db : Database) (shop : Shop)
    (calls : List ShopCall) : Prop where
  orders : (calls.map ShopCall.order).Sublist (selected.map fun e => some e.1)
  own : Always (fun db step => ∃ call : ShopCall, ∃ e ∈ selected, step = call.asStep env ∧
    call.IsFor db.shop.books e.1) db (calls.map (ShopCall.asStep env))
  shop : (after db (calls.map (ShopCall.asStep env))).shop = shop

namespace Serves

variable {env : Env} {selected selected' : List Selected} {db : Database} {shop shop' : Shop}
  {calls calls' : List ShopCall}

theorem nil (env : Env) (db : Database) : Serves env [] db db.shop [] :=
  ⟨List.Sublist.slnil, trivial, rfl⟩

theorem mono (h : Serves env selected db shop calls) (hsub : selected.Sublist selected') :
    Serves env selected' db shop calls where
  orders := h.orders.trans (hsub.map _)
  own := h.own.mono fun _ _ ⟨call, e, he, hcall⟩ => ⟨call, e, hsub.subset he, hcall⟩
  shop := h.shop

theorem append (h : Serves env selected db shop calls)
    (h' : Serves env selected' (after db (calls.map (ShopCall.asStep env))) shop' calls') :
    Serves env (selected ++ selected') db shop' (calls ++ calls') where
  orders := by
    rw [List.map_append, List.map_append]
    exact h.orders.append h'.orders
  own := by
    rw [List.map_append]
    refine .append (h.own.mono ?_) (h'.own.mono ?_)
    · exact fun _ _ ⟨call, e, he, hcall⟩ => ⟨call, e, List.mem_append_left _ he, hcall⟩
    · exact fun _ _ ⟨call, e, he, hcall⟩ => ⟨call, e, List.mem_append_right _ he, hcall⟩
  shop := by
    rw [List.map_append, after_append]
    exact h'.shop

end Serves

namespace AdminTx

/-- What a pass of a loop may do: nothing, or a call for the order. -/
def PassFor (env : Env) (o : OrderId) (w w' : World Shop ActionReport) : Prop :=
  w'.db = w.db ∨
    ∃ call : ShopCall, call.IsFor w.db.books o ∧ w'.db = (call.run env ⟨w.db, []⟩).2.db

section Passes

variable {env : Env} {e : Selected} {x : ShopTx Unit} {rest : AdminTx Unit}
  {w : World Shop ActionReport}

theorem lockOrder_readOnly (o : OrderId) : (lockOrder o).Steps (Tx.Leaves id) := fun _ =>
  wp_lockOrder.2 ⟨fun _ _ => rfl, fun _ => rfl⟩

theorem lockPayment_readOnly (p : PaymentId) : (lockPayment p).Steps (Tx.Leaves id) := fun _ =>
  wp_lockPayment.2 ⟨fun _ _ => rfl, fun _ => rfl⟩

theorem call_readOnly {α : Type} {x : ShopTx α} (h : x.Steps (Tx.Leaves id)) :
    (call x).Steps (Tx.Leaves id) := by
  intro w
  rcases hrun : x ⟨w.db, []⟩ with ⟨r, w'⟩
  have hdb : w'.db = w.db := by
    have hstep := (h ⟨w.db, []⟩).run
    rwa [hrun] at hstep
  refine .of_run ?_
  rw [call_of_run hrun]
  exact hdb

theorem messageUser_readOnly (level : MessageLevel) (text : String) :
    (messageUser level text).Steps (Tx.Leaves id) := fun _ => rfl

theorem call_steps (x : ShopTx Unit) :
    (call x).StepsAt (fun w w' => w'.db = (x ⟨w.db, []⟩).2.db) w := by
  refine .of_run ?_
  rw [call]

/-- A pass does what its call does. -/
theorem attempt_steps (hrest : rest.Steps (Tx.Leaves id)) :
    (attempt e x rest).StepsAt (fun w w' => w'.db = (x ⟨w.db, []⟩).2.db) w := by
  rcases hrun : x ⟨w.db, []⟩ with ⟨exn | _, w'⟩
  · refine .of_run ?_
    rw [attempt_of_error hrun, hrun]
    rfl
  · refine .of_run ?_
    rw [attempt_of_ok hrun, hrun]
    exact (hrest _).run

theorem attemptUpdate_steps {refresh : ShopTx Order} (hrefresh : refresh.Steps (Tx.Leaves id))
    (unchanged : Order → Prop) [DecidablePred unchanged] (already : String) :
    (attemptUpdate e x refresh unchanged already).StepsAt
      (fun w w' => w'.db = (x ⟨w.db, []⟩).2.db) w := by
  refine attempt_steps (Tx.Steps.bind (call_readOnly hrefresh) fun order w => ?_)
  exact .ite (fun _ => rfl) fun _ => rfl

end Passes

theorem PassFor.serves {env : Env} {e : Selected} {db : Database} {report : ActionReport}
    {w' : World Shop ActionReport} (h : PassFor env e.1 ⟨db.shop, report⟩ w') :
    ∃ calls, Serves env [e] db w'.db calls := by
  rcases h with hsame | ⟨call, hcall, hdb⟩
  · exact ⟨[], List.nil_sublist _, trivial, hsame.symm⟩
  · refine ⟨[call], ?_, ⟨⟨call, e, List.mem_singleton.2 rfl, rfl, hcall⟩, trivial⟩, ?_⟩
    · rw [List.map_singleton, hcall.1]
      exact List.Sublist.refl _
    · refine Eq.trans ?_ hdb.symm
      exact congrArg Database.shop (exec_asStep env call db)

/-- The loop of an action is a run of calls, whether it comes to its end or not. -/
theorem forM_serves {env : Env} {selected : List Selected} {body : Selected → AdminTx Unit}
    (hbody : ∀ e ∈ selected, ∀ w, (body e).StepsAt (PassFor env e.1) w) (db : Database)
    (report : ActionReport) :
    ∃ calls, Serves env selected db (selected.forM body ⟨db.shop, report⟩).2.db calls := by
  induction selected generalizing db report with
  | nil => exact ⟨[], .nil env db⟩
  | cons e rest ih =>
    obtain ⟨calls, hcalls⟩ := PassFor.serves (hbody e List.mem_cons_self ⟨db.shop, report⟩).run
    rcases hrun : body e ⟨db.shop, report⟩ with ⟨exn | _, w'⟩
    · -- the rest of the selection is not looked at
      have hloop : (e :: rest).forM body ⟨db.shop, report⟩ = _ := Tx.bind_of_error hrun
      rw [hrun] at hcalls
      rw [hloop]
      exact ⟨calls, hcalls.mono (List.cons_sublist_cons.2 (List.nil_sublist _))⟩
    · have hloop : (e :: rest).forM body ⟨db.shop, report⟩ = _ := Tx.bind_of_ok hrun
      rw [hrun] at hcalls
      rw [hloop]
      obtain ⟨calls', hcalls'⟩ := ih (fun e' he' => hbody e' (List.mem_cons_of_mem e he'))
        (after db (calls.map (ShopCall.asStep env))) w'.ext
      refine ⟨calls ++ calls', hcalls.append ?_⟩
      rwa [hcalls.shop] at hcalls'

end AdminTx

namespace OrderAdmin

open AdminTx

section Actions

variable {env : Env} {actor : String} {e : Selected} {w : World Shop ActionReport}

/-- A call that goes by its order. -/
theorem isFor_of_order {b : Books} {o : OrderId} {call : ShopCall} (horder : call.order = some o)
    (hpayment : call.payment = none) : call.IsFor b o :=
  ⟨horder, fun _ hp => nomatch hpayment.symm.trans hp⟩

/-- A pass that does what a call does that goes by its order. -/
theorem passFor_of_call {body : AdminTx Unit} {x : ShopTx Unit} (call : ShopCall)
    (hx : x = call.run env) (horder : call.order = some e.1) (hpayment : call.payment = none)
    (h : body.StepsAt (fun w w' => w'.db = (x ⟨w.db, []⟩).2.db) w) :
    body.StepsAt (PassFor env e.1) w := by
  subst hx
  exact h.mono fun _ hdb => .inr ⟨call, isFor_of_order horder hpayment, hdb⟩

/-- A pass whose call names the payment that was found for the order. -/
theorem receivePayment_passFor {p : Payment → Bool} {missing already : String}
    {mark : PaymentId → ShopTx Unit} {settled : OrderStatus} (call : PaymentId → ShopCall)
    (hmark : ∀ q, mark q = (call q).run env) (horder : ∀ q, (call q).order = some e.1)
    (hpayment : ∀ q r, (call q).payment = some r → r = q) :
    (receivePayment e p missing mark settled already).StepsAt (PassFor env e.1) w := by
  have hfind : newestPayment e.1 p w = (.ok (newest (w.db.paymentsWhere fun payment =>
      payment.order = e.1 && p payment)), w) := rfl
  refine Tx.wp_bind.2 ((Tx.wp_iff_of_ok hfind).2 ?_)
  cases hnewest : newest (w.db.paymentsWhere fun payment => payment.order = e.1 && p payment) with
  | none => exact .inl rfl
  | some found =>
    obtain ⟨q, payment⟩ := found
    obtain ⟨hrow, hmatch⟩ := newest_paymentsWhere hnewest
    have hof : payment.order = e.1 := of_decide_eq_true (Bool.and_eq_true_iff.1 hmatch).1
    have hread : (do
        let _ ← lockPayment q
        lockOrder e.1 : ShopTx Order).Steps (Tx.Leaves id) :=
      Tx.Steps.bind (lockPayment_readOnly q) fun _ => lockOrder_readOnly e.1
    refine (attemptUpdate_steps hread _ already).mono fun _ hdb => .inr ⟨call q, ⟨horder q, ?_⟩, ?_⟩
    · intro r hr
      obtain rfl := hpayment q r hr
      exact ⟨payment, hrow, hof⟩
    · rw [← hmark]
      exact hdb

theorem createStripeCheckout_serves (selected : List Selected) (db : Database) :
    ∃ calls, Serves env selected db (createStripeCheckout env selected ⟨db.shop, {}⟩).2.db calls := by
  refine forM_serves (fun e _ w => ?_) db {}
  refine Tx.wp_bind.2 (Tx.wp_catching.2 (Tx.wp_bind.2 ?_))
  rcases hrun : PaymentService.initiateOnline env e.1 ⟨w.db, []⟩ with ⟨r, w'⟩
  have hdb : w'.db = ((ShopCall.initiateOnline e.1).run env ⟨w.db, []⟩).2.db := by
    change w'.db = (Tx.void (PaymentService.initiateOnline env e.1) ⟨w.db, []⟩).2.db
    cases r with
    | error exn => rw [Tx.void, Tx.bind_of_error hrun]
    | ok payment =>
      rw [Tx.void, Tx.bind_of_ok hrun]
      rfl
  have hpass (report : ActionReport) : PassFor env e.1 w ⟨w'.db, report⟩ :=
    .inr ⟨_, isFor_of_order rfl rfl, hdb⟩
  cases r with
  | error exn =>
    -- an exception that is not caught ends the loop, after the call
    refine (Tx.wp_iff_of_error (call_of_run hrun)).2 ?_
    exact Tx.wp_bind.2 (Tx.wp_when.2 ⟨fun _ => hpass _, fun _ => hpass _⟩)
  | ok payment => exact (Tx.wp_iff_of_ok (call_of_run hrun)).2 (hpass _)

/-- What follows a loop only talks to the user. -/
theorem loop_serves {selected part : List Selected} {body : Selected → AdminTx Unit}
    {last : AdminTx Unit} (hsub : part.Sublist selected)
    (hbody : ∀ e ∈ part, ∀ w, (body e).StepsAt (PassFor env e.1) w)
    (hlast : last.Steps (Tx.Leaves id)) (db : Database) : ∃ calls, Serves env selected db
      ((do
        part.forM body
        last : AdminTx Unit) ⟨db.shop, {}⟩).2.db calls := by
  obtain ⟨calls, hcalls⟩ := forM_serves hbody db {}
  refine ⟨calls, ?_⟩
  rcases hrun : part.forM body ⟨db.shop, {}⟩ with ⟨exn | _, w'⟩
  · rw [hrun] at hcalls
    rw [Tx.bind_of_error hrun]
    exact hcalls.mono hsub
  · rw [hrun] at hcalls
    rw [Tx.bind_of_ok hrun]
    have hdb : (last w').2.db = w'.db := (hlast w').run
    rw [hdb]
    exact hcalls.mono hsub

theorem closing_readOnly (done : ℕ → String) (nothing : String) :
    (closing done nothing).Steps (Tx.Leaves id) := fun w => .of_run (by rw [closing_run]; rfl)

end Actions

end OrderAdmin

open AdminTx OrderAdmin in
theorem serves_of_action (env : Env) (actor : String) (selected : List Selected)
    (action : AdminAction) (db : Database) : ∃ calls,
      Serves env selected db (action.run env actor selected ⟨db.shop, {}⟩).2.db calls := by
  cases action with
  | createStripeCheckout => exact createStripeCheckout_serves selected db
  | markCashReceived =>
    refine loop_serves List.filter_sublist (fun e _ w => ?_) (closing_readOnly _ _) db
    exact receivePayment_passFor (.markCounterCashReceived e.1 · actor) (fun _ => rfl)
      (fun _ => rfl) (fun _ _ h => nomatch h)
  | markCardReceived =>
    refine loop_serves List.filter_sublist (fun e _ w => ?_) (closing_readOnly _ _) db
    exact receivePayment_passFor (.markCounterCardReceived e.1 · actor) (fun _ => rfl)
      (fun _ => rfl) (fun _ _ h => nomatch h)
  | markCodCashReceived =>
    refine loop_serves List.filter_sublist (fun e _ w => ?_) (closing_readOnly _ _) db
    exact receivePayment_passFor (.markCodCashReceived e.1 · actor) (fun _ => rfl)
      (fun _ => rfl) (fun _ _ h => (Option.some.inj h).symm)
  | confirmCod =>
    refine loop_serves List.filter_sublist (fun e _ w => ?_) ?_ db
    · exact passFor_of_call (.confirmCod e.1 actor) rfl rfl rfl (attempt_steps fun _ => rfl)
    · exact fun _ => rfl
  | advanceToPreparing | advanceToPackaged | advanceToOutForDelivery =>
    refine loop_serves (List.Sublist.refl _) (fun e _ w => ?_) (closing_readOnly _ _) db
    exact passFor_of_call (.transition e.1 _ "" actor) rfl rfl rfl
      (attemptUpdate_steps (lockOrder_readOnly e.1) _ _)
  | markDelivered =>
    refine loop_serves (List.Sublist.refl _) (fun e _ w => ?_) (closing_readOnly _ _) db
    exact passFor_of_call (.completeDelivery e.1 actor) rfl rfl rfl
      (attemptUpdate_steps (lockOrder_readOnly e.1) _ _)
  | cancelOrders =>
    refine loop_serves (List.Sublist.refl _) (fun e _ w => ?_) (messageUser_readOnly _ _) db
    exact passFor_of_call (.cancel e.1 _ actor) rfl rfl rfl (call_steps _)
  | requestRefund =>
    refine loop_serves (List.Sublist.refl _) (fun e _ w => ?_) (messageUser_readOnly _ _) db
    exact passFor_of_call (.requestRefund e.1 _ actor) rfl rfl rfl (call_steps _)
  | processRefund =>
    refine loop_serves (List.Sublist.refl _) (fun e _ w => ?_) (messageUser_readOnly _ _) db
    exact passFor_of_call (.processRefund e.1 _ actor) rfl rfl rfl (call_steps _)

/-- An order that is not selected is not disturbed. -/
theorem Serves.sameFor {env : Env} {selected : List Selected} {db : Database} {shop : Shop}
    {calls : List ShopCall} (h : Serves env selected db shop calls) {o : OrderId}
    (hthere : db.shop.orders.rows o ≠ none) (ho : o ∉ selected.map Prod.fst) :
    db.shop.books.SameFor o shop.books := by
  rw [← h.shop]
  refine h.own.inv (I := fun db' => db.shop.books.SameFor o db'.shop.books) (.refl o _) ?_
  rintro db' _ hsame ⟨call, e, he, rfl, hcall⟩
  exact hsame.trans (sameFor_exec (hsame.order ▸ hthere)
    (hcall.not_concerns env fun heq => ho (heq ▸ List.mem_map_of_mem he)))

/-- An action is a run of calls for some of the selected orders, one at most for each, in the order
    of the selection; the other orders keep everything. -/
theorem served_of_action (env : Env) (actor : String) (selected : List Selected)
    (action : AdminAction) (db : Database) :
    (∃ calls, Serves env selected db (action.run env actor selected ⟨db.shop, {}⟩).2.db calls) ∧
      ∀ o, db.shop.orders.rows o ≠ none → o ∉ selected.map Prod.fst →
        db.shop.books.SameFor o (action.run env actor selected ⟨db.shop, {}⟩).2.db.books := by
  obtain ⟨calls, hcalls⟩ := serves_of_action env actor selected action db
  exact ⟨⟨calls, hcalls⟩, fun o hthere ho => hcalls.sameFor hthere ho⟩

/-! ## Actions that stop -/

/-- The call of the action raises for the order. -/
def AdminAction.Stops : AdminAction → Order → Prop
  | cancelOrders, order => order.status = .delivered
  | processRefund, order => order.status.isStuck
  | _, _ => False

instance (action : AdminAction) (order : Order) : Decidable (action.Stops order) := by
  unfold AdminAction.Stops
  split <;> infer_instance

/-- What the call of the action is for. -/
def AdminAction.Reaches : AdminAction → Order → Prop
  | cancelOrders, order => order.status.isClosed
  | requestRefund, order => order.paymentStatus = .refundRequested
  | processRefund, order => order.status = .refunded
  | _, _ => True

/-- The operation raises for the orders that `Stops` names, and leads the others to `Reaches`. -/
structure StopsOrReaches (x : OrderId → ShopTx Order) (Stops Reaches : Order → Prop) : Prop where
  raises : ∀ {o shop order}, shop.orders.rows o = some order → Stops order →
    (x o).wp (fun _ _ => False) (fun _ w' => w'.db = shop) ⟨shop, []⟩
  returns : ∀ {o shop order}, shop.orders.rows o = some order → ¬Stops order →
    (x o).wp (fun _ w' => w'.db.books.OrderIs o Reaches) (fun _ _ => False) ⟨shop, []⟩

/-- The action has worked on the orders `before`, and neither on the rest of the selection nor on
    any other order. The user is told if that is all of the selection. -/
structure GetsTo (before selected : List Selected) (Reaches : Order → Prop) (db : Database)
    (result : Except Exn Unit × World Shop ActionReport) : Prop where
  returns : result.1 = .ok () ↔ before = selected
  tells : result.2.ext.messages ≠ [] ↔ before = selected
  reaches : ∀ e ∈ before, result.2.db.books.OrderIs e.1 Reaches
  others : ∀ o, db.shop.orders.rows o ≠ none → o ∉ before.map Prod.fst →
    db.shop.books.SameFor o result.2.db.books

section Stopping

variable {env : Env} {x : OrderId → ShopTx Order} {call : OrderId → ShopCall}
  {Stops Reaches : Order → Prop} [DecidablePred Stops] {selected : List Selected} {db : Database}

/-- How far a loop without a `try` gets. -/
theorem callAll_loop (hends : StopsOrReaches x Stops Reaches) (hx : ∀ o, (call o).run env = Tx.void (x o))
    (horder : ∀ o, (call o).order = some o) (hpayment : ∀ o, (call o).payment = none)
    (hnodup : (selected.map Prod.fst).Nodup)
    (hloaded : ∀ e ∈ selected, db.shop.orders.rows e.1 = some e.2) (report : ActionReport) :
    ∃ r shop', selected.forM (fun e => AdminTx.call (Tx.void (x e.1))) ⟨db.shop, report⟩ =
        (r, ⟨shop', report⟩) ∧
      (r = .ok () ↔ selected.takeWhile (fun e => ¬Stops e.2) = selected) ∧
      (∀ e ∈ selected.takeWhile (fun e => ¬Stops e.2), shop'.books.OrderIs e.1 Reaches) ∧
      ∀ o, db.shop.orders.rows o ≠ none →
        o ∉ (selected.takeWhile (fun e => ¬Stops e.2)).map Prod.fst →
          db.shop.books.SameFor o shop'.books := by
  induction selected generalizing db with
  | nil =>
    exact ⟨.ok (), db.shop, rfl, iff_of_true rfl rfl, fun _ he => absurd he List.not_mem_nil,
      fun o _ _ => .refl o _⟩
  | cons e rest ih =>
    rw [List.map_cons, List.nodup_cons] at hnodup
    have hrow := hloaded e List.mem_cons_self
    by_cases hstops : Stops e.2
    · rw [List.takeWhile_cons_of_neg (by simpa using hstops)]
      rcases hrun : x e.1 ⟨db.shop, []⟩ with ⟨exn | _, w'⟩
      · have hdb : w'.db = db.shop := Tx.wp_of_error (hends.raises hrow hstops) hrun
        have hcall : AdminTx.call (Tx.void (x e.1)) ⟨db.shop, report⟩ = _ :=
          AdminTx.call_of_run (w := ⟨db.shop, report⟩) (Tx.bind_of_error hrun)
        refine ⟨.error exn, w'.db, Tx.bind_of_error hcall, ?_,
          fun _ he => absurd he List.not_mem_nil, fun o _ _ => ?_⟩
        · exact iff_of_false (by simp) (List.cons_ne_nil e rest).symm
        · rw [hdb]
          exact .refl o _
      · exact (Tx.wp_of_ok (hends.raises hrow hstops) hrun).elim
    · rw [List.takeWhile_cons_of_pos (by simpa using hstops)]
      rcases hrun : x e.1 ⟨db.shop, []⟩ with ⟨_ | order, w'⟩
      · exact (Tx.wp_of_error (hends.returns hrow hstops) hrun).elim
      have hreaches : w'.db.books.OrderIs e.1 Reaches :=
        Tx.wp_of_ok (hends.returns hrow hstops) hrun
      have hvoid : Tx.void (x e.1) ⟨db.shop, []⟩ = (.ok (), w') := Tx.bind_of_ok hrun
      have hothers (o : OrderId) (hne : o ≠ e.1) (hthere : db.shop.orders.rows o ≠ none) :
          db.shop.books.SameFor o w'.db.books := by
        have hfor : (call e.1).IsFor db.shop.books e.1 :=
          OrderAdmin.isFor_of_order (horder e.1) (hpayment e.1)
        have hsame := hfor.sameFor env hne hthere
        rwa [hx, hvoid] at hsame
      have hleft : ∀ e' ∈ rest, w'.db.orders.rows e'.1 = some e'.2 := by
        intro e' he'
        have hrow' := hloaded e' (List.mem_cons_of_mem e he')
        have hne : e'.1 ≠ e.1 := fun heq => hnodup.1 (heq ▸ List.mem_map_of_mem he')
        refine (hothers e'.1 hne ?_).order.trans hrow'
        rw [hrow']
        exact Option.some_ne_none _
      obtain ⟨r, shop', hloop, hok, hdone, hsame⟩ :=
        @ih { db with shop := w'.db } hnodup.2 hleft
      refine ⟨r, shop', (Tx.bind_of_ok (AdminTx.call_of_run hvoid)).trans hloop, ?_, ?_, ?_⟩
      · rw [hok, List.cons.injEq, and_iff_right rfl]
      · intro e' he'
        rcases List.mem_cons.1 he' with rfl | hmem
        · -- the later calls do not disturb it
          obtain ⟨order', hrow', hreached⟩ := hreaches
          have hfresh : e'.1 ∉ (rest.takeWhile fun e => ¬Stops e.2).map Prod.fst := fun hmem =>
            hnodup.1 ((List.takeWhile_sublist _).map Prod.fst |>.subset hmem)
          have hthere : w'.db.orders.rows e'.1 ≠ none := by
            rw [show w'.db.orders.rows e'.1 = some order' from hrow']
            exact Option.some_ne_none _
          exact ⟨order', (hsame e'.1 hthere hfresh).order.trans hrow', hreached⟩
        · exact hdone e' hmem
      · intro o hthere ho
        rw [List.map_cons, List.mem_cons, not_or] at ho
        have hfirst := hothers o ho.1 hthere
        refine hfirst.trans (hsame o ?_ ho.2)
        exact hfirst.order ▸ hthere

variable (env call) in
theorem callAll_getsTo (done : String) (hends : StopsOrReaches x Stops Reaches)
    (hx : ∀ o, (call o).run env = Tx.void (x o)) (horder : ∀ o, (call o).order = some o)
    (hpayment : ∀ o, (call o).payment = none) (hnodup : (selected.map Prod.fst).Nodup)
    (hloaded : ∀ e ∈ selected, db.shop.orders.rows e.1 = some e.2) :
    GetsTo (selected.takeWhile fun e => ¬Stops e.2) selected Reaches db
      (OrderAdmin.callAll x done selected ⟨db.shop, {}⟩) := by
  obtain ⟨r, shop', hloop, hok, hreaches, hothers⟩ :=
    callAll_loop hends hx horder hpayment hnodup hloaded {}
  cases r with
  | error exn =>
    have hrun : OrderAdmin.callAll x done selected ⟨db.shop, {}⟩ = (.error exn, ⟨shop', {}⟩) :=
      Tx.bind_of_error hloop
    have hnot : selected.takeWhile (fun e => ¬Stops e.2) ≠ selected := fun heq => nomatch hok.2 heq
    rw [hrun]
    refine ⟨?_, iff_of_false (fun hne => hne rfl) hnot, hreaches, hothers⟩
    exact hok
  | ok =>
    have hrun : OrderAdmin.callAll x done selected ⟨db.shop, {}⟩ =
        (.ok (), ⟨shop', { messages := [⟨.success, done⟩] }⟩) := Tx.bind_of_ok hloop
    rw [hrun]
    exact ⟨iff_of_true rfl (hok.1 rfl), iff_of_true (List.cons_ne_nil _ _) (hok.1 rfl), hreaches,
      hothers⟩

end Stopping

section Operations

variable {shop : Shop} {o : OrderId} {order : Order}

/-- An order that is not closed comes to the change of its status with the status that it has,
    whatever becomes of its stock and of its payment status. -/
theorem wp_cancel {reason actor : String} {Q : World Shop (List Observation) → Prop} {E : Prop}
    (hrow : shop.orders.rows o = some order) (hopen : ¬order.status.isClosed)
    (h : ∀ w order', w.db.orders.rows o = some order' → order'.status = order.status →
      (OrderService.transition o .cancelled reason actor).wp (fun _ => Q) (fun _ _ => E) w) :
    (OrderService.cancel o reason actor).wp (fun _ => Q) (fun _ _ => E) ⟨shop, []⟩ := by
  refine Tx.wp_atomic.2 (Tx.wp_bind.2 ((Tx.wp_iff_of_ok (lockOrder_of_some hrow)).2 ?_))
  refine Tx.wp_ite.2 ⟨fun hclosed => absurd hclosed hopen, fun _ => ?_⟩
  obtain ⟨stock, trace, hrelease, -⟩ := onStock_releaseReservations o ⟨shop, []⟩
  refine Tx.wp_bind.2 ((Tx.wp_iff_of_ok hrelease).2 ?_)
  have hfail : (OrderService.failPendingPayment o order).wp (fun _ w' =>
      ∃ order', w'.db.orders.rows o = some order' ∧ order'.status = order.status)
      (fun _ _ => False) ⟨{ shop with stock }, trace⟩ := by
    refine Tx.wp_ite.2 ⟨fun _ => ?_, fun _ => ⟨order, hrow, rfl⟩⟩
    refine ⟨{ order with paymentStatus := .failed }, ?_, rfl⟩
    change (shop.orders.modify o _).rows o = _
    rw [Table.rows_modify_self, hrow]
    rfl
  refine Tx.wp_seq hfail (fun _ w₁ ⟨order', hrow', hstatus⟩ => ?_) fun _ _ h => h.elim
  exact Tx.wp_seq (h w₁ order' hrow' hstatus) (fun _ _ h => h) fun _ _ h => h

theorem stopsOrReaches_cancel (reason actor : String) :
    StopsOrReaches (OrderService.cancel · reason actor) AdminAction.cancelOrders.Stops
      AdminAction.cancelOrders.Reaches where
  raises {o shop order} hrow hdelivered := by
    have hraises : (OrderService.cancel o reason actor).wp (fun _ _ => False) (fun _ _ => True)
        ⟨shop, []⟩ := by
      refine wp_cancel hrow (fun hclosed => ?_) fun w order' hrow' hstatus => ?_
      · rw [show order.status = .delivered from hdelivered] at hclosed
        exact absurd hclosed (by decide)
      · have hforbidden : ¬canTransition order'.status .cancelled := by
          rw [hstatus, show order.status = .delivered from hdelivered]
          decide
        obtain ⟨exn, hrun⟩ := transition_forbidden .cancelled reason actor hrow' hforbidden
        exact (Tx.wp_iff_of_error hrun).2 trivial
    refine (Tx.wp_iff _).2 ⟨fun _ w' hrun => Tx.wp_of_ok hraises hrun, fun _ w' hrun => ?_⟩
    exact (Tx.rollsBack_atomic _).run hrun
  returns {o shop order} hrow hstops := by
    by_cases hclosed : order.status.isClosed
    · refine Tx.wp_atomic.2 (Tx.wp_bind.2 ((Tx.wp_iff_of_ok (lockOrder_of_some hrow)).2 ?_))
      exact Tx.wp_ite.2 ⟨fun _ => ⟨order, hrow, hclosed⟩, fun hnot => absurd hclosed hnot⟩
    refine wp_cancel (Q := fun w' => w'.db.books.OrderIs o _) hrow hclosed
      fun w order' hrow' hstatus => ?_
    have hedge : .cancelled ∈ order'.status.allowedTransitions := by
      rw [hstatus]
      revert hstops hclosed
      change order.status ≠ .delivered → _
      cases order.status <;> decide
    have hne : order'.status ≠ .cancelled := fun heq => hclosed (.inl (hstatus ▸ heq))
    have hchange := transition_changes .cancelled reason actor hrow' hne hedge
    refine (Tx.wp_iff_of_ok hchange).2 ⟨{ order' with status := .cancelled }, ?_, .inl rfl⟩
    change (w.db.orders.modify o _).rows o = _
    rw [Table.rows_modify_self, hrow']
    rfl

theorem stopsOrReaches_processRefund (reason actor : String) :
    StopsOrReaches (OrderService.processRefund · reason actor) AdminAction.processRefund.Stops
      AdminAction.processRefund.Reaches where
  raises {o shop order} hrow hstuck := by
    refine (Tx.wp_iff _).2 ⟨fun _ w' hrun => ?_, fun _ w' hrun => (Tx.rollsBack_atomic _).run hrun⟩
    obtain ⟨hne, hedge⟩ := OrderStatus.isStuck_iff.1 hstuck
    have hyields : (OrderService.processRefund o reason actor).Yields Shop.books shop.books _ :=
      OrderService.processRefund_made
    rcases Tx.wp_of_ok (hyields.ensures (w := ⟨shop, []⟩)) hrun with
      ⟨-, order', hrow', hrefunded⟩ | ⟨⟨order', hrow', hcan⟩, -⟩
    · obtain rfl := Option.some.inj (hrow.symm.trans hrow')
      exact hne hrefunded
    · obtain rfl := Option.some.inj (hrow.symm.trans hrow')
      exact hedge hcan
  returns hrow hfree := processRefund_refunds hrow hfree

theorem stopsOrReaches_requestRefund (reason actor : String) :
    StopsOrReaches (OrderService.requestRefund · reason actor) AdminAction.requestRefund.Stops
      AdminAction.requestRefund.Reaches where
  raises _ hstops := hstops.elim
  returns hrow _ := Tx.wp_mono (requestRefund_returns hrow) (fun _ _ hrow' => ⟨_, hrow', rfl⟩)
    fun _ _ h => h

end Operations

/-- Cancelling and refunding get as far as the first order that cannot be cancelled or refunded,
    and say nothing then. The orders before it are cancelled or refunded; it and all that come after
    it keep everything. -/
theorem stopped_of_action (env : Env) (actor : String) (action : AdminAction)
    (selected : List Selected) (db : Database)
    (haction : action ∈ [.cancelOrders, .requestRefund, .processRefund])
    (hnodup : (selected.map Prod.fst).Nodup)
    (hloaded : ∀ e ∈ selected, db.shop.orders.rows e.1 = some e.2) :
    GetsTo (selected.takeWhile fun e => ¬action.Stops e.2) selected action.Reaches db
      (action.run env actor selected ⟨db.shop, {}⟩) := by
  simp only [List.mem_cons, List.not_mem_nil, or_false] at haction
  rcases haction with rfl | rfl | rfl
  · exact callAll_getsTo env (.cancel · "Cancelled via admin" actor) _
      (stopsOrReaches_cancel _ _) (fun _ => rfl) (fun _ => rfl) (fun _ => rfl) hnodup hloaded
  · exact callAll_getsTo env (.requestRefund · "" actor) _
      (stopsOrReaches_requestRefund _ _) (fun _ => rfl) (fun _ => rfl) (fun _ => rfl) hnodup hloaded
  · exact callAll_getsTo env (.processRefund · "" actor) _
      (stopsOrReaches_processRefund _ _) (fun _ => rfl) (fun _ => rfl) (fun _ => rfl) hnodup hloaded

/-- Of three orders the second one is delivered: the first one is cancelled, and the third one is
    left in preparation. -/
theorem stopped_of_action_shift :
    let db : Database := { shop := shiftShop }
    let after := (AdminAction.cancelOrders.run {} "admin" shiftOrders ⟨shiftShop, {}⟩).2.db
    (after.books.OrderIs 0 fun order => order.status.isClosed) ∧
      after.orders.rows 2 = some (shiftOrder .preparing) ∧ db.shop.books.SameFor 2 after.books := by
  have hstopped := stopped_of_action {} "admin" .cancelOrders shiftOrders
    { shop := shiftShop } (by decide) (by decide) (by decide)
  have hthird := hstopped.others 2 (by decide) (by decide)
  exact ⟨hstopped.reaches (0, shiftOrder .preparing) (by decide),
    hthird.order.trans (by decide), hthird⟩

end Crumbs
