import Crumbs.Db.Journal
import Crumbs.Writes.Runs

/-!
# The Audit Trail of an Order

Every change of an order's status follows the state machine and is logged. The logs of an order
can therefore be read as a journal that leads from the status it was created with to the one it
has now, and a closed order has come to the end of it.

## Contents

- `Shop.journal`, `Shop.statusChanges`, `Shop.loggedChanges`: what is on record
- `AuditTrail`: the invariant, preserved by every write
- `Shop.Ended`: a closed order, whose status is not written any more
- `audit_trail`
-/

namespace Crumbs

open Crumbs.Db

/-! ## Records -/

namespace Shop

/-- The logs of an order, oldest first: the status before and the status after. -/
def journal (shop : Shop) (o : OrderId) : List (OrderStatus × OrderStatus) :=
  (shop.statusLogs.filter fun log => log.order = o).map fun log => (log.fromStatus, log.toStatus)

/-- The changes of status that were written, in their order. -/
def statusChanges (shop : Shop) : List (OrderId × OrderStatus × OrderStatus) :=
  shop.statusWrites.filterMap fun e =>
    match e.2 with
    | .created _ => none
    | .changed fromStatus toStatus => some (e.1, fromStatus, toStatus)

/-- The changes of status that were logged, in their order. -/
def loggedChanges (shop : Shop) : List (OrderId × OrderStatus × OrderStatus) :=
  (shop.statusLogs.filter fun log => log.fromStatus ≠ log.toStatus).map fun log =>
    (log.order, log.fromStatus, log.toStatus)

/-- The status that an order was created with. -/
def initialStatus (shop : Shop) (o : OrderId) : Option OrderStatus :=
  shop.statusWrites.findSome? fun e =>
    match e.2 with
    | .created status => if e.1 = o then some status else none
    | .changed .. => none

end Shop

/-- `ALLOWED_TRANSITIONS` as a relation. -/
def IsEdge (fromStatus toStatus : OrderStatus) : Prop := toStatus ∈ fromStatus.allowedTransitions

/-- The record is complete. -/
structure AuditTrail (shop : Shop) : Prop where
  /-- Every change of status follows an edge. -/
  edges : ∀ o fromStatus toStatus,
    (o, fromStatus, toStatus) ∈ shop.statusChanges → IsEdge fromStatus toStatus
  /-- Every change of status has exactly one log, in its place. -/
  logged : shop.loggedChanges = shop.statusChanges
  /-- The journal of an order leads from the status it was created with to its current one. -/
  path : ∀ o order, shop.orders.rows o = some order →
    ∃ initial, shop.initialStatus o = some initial ∧
      Leads IsEdge initial (shop.journal o) order.status
  /-- Nothing is on record about orders that are still to come. -/
  unwritten : ∀ o, shop.orders.next ≤ o → shop.initialStatus o = none
  unlogged : ∀ o, shop.orders.next ≤ o → shop.journal o = []

section Writes

variable {q : Prop} {s s' : Shop} {o o' : OrderId} {order : Order}

/-! ## What a write adds to the record -/

theorem journal_addStatusLog (s : Shop) (log : OrderStatusLog) (o : OrderId) :
    (s.addStatusLog log).journal o =
      s.journal o ++ if log.order = o then [(log.fromStatus, log.toStatus)] else [] := by
  by_cases h : log.order = o <;> simp [Shop.journal, Shop.addStatusLog, h]

theorem loggedChanges_addStatusLog (s : Shop) (log : OrderStatusLog) :
    (s.addStatusLog log).loggedChanges = s.loggedChanges ++
      if log.fromStatus = log.toStatus then [] else [(log.order, log.fromStatus, log.toStatus)] := by
  by_cases h : log.fromStatus = log.toStatus <;> simp [Shop.loggedChanges, Shop.addStatusLog, h]

theorem statusChanges_setStatus (hrow : s.orders.rows o = some order) {newStatus : OrderStatus}
    (hne : order.status ≠ newStatus) : (s.setStatus o newStatus).statusChanges =
      s.statusChanges ++ [(o, order.status, newStatus)] := by
  simp [Shop.statusChanges, Shop.setStatus, hrow, hne]

theorem initialStatus_setStatus (s : Shop) (newStatus : OrderStatus) :
    (s.setStatus o newStatus).initialStatus o' = s.initialStatus o' := by
  rw [Shop.initialStatus, Shop.setStatus, List.findSome?_append]
  cases hrow : s.orders.rows o with
  | none => exact Option.or_none
  | some order =>
    by_cases h : order.status = newStatus
    · simp [h, Shop.initialStatus]
    · simp [h, Shop.initialStatus]

theorem initialStatus_createOrder (s : Shop) (order : Order) (o : OrderId) :
    Shop.initialStatus { s with
        orders := s.orders.insert order
        statusWrites := s.statusWrites ++ [(s.orders.next, .created order.status)] } o =
      (s.initialStatus o).or (if s.orders.next = o then some order.status else none) := by
  simp only [Shop.initialStatus, List.findSome?_append, List.findSome?_singleton]

/-! ## The invariant -/

theorem AuditTrail.congr (h : AuditTrail s) (horders : s'.orders = s.orders)
    (hlogs : s'.statusLogs = s.statusLogs) (hwrites : s'.statusWrites = s.statusWrites) :
    AuditTrail s' := by
  have hjournal (o) : s'.journal o = s.journal o := by rw [Shop.journal, hlogs, Shop.journal]
  have hinitial (o) : s'.initialStatus o = s.initialStatus o := by
    rw [Shop.initialStatus, hwrites, Shop.initialStatus]
  have hchanges : s'.statusChanges = s.statusChanges := by
    rw [Shop.statusChanges, hwrites, Shop.statusChanges]
  exact
    { edges := fun o s t hmem => h.edges o s t (hchanges ▸ hmem)
      logged := by rw [hchanges, ← h.logged, Shop.loggedChanges, hlogs, Shop.loggedChanges]
      path := fun o order hrow => by
        rw [hinitial, hjournal]
        exact h.path o order (horders ▸ hrow)
      unwritten := fun o ho => (hinitial o).trans (h.unwritten o (horders ▸ ho))
      unlogged := fun o ho => (hjournal o).trans (h.unlogged o (horders ▸ ho)) }

theorem AuditTrail.updateOrder (h : AuditTrail s) {f : Order → Order}
    (hstatus : ∀ order, (f order).status = order.status) : AuditTrail (s.updateOrder o f) where
  edges := h.edges
  logged := h.logged
  path o' order hrow := by
    rcases Table.rows_modify_eq_some.1 hrow with ⟨rfl, order', hrow', rfl⟩ | ⟨-, hrow'⟩
    · rw [hstatus]
      exact h.path o' order' hrow'
    · exact h.path o' order hrow'
  unwritten := h.unwritten
  unlogged := h.unlogged

theorem AuditTrail.createOrder (h : AuditTrail s) (order : Order) :
    AuditTrail { s with
      orders := s.orders.insert order
      statusWrites := s.statusWrites ++ [(s.orders.next, .created order.status)] } where
  edges o fromStatus toStatus hmem := by
    refine h.edges o fromStatus toStatus ?_
    simpa [Shop.statusChanges] using hmem
  logged := h.logged.trans (by simp [Shop.statusChanges])
  path o order' hrow := by
    rw [initialStatus_createOrder]
    by_cases ho : o = s.orders.next
    · subst o
      obtain rfl : order = order' := Option.some.inj ((Table.rows_insert_self _ _).symm.trans hrow)
      refine ⟨order.status, ?_, ?_⟩
      · rw [h.unwritten _ le_rfl, if_pos rfl, Option.none_or]
      · change Leads _ _ (s.journal s.orders.next) _
        rw [h.unlogged _ le_rfl]
        exact .nil
    · rw [Table.rows_insert, if_neg ho] at hrow
      obtain ⟨initial, hinit, hleads⟩ := h.path o order' hrow
      exact ⟨initial, by rw [hinit, Option.some_or], hleads⟩
  unwritten o ho := by
    have ho' : s.orders.next < o := ho
    rw [initialStatus_createOrder, if_neg ho'.ne, Option.or_none]
    exact h.unwritten o ho'.le
  unlogged o ho := h.unlogged o (Nat.le_of_succ_le ho)

theorem AuditTrail.note (h : AuditTrail s) (hrow : s.orders.rows o = some order)
    (note actor : String) : AuditTrail (s.addStatusLog
      { order := o, fromStatus := order.status, toStatus := order.status, note, actor }) where
  edges := h.edges
  logged := by
    rw [loggedChanges_addStatusLog, if_pos rfl, List.append_nil]
    exact h.logged
  path o' order' hrow' := by
    obtain ⟨initial, hinitial, hleads⟩ := h.path o' order' hrow'
    refine ⟨initial, hinitial, ?_⟩
    rw [journal_addStatusLog]
    by_cases ho : o = o'
    · subst o'
      obtain rfl : order = order' := Option.some.inj (hrow.symm.trans hrow')
      rw [if_pos rfl]
      exact hleads.snoc (.inl rfl)
    · rwa [if_neg ho, List.append_nil]
  unwritten := h.unwritten
  unlogged o' ho' := by
    have hne : o ≠ o' := (lt_of_lt_of_le (Table.lt_next hrow) ho').ne
    rw [journal_addStatusLog, if_neg hne, List.append_nil]
    exact h.unlogged o' ho'

theorem AuditTrail.restatus (h : AuditTrail s) (hrow : s.orders.rows o = some order)
    {newStatus : OrderStatus} (hne : order.status ≠ newStatus)
    (hedge : IsEdge order.status newStatus) (note actor : String) :
    AuditTrail (s.restatus o order.status newStatus note actor) where
  edges o' fromStatus toStatus hmem := by
    change _ ∈ (s.setStatus o newStatus).statusChanges at hmem
    rw [statusChanges_setStatus hrow hne] at hmem
    rcases List.mem_append.1 hmem with hmem | hmem
    · exact h.edges o' fromStatus toStatus hmem
    · obtain ⟨rfl, rfl, rfl⟩ : o' = o ∧ fromStatus = order.status ∧ toStatus = newStatus := by
        simpa using hmem
      exact hedge
  logged := by
    rw [Shop.restatus, loggedChanges_addStatusLog, if_neg hne]
    exact (congrArg (· ++ _) h.logged).trans (statusChanges_setStatus hrow hne).symm
  path o' order' hrow' := by
    rw [Shop.restatus, journal_addStatusLog]
    rcases Table.rows_modify_eq_some.1 hrow' with ⟨rfl, row, hrow'', rfl⟩ | ⟨ho, hrow''⟩
    · obtain rfl : order = row := Option.some.inj (hrow.symm.trans hrow'')
      obtain ⟨initial, hinitial, hleads⟩ := h.path o' order hrow
      rw [if_pos rfl]
      exact ⟨initial, (initialStatus_setStatus s newStatus).trans hinitial,
        hleads.snoc (.inr hedge)⟩
    · obtain ⟨initial, hinitial, hleads⟩ := h.path o' order' hrow''
      rw [if_neg (Ne.symm ho), List.append_nil]
      exact ⟨initial, (initialStatus_setStatus s newStatus).trans hinitial, hleads⟩
  unwritten o' ho' := (initialStatus_setStatus s newStatus).trans (h.unwritten o' ho')
  unlogged o' ho' := by
    have hne' : o ≠ o' := (lt_of_lt_of_le (Table.lt_next hrow) ho').ne
    rw [Shop.restatus, journal_addStatusLog, if_neg hne', List.append_nil]
    exact h.unlogged o' ho'

theorem Shop.Write.auditTrail (hwrite : Shop.Write q s s') (h : AuditTrail s) : AuditTrail s' := by
  cases hwrite with
  | order o f hstatus => exact h.updateOrder hstatus
  | createOrder order => exact h.createOrder order
  | restatus o order newStatus note actor hrow _ hne hedge => exact h.restatus hrow hne hedge note actor
  | note o order note actor hrow => exact h.note hrow note actor
  | _ => exact h.congr rfl rfl rfl

/-! ## Closed orders -/

theorem not_isEdge_of_isClosed {status newStatus : OrderStatus} (h : status.isClosed) :
    ¬IsEdge status newStatus := by
  rcases h with rfl | rfl <;> exact List.not_mem_nil

/-- The status of an order and the changes of it that led there. -/
structure Shop.Ended (o : OrderId) (status : OrderStatus)
    (changes : List (OrderId × OrderStatus × OrderStatus)) (shop : Shop) : Prop where
  status : shop.HasStatus o status
  changes : (shop.statusChanges.filter fun e => e.1 = o) = changes

/-- The status of a closed order is not written any more. -/
theorem Shop.Write.ended {status : OrderStatus}
    {changes : List (OrderId × OrderStatus × OrderStatus)} (hwrite : Shop.Write q s s')
    (hclosed : status.isClosed) (h : s.Ended o status changes) : s'.Ended o status changes := by
  obtain ⟨order, hrow, hstatus⟩ := h.status
  cases hwrite with
  | order o' f hf =>
    refine ⟨?_, h.changes⟩
    by_cases ho : o = o'
    · subst o'
      refine ⟨f order, ?_, (hf order).trans hstatus⟩
      exact (Table.rows_modify_self _ _ _).trans (congrArg (Option.map f) hrow)
    · exact ⟨order, (Table.rows_modify_ne _ _ ho).trans hrow, hstatus⟩
  | createOrder order' =>
    refine ⟨⟨order, Table.rows_insert_of_some order' hrow, hstatus⟩, ?_⟩
    rw [← h.changes]
    simp [Shop.statusChanges]
  | restatus o' order' newStatus note actor hrow' _ hne hedge =>
    have ho : o ≠ o' := by
      rintro rfl
      obtain rfl : order = order' := Option.some.inj (hrow.symm.trans hrow')
      exact not_isEdge_of_isClosed (hstatus ▸ hclosed) hedge
    refine ⟨⟨order, (Table.rows_modify_ne _ _ ho).trans hrow, hstatus⟩, ?_⟩
    rw [← h.changes]
    change ((s.setStatus o' newStatus).statusChanges.filter _) = _
    rw [statusChanges_setStatus hrow' hne]
    simp [Ne.symm ho]
  | _ => exact ⟨⟨order, hrow, hstatus⟩, h.changes⟩

/-- Logs are only ever added. -/
theorem Shop.Write.statusLogs_prefix (hwrite : Shop.Write q s s') :
    s.statusLogs <+: s'.statusLogs := by
  cases hwrite with
  | restatus => exact List.prefix_append _ _
  | note => exact List.prefix_append _ _
  | _ => exact List.prefix_rfl

end Writes

/-! ## Runs -/

/-- From a complete record, after every run: every change of an order's status followed an edge
    and has exactly one log, in its place; the logs of an order form a chain, from the status it
    was created with to its current one; and the status of an order that was closed before the
    run has not been written any more. -/
theorem audit_trail {db : Database} (h : AuditTrail db.shop) (run : List Step) :
    let shop := (after db run).shop
    (∀ o fromStatus toStatus, (o, fromStatus, toStatus) ∈ shop.statusChanges →
      toStatus ∈ fromStatus.allowedTransitions) ∧
    shop.loggedChanges = shop.statusChanges ∧ db.shop.statusLogs <+: shop.statusLogs ∧
    (∀ o order, shop.orders.rows o = some order →
      ((shop.journal o).IsChain fun earlier later => earlier.2 = later.1) ∧
      ∃ initial, shop.initialStatus o = some initial ∧
        order.status = ((shop.journal o).getLast?.map Prod.snd).getD initial) ∧
    ∀ o order, db.shop.orders.rows o = some order → order.status.isClosed →
      shop.HasStatus o order.status ∧ (shop.statusChanges.filter fun e => e.1 = o) =
        db.shop.statusChanges.filter fun e => e.1 = o := by
  have htrail := inv_of_write (fun hwrite => hwrite.auditTrail) run h
  refine ⟨htrail.edges, htrail.logged, ?_, fun o order hrow => ?_, fun o order hrow hclosed => ?_⟩
  · exact inv_of_write (I := fun shop => db.shop.statusLogs <+: shop.statusLogs)
      (fun hwrite hprefix => hprefix.trans hwrite.statusLogs_prefix) run List.prefix_rfl
  · obtain ⟨initial, hinitial, hleads⟩ := htrail.path o order hrow
    exact ⟨hleads.isChain, initial, hinitial, hleads.eq_last⟩
  · have hended := inv_of_write (fun hwrite => hwrite.ended hclosed) run
      (⟨⟨order, hrow, rfl⟩, rfl⟩ : db.shop.Ended o order.status _)
    exact ⟨hended.status, hended.changes⟩

theorem cornerShop_auditTrail : AuditTrail cornerShop.shop where
  edges _ _ _ h := absurd h List.not_mem_nil
  logged := rfl
  path _ _ h := nomatch h
  unwritten _ _ := rfl
  unlogged _ _ := rfl

/-- A checkout and its payment. -/
theorem audit_trail_cornerShop :
    let shop := (after cornerShop [cornerCheckout, cornerCallback 0 "OK"]).shop
    shop.journal 0 = [(.pendingPayment, .paid), (.paid, .confirmedByShop)] ∧
      shop.loggedChanges = shop.statusChanges :=
  ⟨by decide +kernel, (audit_trail cornerShop_auditTrail _).2.1⟩

end Crumbs
