import Crumbs.Orders.Outcomes
import Crumbs.Payments.StaleCleanup

/-!
# Writes to the Shop

Every service is a chain of the few writes listed in `Shop.Write`. A property of the shop that
each of these writes preserves therefore holds after every service, whatever the services do in
between, and whether they return or raise.

A checkout writes a status once more that its order has already. So that this can be seen, chains
come in two kinds: in the one orders may change their status, in the other they keep it.

## Contents

- `Shop.Write`: all writes to a shop
- `Moves`: a chain of writes, with nothing but clamps observed
- `Moves.hasStatus`: what a chain without changes of status leaves as it is
- `Commits`: what holds of the body of an `atomic` block
-/

namespace Crumbs

open Crumbs.Db

variable {α : Type}

/-! ## Writes -/

/-- All writes to a shop; orders change their status only if `restatus` holds. -/
inductive Shop.Write (restatus : Prop) : Shop → Shop → Prop where
  | stock (s : Shop) (stock : Stock) (obs : List Observation)
      (hsections : Sections s.stock obs stock) : Write restatus s { s with stock }
  | touch (s : Shop) (stock : Stock) (htouch : s.stock.Touches stock) :
      Write restatus s { s with stock }
  | carts (s : Shop) (carts : Table Cart) (cartItems : CartId → List CartItem) :
      Write restatus s { s with carts, cartItems }
  | orderItems (s : Shop) (orderItems : OrderId → List OrderItem) :
      Write restatus s { s with orderItems }
  /-- Fields of an order other than its status. -/
  | order (s : Shop) (o : OrderId) (f : Order → Order)
      (hstatus : ∀ order, (f order).status = order.status) : Write restatus s (s.updateOrder o f)
  | createOrder (s : Shop) (order : Order) : Write restatus s
      { s with
        orders := s.orders.insert order
        statusWrites := s.statusWrites ++ [(s.orders.next, .created order.status)] }
  /-- A change of status along an edge, with its log. -/
  | restatus (s : Shop) (o : OrderId) (order : Order) (newStatus : OrderStatus)
      (note actor : String) (hrow : s.orders.rows o = some order)
      (hrestatus : restatus) (hne : order.status ≠ newStatus)
      (hedge : newStatus ∈ order.status.allowedTransitions) :
      Write restatus s (s.restatus o order.status newStatus note actor)
  /-- A log that leaves the status as it is. -/
  | note (s : Shop) (o : OrderId) (order : Order) (note actor : String)
      (hrow : s.orders.rows o = some order) : Write restatus s (s.addStatusLog
        { order := o, fromStatus := order.status, toStatus := order.status, note, actor })
  | payments (s : Shop) (payments : Table Payment) : Write restatus s { s with payments }

/-- A chain of writes, with nothing but clamps observed. -/
structure Moves (restatus : Prop) (w w' : World Shop (List Observation)) : Prop where
  writes : Relation.ReflTransGen (Shop.Write restatus) w.db w'.db
  quiet : Quiet w.ext w'.ext

section Chains

variable {q : Prop} {w w' w'' : World Shop (List Observation)}

instance : IsPreorder (World Shop (List Observation)) (Moves q) where
  refl w := ⟨.refl, .refl w.ext⟩
  trans _ _ _ h h' := ⟨h.writes.trans h'.writes, h.quiet.trans h'.quiet⟩

instance : Tx.RestoresDb (Moves q) where
  restore h := ⟨.refl, h.quiet⟩

theorem Moves.of_write {s' : Shop} (h : Shop.Write q w.db s') :
    Moves q w { w with db := s' } := ⟨.single h, .refl w.ext⟩

/-- A computation that raises at once writes nothing. -/
theorem moves_of_error {x : ShopTx α} {e : Exn} {trace : List Observation}
    (hx : x w = (.error e, ⟨w.db, trace⟩)) (hquiet : Quiet w.ext trace) :
    x.StepsAt (Moves q) w := .of_run (by rw [hx]; exact ⟨.refl, hquiet⟩)

theorem moves_modifyDb {f : Shop → Shop} (h : ∀ s, Shop.Write q s (f s)) :
    (Tx.modifyDb f : ShopTx Unit).Steps (Moves q) := fun _ => Moves.of_write (h _)

/-- Inventory work that rolls back writes the stock section by section. -/
theorem Does.moves {x : StockTx α} (h : Does (Tx.atomic x)) :
    (ShopTx.onStock (Tx.atomic x)).Steps (Moves q) := by
  refine fun w => Tx.wp_zoom.2 (Tx.wp_mono (Tx.wp_and (h (stockWorld w))
    (Tx.rollsBack_atomic x (stockWorld w))) (fun _ w' h' => ?_) (fun _ w' h' => ?_))
  · obtain ⟨⟨obs, hsections, hext⟩, -⟩ := h'
    exact ⟨.single (.stock w.db w'.db obs hsections), ⟨obs, hext, hsections.isClamp⟩⟩
  · refine ⟨?_, h'.1.quiet⟩
    rw [h'.2]
    exact .refl

theorem moves_lockOrder {o : OrderId} {f : Order → ShopTx α}
    (h : ∀ order, w.db.orders.rows o = some order → (f order).StepsAt (Moves q) w) :
    (lockOrder o >>= f).StepsAt (Moves q) w :=
  .seq (wp_lockOrder.2 ⟨fun order hrow => ⟨refl_of _ w, h order hrow⟩, fun _ => refl_of _ w⟩)

theorem lockPayment_moves (p : PaymentId) : (lockPayment p).Steps (Moves q) := fun w =>
  wp_lockPayment.2 ⟨fun _ _ => refl_of _ w, fun _ => refl_of _ w⟩

/-! ### Orders that keep their status -/

theorem Shop.Write.thaw {s s' : Shop} (h : Shop.Write False s s') : Shop.Write q s s' := by
  cases h with
  | stock stock obs hsections => exact .stock _ stock obs hsections
  | touch stock htouch => exact .touch _ stock htouch
  | carts => exact .carts _ _ _
  | orderItems => exact .orderItems _ _
  | order o f hstatus => exact .order _ o f hstatus
  | createOrder order => exact .createOrder _ order
  | restatus _ _ _ _ _ _ hrestatus => exact hrestatus.elim
  | note o order note actor hrow => exact .note _ o order note actor hrow
  | payments => exact .payments _ _

theorem Moves.thaw (h : Moves False w w') : Moves q w w' :=
  ⟨Relation.ReflTransGen.mono (fun _ _ => Shop.Write.thaw) _ _ h.writes, h.quiet⟩

/-- No order is dropped, and without changes of status each keeps its own. -/
theorem Shop.Write.status_eq {s s' : Shop} (h : Shop.Write False s s') {o : OrderId}
    {order : Order} (hrow : s.orders.rows o = some order) :
    ∃ order', s'.orders.rows o = some order' ∧ order'.status = order.status := by
  cases h with
  | order o' f hstatus =>
    by_cases ho : o = o'
    · subst o'
      refine ⟨f order, ?_, hstatus order⟩
      change (s.orders.modify o f).rows o = _
      rw [Table.rows_modify_self, hrow, Option.map_some]
    · exact ⟨order, (Table.rows_modify_ne _ _ ho).trans hrow, rfl⟩
  | createOrder order' => exact ⟨order, Table.rows_insert_of_some order' hrow, rfl⟩
  | restatus _ _ _ _ _ _ hrestatus => exact hrestatus.elim
  | _ => exact ⟨order, hrow, rfl⟩

/-- The order is there, in the given status. -/
def Shop.HasStatus (shop : Shop) (o : OrderId) (status : OrderStatus) : Prop :=
  ∃ order, shop.orders.rows o = some order ∧ order.status = status

theorem Moves.hasStatus (h : Moves False w w') {o : OrderId} {status : OrderStatus}
    (hstatus : w.db.HasStatus o status) : w'.db.HasStatus o status := by
  have hwrites := h.writes
  generalize w'.db = s' at hwrites ⊢
  induction hwrites with
  | refl => exact hstatus
  | tail _ hwrite ih =>
    obtain ⟨order, hrow, hstatus⟩ := ih
    obtain ⟨order', hrow', hstatus'⟩ := hwrite.status_eq hrow
    exact ⟨order', hrow', hstatus'.trans hstatus⟩

/-- Writing the status that an order has already. -/
theorem Shop.HasStatus.setStatus_eq {shop : Shop} {o : OrderId} {status : OrderStatus}
    (h : shop.HasStatus o status) : shop.setStatus o status = shop := by
  obtain ⟨order, hrow, rfl⟩ := h
  have horders : shop.orders.modify o ({ · with status := order.status }) = shop.orders :=
    Table.modify_eq_self fun order' hrow' => by
      obtain rfl : order = order' := Option.some.inj (hrow.symm.trans hrow')
      rfl
  rw [Shop.setStatus, horders, hrow]
  simp

theorem setStatus_moves {o : OrderId} {status : OrderStatus} (h : w.db.HasStatus o status) :
    (Tx.modifyDb fun shop => shop.setStatus o status : ShopTx Unit).StepsAt (Moves q) w := by
  change Moves q w { w with db := w.db.setStatus o status }
  rw [h.setStatus_eq]
  exact refl_of _ w

/-! ### Bodies of transactions -/

/-- The body of an `atomic` block: only the writes of its returning runs count. -/
def Commits (restatus : Prop) (x : ShopTx α) (w : World Shop (List Observation)) : Prop :=
  x.wp (fun _ w' => Moves restatus w w') (fun _ w' => Quiet w.ext w'.ext) w

/-- The computation raises, whatever it has written by then. -/
def Fails (x : ShopTx α) (w : World Shop (List Observation)) : Prop :=
  x.wp (fun _ _ => False) (fun _ w' => Quiet w.ext w'.ext) w

theorem Commits.atomic {x : ShopTx α} (h : Commits q x w) : (Tx.atomic x).StepsAt (Moves q) w :=
  Tx.wp_atomic.2 (Tx.wp_mono h (fun _ _ h' => h') (fun _ _ h' => ⟨.refl, h'⟩))

theorem Commits.of_moves {x : ShopTx α} (h : x.StepsAt (Moves q) w) : Commits q x w :=
  Tx.wp_mono h (fun _ _ h' => h') (fun _ _ h' => h'.quiet)

/-- The second part starts where the first has moved to. -/
theorem Commits.seq {β : Type} {x : ShopTx β} {f : β → ShopTx α}
    (h : x.wp (fun b w' => Moves q w w' ∧ Commits q (f b) w')
      (fun _ w' => Quiet w.ext w'.ext) w) : Commits q (x >>= f) w :=
  Tx.wp_seq h (fun _ _ h' => Tx.wp_mono h'.2 (fun _ _ hmoves => trans_of (Moves q) h'.1 hmoves)
    fun _ _ hquiet => h'.1.quiet.trans hquiet) (fun _ _ hquiet => hquiet)

theorem Commits.bind {β : Type} {x : ShopTx β} {f : β → ShopTx α} (hx : Commits q x w)
    (hf : ∀ b w', Commits q (f b) w') : Commits q (x >>= f) w :=
  .seq (Tx.wp_mono hx (fun b w' h => ⟨h, hf b w'⟩) (fun _ _ h => h))

/-- A handler that raises again. -/
theorem Commits.catching {x : ShopTx α} {handler : Exn → ShopTx α} (hx : Commits q x w)
    (hh : ∀ e w', Fails (handler e) w') : Commits q (Tx.catching x handler) w :=
  Tx.wp_catching.2 (Tx.wp_mono hx (fun _ _ h => h) fun e w' hquiet =>
    Tx.wp_mono (hh e w') (fun _ _ h => h.elim) (fun _ _ h => hquiet.trans h))

/-- A check that raises. -/
theorem commits_check {c : Prop} [Decidable c] {e : Exn} {f : Unit → ShopTx α}
    (h : ¬c → Commits q (f ()) w) : Commits q (Tx.when c (Tx.raise e) >>= f) w :=
  Tx.wp_bind.2 (Tx.wp_when.2 ⟨fun _ => .refl _, h⟩)

end Chains

end Crumbs
