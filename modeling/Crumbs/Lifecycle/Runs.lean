import Crumbs.Lifecycle.Callbacks
import Crumbs.Lifecycle.Checkouts
import Crumbs.Payments.Captures

/-!
# What a Run Does to the Books

Every step of the system takes the books through changes that its operation may ask for, each of
them permitted by its guard. This is all that a proof about orders and payments over whole runs
has to know of the code.

## Contents

- `ShopCall.Asks`, `Operation.Asks`: what an operation may do
- `ShopCall.run_follows`, `Step.follows`: it does nothing else
- `Step.Only`: the step asks only for changes of a kind
-/

namespace Crumbs

open Crumbs.Db

/-! ## What operations may do -/

/-- What a call that begins on `shop` may do when it has come to the books `b`. A call that makes
    one change makes it at once. -/
def ShopCall.Asks (env : Env) (shop : Shop) (b : Books) (ch : Change) : ShopCall → Prop
  | expireStaleReservations => b = shop.books ∧ ch = .expire env.now
  | addItem c _ _ | setItemQuantity c _ _ =>
    b = shop.books ∧ ∃ items holds, ch = .shelve c items holds
  | removeItem c _ | clearCart c => ∃ items holds, ch = .shelve c items holds
  | processCheckout c _ _ _ => b = shop.books ∧
      ∃ order reservations payment, ch = .checkout c order reservations payment
  | processCounterCheckout c _ _ _ => b = shop.books ∧
      ∃ order reservations payment, ch = .counterCheckout c order reservations payment
  | transition o newStatus _ _ => b = shop.books ∧ ch = .transition o newStatus
  | cancel o _ _ => b = shop.books ∧ ch = .cancel o
  | markPaymentFailed o _ _ => b = shop.books ∧ ch = .failOrder o
  | requestRefund o _ _ => b = shop.books ∧ ch = .requestRefund o
  | processRefund o _ _ => b = shop.books ∧ ch = .refund o
  | completeDelivery o _ => b = shop.books ∧ (ch = .deliver o ∨ ch = .deliverCod o)
  | reserveStock o => (∃ reservations, ch = .reserve o reservations) ∨ ∃ f, ch = .amend o f
  | confirmStock o => b = shop.books ∧ ch = .confirm o
  | releaseStock o => b = shop.books ∧ ch = .release o
  | finalizeCounterPayment o _ => b = shop.books ∧ ch = .payAtCounter o
  | finalizeOnlinePayment o => b = shop.books ∧ ch = .payOnline o
  | confirmCod o _ => b = shop.books ∧ ch = .confirmCod o
  | recordCashReceived o _ => b = shop.books ∧ ch = .receiveCash o
  -- from PAID the kitchen goes on with the status that it reads then, else with the one it has seen
  | startPreparing o seen _ =>
    (b = shop.books ∧ seen.status = .paid ∧ ch = .transition o .confirmedByShop) ∨
      (b = shop.books ∧ seen.status = .confirmedByShop ∧ ch = .transition o .preparing) ∨
        ((b.OrderIs o fun order => order.status = .confirmedByShop) ∧ ch = .transition o .preparing)
  | markReady o _ => b = shop.books ∧ ch = .transition o .packaged
  | completePickupOrder o seen _ =>
    (b = shop.books ∧ seen = .packaged ∧ ch = .transition o .outForDelivery) ∨
      ((b = shop.books ∨ b = (Change.transition o .outForDelivery).apply shop.books) ∧
        (ch = .deliver o ∨ ch = .deliverCod o))
  | initiateOnline o => b = shop.books ∧ PaymentService.handedBack env shop o = none ∧
      ∃ payment, payment.order = o ∧ ch = .openOnline payment
  | initiatePayment o seen => b = shop.books ∧
      if seen.paymentMethod = .cod then
        ∃ payment, payment.order = o ∧ payment.provider = .cod ∧ ch = .openOffline payment
      else PaymentService.handedBack env shop o = none ∧
        ∃ payment, payment.order = o ∧ ch = .openOnline payment
  | initiateCounterPayment o _ _ => b = shop.books ∧
      ∃ payment, payment.order = o ∧ ch = .openOffline payment
  | markCounterCashReceived o p _ => PaymentService.CounterAsks o p .cash shop.books b ch
  | markCounterCardReceived o p _ => PaymentService.CounterAsks o p .counterCard shop.books b ch
  | markPaid o p => b = shop.books ∧ (ch = .captureAgain o p ∨ ch = .capture o p Payment.succeed)
  | markCodCashReceived o p _ => PaymentService.CodAsks o (some p) shop.books b ch
  | ensureCodCashFinalized o p _ => PaymentService.CodAsks o p shop.books b ch
  | markFailed o p _ => b = shop.books ∧ ∃ f, ch = .fail o p f ∨ ch = .failLate o p f
  | markCancelled o p _ => b = shop.books ∧ ∃ f, ch = .cancelPayment o p f
  | refundPayment o => b = shop.books ∧ ch = .refundPayment o
  | cleanupStaleOnlinePayment p => CleanupAsks env [p] b ch
  | cleanupStaleOnlinePayments timeoutMinutes => CleanupAsks env
      ((staleOnlinePayments shop (getStaleOnlinePaymentCutoff env timeoutMinutes)).map Prod.fst) b ch

/-- What an operation that begins on `db` may do when it has come to the books `b`. -/
def Operation.Asks (env : Env) (db : Database) (b : Books) (ch : Change) : Operation → Prop
  | call c => c.Asks env db.shop b ch
  | zarinpalCallback request => b = db.shop.books ∧ ∃ p payment order,
      request.Reaches env db p payment order ∧
        CallbackAsks env (request.data (some p)) p payment order ch
  | stripeWebhook payload signature => b = db.shop.books ∧ ∃ event,
      StripePaymentProvider.verifyWebhook env payload signature = .ok event ∧
        ¬db.isProcessed event.eventId ∧ EventAsks event b ch

/-- What operations do that take more than one change: the other changes are made at once. -/
def Change.IsStaged : Change → Prop
  | shelve .. | reserve .. | amend .. | transition .. | deliver _ | deliverCod _ | settle ..
  | payAtCounter _ | noteCash _ | receiveCash _ | fail .. | unlock _ => True
  | _ => False

theorem ShopCall.Asks.at_once {env : Env} {shop : Shop} {b : Books} {ch : Change} {call : ShopCall}
    (h : call.Asks env shop b ch) : b = shop.books ∨ ch.IsStaged := by
  cases call with
  | removeItem | clearCart =>
    obtain ⟨items, holds, rfl⟩ := h
    exact .inr trivial
  | reserveStock => rcases h with ⟨reservations, rfl⟩ | ⟨f, rfl⟩ <;> exact .inr trivial
  | startPreparing =>
    rcases h with ⟨hb, -⟩ | ⟨hb, -⟩ | ⟨-, rfl⟩
    · exact .inl hb
    · exact .inl hb
    · exact .inr trivial
  | completePickupOrder =>
    rcases h with ⟨hb, -⟩ | ⟨-, rfl | rfl⟩
    · exact .inl hb
    · exact .inr trivial
    · exact .inr trivial
  | markCounterCashReceived | markCounterCardReceived =>
    cases ch with
    | settle | payAtCounter => exact .inr trivial
    | _ => exact h.elim
  | markCodCashReceived | ensureCodCashFinalized =>
    cases ch with
    | settle | noteCash | receiveCash => exact .inr trivial
    | _ => exact h.elim
  | cleanupStaleOnlinePayment | cleanupStaleOnlinePayments =>
    cases ch with
    | fail | unlock => exact .inr trivial
    | _ => exact h.elim
  | _ => exact .inl h.1

/-- A change that is not staged is made in the state that the operation begins with. -/
theorem Operation.Asks.at_once {env : Env} {db : Database} {b : Books} {ch : Change}
    {operation : Operation} (h : operation.Asks env db b ch) :
    b = db.shop.books ∨ ch.IsStaged := by
  cases operation with
  | call call => exact ShopCall.Asks.at_once h
  | zarinpalCallback => exact .inl h.1
  | stripeWebhook => exact .inl h.1

/-! ## Calls -/

section Calls

variable {α : Type} {P : Books → Change → Prop} {w : World Shop (List Observation)}

/-- A computation that goes through changes when it returns, and is undone when it raises. -/
theorem follows_steps {x : ShopTx α} (hrolls : x.RollsBack)
    (h : x.Yields Shop.books w.db.books fun _ => Follows P w.db.books) :
    x.StepsAt (OnBooks P) w := by
  refine Tx.wp_mono (Tx.wp_and h.ensures (hrolls w)) (fun _ _ h' => h'.1) fun _ w' h' => ?_
  change Follows P w.db.books w'.db.books
  rw [h'.2]
  exact .refl

/-- The books are as they were, or as `Q` says. -/
def Ends (Q : Books → Prop) (w w' : World Shop (List Observation)) : Prop :=
  w'.db.books = w.db.books ∨ Q w'.db.books

instance {Q : Books → Prop} : IsPreorder (World Shop (List Observation)) (Ends Q) where
  refl _ := .inl rfl
  trans _ _ _ h h' := by
    rcases h' with h' | h'
    · exact h.imp (h'.trans ·) (h' ▸ ·)
    · exact .inr h'

/-- What the books are when a computation returns, and as they were when it raises. -/
theorem ends_steps {x : ShopTx α} {Q : Books → Prop} (hrolls : x.RollsBack)
    (h : x.Yields Shop.books w.db.books fun _ b' => b' = w.db.books ∨ Q b') :
    x.StepsAt (Ends Q) w :=
  Tx.wp_mono (Tx.wp_and h.ensures (hrolls w)) (fun _ _ h' => h'.1) fun _ _ h' =>
    .inl (congrArg Shop.books h'.2)

/-- A computation that makes one change. -/
theorem made_steps {x : ShopTx α} {changes : List Change} (hrolls : x.RollsBack)
    (h : x.Yields Shop.books w.db.books fun _ => Made changes w.db.books)
    (hP : ∀ ch ∈ changes, P w.db.books ch) : x.StepsAt (OnBooks P) w :=
  follows_steps hrolls (h.mono fun _ _ hmade => hmade.follows fun ch hmem _ => hP ch hmem)

/-- The same of a change that is given by its guard. -/
theorem once_steps {x : ShopTx α} {Q : α → Books → Prop} (hrolls : x.RollsBack)
    (h : x.Yields Shop.books w.db.books Q)
    (hQ : ∀ a b', Q a b' → b' = w.db.books ∨
      ∃ ch, ch.Guard w.db.books ∧ P w.db.books ch ∧ b' = ch.apply w.db.books) :
    x.StepsAt (OnBooks P) w := by
  refine follows_steps hrolls (h.mono fun a b' hab => ?_)
  rcases hQ a b' hab with rfl | ⟨ch, hguard, hP, rfl⟩
  · exact .refl
  · exact .single hguard hP rfl

end Calls

/-! ## Calls in more than one transaction -/

/-- Carts are read before they are changed. -/
theorem ensureCartMutable_reads (c : CartId) : (ensureCartMutable c).Steps Eq :=
  Tx.Steps.bind (Tx.steps_getDb.bind fun _ => getRow_steps "Cart" _) fun _ w => .ifSome fun _ _ =>
    Tx.Steps.bind (Tx.steps_getDb.bind fun _ => getRow_steps "Order" _)
      (fun _ w => .when fun _ => Tx.steps_raise _ w) w

section Carts

variable {env : Env} {c : CartId} {P : Books → Change → Prop}
  (hP : ∀ b items holds, P b (.shelve c items holds))
include hP

/-- The stock of a cart goes back, and its lines stay. -/
theorem shelve_holds_steps {α : Type} {x : StockTx α} {g : Holds → Holds} (hrolls : x.RollsBack)
    (hx : Rebooks x g) (hg : ∀ holds, Reshelves c holds (g holds)) :
    (ShopTx.onStock x).Steps (OnBooks P) := by
  refine fun w => follows_steps (hrolls.zoom fun _ => rfl) (.last (yields_rebooks hx fun _ =>
    Tx.yields_pure (.single (show (Change.shelve c (w.db.books.cartItems c)
      (g w.db.books.holds)).Guard _ from hg _) (hP _ _ _) ?_)))
  have hitems : (fun d => if d = c then w.db.books.cartItems c else w.db.books.cartItems d) =
      w.db.books.cartItems := by
    funext d
    split
    · rw [‹d = c›]
    · rfl
  rw [Change.apply, hitems]
  rfl

/-- The lines of a cart change, and its holds stay. -/
theorem shelve_items_steps (items : Shop → List CartItem) :
    (Tx.modifyDb (fun shop => shop.setCartItems c (items shop)) : ShopTx Unit).Steps (OnBooks P) :=
  fun w => Tx.steps_modifyDb (.single
    (show (Change.shelve c (items w.db) w.db.books.holds).Guard _ from Reshelves.refl c _)
    (hP _ _ _) rfl)

theorem removeItem_steps (product : ProductId) : (removeItem c product).Steps (OnBooks P) :=
  Tx.Steps.bind (steps_of_eq (ensureCartMutable_reads c)) fun _ =>
    (shelve_holds_steps hP (Tx.rollsBack_atomic _)
      (releaseCartReservationsForProduct_rebooks c product)
      (reshelves_releaseCartProduct product)).bind fun _ => shelve_items_steps hP _

theorem clearCart_steps : (clearCart c).Steps (OnBooks P) :=
  (shelve_holds_steps hP (Tx.rollsBack_atomic _) (releaseCartReservations_rebooks c)
    reshelves_releaseCart).bind fun _ => shelve_items_steps hP _

end Carts

section Staged

variable {P : Books → Change → Prop} {env : Env} {o : OrderId}

theorem transition_steps {newStatus : OrderStatus} {note actor : String}
    {w : World Shop (List Observation)} (hP : P w.db.books (.transition o newStatus)) :
    (OrderService.transition o newStatus note actor).StepsAt (OnBooks P) w :=
  made_steps (Tx.rollsBack_atomic _) OrderService.transition_made fun ch hmem => by
    obtain rfl := List.mem_singleton.1 hmem
    exact hP

/-- The kitchen starts an order that has just been read. -/
theorem startConfirmed_steps {order : Order} {actor : String} {w : World Shop (List Observation)}
    (hP : order.status = .confirmedByShop → P w.db.books (.transition o .preparing)) :
    (startConfirmed o order actor).StepsAt (OnBooks P) w :=
  .ite (fun hconfirmed => transition_steps (hP hconfirmed)) fun _ => Tx.steps_raise _ w

theorem startPreparing_steps (shop : Shop) (trace : List Observation) (seen : Order)
    (actor : String) : (startPreparing o seen actor).StepsAt
      (OnBooks fun b ch => (ShopCall.startPreparing o seen actor).Asks env shop b ch)
        ⟨shop, trace⟩ := by
  refine .ite (fun _ => Tx.steps_pure _ _) fun _ => .ite (fun hpaid => ?_) fun _ =>
    startConfirmed_steps fun hconfirmed => .inr (.inl ⟨rfl, hconfirmed, rfl⟩)
  refine (transition_steps (.inl ⟨rfl, hpaid, rfl⟩)).bind fun _ w => ?_
  refine Tx.StepsAt.seq (Tx.wp_bind.2 (Tx.wp_getDb.2 ?_))
  cases hrow : w.db.orders.rows o with
  | none => exact refl_of (OnBooks _) w
  | some order =>
    exact ⟨refl_of (OnBooks _) w, startConfirmed_steps fun hconfirmed =>
      .inr (.inr ⟨⟨order, hrow, hconfirmed⟩, rfl⟩)⟩

theorem completeDelivery_steps {actor : String} {w : World Shop (List Observation)}
    (hP : P w.db.books (.deliver o) ∧ P w.db.books (.deliverCod o)) :
    (OrderService.completeDelivery o actor).StepsAt (OnBooks P) w :=
  made_steps (Tx.rollsBack_atomic _) OrderService.completeDelivery_made fun ch hmem => by
    rcases List.mem_cons.1 hmem with rfl | hmem
    · exact hP.1
    · obtain rfl := List.mem_singleton.1 hmem
      exact hP.2

theorem completePickupOrder_steps (shop : Shop) (trace : List Observation) (seen : OrderStatus)
    (actor : String) : (completePickupOrder o seen actor).StepsAt
      (OnBooks fun b ch => (ShopCall.completePickupOrder o seen actor).Asks env shop b ch)
        ⟨shop, trace⟩ := by
  have hready : (Tx.when (seen = .packaged) do
      let _ ← OrderService.transition o .outForDelivery
        "Pickup screen: ready for customer pickup" actor : ShopTx Unit).StepsTo
        (OnBooks fun b ch => (ShopCall.completePickupOrder o seen actor).Asks env shop b ch)
        (fun _ w' => w'.db.books = shop.books ∨
          w'.db.books = (Change.transition o .outForDelivery).apply shop.books) ⟨shop, trace⟩ := by
    refine Tx.wp_when.2 ⟨fun hpackaged => ?_, fun _ => ⟨refl_of (OnBooks _) _, .inl rfl⟩⟩
    have hyields : (OrderService.transition o .outForDelivery
        "Pickup screen: ready for customer pickup" actor).Yields Shop.books shop.books fun _ b' =>
          b' = (Change.transition o .outForDelivery).apply shop.books :=
      OrderService.transition_yields.mono fun _ _ h => h.books
    refine Tx.wp_seq (Tx.wp_and (transition_steps (.inl ⟨rfl, hpackaged, rfl⟩))
      (hyields ⟨shop, trace⟩ rfl)) (fun _ _ h => ⟨h.1, .inr h.2⟩) fun _ _ h => h.1
  exact hready.seq fun _ w' _ h => completeDelivery_steps
    ⟨.inr ⟨h, .inl rfl⟩, .inr ⟨h, .inr rfl⟩⟩

theorem cleanupStaleOnlinePayment_steps {ps : List PaymentId} {p : PaymentId} (hp : p ∈ ps) :
    (cleanupStaleOnlinePayment env p).Steps (OnBooks (CleanupAsks env ps)) := fun _ =>
  follows_steps (Tx.rollsBack_atomic _) (cleanupStaleOnlinePayment_follows.mono fun _ _ h =>
    h.mono fun _ _ hasks => hasks.of_mem hp)

theorem cleanupEach_steps {ps : List PaymentId} (result : CleanupResult) (payments : List PaymentId)
    (h : payments ⊆ ps) :
    (cleanupEach env result payments).Steps (OnBooks (CleanupAsks env ps)) := by
  induction payments generalizing result with
  | nil => exact Tx.steps_pure _
  | cons p rest ih =>
    obtain ⟨hp, hrest⟩ := List.cons_subset.1 h
    refine Tx.Steps.bind (fun w => ?_) fun outcome => ih _ hrest
    exact .catching ((cleanupStaleOnlinePayment_steps hp w).bind fun _ => Tx.steps_pure _)
      fun _ => Tx.steps_pure _

end Staged

/-! ## Steps -/

/-- A call that makes the one change `ch`, or none. -/
theorem one_steps {α : Type} {P : Books → Change → Prop} {w : World Shop (List Observation)}
    {x : ShopTx α} {ch : Change} (hrolls : x.RollsBack)
    (h : x.Yields Shop.books w.db.books fun _ => Made [ch] w.db.books) (hP : P w.db.books ch) :
    (Tx.void x).StepsAt (OnBooks P) w :=
  (made_steps hrolls h fun ch' hmem => by
    obtain rfl := List.mem_singleton.1 hmem
    exact hP).void

/-- A call does nothing but what it may ask for. -/
theorem ShopCall.run_follows (env : Env) (call : ShopCall) (shop : Shop)
    (trace : List Observation) :
    (call.run env).StepsAt (OnBooks fun b ch => call.Asks env shop b ch) ⟨shop, trace⟩ := by
  cases call with
  | expireStaleReservations =>
    refine one_steps (x := ShopTx.onStock _) ((Tx.rollsBack_atomic _).zoom fun _ => rfl) ?_
      ⟨rfl, rfl⟩
    exact .last (yields_rebooks (expireStaleReservations_rebooks env) fun _ =>
      Tx.yields_pure (.single trivial rfl))
  | addItem c product quantity =>
    refine (once_steps (Tx.rollsBack_atomic _) addItem_made ?_).void
    rintro _ _ ⟨items, holds, rfl | ⟨ch, hmem, hguard, rfl⟩⟩
    · exact .inl rfl
    · obtain rfl := List.mem_singleton.1 hmem
      exact .inr ⟨_, hguard, ⟨rfl, items, holds, rfl⟩, rfl⟩
  | setItemQuantity c product quantity =>
    refine (once_steps (Tx.rollsBack_atomic _) setItemQuantity_made ?_).void
    rintro _ _ ⟨items, holds, rfl | ⟨ch, hmem, hguard, rfl⟩⟩
    · exact .inl rfl
    · obtain rfl := List.mem_singleton.1 hmem
      exact .inr ⟨_, hguard, ⟨rfl, items, holds, rfl⟩, rfl⟩
  | removeItem c product => exact removeItem_steps (fun _ items holds => ⟨items, holds, rfl⟩) product _
  | clearCart c => exact clearCart_steps (fun _ items holds => ⟨items, holds, rfl⟩) _
  | processCheckout c customer user growth =>
    refine (once_steps (Tx.rollsBack_atomic _) DeliveryServiceCheckout.processCheckout_yields
      ?_).void
    rintro _ _ (⟨rfl, -, -⟩ | ⟨-, order, reservations, payment, hguard, rfl⟩)
    · exact .inl rfl
    · exact .inr ⟨_, hguard, ⟨rfl, order, reservations, payment, rfl⟩, rfl⟩
  | processCounterCheckout c customer paymentMethod user =>
    refine (once_steps (Tx.rollsBack_atomic _) CounterCheckoutService.processCheckout_yields
      ?_).void
    rintro _ _ ⟨-, order, reservations, payment, hguard, rfl⟩
    exact .inr ⟨_, hguard, ⟨rfl, order, reservations, payment, rfl⟩, rfl⟩
  | transition o newStatus note actor =>
    exact one_steps (Tx.rollsBack_atomic _) OrderService.transition_made ⟨rfl, rfl⟩
  | cancel o reason actor =>
    exact one_steps (Tx.rollsBack_atomic _) OrderService.cancel_made ⟨rfl, rfl⟩
  | markPaymentFailed o reason actor =>
    exact one_steps (Tx.rollsBack_atomic _)
      (OrderService.markPaymentFailed_made.mono fun _ _ h => h.made) ⟨rfl, rfl⟩
  | requestRefund o reason actor =>
    exact one_steps (Tx.rollsBack_atomic _) OrderService.requestRefund_made ⟨rfl, rfl⟩
  | processRefund o reason actor =>
    exact one_steps (Tx.rollsBack_atomic _)
      (OrderService.processRefund_made.mono fun _ _ h => h.made) ⟨rfl, rfl⟩
  | completeDelivery o actor =>
    exact (completeDelivery_steps ⟨⟨rfl, .inl rfl⟩, ⟨rfl, .inr rfl⟩⟩).void
  | reserveStock o =>
    refine follows_steps (Tx.rollsBack_atomic _) (OrderService.reserveStock_follows.mono ?_)
    rintro _ _ ⟨reservations, f, hbookings, hf, rfl⟩
    exact Relation.ReflTransGen.trans
      (Follows.single (show (Change.reserve o reservations).Guard _ from hbookings)
        (.inl ⟨reservations, rfl⟩) rfl)
      (Follows.single (show (Change.amend o f).Guard _ from hf) (.inr ⟨f, rfl⟩) rfl)
  | confirmStock o =>
    exact made_steps (Tx.rollsBack_atomic _) OrderService.confirmStock_made fun ch hmem =>
      ⟨rfl, List.mem_singleton.1 hmem⟩
  | releaseStock o =>
    exact made_steps (Tx.rollsBack_atomic _) OrderService.releaseStock_made fun ch hmem =>
      ⟨rfl, List.mem_singleton.1 hmem⟩
  | finalizeCounterPayment o actor =>
    exact one_steps (Tx.rollsBack_atomic _)
      (OrderService.finalizeCounterPayment_made.mono fun _ _ h => h.made) ⟨rfl, rfl⟩
  | finalizeOnlinePayment o =>
    exact one_steps (Tx.rollsBack_atomic _)
      (OrderService.finalizeOnlinePayment_made.mono fun _ _ h => h.made) ⟨rfl, rfl⟩
  | confirmCod o actor =>
    exact one_steps (Tx.rollsBack_atomic _) OrderService.confirmCod_made ⟨rfl, rfl⟩
  | recordCashReceived o actor =>
    exact one_steps (Tx.rollsBack_atomic _)
      (OrderService.recordCashReceived_made.mono fun _ _ h => .single h.1 h.2) ⟨rfl, rfl⟩
  | startPreparing o seen actor => exact (startPreparing_steps shop trace seen actor).void
  | markReady o actor => exact (transition_steps ⟨rfl, rfl⟩).void
  | completePickupOrder o seen actor => exact (completePickupOrder_steps shop trace seen actor).void
  | initiateOnline o =>
    refine (once_steps (Tx.rollsBack_atomic _) PaymentService.initiateOnline_yields ?_).void
    rintro e _ (⟨rfl, -⟩ | ⟨hback, horder, hguard, rfl⟩)
    · exact .inl rfl
    · exact .inr ⟨_, hguard, ⟨rfl, hback shop rfl, e.2, horder, rfl⟩, rfl⟩
  | initiatePayment o seen =>
    refine Tx.StepsAt.void (.ite (fun hcod => ?_) fun hcod => ?_)
    · refine once_steps (Tx.rollsBack_atomic _) PaymentService.initiateCod_yields ?_
      rintro _ _ ⟨payment, horder, hprovider, rfl | ⟨ch, hmem, hguard, rfl⟩⟩
      · exact .inl rfl
      · obtain rfl := List.mem_singleton.1 hmem
        refine .inr ⟨_, hguard, ⟨rfl, ?_⟩, rfl⟩
        rw [if_pos hcod]
        exact ⟨payment, horder, hprovider, rfl⟩
    · refine once_steps (Tx.rollsBack_atomic _) PaymentService.initiateOnline_yields ?_
      rintro e _ (⟨rfl, -⟩ | ⟨hback, horder, hguard, rfl⟩)
      · exact .inl rfl
      · refine .inr ⟨_, hguard, ⟨rfl, ?_⟩, rfl⟩
        rw [if_neg hcod]
        exact ⟨hback shop rfl, e.2, horder, rfl⟩
  | initiateCounterPayment o seen paymentMethod =>
    refine (once_steps (Tx.rollsBack_atomic _) PaymentService.initiateCounterPayment_yields ?_).void
    rintro e _ (⟨rfl, -⟩ | ⟨horder, hopen, rfl⟩)
    · exact .inl rfl
    · exact .inr ⟨.openOffline e.2, hopen, ⟨rfl, e.2, horder, rfl⟩, rfl⟩
  | markCounterCashReceived o p actor =>
    exact (follows_steps (Tx.rollsBack_atomic _)
      (.atomic PaymentService.markCounterPaymentReceived_follows)).void
  | markCounterCardReceived o p actor =>
    exact (follows_steps (Tx.rollsBack_atomic _)
      (.atomic PaymentService.markCounterPaymentReceived_follows)).void
  | markPaid o p =>
    refine once_steps (Tx.rollsBack_atomic _) PaymentService.markPaid_made ?_
    rintro _ _ (⟨rfl, -⟩ | ⟨hguard, rfl⟩ | ⟨hguard, rfl⟩)
    · exact .inl rfl
    · exact .inr ⟨_, hguard, ⟨rfl, .inl rfl⟩, rfl⟩
    · exact .inr ⟨_, hguard, ⟨rfl, .inr rfl⟩, rfl⟩
  | markCodCashReceived o p actor =>
    exact (follows_steps (Tx.rollsBack_atomic _) PaymentService.markCodCashReceived_follows).void
  | ensureCodCashFinalized o p actor =>
    exact (follows_steps (Tx.rollsBack_atomic _) PaymentService.ensureCodCashFinalized_follows).void
  | markFailed o p message =>
    refine once_steps (Tx.rollsBack_atomic _) PaymentService.markFailed_made ?_
    rintro _ _ (⟨rfl, -⟩ | ⟨hguard, rfl⟩ | ⟨hguard, rfl⟩)
    · exact .inl rfl
    · exact .inr ⟨_, hguard, ⟨rfl, _, .inl rfl⟩, rfl⟩
    · exact .inr ⟨_, hguard, ⟨rfl, _, .inr rfl⟩, rfl⟩
  | markCancelled o p message =>
    refine once_steps (Tx.rollsBack_atomic _) PaymentService.markCancelled_made ?_
    rintro _ _ ⟨f, rfl | ⟨ch, hmem, hguard, rfl⟩⟩
    · exact .inl rfl
    · obtain rfl := List.mem_singleton.1 hmem
      exact .inr ⟨_, hguard, ⟨rfl, f, rfl⟩, rfl⟩
  | refundPayment o =>
    refine once_steps (Tx.rollsBack_atomic _) OrderService.refundNewest_yields ?_
    rintro _ _ rfl
    cases hnewest : shop.books.newestPayment o with
    | none => exact .inl (by rw [Change.refundNewest, hnewest])
    | some e =>
      by_cases hsucceeded : e.2.status = .succeeded
      · exact .inr ⟨.refundPayment o, ⟨e, hnewest, hsucceeded⟩, ⟨rfl, rfl⟩, rfl⟩
      · refine .inl ?_
        rw [Change.refundNewest, hnewest]
        exact if_neg hsucceeded
  | cleanupStaleOnlinePayment p =>
    exact (cleanupStaleOnlinePayment_steps (List.mem_singleton_self p) _).void
  | cleanupStaleOnlinePayments timeoutMinutes =>
    exact Tx.StepsAt.void (.seq ⟨refl_of (OnBooks _) _, cleanupEach_steps _ _ (fun _ => id) _⟩)

/-- An event whose handler raises leaves the shop as it was. -/
theorem StripePaymentProvider.handleWebhookEvent_rollsBack
    {event : VerifiedWebhookEvent StripeObject} : (handleWebhookEvent event).RollsBack := by
  have hthen {β : Type} {x : ShopTx β} {f : β → ShopTx Unit} (hx : x.Steps Eq)
      (hf : ∀ a, (f a).RollsBack) : (x >>= f).RollsBack := fun w =>
    Tx.wp_seq (hx w) (fun a w' h => h ▸ hf a w) fun _ _ h => by rw [h]
  have hreads (data : StripeObject) := getPaymentFromEvent_reads data
  refine fun w => Tx.wp_ite.2 ⟨fun _ => ?_, fun _ => Tx.wp_ite.2 ⟨fun _ => ?_, fun _ =>
    Tx.wp_ite.2 ⟨fun _ => ?_, fun _ => Tx.wp_ite.2 ⟨fun _ => ?_, fun _ => trivial⟩⟩⟩⟩
  · exact hthen (hreads _) (fun p => Tx.rollsBack_atomic _) w
  · exact hthen (hreads _) (fun p => Tx.rollsBack_atomic _) w
  · exact hthen (hreads _) (fun p => Tx.rollsBack_atomic _) w
  · exact hthen Tx.steps_getDb (fun _ => hthen (getOnly_steps "Payment" _) fun _ =>
      (Tx.rollsBack_atomic _).map _) w

/-- Nor does a step. -/
theorem Step.follows (step : Step) (db : Database) :
    Follows (fun b ch => step.operation.Asks step.env db b ch) db.shop.books
      (step.exec db).db.shop.books := by
  cases hoperation : step.operation with
  | call call =>
    have hsteps := onShop_steps (w := ⟨db, []⟩) (call.run_follows step.env db.shop [])
    rw [Step.exec, hoperation]
    exact hsteps.run
  | zarinpalCallback request =>
    by_cases hreached : ∃ p payment order, request.Reaches step.env db p payment order
    · obtain ⟨p, payment, order, hreaches⟩ := hreached
      refine exec_settles (R := OnBooks _) hoperation hreaches (follows_steps (Tx.rollsBack_atomic _)
        ((ZarinpalPaymentProvider.settleCallback_follows
          (CallbackRequest.payment_eq_some hreaches.found).1 hreaches.row).mono fun _ _ h =>
            h.mono ?_))
      rintro b ch ⟨rfl, hasks⟩
      exact ⟨rfl, p, payment, order, hreaches, hasks⟩
    · rw [Step.exec_callback hoperation, zarinpalCallback_misses fun p payment order hreaches =>
        hreached ⟨p, payment, order, hreaches⟩]
      exact .refl
  | stripeWebhook payload signature =>
    have hsteps : (stripeWebhook step.env payload signature).StepsAt (OnShop (OnBooks fun b ch =>
        (Operation.stripeWebhook payload signature).Asks step.env db b ch)) ⟨db, []⟩ := by
      refine stripeWebhook_onShop fun event hverified hnew => follows_steps ?_
        (StripePaymentProvider.handleWebhookEvent_follows.mono fun _ _ h => h.mono ?_)
      · exact StripePaymentProvider.handleWebhookEvent_rollsBack
      · rintro b ch ⟨rfl, hasks⟩
        exact ⟨rfl, event, hverified, hnew, hasks⟩
    rw [Step.exec, hoperation]
    exact hsteps.void.run

/-- What a call on the shop leaves. -/
theorem Step.ends {step : Step} {call : ShopCall} (hoperation : step.operation = .call call)
    {Q : Books → Prop} {db : Database}
    (h : (call.run step.env).StepsAt (Ends Q) ⟨db.shop, []⟩) :
    (step.exec db).db.shop.books = db.shop.books ∨ Q (step.exec db).db.shop.books := by
  rw [Step.exec, hoperation]
  exact (onShop_steps (w := ⟨db, []⟩) h).run

/-! ## Runs of permitted changes -/

/-- Whatever the step may do where it stands, `C` permits. -/
def Step.Only (C : Books → Change → Prop) (db : Database) (step : Step) : Prop :=
  ∀ b ch, step.operation.Asks step.env db b ch → ch.Guard b → C b ch

/-- The same of the books that the step can come to from those that it begins with. -/
def Step.OnlyReached (C : Books → Change → Prop) (db : Database) (step : Step) : Prop :=
  ∀ b ch, Follows (fun b ch => step.operation.Asks step.env db b ch) db.shop.books b →
    step.operation.Asks step.env db b ch → ch.Guard b → C b ch

section Only

variable {C : Books → Change → Prop} {db : Database} {step : Step} {run : List Step}

theorem Step.Only.follows (h : step.Only C db) :
    Follows (fun b ch => step.operation.Asks step.env db b ch ∧ C b ch) db.shop.books
      (step.exec db).db.shop.books := by
  refine Relation.ReflTransGen.mono ?_ _ _ (step.follows db)
  rintro _ _ ⟨ch, hguard, hasks, rfl⟩
  exact .intro ch ⟨hguard, ⟨hasks, h _ ch hasks hguard⟩, rfl⟩

theorem Step.OnlyReached.follows (h : step.OnlyReached C db) :
    Follows (fun b ch => step.operation.Asks step.env db b ch ∧ C b ch) db.shop.books
      (step.exec db).db.shop.books := by
  -- every part of what the step does is permitted
  suffices hpermitted : ∀ b, Follows (fun b ch => step.operation.Asks step.env db b ch)
      db.shop.books b → Follows (fun b ch => step.operation.Asks step.env db b ch ∧ C b ch)
        db.shop.books b from hpermitted _ (step.follows db)
  intro b hreached
  induction hreached with
  | refl => exact .refl
  | tail hbefore hlast ih =>
    obtain ⟨ch, hguard, hasks, rfl⟩ := hlast
    exact ih.tail (.intro ch ⟨hguard, ⟨hasks, h _ ch hbefore hasks hguard⟩, rfl⟩)

/-- A relation along which every permitted change moves, over a run. -/
theorem Always.rel {R : Books → Books → Prop} [IsPreorder Books R] (h : Always (Step.Only C) db run)
    (hchange : ∀ b ch, Change.Guard b ch → C b ch → R b (ch.apply b)) :
    R db.shop.books (after db run).shop.books :=
  h.inv (I := fun db' => R db.shop.books db'.shop.books) (refl_of R _) fun _ _ hR hstep =>
    trans_of R hR (hstep.follows.rel fun b ch hguard hC => hchange b ch hguard hC.2)

/-- An invariant that every permitted change preserves, over a run. -/
theorem Always.inv_books {I : Books → Prop} (h : Always (Step.Only C) db run) (hdb : I db.shop.books)
    (hchange : ∀ b ch, I b → Change.Guard b ch → C b ch → I (ch.apply b)) :
    I (after db run).shop.books :=
  h.inv (I := fun db => I db.shop.books) hdb fun _ _ hI hstep =>
    hstep.follows.inv hI fun b ch hb hguard hC => hchange b ch hb hguard hC.2

end Only

end Crumbs
