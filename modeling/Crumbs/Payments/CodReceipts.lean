import Crumbs.Db.Once
import Crumbs.Inventory.Handouts
import Crumbs.Payments.CounterReceipts

/-!
# Cash at the Door

The cash of a COD order is recorded when it is handed out. Five services are nested for it, and the
last of them asks the state machine; so a call finalises the order as a whole, or it leaves
everything as it was, and after the first call that finalises it no call does anything.

## Contents

- `CodOrder`, `CodSettled`, `CodFinalized`: the order before, and what is left when all is done
- `recordCashReceived_ensures`: what becomes of order and stock
- `CodCall`, `FinalizesOnce`: the two services, as calls for one order
- `finalizesOnce_run`
-/

namespace Crumbs

open Crumbs.Db

/-! ## The order -/

/-- A COD order with one COD payment. -/
structure CodOrder (o : OrderId) (p : PaymentId) (shop : Shop) : Prop where
  order : ∃ order, shop.orders.rows o = some order ∧ order.isCod
  payment : ∃ payment, shop.payments.rows p = some payment ∧ payment.order = o ∧
    payment.provider = .cod
  only : ∀ q payment, shop.payments.rows q = some payment → payment.order = o →
    payment.provider = .cod → q = p

/-- The order has its cash, is delivered, and holds nothing any more. -/
structure CodSettled (o : OrderId) (p : PaymentId) (shop : Shop) : Prop
    extends CodOrder o p shop where
  succeeded : ∀ payment, shop.payments.rows p = some payment → payment.status = .succeeded
  delivered : ∀ order, shop.orders.rows o = some order →
    order.paymentStatus = .cashReceived ∧ order.status = .delivered
  released : ∀ i r, shop.stock.reservations.rows i = some r → r.order = some o → ¬r.isLive

/-- What the order held before has left the stock. -/
structure CodFinalized (o : OrderId) (p : PaymentId) (stock : Stock) (shop : Shop) : Prop where
  settled : CodSettled o p shop
  stockQuantity : ∀ product, (stock.inventory product).trackStock →
    (shop.stock.inventory product).stockQuantity + stock.reservedFor o product =
      (stock.inventory product).stockQuantity
  reservedQuantity : ∀ product, (stock.inventory product).trackStock →
    (shop.stock.inventory product).reservedQuantity + stock.reservedFor o product =
      (stock.inventory product).reservedQuantity

section Record

variable {w : World Shop (List Observation)} {o : OrderId} {order : Order}

/-- What the recording of the cash leaves. -/
structure CashRecorded (o : OrderId) (order : Order) (shop shop' : Shop) : Prop where
  order : shop'.orders.rows o =
    some { order with paymentStatus := .cashReceived, status := .delivered }
  payments : shop'.payments = shop.payments
  stock : shop.stock.HandsOut o shop'.stock
  released : ∀ i r, shop'.stock.reservations.rows i = some r → r.order = some o → ¬r.isLive

/-- After confirming nothing of the order is waiting to be confirmed. -/
theorem not_active_of_confirm {holds : Holds} {i : ReservationId} {r : StockReservation}
    (hrow : (Holds.confirm o holds).rows i = some r) (horder : r.order = some o) :
    r.status ≠ .active := by
  obtain ⟨r₀, -, rfl⟩ := Option.map_eq_some_iff.1 hrow
  dsimp only at horder ⊢
  split
  · exact nofun
  · next hidle =>
    rw [if_neg hidle] at horder
    exact fun hactive => hidle (decide_eq_true ⟨horder, hactive⟩)

/-- After confirming and handing out the order holds nothing. -/
theorem released_of_fulfill {holds : Holds} {i : ReservationId} {r : StockReservation}
    (hrow : (Holds.fulfill o (Holds.confirm o holds)).rows i = some r) (horder : r.order = some o) :
    ¬r.isLive := by
  obtain ⟨r₁, hrow₁, rfl⟩ := Option.map_eq_some_iff.1 hrow
  dsimp only at horder ⊢
  split
  · exact not_live_released r₁ (.inl rfl)
  · next hidle =>
    rw [if_neg hidle] at horder
    rintro (hactive | hconfirmed)
    · exact not_active_of_confirm hrow₁ horder hactive
    · exact hidle (decide_eq_true ⟨horder, hconfirmed⟩)

theorem receiveCash_eq (w : World Shop (List Observation)) (hrow : w.db.orders.rows o = some order) :
    ∃ w', OrderService.receiveCash o order w =
        (.ok { order with paymentStatus := .cashReceived }, w') ∧
      w'.db.orders.rows o = some { order with paymentStatus := .cashReceived } ∧
      w'.db.payments = w.db.payments ∧ w'.db.stock = w.db.stock := by
  by_cases hcash : order.paymentStatus = .cashReceived
  · have hsame : ({ order with paymentStatus := .cashReceived } : Order) = order := by rw [← hcash]
    exact ⟨w, (Tx.ite_of_not (not_not.2 hcash)).trans (by rw [hsame]; rfl), by rw [hsame, hrow],
      rfl, rfl⟩
  · exact ⟨_, (Tx.ite_of hcash).trans rfl, (Table.rows_modify_self ..).trans (congrArg _ hrow),
      rfl, rfl⟩

/-- What the hand-over ensures of the stock is there when the cash is recorded, and the order is
    delivered. -/
theorem recordCashReceived_of_fulfills {P : Stock → Prop} (actor : String)
    (hrow : w.db.orders.rows o = some order)
    (hfulfills : (fulfillReservations o).Ensures (fun _ w' => P w'.db)
      ⟨{ w.db.stock with reservations := w.db.confirmedHolds o }, w.ext⟩) :
    (OrderService.recordCashReceived o actor).Ensures (fun _ w' =>
      w'.db.orders.rows o =
        some { order with paymentStatus := .cashReceived, status := .delivered } ∧
      w'.db.payments = w.db.payments ∧ P w'.db.stock) w := by
  refine Tx.Ensures.atomic (Tx.wp_bind.2 (wp_lockOrder.2 ⟨fun order' hrow' => ?_, fun _ => trivial⟩))
  obtain rfl := Option.some.inj (hrow.symm.trans hrow')
  refine Tx.wp_bind.2 ((Tx.wp_iff_of_ok (onStock_confirmReservations_eq o w)).2 ?_)
  refine Tx.Ensures.bind (P := fun _ w₂ => w₂.db.orders = w.db.orders ∧
    w₂.db.payments = w.db.payments ∧ P w₂.db.stock)
    (Tx.wp_zoom.2 (Tx.wp_mono hfulfills (fun _ _ h => ⟨rfl, rfl, h⟩) fun _ _ _ => trivial))
    fun _ w₂ h₂ => ?_
  obtain ⟨horders, hpayments, hstock₂⟩ := h₂
  obtain ⟨w₃, hrun, hrow₃, hpayments₃, hstock₃⟩ := receiveCash_eq w₂ (by rw [horders, hrow])
  refine Tx.wp_bind.2 ((Tx.wp_iff_of_ok hrun).2 ?_)
  have hstock : P w₃.db.stock := hstock₃ ▸ hstock₂
  refine Tx.Ensures.ite (fun _ => ?_) fun hdelivered => ?_
  · refine (transition_ensures .delivered "Cash received on delivery" actor hrow₃).mono
      fun _ w' h => ?_
    obtain ⟨hrow', hpayments', hstock', -⟩ := h
    exact ⟨hrow', by rw [hpayments', hpayments₃, hpayments], hstock' ▸ hstock⟩
  · -- an order that is delivered already is not moved
    have hdelivered := not_not.1 hdelivered
    refine ⟨?_, by rw [hpayments₃, hpayments], hstock⟩
    rw [hrow₃, ← hdelivered]

theorem recordCashReceived_ensures (actor : String) (hl : Ledger w.db.stock)
    (hs : w.db.stock.Stocked) (hrow : w.db.orders.rows o = some order) :
    (OrderService.recordCashReceived o actor).Ensures
      (fun _ w' => CashRecorded o order w.db w'.db) w := by
  let s₁ : Stock := { w.db.stock with reservations := w.db.confirmedHolds o }
  have hconfirm : w.db.stock.HandsOut o s₁ := handsOut_confirm w.db.stock
  have hl₁ : Ledger s₁ := by
    obtain ⟨obs, hsections, -⟩ := Tx.wp_of_ok (confirmReservations_does o (stockWorld w))
      (confirmReservations_spec o (stockWorld w))
    exact (hsections.ledger hl).1
  have hs₁ : s₁.Stocked := hs
  have hfulfills := Tx.wp_and (fulfillReservations_handsOut (o := o) (w := ⟨s₁, w.ext⟩) hl₁ hs₁)
    (fulfillReservations_holds (w := ⟨s₁, w.ext⟩) o)
  refine (recordCashReceived_of_fulfills (P := fun s => s₁.HandsOut o s ∧
    s.reservations = Holds.fulfill o s₁.reservations) actor hrow
    (Tx.wp_mono hfulfills (fun _ _ h => h) fun _ _ _ => trivial)).mono fun _ w' h => ?_
  obtain ⟨hrow', hpayments, hhands, hholds⟩ := h
  refine ⟨hrow', hpayments, hconfirm.trans hhands, ?_⟩
  rw [hholds]
  exact fun i r => released_of_fulfill

end Record

/-! ## Finalising -/

section Finalize

variable {w : World Shop (List Observation)} {o : OrderId} {p : PaymentId}

/-- Only the order's status and payment status have changed, and nothing of its payment's terms. -/
theorem CodOrder.of_rows {shop shop' : Shop} (h : CodOrder o p shop)
    (horder : ∃ order, shop'.orders.rows o = some order ∧ order.isCod)
    (hpayments : shop'.payments = shop.payments) : CodOrder o p shop' where
  order := horder
  payment := hpayments ▸ h.payment
  only := hpayments ▸ h.only

/-- The payment that stands for the order is the one that it has. -/
theorem codPayment_ensures (h : CodOrder o p w.db) (payment : Option PaymentId)
    (hpayment : ∀ q ∈ payment, q = p) : (PaymentService.codPayment o payment).Ensures (fun e w' =>
      w' = w ∧ ∃ row, e = some (p, row) ∧ w.db.payments.rows p = some row) w := by
  cases payment with
  | some q =>
    obtain rfl := hpayment q rfl
    exact Tx.wp_bind.2 (wp_lockPayment.2 ⟨fun row hrow => ⟨rfl, row, rfl, hrow⟩, fun _ => trivial⟩)
  | none =>
    refine ⟨rfl, ?_⟩
    cases hnewest : newest (w.db.paymentsWhere fun p => p.order = o ∧ p.provider = .cod) with
    | none =>
      obtain ⟨row, hrow, hterms⟩ := h.payment
      have hmem : (p, row) ∈ w.db.paymentsWhere fun p => p.order = o ∧ p.provider = .cod :=
        Table.mem_filter.2 ⟨hrow, decide_eq_true hterms⟩
      obtain ⟨x, rest, hlist⟩ := List.exists_cons_of_ne_nil (List.ne_nil_of_mem hmem)
      obtain ⟨e, he⟩ := newest_isSome x rest
      rw [hlist, he] at hnewest
      exact nomatch hnewest
    | some e =>
      obtain ⟨hrow, hterms⟩ := newest_paymentsWhere hnewest
      obtain ⟨horder, hprovider⟩ := of_decide_eq_true hterms
      obtain rfl := h.only e.1 e.2 hrow horder hprovider
      exact ⟨e.2, rfl, hrow⟩

/-- The payment is made to succeed, unless it has. -/
theorem receive_eq (actor : String) (h : CodOrder o p w.db) {row : Payment}
    (hrow : w.db.payments.rows p = some row) :
    ∃ w', Tx.when (row.status ≠ .succeeded) (Tx.modifyDb fun shop => shop.updatePayment p
        (PaymentService.received · "cash_received_event" "cod_cash_finalized" "cash_received_actor"
          actor)) w = ((.ok (), w') : Except Exn Unit × World Shop (List Observation)) ∧
      w'.db.orders = w.db.orders ∧ w'.db.stock = w.db.stock ∧ CodOrder o p w'.db ∧
      ∀ payment, w'.db.payments.rows p = some payment → payment.status = .succeeded := by
  by_cases hsucceeded : row.status = .succeeded
  · refine ⟨w, Tx.when_of_not (not_not.2 hsucceeded), rfl, rfl, h, fun payment hpay => ?_⟩
    obtain rfl := Option.some.inj (hrow.symm.trans hpay)
    exact hsucceeded
  · let received : Payment → Payment := fun payment => PaymentService.received payment
      "cash_received_event" "cod_cash_finalized" "cash_received_actor" actor
    have hself : (w.db.payments.modify p received).rows p = some (received row) :=
      (Table.rows_modify_self ..).trans (congrArg _ hrow)
    obtain ⟨row', hrow', horder, hprovider⟩ := h.payment
    obtain rfl := Option.some.inj (hrow.symm.trans hrow')
    refine ⟨{ w with db := w.db.updatePayment p received }, Tx.ite_of hsucceeded, rfl, rfl,
      ⟨h.order, ⟨received row, hself, horder, hprovider⟩, fun q payment hpay => ?_⟩,
      fun payment hpay => ?_⟩
    · by_cases hq : q = p
      · exact fun _ _ => hq
      · exact h.only q payment ((Table.rows_modify_ne _ _ hq).symm.trans hpay)
    · obtain rfl := Option.some.inj (hself.symm.trans hpay)
      rfl

theorem ensureCodCashFinalized_ensures (actor : String) (h : CodOrder o p w.db)
    (hl : Ledger w.db.stock) (hs : w.db.stock.Stocked) (payment : Option PaymentId)
    (hpayment : ∀ q ∈ payment, q = p) :
    (PaymentService.ensureCodCashFinalized o payment actor).Ensures (fun _ w' =>
      (w'.db = w.db ∧ ∀ order, w.db.orders.rows o = some order →
        order.paymentStatus ≠ .cashReceived) ∨ CodFinalized o p w.db.stock w'.db) w := by
  refine Tx.Ensures.atomic (Tx.wp_bind.2 (wp_lockOrder.2 ⟨fun order hrow => ?_, fun _ => trivial⟩))
  obtain ⟨order', hrow', hcod⟩ := h.order
  obtain rfl := Option.some.inj (hrow.symm.trans hrow')
  refine Tx.Ensures.ite (fun hnot => .inl ⟨rfl, fun order' hrow' => ?_⟩) fun hcash => ?_
  · obtain rfl := Option.some.inj (hrow.symm.trans hrow')
    exact hnot.resolve_left (not_not.2 hcod)
  refine Tx.Ensures.bind (codPayment_ensures h payment hpayment) ?_
  rintro _ _ ⟨rfl, row, rfl, hpay⟩
  obtain ⟨w₁, hreceive, horders, hstock, hcod₁, hsucceeded⟩ := receive_eq actor h hpay
  refine Tx.wp_bind.2 ((Tx.wp_iff_of_ok hreceive).2 ?_)
  refine (recordCashReceived_ensures (w := w₁) actor (hstock ▸ hl) (hstock ▸ hs)
    (horders ▸ hrow)).mono fun _ w' hrecorded => .inr ?_
  have hreserved := Stock.reservedFor_eq_zero hrecorded.released
  have hhands := hstock ▸ hrecorded.stock
  refine ⟨⟨hcod₁.of_rows ⟨_, hrecorded.order, hcod⟩ hrecorded.payments, ?_, fun order' hrow' => ?_,
    hrecorded.released⟩, fun product ht => ?_, fun product ht => ?_⟩
  · rwa [hrecorded.payments]
  · obtain rfl := Option.some.inj (hrecorded.order.symm.trans hrow')
    exact ⟨rfl, rfl⟩
  · have hfall := hhands.stock product ht
    rwa [hreserved, Nat.add_zero] at hfall
  · have hfall := hhands.reserved product ht
    rwa [hreserved, Nat.add_zero] at hfall

/-- A call that returns has finalised the order. -/
theorem markCodCashReceived_ensures (actor : String) (h : CodOrder o p w.db)
    (hl : Ledger w.db.stock) (hs : w.db.stock.Stocked) (q : PaymentId) :
    (PaymentService.markCodCashReceived o q actor).Ensures (fun _ w' =>
      CodFinalized o p w.db.stock w'.db) w := by
  refine Tx.Ensures.atomic (Tx.wp_bind.2 (wp_lockOrder.2 ⟨fun order hrow => ?_, fun _ => trivial⟩))
  refine Tx.wp_bind.2 (wp_lockPayment.2 ⟨fun payment hpay => ?_, fun _ => trivial⟩)
  refine Tx.ensures_check fun hprovider => Tx.ensures_check fun horder => ?_
  obtain rfl := h.only q payment hpay (not_not.1 horder) (not_not.1 hprovider)
  obtain ⟨order', hrow', hcod⟩ := h.order
  obtain rfl := Option.some.inj (hrow.symm.trans hrow')
  have hnote : ∃ w₁, (Tx.when (order.paymentStatus ≠ .cashReceived) do
      let _ ← setPaymentStatus o order .cashReceived) w =
        ((.ok (), w₁) : Except Exn Unit × World Shop (List Observation)) ∧
      w₁.db.orders.rows o = some { order with paymentStatus := .cashReceived } ∧
      w₁.db.payments = w.db.payments ∧ w₁.db.stock = w.db.stock := by
    by_cases hcash : order.paymentStatus = .cashReceived
    · exact ⟨w, Tx.when_of_not (not_not.2 hcash), by rw [hrow, ← hcash], rfl, rfl⟩
    · exact ⟨_, (Tx.ite_of hcash).trans rfl, (Table.rows_modify_self ..).trans (congrArg _ hrow),
        rfl, rfl⟩
  obtain ⟨w₁, hrun, hrow₁, hpayments, hstock⟩ := hnote
  refine Tx.wp_bind.2 ((Tx.wp_iff_of_ok hrun).2 ?_)
  refine (ensureCodCashFinalized_ensures (w := w₁) actor (h.of_rows ⟨_, hrow₁, hcod⟩ hpayments)
    (hstock ▸ hl) (hstock ▸ hs) (some q) fun _ hq => (Option.some.inj hq).symm).mono fun _ w' hdone => ?_
  rcases hdone with ⟨-, hcash⟩ | hfinal
  · exact (hcash _ hrow₁ rfl).elim
  · rwa [hstock] at hfinal

/-- There is nothing left to do. -/
theorem recordCashReceived_settled {order : Order} (actor : String)
    (hrow : w.db.orders.rows o = some order) (hcash : order.paymentStatus = .cashReceived)
    (hdelivered : order.status = .delivered)
    (hreleased : ∀ i r, w.db.stock.reservations.rows i = some r → r.order = some o → ¬r.isLive) :
    OrderService.recordCashReceived o actor w = (.ok order, w) := by
  have hconfirm : ShopTx.onStock (confirmReservations o) w = (.ok (), w) := by
    rw [onStock_confirmReservations_eq, Shop.confirmedHolds, confirm_of_released hreleased]
  have hfulfill : ShopTx.onStock (fulfillReservations o) w = (.ok (), w) :=
    Tx.zoom_apply (fulfillReservations_released (w := stockWorld w) hreleased)
  refine Tx.atomic_of_ok ((Tx.bind_of_ok (lockOrder_of_some hrow)).trans ?_)
  refine (Tx.bind_of_ok hconfirm).trans ((Tx.bind_of_ok hfulfill).trans ?_)
  have hreceive : OrderService.receiveCash o order w = (.ok order, w) :=
    Tx.ite_of_not (not_not.2 hcash)
  exact (Tx.bind_of_ok hreceive).trans (Tx.ite_of_not (not_not.2 hdelivered))

theorem ensureCodCashFinalized_settled (actor : String) (h : CodSettled o p w.db)
    (payment : Option PaymentId) (hpayment : ∀ q ∈ payment, q = p) :
    (PaymentService.ensureCodCashFinalized o payment actor).Ensures (fun _ w' => w'.db = w.db) w := by
  refine Tx.Ensures.atomic (Tx.wp_bind.2 (wp_lockOrder.2 ⟨fun order hrow => ?_, fun _ => trivial⟩))
  obtain ⟨hcash, hdelivered⟩ := h.delivered order hrow
  refine Tx.Ensures.ite (fun _ => rfl) fun _ => ?_
  refine Tx.Ensures.bind (codPayment_ensures h.toCodOrder payment hpayment) ?_
  rintro _ _ ⟨rfl, row, rfl, hpay⟩
  refine Tx.wp_bind.2 ((Tx.wp_iff_of_ok
    (Tx.when_of_not (not_not.2 (h.succeeded row hpay)))).2 ?_)
  exact (Tx.wp_iff_of_ok
    (recordCashReceived_settled actor hrow hcash hdelivered h.released)).2 rfl

theorem markCodCashReceived_settled (actor : String) (h : CodSettled o p w.db) (q : PaymentId) :
    (PaymentService.markCodCashReceived o q actor).Ensures (fun _ w' => w'.db = w.db) w := by
  refine Tx.Ensures.atomic (Tx.wp_bind.2 (wp_lockOrder.2 ⟨fun order hrow => ?_, fun _ => trivial⟩))
  refine Tx.wp_bind.2 (wp_lockPayment.2 ⟨fun payment hpay => ?_, fun _ => trivial⟩)
  refine Tx.ensures_check fun hprovider => Tx.ensures_check fun horder => ?_
  obtain rfl := h.only q payment hpay (not_not.1 horder) (not_not.1 hprovider)
  refine Tx.wp_bind.2 ((Tx.wp_iff_of_ok
    (Tx.when_of_not (not_not.2 (h.delivered order hrow).1))).2 ?_)
  exact ensureCodCashFinalized_settled actor h (some q) fun _ hq => (Option.some.inj hq).symm

end Finalize

/-! ## The calls -/

/-- `mark_cod_cash_received` and `ensure_cod_cash_finalized`, called for a COD order; the second one
    with the order's payment, or without any. -/
inductive CodCall where
  | markCodCashReceived (payment : PaymentId) (actor : String)
  | ensureCodCashFinalized (named : Bool) (actor : String)

namespace CodCall

/-- The code that a call runs for the order `o` with the payment `p`. -/
def run (o : OrderId) (p : PaymentId) : CodCall → ShopTx Order
  | markCodCashReceived payment actor => PaymentService.markCodCashReceived o payment actor
  | ensureCodCashFinalized named actor =>
    PaymentService.ensureCodCashFinalized o (if named then some p else none) actor

/-- The shop that a call leaves. -/
def exec (o : OrderId) (p : PaymentId) (call : CodCall) (shop : Shop) : Shop :=
  (call.run o p ⟨shop, []⟩).2.db

def Raises (o : OrderId) (p : PaymentId) (call : CodCall) (shop : Shop) : Prop :=
  ∃ e, (call.run o p ⟨shop, []⟩).1 = .error e

/-- The call is one of `mark_cod_cash_received`. -/
def IsMark : CodCall → Prop
  | markCodCashReceived .. => True
  | ensureCodCashFinalized .. => False

variable {o : OrderId} {p : PaymentId} {call : CodCall} {shop : Shop}

theorem rollsBack (o : OrderId) (p : PaymentId) (call : CodCall) : (call.run o p).RollsBack := by
  cases call <;> exact Tx.rollsBack_atomic _

theorem exec_of_raises (h : call.Raises o p shop) : call.exec o p shop = shop := by
  obtain ⟨e, he⟩ := h
  exact (rollsBack o p call).run (Prod.ext he rfl)

/-- A call that returns leaves what all returning runs leave. -/
theorem exec_of_ensures {Q : Shop → Prop} (hreturns : ¬call.Raises o p shop)
    (h : (call.run o p).Ensures (fun _ w' => Q w'.db) ⟨shop, []⟩) : Q (call.exec o p shop) := by
  rcases hrun : call.run o p ⟨shop, []⟩ with ⟨e | order, w'⟩
  · exact (hreturns ⟨e, congrArg Prod.fst hrun⟩).elim
  · have hexec : call.exec o p shop = w'.db := congrArg (·.2.db) hrun
    rw [hexec]
    exact h.of_ok hrun

/-- The payment that `ensure_cod_cash_finalized` is given, if any, is that of the order. -/
theorem eq_of_mem_named (named : Bool) : ∀ q ∈ (if named then some p else none), q = p := by
  cases named
  · exact nofun
  · exact fun _ hq => (Option.some.inj hq).symm

/-- A call that returns has finalised the order, if it is to mark its cash or has any effect. -/
theorem exec_finalized (h : CodOrder o p shop) (hl : Ledger shop.stock) (hs : shop.stock.Stocked)
    (hreturns : ¬call.Raises o p shop) (hdone : call.IsMark ∨ call.exec o p shop ≠ shop) :
    CodFinalized o p shop.stock (call.exec o p shop) := by
  cases call with
  | markCodCashReceived payment actor =>
    exact exec_of_ensures hreturns (markCodCashReceived_ensures actor h hl hs payment)
  | ensureCodCashFinalized named actor =>
    have hspec : CodCall.exec o p (.ensureCodCashFinalized named actor) shop = shop ∨
        CodFinalized o p shop.stock (CodCall.exec o p (.ensureCodCashFinalized named actor) shop) :=
      exec_of_ensures (Q := fun shop' => shop' = shop ∨ CodFinalized o p shop.stock shop') hreturns
        ((ensureCodCashFinalized_ensures (w := ⟨shop, []⟩) actor h hl hs _
          (eq_of_mem_named named)).mono fun _ _ hor => hor.imp_left And.left)
    exact hspec.resolve_left (hdone.resolve_left id)

theorem exec_settled (h : CodSettled o p shop) : call.exec o p shop = shop := by
  by_cases hraises : call.Raises o p shop
  · exact exec_of_raises hraises
  refine exec_of_ensures (Q := (· = shop)) hraises ?_
  cases call with
  | markCodCashReceived payment actor =>
    exact markCodCashReceived_settled (w := ⟨shop, []⟩) actor h payment
  | ensureCodCashFinalized named actor =>
    exact ensureCodCashFinalized_settled (w := ⟨shop, []⟩) actor h _ (eq_of_mem_named named)

end CodCall

/-- The calls finalise the order once: a call that raises leaves the shop as it was; one that
    returns, if it is to mark the cash or has any effect, finalises the order, and no later call does
    anything. -/
def FinalizesOnce (o : OrderId) (p : PaymentId) (calls : List CodCall) (shop : Shop) : Prop :=
  ∀ earlier call later, calls = earlier ++ call :: later →
    let before := runCallsOn (CodCall.exec o p) earlier shop
    (call.Raises o p before → call.exec o p before = before) ∧
      (¬call.Raises o p before → call.IsMark ∨ call.exec o p before ≠ before →
        CodFinalized o p before.stock (call.exec o p before) ∧
          ∀ mid call' rest, later = mid ++ call' :: rest →
            let found := runCallsOn (CodCall.exec o p) (call :: mid) before
            call'.exec o p found = found)

/-- Before the order is finalised nothing has changed. -/
theorem codCalls_countOnce {o : OrderId} {p : PaymentId} {shop : Shop} (h : CodOrder o p shop)
    (hl : Ledger shop.stock) (hs : shop.stock.Stocked) :
    CountsOnce (CodCall.exec o p) (fun _ => ()) (fun s => s = shop ∨ CodSettled o p s)
      (fun _ => CodSettled o p) := by
  have hsettles : ∀ {c : CodCall} {s}, s = shop ∨ CodSettled o p s →
      c.exec o p s = s ∨ CodSettled o p (c.exec o p s) := by
    intro c s hs₀
    rcases hs₀ with rfl | hsettled
    · by_cases hsame : c.exec o p s = s
      · exact .inl hsame
      · have hreturns : ¬c.Raises o p s := fun hraises => hsame (CodCall.exec_of_raises hraises)
        exact .inr (CodCall.exec_finalized h hl hs hreturns (.inr hsame)).settled
    · exact .inl (CodCall.exec_settled hsettled)
  refine ⟨fun {c s} hfits => ?_, hsettles, fun _ hsettled => CodCall.exec_settled hsettled,
    fun _ hsettled => (CodCall.exec_settled hsettled).symm ▸ hsettled⟩
  rcases hsettles (c := c) hfits with hsame | hsettled
  · rwa [hsame]
  · exact .inr hsettled

/-- An order that is settled holds nothing, and stays as it is. -/
theorem CodSettled.finalized {o : OrderId} {p : PaymentId} {shop : Shop} (h : CodSettled o p shop) :
    CodFinalized o p shop.stock shop := by
  have hreserved := Stock.reservedFor_eq_zero h.released
  exact ⟨h, fun product _ => by rw [hreserved, Nat.add_zero],
    fun product _ => by rw [hreserved, Nat.add_zero]⟩

/-- The cash of a COD order with one COD payment is finalised once, and what leaves the stock is what
    was reserved for the order, if the counters are the sums over the live reservations and no more
    is reserved than there is. -/
theorem finalizesOnce_run (o : OrderId) (p : PaymentId) (calls : List CodCall) (shop : Shop)
    (h : CodOrder o p shop) (hl : Ledger shop.stock) (hs : shop.stock.Stocked) :
    FinalizesOnce o p calls shop := by
  have hcount := codCalls_countOnce h hl hs
  intro earlier call later _ before
  have hbefore : before = shop ∨ CodSettled o p before := hcount.fits_run (.inl rfl) earlier
  refine ⟨CodCall.exec_of_raises, fun hreturns hdone => ?_⟩
  have hfinal : CodFinalized o p before.stock (call.exec o p before) := by
    rcases hbefore with hsame | hsettled
    · rw [hsame] at hreturns hdone ⊢
      exact CodCall.exec_finalized h hl hs hreturns hdone
    · rw [CodCall.exec_settled hsettled]
      exact hsettled.finalized
  exact ⟨hfinal, fun mid call' rest _ =>
    hcount.settled_noop (.inr hfinal.settled) hfinal.settled mid⟩

/-- Three loaves, and today's capacity. -/
def doorstepStock : Stock where
  products _ := { name := "Loaf", price := 200000, availabilityStatus := .available }
  inventories p := if p = 0 then some { stockQuantity := 3 } else none
  capacities p d := if p = 0 ∧ d = 0 then some { maxUnits := 50 } else none

/-- One of them is on its way to the door. -/
def doorstepHold : StockReservation :=
  { product := 0, order := some 0, cart := none, quantity := 1, productionDate := 0,
    status := .active, expiresAt := none }

def doorstep : Shop where
  stock := doorstepStock.hold doorstepHold
  orders := Table.empty.insert
    { cornerOrder with paymentMethod := .cod, paymentStatus := .codConfirmed,
                       status := .outForDelivery }
  payments := Table.empty.insert { cornerPayment with provider := .cod, status := .pending }

theorem doorstep_codOrder : CodOrder 0 0 doorstep where
  order := ⟨_, rfl, by decide⟩
  payment := ⟨_, rfl, rfl, rfl⟩
  only q payment hpay _ _ := Nat.lt_one_iff.1 (Table.lt_next hpay)

theorem doorstepStock_inventory (p : ProductId) : (doorstepStock.inventory p).reservedQuantity = 0 := by
  by_cases hp : p = 0 <;> simp [doorstepStock, Stock.inventory, hp]

theorem doorstep_ledger : Ledger doorstep.stock := by
  have hl : Ledger doorstepStock := by
    refine ⟨fun p _ => doorstepStock_inventory p, fun p d => ?_⟩
    by_cases h : p = 0 ∧ d = 0 <;> simp [UnitsLedger, Stock.reservedUnits, doorstepStock, h]
  have hcap : doorstepStock.capacities 0 0 = some { maxUnits := 50 } := rfl
  exact hl.hold (.inl rfl) (by decide) hcap

theorem doorstep_stocked : doorstep.stock.Stocked := by
  intro p _
  rw [show doorstep.stock = doorstepStock.hold doorstepHold from rfl, inventory_hold (by decide)]
  split
  · next h =>
    rw [h.1]
    decide
  · rw [doorstepStock_inventory]
    exact Nat.zero_le _

/-- The courier reports the cash twice, and the office checks. -/
theorem finalizesOnce_run_doorstep : FinalizesOnce 0 0 [.ensureCodCashFinalized false "office",
    .markCodCashReceived 0 "courier", .markCodCashReceived 0 "courier",
    .ensureCodCashFinalized true "office"] doorstep :=
  finalizesOnce_run 0 0 _ doorstep doorstep_codOrder doorstep_ledger doorstep_stocked

end Crumbs
