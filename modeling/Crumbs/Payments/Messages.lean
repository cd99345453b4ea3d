import Crumbs.Orders.Messages
import Crumbs.Payments.Emitting
import Crumbs.Writes.Payments

/-!
# What the Messages of a Payment Operation Tell

The payment operations save a payment and then leave the order to `OrderService`. Whether one of
them raises after a message is out is decided by the change of status that comes last.

## Contents

- `markPaid_clean`, …: the payment operations that raise have sent nothing
-/

namespace Crumbs

open Crumbs.Db

namespace Emitting

open EventTx (onShop)

variable {env : EventEnv} {w : World EventDatabase EventExt} {o : OrderId} {p : PaymentId}
  {order : Order} {β : Type} (h : env.fault = none)
include h

/-! ## Statements on payments -/

/-- The payment is locked after the order. -/
theorem clean_lockPayment {f : Payment → EventTx β}
    (hf : ∀ payment, w.db.shop.payments.rows p = some payment → orderOutbox.Clean (f payment) w) :
    orderOutbox.Clean (onShop env (lockPayment p) >>= f) w := by
  refine Outbox.Clean.silent_bind ((wp_onShop h).2 (wp_lockPayment.2 ⟨fun payment hrow => ?_, ?_⟩))
  · exact ⟨⟨rfl, fun _ hm => hm⟩, hf payment hrow⟩
  · exact fun _ => ⟨rfl, fun _ hm => hm⟩

/-- A write to a payment does not raise, and is beside the orders. -/
theorem clean_updatePayment (p : PaymentId) (f : Payment → Payment) {g : Unit → EventTx β}
    (hg : ∀ w', Aside w w' → orderOutbox.Clean (g ()) w') :
    orderOutbox.Clean (onShop env (Tx.modifyDb fun shop => shop.updatePayment p f) >>= g) w :=
  clean_aside h (P := fun _ => True) ⟨trivial, rfl⟩ fun _ w' _ => hg w'

/-! ## Opening a payment -/

theorem openPayment_clean (around : Env) {provider : CheckoutProvider}
    (hreads : provider.ReadsOnly) (order : Order) (currency : String) :
    orderOutbox.Clean (openPayment env around provider o order currency) w := by
  refine clean_aside h (P := fun _ => True) ⟨trivial, rfl⟩ fun payment w₁ _ _ => ?_
  refine clean_aside h (P := fun _ => True) ?_ fun session w₂ _ _ => ?_
  · exact Tx.wp_mono (hreads order payment _) (fun _ _ hs => ⟨trivial, hs ▸ rfl⟩)
      fun _ _ _ => trivial
  refine clean_updatePayment h payment.1 _ fun w₃ _ => ?_
  refine Outbox.Clean.bind (Tx.wp_mono (wp_setPaymentStatus h o order .pendingPayment) ?_ ?_)
  · exact fun _ _ h' => ⟨h'.1, Outbox.sure_pure _⟩
  · exact fun _ _ => False.elim

theorem initiateOnline_clean (around : Env) :
    orderOutbox.Clean (initiateOnline env around o) w := by
  refine .atomic (clean_lockOrder h fun order _ => clean_check h fun _ => clean_check h fun _ => ?_)
  refine clean_aside h (P := CheckoutProvider.ReadsOnly) ?_ fun provider w₁ hreads _ => ?_
  · exact Tx.wp_mono (getOnlinePaymentProvider_reads around _)
      (fun _ _ hs => ⟨hs.2, hs.1 ▸ rfl⟩) fun _ _ _ => trivial
  refine clean_aside h (P := fun _ => True) ⟨trivial, rfl⟩ fun shop w₂ _ _ => ?_
  dsimp only
  generalize (if provider.providerName = .zarinpal
    then PaymentService.getReusableZarinpalPayment shop o else none) = existing
  cases existing with
  | some existing =>
    refine Outbox.clean_of_silent ((wp_onShop h).2 ?_)
    refine Tx.wp_bind.2 (Tx.wp_when.2 ⟨fun _ => ⟨rfl, fun _ hm => hm⟩, fun _ => ?_⟩)
    exact Tx.wp_bind.2 (Tx.wp_when.2 ⟨fun _ => ⟨rfl, fun _ hm => hm⟩, fun _ => ⟨rfl, fun _ hm => hm⟩⟩)
  | none => exact openPayment_clean h around hreads order _

/-! ## The money has arrived -/

theorem markCounterPaymentReceived_clean (expectedProvider : Provider) (actor : String)
    (hmay : ∀ order, w.db.shop.orders.rows o = some order → ∀ payment,
      w.db.shop.payments.rows p = some payment → payment.provider = expectedProvider →
        payment.order = o → order.isCounterPayment →
          order.status ≠ .awaitingPayment ∧ payment.status = .succeeded ∨
            MayFollow w.db o order .paid .preparing) :
    orderOutbox.Clean (markCounterPaymentReceived env o p expectedProvider actor) w := by
  refine .atomic (clean_lockOrder h fun order hrow => clean_lockPayment h fun payment hpayment => ?_)
  refine clean_check h fun hprovider => clean_check h fun howner => clean_check h fun hcounter => ?_
  have hmay := hmay order hrow payment hpayment (not_not.1 hprovider) (not_not.1 howner)
    (not_not.1 hcounter)
  refine .ite (fun _ => Outbox.clean_pure _) fun hnot => ?_
  have hfollow := hmay.resolve_left hnot
  have hfinalize : ∀ w', Aside w w' →
      orderOutbox.Clean (finalizeCounterPayment env o actor) w' := by
    refine fun w' haside => finalizeCounterPayment_clean h actor fun order' hrow' => ?_
    obtain rfl := Option.some.inj ((haside.row hrow).symm.trans hrow')
    exact haside.mayFollow hfollow
  refine .ite (fun _ => .ite (fun _ => Outbox.clean_pure _) fun _ => ?_) fun _ => ?_
  · exact hfinalize w ⟨⟨rfl, fun _ hm => hm⟩, rfl, fun _ _ => Iff.rfl⟩
  · exact clean_updatePayment h p _ hfinalize

theorem markPaid_clean (hmay : ∀ order, w.db.shop.orders.rows o = some order → ∀ payment,
      w.db.shop.payments.rows p = some payment → payment.status = .succeeded ∨
        orderHasSuccessfulPayment order ∨ MayFollow w.db o order .paid .paid) :
    orderOutbox.Clean (markPaid env o p) w := by
  refine .atomic (clean_lockOrder h fun order hrow => clean_lockPayment h fun payment hpayment => ?_)
  refine .ite (fun _ => Outbox.clean_pure _) fun hopen => .ite (fun _ => ?_) fun hunpaid => ?_
  · exact clean_updatePayment h p _ fun _ _ => Outbox.clean_pure _
  refine clean_updatePayment h p _ fun w' haside => Outbox.Clean.map ?_ fun _ => ()
  refine finalizeOnlinePayment_clean h fun order' hrow' => ?_
  obtain rfl := Option.some.inj ((haside.row hrow).symm.trans hrow')
  exact haside.mayFollow (((hmay order hrow payment hpayment).resolve_left hopen).resolve_left hunpaid)

/-- The payment that is settled is found without a write. -/
theorem clean_codPayment {payment : Option PaymentId} {f : Option (PaymentId × Payment) → EventTx β}
    (hf : ∀ found w', Aside w w' → orderOutbox.Clean (f found) w') :
    orderOutbox.Clean (onShop env (PaymentService.codPayment o payment) >>= f) w := by
  refine clean_aside h (P := fun _ => True) ?_ fun found w' _ => hf found w'
  cases payment with
  | none => exact Tx.wp_bind.2 ⟨trivial, rfl⟩
  | some p => exact Tx.wp_bind.2 (wp_lockPayment.2 ⟨fun _ _ => ⟨trivial, rfl⟩, fun _ => trivial⟩)

/-- It goes on only if the cash has been told of before. -/
theorem ensureCodCashFinalized_clean (payment : Option PaymentId) (actor : String) :
    orderOutbox.Clean (ensureCodCashFinalized env o payment actor) w := by
  refine .atomic (clean_lockOrder h fun order hrow => .ite (fun _ => Outbox.clean_pure _) ?_)
  intro hcash
  have hcash := not_not.1 (not_or.1 hcash).2
  refine clean_codPayment h fun found w₁ haside₁ => ?_
  cases found with
  | none => exact Outbox.clean_pure _
  | some e =>
    refine clean_aside h (P := fun _ => True) ?_ fun _ w₂ _ haside₂ => ?_
    · exact Tx.wp_when.2 ⟨fun _ => ⟨trivial, rfl⟩, fun _ => ⟨trivial, rfl⟩⟩
    · refine recordCashReceived_clean h actor fun order' hrow' => .inl ?_
      obtain rfl := Option.some.inj ((haside₂.row (haside₁.row hrow)).symm.trans hrow')
      exact hcash

/-- Nothing goes wrong either once the cash has been told of, if the order can be delivered. -/
theorem ensureCodCashFinalized_sure (hrow : w.db.shop.orders.rows o = some order)
    {payment : Payment} (hpayment : w.db.shop.payments.rows p = some payment)
    (hsettles : order.isCod → order.paymentStatus = .cashReceived →
      canTransition order.status .delivered ∧ w.db.shop.stock.CanFulfill o) (actor : String) :
    orderOutbox.Sure (ensureCodCashFinalized env o (some p) actor) w := by
  refine .atomic (sure_lockOrder h hrow (.ite (fun _ => Outbox.sure_pure _) fun hgoes => ?_))
  obtain ⟨hcod, hcash⟩ := not_or.1 hgoes
  obtain ⟨hcan, hstock⟩ := hsettles (not_not.1 hcod) (not_not.1 hcash)
  refine Outbox.Sure.bind ((wp_onShop h).2 (Tx.wp_bind.2 (wp_lockPayment.2 ⟨fun _ _ => ?_, ?_⟩)))
  · refine ⟨(aside_put rfl).silent.accounts, Outbox.Sure.bind ((wp_onShop h).2 (Tx.wp_when.2 ?_))⟩
    have hrecord : ∀ s : World Shop (List Observation), s.db.orders = w.db.shop.orders →
        s.db.stock = w.db.shop.stock →
        orderOutbox.Sure (recordCashReceived env o actor) (shopView.put s w) := fun s horders hs =>
      recordCashReceived_sure h (show s.db.orders.rows o = some order by rw [horders, hrow])
        (not_not.1 hcash) hcan (by rw [← hs] at hstock; exact hstock) actor
    exact ⟨fun _ => ⟨(aside_put rfl).silent.accounts, hrecord _ rfl rfl⟩,
      fun _ => ⟨(aside_put rfl).silent.accounts, hrecord _ rfl rfl⟩⟩
  · exact fun hnone => nomatch hpayment.symm.trans hnone

theorem markCodCashReceived_clean (actor : String)
    (hmay : ∀ order, w.db.shop.orders.rows o = some order → ∀ payment,
      w.db.shop.payments.rows p = some payment → payment.provider = .cod → payment.order = o →
        order.paymentStatus = .cashReceived ∨ ¬w.db.Announces o
          { order with paymentStatus := .cashReceived } ∨ ¬order.isCod ∨
            canTransition order.status .delivered ∧ w.db.shop.stock.CanFulfill o) :
    orderOutbox.Clean (markCodCashReceived env o p actor) w := by
  refine .atomic (clean_lockOrder h fun order hrow => clean_lockPayment h fun payment hpayment => ?_)
  refine clean_check h fun hprovider => clean_check h fun howner => ?_
  have hmay := hmay order hrow payment hpayment (not_not.1 hprovider) (not_not.1 howner)
  have hsave := wp_setPaymentStatus (w := w) h o order .cashReceived
  by_cases hcash : order.paymentStatus = .cashReceived
  · refine Outbox.Clean.silent_bind (Tx.wp_when.2 ⟨fun hnot => (hnot hcash).elim, fun _ => ?_⟩)
    exact ⟨⟨rfl, fun _ hm => hm⟩, ensureCodCashFinalized_clean h _ actor⟩
  rcases hmay.resolve_left hcash with hnews | hsettles
  · refine Outbox.Clean.silent_bind (Tx.wp_when.2 ⟨fun _ => ?_, fun hnot => (hnot hcash).elim⟩)
    refine Tx.wp_bind.2 (Tx.wp_mono hsave (fun _ w' h' => ?_) fun _ _ => False.elim)
    exact ⟨h'.2.2.2 hnews, ensureCodCashFinalized_clean h _ actor⟩
  · refine Outbox.Clean.bind (Tx.wp_when.2 ⟨fun _ => ?_, fun hnot => (hnot hcash).elim⟩)
    refine Tx.wp_bind.2 (Tx.wp_mono hsave (fun _ w' h' => ?_) fun _ _ => False.elim)
    obtain ⟨haccounts, -, hshop, -⟩ := h'
    have hpayment' : w'.db.shop.payments.rows p = some payment := by rw [hshop]; exact hpayment
    refine ⟨haccounts, ensureCodCashFinalized_sure h (rows_updateOrder hshop hrow) hpayment'
      (fun hcod _ => ?_) actor⟩
    have hboth := hsettles.resolve_left (not_not.2 hcod)
    exact ⟨hboth.1, by rw [hshop]; exact hboth.2⟩

/-! ## The money has not arrived -/

theorem markFailed_clean (message : String)
    (hmay : ∀ order, w.db.shop.orders.rows o = some order → ∀ payment,
      w.db.shop.payments.rows p = some payment → payment.status = .succeeded ∨
        order.paymentStatus.isSuccessful ∨ order.status.isClosed ∨
          MayFollow w.db o order .failed .cancelled) :
    orderOutbox.Clean (markFailed env o p message) w := by
  refine .atomic (clean_lockOrder h fun order hrow => clean_lockPayment h fun payment hpayment => ?_)
  refine .ite (fun _ => Outbox.clean_pure _) fun hopen => .ite (fun _ => Outbox.clean_pure _) ?_
  refine fun hunpaid => clean_updatePayment h p _ fun w' haside => Outbox.Clean.map ?_ fun _ => ()
  refine markPaymentFailed_clean h _ _ fun order' hrow' => ?_
  obtain rfl := Option.some.inj ((haside.row hrow).symm.trans hrow')
  exact ((hmay order hrow payment hpayment).resolve_left hopen).imp_right
    (Or.imp_right haside.mayFollow)

/-- Nothing comes after the payment status. -/
theorem markCancelled_clean (message : String) :
    orderOutbox.Clean (markCancelled env o p message) w := by
  refine .atomic (clean_lockOrder h fun order _ => clean_lockPayment h fun payment _ => ?_)
  refine .ite (fun _ => Outbox.clean_pure _) fun _ => .ite (fun _ => Outbox.clean_pure _) fun _ => ?_
  refine clean_updatePayment h p _ fun w' _ => Tx.wp_when.2 ⟨fun _ => ?_, fun _ => ?_⟩
  · refine Outbox.Clean.bind (Tx.wp_mono (wp_setPaymentStatus h o order .pendingPayment) ?_ ?_)
    · exact fun _ _ h' => ⟨h'.1, Outbox.sure_pure _⟩
    · exact fun _ _ => False.elim
  · exact Outbox.clean_of_silent (Tx.steps_pure (ε := Exn) () w')

end Emitting

end Crumbs
