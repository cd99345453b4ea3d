import Crumbs.Lifecycle.Orders
import Crumbs.Writes.Payments

/-!
# What the Payment Services Do to the Books

## Contents

- `Opened`: what an initiation hands back
- `initiateOnline_yields`, `initiateCod_yields`, `initiateCounterPayment_yields`
- `markPaid_made`, `markFailed_made`, `markCancelled_made`: what becomes of an online payment
- `markCounterPaymentReceived_follows`, `markCodCashReceived_follows`: money that is taken in hand
- `cleanupStaleOnlinePayment_follows`: the cleanup task
-/

namespace Crumbs

open Crumbs.Db

variable {α : Type} {b : Books} {env : Env}

/-! ## Opening a payment -/

/-- The payment that an initiation hands back instead of opening one. -/
def PaymentService.handedBack (env : Env) (shop : Shop) (o : OrderId) :
    Option (PaymentId × Payment) :=
  if env.settings.defaultPaymentProvider = "zarinpal" then getReusableZarinpalPayment shop o
  else none

/-- An online payment that was open, or one that is opened now. -/
def Opened (env : Env) (o : OrderId) (b : Books) (e : PaymentId × Payment) (b' : Books) : Prop :=
  (b' = b ∧ b.payments.rows e.1 = some e.2 ∧ e.2.order = o ∧ e.2.IsOpenOnline) ∨
    ((∀ shop : Shop, shop.books = b → PaymentService.handedBack env shop o = none) ∧
      e.2.order = o ∧ (Change.openOnline e.2).Guard b ∧ b' = (Change.openOnline e.2).apply b)

theorem yields_of_reads {x : ShopTx α} (h : x.Steps Eq) :
    x.Yields Shop.books b fun _ b' => b' = b := by
  rintro w rfl
  exact Tx.wp_mono (h w) (fun _ _ hw => by rw [hw]) fun _ _ _ => trivial

theorem getOnlinePaymentProvider_yields : (getOnlinePaymentProvider env).Yields Shop.books b
    fun provider b' => b' = b ∧ provider.ReadsOnly ∧ provider.providerName.isOnline ∧
      (provider.providerName = .zarinpal ↔ env.settings.defaultPaymentProvider = "zarinpal") := by
  refine .ite (fun hzarinpal => ?_) fun hzarinpal => .ite (fun hstripe => ?_) fun _ =>
    Tx.yields_raise _
  · refine Tx.yields_check fun _ => Tx.yields_pure ⟨rfl, zarinpal_reads env, .inl rfl, ?_⟩
    exact iff_of_true rfl hzarinpal
  · refine Tx.yields_check fun _ => Tx.Yields.bind (P := fun _ b' => b' = b) ?_ ?_
    · exact Tx.yields_check fun _ => Tx.Yields.last (Tx.yields_check fun _ => Tx.yields_pure rfl)
    · rintro _ _ rfl
      exact Tx.yields_pure ⟨rfl, stripe_reads env, .inr rfl, iff_of_false nofun hzarinpal⟩

namespace PaymentService

variable {o : OrderId} {p : PaymentId} {actor message : String}

theorem getReusableZarinpalPayment_eq_some {shop : Shop} {e : PaymentId × Payment}
    (h : getReusableZarinpalPayment shop o = some e) :
    shop.payments.rows e.1 = some e.2 ∧ e.2.order = o ∧ e.2.IsOpenOnline := by
  obtain ⟨hnewest, -⟩ := Option.filter_eq_some_iff.1 h
  obtain ⟨hrow, hmatches⟩ := newest_paymentsWhere hnewest
  obtain ⟨horder, hprovider, hstatus, -, -⟩ := of_decide_eq_true hmatches
  exact ⟨hrow, horder, .inl hprovider, hstatus⟩

theorem createPayment_yields {payment : Payment} :
    (createPayment payment).Yields Shop.books b fun e b' => e = (b.payments.next, payment) ∧
      b' = { b with payments := b.payments.insert payment } := by
  refine Tx.yields_getDb fun shop hshop => Tx.yields_write
    (g := fun b => { b with payments := b.payments.insert payment }) (fun _ => rfl)
    (Tx.yields_pure ⟨?_, rfl⟩)
  rw [← hshop]
  rfl

theorem openPayment_yields {provider : CheckoutProvider} {order : Order} {currency : String}
    (hprovider : provider.ReadsOnly) (honline : provider.providerName.isOnline)
    (hrow : b.orders.rows o = some order) (hunpaid : ¬order.paymentStatus.isSuccessful) :
    (openPayment env provider o order currency).Yields Shop.books b fun e b' =>
      e.2.order = o ∧ (Change.openOnline e.2).Guard b ∧ b' = (Change.openOnline e.2).apply b := by
  refine createPayment_yields.bind ?_
  rintro _ _ ⟨rfl, rfl⟩
  refine (yields_of_reads (hprovider order _)).bind ?_
  rintro session _ rfl
  refine yields_updatePayment (yields_setPaymentStatus (Tx.yields_pure ⟨rfl, ?_, ?_⟩))
  · exact ⟨⟨honline, rfl⟩, order, hrow, hunpaid⟩
  · simp only [Books.updatePayment, Table.modify_insert_self]
    rfl

theorem initiateOnline_yields : (initiateOnline env o).Yields Shop.books b (Opened env o b) := by
  refine .atomic (yields_lockOrder fun order hrow => Tx.yields_check fun hunpaid =>
    Tx.yields_check fun _ => getOnlinePaymentProvider_yields.bind ?_)
  rintro provider _ ⟨rfl, hreads, honline, hzarinpal⟩
  refine Tx.yields_getDb fun shop hshop => ?_
  have hexisting : (if provider.providerName = .zarinpal then getReusableZarinpalPayment shop o
      else none) = handedBack env shop o := by
    rw [handedBack]
    exact if_congr hzarinpal rfl rfl
  rw [hexisting]
  cases hback : handedBack env shop o with
  | none =>
    refine (openPayment_yields hreads honline hrow hunpaid).mono fun e b' h => .inr ⟨?_, h⟩
    intro shop' hshop'
    have hpayments : shop'.payments = shop.payments :=
      congrArg Books.payments (hshop'.trans hshop.symm)
    rw [← hback, handedBack, handedBack, getReusableZarinpalPayment, getReusableZarinpalPayment,
      Shop.paymentsWhere, Shop.paymentsWhere, hpayments]
  | some e =>
    have hreused : getReusableZarinpalPayment shop o = some e := by
      rw [handedBack] at hback
      split at hback
      · exact hback
      · exact nomatch hback
    obtain ⟨hpay, horder, hopen⟩ := getReusableZarinpalPayment_eq_some hreused
    refine Tx.yields_check fun _ => Tx.yields_check fun _ =>
      Tx.yields_pure (.inl ⟨rfl, ?_, horder, hopen⟩)
    rw [← hshop]
    exact hpay

theorem initiateCod_yields {order : Order} : (initiateCod env o order).Yields Shop.books b
    fun _ b' => ∃ payment, payment.order = o ∧ payment.provider = .cod ∧
      Made [.openOffline payment] b b' := by
  refine .atomic (Tx.yields_check fun _ => createPayment_yields.mono ?_)
  rintro _ _ ⟨rfl, rfl⟩
  exact ⟨_, rfl, rfl, .single ⟨show ¬Provider.cod.isOnline by decide, rfl⟩ rfl⟩

theorem counterProvider_yields {paymentMethod : PaymentMethod} :
    (counterProvider paymentMethod).Yields Shop.books b fun provider b' =>
      b' = b ∧ ¬provider.isOnline := by
  cases paymentMethod with
  | cash => exact Tx.yields_pure ⟨rfl, by decide⟩
  | counterCard => exact Tx.yields_pure ⟨rfl, by decide⟩
  | cod => exact Tx.yields_raise _
  | online => exact Tx.yields_raise _

/-- A payment at the counter that is not cancelled is handed back, or one is opened. -/
theorem initiateCounterPayment_yields {order : Order} {paymentMethod : PaymentMethod} :
    (initiateCounterPayment env o order paymentMethod).Yields Shop.books b fun e b' =>
      (b' = b ∧ b.payments.rows e.1 = some e.2 ∧ e.2.order = o ∧ ¬e.2.provider.isOnline ∧
          e.2.status ≠ .cancelled) ∨
        (e.2.order = o ∧ e.2.IsOpenOffline ∧ b' = (Change.openOffline e.2).apply b) := by
  refine .atomic (Tx.yields_check fun _ => Tx.yields_check fun _ => counterProvider_yields.bind ?_)
  rintro provider _ ⟨rfl, hoffline⟩
  refine Tx.yields_getDb fun shop hshop => ?_
  dsimp only
  split
  next e hexisting =>
    obtain ⟨hrow, hmatches⟩ := newest_paymentsWhere hexisting
    obtain ⟨horder, hprovider, hstatus⟩ := of_decide_eq_true hmatches
    refine Tx.yields_pure (.inl ⟨rfl, ?_, horder, ?_, hstatus⟩)
    · rw [← hshop]
      exact hrow
    · rwa [hprovider]
  next =>
    refine createPayment_yields.mono ?_
    rintro _ _ ⟨rfl, rfl⟩
    exact .inr ⟨rfl, ⟨hoffline, rfl⟩, rfl⟩

/-! ## The money of an online payment -/

/-- The payment is there, with its money. -/
def IsSettled (b : Books) (p : PaymentId) : Prop :=
  b.PaymentIs p fun payment => payment.status = .succeeded

/-- Nothing happens if the payment has succeeded already. -/
theorem markPaid_made : (markPaid o p).Yields Shop.books b fun _ b' =>
    (b' = b ∧ IsSettled b p) ∨
      ((Change.captureAgain o p).Guard b ∧ b' = (Change.captureAgain o p).apply b) ∨
        ((Change.capture o p Payment.succeed).Guard b ∧
          b' = (Change.capture o p Payment.succeed).apply b) := by
  refine .atomic (yields_lockOrder fun order hrow => yields_lockPayment fun payment hpay => ?_)
  refine .ite (fun hsettled => ?_) fun hunsettled => .ite (fun hpaid => ?_) fun hunpaid => ?_
  · exact Tx.yields_pure (.inl ⟨rfl, payment, hpay, hsettled⟩)
  · exact yields_updatePayment (Tx.yields_pure
      (.inr (.inl ⟨⟨⟨payment, hpay, hunsettled⟩, order, hrow, hpaid⟩, rfl⟩)))
  · refine yields_updatePayment (OrderService.finalizeOnlinePayment_made.bind ?_)
    rintro _ _ (⟨-, order', hrow', hpaid', -⟩ | ⟨⟨order', hrow', -, hpayable⟩, rfl⟩)
    · obtain rfl := Option.some.inj (hrow.symm.trans hrow')
      exact (hunpaid (.inl hpaid')).elim
    · obtain rfl := Option.some.inj (hrow.symm.trans hrow')
      refine Tx.yields_pure (.inr (.inr ⟨⟨⟨payment, hpay, hunsettled⟩,
        Payment.becomes_succeed, order, hrow, hunpaid, hpayable⟩, rfl⟩))

/-- Nothing happens if the payment has succeeded or the order is paid. -/
theorem markFailed_made : (markFailed o p message).Yields Shop.books b fun _ b' =>
    (b' = b ∧ (IsSettled b p ∨ b.OrderIs o fun order => order.paymentStatus.isSuccessful)) ∨
      ((Change.fail o p (·.fail message)).Guard b ∧
          b' = (Change.fail o p (·.fail message)).apply b) ∨
        ((Change.failLate o p (·.fail message)).Guard b ∧
          b' = (Change.failLate o p (·.fail message)).apply b) := by
  have hfail : Payment.Becomes .failed (·.fail message) := fun _ => ⟨⟨rfl, rfl, rfl, rfl⟩, rfl⟩
  refine .atomic (yields_lockOrder fun order hrow => yields_lockPayment fun payment hpay => ?_)
  refine .ite (fun hsettled => ?_) fun hunsettled => .ite (fun hpaid => ?_) fun hunpaid => ?_
  · exact Tx.yields_pure (.inl ⟨rfl, .inl ⟨payment, hpay, hsettled⟩⟩)
  · exact Tx.yields_pure (.inl ⟨rfl, .inr ⟨order, hrow, hpaid⟩⟩)
  · refine yields_updatePayment (OrderService.markPaymentFailed_made.bind ?_)
    rintro _ _ (⟨rfl, order', hrow', hdone⟩ | ⟨⟨order', hrow', -, hopen⟩, rfl⟩) <;>
      obtain rfl := Option.some.inj (hrow.symm.trans hrow')
    · exact Tx.yields_pure (.inr (.inr ⟨⟨⟨payment, hpay, hunsettled⟩, hfail, order, hrow,
        hunpaid, hdone.resolve_left hunpaid⟩, rfl⟩))
    · exact Tx.yields_pure (.inr (.inl ⟨⟨⟨payment, hpay, hunsettled⟩, hfail, order, hrow,
        hunpaid, hopen⟩, rfl⟩))

/-- Nothing happens if the payment has succeeded or the order is paid. -/
theorem markCancelled_made : (markCancelled o p message).Yields Shop.books b fun _ b' =>
    ∃ f, Made [.cancelPayment o p f] b b' := by
  refine .atomic (yields_lockOrder fun order hrow => yields_lockPayment fun payment hpay => ?_)
  refine .ite (fun _ => ?_) fun hunsettled => .ite (fun _ => ?_) fun hunpaid => ?_
  · exact Tx.yields_pure ⟨id, .refl _ _⟩
  · exact Tx.yields_pure ⟨id, .refl _ _⟩
  refine yields_updatePayment (.when (fun _ => ?_) fun hpaid => (hpaid hunpaid).elim)
  refine yields_setPaymentStatus (Tx.yields_pure ⟨_, .single ⟨⟨payment, hpay, hunsettled⟩, ?_,
    order, hrow, hunpaid⟩ rfl⟩)
  exact fun _ => ⟨⟨rfl, rfl, rfl, rfl⟩, rfl⟩

/-! ## Money that is taken in hand -/

/-- What a payment at the counter, begun on the books `b₀`, may do. -/
def CounterAsks (o : OrderId) (p : PaymentId) (provider : Provider) (b₀ b : Books) : Change → Prop
  | .settle q _ => b = b₀ ∧ q = p ∧
      (b.PaymentIs p fun payment => payment.order = o ∧ payment.provider = provider) ∧
        b.OrderIs o fun order => order.isCounterPayment ∧
          (order.paymentStatus = .paid ∧ order.status = .preparing ∨
            canTransition order.status .preparing)
  | .payAtCounter o' => o' = o ∧ b.OrderIs o Order.isCounterPayment ∧
      (b = b₀ ∨ ∃ f, b = b₀.updatePayment p f)
  | _ => False

theorem becomes_received (eventKey event actorKey actor : String) :
    Payment.Becomes .succeeded (received · eventKey event actorKey actor) := fun _ =>
  ⟨⟨rfl, rfl, rfl, rfl⟩, rfl⟩

theorem markCounterPaymentReceived_follows {provider : Provider} :
    (markCounterPaymentReceived o p provider actor).Yields Shop.books b
      fun _ => Follows (CounterAsks o p provider b) b := by
  refine .atomic (yields_lockOrder fun order hrow => yields_lockPayment fun payment hpay => ?_)
  refine Tx.yields_check fun hprovider => Tx.yields_check fun horder =>
    Tx.yields_check fun hcounter => ?_
  refine .ite (fun _ => Tx.yields_pure .refl) fun _ => .ite (fun _ => .ite
    (fun _ => Tx.yields_pure .refl) fun _ => ?_) fun hunsettled => ?_
  · refine OrderService.finalizeCounterPayment_made.mono ?_
    rintro _ _ (⟨rfl, -⟩ | ⟨hguard, rfl⟩)
    · exact .refl
    · exact .single hguard ⟨rfl, ⟨order, hrow, not_not.1 hcounter⟩, .inl rfl⟩ rfl
  · have hpayment : b.PaymentIs p fun payment => payment.order = o ∧ payment.provider = provider :=
      ⟨payment, hpay, not_not.1 horder, not_not.1 hprovider⟩
    let received' : Payment → Payment :=
      (received · "counter_payment_event" "counter_payment_received" "counter_payment_actor" actor)
    have hsettle : (Change.settle p received').Guard b :=
      ⟨⟨payment, hpay, hunsettled⟩, becomes_received _ _ _ actor⟩
    refine yields_updatePayment (g := received')
      (OrderService.finalizeCounterPayment_made.mono ?_)
    rintro _ _ (⟨rfl, order', hrow', hdone⟩ | ⟨hguard, rfl⟩)
    · obtain rfl := Option.some.inj (hrow.symm.trans hrow')
      exact .single hsettle ⟨rfl, rfl, hpayment, order, hrow, not_not.1 hcounter, .inl hdone⟩ rfl
    · obtain ⟨order', hrow', -, hcan⟩ := id hguard
      obtain rfl := Option.some.inj (hrow.symm.trans hrow')
      refine Relation.ReflTransGen.trans (Follows.single hsettle ⟨rfl, rfl, hpayment, order, hrow,
        not_not.1 hcounter, .inr hcan⟩ rfl) (Follows.single hguard ⟨rfl, ?_, .inr ⟨_, rfl⟩⟩ rfl)
      exact ⟨order, hrow, not_not.1 hcounter⟩

/-- An order that is paid at the counter is prepared. -/
theorem markCounterPaymentReceived_prepares {provider : Provider} :
    (markCounterPaymentReceived o p provider actor).Yields Shop.books b fun _ b' => b' = b ∨
      b'.OrderIs o fun order => order.paymentStatus = .paid ∧ order.status = .preparing := by
  have hfinal {b₁ : Books} : (OrderService.finalizeCounterPayment o actor).Yields Shop.books b₁
      fun _ b' => b'.OrderIs o fun order =>
        order.paymentStatus = .paid ∧ order.status = .preparing := by
    refine OrderService.finalizeCounterPayment_made.mono ?_
    rintro _ _ (⟨rfl, order, hrow, hdone⟩ | ⟨⟨order, hrow, -⟩, rfl⟩)
    · exact ⟨order, hrow, hdone⟩
    · exact ⟨order.paidAtCounter, (Table.rows_modify_self ..).trans (congrArg _ hrow), rfl, rfl⟩
  refine .atomic (yields_lockOrder fun order hrow => yields_lockPayment fun payment hpay => ?_)
  refine Tx.yields_check fun _ => Tx.yields_check fun _ => Tx.yields_check fun _ => ?_
  refine .ite (fun _ => Tx.yields_pure (.inl rfl)) fun _ => .ite (fun _ => .ite
    (fun _ => Tx.yields_pure (.inl rfl)) fun _ => hfinal.mono fun _ _ h => .inr h) fun _ => ?_
  exact yields_updatePayment (g := (received · "counter_payment_event" "counter_payment_received"
    "counter_payment_actor" actor)) (hfinal.mono fun _ _ h => .inr h)

/-- What cash at the door, begun on the books `b₀`, may do; `payment` is the payment that the
    caller names. -/
def CodAsks (o : OrderId) (payment : Option PaymentId) (b₀ b : Books) : Change → Prop
  | .noteCash o' => o' = o
  | .settle q _ => b.payments = b₀.payments ∧
      (match payment with
        | some p => q = p
        | none => b.PaymentIs q fun payment => payment.order = o ∧ payment.provider = .cod) ∧
      b.OrderIs o fun order => order.isCod ∧ order.paymentStatus = .cashReceived ∧
        canTransition order.status .delivered
  | .receiveCash o' => o' = o ∧ b.OrderIs o Order.isCod ∧ b.holds = b₀.holds
  | _ => False

theorem CodAsks.rebase {payment : Option PaymentId} {b₀ b₁ : Books} {ch : Change}
    (hpayments : b₁.payments = b₀.payments) (hholds : b₁.holds = b₀.holds)
    (h : CodAsks o payment b₁ b ch) : CodAsks o payment b₀ b ch := by
  cases ch with
  | settle => exact ⟨h.1.trans hpayments, h.2⟩
  | receiveCash => exact ⟨h.1, h.2.1, h.2.2.trans hholds⟩
  | _ => exact h

theorem codPayment_yields {payment : Option PaymentId} :
    (codPayment o payment).Yields Shop.books b fun found b' => b' = b ∧
      ∀ e, found = some e → b.payments.rows e.1 = some e.2 ∧
        match payment with
        | some p => e.1 = p
        | none => e.2.order = o ∧ e.2.provider = .cod := by
  cases payment with
  | some p =>
    refine yields_lockPayment fun payment hpay => Tx.yields_pure ⟨rfl, ?_⟩
    rintro _ ⟨⟩
    exact ⟨hpay, rfl⟩
  | none =>
    refine Tx.yields_getDb fun shop hshop => Tx.yields_pure ⟨rfl, fun e he => ?_⟩
    obtain ⟨hrow, hmatches⟩ := newest_paymentsWhere he
    rw [← hshop]
    exact ⟨hrow, of_decide_eq_true hmatches⟩

theorem ensureCodCashFinalized_follows {payment : Option PaymentId} :
    (ensureCodCashFinalized o payment actor).Yields Shop.books b
      fun _ => Follows (CodAsks o payment b) b := by
  refine .atomic (yields_lockOrder fun order hrow => .ite (fun _ => Tx.yields_pure .refl)
    fun hdue => codPayment_yields.bind ?_)
  rintro found _ ⟨rfl, hfound⟩
  have hcod : order.isCod := not_not.1 fun h => hdue (.inl h)
  have hcash : order.paymentStatus = .cashReceived := not_not.1 fun h => hdue (.inr h)
  cases found with
  | none => exact Tx.yields_pure .refl
  | some e =>
    obtain ⟨hpay, hwhich⟩ := hfound e rfl
    by_cases hsettled : e.2.status = .succeeded
    · refine Tx.Yields.bind (P := fun _ b' => b' = _) (.when (fun h => absurd hsettled h)
        fun _ => rfl) ?_
      rintro _ _ rfl
      exact OrderService.recordCashReceived_made.mono fun _ _ h =>
        .single h.1 ⟨rfl, ⟨order, hrow, hcod⟩, rfl⟩ h.2
    · refine Tx.Yields.bind (P := fun _ b' => b' = _) (.when (fun _ => Tx.Yields.last
        (yields_updatePayment (Tx.yields_pure rfl))) fun h => (h hsettled).elim) ?_
      rintro _ _ rfl
      refine OrderService.recordCashReceived_made.mono fun _ b' h => ?_
      obtain ⟨order', hrow', hcan⟩ := id h.1
      obtain rfl := Option.some.inj (hrow.symm.trans hrow')
      refine Relation.ReflTransGen.trans (Follows.single (show (Change.settle e.1 _).Guard _ from
        ⟨⟨e.2, hpay, hsettled⟩, becomes_received _ _ _ actor⟩)
        ⟨rfl, ?_, order, hrow, hcod, hcash, hcan⟩ rfl)
        (Follows.single h.1 ⟨rfl, ⟨order, hrow, hcod⟩, rfl⟩ h.2)
      cases payment with
      | some p => exact hwhich
      | none => exact ⟨e.2, hpay, hwhich⟩

theorem markCodCashReceived_follows : (markCodCashReceived o p actor).Yields Shop.books b
    fun _ => Follows (CodAsks o (some p) b) b := by
  refine .atomic (yields_lockOrder fun order hrow => yields_lockPayment fun payment hpay =>
    Tx.yields_check fun _ => Tx.yields_check fun _ => ?_)
  -- the cash is noted first, which touches neither payments nor holds
  have hthen {b₁ : Books} (hnoted : Follows (CodAsks o (some p) b) b b₁)
      (hpayments : b₁.payments = b.payments) (hholds : b₁.holds = b.holds) :
      (ensureCodCashFinalized o (some p) actor).Yields Shop.books b₁
        fun _ => Follows (CodAsks o (some p) b) b := by
    exact ensureCodCashFinalized_follows.mono fun _ b' h => Relation.ReflTransGen.trans hnoted
      (h.mono fun _ _ hasks => hasks.rebase hpayments hholds)
  refine Tx.Yields.bind (P := fun _ b₁ => Follows (CodAsks o (some p) b) b b₁ ∧
    b₁.payments = b.payments ∧ b₁.holds = b.holds) (.when (fun hcash => ?_)
    fun _ => ⟨.refl, rfl, rfl⟩) fun _ _ h => hthen h.1 h.2.1 h.2.2
  exact yields_setPaymentStatus (Tx.yields_pure
    ⟨.single (show (Change.noteCash o).Guard _ from ⟨order, hrow, hcash⟩) rfl rfl, rfl, rfl⟩)

end PaymentService

/-! ## Cleanup -/

/-- What the cleanup may do that examines the payments `ps`. -/
def CleanupAsks (env : Env) (ps : List PaymentId) (b : Books) : Change → Prop
  | .fail o p _ => p ∈ ps ∧ ∃ payment order, b.payments.rows p = some payment ∧
      payment.order = o ∧ b.orders.rows o = some order ∧
        skipReason payment order (getStaleOnlinePaymentCutoff env none) = none
  | .unlock _ => True
  | _ => False

theorem CleanupAsks.of_mem {ps : List PaymentId} {p : PaymentId} {ch : Change} (hp : p ∈ ps)
    (h : CleanupAsks env [p] b ch) : CleanupAsks env ps b ch := by
  cases ch with
  | fail => exact ⟨List.mem_singleton.1 h.1 ▸ hp, h.2⟩
  | unlock => trivial
  | _ => exact h.elim

/-- A payment that is cleaned up is open, and so is its order. -/
theorem skipReason_eq_none {payment : Payment} {order : Order} {cutoff : Time}
    (h : skipReason payment order cutoff = none) :
    payment.provider.isOnline ∧ payment.status.isOpen ∧ payment.createdAt < cutoff ∧
      order.paymentMethod = .online ∧ ¬order.paymentStatus.isSuccessful ∧
        ¬order.status.isClosed ∧ order.status ≠ .delivered := by
  rw [skipReason] at h
  split_ifs at h with hprovider hstatus hfresh hmethod hpaid hended
  exact ⟨hprovider, hstatus, not_le.1 hfresh, not_not.1 hmethod, hpaid,
    fun h => hended (.inl h), fun h => hended (.inr h)⟩

/-- A payment is left alone; or it fails with its order, which then freezes no cart. -/
theorem cleanupStaleOnlinePayment_yields {p : PaymentId} :
    (cleanupStaleOnlinePayment env p).Yields Shop.books b fun _ b' => b' = b ∨
      ∃ payment order f, b.payments.rows p = some payment ∧
        b.orders.rows payment.order = some order ∧
          skipReason payment order (getStaleOnlinePaymentCutoff env none) = none ∧
            (Change.fail payment.order p f).Guard b ∧
              b' = (Change.unlock payment.order).apply ((Change.fail payment.order p f).apply b) := by
  refine .atomic (Tx.yields_getDb ?_)
  rintro shop rfl
  cases hpay : shop.payments.rows p with
  | none => exact Tx.yields_pure (.inl rfl)
  | some payment =>
    refine yields_lockOrder fun order hrow => ?_
    cases hskip : skipReason payment order (getStaleOnlinePaymentCutoff env none) with
    | some reason => exact Tx.yields_pure (.inl rfl)
    | none =>
      obtain ⟨-, hopen, -, -, hunpaid, hclosed, -⟩ := skipReason_eq_none hskip
      refine PaymentService.markFailed_made.bind fun _ b' h => ?_
      refine Tx.yields_write (g := (Change.unlock payment.order).apply) (fun _ => rfl)
        (Tx.yields_pure (.inr ⟨payment, order, (·.fail cleanupMessage), hpay, hrow, hskip, ?_⟩))
      rcases h with ⟨-, hdone⟩ | ⟨hguard, rfl⟩ | ⟨⟨-, -, order', hrow', -, hclosed'⟩, -⟩
      · -- the payment is open, and the order waits for it
        rcases hdone with ⟨payment', hpay', hsucceeded⟩ | ⟨order', hrow', hpaid⟩
        · obtain rfl := Option.some.inj (hpay.symm.trans hpay')
          rw [hsucceeded] at hopen
          exact absurd hopen (by decide)
        · obtain rfl := Option.some.inj (hrow.symm.trans hrow')
          exact (hunpaid hpaid).elim
      · exact ⟨hguard, rfl⟩
      · obtain rfl := Option.some.inj (hrow.symm.trans hrow')
        exact (hclosed hclosed').elim

theorem cleanupStaleOnlinePayment_follows {p : PaymentId} :
    (cleanupStaleOnlinePayment env p).Yields Shop.books b
      fun _ => Follows (CleanupAsks env [p]) b := by
  refine cleanupStaleOnlinePayment_yields.mono ?_
  rintro _ _ (rfl | ⟨payment, order, f, hpay, hrow, hskip, hguard, rfl⟩)
  · exact .refl
  · exact Relation.ReflTransGen.trans
      (Follows.single hguard
        ⟨List.mem_singleton_self p, payment, order, hpay, rfl, hrow, hskip⟩ rfl)
      (Follows.single (show (Change.unlock payment.order).Guard _ from trivial) trivial rfl)

end Crumbs
