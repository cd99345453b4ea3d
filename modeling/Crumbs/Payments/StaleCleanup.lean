import Crumbs.Cart.Services
import Crumbs.Payments.Services

/-!
# Cleanup of Stale Online Payments

Online checkouts that were never paid are failed after a while, and their stock is released.

## Contents

- `staleOnlinePayments`: the payments to look at
- `cleanupStaleOnlinePayment`: one payment, checked again under its lock
- `cleanupStaleOnlinePayments`: the periodic task
-/

namespace Crumbs

open Crumbs.Db

/-- `STALE_ONLINE_PAYMENT_TIMEOUT_MINUTES` -/
def staleOnlinePaymentTimeoutMinutes : ℤ := 30

/-- `_ONLINE_PROVIDERS` -/
def Provider.isOnline (provider : Provider) : Prop := provider = .zarinpal ∨ provider = .stripe

instance (provider : Provider) : Decidable provider.isOnline := inferInstanceAs (Decidable (_ ∨ _))

/-- `_STALE_PAYMENT_STATUSES` -/
def PaymentStatus.isOpen (status : PaymentStatus) : Prop := status = .pending ∨ status = .processing

instance (status : PaymentStatus) : Decidable status.isOpen := inferInstanceAs (Decidable (_ ∨ _))

/-- `_CLEANUP_MESSAGE` -/
def cleanupMessage : String :=
  s!"Online checkout expired after {staleOnlinePaymentTimeoutMinutes} minutes without payment."

/-- A timeout of zero counts as none given. -/
def getStaleOnlinePaymentCutoff (env : Env) (timeoutMinutes : Option ℤ) : Time :=
  env.now - minutes ((timeoutMinutes.filter (· ≠ 0)).getD staleOnlinePaymentTimeoutMinutes)

/-- Payments still open after the cutoff, oldest first. -/
def staleOnlinePayments (shop : Shop) (cutoff : Time) : List (PaymentId × Payment) :=
  (shop.paymentsWhere fun p =>
    p.status.isOpen ∧ p.provider.isOnline ∧ p.createdAt < cutoff ∧
      (shop.orders.rows p.order).any (·.paymentMethod = .online)).mergeSort
    fun a b => a.2.createdAt ≤ b.2.createdAt

/-- The outcome tokens of one cleanup. -/
inductive CleanupOutcome where
  | cleaned
  | skippedMissing
  | skippedProvider
  | skippedPaymentStatus
  | skippedFresh
  | skippedNonOnline
  | skippedPaidOrder
  | skippedTerminalOrder
  deriving DecidableEq, Repr

/-- Why a payment is left alone, if it is. -/
def skipReason (payment : Payment) (order : Order) (cutoff : Time) : Option CleanupOutcome :=
  if ¬payment.provider.isOnline then some .skippedProvider
  else if ¬payment.status.isOpen then some .skippedPaymentStatus
  else if cutoff ≤ payment.createdAt then some .skippedFresh
  else if order.paymentMethod ≠ .online then some .skippedNonOnline
  else if order.paymentStatus.isSuccessful then some .skippedPaidOrder
  else if order.status.isClosed ∨ order.status = .delivered then some .skippedTerminalOrder
  else none

def cleanupStaleOnlinePayment (env : Env) (p : PaymentId) : ShopTx CleanupOutcome :=
  Tx.atomic do
    let shop ← Tx.getDb
    match shop.payments.rows p with
    | none => return .skippedMissing
    | some payment => do
      let order ← lockOrder payment.order
      match skipReason payment order (getStaleOnlinePaymentCutoff env none) with
      | some reason => return reason
      | none => do
        PaymentService.markFailed payment.order p cleanupMessage
        Tx.modifyDb fun shop => shop.dropCheckout payment.order
        return .cleaned

/-- The counts that the task reports. -/
structure CleanupResult where
  examined : ℕ
  cleaned : ℕ := 0
  skipped : ℕ := 0
  errors : ℕ := 0
  timeoutMinutes : ℤ
  deriving DecidableEq, Repr

/-- One more payment dealt with; `none` is an exception. -/
def CleanupResult.add (result : CleanupResult) : Option CleanupOutcome → CleanupResult
  | none => { result with errors := result.errors + 1 }
  | some .cleaned => { result with cleaned := result.cleaned + 1 }
  | some _ => { result with skipped := result.skipped + 1 }

/-- The loop of the task. -/
def cleanupEach (env : Env) (result : CleanupResult) : List PaymentId → ShopTx CleanupResult
  | [] => pure result
  | p :: rest => do
    let outcome ← Tx.catching
      (do
        let outcome ← cleanupStaleOnlinePayment env p
        pure (some outcome))
      (fun _ => pure none)
    cleanupEach env (result.add outcome) rest

def cleanupStaleOnlinePayments (env : Env) (timeoutMinutes : Option ℤ) :
    ShopTx CleanupResult := do
  let shop ← Tx.getDb
  let payments := staleOnlinePayments shop (getStaleOnlinePaymentCutoff env timeoutMinutes)
  cleanupEach env
    { examined := payments.length,
      timeoutMinutes :=
        (timeoutMinutes.filter (· ≠ 0)).getD staleOnlinePaymentTimeoutMinutes }
    (payments.map Prod.fst)

end Crumbs
