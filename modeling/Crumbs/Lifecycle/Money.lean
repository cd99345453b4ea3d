import Crumbs.Lifecycle.Rows
import Crumbs.Lifecycle.Runs

/-!
# Captured Money

A payment that has succeeded stands for money in the till, and so does one that was refunded for
money that has been given back. Neither may be forgotten.

## Contents

- `KeepsMoney`: payments that have succeeded or were refunded stay so
- `SparesRefunded`: nothing is written to a refunded payment
- `keepsMoney_of_sparesRefunded`
-/

namespace Crumbs

open Crumbs.Db

/-! ## Payments that stay -/

/-- A payment that has succeeded stays so until it is refunded, and a refunded one stays so. -/
def KeepsMoney (b b' : Books) : Prop :=
  ∀ p payment, b.payments.rows p = some payment → ∃ payment', b'.payments.rows p = some payment' ∧
    (payment.status = .succeeded → payment'.status = .succeeded ∨ payment'.status = .refunded) ∧
      (payment.status = .refunded → payment'.status = .refunded)

instance : IsPreorder Books KeepsMoney where
  refl _ _ payment h := ⟨payment, h, .inl, id⟩
  trans b b' b'' h h' := by
    intro p payment hrow
    obtain ⟨payment', hrow', hsucceeded, hrefunded⟩ := h p payment hrow
    obtain ⟨payment'', hrow'', hsucceeded', hrefunded'⟩ := h' p payment' hrow'
    exact ⟨payment'', hrow'', fun hs => (hsucceeded hs).elim hsucceeded' fun hr =>
      .inr (hrefunded' hr), fun hr => hrefunded' (hrefunded hr)⟩

/-- The change does not rewrite a payment that was refunded. -/
def SparesRefunded (b : Books) (ch : Change) : Prop :=
  ∀ p f, ch.rewrites = some (p, f) → ¬b.PaymentIs p fun payment => payment.status = .refunded

variable {b : Books} {ch : Change}

theorem keepsMoney_apply (hguard : ch.Guard b) (hspares : SparesRefunded b ch) :
    KeepsMoney b (ch.apply b) := by
  intro p payment hrow
  obtain ⟨payment', hrow'⟩ := Change.exists_payment_apply ch hrow
  refine ⟨payment', hrow', ?_⟩
  rcases Change.payment_of_apply hrow' with hsame | ⟨f, payment₁, hrewrites, hrow₁, -⟩ |
    ⟨payment₁, -, -, hrow₁, hsucceeded, rfl⟩ | ⟨-, rfl⟩
  · obtain rfl := Option.some.inj (hrow.symm.trans hsame)
    exact ⟨.inl, id⟩
  · -- rewritten: neither succeeded nor refunded
    obtain rfl := Option.some.inj (hrow.symm.trans hrow₁)
    obtain ⟨payment₂, hrow₂, hunsettled⟩ := hguard.isUnsettled hrewrites
    obtain rfl := Option.some.inj (hrow.symm.trans hrow₂)
    exact ⟨fun h => (hunsettled h).elim, fun h => (hspares p f hrewrites ⟨payment, hrow, h⟩).elim⟩
  · -- refunded
    obtain rfl := Option.some.inj (hrow.symm.trans hrow₁)
    exact ⟨fun _ => .inr rfl, fun _ => rfl⟩
  · exact nomatch hrow.symm.trans (b.payments.fresh _ le_rfl)

/-- As long as no step writes to a refunded payment, captured money is never forgotten. -/
theorem keepsMoney_of_sparesRefunded (db : Database) (run : List Step)
    (h : Always (Step.Only SparesRefunded) db run) :
    KeepsMoney db.shop.books (after db run).shop.books :=
  h.rel fun _ _ => keepsMoney_apply

/-- The one payment of a shop. -/
theorem paymentIs_only {shop : Shop} {p : PaymentId} (status : PaymentStatus)
    {P : Payment → Prop} (hnext : shop.payments.next = 1)
    (honly : (shop.payments.rows 0).map (·.status) = some status)
    (h : shop.books.PaymentIs p P) : ∃ payment, P payment ∧ payment.status = status := by
  obtain ⟨payment, hrow, hP⟩ := h
  obtain rfl : p = 0 := Nat.lt_one_iff.1 (hnext ▸ Table.lt_next hrow)
  obtain ⟨payment', hrow', hstatus⟩ := Option.map_eq_some_iff.1 honly
  obtain rfl := Option.some.inj (hrow.symm.trans hrow')
  exact ⟨payment, hP, hstatus⟩

/-- An online order is paid. -/
def paidRun : List Step :=
  [cornerStripeCall (.processCheckout 0 { email := "", phone := "1" } none fun _ _ => {}),
    cornerStripeEvent "checkout.session.completed"]

theorem keepsMoney_of_sparesRefunded_paid :
    KeepsMoney cornerShop.shop.books (after cornerShop paidRun).shop.books := by
  refine keepsMoney_of_sparesRefunded cornerShop paidRun ⟨?_, ?_, trivial⟩
  · rintro b ch ⟨-, order, reservations, payment, rfl⟩ - p f hrewrites
    exact nomatch hrewrites
  · rintro b ch ⟨rfl, -⟩ - p f - hrefunded
    obtain ⟨payment, hstatus, hprocessing⟩ := paymentIs_only .processing
      (by decide +kernel) (by decide +kernel) hrefunded
    exact nomatch hstatus.symm.trans hprocessing

/-! ## A late event -/

/-- An online order, paid and refunded. -/
def refundedRun : List Step := paidRun ++ [cornerStripeCall (.processRefund 0 "" "admin")]

/-- A refunded payment, read off the shops. -/
theorem KeepsMoney.refunded {shop shop' : Shop} (h : KeepsMoney shop.books shop'.books)
    {p : PaymentId} (hp : (shop.payments.rows p).map (·.status) = some .refunded) :
    (shop'.payments.rows p).map (·.status) = some .refunded := by
  obtain ⟨payment, hrow, hrefunded⟩ := Option.map_eq_some_iff.1 hp
  obtain ⟨payment', hrow', -, hstays⟩ := h p payment hrow
  exact Option.map_eq_some_iff.2 ⟨payment', hrow', hstays hrefunded⟩

/-- An event about a failed attempt comes after the refund. -/
theorem not_keepsMoney_late : ¬KeepsMoney (after cornerShop refundedRun).shop.books
    (after cornerShop
      (refundedRun ++ [cornerStripeEvent "payment_intent.payment_failed"])).shop.books := by
  intro hkeeps
  have hafter := hkeeps.refunded (p := 0) (by decide +kernel)
  revert hafter
  decide +kernel

end Crumbs
