import Crumbs.Growth.Models
import Crumbs.Orders.OrderService

/-!
# Loyalty Services

The points of a paid order. An account is created by the first service that needs it.

## Contents

- `getOrCreateAccount`, `calculateTier`, `pointsForOrderTotal`
- `awardPointsForOrder`
-/

namespace Crumbs

open Crumbs.Db

namespace Loyalty

/-- The account of a user, or the one that `get_or_create` would insert. -/
def account (loyalty : Loyalty) (user : UserId) : LoyaltyAccount :=
  (loyalty.accounts user).getD {}

def setAccount (loyalty : Loyalty) (user : UserId) (account : LoyaltyAccount) : Loyalty :=
  { loyalty with
    accounts := fun u => if u = user then some account else loyalty.accounts u }

def record (loyalty : Loyalty) (transaction : LoyaltyTransaction) : Loyalty :=
  { loyalty with transactions := loyalty.transactions ++ [transaction] }

/-- Points have been earned for the order, by whomever. -/
def hasEarned (loyalty : Loyalty) (o : OrderId) : Prop :=
  ∃ t ∈ loyalty.transactions, t.order = some o ∧ t.transactionType = .earn

instance (loyalty : Loyalty) (o : OrderId) : Decidable (loyalty.hasEarned o) :=
  inferInstanceAs (Decidable (∃ t ∈ loyalty.transactions, _))

end Loyalty

/-- A write to the tables of the loyalty app. -/
def GrowthTx.modifyLoyalty (f : Loyalty → Loyalty) : GrowthTx Unit :=
  GrowthTx.modifyGrowth fun growth => { growth with loyalty := f growth.loyalty }

def getOrCreateAccount (user : UserId) : GrowthTx LoyaltyAccount := do
  let db ← Tx.getDb
  let account := db.growth.loyalty.account user
  GrowthTx.modifyLoyalty fun loyalty => loyalty.setAccount user account
  return account

def calculateTier (settings : GrowthSettings) (lifetimePoints : ℕ) : Tier :=
  if settings.loyaltyGoldThreshold ≤ lifetimePoints then .gold
  else if settings.loyaltySilverThreshold ≤ lifetimePoints then .silver
  else .normal

/-- `int(total // 1000) * rate` -/
def pointsForOrderTotal (settings : GrowthSettings) (total : Money) : ℤ :=
  total.tdiv 100000 * settings.loyaltyPointsPer1000Toman

/-- The points of an order go to its buyer, unless points have been earned for it. -/
def awardPointsForOrder (settings : GrowthSettings) (order : OrderInstance) :
    GrowthTx (Option LoyaltyAccount) := Tx.atomic do
  match order.user with
  | none => return none
  | some user => do
    if ¬order.paymentStatus.isSuccessful then
      return none
    let db ← Tx.getDb
    if db.growth.loyalty.hasEarned order.id then
      return none
    let account ← getOrCreateAccount user
    let earned := pointsForOrderTotal settings order.total
    if earned ≤ 0 then
      return some account
    let lifetimePoints := account.lifetimePoints + earned.toNat
    let account : LoyaltyAccount :=
      { points := account.points + earned.toNat, lifetimePoints,
        lifetimeSpend := account.lifetimeSpend + order.total,
        tier := calculateTier settings lifetimePoints }
    GrowthTx.modifyLoyalty fun loyalty => (loyalty.setAccount user account).record
      { account := user, transactionType := .earn, points := earned,
        balanceAfter := account.points, order := some order.id,
        description := s!"Points for order {order.orderNumber}" }
    return some account

end Crumbs
