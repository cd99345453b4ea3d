import Crumbs.Growth.Checkout
import Crumbs.Loyalty.Services

/-!
# After the Payment

When an order is paid, its coupon is redeemed, the referral of its buyer is rewarded, its revenue is
attributed, and the value of the customer is worked out again. A queue runs this task, and may run
it again.

## Contents

- `CouponService.redeem`
- `ReferralService.finalizeOnPayment`
- `AttributionService.recordForOrder`
- `CLVService.calculateForUser`
- `GrowthCheckoutFacade.finalizeOnPayment`, `finalizeGrowthOrderTask`
-/

namespace Crumbs

open Crumbs.Db

/-! ## Coupons -/

/-- An order has at most one redemption; only a new one counts as a use of the coupon. -/
def CouponService.redeem (coupon : CouponId) (order : OrderInstance) (user : Option UserId) :
    GrowthTx CouponRedemption := Tx.atomic do
  let db ← Tx.getDb
  match db.growth.redemptions.find? fun r => r.order = order.id with
  | some redemption => return redemption
  | none => do
    let redemption : CouponRedemption :=
      { coupon, user := user <|> order.user, order := order.id,
        discountAmount := order.discountAmount }
    GrowthTx.modifyGrowth fun growth => { growth with
      redemptions := growth.redemptions ++ [redemption]
      coupons := growth.coupons.modify coupon fun c => { c with usageCount := c.usageCount + 1 } }
    return redemption

/-! ## Referrals -/

namespace ReferralService

/-- The referral of a user that waits for the first order. -/
def pendingReferral (growth : Growth) (user : UserId) : Option Referral :=
  (growth.referrals.rows user).filter (·.status = .pending)

/-- The referral that a paid order completes: the pending one, or one made for the code that the
    order was placed with. -/
def referralToReward (order : OrderInstance) (user : UserId) : GrowthTx (Option Referral) := do
  let db ← Tx.getDb
  match pendingReferral db.growth user with
  | some referral => return some referral
  | none =>
    if order.referralCodeApplied = "" then
      return none
    else match db.growth.referralCodes.filter fun r =>
        upper r.code = upper order.referralCodeApplied with
    | [] => return none
    | [(id, referralCode)] => attachPendingReferral order.user id referralCode
    | _ :: _ :: _ => Tx.raise (.multipleObjectsReturned "ReferralCode")

/-- The newest active coupon with the code of the settings, if they name one. -/
def onboardingCoupon (settings : GrowthSettings) (growth : Growth) : Option Coupon :=
  if settings.referralOnboardingCoupon = "" then none
  else ((growth.coupons.filter fun coupon =>
    upper coupon.code = upper settings.referralOnboardingCoupon ∧ coupon.isActive).getLast?).map
      Prod.snd

/-- The referral is completed by the order, and its referrer gets the points. -/
def reward (env : Env) (settings : GrowthSettings) (order : OrderInstance) (user : UserId)
    (referral : Referral) : GrowthTx Referral := do
  let referral := { referral with firstOrder := some order.id, status := .completed }
  GrowthTx.modifyGrowth fun growth => growth.setReferral user referral
  let referrerPoints := settings.referralRewardPoints
  let account ← getOrCreateAccount referral.referrer
  let account := { account with
    points := account.points + referrerPoints
    lifetimePoints := account.lifetimePoints + referrerPoints }
  GrowthTx.modifyLoyalty fun loyalty => (loyalty.setAccount referral.referrer account).record
    { account := referral.referrer, transactionType := .earn, points := referrerPoints,
      balanceAfter := account.points, order := some order.id,
      description := s!"Referral reward for order {order.orderNumber}" }
  let db ← Tx.getDb
  let referral := { referral with
    referrerRewardPoints := referrerPoints
    referredDiscountAmount := match onboardingCoupon settings db.growth with
      | some coupon => CouponService.calculateDiscount coupon order.subtotal
      | none => referral.referredDiscountAmount
    status := .rewarded
    rewardedAt := some env.now }
  GrowthTx.modifyGrowth fun growth => growth.setReferral user referral
  return referral

def finalizeOnPayment (env : Env) (settings : GrowthSettings) (order : OrderInstance) :
    GrowthTx (Option Referral) := Tx.atomic do
  match order.user with
  | none => return none
  | some user => do
    if ¬order.paymentStatus.isSuccessful then
      return none
    match ← referralToReward order user with
    | none => return none
    | some referral => do
      let referral ← reward env settings order user referral
      return some referral

end ReferralService

/-! ## Attributions -/

namespace AttributionService

/-- The rows that `get_or_create` would find. -/
def found (growth : Growth) (a : RevenueAttribution) : List RevenueAttribution :=
  growth.attributions.filter fun b =>
    b.order = a.order ∧ b.sourceType = a.sourceType ∧ b.sourceId = a.sourceId

/-- Whether the row was created comes back with it. -/
def getOrCreate (a : RevenueAttribution) : GrowthTx (RevenueAttribution × Bool) := do
  let db ← Tx.getDb
  match found db.growth a with
  | [] => do
    GrowthTx.modifyGrowth fun growth => { growth with attributions := growth.attributions ++ [a] }
    return (a, true)
  | [b] => return (b, false)
  | _ :: _ :: _ => Tx.raise (.multipleObjectsReturned "RevenueAttribution")

/-- What is attributed, if anything, is attributed once. -/
def attributeOnce (attribution : Growth → Option RevenueAttribution) :
    GrowthTx (List RevenueAttribution) := do
  let db ← Tx.getDb
  match attribution db.growth with
  | none => return []
  | some a => do
    let (record, _) ← getOrCreate a
    return [record]

/-- `_attribute_coupon` -/
def couponAttribution (order : OrderInstance) (growth : Growth) : Option RevenueAttribution :=
  if order.discountAmount ≤ 0 then none
  else order.coupon.map fun coupon =>
    let redemption := growth.redemptions.find? fun r => r.order = order.id
    let redeemed := (redemption.map (·.coupon)).getD coupon
    let couponCode := ((growth.coupons.rows redeemed).map (·.code)).getD ""
    { order := order.id, sourceType := .coupon, sourceId := toString coupon,
      sourceLabel := couponCode, attributedAmount := order.discountAmount,
      metadata := .coupon couponCode }

/-- `_attribute_referral` -/
def referralAttribution (order : OrderInstance) (growth : Growth) : Option RevenueAttribution :=
  if order.referralCodeApplied = "" then none
  else
    let referral := growth.referrals.newestFirst.find? (·.firstOrder = some order.id)
    some
      { order := order.id, sourceType := .referral, sourceId := order.referralCodeApplied,
        sourceLabel := order.referralCodeApplied, attributedAmount := order.total,
        metadata := .referral (referral.map (·.referrer))
          ((referral.map (·.referrerRewardPoints)).getD 0) }

/-- What follows the last `promo:` of the notes. -/
def promotionRules (notes : String) : String :=
  match notes.splitOn "promo:" with
  | [] | [_] => ""
  | _ :: parts => parts.getLastD ""

/-- `_attribute_promotion` -/
def promotionAttribution (order : OrderInstance) (_ : Growth) : Option RevenueAttribution :=
  if order.promotionDiscountAmount ≤ 0 then none
  else
    let rules := String.ofList ((promotionRules order.notes).toList.take 64)
    some
      { order := order.id, sourceType := .promotion,
        sourceId := if rules = "" then "promotion" else rules, sourceLabel := "Promotion rules",
        attributedAmount := order.promotionDiscountAmount }

/-- The tracker that was updated last. -/
def latest : List (TrackerId × AbandonedCartTracker) → Option (TrackerId × AbandonedCartTracker)
  | [] => none
  | e :: rest =>
    match latest rest with
    | none => some e
    | some e' => if e'.2.updatedAt ≤ e.2.updatedAt then some e else some e'

/-- The tracker whose cart became the order. -/
def recoveredTracker (growth : Growth) (o : OrderId) : Option (TrackerId × AbandonedCartTracker) :=
  latest (growth.trackers.filter fun tracker =>
    tracker.recoveredOrder = some o ∧ tracker.status = .recovered)

def smsAttribution (order : OrderInstance) (e : TrackerId × AbandonedCartTracker) :
    RevenueAttribution where
  order := order.id
  sourceType := .sms
  sourceId := s!"abandoned_cart:{e.1}"
  sourceLabel := s!"Abandoned cart SMS (step {e.2.funnelStep})"
  attributedAmount := order.total
  metadata := .tracker e.1 e.2.reminderCount e.2.offeredCoupon

/-- The tracker's conversion is on record from now on. -/
def trackConversion (env : Env) (order : OrderInstance) (tracker : TrackerId) : GrowthTx Unit :=
  GrowthTx.modifyGrowth fun growth => { growth with
    trackers := growth.trackers.modify tracker
      ({ · with smsConversionTracked := true, updatedAt := env.now })
    smsConversions := growth.smsConversions ++ [{ user := order.user, order := order.id, tracker }] }

/-- `_attribute_sms` -/
def attributeSms (env : Env) (order : OrderInstance) : GrowthTx (List RevenueAttribution) := do
  let db ← Tx.getDb
  match order.user, recoveredTracker db.growth order.id with
  | some _, some e => do
    let (record, created) ← getOrCreate (smsAttribution order e)
    Tx.when (created = true ∧ e.2.smsConversionTracked = false) (trackConversion env order e.1)
    return [record]
  | _, _ => return []

def recordForOrder (env : Env) (order : OrderInstance) : GrowthTx (List RevenueAttribution) :=
  Tx.atomic do
    let coupon ← attributeOnce (couponAttribution order)
    let referral ← attributeOnce (referralAttribution order)
    let promotion ← attributeOnce (promotionAttribution order)
    let sms ← attributeSms env order
    return coupon ++ referral ++ promotion ++ sms

end AttributionService

/-! ## Customer lifetime value -/

namespace CLVService

/-- Half a million toman. -/
def lowThreshold : Money := 50000000

/-- Five million toman. -/
def highThreshold : Money := 500000000

/-- `_frequency_tag` -/
def frequencyTag (orderCount : ℕ) : FrequencyTag :=
  if orderCount = 0 then .new
  else if 10 ≤ orderCount then .loyal
  else if 4 ≤ orderCount then .regular
  else .occasional

/-- The orders of a user that are paid. -/
def paidOrders (shop : Shop) (user : UserId) : List Order :=
  (shop.orders.filter fun order =>
    order.user = some user ∧ order.paymentStatus.isSuccessful).map Prod.snd

/-- What the orders say of the customer. -/
def profile (orders : List Order) : CustomerCLVProfile :=
  let revenue := (orders.map (·.total)).sum
  let orderCount := orders.length
  let avgOrder := revenue.toRat / orderCount
  { lifetimeRevenue := revenue, orderCount, avgOrderValue := numericColumn avgOrder,
    clvScore := numericColumn (revenue.toRat + avgOrder * min orderCount 12),
    revenueTier :=
      if highThreshold ≤ revenue then .high else if lowThreshold ≤ revenue then .medium else .low
    frequencyTag := frequencyTag orderCount,
    lastOrderAt := (orders.map (·.createdAt)).max? }

def calculateForUser (user : UserId) : GrowthTx CustomerCLVProfile := do
  let db ← Tx.getDb
  let clv := profile (paidOrders db.shop user)
  GrowthTx.modifyGrowth fun growth => { growth with
    clvProfiles := fun u => if u = user then some clv else growth.clvProfiles u }
  return clv

end CLVService

/-! ## The task -/

namespace GrowthCheckoutFacade

/-- What `finalize_on_payment` reports. -/
structure FinalizeResults where
  coupon : Option CouponRedemption
  referral : Option Referral
  attributions : ℕ
  deriving DecidableEq

/-- The coupon of the order, if it has one. -/
def redeemCoupon (order : OrderInstance) : GrowthTx (Option CouponRedemption) :=
  match order.coupon with
  | none => pure none
  | some coupon => do
    let redemption ← CouponService.redeem coupon order order.user
    return some redemption

def finalizeOnPayment (env : Env) (settings : GrowthSettings) (order : OrderInstance) :
    GrowthTx FinalizeResults := Tx.atomic do
  let coupon ← redeemCoupon order
  let referral ← ReferralService.finalizeOnPayment env settings order
  let attributions ← AttributionService.recordForOrder env order
  Tx.ifSome order.user fun user => Tx.void (CLVService.calculateForUser user)
  return { coupon, referral, attributions := attributions.length }

end GrowthCheckoutFacade

/-- The order with its columns for the growth app. -/
def GrowthDatabase.order (db : GrowthDatabase) (o : OrderId) : Option OrderInstance :=
  (db.shop.orders.rows o).map fun order =>
    { order with toOrderGrowth := db.growth.orderGrowth o, id := o }

/-- `finalize_growth_order_task`; without the order it is skipped. -/
def finalizeGrowthOrderTask (env : Env) (settings : GrowthSettings) (o : OrderId) :
    GrowthTx (Option GrowthCheckoutFacade.FinalizeResults) := do
  let db ← Tx.getDb
  match db.order o with
  | none => return none
  | some order => do
    let results ← GrowthCheckoutFacade.finalizeOnPayment env settings order
    return some results

end Crumbs
