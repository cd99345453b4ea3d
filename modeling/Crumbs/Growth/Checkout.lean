import Crumbs.Growth.Models
import Crumbs.Orders.Checkout

/-!
# Discounts at the Checkout

What the growth app works out for a checkout, and what it writes into the order: the discount of a
coupon, the discounts of the promotion rules, the code of a referral.

## Contents

- `CouponService.validate`, `calculateDiscount`: coupons
- `PromotionRuleService.evaluate`: promotion rules
- `ReferralService.validateForCheckout`, `attachPendingReferral`: referral codes
- `GrowthCheckoutFacade.prepare`, `applyToOrder`
-/

namespace Crumbs

open Crumbs.Db

/-- The first of two strings that is not empty, without the blanks around it. -/
def firstCode (s t : String) : String := strip (if s ≠ "" then s else t)

/-- `now` is in the period, whose ends may be open. -/
def isWithin (now : Time) (validFrom validUntil : Option Time) : Prop :=
  (∀ t ∈ validFrom, t ≤ now) ∧ ∀ t ∈ validUntil, now ≤ t

instance (now : Time) (validFrom validUntil : Option Time) :
    Decidable (isWithin now validFrom validUntil) := inferInstanceAs (Decidable (_ ∧ _))

/-! ## Coupons -/

/-- `Coupon.is_valid_now` -/
def Coupon.isValidNow (coupon : Coupon) (now : Time) : Prop :=
  coupon.isActive = true ∧ isWithin now coupon.validFrom coupon.validUntil ∧
    ∀ limit ∈ coupon.usageLimitGlobal, coupon.usageCount < limit

instance (coupon : Coupon) (now : Time) : Decidable (coupon.isValidNow now) :=
  inferInstanceAs (Decidable (_ ∧ _ ∧ _))

namespace CouponService

def normalizeCode (code : String) : String := upper (strip code)

def getActive (env : Env) (growth : Growth) (code : String) :
    Except Exn (Option (CouponId × Coupon)) :=
  match growth.coupons.filter fun coupon => upper coupon.code = normalizeCode code with
  | [] => .ok none
  | [found] => .ok (if found.2.isValidNow env.now then some found else none)
  | _ :: _ :: _ => .error (.multipleObjectsReturned "Coupon")

def calculateDiscount (coupon : Coupon) (subtotal : Money) : Money :=
  let amount := match coupon.discountType with
    | .percentage => quantize (subtotal.toRat * coupon.discountValue.toRat / 100)
    | .fixed => min coupon.discountValue subtotal
  let amount := match coupon.maxDiscountAmount with
    | none => amount
    | some maxDiscountAmount => min amount maxDiscountAmount
  max 0 amount

/-- `CouponResult` -/
structure CouponResult where
  coupon : Option CouponId := none
  discountAmount : Money := 0
  error : String := ""
  deriving DecidableEq

/-- The redemptions of a coupon by a user. -/
def userUses (growth : Growth) (coupon : CouponId) (user : UserId) : ℕ :=
  growth.redemptions.countP fun r => r.coupon = coupon ∧ r.user = some user

/-- The user has an order that is paid. -/
def hasPaidOrder (shop : Shop) (user : UserId) : Prop :=
  ¬(shop.orders.filter fun order => order.user = some user ∧ order.paymentStatus.isSuccessful).isEmpty

instance (shop : Shop) (user : UserId) : Decidable (hasPaidOrder shop user) :=
  inferInstanceAs (Decidable (¬_))

/-- Why the coupon cannot be used, if it cannot. -/
def refusal (db : GrowthDatabase) (found : CouponId × Coupon) (subtotal : Money)
    (user : Option UserId) : Option String :=
  if subtotal < found.2.minOrderAmount then
    some s!"Minimum order amount is {found.2.minOrderAmount.toInt}."
  else if found.2.campaignType = .firstOrder ∧ ∃ u ∈ user, hasPaidOrder db.shop u then
    some "This coupon is for first orders only."
  else if ∃ u ∈ user, found.2.usageLimitPerUser ≤ userUses db.growth found.1 u then
    some "Coupon usage limit reached for this account."
  else none

def validate (env : Env) (db : GrowthDatabase) (code : String) (subtotal : Money)
    (user : Option UserId) : Except Exn CouponResult := do
  if code = "" then
    return {}
  match ← getActive env db.growth code with
  | none => return { error := "Invalid or expired coupon." }
  | some found =>
    match refusal db found subtotal user with
    | some error => return { error }
    | none =>
      return { coupon := some found.1, discountAmount := calculateDiscount found.2 subtotal }

end CouponService

/-! ## Promotion rules -/

/-- `PromotionRule.is_valid_now` -/
def PromotionRule.isValidNow (rule : PromotionRule) (now : Time) : Prop :=
  rule.isActive = true ∧ isWithin now rule.validFrom rule.validUntil

instance (rule : PromotionRule) (now : Time) : Decidable (rule.isValidNow now) :=
  inferInstanceAs (Decidable (_ ∧ _))

/-- `date.weekday`: Monday is 0. -/
def Date.weekday (d : Date) : ℤ := (d + 3) % 7

namespace PromotionRuleService

/-- `PromotionResult`, with the names of the rules that were applied. -/
structure PromotionResult where
  totalDiscount : Money := 0
  appliedRules : List String := []
  deriving DecidableEq

/-- The percentage of an amount that a rule takes off. -/
def percentOf (config : RuleConfig) (amount : Money) : Money :=
  quantize (amount.toRat * config.percent.getD 10 / 100)

/-- The user's tier, or else the user's revenue tier, makes a VIP. -/
def isVip (growth : Growth) (config : RuleConfig) (user : UserId) : Prop :=
  (∃ account ∈ growth.loyalty.accounts user, account.tier ∈ config.tiers.getD [.gold]) ∨
    ∃ clv ∈ growth.clvProfiles user, clv.revenueTier = .high

instance (growth : Growth) (config : RuleConfig) (user : UserId) :
    Decidable (isVip growth config user) := inferInstanceAs (Decidable (_ ∨ _))

/-- `_apply_rule`: what the rule takes off. -/
def applyRule (env : Env) (db : GrowthDatabase) (rule : PromotionRule) (items : List CartItem)
    (user : Option UserId) (subtotal : Money) : Except Exn Money :=
  match rule.ruleType with
  | .weekendDiscount => .ok (
    if env.today.weekday ∈ rule.config.weekdays.getD [4, 5] then percentOf rule.config subtotal
    else 0)
  | .vipDiscount => .ok (
    if ∃ u ∈ user, isVip db.growth rule.config u then percentOf rule.config subtotal else 0)
  | .categoryDiscount =>
    let eligible := (items.map fun item =>
      if db.growth.category item.product ∈ rule.config.categorySlugs.getD [] then
        (db.shop.stock.products item.product).price * item.quantity
      else 0).sum
    .ok (if eligible ≤ 0 then 0 else percentOf rule.config eligible)
  | .buyXGetY =>
    let buyQty := rule.config.buyQty.getD 2
    let categorySlugs := rule.config.buyCategorySlugs.getD []
    let freeValue := rule.config.freeItemValue.getD 0
    if freeValue ≤ 0 then .ok 0
    else if buyQty = 0 then .error (.builtinError "integer division or modulo by zero")
    else
      let qualifyingQty : ℤ := (items.map fun item =>
        if categorySlugs = [] ∨ db.growth.category item.product ∈ categorySlugs then
          (item.quantity : ℤ)
        else 0).sum
      let sets := qualifyingQty.fdiv buyQty
      .ok (if sets ≤ 0 then 0 else quantize (freeValue * sets))

/-- The loop over the rules: after the first rule of another kind than a VIP discount that takes
    something off, it ends. -/
def evaluateEach (env : Env) (db : GrowthDatabase) (items : List CartItem) (user : Option UserId)
    (subtotal : Money) (result : PromotionResult) :
    List PromotionRule → Except Exn PromotionResult
  | [] => .ok result
  | rule :: rest =>
    if ¬rule.isValidNow env.now then evaluateEach env db items user subtotal result rest
    else
      match applyRule env db rule items user subtotal with
      | .error exc => .error exc
      | .ok discount =>
        if discount ≤ 0 then evaluateEach env db items user subtotal result rest
        else
          let result :=
            { totalDiscount := result.totalDiscount + discount,
              appliedRules := result.appliedRules ++ [rule.name] }
          if rule.ruleType ≠ .vipDiscount then .ok result
          else evaluateEach env db items user subtotal result rest

/-- The active rules, by priority and id. -/
def activeRules (growth : Growth) : List PromotionRule :=
  ((growth.promotionRules.filter (·.isActive)).map Prod.snd).mergeSort
    fun a b => a.priority ≤ b.priority

def evaluate (env : Env) (db : GrowthDatabase) (items : List CartItem) (user : Option UserId)
    (subtotal : Money) : Except Exn PromotionResult := do
  let result ← evaluateEach env db items user subtotal {} (activeRules db.growth)
  return { result with totalDiscount := min result.totalDiscount subtotal }

end PromotionRuleService

/-! ## Referral codes -/

namespace ReferralService

/-- `_is_likely_self_referral`: the same email, or the same phone number. -/
def isLikelySelfReferral (referrer referred : UserContact) : Prop :=
  referrer.email ≠ "" ∧ referred.email ≠ "" ∧ lower referrer.email = lower referred.email ∨
    referrer.phone ≠ "" ∧ referred.phone ≠ "" ∧ referrer.phone = referred.phone

instance (referrer referred : UserContact) : Decidable (isLikelySelfReferral referrer referred) :=
  inferInstanceAs (Decidable (_ ∨ _))

def validateForCheckout (db : GrowthDatabase) (code : String) (user : Option UserId) :
    Except Exn (Option ReferralCodeId) :=
  match user with
  | none => .ok none
  | some user =>
    if code = "" then .ok none
    else
      match db.growth.referralCodes.filter fun r =>
        upper r.code = upper (strip code) ∧ r.isActive with
      | [] => .ok none
      | [(id, referralCode)] => .ok (
        if referralCode.user = user ∨ (db.growth.referrals.rows user).isSome ∨
            isLikelySelfReferral (db.contacts referralCode.user) (db.contacts user) then none
        else some id)
      | _ :: _ :: _ => .error (.multipleObjectsReturned "ReferralCode")

end ReferralService

namespace Growth

def setReferral (growth : Growth) (user : UserId) (referral : Referral) : Growth :=
  { growth with referrals := growth.referrals.put user referral }

def updateOrderGrowth (growth : Growth) (o : OrderId) (f : OrderGrowth → OrderGrowth) : Growth :=
  { growth with
    orderGrowth := fun p => if p = o then f (growth.orderGrowth o) else growth.orderGrowth p }

end Growth

namespace ReferralService

/-- A user's first referral; `none` if there is no user or the user has been referred before. -/
def attachPendingReferral (user : Option UserId) (id : ReferralCodeId)
    (referralCode : ReferralCode) : GrowthTx (Option Referral) := Tx.atomic do
  match user with
  | none => return none
  | some user => do
    let db ← Tx.getDb
    if (db.growth.referrals.rows user).isSome then
      return none
    let referral : Referral := { referrer := referralCode.user, referralCode := id }
    GrowthTx.modifyGrowth fun growth => growth.setReferral user referral
    return some referral

end ReferralService

/-! ## The facade -/

deriving instance DecidableEq for GrowthCheckoutContext

namespace GrowthCheckoutFacade

/-- The codes that a checkout may come with: those of the form, and those kept in the cart. -/
structure Codes where
  couponCode : String := ""
  cartCouponCode : String := ""
  referralCode : String := ""
  cartReferralCode : String := ""

/-- The whole of `GrowthCheckoutContext`. -/
structure Context extends GrowthCheckoutContext where
  referralCode : String := ""
  coupon : Option CouponId := none
  referralCodeObj : Option ReferralCodeId := none
  promotionLabels : List String := []
  deriving DecidableEq

def prepare (env : Env) (db : GrowthDatabase) (items : List CartItem) (user : Option UserId)
    (codes : Codes) (subtotal : Money) : Except Exn Context := do
  let couponCode := firstCode codes.couponCode codes.cartCouponCode
  let referralCode := firstCode codes.referralCode codes.cartReferralCode
  let coupon ← CouponService.validate env db couponCode subtotal user
  let promo ← PromotionRuleService.evaluate env db items user subtotal
  let referralCodeObj ← ReferralService.validateForCheckout db referralCode user
  pure
    { couponDiscount := coupon.discountAmount, promotionDiscount := promo.totalDiscount,
      totalDiscount := min subtotal (coupon.discountAmount + promo.totalDiscount),
      error := coupon.error, coupon := coupon.coupon, referralCode, referralCodeObj,
      promotionLabels := promo.appliedRules }

/-- The note that names the promotion rules, unless the notes have it already. -/
def withPromoNote (labels : List String) (notes : String) : String :=
  let promoNote := " promo:" ++ ",".intercalate labels
  if labels = [] ∨ (notes.splitOn promoNote).length ≠ 1 then notes else notes ++ promoNote

def applyToOrder (o : OrderId) (ctx : Context) (user : Option UserId) : GrowthTx Unit :=
  Tx.atomic do
    GrowthTx.onShop (Crumbs.applyToOrder o ctx.toGrowthCheckoutContext)
    GrowthTx.modifyGrowth fun growth => growth.updateOrderGrowth o ({ · with
      coupon := ctx.coupon
      referralCodeApplied := if ctx.referralCodeObj.isSome then ctx.referralCode else "" })
    let db ← Tx.getDb
    Tx.when user.isSome <| Tx.ifSome
      (ctx.referralCodeObj.bind fun id => (db.growth.referralCodes.rows id).map fun r => (id, r))
      fun e => Tx.void do
        let order ← GrowthTx.onShop (lockOrder o)
        ReferralService.attachPendingReferral order.user e.1 e.2
    GrowthTx.modifyGrowth fun growth => growth.updateOrderGrowth o fun columns =>
      { columns with notes := withPromoNote ctx.promotionLabels columns.notes }

end GrowthCheckoutFacade

end Crumbs
