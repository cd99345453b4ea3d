import Crumbs.Db.Keyed
import Crumbs.Models
import Mathlib.Data.Rat.Floor

/-!
# Models of Growth and Loyalty

The tables of the `growth` and `loyalty` apps with the fields that their services read or write,
and the columns of an order that only these services look at.

## Contents

- `quantize`, `numericColumn`: rounding to hundredths
- `Loyalty`: accounts and their transactions
- `Coupon`, `PromotionRule`, `Referral`, `RevenueAttribution` and the other rows
- `Growth`, `GrowthDatabase`: the tables, and the shop with them
-/

namespace Crumbs

open Crumbs.Db

abbrev CouponId := ℕ
abbrev ReferralCodeId := ℕ
abbrev TrackerId := ℕ

/-! ## Rounding -/

/-- The nearest integer; a half goes to the even neighbour. -/
def roundHalfEven (x : ℚ) : ℤ :=
  let below := ⌊x⌋
  let rest := x - below
  if rest < 1 / 2 then below
  else if 1 / 2 < rest then below + 1
  else if below % 2 = 0 then below else below + 1

/-- `Decimal.quantize(Decimal("0.01"))` of an amount. -/
def quantize (amount : ℚ) : Money := roundHalfEven (amount * 100)

/-- An amount as a column with two places stores it: a half is rounded away from zero. -/
def numericColumn (amount : ℚ) : Money :=
  if 0 ≤ amount then ⌊amount * 100 + 1 / 2⌋ else -⌊-amount * 100 + 1 / 2⌋

/-- The `Decimal` that an amount counts the hundredths of. -/
def Money.toRat (m : Money) : ℚ := (m : ℚ) / 100

/-! ## Loyalty -/

/-- `LoyaltyAccount.Tier` -/
inductive Tier where
  | normal
  | silver
  | gold
  deriving DecidableEq, Repr

structure LoyaltyAccount where
  points : ℕ := 0
  lifetimePoints : ℕ := 0
  lifetimeSpend : Money := 0
  tier : Tier := .normal
  deriving DecidableEq, Repr

/-- `LoyaltyTransaction.Type` -/
inductive TransactionType where
  | earn
  | redeem
  | adjust
  deriving DecidableEq, Repr

/-- A transaction of the account of a user. -/
structure LoyaltyTransaction where
  account : UserId
  transactionType : TransactionType
  points : ℤ
  balanceAfter : ℕ
  order : Option OrderId
  description : String
  deriving DecidableEq, Repr

/-- The tables of the loyalty app; a user has at most one account. -/
structure Loyalty where
  accounts : UserId → Option LoyaltyAccount := fun _ => none
  transactions : List LoyaltyTransaction := []

/-! ## Growth -/

/-- `Coupon.DiscountType` -/
inductive DiscountType where
  | percentage
  | fixed
  deriving DecidableEq, Repr

/-- `Coupon.CampaignType` -/
inductive CampaignType where
  | general
  | firstOrder
  | seasonal
  | abandonedCart
  deriving DecidableEq, Repr

structure Coupon where
  code : String
  discountType : DiscountType
  discountValue : Money
  campaignType : CampaignType := .general
  minOrderAmount : Money := 0
  maxDiscountAmount : Option Money := none
  usageLimitGlobal : Option ℕ := none
  usageLimitPerUser : ℕ := 1
  usageCount : ℕ := 0
  validFrom : Option Time := none
  validUntil : Option Time := none
  isActive : Bool := true
  deriving DecidableEq, Repr

structure CouponRedemption where
  coupon : CouponId
  user : Option UserId
  order : OrderId
  discountAmount : Money
  deriving DecidableEq, Repr

structure ReferralCode where
  user : UserId
  code : String
  isActive : Bool := true
  deriving DecidableEq, Repr

/-- `Referral.Status` -/
inductive ReferralStatus where
  | pending
  | completed
  | rewarded
  deriving DecidableEq, Repr

structure Referral where
  referrer : UserId
  referralCode : ReferralCodeId
  firstOrder : Option OrderId := none
  status : ReferralStatus := .pending
  referrerRewardPoints : ℕ := 0
  referredDiscountAmount : Money := 0
  rewardedAt : Option Time := none
  deriving DecidableEq, Repr

/-- `PromotionRule.RuleType` -/
inductive RuleType where
  | weekendDiscount
  | vipDiscount
  | buyXGetY
  | categoryDiscount
  deriving DecidableEq, Repr

/-- The keys of a rule's `config` that are read; an absent key has a default where it is read. -/
structure RuleConfig where
  percent : Option ℚ := none
  weekdays : Option (List ℤ) := none
  tiers : Option (List Tier) := none
  categorySlugs : Option (List String) := none
  buyQty : Option ℤ := none
  buyCategorySlugs : Option (List String) := none
  freeItemValue : Option ℚ := none

structure PromotionRule where
  name : String
  ruleType : RuleType
  config : RuleConfig := {}
  priority : ℕ := 100
  validFrom : Option Time := none
  validUntil : Option Time := none
  isActive : Bool := true

/-- `CustomerCLVProfile.RevenueTier` -/
inductive RevenueTier where
  | low
  | medium
  | high
  deriving DecidableEq, Repr

/-- `CustomerCLVProfile.FrequencyTag` -/
inductive FrequencyTag where
  | new
  | occasional
  | regular
  | loyal
  deriving DecidableEq, Repr

structure CustomerCLVProfile where
  lifetimeRevenue : Money := 0
  orderCount : ℕ := 0
  avgOrderValue : Money := 0
  clvScore : Money := 0
  revenueTier : RevenueTier := .low
  frequencyTag : FrequencyTag := .new
  lastOrderAt : Option Time := none
  deriving DecidableEq, Repr

/-- `RevenueAttribution.SourceType` -/
inductive SourceType where
  | sms
  | coupon
  | referral
  | promotion
  deriving DecidableEq, Repr

/-- The `metadata` of an attribution. -/
inductive AttributionMetadata where
  | none
  | coupon (couponCode : String)
  | referral (referrer : Option UserId) (referrerPoints : ℕ)
  | tracker (tracker : TrackerId) (reminderCount : ℕ) (offeredCoupon : Option CouponId)
  deriving DecidableEq, Repr

structure RevenueAttribution where
  order : OrderId
  sourceType : SourceType
  sourceId : String
  sourceLabel : String
  attributedAmount : Money
  metadata : AttributionMetadata := .none
  deriving DecidableEq, Repr

/-- `AbandonedCartTracker.Status` -/
inductive TrackerStatus where
  | active
  | reminded
  | recovered
  | expired
  deriving DecidableEq, Repr

structure AbandonedCartTracker where
  status : TrackerStatus := .active
  recoveredOrder : Option OrderId := none
  funnelStep : ℕ := 0
  reminderCount : ℕ := 0
  offeredCoupon : Option CouponId := none
  smsConversionTracked : Bool := false
  updatedAt : Time
  deriving DecidableEq, Repr

/-- A `GrowthEvent` of the type SMS_CONVERSION. -/
structure SmsConversion where
  user : Option UserId
  order : OrderId
  tracker : TrackerId
  deriving DecidableEq, Repr

/-- The columns of an order that only the growth app reads. -/
structure OrderGrowth where
  coupon : Option CouponId := none
  referralCodeApplied : String := ""
  notes : String := ""
  deriving DecidableEq, Repr

/-- The tables of the growth app, with those of the loyalty app. `category` is the slug of a
    product's category. Referrals are found by the user that was referred. -/
structure Growth where
  coupons : Table Coupon := .empty
  redemptions : List CouponRedemption := []
  referralCodes : Table ReferralCode := .empty
  referrals : Keyed UserId Referral := .empty
  promotionRules : Table PromotionRule := .empty
  clvProfiles : UserId → Option CustomerCLVProfile := fun _ => none
  attributions : List RevenueAttribution := []
  trackers : Table AbandonedCartTracker := .empty
  smsConversions : List SmsConversion := []
  orderGrowth : OrderId → OrderGrowth := fun _ => {}
  category : ProductId → String := fun _ => ""
  loyalty : Loyalty := {}

/-- What two users are compared by: the email, and the phone number of the profile. -/
structure UserContact where
  email : String := ""
  phone : String := ""
  deriving DecidableEq, Repr

/-- The shop with the tables of the growth app. -/
structure GrowthDatabase where
  shop : Shop
  growth : Growth := {}
  contacts : UserId → UserContact := fun _ => {}

/-- The settings of the growth and loyalty apps, with their defaults. -/
structure GrowthSettings where
  loyaltyPointsPer1000Toman : ℕ := 10
  loyaltySilverThreshold : ℕ := 1000
  loyaltyGoldThreshold : ℕ := 5000
  referralRewardPoints : ℕ := 100
  referralOnboardingCoupon : String := "WELCOME10"

/-- An order as the services of the growth app are handed it. -/
structure OrderInstance extends Order, OrderGrowth where
  id : OrderId

/-- Work on the shop and the tables of the growth app. -/
abbrev GrowthTx := Tx GrowthDatabase (List Observation) Exn

namespace GrowthTx

/-- Shop work inside growth work. -/
def onShop {α : Type} (x : ShopTx α) : GrowthTx α :=
  Tx.zoom GrowthDatabase.shop (fun shop db => { db with shop }) x

/-- A write to the tables of the growth app. -/
def modifyGrowth (f : Growth → Growth) : GrowthTx Unit :=
  Tx.modifyDb fun db => { db with growth := f db.growth }

end GrowthTx

end Crumbs
