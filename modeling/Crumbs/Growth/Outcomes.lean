import Crumbs.Growth.Payment

/-!
# What the Growth Services Do

Each service that follows a payment does its work, or finds that there is nothing to do and leaves
everything as it is, or raises.

## Contents

- `CouponService.redeem_cases`
- `ReferralService.reward_run`, `finalizeOnPayment_cases`
- `AttributionService.getOrCreate_cases`, `attributeOnce_cases`, `attributeSms_cases`
-/

namespace Crumbs

open Crumbs.Db

/-- The worlds that work on the growth app runs in. -/
abbrev GrowthWorld := World GrowthDatabase (List Observation)

/-- The same world with other tables of the growth app. -/
def withGrowth (w : GrowthWorld) (growth : Growth) : GrowthWorld :=
  { w with db := { w.db with growth } }

@[simp] theorem withGrowth_self (w : GrowthWorld) : withGrowth w w.db.growth = w := rfl

@[simp] theorem withGrowth_withGrowth (w : GrowthWorld) (g g' : Growth) :
    withGrowth (withGrowth w g) g' = withGrowth w g' := rfl

/-! ## The coupon -/

namespace CouponService

def newRedemption (coupon : CouponId) (order : OrderInstance) (user : Option UserId) :
    CouponRedemption where
  coupon := coupon
  user := user <|> order.user
  order := order.id
  discountAmount := order.discountAmount

/-- The tables when the coupon is redeemed with the order. -/
def redeemedGrowth (coupon : CouponId) (order : OrderInstance) (user : Option UserId)
    (growth : Growth) : Growth :=
  { growth with
    redemptions := growth.redemptions ++ [newRedemption coupon order user]
    coupons := growth.coupons.modify coupon fun c => { c with usageCount := c.usageCount + 1 } }

/-- An order that has a redemption keeps it. -/
theorem redeem_cases (coupon : CouponId) (order : OrderInstance) (user : Option UserId)
    (w : GrowthWorld) :
    (∃ r ∈ w.db.growth.redemptions, r.order = order.id ∧ redeem coupon order user w = (.ok r, w)) ∨
    (∀ r ∈ w.db.growth.redemptions, r.order ≠ order.id) ∧ redeem coupon order user w =
      (.ok (newRedemption coupon order user),
        withGrowth w (redeemedGrowth coupon order user w.db.growth)) := by
  cases hfind : w.db.growth.redemptions.find? fun r => r.order = order.id with
  | some r =>
    refine .inl ⟨r, List.mem_of_find?_eq_some hfind, ?_, Tx.atomic_of_ok ?_⟩
    · exact of_decide_eq_true (List.find?_some hfind :)
    · refine (Tx.bind_of_ok rfl).trans ?_
      simp only [hfind]
      rfl
  | none =>
    refine .inr ⟨fun r hr h => ?_, Tx.atomic_of_ok ((Tx.bind_of_ok rfl).trans ?_)⟩
    · exact List.find?_eq_none.1 hfind r hr (decide_eq_true h)
    · simp only [hfind]
      rfl

end CouponService

section Redeemed

variable {order : OrderInstance} {growth : Growth}

/-- The tables when the coupon of the order is redeemed, if it has one. -/
def redeemedBy (order : OrderInstance) (growth : Growth) : Growth :=
  match order.coupon with
  | none => growth
  | some coupon =>
    if ∃ r ∈ growth.redemptions, r.order = order.id then growth
    else CouponService.redeemedGrowth coupon order order.user growth

theorem redeemedBy_of_none (h : order.coupon = none) : redeemedBy order growth = growth := by
  rw [redeemedBy, h]

theorem redeemedBy_of_mem {r : CouponRedemption} (hr : r ∈ growth.redemptions)
    (ho : r.order = order.id) : redeemedBy order growth = growth := by
  rw [redeemedBy]
  split
  next => rfl
  next => exact if_pos ⟨r, hr, ho⟩

theorem redeemedBy_of_fresh {coupon : CouponId} (hcoupon : order.coupon = some coupon)
    (hfresh : ∀ r ∈ growth.redemptions, r.order ≠ order.id) :
    redeemedBy order growth = CouponService.redeemedGrowth coupon order order.user growth := by
  rw [redeemedBy, hcoupon]
  exact if_neg fun ⟨r, hr, ho⟩ => hfresh r hr ho

/-- What the limits of the coupons are about. -/
def Growth.uses (growth : Growth) : Table Coupon × List CouponRedemption :=
  (growth.coupons, growth.redemptions)

end Redeemed

/-! ## The referral -/

namespace Loyalty

@[simp] theorem setAccount_setAccount (loyalty : Loyalty) (user : UserId)
    (a a' : LoyaltyAccount) :
    (loyalty.setAccount user a).setAccount user a' = loyalty.setAccount user a' := by
  simp only [setAccount, mk.injEq, and_true]
  funext u
  split <;> rfl

/-- The referrer has the points for the order. -/
def rewarded (settings : GrowthSettings) (order : OrderInstance) (referrer : UserId)
    (loyalty : Loyalty) : Loyalty :=
  let account := loyalty.account referrer
  let points := account.points + settings.referralRewardPoints
  (loyalty.setAccount referrer { account with
    points
    lifetimePoints := account.lifetimePoints + settings.referralRewardPoints }).record
      { account := referrer, transactionType := .earn, points := settings.referralRewardPoints,
        balanceAfter := points, order := some order.id,
        description := s!"Referral reward for order {order.orderNumber}" }

end Loyalty

namespace ReferralService

/-- The referral when it is rewarded. -/
def rewarded (env : Env) (settings : GrowthSettings) (order : OrderInstance) (growth : Growth)
    (referral : Referral) : Referral :=
  { referral with
    firstOrder := some order.id
    referrerRewardPoints := settings.referralRewardPoints
    referredDiscountAmount := match onboardingCoupon settings growth with
      | some coupon => CouponService.calculateDiscount coupon order.subtotal
      | none => referral.referredDiscountAmount
    status := .rewarded
    rewardedAt := some env.now }

/-- The tables when the referral of a user is rewarded. -/
def rewardedGrowth (env : Env) (settings : GrowthSettings) (order : OrderInstance) (user : UserId)
    (referral : Referral) (growth : Growth) : Growth :=
  { growth with
    referrals := growth.referrals.put user (rewarded env settings order growth referral)
    loyalty := growth.loyalty.rewarded settings order referral.referrer }

theorem reward_run (env : Env) (settings : GrowthSettings) (order : OrderInstance) (user : UserId)
    (referral : Referral) (w : GrowthWorld) : reward env settings order user referral w =
      (.ok (rewarded env settings order w.db.growth referral),
        withGrowth w (rewardedGrowth env settings order user referral w.db.growth)) := by
  have hrun : reward env settings order user referral w =
      (.ok (rewarded env settings order w.db.growth referral), withGrowth w
        { w.db.growth with
          referrals := (w.db.growth.referrals.put user
            { referral with firstOrder := some order.id, status := .completed }).put user
              (rewarded env settings order w.db.growth referral)
          loyalty :=
            let account := w.db.growth.loyalty.account referral.referrer
            let points := account.points + settings.referralRewardPoints
            ((w.db.growth.loyalty.setAccount referral.referrer account).setAccount referral.referrer
              { account with
                points
                lifetimePoints := account.lifetimePoints + settings.referralRewardPoints }).record
              { account := referral.referrer, transactionType := .earn,
                points := settings.referralRewardPoints, balanceAfter := points,
                order := some order.id,
                description := s!"Referral reward for order {order.orderNumber}" } }) := rfl
  simp only [Keyed.put_put, Loyalty.setAccount_setAccount] at hrun
  exact hrun

/-- It does not matter what the referral was before. -/
theorem rewardedGrowth_setReferral (env : Env) (settings : GrowthSettings) (order : OrderInstance)
    (user : UserId) (referral before : Referral) (growth : Growth) :
    rewardedGrowth env settings order user referral (growth.setReferral user before) =
      rewardedGrowth env settings order user referral growth :=
  congrArg (fun referrals => { rewardedGrowth env settings order user referral growth with referrals })
    (growth.referrals.put_put user before (rewarded env settings order growth referral))

/-- The codes that the code of an order may stand for. -/
def codesOf (growth : Growth) (order : OrderInstance) : List (ReferralCodeId × ReferralCode) :=
  growth.referralCodes.filter fun r => upper r.code = upper order.referralCodeApplied

/-- The referral of the buyer, which is there or can be made. -/
def referralOf (growth : Growth) (order : OrderInstance) (user : UserId) : Option Referral :=
  pendingReferral growth user <|> match codesOf growth order with
    | [(id, referralCode)] => some { referrer := referralCode.user, referralCode := id }
    | _ => none

/-- The order does not complete a referral. -/
def NoReward (order : OrderInstance) (growth : Growth) : Prop :=
  ∀ user, order.user = some user → order.paymentStatus.isSuccessful →
    pendingReferral growth user = none ∧ (order.referralCodeApplied = "" ∨
      (codesOf growth order).length ≠ 1 ∨ (growth.referrals.rows user).isSome)

/-- The search for the code of the order fails. -/
def CodeIsAmbiguous (order : OrderInstance) (growth : Growth) : Prop :=
  ∃ user, order.user = some user ∧ order.paymentStatus.isSuccessful ∧
    pendingReferral growth user = none ∧ order.referralCodeApplied ≠ "" ∧
      2 ≤ (codesOf growth order).length

theorem CodeIsAmbiguous.noReward {order : OrderInstance} {growth : Growth}
    (h : CodeIsAmbiguous order growth) : NoReward order growth := by
  obtain ⟨u, hu, -, hpending, -, hmany⟩ := h
  intro u' hu' _
  obtain rfl := Option.some.inj (hu.symm.trans hu')
  exact ⟨hpending, .inr (.inl (by omega))⟩

section Referral

variable {env : Env} {settings : GrowthSettings} {order : OrderInstance} {w : GrowthWorld}

theorem not_codeIsAmbiguous {growth : Growth} {user : UserId} (huser : order.user = some user)
    (h : pendingReferral growth user ≠ none ∨ order.referralCodeApplied = "" ∨
      (codesOf growth order).length < 2) : ¬CodeIsAmbiguous order growth := by
  rintro ⟨u, hu, -, hpending, hcode, hmany⟩
  obtain rfl := Option.some.inj (huser.symm.trans hu)
  rcases h with h | h | h
  · exact h hpending
  · exact hcode h
  · omega

/-- A referral is found, which is there or is attached; or there is none to be rewarded; or `get`
    fails. -/
theorem referralToReward_cases {user : UserId} (huser : order.user = some user) :
    ¬CodeIsAmbiguous order w.db.growth ∧ ((∃ referral growth,
      (order.paymentStatus.isSuccessful → ¬NoReward order w.db.growth) ∧
      referralOf w.db.growth order user = some referral ∧
      referralToReward order user w = (.ok (some referral), withGrowth w growth) ∧
        (growth = w.db.growth ∨ growth = w.db.growth.setReferral user referral)) ∨
      NoReward order w.db.growth ∧ referralToReward order user w = (.ok none, w)) ∨
    (order.paymentStatus.isSuccessful → CodeIsAmbiguous order w.db.growth) ∧
      ∃ e, referralToReward order user w = (.error e, w) := by
  have hnoReward (hpending : pendingReferral w.db.growth user = none)
      (h : order.referralCodeApplied = "" ∨ (codesOf w.db.growth order).length ≠ 1 ∨
        (w.db.growth.referrals.rows user).isSome) : NoReward order w.db.growth := by
    intro u hu _
    obtain rfl := Option.some.inj (huser.symm.trans hu)
    exact ⟨hpending, h⟩
  cases hpending : pendingReferral w.db.growth user with
  | some referral =>
    refine .inl ⟨not_codeIsAmbiguous huser (.inl (hpending ▸ Option.some_ne_none _)),
      .inl ⟨referral, w.db.growth, fun hpaid hnone => ?_, ?_, (Tx.bind_of_ok rfl).trans ?_,
        .inl rfl⟩⟩
    · cases hpending.symm.trans (hnone user huser hpaid).1
    · rw [referralOf, hpending]
      rfl
    · simp only [hpending]
      rfl
  | none =>
    by_cases hcode : order.referralCodeApplied = ""
    · refine .inl ⟨not_codeIsAmbiguous huser (.inr (.inl hcode)),
        .inr ⟨hnoReward hpending (.inl hcode), (Tx.bind_of_ok rfl).trans ?_⟩⟩
      simp only [hpending, if_pos hcode]
      rfl
    · have hrun : referralToReward order user w =
          (match codesOf w.db.growth order with
            | [] => pure none
            | [(id, referralCode)] => attachPendingReferral order.user id referralCode
            | _ :: _ :: _ => Tx.raise (.multipleObjectsReturned "ReferralCode") :
              GrowthTx (Option Referral)) w := by
        refine (Tx.bind_of_ok rfl).trans ?_
        simp only [hpending, if_neg hcode]
        rfl
      rw [hrun]
      rcases hcodes : codesOf w.db.growth order with _ | ⟨⟨id, referralCode⟩, _ | ⟨other, rest⟩⟩
      · have hlength : (codesOf w.db.growth order).length = 0 := by rw [hcodes]; rfl
        exact .inl ⟨not_codeIsAmbiguous huser (.inr (.inr (by omega))),
          .inr ⟨hnoReward hpending (.inr (.inl (by omega))), rfl⟩⟩
      · have hlength : (codesOf w.db.growth order).length = 1 := by rw [hcodes]; rfl
        refine .inl ⟨not_codeIsAmbiguous huser (.inr (.inr (by omega))), ?_⟩
        dsimp only
        rw [attachPendingReferral.eq_def, huser]
        by_cases hreferred : (w.db.growth.referrals.rows user).isSome
        · refine .inr ⟨hnoReward hpending (.inr (.inr hreferred)),
            Tx.atomic_of_ok ((Tx.bind_of_ok rfl).trans ?_)⟩
          simp only [hreferred, if_true]
          rfl
        · refine .inl ⟨{ referrer := referralCode.user, referralCode := id }, _, fun hpaid hnone => ?_,
            by rw [referralOf, hpending, hcodes]; rfl,
            Tx.atomic_of_ok ((Tx.bind_of_ok rfl).trans ?_), .inr rfl⟩
          · rcases (hnone user huser hpaid).2 with h | h | h
            · exact hcode h
            · exact h hlength
            · exact hreferred h
          · simp only [hreferred, Bool.false_eq_true, if_false]
            rfl
      · refine .inr ⟨fun hpaid => ⟨user, huser, hpaid, hpending, hcode, ?_⟩, _, rfl⟩
        rw [hcodes]
        exact Nat.le_add_left 2 _

/-- A referral is rewarded; or none is to be, and nothing changes; or `get` fails. -/
theorem finalizeOnPayment_cases (env : Env) (settings : GrowthSettings) (order : OrderInstance)
    (w : GrowthWorld) :
    ¬CodeIsAmbiguous order w.db.growth ∧ ((∃ user referral, order.user = some user ∧
      ¬NoReward order w.db.growth ∧ referralOf w.db.growth order user = some referral ∧
      finalizeOnPayment env settings order w =
        (.ok (some (rewarded env settings order w.db.growth referral)),
          withGrowth w (rewardedGrowth env settings order user referral w.db.growth))) ∨
      NoReward order w.db.growth ∧ finalizeOnPayment env settings order w = (.ok none, w)) ∨
    CodeIsAmbiguous order w.db.growth ∧
      ∃ e, finalizeOnPayment env settings order w = (.error e, w) := by
  rw [finalizeOnPayment]
  cases huser : order.user with
  | none =>
    refine .inl ⟨fun ⟨_, h, _⟩ => ?_, .inr ⟨fun _ h => ?_, rfl⟩⟩
    · cases huser.symm.trans h
    · cases huser.symm.trans h
  | some user =>
    by_cases hpaid : order.paymentStatus.isSuccessful
    · simp only [hpaid, not_true_eq_false, if_false]
      rcases referralToReward_cases (w := w) huser with
        ⟨hclear, ⟨referral, growth, hreward, hof, hrun, hgrowth⟩ | ⟨hnone, hrun⟩⟩ |
        ⟨hambiguous, e, hrun⟩
      · refine .inl ⟨hclear, .inl ⟨user, referral, rfl, hreward hpaid, hof,
          Tx.atomic_of_ok ((Tx.bind_of_ok hrun).trans ?_)⟩⟩
        refine (Tx.bind_of_ok (reward_run env settings order user referral _)).trans ?_
        rcases hgrowth with rfl | rfl
        · rfl
        · refine congrArg (fun g => (Except.ok _, withGrowth w g)) ?_
          exact rewardedGrowth_setReferral env settings order user referral referral w.db.growth
      · exact .inl ⟨hclear, .inr ⟨hnone, Tx.atomic_of_ok ((Tx.bind_of_ok hrun).trans rfl)⟩⟩
      · exact .inr ⟨hambiguous hpaid, e, Tx.atomic_of_error (Tx.bind_of_error hrun)⟩
    · refine .inl ⟨fun ⟨_, _, h, _⟩ => hpaid h, .inr ⟨fun _ _ h => (hpaid h).elim,
        Tx.atomic_of_ok ?_⟩⟩
      simp only [hpaid, not_false_eq_true, if_true]
      rfl

end Referral

end ReferralService

/-! ## The attributions -/

/-- What an attribution of an order is found by. -/
def RevenueAttribution.source (a : RevenueAttribution) : SourceType × String :=
  (a.sourceType, a.sourceId)

namespace AttributionService

/-- The attributions of an order to a source. -/
def rows (growth : Growth) (o : OrderId) (source : SourceType × String) :
    List RevenueAttribution :=
  growth.attributions.filter fun b => b.order = o ∧ b.source = source

/-- The tables with one more attribution. -/
def append (growth : Growth) (a : RevenueAttribution) : Growth :=
  { growth with attributions := growth.attributions ++ [a] }

theorem found_eq (growth : Growth) (a : RevenueAttribution) :
    found growth a = rows growth a.order a.source := by
  simp only [found, rows, RevenueAttribution.source, Prod.mk.injEq]

theorem getOrCreate_cases (a : RevenueAttribution) (w : GrowthWorld) :
    (rows w.db.growth a.order a.source = [] ∧
      getOrCreate a w = (.ok (a, true), withGrowth w (append w.db.growth a))) ∨
    (∃ b, rows w.db.growth a.order a.source = [b] ∧ getOrCreate a w = (.ok (b, false), w)) ∨
    2 ≤ (rows w.db.growth a.order a.source).length ∧ ∃ e, getOrCreate a w = (.error e, w) := by
  have hfound := found_eq w.db.growth a
  rcases hrows : rows w.db.growth a.order a.source with _ | ⟨b, _ | ⟨b', rest⟩⟩
  · refine .inl ⟨rfl, (Tx.bind_of_ok rfl).trans ?_⟩
    rw [hfound, hrows]
    rfl
  · refine .inr (.inl ⟨b, rfl, (Tx.bind_of_ok rfl).trans ?_⟩)
    rw [hfound, hrows]
    rfl
  · refine .inr (.inr ⟨Nat.le_add_left 2 _, .multipleObjectsReturned "RevenueAttribution",
      (Tx.bind_of_ok rfl).trans ?_⟩)
    rw [hfound, hrows]
    rfl

/-- There is nothing to attribute, or it is attributed now, or it was before, or `get` fails. -/
theorem attributeOnce_cases (attribution : Growth → Option RevenueAttribution) (w : GrowthWorld) :
    (attribution w.db.growth = none ∧ attributeOnce attribution w = (.ok [], w)) ∨
    ∃ a, attribution w.db.growth = some a ∧
      ((rows w.db.growth a.order a.source = [] ∧
        attributeOnce attribution w = (.ok [a], withGrowth w (append w.db.growth a))) ∨
      (∃ b, rows w.db.growth a.order a.source = [b] ∧ attributeOnce attribution w = (.ok [b], w)) ∨
      2 ≤ (rows w.db.growth a.order a.source).length ∧
        ∃ e, attributeOnce attribution w = (.error e, w)) := by
  cases hattribution : attribution w.db.growth with
  | none =>
    refine .inl ⟨rfl, (Tx.bind_of_ok rfl).trans ?_⟩
    rw [hattribution]
    rfl
  | some a =>
    have hrun : attributeOnce attribution w =
        (getOrCreate a >>= fun r => pure [r.1] : GrowthTx (List RevenueAttribution)) w := by
      refine (Tx.bind_of_ok rfl).trans ?_
      rw [hattribution]
    rw [hrun]
    refine .inr ⟨a, rfl, ?_⟩
    rcases getOrCreate_cases a w with ⟨hnone, hget⟩ | ⟨b, hone, hget⟩ | ⟨hmany, e, hget⟩
    · exact .inl ⟨hnone, (Tx.bind_of_ok hget).trans rfl⟩
    · exact .inr (.inl ⟨b, hone, (Tx.bind_of_ok hget).trans rfl⟩)
    · exact .inr (.inr ⟨hmany, e, Tx.bind_of_error hget⟩)

def converted (now : Time) (tracker : AbandonedCartTracker) : AbandonedCartTracker :=
  { tracker with smsConversionTracked := true, updatedAt := now }

/-- The tables when the conversion of a tracker is on record. -/
def convertedGrowth (env : Env) (order : OrderInstance) (tracker : TrackerId) (growth : Growth) :
    Growth :=
  { growth with
    trackers := growth.trackers.modify tracker (converted env.now)
    smsConversions := growth.smsConversions ++ [{ user := order.user, order := order.id, tracker }] }

/-- The tracker that an order's revenue is attributed to. -/
def trackerOf (order : OrderInstance) (growth : Growth) :
    Option (TrackerId × AbandonedCartTracker) :=
  order.user.bind fun _ => recoveredTracker growth order.id

theorem attributeSms_cases (env : Env) (order : OrderInstance) (w : GrowthWorld) :
    (trackerOf order w.db.growth = none ∧ attributeSms env order w = (.ok [], w)) ∨
    ∃ e, trackerOf order w.db.growth = some e ∧
      let a := smsAttribution order e
      ((rows w.db.growth a.order a.source = [] ∧ attributeSms env order w = (.ok [a], withGrowth w
          (if e.2.smsConversionTracked = false then
            convertedGrowth env order e.1 (append w.db.growth a)
          else append w.db.growth a))) ∨
      (∃ b, rows w.db.growth a.order a.source = [b] ∧ attributeSms env order w = (.ok [b], w)) ∨
      2 ≤ (rows w.db.growth a.order a.source).length ∧
        ∃ exc, attributeSms env order w = (.error exc, w)) := by
  cases huser : order.user with
  | none =>
    refine .inl ⟨by rw [trackerOf, huser]; rfl, (Tx.bind_of_ok rfl).trans ?_⟩
    simp only [huser]
    rfl
  | some user =>
    have hof : trackerOf order w.db.growth = recoveredTracker w.db.growth order.id := by
      rw [trackerOf, huser]
      rfl
    cases htracker : recoveredTracker w.db.growth order.id with
    | none =>
      refine .inl ⟨hof.trans htracker, (Tx.bind_of_ok rfl).trans ?_⟩
      simp only [huser, htracker]
      rfl
    | some e =>
      refine .inr ⟨e, hof.trans htracker, ?_⟩
      have hrun : attributeSms env order w = (do
          let r ← getOrCreate (smsAttribution order e)
          Tx.when (r.2 = true ∧ e.2.smsConversionTracked = false) (trackConversion env order e.1)
          pure [r.1] : GrowthTx (List RevenueAttribution)) w := by
        refine (Tx.bind_of_ok rfl).trans ?_
        simp only [huser, htracker]
      rw [hrun]
      rcases getOrCreate_cases (smsAttribution order e) w with ⟨hnone, hget⟩ | ⟨b, hone, hget⟩ |
        ⟨hmany, exc, hget⟩
      · refine .inl ⟨hnone, (Tx.bind_of_ok hget).trans ?_⟩
        by_cases htracked : e.2.smsConversionTracked = false
        · rw [if_pos htracked]
          exact Tx.bind_of_ok ((Tx.ite_of ⟨rfl, htracked⟩).trans rfl)
        · rw [if_neg htracked]
          exact Tx.bind_of_ok (Tx.when_of_not fun h => htracked h.2)
      · refine .inr (.inl ⟨b, hone, (Tx.bind_of_ok hget).trans ?_⟩)
        exact Tx.bind_of_ok (Tx.when_of_not fun h => Bool.false_ne_true h.1)
      · exact .inr (.inr ⟨hmany, exc, Tx.bind_of_error hget⟩)

end AttributionService

end Crumbs
