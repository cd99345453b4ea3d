import Crumbs.Db.Runs
import Crumbs.Loyalty.Commute

/-!
# The Tier of an Account

The tier of an account follows from its lifetime points. An award works it out again, but the reward
for a referral adds lifetime points and leaves the tier as it is, until the next award. So the tier
is right in the runs in which no reward takes its referrer into another tier.

## Contents

- `LoyaltyCall`, `loyaltyStep`: awards, rewards, and whatever else happens to the other tables
- `Loyalty.Tiered`: every account has the tier of its lifetime points
- `LoyaltyCall.KeepsTier`: the calls after which this is still so
- `tiered_iff`: the tiers are right throughout the runs of such calls, and no others
-/

namespace Crumbs

open Crumbs.Db

/-! ## Runs -/

/-- One of the two services, for some order; or something else, which touches no account. -/
inductive LoyaltyCall where
  | awardPointsForOrder (order : OrderInstance)
  | finalizeOnPayment (env : Env) (order : OrderInstance)
  | elsewhere (change : GrowthDatabase → GrowthDatabase)

def loyaltyStep (settings : GrowthSettings) (db : GrowthDatabase) :
    LoyaltyCall → Option GrowthDatabase
  | .awardPointsForOrder order => some (awardRun settings order db)
  | .finalizeOnPayment env order => some (referralRun env settings order db)
  | .elsewhere change => some ((change db).withLoyalty db.growth.loyalty)

/-- Every account has the tier of its lifetime points. -/
def Loyalty.Tiered (settings : GrowthSettings) (loyalty : Loyalty) : Prop :=
  ∀ user account, loyalty.accounts user = some account →
    account.tier = calculateTier settings account.lifetimePoints

/-- An order without points that makes its buyer an account is no problem if an account may be
    empty; and the referrer who is rewarded has the tier that the points with the reward are
    worth. -/
def LoyaltyCall.KeepsTier (settings : GrowthSettings) (db : GrowthDatabase) : LoyaltyCall → Prop
  | .awardPointsForOrder order =>
      ∀ user ∈ order.user, order.paymentStatus.isSuccessful →
        ¬db.growth.loyalty.hasEarned order.id → pointsForOrderTotal settings order.total ≤ 0 →
          db.growth.loyalty.accounts user = none → calculateTier settings 0 = .normal
  | .finalizeOnPayment _ order =>
      ∀ user ∈ order.user, ¬ReferralService.NoReward order db.growth →
        ∀ referral ∈ ReferralService.referralOf db.growth order user,
          (db.growth.loyalty.account referral.referrer).tier =
            calculateTier settings ((db.growth.loyalty.account referral.referrer).lifetimePoints +
              settings.referralRewardPoints)
  | .elsewhere _ => True

namespace ReferralService

instance (order : OrderInstance) (growth : Growth) : Decidable (NoReward order growth) :=
  inferInstanceAs (Decidable (∀ user ∈ order.user, order.paymentStatus.isSuccessful → _ ∧ _))

end ReferralService

instance (settings : GrowthSettings) (db : GrowthDatabase) :
    (call : LoyaltyCall) → Decidable (call.KeepsTier settings db)
  | .awardPointsForOrder order =>
    inferInstanceAs (Decidable (∀ user ∈ order.user, _ → _ → _ → _ → _))
  | .finalizeOnPayment _ order => inferInstanceAs (Decidable (∀ user ∈ order.user, ¬_ →
      ∀ referral ∈ ReferralService.referralOf db.growth order user, _))
  | .elsewhere _ => inferInstanceAs (Decidable True)

/-! ## Steps -/

section Steps

variable {settings : GrowthSettings} {loyalty : Loyalty} {db db' : GrowthDatabase} {user : UserId}

/-- An account that is written has to have its tier. -/
theorem Loyalty.Tiered.setAccount (h : loyalty.Tiered settings) (user : UserId)
    (account : LoyaltyAccount) : (loyalty.setAccount user account).Tiered settings ↔
      account.tier = calculateTier settings account.lifetimePoints := by
  constructor
  · exact fun hset => hset user account (if_pos rfl)
  · intro htier u a hrow
    by_cases hu : u = user
    · obtain rfl := Option.some.inj ((if_pos hu).symm.trans hrow)
      exact htier
    · exact h u a ((if_neg hu).symm.trans hrow)

/-- The account of a user is tiered, if there is one; an empty one is if it may be normal. -/
theorem Loyalty.Tiered.account (h : loyalty.Tiered settings) (user : UserId) :
    (loyalty.account user).tier = calculateTier settings (loyalty.account user).lifetimePoints ↔
      (loyalty.accounts user = none → calculateTier settings 0 = .normal) := by
  unfold Loyalty.account
  cases hrow : loyalty.accounts user with
  | none => exact ⟨fun htier _ => htier.symm, fun htier => (htier rfl).symm⟩
  | some account => exact iff_of_true (h user account hrow) nofun

/-- Only a paid order of a user is awarded points. -/
theorem awardRun_of_not {order : OrderInstance}
    (h : ∀ user ∈ order.user, ¬order.paymentStatus.isSuccessful) :
    awardRun settings order db = db := by
  rw [awardRun, awardPointsForOrder]
  cases huser : order.user with
  | none => rfl
  | some user =>
    simp only [h user huser, not_false_eq_true, if_true]
    rfl

/-- After an award the account has its tier, unless it is an empty one that may not be normal. -/
theorem tiered_awardRun (h : db.growth.loyalty.Tiered settings) (order : OrderInstance) :
    (awardRun settings order db).growth.loyalty.Tiered settings ↔
      (LoyaltyCall.awardPointsForOrder order).KeepsTier settings db := by
  by_cases hbuyer : ∀ user ∈ order.user, ¬order.paymentStatus.isSuccessful
  · rw [awardRun_of_not hbuyer]
    exact iff_of_true h fun user huser hpaid => absurd hpaid (hbuyer user huser)
  · obtain ⟨user, hmem, hpaid⟩ : ∃ user ∈ order.user, order.paymentStatus.isSuccessful := by
      by_contra hnone
      exact hbuyer fun user hmem hpaid => hnone ⟨user, hmem, hpaid⟩
    have huser : order.user = some user := hmem
    rcases awardRun_cases settings huser hpaid db with ⟨hearned, hrun⟩ |
      ⟨hearned, ⟨hpoints, hrun⟩ | ⟨hpoints, hrun⟩⟩
    · rw [hrun]
      exact iff_of_true h fun _ _ _ hunearned => absurd hearned hunearned
    · rw [hrun]
      refine (h.setAccount user _).trans ((h.account user).trans ?_)
      constructor
      · intro hempty u hu _ _ _
        obtain rfl := Option.some.inj (huser.symm.trans hu)
        exact hempty
      · exact fun hkeeps => hkeeps user hmem hpaid hearned hpoints
    · rw [hrun]
      refine iff_of_true ((h.setAccount user _).2 rfl) fun _ _ _ _ hnone => ?_
      exact absurd hnone (not_le.2 hpoints)

/-- After a reward the account of the referrer has the tier that it had. -/
theorem tiered_referralRun (h : db.growth.loyalty.Tiered settings) (env : Env)
    (order : OrderInstance) : (referralRun env settings order db).growth.loyalty.Tiered settings ↔
      (LoyaltyCall.finalizeOnPayment env order).KeepsTier settings db := by
  have hunrewarded (hnone : ReferralService.NoReward order db.growth) :
      (LoyaltyCall.finalizeOnPayment env order).KeepsTier settings db :=
    fun _ _ hreward => absurd hnone hreward
  rcases ReferralService.finalizeOnPayment_cases env settings order ⟨db, []⟩ with
    ⟨-, ⟨user, referral, huser, hreward, hof, hrun⟩ | ⟨hnone, hrun⟩⟩ | ⟨hambiguous, e, hrun⟩
  · rw [referralRun, hrun]
    refine (h.setAccount referral.referrer _).trans ?_
    constructor
    · intro htier u hu _ r hr
      obtain rfl := Option.some.inj (huser.symm.trans hu)
      obtain rfl := Option.some.inj (hof.symm.trans hr)
      exact htier
    · exact fun hkeeps => hkeeps user huser hreward referral hof
  · rw [referralRun, hrun]
    exact iff_of_true h (hunrewarded hnone)
  · rw [referralRun, hrun]
    exact iff_of_true h (hunrewarded hambiguous.noReward)

end Steps

/-- The tiers are right throughout a run of awards and rewards if and only if no reward takes its
    referrer into another tier, and no empty account is made that has another one. -/
theorem tiered_iff (settings : GrowthSettings) (start : GrowthDatabase) (run : List LoyaltyCall)
    (hstart : start.growth.loyalty.Tiered settings) :
    Throughout (loyaltyStep settings) (fun db => db.growth.loyalty.Tiered settings) start run ↔
      Guarded (loyaltyStep settings) (fun db call => call.KeepsTier settings db) start run := by
  refine throughout_iff_guarded (I := fun _ => True) (fun _ _ _ _ _ => trivial) ?_ trivial hstart
  intro db call db' _ hdb hstep
  cases call with
  | awardPointsForOrder order =>
    obtain rfl := Option.some.inj hstep
    exact tiered_awardRun hdb order
  | finalizeOnPayment env order =>
    obtain rfl := Option.some.inj hstep
    exact tiered_referralRun hdb env order
  | elsewhere change =>
    obtain rfl := Option.some.inj hstep
    exact iff_of_true hdb trivial

/-- An order of the user 2 that is worth ten points less than the tier above the normal one. -/
def dearOrder : OrderInstance := { sweetOrder with user := some 2, total := 9900000, id := 1 }

/-- With a single reward the referrer stays in the normal tier. -/
theorem tiered_iff_rewarded :
    Throughout (loyaltyStep {}) (fun db => db.growth.loyalty.Tiered {}) referredBuyer
        [.finalizeOnPayment {} { sweetOrder with id := 0 }] ↔
      Guarded (loyaltyStep {}) (fun db call => call.KeepsTier {} db) referredBuyer
        [.finalizeOnPayment {} { sweetOrder with id := 0 }] :=
  tiered_iff {} referredBuyer _ nofun

/-- With the points of an order and a reward the referrer has a thousand points and more, and is
    still in the normal tier. -/
theorem not_forall_tiered : ¬∀ (settings : GrowthSettings) (start : GrowthDatabase)
    (run : List LoyaltyCall), start.growth.loyalty.Tiered settings →
      Throughout (loyaltyStep settings) (fun db => db.growth.loyalty.Tiered settings) start run := by
  intro h
  let run : List LoyaltyCall :=
    [.awardPointsForOrder dearOrder, .finalizeOnPayment {} { sweetOrder with id := 0 }]
  have hend : (run.foldlM (loyaltyStep {}) referredBuyer).map (fun db =>
      db.growth.loyalty.accounts 2) = some (some ⟨1090, 1090, 9900000, .normal⟩) := by
    decide +kernel
  obtain ⟨db, hrun, haccount⟩ := Option.map_eq_some_iff.1 hend
  have htier := (h {} referredBuyer run nofun).last hrun 2 _ haccount
  exact absurd htier (by decide)

end Crumbs
