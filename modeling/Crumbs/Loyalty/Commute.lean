import Crumbs.Growth.Outcomes

/-!
# Points and Rewards in Either Order

A paid order leads to two tasks, which run in whatever order the workers take them: the buyer gets
the points of the order, and the referrer of the buyer gets a reward. The reward is a transaction of
the same order, and the award takes it for its own.

## Contents

- `awardPointsForOrder_cases`: what an award does
- `awardRun`, `referralRun`, `Commutes`: the two tasks
- `commutes_iff`, `not_forall_commutes`: when the order of the tasks does not matter
-/

namespace Crumbs

open Crumbs.Db

/-! ## The award -/

namespace Loyalty

/-- The account of the buyer with the points of the order. -/
def awardedAccount (settings : GrowthSettings) (order : OrderInstance) (account : LoyaltyAccount) :
    LoyaltyAccount :=
  let earned := (pointsForOrderTotal settings order.total).toNat
  { points := account.points + earned
    lifetimePoints := account.lifetimePoints + earned
    lifetimeSpend := account.lifetimeSpend + order.total
    tier := calculateTier settings (account.lifetimePoints + earned) }

/-- The buyer has the points of the order. -/
def awarded (settings : GrowthSettings) (order : OrderInstance) (user : UserId)
    (loyalty : Loyalty) : Loyalty :=
  let account := awardedAccount settings order (loyalty.account user)
  (loyalty.setAccount user account).record
    { account := user, transactionType := .earn,
      points := pointsForOrderTotal settings order.total, balanceAfter := account.points,
      order := some order.id, description := s!"Points for order {order.orderNumber}" }

/-- What a customer sees of an account; one that is not there yet is empty. -/
def standing (loyalty : Loyalty) (user : UserId) : ℕ × ℕ × Tier :=
  ((loyalty.account user).points, (loyalty.account user).lifetimePoints,
    (loyalty.account user).tier)

@[simp] theorem account_record (loyalty : Loyalty) (t : LoyaltyTransaction) (u : UserId) :
    (loyalty.record t).account u = loyalty.account u := rfl

theorem account_setAccount (loyalty : Loyalty) (user : UserId) (a : LoyaltyAccount) (u : UserId) :
    (loyalty.setAccount user a).account u = if u = user then a else loyalty.account u := by
  by_cases hu : u = user
  · simp only [account, setAccount, hu, if_true, Option.getD_some]
  · simp only [account, setAccount, hu, if_false]

/-- Looking an account up may create it, and does not show. -/
theorem account_setAccount_self (loyalty : Loyalty) (user u : UserId) :
    (loyalty.setAccount user (loyalty.account user)).account u = loyalty.account u := by
  rw [account_setAccount]
  split
  next h => rw [h]
  next => rfl

theorem account_rewarded (settings : GrowthSettings) (order : OrderInstance) (referrer : UserId)
    (loyalty : Loyalty) (u : UserId) : (loyalty.rewarded settings order referrer).account u =
      if u = referrer then { loyalty.account referrer with
        points := (loyalty.account referrer).points + settings.referralRewardPoints
        lifetimePoints := (loyalty.account referrer).lifetimePoints + settings.referralRewardPoints }
      else loyalty.account u := account_setAccount ..

theorem account_awarded (settings : GrowthSettings) (order : OrderInstance) (user : UserId)
    (loyalty : Loyalty) (u : UserId) : (loyalty.awarded settings order user).account u =
      if u = user then awardedAccount settings order (loyalty.account user)
      else loyalty.account u := account_setAccount ..

theorem hasEarned_record {loyalty : Loyalty} {t : LoyaltyTransaction} {o : OrderId}
    (h : t.order = some o ∧ t.transactionType = .earn) : (loyalty.record t).hasEarned o :=
  ⟨t, List.mem_append_right _ List.mem_cons_self, h⟩

theorem hasEarned_rewarded (settings : GrowthSettings) (order : OrderInstance) (referrer : UserId)
    (loyalty : Loyalty) : (loyalty.rewarded settings order referrer).hasEarned order.id :=
  hasEarned_record ⟨rfl, rfl⟩

end Loyalty

/-- The same world with other tables of the loyalty app. -/
def withLoyalty (w : GrowthWorld) (loyalty : Loyalty) : GrowthWorld :=
  withGrowth w { w.db.growth with loyalty }

theorem awardPointsForOrder_cases (settings : GrowthSettings) {order : OrderInstance} {user : UserId}
    (huser : order.user = some user) (hpaid : order.paymentStatus.isSuccessful) (w : GrowthWorld) :
    (w.db.growth.loyalty.hasEarned order.id ∧ awardPointsForOrder settings order w = (.ok none, w)) ∨
    ¬w.db.growth.loyalty.hasEarned order.id ∧
      ((pointsForOrderTotal settings order.total ≤ 0 ∧ ∃ r, awardPointsForOrder settings order w =
        (.ok r, withLoyalty w
          (w.db.growth.loyalty.setAccount user (w.db.growth.loyalty.account user)))) ∨
      0 < pointsForOrderTotal settings order.total ∧ ∃ r, awardPointsForOrder settings order w =
        (.ok r, withLoyalty w (w.db.growth.loyalty.awarded settings order user))) := by
  rw [awardPointsForOrder, huser]
  simp only [hpaid, not_true_eq_false, if_false]
  by_cases hearned : w.db.growth.loyalty.hasEarned order.id
  · refine .inl ⟨hearned, Tx.atomic_of_ok ((Tx.bind_of_ok rfl).trans ?_)⟩
    simp only [hearned, if_true]
    rfl
  · refine .inr ⟨hearned, ?_⟩
    by_cases hpoints : pointsForOrderTotal settings order.total ≤ 0
    · refine .inl ⟨hpoints, some (w.db.growth.loyalty.account user),
        Tx.atomic_of_ok ((Tx.bind_of_ok rfl).trans ?_)⟩
      simp only [hearned, if_false]
      refine (Tx.bind_of_ok rfl).trans ?_
      simp only [hpoints, if_true]
      rfl
    · refine .inr ⟨not_le.1 hpoints,
        some (Loyalty.awardedAccount settings order (w.db.growth.loyalty.account user)),
        Tx.atomic_of_ok ((Tx.bind_of_ok rfl).trans ?_)⟩
      simp only [hearned, if_false]
      refine (Tx.bind_of_ok rfl).trans ?_
      simp only [hpoints, if_false]
      let loyalty := w.db.growth.loyalty.setAccount user (w.db.growth.loyalty.account user)
      let account := Loyalty.awardedAccount settings order (w.db.growth.loyalty.account user)
      refine Eq.trans (b := (.ok (some account), withLoyalty w ((loyalty.setAccount user account).record
        { account := user, transactionType := .earn,
          points := pointsForOrderTotal settings order.total, balanceAfter := account.points,
          order := some order.id, description := s!"Points for order {order.orderNumber}" }))) rfl ?_
      rw [Loyalty.setAccount_setAccount]
      rfl

/-! ## The two tasks -/

/-- The database after a run of the award. -/
def awardRun (settings : GrowthSettings) (order : OrderInstance) (db : GrowthDatabase) :
    GrowthDatabase := (awardPointsForOrder settings order ⟨db, []⟩).2.db

/-- The database after a run of the referral's part of the other task. -/
def referralRun (env : Env) (settings : GrowthSettings) (order : OrderInstance)
    (db : GrowthDatabase) : GrowthDatabase :=
  (ReferralService.finalizeOnPayment env settings order ⟨db, []⟩).2.db

/-- It does not matter to anybody's account which task runs first. -/
def Commutes (env : Env) (settings : GrowthSettings) (order : OrderInstance)
    (db : GrowthDatabase) : Prop :=
  ∀ user,
    (referralRun env settings order (awardRun settings order db)).growth.loyalty.standing user =
      (awardRun settings order (referralRun env settings order db)).growth.loyalty.standing user

/-- The same database with other tables of the loyalty app. -/
def GrowthDatabase.withLoyalty (db : GrowthDatabase) (loyalty : Loyalty) : GrowthDatabase :=
  { db with growth := { db.growth with loyalty } }

section Tasks

variable {env : Env} {settings : GrowthSettings} {order : OrderInstance} {user : UserId}
  {db : GrowthDatabase}

theorem awardRun_cases (settings : GrowthSettings) (huser : order.user = some user)
    (hpaid : order.paymentStatus.isSuccessful) (db : GrowthDatabase) :
    (db.growth.loyalty.hasEarned order.id ∧ awardRun settings order db = db) ∨
    ¬db.growth.loyalty.hasEarned order.id ∧
      ((pointsForOrderTotal settings order.total ≤ 0 ∧ awardRun settings order db =
        db.withLoyalty (db.growth.loyalty.setAccount user (db.growth.loyalty.account user))) ∨
      0 < pointsForOrderTotal settings order.total ∧ awardRun settings order db =
        db.withLoyalty (db.growth.loyalty.awarded settings order user)) := by
  rcases awardPointsForOrder_cases settings huser hpaid ⟨db, []⟩ with ⟨hearned, hrun⟩ |
    ⟨hearned, ⟨hpoints, r, hrun⟩ | ⟨hpoints, r, hrun⟩⟩
  · exact .inl ⟨hearned, by rw [awardRun, hrun]⟩
  · exact .inr ⟨hearned, .inl ⟨hpoints, by rw [awardRun, hrun]; rfl⟩⟩
  · exact .inr ⟨hearned, .inr ⟨hpoints, by rw [awardRun, hrun]; rfl⟩⟩

theorem referralRun_cases (env : Env) (settings : GrowthSettings) (huser : order.user = some user)
    (db : GrowthDatabase) :
    (¬ReferralService.NoReward order db.growth ∧ ∃ referral,
      ReferralService.referralOf db.growth order user = some referral ∧
        (referralRun env settings order db).growth.loyalty =
          db.growth.loyalty.rewarded settings order referral.referrer) ∨
    ReferralService.NoReward order db.growth ∧ referralRun env settings order db = db := by
  rcases ReferralService.finalizeOnPayment_cases env settings order ⟨db, []⟩ with
    ⟨-, ⟨u, referral, hu, hreward, hof, hrun⟩ | ⟨hnone, hrun⟩⟩ | ⟨hambiguous, e, hrun⟩
  · obtain rfl := Option.some.inj (huser.symm.trans hu)
    exact .inl ⟨hreward, referral, hof, by rw [referralRun, hrun]; rfl⟩
  · exact .inr ⟨hnone, by rw [referralRun, hrun]⟩
  · exact .inr ⟨hambiguous.noReward, by rw [referralRun, hrun]⟩

/-- The tables of the growth app after the task. -/
theorem referralRun_growth (env : Env) (settings : GrowthSettings) (huser : order.user = some user)
    (db : GrowthDatabase) :
    (ReferralService.NoReward order db.growth →
      (referralRun env settings order db).growth = db.growth) ∧
    ∀ referral, ¬ReferralService.NoReward order db.growth →
      ReferralService.referralOf db.growth order user = some referral →
        (referralRun env settings order db).growth =
          ReferralService.rewardedGrowth env settings order user referral db.growth := by
  refine ⟨fun hnone => ?_, fun referral hreward hof => ?_⟩
  · rcases referralRun_cases env settings huser db with ⟨hreward, -⟩ | ⟨-, hrun⟩
    · exact (hreward hnone).elim
    · rw [hrun]
  · rcases ReferralService.finalizeOnPayment_cases env settings order ⟨db, []⟩ with
      ⟨-, ⟨u, referral', hu, -, hof', hrun⟩ | ⟨hnone, -⟩⟩ | ⟨hambiguous, -⟩
    · obtain rfl := Option.some.inj (huser.symm.trans hu)
      obtain rfl := Option.some.inj (hof.symm.trans hof')
      rw [referralRun, hrun]
      rfl
    · exact (hreward hnone).elim
    · exact (hreward hambiguous.noReward).elim

/-- An award without points does not show. -/
theorem account_awardRun (huser : order.user = some user)
    (hpaid : order.paymentStatus.isSuccessful)
    (h : db.growth.loyalty.hasEarned order.id ∨ pointsForOrderTotal settings order.total ≤ 0)
    (u : UserId) : (awardRun settings order db).growth.loyalty.account u =
      db.growth.loyalty.account u := by
  rcases awardRun_cases settings huser hpaid db with ⟨-, hrun⟩ |
    ⟨hearned, ⟨-, hrun⟩ | ⟨hpoints, -⟩⟩
  · rw [hrun]
  · rw [hrun]
    exact Loyalty.account_setAccount_self _ user u
  · rcases h with h | h
    · exact (hearned h).elim
    · omega

variable (settings db) in
/-- The award does not change what the reward depends on. -/
theorem noReward_awardRun (huser : order.user = some user)
    (hpaid : order.paymentStatus.isSuccessful) :
    (ReferralService.NoReward order (awardRun settings order db).growth ↔
      ReferralService.NoReward order db.growth) ∧
    ReferralService.referralOf (awardRun settings order db).growth order user =
      ReferralService.referralOf db.growth order user := by
  rcases awardRun_cases settings huser hpaid db with ⟨-, hrun⟩ | ⟨-, ⟨-, hrun⟩ | ⟨-, hrun⟩⟩ <;>
    rw [hrun] <;> exact ⟨Iff.rfl, rfl⟩

/-- Without a reward the other task does nothing. -/
theorem referralRun_of_noReward (huser : order.user = some user)
    (h : ReferralService.NoReward order db.growth) : referralRun env settings order db = db := by
  rcases referralRun_cases env settings huser db with ⟨hreward, -⟩ | ⟨-, hrun⟩
  · exact (hreward h).elim
  · exact hrun

variable (env settings) in
/-- With a reward the referrer has it, whether the award was before or not. -/
theorem referralRuns_of_reward (huser : order.user = some user)
    (hpaid : order.paymentStatus.isSuccessful)
    (h : ¬ReferralService.NoReward order db.growth) : ∃ referrer,
      (referralRun env settings order db).growth.loyalty =
        db.growth.loyalty.rewarded settings order referrer ∧
      (referralRun env settings order (awardRun settings order db)).growth.loyalty =
        (awardRun settings order db).growth.loyalty.rewarded settings order referrer := by
  obtain ⟨hnoReward, hsame⟩ := noReward_awardRun settings db huser hpaid
  rcases referralRun_cases env settings huser db with ⟨-, referral, hof, hrun⟩ | ⟨hnone, -⟩
  · refine ⟨referral.referrer, hrun, ?_⟩
    rcases referralRun_cases env settings huser (awardRun settings order db) with
      ⟨-, referral', hof', hrun'⟩ | ⟨hnone', -⟩
    · obtain rfl := Option.some.inj (hof'.symm.trans (hsame.trans hof))
      exact hrun'
    · exact (h (hnoReward.1 hnone')).elim
  · exact (h hnone).elim

theorem commutes_of_noReward (huser : order.user = some user)
    (hpaid : order.paymentStatus.isSuccessful) (h : ReferralService.NoReward order db.growth) :
    Commutes env settings order db := by
  intro u
  rw [referralRun_of_noReward huser h,
    referralRun_of_noReward huser ((noReward_awardRun settings db huser hpaid).1.2 h)]

/-- If the award has nothing to give, only the reward counts. -/
theorem commutes_of_noPoints (huser : order.user = some user)
    (hpaid : order.paymentStatus.isSuccessful)
    (h : db.growth.loyalty.hasEarned order.id ∨ pointsForOrderTotal settings order.total ≤ 0) :
    Commutes env settings order db := by
  by_cases hreward : ReferralService.NoReward order db.growth
  · exact commutes_of_noReward huser hpaid hreward
  · obtain ⟨referrer, hfirst, hsecond⟩ := referralRuns_of_reward env settings
      huser hpaid hreward
    intro u
    have hafter : (referralRun env settings order db).growth.loyalty.hasEarned order.id := by
      rw [hfirst]
      exact Loyalty.hasEarned_rewarded settings order referrer _
    have hsame (u' : UserId) : (awardRun settings order db).growth.loyalty.account u' = _ :=
      account_awardRun huser hpaid h u'
    simp only [Loyalty.standing, account_awardRun huser hpaid (.inl hafter) u, hfirst, hsecond,
      Loyalty.account_rewarded, hsame]

/-- A reward that comes first is taken for the award, and the buyer goes without the points. -/
theorem not_commutes (huser : order.user = some user) (hpaid : order.paymentStatus.isSuccessful)
    (hearned : ¬db.growth.loyalty.hasEarned order.id)
    (hpoints : 0 < pointsForOrderTotal settings order.total)
    (hreward : ¬ReferralService.NoReward order db.growth) :
    ¬Commutes env settings order db := by
  intro hcommutes
  obtain ⟨referrer, hfirst, hsecond⟩ := referralRuns_of_reward env settings
    huser hpaid hreward
  have hafter : (referralRun env settings order db).growth.loyalty.hasEarned order.id := by
    rw [hfirst]
    exact Loyalty.hasEarned_rewarded settings order referrer _
  have hawarded : (awardRun settings order db).growth.loyalty =
      db.growth.loyalty.awarded settings order user := by
    rcases awardRun_cases settings huser hpaid db with ⟨h, -⟩ | ⟨-, ⟨h, -⟩ | ⟨-, hrun⟩⟩
    · exact (hearned h).elim
    · omega
    · rw [hrun]
      rfl
  have hsame : ((referralRun env settings order
      (awardRun settings order db)).growth.loyalty.account user).points =
      ((awardRun settings order (referralRun env settings order db)).growth.loyalty.account
        user).points := congrArg Prod.fst (hcommutes user)
  rw [account_awardRun huser hpaid (.inl hafter) user, hfirst, hsecond, hawarded,
    Loyalty.account_rewarded, Loyalty.account_rewarded] at hsame
  have hearn : 0 < (pointsForOrderTotal settings order.total).toNat := by omega
  by_cases hself : user = referrer
  · subst hself
    simp only [Loyalty.account_awarded, if_true, Loyalty.awardedAccount] at hsame
    omega
  · simp only [if_neg hself, Loyalty.account_awarded, if_true, Loyalty.awardedAccount] at hsame
    omega

/-- The two tasks may run in either order if points have been earned for the paid order, or if it is
    worth none, or if its payment does not complete a referral. -/
theorem commutes_iff (huser : order.user = some user) (hpaid : order.paymentStatus.isSuccessful) :
    Commutes env settings order db ↔ db.growth.loyalty.hasEarned order.id ∨
      pointsForOrderTotal settings order.total ≤ 0 ∨ ReferralService.NoReward order db.growth := by
  constructor
  · intro hcommutes
    by_contra! h
    obtain ⟨hearned, hpoints, hreward⟩ := h
    exact not_commutes huser hpaid hearned hpoints hreward hcommutes
  · rintro (hearned | hpoints | hnone)
    · exact commutes_of_noPoints huser hpaid (.inl hearned)
    · exact commutes_of_noPoints huser hpaid (.inr hpoints)
    · exact commutes_of_noReward huser hpaid hnone

end Tasks

/-- A paid order of the user 1. -/
def sweetOrder : Order where
  orderNumber := "CR-1"
  user := some 1
  email := ""
  status := .paid
  paymentStatus := .paid
  paymentMethod := .online
  deliveryType := .pickup
  deliveryFee := 0
  subtotal := 500000
  total := 500000
  createdAt := 0

/-- The user 2 has referred the user 1, who has paid for the first order. -/
def referredBuyer : GrowthDatabase where
  shop :=
    { stock := { products := fun _ => ⟨"Baklava", 500000, .available⟩ }
      orders := Table.empty.insert sweetOrder }
  growth :=
    { referralCodes := Table.empty.insert { user := 2, code := "SWEET" }
      referrals := Keyed.empty.put 1 { referrer := 2, referralCode := 0 } }

/-- A shop that gives no points for orders gives the reward in either order. -/
theorem commutes_iff_referredBuyer : Commutes {} { loyaltyPointsPer1000Toman := 0 }
    { sweetOrder with id := 0 } referredBuyer :=
  (commutes_iff rfl (.inl rfl)).2 (.inr (.inl (by decide)))

/-- The buyer is credited with fifty points, or with none if the reward comes first. -/
theorem not_forall_commutes : ¬∀ (env : Env) (settings : GrowthSettings) (o : OrderId)
    (order : OrderInstance) (user : UserId) (db : GrowthDatabase), db.order o = some order →
      order.user = some user → order.paymentStatus.isSuccessful →
        Commutes env settings order db := by
  intro h
  refine not_commutes rfl (.inl rfl) ?_ (by decide) (fun hnone => ?_)
    (h {} {} 0 { sweetOrder with id := 0 } 1 referredBuyer rfl rfl (.inl rfl))
  · exact fun ⟨t, ht, _⟩ => nomatch ht
  · exact nomatch (hnone 1 rfl (.inl rfl)).1

end Crumbs
