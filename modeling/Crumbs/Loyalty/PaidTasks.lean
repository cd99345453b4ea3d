import Crumbs.Growth.Retries
import Crumbs.Loyalty.Concurrency
import Crumbs.Loyalty.Tiers

/-!
# The Tasks of a Paid Order

For an order that is paid, two tasks are queued: one awards the points, the other is for the growth
app. A worker takes a task off the queue only when it is through with it, and a task that raised is
tried again; so each of them runs once or more, and the tasks of all orders come in any order. A run
that is repeated is not seen: it finds what the first one has left, whatever ran in between.

## Contents

- `awardLoyaltyPointsTask`, `PaidTask`, `taskRun`: the two tasks
- `IsAwarded`, `PaidTask.IsSettled`: nothing is left to do for an order
- `Loyalty.Grows`: what both tasks do to the loyalty app, seen from the other orders
- `paidTask_settles`, `paidTasks_of_runs`: of all runs only the first ones count
-/

namespace Crumbs

open Crumbs.Db ReferralService

/-! ## The tasks -/

/-- What `award_loyalty_points_task` returns. -/
inductive AwardTaskResult where
  | skipped (reason : String)
  | awarded (orderId : OrderId) (points : ℕ) (tier : Tier)
  deriving DecidableEq

def awardLoyaltyPointsTask (settings : GrowthSettings) (o : OrderId) : GrowthTx AwardTaskResult := do
  let db ← Tx.getDb
  match db.order o with
  | none => return .skipped "order_not_found"
  | some order => do
    let account ← awardPointsForOrder settings order
    match account with
    | none => return .skipped "not_eligible"
    | some account => return .awarded o account.points account.tier

/-- The tasks that `process_order_lifecycle_events` queues for a payment. -/
inductive PaidTask where
  | loyaltyAward
  | growthFinalize
  deriving DecidableEq

/-- The database after a run of a task for an order. -/
def taskRun (settings : GrowthSettings) (env : Env) (task : PaidTask × OrderId)
    (db : GrowthDatabase) : GrowthDatabase :=
  match task.1 with
  | .loyaltyAward => (awardLoyaltyPointsTask settings task.2 ⟨db, []⟩).2.db
  | .growthFinalize => finalizeRun settings env task.2 db

/-! ## What is left to do -/

/-- There is nothing to award for the order, or it has been done. -/
def IsAwarded (settings : GrowthSettings) (o : OrderId) (db : GrowthDatabase) : Prop :=
  ∀ order user, db.order o = some order → order.user = some user →
    order.paymentStatus.isSuccessful → db.growth.loyalty.hasEarned o ∨
      pointsForOrderTotal settings order.total ≤ 0 ∧ (db.growth.loyalty.accounts user).isSome

/-- Nothing is left to do for the order, or nothing can be done. -/
def PaidTask.IsSettled (settings : GrowthSettings) (task : PaidTask × OrderId)
    (db : GrowthDatabase) : Prop :=
  match task.1 with
  | .loyaltyAward => IsAwarded settings task.2 db
  | .growthFinalize => Crumbs.IsSettled task.2 db

/-- Transactions and accounts stay, and the books are balanced if they were. -/
structure Loyalty.Grows (loyalty loyalty' : Loyalty) : Prop where
  transactions : loyalty.transactions <+: loyalty'.transactions
  accounts : ∀ user, (loyalty.accounts user).isSome → (loyalty'.accounts user).isSome
  balanced : loyalty.Balanced → loyalty'.Balanced

namespace Loyalty.Grows

variable {loyalty loyalty' : Loyalty} {settings : GrowthSettings} {o : OrderId}

theorem refl (loyalty : Loyalty) : loyalty.Grows loyalty :=
  ⟨List.prefix_refl _, fun _ h => h, fun h => h⟩

theorem trans {loyalty'' : Loyalty} (h : loyalty.Grows loyalty') (h' : loyalty'.Grows loyalty'') :
    loyalty.Grows loyalty'' :=
  ⟨h.transactions.trans h'.transactions, fun user hsome => h'.accounts user (h.accounts user hsome),
    fun hbalanced => h'.balanced (h.balanced hbalanced)⟩

theorem hasEarned (h : loyalty.Grows loyalty') (hearned : loyalty.hasEarned o) :
    loyalty'.hasEarned o := by
  obtain ⟨t, ht, hmatch⟩ := hearned
  exact ⟨t, h.transactions.subset ht, hmatch⟩

theorem setAccount (loyalty : Loyalty) (user : UserId) (account : LoyaltyAccount)
    (t : LoyaltyTransaction) (hbalanced : loyalty.Balanced →
      ((loyalty.setAccount user account).record t).Balanced) :
    loyalty.Grows ((loyalty.setAccount user account).record t) := by
  refine ⟨List.prefix_append _ _, fun u hsome => ?_, hbalanced⟩
  change (if u = user then some account else loyalty.accounts u).isSome
  split
  · rfl
  · exact hsome

/-- An account that is looked up is there afterwards, with what it had. -/
theorem lookup (loyalty : Loyalty) (user : UserId) :
    loyalty.Grows (loyalty.setAccount user (loyalty.account user)) := by
  refine ⟨List.prefix_refl _, fun u hsome => ?_, fun hbalanced u => ?_⟩
  · change (if u = user then some _ else loyalty.accounts u).isSome
    split
    · rfl
    · exact hsome
  · rw [Loyalty.account_setAccount_self]
    exact hbalanced u

theorem awarded (order : OrderInstance) (user : UserId)
    (hpoints : 0 < pointsForOrderTotal settings order.total) :
    loyalty.Grows (loyalty.awarded settings order user) :=
  .setAccount _ _ _ _ fun hbalanced => hbalanced.saveAward hpoints rfl

theorem rewarded (order : OrderInstance) (referrer : UserId) :
    loyalty.Grows (loyalty.rewarded settings order referrer) :=
  .setAccount _ _ _ _ fun hbalanced => hbalanced.saveReward rfl

end Loyalty.Grows

/-- To save an account as it is changes nothing. -/
theorem Loyalty.setAccount_account {loyalty : Loyalty} {user : UserId}
    (h : (loyalty.accounts user).isSome) :
    loyalty.setAccount user (loyalty.account user) = loyalty := by
  obtain ⟨account, haccount⟩ := Option.isSome_iff_exists.1 h
  have hsame : (fun u => if u = user then some (loyalty.account user) else loyalty.accounts u) =
      loyalty.accounts := by
    funext u
    split
    next hu => rw [hu, Loyalty.account, haccount, Option.getD_some]
    next => rfl
  exact congrArg (fun accounts => { loyalty with accounts }) hsame

/-- The tables of the loyalty app have grown. -/
def LoyaltyGrows (g g' : Growth) : Prop := g.loyalty.Grows g'.loyalty

instance : IsPreorder Growth LoyaltyGrows where
  refl g := .refl g.loyalty
  trans _ _ _ h h' := h.trans h'

section Runs

variable {settings : GrowthSettings} {env : Env} {o p : OrderId} {db : GrowthDatabase}
  {order : OrderInstance} {user : UserId}

/-! ## The award -/

theorem awardTask_of_none (h : db.order o = none) :
    taskRun settings env (.loyaltyAward, o) db = db := by
  have hrun : awardLoyaltyPointsTask settings o ⟨db, []⟩ =
      (.ok (.skipped "order_not_found"), ⟨db, []⟩) := by
    refine (Tx.bind_of_ok rfl).trans ?_
    simp only [h]
    rfl
  simp only [taskRun, hrun]

theorem awardTask_of_order (h : db.order o = some order) :
    taskRun settings env (.loyaltyAward, o) db = awardRun settings order db := by
  have hrun : awardLoyaltyPointsTask settings o ⟨db, []⟩ = (do
      let account ← awardPointsForOrder settings order
      match account with
      | none => return .skipped "not_eligible"
      | some account => return .awarded o account.points account.tier :
        GrowthTx AwardTaskResult) ⟨db, []⟩ := by
    refine (Tx.bind_of_ok rfl).trans ?_
    simp only [h]
  simp only [taskRun, awardRun, hrun]
  rcases hresult : awardPointsForOrder settings order ⟨db, []⟩ with ⟨e | account, w⟩
  · rw [Tx.bind_of_error hresult]
  · rw [Tx.bind_of_ok hresult]
    cases account <;> rfl

theorem Loyalty.isSome_lookup (loyalty : Loyalty) (user : UserId) (account : LoyaltyAccount) :
    ((loyalty.setAccount user account).accounts user).isSome := by
  simp [Loyalty.setAccount]

/-- After an award there is nothing left to award, and the loyalty app has grown. -/
theorem awardTask_spec (settings : GrowthSettings) (env : Env) (o : OrderId)
    (db : GrowthDatabase) : ∃ loyalty,
      taskRun settings env (.loyaltyAward, o) db = db.withLoyalty loyalty ∧
        db.growth.loyalty.Grows loyalty ∧ IsAwarded settings o (db.withLoyalty loyalty) := by
  cases horder : db.order o with
  | none =>
    refine ⟨_, awardTask_of_none horder, .refl _, fun order _ h => ?_⟩
    cases horder.symm.trans h
  | some order =>
    rw [awardTask_of_order horder]
    by_cases hbuyer : ∃ user, order.user = some user ∧ order.paymentStatus.isSuccessful
    · obtain ⟨user, huser, hpaid⟩ := hbuyer
      -- the order and its buyer are the ones that the award is about
      have hawarded (loyalty : Loyalty) (h : loyalty.hasEarned order.id ∨
          pointsForOrderTotal settings order.total ≤ 0 ∧ (loyalty.accounts user).isSome) :
          IsAwarded settings o (db.withLoyalty loyalty) := by
        intro order' user' horder' huser' _
        obtain rfl := Option.some.inj (horder.symm.trans horder')
        obtain rfl := Option.some.inj (huser.symm.trans huser')
        rwa [order_id horder] at h
      rcases awardRun_cases settings huser hpaid db with ⟨hearned, hrun⟩ |
        ⟨-, ⟨hpoints, hrun⟩ | ⟨hpoints, hrun⟩⟩
      · exact ⟨_, hrun, .refl _, hawarded _ (.inl hearned)⟩
      · refine ⟨_, hrun, .lookup _ user, hawarded _ (.inr ⟨hpoints, ?_⟩)⟩
        exact Loyalty.isSome_lookup _ user _
      · refine ⟨_, hrun, .awarded order user hpoints, hawarded _ (.inl ?_)⟩
        exact Loyalty.hasEarned_record ⟨rfl, rfl⟩
    · refine ⟨_, awardRun_of_not fun user huser hpaid => hbuyer ⟨user, huser, hpaid⟩, .refl _, ?_⟩
      intro order' user huser' huser hpaid
      obtain rfl := Option.some.inj (horder.symm.trans huser')
      exact (hbuyer ⟨user, huser, hpaid⟩).elim

theorem IsAwarded.noop (h : IsAwarded settings o db) :
    taskRun settings env (.loyaltyAward, o) db = db := by
  cases horder : db.order o with
  | none => exact awardTask_of_none horder
  | some order =>
    rw [awardTask_of_order horder]
    by_cases hbuyer : ∃ user, order.user = some user ∧ order.paymentStatus.isSuccessful
    · obtain ⟨user, huser, hpaid⟩ := hbuyer
      have hdone := h order user horder huser hpaid
      rcases awardRun_cases settings huser hpaid db with ⟨-, hrun⟩ |
        ⟨hearned, ⟨-, hrun⟩ | ⟨hpoints, -⟩⟩
      · exact hrun
      · -- the account that the award looks up is there
        rcases hdone with hearned' | ⟨-, hthere⟩
        · exact (hearned ((order_id horder).symm ▸ hearned')).elim
        · rw [hrun, Loyalty.setAccount_account hthere]
          rfl
      · rcases hdone with hearned' | ⟨hnone, -⟩
        · exact (hearned ((order_id horder).symm ▸ hearned')).elim
        · omega
    · exact awardRun_of_not fun user huser hpaid => hbuyer ⟨user, huser, hpaid⟩

/-- What has been awarded is not taken back. -/
theorem IsAwarded.of_grows {db' : GrowthDatabase} (h : IsAwarded settings o db)
    (hgrows : db.growth.loyalty.Grows db'.growth.loyalty) (horder : db'.order o = db.order o) :
    IsAwarded settings o db' := by
  intro order user hfound huser hpaid
  rcases h order user (horder ▸ hfound) huser hpaid with hearned | ⟨hpoints, hthere⟩
  · exact .inl (hgrows.hasEarned hearned)
  · exact .inr ⟨hpoints, hgrows.accounts user hthere⟩

/-! ## The other task -/

theorem FinalizePart.grows {g g' : Growth} (h : FinalizePart env settings order g g') :
    LoyaltyGrows g g' := by
  cases h with
  | redeemed =>
    rw [redeemedBy]
    split
    next => exact .refl _
    next => split <;> exact .refl _
  | rewarded user referral => exact .rewarded order referral.referrer
  | recorded hrecorded =>
    rw [LoyaltyGrows, hrecorded.same]
    exact .refl _
  | valued => exact .refl _

theorem finalizeRun_grows : LoyaltyGrows db.growth (finalizeRun settings env o db).growth :=
  finalizeRun_follows fun _ _ _ => FinalizePart.grows

theorem order_finalizeRun : (finalizeRun settings env p db).order o = db.order o := by
  rcases finalizeRun_cases env settings p db with ⟨hsame, -⟩ | ⟨other, g, -, hrun, hp, -⟩
  · rw [hsame]
  · rw [hrun]
    exact order_of_progress hp

/-- The growth app does not look at the loyalty app to see what is left to do. -/
theorem IsSettled.withLoyalty (h : IsSettled o db) (loyalty : Loyalty) :
    IsSettled o (db.withLoyalty loyalty) := by
  intro order horder
  rcases h order horder with hdone | hstuck
  · exact .inl ⟨hdone.redeemed, hdone.noReward, hdone.attributed, hdone.valued⟩
  · exact .inr hstuck

/-! ## Both of them -/

theorem taskRun_grows {task : PaidTask × OrderId} :
    LoyaltyGrows db.growth (taskRun settings env task db).growth := by
  obtain ⟨kind, o⟩ := task
  cases kind with
  | loyaltyAward =>
    obtain ⟨loyalty, hrun, hgrows, -⟩ := awardTask_spec settings env o db
    rw [hrun]
    exact hgrows
  | growthFinalize => exact finalizeRun_grows

theorem taskRun_usesCounted {task : PaidTask × OrderId} :
    UsesCounted db (taskRun settings env task db) := by
  obtain ⟨kind, o⟩ := task
  cases kind with
  | loyaltyAward =>
    obtain ⟨loyalty, hrun, -, -⟩ := awardTask_spec settings env o db
    rw [hrun]
    exact CountsUses.of_same rfl rfl
  | growthFinalize => exact finalizeRun_usesCounted

/-- The orders are not written to. -/
theorem order_taskRun {task : PaidTask × OrderId} :
    (taskRun settings env task db).order o = db.order o := by
  obtain ⟨kind, p⟩ := task
  cases kind with
  | loyaltyAward =>
    obtain ⟨loyalty, hrun, -, -⟩ := awardTask_spec settings env p db
    rw [hrun]
    rfl
  | growthFinalize => exact order_finalizeRun

/-- A run of either task keeps what is settled, for any order and for either task. -/
theorem PaidTask.IsSettled.taskRun {task other : PaidTask × OrderId}
    (h : PaidTask.IsSettled settings task db) (hstamps : db.growth.StampedBy env.now) :
    PaidTask.IsSettled settings task (taskRun settings env other db) := by
  obtain ⟨kind, o⟩ := task
  obtain ⟨kind', p⟩ := other
  cases kind' with
  | loyaltyAward =>
    obtain ⟨loyalty, hrun, hgrows, -⟩ := awardTask_spec settings env p db
    rw [hrun]
    cases kind with
    | loyaltyAward => exact IsAwarded.of_grows h hgrows rfl
    | growthFinalize => exact Crumbs.IsSettled.withLoyalty h loyalty
  | growthFinalize =>
    cases kind with
    | loyaltyAward => exact IsAwarded.of_grows h finalizeRun_grows order_finalizeRun
    | growthFinalize => exact Crumbs.IsSettled.finalizeRun h hstamps

theorem paidTask_settles (settings : GrowthSettings) :
    Settles (taskRun settings) (fun e e' => e.now ≤ e'.now)
      (fun e db => db.growth.StampedBy e.now) (PaidTask.IsSettled settings) where
  later := (finalize_settles settings).later
  fits {env task db} hstamps := by
    obtain ⟨kind, o⟩ := task
    cases kind with
    | loyaltyAward =>
      obtain ⟨loyalty, hrun, -, -⟩ := awardTask_spec settings env o db
      rw [hrun]
      exact hstamps
    | growthFinalize => exact (finalize_settles settings).fits hstamps
  noop {env task db} hstamps h := by
    obtain ⟨kind, o⟩ := task
    cases kind with
    | loyaltyAward => exact IsAwarded.noop h
    | growthFinalize => exact (finalize_settles settings).noop hstamps h
  settles {env task db} hstamps := by
    obtain ⟨kind, o⟩ := task
    cases kind with
    | loyaltyAward =>
      obtain ⟨loyalty, hrun, -, hawarded⟩ := awardTask_spec settings env o db
      rw [hrun]
      exact hawarded
    | growthFinalize => exact (finalize_settles settings).settles hstamps
  keeps hstamps h := h.taskRun hstamps

end Runs

end Crumbs
