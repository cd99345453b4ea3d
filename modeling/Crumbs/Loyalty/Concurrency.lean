import Crumbs.Db.Runs
import Crumbs.Loyalty.Commute

/-!
# Concurrent Awards and Rewards

Any number of awards and of rewards of referrals, in as many workers. An award looks for a
transaction of the order, reads the account of the buyer and saves it; a reward reads the referral,
marks it, reads the account of the referrer and saves it. Each of these statements sees what is
committed by then. A row that a transaction has written is locked until its end, but what a
transaction has only read is not: another one may have written it when it is saved.

## Contents

- `LoyaltyTask`, `LoyaltyTasks`: how far each task has come, and the tables as committed
- `LoyaltyAction`, `LoyaltyTasks.step`: what may happen next
- `award_alone`, `reward_alone`: a task that nothing comes between is the service
- `LoyaltyTasks.Sound`, `LoyaltyTasks.Undisturbed`
- `sound_of_undisturbed`, `not_forall_sound`
-/

namespace Crumbs

open Crumbs.Db

/-! ## What the tasks save -/

namespace Loyalty

/-- An award saves the account of the buyer, as it was when it was read, with the points of the
    order. -/
def saveAward (settings : GrowthSettings) (order : OrderInstance) (user : UserId)
    (account : LoyaltyAccount) (loyalty : Loyalty) : Loyalty :=
  let account := awardedAccount settings order account
  (loyalty.setAccount user account).record
    { account := user, transactionType := .earn,
      points := pointsForOrderTotal settings order.total, balanceAfter := account.points,
      order := some order.id, description := s!"Points for order {order.orderNumber}" }

/-- A reward saves the account of the referrer, as it was when it was read. -/
def saveReward (settings : GrowthSettings) (order : OrderInstance) (referrer : UserId)
    (account : LoyaltyAccount) (loyalty : Loyalty) : Loyalty :=
  let points := account.points + settings.referralRewardPoints
  (loyalty.setAccount referrer { account with
    points
    lifetimePoints := account.lifetimePoints + settings.referralRewardPoints }).record
      { account := referrer, transactionType := .earn, points := settings.referralRewardPoints,
        balanceAfter := points, order := some order.id,
        description := s!"Referral reward for order {order.orderNumber}" }

end Loyalty

/-! ## The tasks -/

/-- A task's number. -/
abbrev TaskId := ℕ

/-- How far an award has come. -/
inductive AwardStage where
  | begun
  /-- No transaction of the order was found. -/
  | checked
  | read (account : LoyaltyAccount)

/-- How far the reward of a referral has come. -/
inductive RewardStage where
  | begun
  /-- No referral of the buyer was found that is pending. -/
  | unreferred
  | found (referral : Referral)
  /-- The row of the referral is updated, and locked. -/
  | marked (referral : Referral)
  | read (referral : Referral) (account : LoyaltyAccount)

/-- How far a task has come. -/
inductive LoyaltyTask where
  | idle
  | awarding (order : OrderInstance) (user : UserId) (stage : AwardStage)
  | rewarding (order : OrderInstance) (user : UserId) (stage : RewardStage)
  | ended

/-- The tasks, and the tables as committed. The locks are on accounts that are inserted and on
    referrals that are inserted or updated. `credited` and `rewarded` keep account of the orders
    for which a buyer was credited and of the users whose referral was rewarded. -/
structure LoyaltyTasks where
  growth : Growth
  tasks : TaskId → LoyaltyTask := fun _ => .idle
  accountLocks : UserId → Option TaskId := fun _ => none
  referralLocks : UserId → Option TaskId := fun _ => none
  credited : List (OrderId × UserId) := []
  rewarded : List UserId := []

/-- What may happen next: a task goes on by a statement, or it fails and is rolled back. -/
inductive LoyaltyAction where
  | awardBegins (t : TaskId) (order : OrderInstance)
  | awardChecks (t : TaskId)
  | awardReads (t : TaskId)
  | awardSaves (t : TaskId)
  | rewardBegins (t : TaskId) (order : OrderInstance)
  | rewardReads (t : TaskId)
  | rewardAttaches (t : TaskId)
  | rewardMarks (t : TaskId)
  | rewardReadsAccount (t : TaskId)
  | rewardSaves (t : TaskId) (env : Env)
  | fails (t : TaskId)

namespace LoyaltyTasks

/-- No task has begun. -/
def start (growth : Growth) : LoyaltyTasks := { growth }

def setTask (s : LoyaltyTasks) (t : TaskId) (task : LoyaltyTask) : LoyaltyTasks :=
  { s with tasks := fun u => if u = t then task else s.tasks u }

/-- The task ends, and lets go of its locks. -/
def ends (s : LoyaltyTasks) (t : TaskId) : LoyaltyTasks :=
  { s.setTask t .ended with
    accountLocks := fun u => if s.accountLocks u = some t then none else s.accountLocks u
    referralLocks := fun u => if s.referralLocks u = some t then none else s.referralLocks u }

/-- `get_or_create` of an account: the row that is there, or one that is inserted and locked; an
    insert waits for another one of the same row. -/
def readsAccount (s : LoyaltyTasks) (t : TaskId) (user : UserId) (goesOn : LoyaltyAccount → LoyaltyTask) :
    Option LoyaltyTasks :=
  match s.growth.loyalty.accounts user with
  | some account => some (s.setTask t (goesOn account))
  | none =>
    if s.accountLocks user = none then
      some { s.setTask t (goesOn {}) with
        accountLocks := fun u => if u = user then some t else s.accountLocks u }
    else none

/-- A task begins if the order is paid and has a user. -/
def begins (s : LoyaltyTasks) (t : TaskId) (order : OrderInstance) (goesOn : UserId → LoyaltyTask) :
    Option LoyaltyTasks :=
  match s.tasks t, order.user with
  | .idle, some user =>
    some (s.setTask t (if order.paymentStatus.isSuccessful then goesOn user else .ended))
  | .idle, none => some (s.setTask t .ended)
  | _, _ => none

/-- The lock on the referral of a user. -/
def locksReferral (s : LoyaltyTasks) (t : TaskId) (user : UserId) (task : LoyaltyTask) :
    LoyaltyTasks :=
  { s.setTask t task with
    referralLocks := fun u => if u = user then some t else s.referralLocks u }

/-- A referral for the code of the order, unless the user has been referred by now; an insert waits
    for another one. -/
def attaches (s : LoyaltyTasks) (t : TaskId) (order : OrderInstance) (user : UserId) :
    Option LoyaltyTasks :=
  match ReferralService.codesOf s.growth order with
  | [(id, referralCode)] =>
    if (s.growth.referrals.rows user).isSome then some (s.ends t)
    else if s.referralLocks user = none then
      some (s.locksReferral t user (.rewarding order user
        (.found { referrer := referralCode.user, referralCode := id })))
    else none
  -- there is no such code, or `get` finds several and raises
  | _ => some (s.ends t)

/-- The award is committed. Without points only the account is there from now on. -/
def savesAward (settings : GrowthSettings) (s : LoyaltyTasks) (t : TaskId) (order : OrderInstance)
    (user : UserId) (account : LoyaltyAccount) : LoyaltyTasks :=
  if pointsForOrderTotal settings order.total ≤ 0 then
    { s.ends t with growth := { s.growth with
      loyalty := s.growth.loyalty.setAccount user (s.growth.loyalty.account user) } }
  else
    { s.ends t with
      growth := { s.growth with
        loyalty := s.growth.loyalty.saveAward settings order user account }
      credited := s.credited ++ [(order.id, user)] }

/-- The reward is committed. -/
def savesReward (settings : GrowthSettings) (s : LoyaltyTasks) (t : TaskId) (env : Env)
    (order : OrderInstance) (user : UserId) (referral : Referral) (account : LoyaltyAccount) :
    LoyaltyTasks :=
  { s.ends t with
    growth := { s.growth with
      referrals := s.growth.referrals.put user
        (ReferralService.rewarded env settings order s.growth referral)
      loyalty := s.growth.loyalty.saveReward settings order referral.referrer account }
    rewarded := s.rewarded ++ [user] }

/-- The next state; `none` if the action is not the task's next or has to wait for a lock. -/
def step (settings : GrowthSettings) (s : LoyaltyTasks) : LoyaltyAction → Option LoyaltyTasks
  | .awardBegins t order => s.begins t order fun user => .awarding order user .begun
  | .awardChecks t =>
    match s.tasks t with
    | .awarding order user .begun => some (
      if s.growth.loyalty.hasEarned order.id then s.ends t
      else s.setTask t (.awarding order user .checked))
    | _ => none
  | .awardReads t =>
    match s.tasks t with
    | .awarding order user .checked =>
      s.readsAccount t user fun account => .awarding order user (.read account)
    | _ => none
  | .awardSaves t =>
    match s.tasks t with
    | .awarding order user (.read account) => some (s.savesAward settings t order user account)
    | _ => none
  | .rewardBegins t order => s.begins t order fun user => .rewarding order user .begun
  | .rewardReads t =>
    match s.tasks t with
    | .rewarding order user .begun =>
      match ReferralService.pendingReferral s.growth user with
      | some referral => some (s.setTask t (.rewarding order user (.found referral)))
      | none => some (
        if order.referralCodeApplied = "" then s.ends t
        else s.setTask t (.rewarding order user .unreferred))
    | _ => none
  | .rewardAttaches t =>
    match s.tasks t with
    | .rewarding order user .unreferred => s.attaches t order user
    | _ => none
  | .rewardMarks t =>
    match s.tasks t with
    | .rewarding order user (.found referral) =>
      if s.referralLocks user = none ∨ s.referralLocks user = some t then
        some (s.locksReferral t user (.rewarding order user (.marked referral)))
      else none
    | _ => none
  | .rewardReadsAccount t =>
    match s.tasks t with
    | .rewarding order user (.marked referral) =>
      s.readsAccount t referral.referrer fun account =>
        .rewarding order user (.read referral account)
    | _ => none
  | .rewardSaves t env =>
    match s.tasks t with
    | .rewarding order user (.read referral account) =>
      some (s.savesReward settings t env order user referral account)
    | _ => none
  | .fails t =>
    match s.tasks t with
    | .awarding .. | .rewarding .. => some (s.ends t)
    | _ => none

/-- The tables, and the account of what has been done. -/
def record (s : LoyaltyTasks) : Growth × List (OrderId × UserId) × List UserId :=
  (s.growth, s.credited, s.rewarded)

end LoyaltyTasks

/-! ## What a step does -/

section Steps

variable {settings : GrowthSettings} {s s' : LoyaltyTasks} {t : TaskId} {user : UserId}
  {order : OrderInstance}

namespace LoyaltyTasks

theorem begins_record {goesOn : UserId → LoyaltyTask} (h : s.begins t order goesOn = some s') :
    s'.record = s.record := by
  simp only [begins] at h
  split at h <;> cases h <;> rfl

theorem readsAccount_record {goesOn : LoyaltyAccount → LoyaltyTask}
    (h : s.readsAccount t user goesOn = some s') : s'.record = s.record := by
  simp only [readsAccount] at h
  split at h
  · cases h
    rfl
  · split at h <;> cases h
    rfl

theorem attaches_record (h : s.attaches t order user = some s') : s'.record = s.record := by
  simp only [attaches] at h
  split at h
  · split at h
    · cases h
      rfl
    · split at h <;> cases h
      rfl
  · cases h
    rfl

/-- An award or a reward is committed; all other steps leave the tables as they are. -/
theorem step_cases {action : LoyaltyAction} (h : s.step settings action = some s') :
    s'.record = s.record ∨
    (∃ t order user account, action = .awardSaves t ∧
      s.tasks t = .awarding order user (.read account) ∧
        s' = s.savesAward settings t order user account) ∨
    ∃ t env order user referral account, action = .rewardSaves t env ∧
      s.tasks t = .rewarding order user (.read referral account) ∧
        s' = s.savesReward settings t env order user referral account := by
  cases action with
  | awardBegins t order => exact .inl (begins_record h)
  | awardChecks t =>
    simp only [step] at h
    split at h <;> cases h
    split <;> exact .inl rfl
  | awardReads t =>
    simp only [step] at h
    split at h
    · exact .inl (readsAccount_record h)
    · cases h
  | awardSaves t =>
    simp only [step] at h
    split at h
    next order user account htask =>
      exact .inr (.inl ⟨t, order, user, account, rfl, htask, (Option.some.inj h).symm⟩)
    next => cases h
  | rewardBegins t order => exact .inl (begins_record h)
  | rewardReads t =>
    simp only [step] at h
    split at h
    · split at h <;> cases h
      · exact .inl rfl
      · split <;> exact .inl rfl
    · cases h
  | rewardAttaches t =>
    simp only [step] at h
    split at h
    · exact .inl (attaches_record h)
    · cases h
  | rewardMarks t =>
    simp only [step] at h
    split at h
    · split at h <;> cases h
      exact .inl rfl
    · cases h
  | rewardReadsAccount t =>
    simp only [step] at h
    split at h
    · exact .inl (readsAccount_record h)
    · cases h
  | rewardSaves t env =>
    simp only [step] at h
    split at h
    next order user referral account htask =>
      exact .inr (.inr ⟨t, env, order, user, referral, account, rfl, htask,
        (Option.some.inj h).symm⟩)
    next => cases h
  | fails t =>
    simp only [step] at h
    split at h <;> cases h <;> exact .inl rfl

end LoyaltyTasks

end Steps

/-! ## Tasks that nothing comes between -/

/-- The task that an action belongs to. -/
def LoyaltyAction.task : LoyaltyAction → TaskId
  | awardBegins t _ | awardChecks t | awardReads t | awardSaves t | rewardBegins t _
  | rewardReads t | rewardAttaches t | rewardMarks t | rewardReadsAccount t | rewardSaves t _
  | fails t => t

section Alone

variable {settings : GrowthSettings} {s : LoyaltyTasks} {t : TaskId} {order : OrderInstance}
  {user : UserId} {db : GrowthDatabase}

namespace LoyaltyTasks

@[simp] theorem tasks_setTask_self (s : LoyaltyTasks) (t : TaskId) (task : LoyaltyTask) :
    (s.setTask t task).tasks t = task := if_pos rfl

@[simp] theorem growth_setTask (s : LoyaltyTasks) (t : TaskId) (task : LoyaltyTask) :
    (s.setTask t task).growth = s.growth := rfl

/-- Nothing is locked. -/
structure IsFree (s : LoyaltyTasks) : Prop where
  accounts : ∀ u, s.accountLocks u = none
  referrals : ∀ u, s.referralLocks u = none

/-- An account that nobody is inserting can be read. -/
theorem readsAccount_of_free (goesOn : LoyaltyAccount → LoyaltyTask)
    (hfree : s.accountLocks user = none) : ∃ s', s.readsAccount t user goesOn = some s' ∧
      s'.tasks t = goesOn (s.growth.loyalty.account user) ∧ s'.growth = s.growth := by
  rw [readsAccount, Loyalty.account]
  cases s.growth.loyalty.accounts user with
  | some account => exact ⟨_, rfl, if_pos rfl, rfl⟩
  | none => exact ⟨_, if_pos hfree, if_pos rfl, rfl⟩

end LoyaltyTasks

open LoyaltyTasks

/-- The task `t` goes on from one state to another one, and no other task does. -/
def GoesOn (settings : GrowthSettings) (t : TaskId) : LoyaltyTasks → LoyaltyTasks → Prop :=
  Relation.ReflTransGen fun s s' => ∃ a : LoyaltyAction, a.task = t ∧ s.step settings a = some s'

/-- An award that nothing comes between is the service. -/
theorem award_alone (huser : order.user = some user) (hpaid : order.paymentStatus.isSuccessful)
    (hdb : db.growth = s.growth) (hidle : s.tasks t = .idle)
    (hfree : s.IsFree) : ∃ s' : LoyaltyTasks, GoesOn settings t s s' ∧ s'.tasks t = .ended ∧
      s'.growth = (awardRun settings order db).growth := by
  have hbegins : s.step settings (.awardBegins t order) =
      some (s.setTask t (.awarding order user .begun)) := by
    simp only [step, begins, hidle, huser, hpaid, if_true]
  by_cases hearned : s.growth.loyalty.hasEarned order.id
  · have hchecks : (s.setTask t (.awarding order user .begun)).step settings (.awardChecks t) =
        some ((s.setTask t (.awarding order user .begun)).ends t) := by
      simp only [step, tasks_setTask_self, growth_setTask, hearned, if_true]
    refine ⟨_, .head ⟨_, rfl, hbegins⟩ (.single ⟨_, rfl, hchecks⟩), if_pos rfl, ?_⟩
    rcases awardRun_cases settings huser hpaid db with ⟨-, hrun⟩ | ⟨hnot, -⟩
    · rw [hrun, hdb]
      rfl
    · exact (hnot (hdb ▸ hearned)).elim
  · have hchecks : (s.setTask t (.awarding order user .begun)).step settings (.awardChecks t) =
        some ((s.setTask t (.awarding order user .begun)).setTask t
          (.awarding order user .checked)) := by
      simp only [step, tasks_setTask_self, growth_setTask, hearned, if_false]
    obtain ⟨s₃, hreads, htask, hgrowth⟩ := readsAccount_of_free (t := t)
      (s := (s.setTask t (.awarding order user .begun)).setTask t (.awarding order user .checked))
      (fun account => .awarding order user (.read account)) (hfree.accounts user)
    have hsaves : s₃.step settings (.awardSaves t) =
        some (s₃.savesAward settings t order user (s.growth.loyalty.account user)) := by
      simp only [step, htask, growth_setTask]
    refine ⟨_, .head ⟨_, rfl, hbegins⟩ (.head ⟨_, rfl, hchecks⟩ (.head ⟨.awardReads t, rfl, ?_⟩
      (.single ⟨_, rfl, hsaves⟩))), ?_, ?_⟩
    · simp only [step, tasks_setTask_self]
      exact hreads
    · rw [savesAward]
      split <;> exact if_pos rfl
    · simp only [growth_setTask] at hgrowth
      rcases awardRun_cases settings huser hpaid db with ⟨h, -⟩ | ⟨-, ⟨hnone, hrun⟩ | ⟨hsome, hrun⟩⟩
      · exact (hearned (hdb ▸ h)).elim
      · rw [hrun, GrowthDatabase.withLoyalty, savesAward, if_pos hnone, hdb, hgrowth]
      · rw [hrun, GrowthDatabase.withLoyalty, savesAward, if_neg (not_le.2 hsome), hdb, hgrowth]
        rfl

variable (settings) in
/-- A referral that is found is rewarded, if no other task comes between. -/
theorem found_alone {referral : Referral} (env : Env)
    (htask : s.tasks t = .rewarding order user (.found referral))
    (hlock : s.referralLocks user = none ∨ s.referralLocks user = some t)
    (hfree : ∀ u, s.accountLocks u = none) : ∃ s' : LoyaltyTasks, GoesOn settings t s s' ∧
      s'.tasks t = .ended ∧ s'.growth =
        ReferralService.rewardedGrowth env settings order user referral s.growth := by
  have hmarks : s.step settings (.rewardMarks t) =
      some (s.locksReferral t user (.rewarding order user (.marked referral))) := by
    simp only [step, htask, if_pos hlock]
  obtain ⟨s₂, hreads, htask₂, hgrowth⟩ := readsAccount_of_free (t := t)
    (s := s.locksReferral t user (.rewarding order user (.marked referral)))
    (fun account => .rewarding order user (.read referral account))
    (hfree referral.referrer)
  have hsaves : s₂.step settings (.rewardSaves t env) = some (s₂.savesReward settings t env order
      user referral (s.growth.loyalty.account referral.referrer)) := by
    simp only [step, htask₂]
    rfl
  refine ⟨_, .head ⟨_, rfl, hmarks⟩ (.head ⟨.rewardReadsAccount t, rfl, ?_⟩
    (.single ⟨_, rfl, hsaves⟩)), if_pos rfl, ?_⟩
  · simp only [step, locksReferral, tasks_setTask_self]
    exact hreads
  · rw [savesReward, hgrowth]
    rfl

variable (settings) in
/-- A task finds the referral that the service finds, or ends where the service finds none. -/
theorem reads_alone (huser : order.user = some user) (hpaid : order.paymentStatus.isSuccessful)
    (htask : s.tasks t = .rewarding order user .begun) (hfree : s.referralLocks user = none) :
    ∃ s' : LoyaltyTasks, GoesOn settings t s s' ∧ s'.growth = s.growth ∧
      ((ReferralService.NoReward order s.growth ∧ s'.tasks t = .ended) ∨
        ∃ referral, ¬ReferralService.NoReward order s.growth ∧
          ReferralService.referralOf s.growth order user = some referral ∧
            s'.tasks t = .rewarding order user (.found referral) ∧
              s'.accountLocks = s.accountLocks ∧
                (s'.referralLocks user = none ∨ s'.referralLocks user = some t)) := by
  cases hpending : ReferralService.pendingReferral s.growth user with
  | some referral =>
    have hreads : s.step settings (.rewardReads t) =
        some (s.setTask t (.rewarding order user (.found referral))) := by
      simp only [step, htask, hpending]
    refine ⟨_, .single ⟨_, rfl, hreads⟩, rfl, .inr ⟨referral, fun hnone => ?_, ?_,
      tasks_setTask_self .., rfl, .inl hfree⟩⟩
    · cases hpending.symm.trans (hnone user huser hpaid).1
    · rw [ReferralService.referralOf, hpending]
      rfl
  | none =>
    have hnoReward (h : order.referralCodeApplied = "" ∨
        (ReferralService.codesOf s.growth order).length ≠ 1 ∨
          (s.growth.referrals.rows user).isSome) : ReferralService.NoReward order s.growth := by
      intro u hu _
      obtain rfl := Option.some.inj (huser.symm.trans hu)
      exact ⟨hpending, h⟩
    by_cases hcode : order.referralCodeApplied = ""
    · have hreads : s.step settings (.rewardReads t) = some (s.ends t) := by
        simp only [step, htask, hpending, hcode, if_true]
      exact ⟨_, .single ⟨_, rfl, hreads⟩, rfl, .inl ⟨hnoReward (.inl hcode), if_pos rfl⟩⟩
    · let s₁ := s.setTask t (.rewarding order user .unreferred)
      have hreads : s.step settings (.rewardReads t) = some s₁ := by
        simp only [step, htask, hpending, hcode, if_false, s₁]
      have hattaches : s₁.step settings (.rewardAttaches t) = s₁.attaches t order user := by
        simp only [step, s₁, tasks_setTask_self]
      have hgoes {s₂ : LoyaltyTasks} (h : s₁.attaches t order user = some s₂) :
          GoesOn settings t s s₂ :=
        .head ⟨_, rfl, hreads⟩ (.single ⟨_, rfl, hattaches.trans h⟩)
      rcases hcodes : ReferralService.codesOf s.growth order with _ | ⟨⟨id, referralCode⟩, _ | ⟨e, rest⟩⟩
      · refine ⟨s₁.ends t, hgoes ?_, rfl, .inl ⟨hnoReward (.inr (.inl ?_)), if_pos rfl⟩⟩
        · simp only [attaches, s₁, growth_setTask, hcodes]
        · rw [hcodes]
          exact Nat.zero_ne_one
      · by_cases hreferred : (s.growth.referrals.rows user).isSome
        · refine ⟨s₁.ends t, hgoes ?_, rfl, .inl ⟨hnoReward (.inr (.inr hreferred)), if_pos rfl⟩⟩
          simp only [attaches, s₁, growth_setTask, hcodes]
          exact if_pos hreferred
        · refine ⟨s₁.locksReferral t user (.rewarding order user
            (.found { referrer := referralCode.user, referralCode := id })), hgoes ?_, rfl,
            .inr ⟨_, fun hnone => ?_, ?_, if_pos rfl, rfl, .inr (if_pos rfl)⟩⟩
          · simp only [attaches, s₁, growth_setTask, hcodes]
            exact (if_neg hreferred).trans (if_pos hfree)
          · rcases (hnone user huser hpaid).2 with h | h | h
            · exact hcode h
            · exact h (by rw [hcodes]; rfl)
            · exact hreferred h
          · rw [ReferralService.referralOf, hpending, hcodes]
            rfl
      · refine ⟨s₁.ends t, hgoes ?_, rfl, .inl ⟨hnoReward (.inr (.inl ?_)), if_pos rfl⟩⟩
        · simp only [attaches, s₁, growth_setTask, hcodes]
        · rw [hcodes]
          exact (Nat.succ_lt_succ (Nat.succ_pos _)).ne'

/-- The reward of a referral that nothing comes between is the service. -/
theorem reward_alone (env : Env) (huser : order.user = some user)
    (hpaid : order.paymentStatus.isSuccessful) (hdb : db.growth = s.growth)
    (hidle : s.tasks t = .idle) (hfree : s.IsFree) : ∃ s' : LoyaltyTasks, GoesOn settings t s s' ∧
      s'.tasks t = .ended ∧ s'.growth = (referralRun env settings order db).growth := by
  obtain ⟨hsame, hrewards⟩ := referralRun_growth env settings huser db
  rw [hdb] at hsame hrewards
  have hbegins : s.step settings (.rewardBegins t order) =
      some (s.setTask t (.rewarding order user .begun)) := by
    simp only [step, begins, hidle, huser, hpaid, if_true]
  obtain ⟨s₂, hgoes₂, hgrowth₂, ⟨hnone, hended⟩ | ⟨referral, hreward, hof, htask, haccounts, hlock⟩⟩ :=
    reads_alone settings (s := s.setTask t (.rewarding order user .begun)) huser hpaid
      (tasks_setTask_self ..) (hfree.referrals user)
  · exact ⟨s₂, .head ⟨_, rfl, hbegins⟩ hgoes₂, hended, hgrowth₂.trans (hsame hnone).symm⟩
  · obtain ⟨s₃, hgoes₃, hended, hgrowth₃⟩ := found_alone settings env htask hlock
      (haccounts ▸ hfree.accounts)
    refine ⟨s₃, .head ⟨_, rfl, hbegins⟩ (hgoes₂.trans hgoes₃), hended, ?_⟩
    rw [hgrowth₃, hgrowth₂]
    exact (hrewards referral hreward hof).symm

end Alone

/-! ## What is to hold -/

namespace Loyalty

/-- The sum of the transactions of an account. -/
def balance (loyalty : Loyalty) (user : UserId) : ℤ :=
  ((loyalty.transactions.filter fun t => t.account = user).map (·.points)).sum

/-- The points of every account are the sum of its transactions. -/
def Balanced (loyalty : Loyalty) : Prop :=
  ∀ user, ((loyalty.account user).points : ℤ) = loyalty.balance user

/-- The user has earned points for the order. -/
def hasEarnedFor (loyalty : Loyalty) (o : OrderId) (user : UserId) : Prop :=
  ∃ t ∈ loyalty.transactions, t.order = some o ∧ t.transactionType = .earn ∧ t.account = user

instance (loyalty : Loyalty) (o : OrderId) (user : UserId) :
    Decidable (loyalty.hasEarnedFor o user) :=
  inferInstanceAs (Decidable (∃ t ∈ loyalty.transactions, _))

end Loyalty

namespace LoyaltyTasks

/-- The accounts are balanced, no buyer has been credited twice for an order, and no referral has
    been rewarded twice. -/
structure Sound (s : LoyaltyTasks) : Prop where
  balanced : s.growth.loyalty.Balanced
  credited : s.credited.Nodup
  rewarded : s.rewarded.Nodup

/-- What has been done can be seen in the tables. -/
structure OnRecord (s : LoyaltyTasks) : Prop where
  credited : ∀ e ∈ s.credited, s.growth.loyalty.hasEarnedFor e.1 e.2
  rewarded : ∀ u ∈ s.rewarded, ∃ row, s.growth.referrals.rows u = some row ∧ row.status = .rewarded

/-- An award that gives points finds the points of the buyer as it has read them, and no
    transaction of the buyer for the order; a reward finds the points of the referrer as it has
    read them, and the referral not rewarded. -/
def Undisturbed (settings : GrowthSettings) (s : LoyaltyTasks) : LoyaltyAction → Prop
  | .awardSaves t =>
    match s.tasks t with
    | .awarding order user (.read account) => 0 < pointsForOrderTotal settings order.total →
        (s.growth.loyalty.account user).points = account.points ∧
          ¬s.growth.loyalty.hasEarnedFor order.id user
    | _ => True
  | .rewardSaves t _ =>
    match s.tasks t with
    | .rewarding _ user (.read referral account) =>
        (s.growth.loyalty.account referral.referrer).points = account.points ∧
          ∀ row ∈ s.growth.referrals.rows user, row.status ≠ .rewarded
    | _ => True
  | _ => True

instance (settings : GrowthSettings) (s : LoyaltyTasks) (action : LoyaltyAction) :
    Decidable (s.Undisturbed settings action) := by
  unfold Undisturbed
  split <;> (try split) <;> infer_instance

end LoyaltyTasks

section Books

variable {settings : GrowthSettings} {order : OrderInstance} {user : UserId}
  {account : LoyaltyAccount} {loyalty : Loyalty}

theorem balance_record (loyalty : Loyalty) (t : LoyaltyTransaction) (u : UserId) :
    (loyalty.record t).balance u = loyalty.balance u + if t.account = u then t.points else 0 := by
  rw [Loyalty.balance, Loyalty.record, List.filter_append, List.map_append, List.sum_append]
  by_cases hu : t.account = u
  · simp [Loyalty.balance, hu]
  · simp [Loyalty.balance, hu]

theorem hasEarnedFor_record {t : LoyaltyTransaction} {o : OrderId} {u : UserId}
    (h : loyalty.hasEarnedFor o u) : (loyalty.record t).hasEarnedFor o u := by
  obtain ⟨t', ht', hmatch⟩ := h
  exact ⟨t', List.mem_append_left _ ht', hmatch⟩

/-- An entry keeps the balance if it makes up for the difference to the account before. -/
theorem Loyalty.Balanced.setAccount_record (h : loyalty.Balanced) {t : LoyaltyTransaction}
    (ht : t.account = user)
    (hpoints : (account.points : ℤ) = (loyalty.account user).points + t.points) :
    ((loyalty.setAccount user account).record t).Balanced := by
  intro u
  rw [balance_record, Loyalty.account_record, Loyalty.account_setAccount]
  have hsame : (loyalty.setAccount user account).balance u = loyalty.balance u := rfl
  rw [hsame, ← h u, ht]
  by_cases hu : u = user
  · subst u
    rw [if_pos rfl, if_pos rfl, hpoints]
  · rw [if_neg hu, if_neg (Ne.symm hu), add_zero]

theorem Loyalty.Balanced.saveAward (h : loyalty.Balanced)
    (hpoints : 0 < pointsForOrderTotal settings order.total)
    (hread : (loyalty.account user).points = account.points) :
    (loyalty.saveAward settings order user account).Balanced := by
  refine h.setAccount_record rfl ?_
  rw [hread]
  exact (Nat.cast_add _ _).trans (congrArg _ (Int.toNat_of_nonneg hpoints.le))

theorem Loyalty.Balanced.saveReward {referrer : UserId} (h : loyalty.Balanced)
    (hread : (loyalty.account referrer).points = account.points) :
    (loyalty.saveReward settings order referrer account).Balanced := by
  refine h.setAccount_record rfl ?_
  rw [hread]
  rfl

end Books

/-! ## Runs -/

section Runs

variable {settings : GrowthSettings} {s s' : LoyaltyTasks} {t : TaskId} {env : Env}
  {order : OrderInstance} {user : UserId} {referral : Referral} {account : LoyaltyAccount}

namespace LoyaltyTasks

theorem Sound.of_record (h : s.Sound) (hrecord : s'.record = s.record) : s'.Sound := by
  obtain ⟨hgrowth, hlists⟩ := Prod.mk.inj hrecord
  obtain ⟨hcredited, hrewarded⟩ := Prod.mk.inj hlists
  exact ⟨hgrowth ▸ h.balanced, hcredited ▸ h.credited, hrewarded ▸ h.rewarded⟩

theorem OnRecord.of_record (h : s.OnRecord) (hrecord : s'.record = s.record) : s'.OnRecord := by
  obtain ⟨hgrowth, hlists⟩ := Prod.mk.inj hrecord
  obtain ⟨hcredited, hrewarded⟩ := Prod.mk.inj hlists
  exact ⟨fun e he => hgrowth ▸ h.credited e (hcredited ▸ he),
    fun u hu => hgrowth ▸ h.rewarded u (hrewarded ▸ hu)⟩

theorem OnRecord.savesAward (h : s.OnRecord) :
    (s.savesAward settings t order user account).OnRecord := by
  rw [LoyaltyTasks.savesAward]
  split
  · exact ⟨h.credited, h.rewarded⟩
  · refine ⟨fun e he => ?_, h.rewarded⟩
    rcases List.mem_append.1 he with he | he
    · exact hasEarnedFor_record (h.credited e he)
    · obtain rfl := List.mem_singleton.1 he
      exact ⟨_, List.mem_append_right _ List.mem_cons_self, rfl, rfl, rfl⟩

theorem OnRecord.savesReward (h : s.OnRecord) :
    (s.savesReward settings t env order user referral account).OnRecord := by
  refine ⟨fun e he => hasEarnedFor_record (h.credited e he), fun u hu => ?_⟩
  by_cases hself : u = user
  · subst u
    exact ⟨_, Keyed.rows_put_self _ _ _, rfl⟩
  · have hold : u ∈ s.rewarded := (List.mem_append.1 hu).resolve_right
      fun hu => hself (List.mem_singleton.1 hu)
    obtain ⟨row, hrow, hstatus⟩ := h.rewarded u hold
    exact ⟨row, (Keyed.rows_put_ne _ _ hself).trans hrow, hstatus⟩

/-- An award that finds what it has read keeps the books. -/
theorem Sound.savesAward (h : s.Sound) (hon : s.OnRecord)
    (hguard : 0 < pointsForOrderTotal settings order.total →
      (s.growth.loyalty.account user).points = account.points ∧
        ¬s.growth.loyalty.hasEarnedFor order.id user) :
    (s.savesAward settings t order user account).Sound := by
  rw [LoyaltyTasks.savesAward]
  split
  next =>
    refine ⟨fun u => ?_, h.credited, h.rewarded⟩
    rw [Loyalty.account_setAccount_self]
    exact h.balanced u
  next hpoints =>
    obtain ⟨hread, hfresh⟩ := hguard (not_le.1 hpoints)
    refine ⟨h.balanced.saveAward (not_le.1 hpoints) hread, ?_, h.rewarded⟩
    exact List.nodup_append.2 ⟨h.credited, List.nodup_singleton _, fun e he e' he' hsame =>
      hfresh (by
        obtain rfl := List.mem_singleton.1 he'
        subst hsame
        exact hon.credited _ he)⟩

/-- So does a reward. -/
theorem Sound.savesReward (h : s.Sound) (hon : s.OnRecord)
    (hread : (s.growth.loyalty.account referral.referrer).points = account.points)
    (hfresh : ∀ row, s.growth.referrals.rows user = some row → row.status ≠ .rewarded) :
    (s.savesReward settings t env order user referral account).Sound := by
  refine ⟨h.balanced.saveReward hread, h.credited, ?_⟩
  refine List.nodup_append.2 ⟨h.rewarded, List.nodup_singleton _, fun u hu u' hu' hsame => ?_⟩
  obtain rfl := List.mem_singleton.1 hu'
  obtain ⟨row, hrow, hstatus⟩ := hon.rewarded u hu
  exact hfresh row (hsame ▸ hrow) hstatus

theorem OnRecord.step {action : LoyaltyAction} (h : s.OnRecord)
    (hstep : s.step settings action = some s') : s'.OnRecord := by
  rcases step_cases hstep with hrecord | ⟨t, order, user, account, -, -, rfl⟩ |
    ⟨t, env, order, user, referral, account, -, -, rfl⟩
  · exact h.of_record hrecord
  · exact h.savesAward
  · exact h.savesReward

theorem Sound.step {action : LoyaltyAction} (h : s.Sound) (hon : s.OnRecord)
    (hguard : s.Undisturbed settings action) (hstep : s.step settings action = some s') :
    s'.Sound := by
  rcases step_cases hstep with hrecord | ⟨t, order, user, account, rfl, htask, rfl⟩ |
    ⟨t, env, order, user, referral, account, rfl, htask, rfl⟩
  · exact h.of_record hrecord
  · simp only [Undisturbed, htask] at hguard
    exact h.savesAward hon hguard
  · simp only [Undisturbed, htask] at hguard
    exact h.savesReward hon hguard.1 hguard.2

end LoyaltyTasks

/-- However the statements of awards and rewards come one after the other: if each of them that
    saves something finds what it depends on as it was, then the points of every account are the sum
    of its transactions, every buyer is credited at most once for an order, and every referral is
    rewarded at most once. -/
theorem sound_of_undisturbed (growth : Growth) (hbalanced : growth.loyalty.Balanced)
    (run : List LoyaltyAction)
    (h : Guarded (LoyaltyTasks.step settings) (LoyaltyTasks.Undisturbed settings) (.start growth)
      run) :
    Throughout (LoyaltyTasks.step settings) LoyaltyTasks.Sound (.start growth) run := by
  have hstart : (LoyaltyTasks.start growth).Sound ∧ (LoyaltyTasks.start growth).OnRecord :=
    ⟨⟨hbalanced, List.nodup_nil, List.nodup_nil⟩, ⟨nofun, nofun⟩⟩
  refine (h.throughout (I := fun s => s.Sound ∧ s.OnRecord) ?_ hstart).mono fun _ hs => hs.1
  exact fun s a s' hs hguard hstep => ⟨hs.1.step hs.2 hguard hstep, hs.2.step hstep⟩

end Runs

/-! ## Two tasks at a time -/

/-- An order of the user 1. -/
def sweetOrderOf (o : OrderId) : OrderInstance := { sweetOrder with id := o }

/-- The user 1 has an empty account, and was referred by the user 2. -/
def sweetGrowth : Growth :=
  { referredBuyer.growth with loyalty := ({} : Loyalty).setAccount 1 {} }

theorem sweetGrowth_balanced : sweetGrowth.loyalty.Balanced := by
  intro u
  rw [sweetGrowth, Loyalty.account_setAccount]
  split <;> rfl

/-- One after the other, two awards, and a reward between them, keep the books. -/
theorem sound_of_undisturbed_sweet : Throughout (LoyaltyTasks.step {}) LoyaltyTasks.Sound
    (.start sweetGrowth)
    [.awardBegins 0 (sweetOrderOf 0), .awardChecks 0, .awardReads 0, .awardSaves 0,
      .rewardBegins 1 (sweetOrderOf 0), .rewardReads 1, .rewardMarks 1, .rewardReadsAccount 1,
      .rewardSaves 1 {}, .awardBegins 2 (sweetOrderOf 1), .awardChecks 2, .awardReads 2,
      .awardSaves 2] :=
  sound_of_undisturbed sweetGrowth sweetGrowth_balanced _ (by decide +kernel)

/-- Two awards for two orders save the points of one; two awards for one order credit it twice; and
    two tasks reward one referral twice. -/
theorem not_forall_sound :
    (¬∀ (settings : GrowthSettings) (growth : Growth) (run : List LoyaltyAction),
      growth.loyalty.Balanced → Throughout (LoyaltyTasks.step settings)
        (fun s => s.growth.loyalty.Balanced) (.start growth) run) ∧
    (¬∀ (settings : GrowthSettings) (growth : Growth) (run : List LoyaltyAction),
      growth.loyalty.Balanced → Throughout (LoyaltyTasks.step settings)
        (fun s => s.credited.Nodup) (.start growth) run) ∧
    ¬∀ (settings : GrowthSettings) (growth : Growth) (run : List LoyaltyAction),
      growth.loyalty.Balanced → Throughout (LoyaltyTasks.step settings)
        (fun s => s.rewarded.Nodup) (.start growth) run := by
  refine ⟨fun h => ?_, fun h => ?_, fun h => ?_⟩
  · let run : List LoyaltyAction :=
      [.awardBegins 0 (sweetOrderOf 0), .awardBegins 1 (sweetOrderOf 1), .awardChecks 0,
        .awardChecks 1, .awardReads 0, .awardReads 1, .awardSaves 0, .awardSaves 1]
    have hend : (run.foldlM (LoyaltyTasks.step {}) (.start sweetGrowth)).map (fun s =>
        ((s.growth.loyalty.account 1).points, s.growth.loyalty.balance 1)) = some (50, 100) := by
      decide +kernel
    obtain ⟨s, hrun, hs⟩ := Option.map_eq_some_iff.1 hend
    obtain ⟨hpoints, hbalance⟩ := Prod.mk.inj hs
    have hsame := (h {} sweetGrowth run sweetGrowth_balanced).last hrun 1
    omega
  · let run : List LoyaltyAction :=
      [.awardBegins 0 (sweetOrderOf 0), .awardBegins 1 (sweetOrderOf 0), .awardChecks 0,
        .awardChecks 1, .awardReads 0, .awardSaves 0, .awardReads 1, .awardSaves 1]
    have hend : (run.foldlM (LoyaltyTasks.step {}) (.start sweetGrowth)).map (·.credited) =
        some [(0, 1), (0, 1)] := by
      decide +kernel
    obtain ⟨s, hrun, hs⟩ := Option.map_eq_some_iff.1 hend
    have hnodup := (h {} sweetGrowth run sweetGrowth_balanced).last hrun
    rw [hs] at hnodup
    exact absurd hnodup (by decide)
  · let run : List LoyaltyAction :=
      [.rewardBegins 0 (sweetOrderOf 0), .rewardBegins 1 (sweetOrderOf 1), .rewardReads 0,
        .rewardReads 1, .rewardMarks 0, .rewardReadsAccount 0, .rewardSaves 0 {}, .rewardMarks 1,
        .rewardReadsAccount 1, .rewardSaves 1 {}]
    have hend : (run.foldlM (LoyaltyTasks.step {}) (.start sweetGrowth)).map (·.rewarded) =
        some [1, 1] := by
      decide +kernel
    obtain ⟨s, hrun, hs⟩ := Option.map_eq_some_iff.1 hend
    have hnodup := (h {} sweetGrowth run sweetGrowth_balanced).last hrun
    rw [hs] at hnodup
    exact absurd hnodup (by decide)

end Crumbs
