import Crumbs.Db.Runs
import Crumbs.Growth.Segments
import Crumbs.Text.Keys

/-!
# Promotion Campaigns

A campaign is sent by a task of the queue: it looks up the customers of the campaign's segment, puts
one message for each of them into the queue of messages, and marks the campaign as sent at the end.
The admin can put the task into the queue any number of times, the queue delivers it at least once,
and a worker may be lost between any two of its steps. So several tasks may be at work on the same
campaign, while customers, memberships and campaigns are edited.

## Contents

- `sendPromotionCampaignTask`: the task, with nothing in between
- `PromotionSystem`: the tasks at work, with `step` for the next thing that one of them does
- `PromotionSystem.Sound`: the messages are those that the tasks account for
- `messages_of_run`: the messages that a customer gets over a run, and what the campaign says of them
- `silent_of_run`: a campaign that is sent sends nothing more, unless it is set back to a draft
- `run_alone`: a task that nothing comes between is the function
-/

namespace Crumbs

open Crumbs.Db

abbrev CampaignId := ℕ

/-! ## The task -/

/-- `PromotionCampaign.Status` -/
inductive CampaignStatus where
  | draft
  | sent
  deriving DecidableEq, Repr

structure PromotionCampaign where
  message : String
  segment : Option SegmentId := none
  status : CampaignStatus := .draft
  sentCount : ℕ := 0
  sentAt : Option Time := none
  deriving DecidableEq, Repr

/-- What `dispatch_raw_sms` puts into the queue of messages. -/
structure RawSms where
  recipient : String
  message : String
  templateCode : String
  user : UserId
  dedupeKey : String
  deriving DecidableEq, Repr

/-- The tables that a campaign is made of, and the messages that were dispatched. -/
structure Promotions where
  customers : Customers
  memberships : Memberships := .empty
  campaigns : Table PromotionCampaign := .empty
  dispatched : List RawSms := []

/-- What the task returns. -/
inductive CampaignReport where
  | skipped (reason : String)
  | queued (campaign : CampaignId) (queued : ℕ)
  deriving DecidableEq, Repr

def promotionKey (c : CampaignId) (user : UserId) : String := s!"promo:{c}:{user}"

namespace Promotions

/-- `users.distinct()` -/
def audience (s : Promotions) (campaign : PromotionCampaign) : List UserId :=
  match campaign.segment with
  | none => s.customers.activeUsers
  | some segment =>
    s.customers.activeUsers.filter fun user => decide (segment ∈ s.memberships.segmentsOf user)

/-- The phone number of the profile, or an empty one if there is no profile. -/
def phone (s : Promotions) (user : UserId) : String := (s.customers.db.contacts user).phone

/-- The message for a user. -/
def sms (s : Promotions) (c : CampaignId) (campaign : PromotionCampaign) (user : UserId) : RawSms where
  recipient := s.phone user
  message := campaign.message
  templateCode := "promotion"
  user := user
  dedupeKey := promotionKey c user

/-- The body of the loop; `campaign` is the row as the task has loaded it. -/
def sendTo (c : CampaignId) (campaign : PromotionCampaign) (acc : Promotions × ℕ) (user : UserId) :
    Promotions × ℕ :=
  if acc.1.phone user = "" then acc
  else ({ acc.1 with dispatched := acc.1.dispatched ++ [acc.1.sms c campaign user] }, acc.2 + 1)

/-- `campaign.save(update_fields=["status", "sent_count", "sent_at"])` -/
def markSent (s : Promotions) (now : Time) (c : CampaignId) (queued : ℕ) : Promotions :=
  { s with
    campaigns := s.campaigns.modify c
      ({ · with status := .sent, sentCount := queued, sentAt := some now }) }

end Promotions

/-- `send_promotion_campaign_task` -/
def sendPromotionCampaignTask (now : Time) (c : CampaignId) (s : Promotions) :
    CampaignReport × Promotions :=
  match s.campaigns.rows c with
  | none => (.skipped "campaign_not_found", s)
  | some campaign =>
    if campaign.status = .sent then (.skipped "already_sent", s)
    else
      let (s', queued) := (s.audience campaign).foldl (Promotions.sendTo c campaign) (s, 0)
      (.queued c queued, s'.markSent now c queued)

/-! ## Tasks at work -/

/-- Where a task is. -/
inductive TaskPhase where
  | loaded
  | looping (waiting : List UserId)
  | finished
  /-- It has raised, or its worker is lost. The queue delivers it again, as another task. -/
  | crashed
  deriving DecidableEq, Repr

/-- A task that has gone on past its checks, with the row that it has loaded. `reached` are the
    users that it has dispatched a message for. -/
structure CampaignTask where
  id : CampaignId
  campaign : PromotionCampaign
  phase : TaskPhase := .loaded
  queued : ℕ := 0
  reached : List UserId := []
  deriving DecidableEq, Repr

/-- The users that a task has not looked at yet. -/
def CampaignTask.waiting (task : CampaignTask) : List UserId :=
  match task.phase with
  | .looping waiting => waiting
  | _ => []

/-- The tables, and all tasks that have ever gone on past their checks. -/
structure PromotionSystem extends Promotions where
  tasks : Table CampaignTask := .empty

/-- The next thing that a task does, or something that happens around the tasks. -/
inductive PromotionAction where
  /-- A worker takes a message of the queue and loads the campaign. It skips one that is sent. -/
  | load (c : CampaignId)
  /-- The query of the loop. -/
  | query (i : ℕ)
  | next (i : ℕ)
  | finish (now : Time) (i : ℕ)
  | crash (i : ℕ)
  /-- Customers, segments and memberships become others. -/
  | others (customers : Customers) (memberships : Memberships)
  /-- The admin's form, with everything that is typed into it. -/
  | create (campaign : PromotionCampaign)
  | edit (c : CampaignId) (campaign : PromotionCampaign)
  | delete (c : CampaignId)

namespace PromotionSystem

def setTask (s : PromotionSystem) (i : ℕ) (task : CampaignTask) : PromotionSystem :=
  { s with tasks := s.tasks.modify i fun _ => task }

/-- What happens, if it can. -/
def step (s : PromotionSystem) : PromotionAction → Option PromotionSystem
  | .load c =>
    match s.campaigns.rows c with
    | none => some s
    | some campaign =>
      if campaign.status = .sent then some s
      else some { s with tasks := s.tasks.insert { id := c, campaign } }
  | .query i =>
    match s.tasks.rows i with
    | some task =>
      if task.phase = .loaded then
        some (s.setTask i { task with phase := .looping (s.audience task.campaign) })
      else none
    | none => none
  | .next i =>
    match s.tasks.rows i with
    | some task =>
      match task.phase with
      | .looping (user :: rest) =>
        let task := { task with phase := .looping rest }
        if s.phone user = "" then some (s.setTask i task)
        else some { s.setTask i { task with
              queued := task.queued + 1, reached := task.reached ++ [user] } with
            dispatched := s.dispatched ++ [s.sms task.id task.campaign user] }
      | _ => none
    | none => none
  | .finish now i =>
    match s.tasks.rows i with
    | some task =>
      if task.phase = .looping [] then
        some { s.setTask i { task with phase := .finished } with
          toPromotions := s.markSent now task.id task.queued }
      else none
    | none => none
  | .crash i =>
    match s.tasks.rows i with
    | some task =>
      if task.phase = .finished then none else some (s.setTask i { task with phase := .crashed })
    | none => none
  | .others customers memberships => some { s with customers, memberships }
  | .create campaign => some { s with campaigns := s.campaigns.insert campaign }
  | .edit c campaign => some { s with campaigns := s.campaigns.modify c fun _ => campaign }
  | .delete c => some { s with campaigns := s.campaigns.erase c }

end PromotionSystem

/-! ## Accounts -/

/-- The key names the campaign and the user. -/
theorem promotionKey_inj {c c' : CampaignId} {user user' : UserId}
    (h : promotionKey c user = promotionKey c' user') : c = c' ∧ user = user' := by
  have hlist : "promo:".toList ++ (c.repr.toList ++ ':' :: user.repr.toList) =
      "promo:".toList ++ (c'.repr.toList ++ ':' :: user'.repr.toList) := by
    simpa [promotionKey, toString, String.toList_append] using congrArg String.toList h
  exact twoNumbers_inj hlist

namespace Promotions

/-- How many messages of the campaign a user was sent. -/
def messagesTo (s : Promotions) (c : CampaignId) (user : UserId) : ℕ :=
  s.dispatched.countP fun m => decide (m.dedupeKey = promotionKey c user)

/-- How many messages of the campaign were sent. -/
def messagesOf (s : Promotions) (c : CampaignId) : ℕ :=
  s.dispatched.countP fun m => decide (m.dedupeKey = promotionKey c m.user)

theorem messagesTo_append (s : Promotions) (c c' : CampaignId) (campaign : PromotionCampaign)
    (user u : UserId) :
    ({ s with dispatched := s.dispatched ++ [s.sms c campaign user] } : Promotions).messagesTo c' u =
      s.messagesTo c' u + if c = c' ∧ user = u then 1 else 0 := by
  rw [messagesTo, List.countP_append, ← messagesTo, List.countP_singleton]
  congr 1
  by_cases h : c = c' ∧ user = u
  · simp [sms, h]
  · have hkey : promotionKey c user ≠ promotionKey c' u := fun heq => h (promotionKey_inj heq)
    simp [sms, h, hkey]

theorem messagesOf_append (s : Promotions) (c c' : CampaignId) (campaign : PromotionCampaign)
    (user : UserId) :
    ({ s with dispatched := s.dispatched ++ [s.sms c campaign user] } : Promotions).messagesOf c' =
      s.messagesOf c' + if c = c' then 1 else 0 := by
  rw [messagesOf, List.countP_append, ← messagesOf, List.countP_singleton]
  congr 1
  by_cases h : c = c'
  · simp [sms, h]
  · have hkey : promotionKey c user ≠ promotionKey c' user := fun heq => h (promotionKey_inj heq).1
    simp [sms, h, hkey]

end Promotions

/-- A task looks at no user twice, and counts the users that it has reached. -/
structure CampaignTask.Fits (task : CampaignTask) : Prop where
  nodup : (task.reached ++ task.waiting).Nodup
  queued : task.queued = task.reached.length
  loaded : task.phase = .loaded → task.reached = []

/-- The tasks account for all messages. -/
structure PromotionSystem.Sound (s : PromotionSystem) : Prop where
  fits : ∀ i task, s.tasks.rows i = some task → task.Fits
  reached : ∀ c user, s.messagesTo c user =
    s.tasks.total fun task => if task.id = c then task.reached.count user else 0
  queued : ∀ c, s.messagesOf c = s.tasks.total fun task => if task.id = c then task.queued else 0

/-- A campaign that is sent has the count of a task that has finished it. -/
def PromotionSystem.Counted (s : PromotionSystem) : Prop :=
  ∀ c campaign, s.campaigns.rows c = some campaign → campaign.status = .sent →
    ∃ i task, s.tasks.rows i = some task ∧ task.id = c ∧ task.phase = .finished ∧
      campaign.sentCount = task.queued

/-- Nobody types into the form that a campaign is sent, or another count. -/
def PromotionAction.KeepsCount (s : PromotionSystem) : PromotionAction → Prop
  | .create campaign => campaign.status = .draft
  | .edit c campaign => ∀ old, s.campaigns.rows c = some old → campaign.status = .sent →
      old.status = .sent ∧ campaign.sentCount = old.sentCount
  | _ => True

namespace PromotionSystem

variable {s : PromotionSystem} {i : ℕ} {task task' : CampaignTask}

/-- A task goes on without a message. -/
theorem Sound.setTask (h : s.Sound) (hrow : s.tasks.rows i = some task) (hid : task'.id = task.id)
    (hreached : task'.reached = task.reached) (hqueued : task'.queued = task.queued)
    (hfits : task'.Fits) : (s.setTask i task').Sound where
  fits j r hr := by
    rcases Table.rows_modify_eq_some.1 hr with ⟨-, -, -, rfl⟩ | ⟨-, hr⟩
    · exact hfits
    · exact h.fits j r hr
  reached c user := by
    have hmoved := Table.total_modify hrow (fun _ => task')
      fun task => if task.id = c then task.reached.count user else 0
    rw [hid, hreached] at hmoved
    exact (h.reached c user).trans (Nat.add_right_cancel hmoved).symm
  queued c := by
    have hmoved := Table.total_modify hrow (fun _ => task')
      fun task => if task.id = c then task.queued else 0
    rw [hid, hqueued] at hmoved
    exact (h.queued c).trans (Nat.add_right_cancel hmoved).symm

/-- A task that has not finished a campaign goes on. -/
theorem Counted.setTask (h : s.Counted) (hrow : s.tasks.rows i = some task)
    (hphase : task.phase ≠ .finished) : (s.setTask i task').Counted := by
  intro c campaign hcampaign hstatus
  obtain ⟨j, r, hr, hrest⟩ := h c campaign hcampaign hstatus
  refine ⟨j, r, ?_, hrest⟩
  have hj : j ≠ i := by
    rintro rfl
    exact hphase (Option.some.inj (hrow.symm.trans hr) ▸ hrest.2.1)
  exact (Table.rows_modify_ne _ _ hj).trans hr

/-- Another task begins. -/
theorem Sound.load (h : s.Sound) (c : CampaignId) (campaign : PromotionCampaign) :
    ({ s with tasks := s.tasks.insert { id := c, campaign } } : PromotionSystem).Sound where
  fits j r hr := by
    rcases Table.rows_insert_cases hr with ⟨-, rfl⟩ | ⟨-, hr⟩
    · exact ⟨List.nodup_nil, rfl, fun _ => rfl⟩
    · exact h.fits j r hr
  reached c' user := by
    refine (h.reached c' user).trans (Eq.symm ?_)
    rw [Table.total_insert]
    simp
  queued c' := by
    refine (h.queued c').trans (Eq.symm ?_)
    rw [Table.total_insert]
    simp

theorem Counted.load (h : s.Counted) (c : CampaignId) (campaign : PromotionCampaign) :
    ({ s with tasks := s.tasks.insert { id := c, campaign } } : PromotionSystem).Counted := by
  intro c' campaign' hcampaign hstatus
  obtain ⟨j, r, hr, hrest⟩ := h c' campaign' hcampaign hstatus
  exact ⟨j, r, Table.rows_insert_of_some _ hr, hrest⟩

/-- A task dispatches a message. -/
theorem Sound.dispatch (h : s.Sound) {user : UserId} {rest : List UserId}
    (hrow : s.tasks.rows i = some task) (hphase : task.phase = .looping (user :: rest)) :
    ({ s.setTask i { task with
        phase := .looping rest, queued := task.queued + 1, reached := task.reached ++ [user] } with
      dispatched := s.dispatched ++ [s.sms task.id task.campaign user] } : PromotionSystem).Sound where
  fits j r hr := by
    rcases Table.rows_modify_eq_some.1 hr with ⟨-, -, -, rfl⟩ | ⟨-, hr⟩
    · obtain ⟨hnodup, hqueued, -⟩ := h.fits i task hrow
      rw [CampaignTask.waiting, hphase] at hnodup
      refine ⟨?_, ?_, nofun⟩
      · simpa [CampaignTask.waiting] using hnodup
      · simp [hqueued]
    · exact h.fits j r hr
  reached c u := by
    have hmoved := Table.total_modify hrow (fun _ => { task with
      phase := .looping rest, queued := task.queued + 1, reached := task.reached ++ [user] })
      fun task => if task.id = c then task.reached.count u else 0
    have hshare : (if task.id = c then (task.reached ++ [user]).count u else 0) =
        (if task.id = c then task.reached.count u else 0) +
          if task.id = c ∧ user = u then 1 else 0 := by
      by_cases hid : task.id = c <;> by_cases huser : user = u <;> simp [hid, huser]
    rw [hshare] at hmoved
    refine (s.messagesTo_append task.id c task.campaign user u).trans ?_
    rw [h.reached c u]
    change _ = (s.tasks.modify i _).total _
    omega
  queued c := by
    have hmoved := Table.total_modify hrow (fun _ => { task with
      phase := .looping rest, queued := task.queued + 1, reached := task.reached ++ [user] })
      fun task => if task.id = c then task.queued else 0
    have hshare : (if task.id = c then task.queued + 1 else 0) =
        (if task.id = c then task.queued else 0) + if task.id = c then 1 else 0 := by
      by_cases hid : task.id = c <;> simp [hid]
    rw [hshare] at hmoved
    refine (s.messagesOf_append task.id c task.campaign user).trans ?_
    rw [h.queued c]
    change _ = (s.tasks.modify i _).total _
    omega

/-- A task marks its campaign as sent. -/
theorem Sound.finish (h : s.Sound) (now : Time) (hrow : s.tasks.rows i = some task)
    (hphase : task.phase = .looping []) :
    ({ s.setTask i { task with phase := .finished } with
      toPromotions := s.markSent now task.id task.queued } : PromotionSystem).Sound where
  fits j r hr := by
    rcases Table.rows_modify_eq_some.1 hr with ⟨-, -, -, rfl⟩ | ⟨-, hr⟩
    · obtain ⟨hnodup, hqueued, -⟩ := h.fits i task hrow
      refine ⟨?_, hqueued, nofun⟩
      simpa [CampaignTask.waiting, hphase] using hnodup
    · exact h.fits j r hr
  reached c user := by
    have hmoved := Table.total_modify hrow (fun _ => { task with phase := .finished })
      fun task => if task.id = c then task.reached.count user else 0
    exact (h.reached c user).trans (Nat.add_right_cancel hmoved).symm
  queued c := by
    have hmoved := Table.total_modify hrow (fun _ => { task with phase := .finished })
      fun task => if task.id = c then task.queued else 0
    exact (h.queued c).trans (Nat.add_right_cancel hmoved).symm

theorem Counted.finish (h : s.Counted) (now : Time) (hrow : s.tasks.rows i = some task)
    (hphase : task.phase = .looping []) :
    ({ s.setTask i { task with phase := .finished } with
      toPromotions := s.markSent now task.id task.queued } : PromotionSystem).Counted := by
  intro c campaign hcampaign hstatus
  rcases Table.rows_modify_eq_some.1 hcampaign with ⟨rfl, old, -, rfl⟩ | ⟨hc, hcampaign⟩
  · exact ⟨i, _, (Table.rows_modify_self ..).trans (congrArg (Option.map _) hrow), rfl, rfl, rfl⟩
  · exact h.setTask hrow (by simp [hphase]) c campaign hcampaign hstatus

/-- Campaigns and customers become others. -/
theorem Sound.others (h : s.Sound) {s' : Promotions} (hdispatched : s'.dispatched = s.dispatched) :
    ({ s with toPromotions := s' } : PromotionSystem).Sound where
  fits := h.fits
  reached c user := by
    rw [← h.reached c user, Promotions.messagesTo, Promotions.messagesTo, hdispatched]
  queued c := by
    rw [← h.queued c, Promotions.messagesOf, Promotions.messagesOf, hdispatched]

/-- They do, and no campaign becomes sent. -/
theorem Counted.others (h : s.Counted) {s' : Promotions}
    (hcampaigns : ∀ c campaign, s'.campaigns.rows c = some campaign → campaign.status = .sent →
      ∃ old, s.campaigns.rows c = some old ∧ old.status = .sent ∧
        campaign.sentCount = old.sentCount) :
    ({ s with toPromotions := s' } : PromotionSystem).Counted := by
  intro c campaign hcampaign hstatus
  obtain ⟨old, hold, hsent, hcount⟩ := hcampaigns c campaign hcampaign hstatus
  obtain ⟨i, task, hrow, hid, hfinished, hqueued⟩ := h c old hold hsent
  exact ⟨i, task, hrow, hid, hfinished, hcount.trans hqueued⟩

end PromotionSystem

theorem Promotions.nodup_audience (s : Promotions) (campaign : PromotionCampaign) :
    (s.audience campaign).Nodup := by
  have hactive : s.customers.activeUsers.Nodup := Table.nodup_filter _ _
  rw [audience]
  split
  next => exact hactive
  next => exact hactive.filter _

namespace PromotionSystem

variable {s s' : PromotionSystem}

/-- Every step keeps the accounts. -/
theorem Sound.step (h : s.Sound) {action : PromotionAction} (hstep : s.step action = some s') :
    s'.Sound := by
  cases action with
  | load c =>
    simp only [PromotionSystem.step] at hstep
    split at hstep
    next =>
      cases hstep
      exact h
    next campaign _ =>
      split at hstep <;> cases hstep
      next => exact h
      next => exact h.load c campaign
  | query i =>
    simp only [PromotionSystem.step] at hstep
    split at hstep
    next task hrow =>
      split at hstep
      next hphase =>
        cases hstep
        obtain ⟨-, hqueued, hloaded⟩ := h.fits i task hrow
        refine h.setTask hrow rfl rfl rfl ⟨?_, hqueued, nofun⟩
        rw [hloaded hphase]
        exact s.toPromotions.nodup_audience task.campaign
      next => cases hstep
    next => cases hstep
  | next i =>
    simp only [PromotionSystem.step] at hstep
    split at hstep
    next task hrow =>
      split at hstep
      next user rest hphase =>
        split at hstep
        next =>
          cases hstep
          obtain ⟨hnodup, hqueued, -⟩ := h.fits i task hrow
          rw [CampaignTask.waiting, hphase] at hnodup
          refine h.setTask hrow rfl rfl rfl ⟨?_, hqueued, nofun⟩
          exact hnodup.sublist ((List.sublist_cons_self user rest).append_left _)
        next =>
          cases hstep
          exact h.dispatch hrow hphase
      next => cases hstep
    next => cases hstep
  | finish now i =>
    simp only [PromotionSystem.step] at hstep
    split at hstep
    next task hrow =>
      split at hstep
      next hphase =>
        cases hstep
        exact h.finish now hrow hphase
      next => cases hstep
    next => cases hstep
  | crash i =>
    simp only [PromotionSystem.step] at hstep
    split at hstep
    next task hrow =>
      split at hstep
      next => cases hstep
      next hphase =>
        cases hstep
        obtain ⟨hnodup, hqueued, -⟩ := h.fits i task hrow
        refine h.setTask hrow rfl rfl rfl ⟨?_, hqueued, nofun⟩
        rw [CampaignTask.waiting, List.append_nil]
        exact hnodup.sublist (List.sublist_append_left _ _)
    next => cases hstep
  | others | create | edit | delete =>
    cases hstep
    exact h.others rfl

/-- Every step keeps the counts, if nobody types others. -/
theorem Counted.step (h : s.Counted) {action : PromotionAction} (hkeeps : action.KeepsCount s)
    (hstep : s.step action = some s') : s'.Counted := by
  cases action with
  | load c =>
    simp only [PromotionSystem.step] at hstep
    split at hstep
    next =>
      cases hstep
      exact h
    next campaign _ =>
      split at hstep <;> cases hstep
      next => exact h
      next => exact h.load c campaign
  | query i =>
    simp only [PromotionSystem.step] at hstep
    split at hstep
    next task hrow =>
      split at hstep
      next hphase =>
        cases hstep
        exact h.setTask hrow (by simp [hphase])
      next => cases hstep
    next => cases hstep
  | next i =>
    simp only [PromotionSystem.step] at hstep
    split at hstep
    next task hrow =>
      split at hstep
      next user rest hphase =>
        split at hstep
        next =>
          cases hstep
          exact h.setTask hrow (by simp [hphase])
        next =>
          cases hstep
          have hset : (s.setTask i { task with
              phase := .looping rest, queued := task.queued + 1
              reached := task.reached ++ [user] }).Counted :=
            h.setTask hrow (by simp [hphase])
          exact hset
      next => cases hstep
    next => cases hstep
  | finish now i =>
    simp only [PromotionSystem.step] at hstep
    split at hstep
    next task hrow =>
      split at hstep
      next hphase =>
        cases hstep
        exact h.finish now hrow hphase
      next => cases hstep
    next => cases hstep
  | crash i =>
    simp only [PromotionSystem.step] at hstep
    split at hstep
    next task hrow =>
      split at hstep
      next => cases hstep
      next hphase =>
        cases hstep
        exact h.setTask hrow hphase
    next => cases hstep
  | others customers memberships =>
    cases hstep
    exact h.others fun c campaign hcampaign hsent => ⟨campaign, hcampaign, hsent, rfl⟩
  | create new =>
    cases hstep
    refine h.others fun c campaign hcampaign hsent => ?_
    rcases Table.rows_insert_cases hcampaign with ⟨-, rfl⟩ | ⟨-, hold⟩
    · cases hsent.symm.trans hkeeps
    · exact ⟨campaign, hold, hsent, rfl⟩
  | edit c new =>
    cases hstep
    refine h.others fun c' campaign hcampaign hsent => ?_
    rcases Table.rows_modify_eq_some.1 hcampaign with ⟨rfl, old, hold, rfl⟩ | ⟨-, hold⟩
    · obtain ⟨hsent', hcount⟩ := hkeeps old hold hsent
      exact ⟨old, hold, hsent', hcount⟩
    · exact ⟨campaign, hold, hsent, rfl⟩
  | delete c =>
    cases hstep
    refine h.others fun c' campaign hcampaign hsent => ?_
    change (if c' = c then none else s.campaigns.rows c') = some campaign at hcampaign
    split at hcampaign
    next => cases hcampaign
    next => exact ⟨campaign, hcampaign, hsent, rfl⟩

/-! ## Runs -/

/-- Nothing was sent yet, and no task is at work. -/
structure IsFresh (s : PromotionSystem) : Prop where
  tasks : s.tasks = .empty
  dispatched : s.dispatched = []
  drafts : ∀ c campaign, s.campaigns.rows c = some campaign → campaign.status = .draft

/-- The tasks that have gone on past their checks for a campaign. -/
def tasksOf (s : PromotionSystem) (c : CampaignId) : List (ℕ × CampaignTask) :=
  s.tasks.filter fun task => decide (task.id = c)

/-- The messages of the campaign are those that its tasks have sent, and no task has sent a customer
    more than one. -/
structure Reports (s : PromotionSystem) (c : CampaignId) : Prop where
  once : ∀ e ∈ s.tasksOf c, ∀ user, e.2.reached.count user ≤ 1
  messages : ∀ user, s.messagesTo c user =
    ((s.tasksOf c).map fun e => e.2.reached.count user).sum

/-- The campaign counts at most the messages that were sent: exactly these, if there was one task. -/
def Counts (s : PromotionSystem) (c : CampaignId) : Prop :=
  ∀ campaign, s.campaigns.rows c = some campaign → campaign.status = .sent →
    campaign.sentCount ≤ s.messagesOf c ∧
      ((s.tasksOf c).length = 1 → campaign.sentCount = s.messagesOf c)

theorem IsFresh.sound (h : s.IsFresh) : s.Sound where
  fits i task hrow := by
    rw [h.tasks] at hrow
    cases hrow
  reached c user := by
    rw [Promotions.messagesTo, h.dispatched, h.tasks]
    rfl
  queued c := by
    rw [Promotions.messagesOf, h.dispatched, h.tasks]
    rfl

theorem IsFresh.counted (h : s.IsFresh) : s.Counted := fun c campaign hcampaign hsent =>
  nomatch (h.drafts c campaign hcampaign).symm.trans hsent

theorem Sound.reports (h : s.Sound) (c : CampaignId) : s.Reports c where
  once e he user := List.nodup_iff_count_le_one.1
    ((h.fits e.1 e.2 (Table.mem_filter.1 he).1).nodup.sublist (List.sublist_append_left _ _)) user
  messages user := by
    rw [h.reached c user, tasksOf, s.tasks.sum_filter _ fun task => task.reached.count user]
    simp

theorem Counted.counts (h : s.Counted) (hsound : s.Sound) (c : CampaignId) : s.Counts c := by
  intro campaign hcampaign hsent
  obtain ⟨i, task, hrow, hid, -, hcount⟩ := h c campaign hcampaign hsent
  have hsum : ((s.tasksOf c).map fun e => e.2.queued).sum = s.messagesOf c := by
    rw [hsound.queued c, tasksOf, Table.sum_filter]
    simp
  have hmem : (i, task) ∈ s.tasksOf c := Table.mem_filter.2 ⟨hrow, decide_eq_true hid⟩
  rw [hcount, ← hsum]
  refine ⟨List.single_le_sum (fun _ _ => Nat.zero_le _) _ (List.mem_map_of_mem hmem), fun hone => ?_⟩
  obtain ⟨e, he⟩ := List.length_eq_one_iff.1 hone
  rw [he] at hmem ⊢
  rw [← List.mem_singleton.1 hmem]
  simp

end PromotionSystem

open PromotionSystem in
/-- Over every run of tasks, redelivered, repeated and lost in any order, with customers, memberships
    and campaigns edited in between, no task sends a customer more than one message. What a campaign
    says of its messages is true as long as nobody types something else. -/
theorem messages_of_run (start : PromotionSystem) (h : start.IsFresh) (run : List PromotionAction) :
    Throughout step (fun s => ∀ c, s.Reports c) start run ∧
      (Guarded step (fun s action => action.KeepsCount s) start run →
        Throughout step (fun s => ∀ c, s.Counts c) start run) := by
  refine ⟨(Throughout.of_inv (fun _ _ _ hs hstep => Sound.step hs hstep) h.sound).mono
    fun _ hs => hs.reports, fun hguarded => ?_⟩
  refine (hguarded.throughout (I := fun s => s.Sound ∧ s.Counted) ?_ ⟨h.sound, h.counted⟩).mono
    fun _ hs => hs.2.counts hs.1
  exact fun _ _ _ hs hkeeps hstep => ⟨hs.1.step hstep, hs.2.step hkeeps hstep⟩

/-- A customer that can be reached, and a campaign for its segment. -/
def morningOffer : PromotionSystem where
  customers := { newcomers with db := { newcomers.db with contacts := fun _ => { phone := "1" } } }
  campaigns := Table.empty.insert { message := "Fresh bread", segment := some 0 }

theorem isFresh_morningOffer : morningOffer.IsFresh := by
  refine ⟨rfl, rfl, fun c campaign hrow => ?_⟩
  rcases Table.rows_insert_cases hrow with ⟨-, rfl⟩ | ⟨-, hrow⟩
  · rfl
  · cases hrow

/-- The task is put into the queue twice, and the first worker is lost. -/
def twiceQueued : List PromotionAction :=
  [.load 0, .load 0, .query 0, .next 0, .crash 0, .query 1, .next 1, .finish 0 1]

theorem messages_of_run_morningOffer :
    Throughout PromotionSystem.step (fun s => ∀ c, s.Reports c) morningOffer twiceQueued ∧
      Throughout PromotionSystem.step (fun s => ∀ c, s.Counts c) morningOffer twiceQueued := by
  obtain ⟨hreports, hcounts⟩ := messages_of_run morningOffer isFresh_morningOffer twiceQueued
  exact ⟨hreports, hcounts (.of_forall (by simp [twiceQueued, PromotionAction.KeepsCount]))⟩

/-! ## Campaigns that are sent -/

/-- The campaign is not set back to a draft. -/
def PromotionAction.LeavesSent (c : CampaignId) : PromotionAction → Prop
  | .edit c' campaign => c' = c → campaign.status = .sent
  | _ => True

namespace PromotionSystem

variable {s s' : PromotionSystem} {c : CampaignId} {n : ℕ}

/-- The campaign is sent, no task is at work on it, and `n` messages went out for it. -/
structure Silent (c : CampaignId) (n : ℕ) (s : PromotionSystem) : Prop where
  sent : ∀ campaign, s.campaigns.rows c = some campaign → campaign.status = .sent
  known : c < s.campaigns.next
  ended : ∀ i task, s.tasks.rows i = some task → task.id = c →
    task.phase = .finished ∨ task.phase = .crashed
  messages : s.messagesOf c = n

/-- A task that is still at work is one of another campaign. -/
theorem Silent.id_ne (h : s.Silent c n) {i : ℕ} {task : CampaignTask}
    (hrow : s.tasks.rows i = some task) (hphase : task.phase ≠ .finished ∧ task.phase ≠ .crashed) :
    task.id ≠ c := by
  intro hid
  rcases h.ended i task hrow hid with hended | hended
  · exact hphase.1 hended
  · exact hphase.2 hended

theorem ended_setTask (h : s.Silent c n) {i : ℕ} {task' : CampaignTask} (hid : task'.id = c →
    task'.phase = .finished ∨ task'.phase = .crashed) (j : ℕ) (task : CampaignTask)
    (hrow : (s.setTask i task').tasks.rows j = some task) (hc : task.id = c) :
    task.phase = .finished ∨ task.phase = .crashed := by
  rcases Table.rows_modify_eq_some.1 hrow with ⟨-, -, -, rfl⟩ | ⟨-, hrow⟩
  · exact hid hc
  · exact h.ended j task hrow hc

/-- Every step leaves a campaign silent that is, unless it is set back to a draft. -/
theorem Silent.step (h : s.Silent c n) {action : PromotionAction} (hleaves : action.LeavesSent c)
    (hstep : s.step action = some s') : s'.Silent c n := by
  cases action with
  | load c' =>
    simp only [PromotionSystem.step] at hstep
    split at hstep
    next =>
      cases hstep
      exact h
    next campaign hcampaign =>
      split at hstep <;> cases hstep
      next => exact h
      next hdraft =>
        refine ⟨h.sent, h.known, fun i task hrow hid => ?_, h.messages⟩
        rcases Table.rows_insert_cases hrow with ⟨-, rfl⟩ | ⟨-, hrow⟩
        · -- a task that begins has found a draft
          subst hid
          exact absurd (h.sent campaign hcampaign) hdraft
        · exact h.ended i task hrow hid
  | query i =>
    simp only [PromotionSystem.step] at hstep
    split at hstep
    next task hrow =>
      split at hstep
      next hphase =>
        cases hstep
        have hother := h.id_ne hrow (by simp [hphase])
        exact ⟨h.sent, h.known, ended_setTask h fun hid => absurd hid hother, h.messages⟩
      next => cases hstep
    next => cases hstep
  | next i =>
    simp only [PromotionSystem.step] at hstep
    split at hstep
    next task hrow =>
      split at hstep
      next user rest hphase =>
        have hother := h.id_ne hrow (by simp [hphase])
        split at hstep
        next =>
          cases hstep
          exact ⟨h.sent, h.known, ended_setTask h fun hid => absurd hid hother, h.messages⟩
        next =>
          cases hstep
          refine ⟨h.sent, h.known, ended_setTask h fun hid => absurd hid hother, ?_⟩
          refine (s.messagesOf_append task.id c task.campaign user).trans ?_
          rw [if_neg hother, h.messages, Nat.add_zero]
      next => cases hstep
    next => cases hstep
  | finish now i =>
    simp only [PromotionSystem.step] at hstep
    split at hstep
    next task hrow =>
      split at hstep
      next hphase =>
        cases hstep
        refine ⟨fun campaign hcampaign => ?_, h.known, ended_setTask h fun _ => .inl rfl, h.messages⟩
        rcases Table.rows_modify_eq_some.1 hcampaign with ⟨-, old, -, rfl⟩ | ⟨-, hold⟩
        · rfl
        · exact h.sent campaign hold
      next => cases hstep
    next => cases hstep
  | crash i =>
    simp only [PromotionSystem.step] at hstep
    split at hstep
    next task hrow =>
      split at hstep
      next => cases hstep
      next =>
        cases hstep
        exact ⟨h.sent, h.known, ended_setTask h fun _ => .inr rfl, h.messages⟩
    next => cases hstep
  | others customers memberships =>
    cases hstep
    exact ⟨h.sent, h.known, h.ended, h.messages⟩
  | create new =>
    cases hstep
    refine ⟨fun campaign hcampaign => ?_, Nat.lt_succ_of_lt h.known, h.ended, h.messages⟩
    rcases Table.rows_insert_cases hcampaign with ⟨hc, -⟩ | ⟨-, hold⟩
    · exact absurd hc h.known.ne
    · exact h.sent campaign hold
  | edit c' new =>
    cases hstep
    refine ⟨fun campaign hcampaign => ?_, h.known, h.ended, h.messages⟩
    rcases Table.rows_modify_eq_some.1 hcampaign with ⟨rfl, -, -, rfl⟩ | ⟨-, hold⟩
    · exact hleaves rfl
    · exact h.sent campaign hold
  | delete c' =>
    cases hstep
    refine ⟨fun campaign hcampaign => ?_, h.known, h.ended, h.messages⟩
    change (if c = c' then none else s.campaigns.rows c) = some campaign at hcampaign
    split at hcampaign
    next => cases hcampaign
    next => exact h.sent campaign hcampaign

end PromotionSystem

open PromotionSystem in
/-- Once a campaign is sent and the tasks that were at work on it have ended, no further message goes
    out for it, however often it is put into the queue again and whatever is edited, unless somebody
    sets it back to a draft. -/
theorem silent_of_run {c : CampaignId} {n : ℕ} (start : PromotionSystem) (h : start.Silent c n)
    (run : List PromotionAction) (hleaves : Guarded step (fun _ action => action.LeavesSent c) start run) :
    Throughout step (Silent c n) start run :=
  hleaves.throughout (fun _ _ _ hs hleaves hstep => hs.step hleaves hstep) h

/-- The campaign, sent to nobody. -/
def sentOffer : PromotionSystem :=
  { morningOffer with
    campaigns := Table.empty.insert { message := "Fresh bread", status := .sent, sentAt := some 0 } }

/-- It is put into the queue twice, and its text is changed in between. -/
def queuedAgain : List PromotionAction :=
  [.load 0, .edit 0 { message := "Fresh rolls", status := .sent, sentAt := some 0 }, .load 0]

theorem silent_of_run_sentOffer :
    Throughout PromotionSystem.step (PromotionSystem.Silent 0 0) sentOffer queuedAgain := by
  refine silent_of_run sentOffer ⟨?_, Nat.one_pos, fun _ _ hrow => ?_, rfl⟩ queuedAgain
    (.of_forall (by simp [queuedAgain, PromotionAction.LeavesSent]))
  · intro campaign hrow
    rcases Table.rows_insert_cases hrow with ⟨-, rfl⟩ | ⟨-, hrow⟩
    · rfl
    · cases hrow
  · cases hrow

/-! ## A task alone -/

namespace Promotions

/-- The loop dispatches one message for every user with a phone number. -/
theorem foldl_sendTo (c : CampaignId) (campaign : PromotionCampaign) (users : List UserId)
    (s : Promotions) (n : ℕ) :
    users.foldl (sendTo c campaign) (s, n) =
      ({ s with dispatched := s.dispatched ++
          (users.filter fun user => decide (s.phone user ≠ "")).map (s.sms c campaign) },
        n + (users.filter fun user => decide (s.phone user ≠ "")).length) := by
  induction users generalizing s n with
  | nil => simp
  | cons user rest ih =>
    rw [List.foldl_cons, sendTo]
    by_cases hphone : s.phone user = ""
    · rw [if_pos hphone, ih, List.filter_cons_of_neg (by simp [hphone])]
    · rw [if_neg hphone, ih, List.filter_cons_of_pos (by simp [hphone])]
      simp only [List.map_cons, List.length_cons, List.append_assoc, List.singleton_append]
      rw [Nat.add_assoc, Nat.add_comm 1]
      rfl

/-- A task on a draft: a message for every customer of the segment with a phone number, and the
    count of them in the row. -/
theorem sendPromotionCampaignTask_of_draft {s : Promotions} {c : CampaignId}
    {campaign : PromotionCampaign} (now : Time) (hrow : s.campaigns.rows c = some campaign)
    (hdraft : campaign.status = .draft) :
    let users := (s.audience campaign).filter fun user => decide (s.phone user ≠ "")
    sendPromotionCampaignTask now c s =
      (.queued c users.length,
        ({ s with dispatched := s.dispatched ++ users.map (s.sms c campaign) } : Promotions).markSent
          now c users.length) := by
  intro users
  rw [sendPromotionCampaignTask, hrow]
  simp only [hdraft, reduceCtorEq, if_false, foldl_sendTo, Nat.zero_add]
  rfl

end Promotions

namespace PromotionSystem

/-- The turns of a loop that nothing comes between. -/
theorem run_next {i : ℕ} {waiting : List UserId} {s : PromotionSystem} {task : CampaignTask}
    (hrow : s.tasks.rows i = some task) (hphase : task.phase = .looping waiting) :
    ∃ s' task', (List.replicate waiting.length (.next i)).foldlM step s = some s' ∧
      s'.tasks.rows i = some task' ∧ task'.phase = .looping [] ∧ task'.id = task.id ∧
      (s'.toPromotions, task'.queued) =
        waiting.foldl (Promotions.sendTo task.id task.campaign) (s.toPromotions, task.queued) := by
  induction waiting generalizing s task with
  | nil => exact ⟨s, task, rfl, hrow, hphase, rfl, rfl⟩
  | cons user rest ih =>
    by_cases hphone : s.phone user = ""
    · let next := s.setTask i { task with phase := .looping rest }
      have hstep : s.step (.next i) = some next := by
        simp only [step, hrow, hphase, hphone, if_true]
        rfl
      have hnext : next.tasks.rows i = some { task with phase := .looping rest } :=
        (Table.rows_modify_self ..).trans (congrArg (Option.map _) hrow)
      obtain ⟨s', task', hrun, hrow', hphase', hid, hsame⟩ := ih hnext rfl
      refine ⟨s', task', ?_, hrow', hphase', hid, ?_⟩
      · rw [List.length_cons, List.replicate_succ, List.foldlM_cons, hstep]
        exact hrun
      · rw [hsame, List.foldl_cons, Promotions.sendTo, if_pos hphone]
        rfl
    · let task₁ : CampaignTask := { task with
        phase := .looping rest, queued := task.queued + 1, reached := task.reached ++ [user] }
      let next : PromotionSystem := { s.setTask i task₁ with
        dispatched := s.dispatched ++ [s.sms task.id task.campaign user] }
      have hstep : s.step (.next i) = some next := by
        simp only [step, hrow, hphase, hphone, if_false]
        rfl
      have hnext : next.tasks.rows i = some task₁ :=
        (Table.rows_modify_self ..).trans (congrArg (Option.map _) hrow)
      obtain ⟨s', task', hrun, hrow', hphase', hid, hsame⟩ := ih hnext rfl
      refine ⟨s', task', ?_, hrow', hphase', hid, ?_⟩
      · rw [List.length_cons, List.replicate_succ, List.foldlM_cons, hstep]
        exact hrun
      · rw [hsame, List.foldl_cons, Promotions.sendTo, if_neg hphone]
        rfl

/-- All that one task does on a draft, with nothing in between. -/
def alone (s : PromotionSystem) (now : Time) (c : CampaignId) (campaign : PromotionCampaign) :
    List PromotionAction :=
  .load c :: .query s.tasks.next ::
    (List.replicate (s.audience campaign).length (.next s.tasks.next) ++ [.finish now s.tasks.next])

/-- A task that nothing comes between does what the function does. -/
theorem run_alone {s : PromotionSystem} {c : CampaignId} {campaign : PromotionCampaign} (now : Time)
    (hrow : s.campaigns.rows c = some campaign) (hdraft : campaign.status = .draft) :
    ∃ s', (s.alone now c campaign).foldlM step s = some s' ∧
      s'.toPromotions = (sendPromotionCampaignTask now c s.toPromotions).2 := by
  let task : CampaignTask := { id := c, campaign }
  let loaded : PromotionSystem := { s with tasks := s.tasks.insert task }
  let looping := loaded.setTask s.tasks.next { task with phase := .looping (s.audience campaign) }
  have hload : s.step (.load c) = some loaded := by
    simp only [step, hrow, hdraft, reduceCtorEq, if_false]
    rfl
  have hloaded : loaded.tasks.rows s.tasks.next = some task := Table.rows_insert_self ..
  have hquery : loaded.step (.query s.tasks.next) = some looping := by
    simp only [step, hloaded]
    rfl
  have hlooping : looping.tasks.rows s.tasks.next =
      some { task with phase := .looping (s.audience campaign) } :=
    (Table.rows_modify_self ..).trans (congrArg (Option.map _) hloaded)
  obtain ⟨s', task', hrun, hrow', hphase', hid, hsame⟩ := run_next hlooping rfl
  let done : PromotionSystem := { s'.setTask s.tasks.next { task' with phase := .finished } with
    toPromotions := s'.markSent now task'.id task'.queued }
  have hfinish : s'.step (.finish now s.tasks.next) = some done := by
    simp only [step, hrow', hphase', if_true]
    rfl
  refine ⟨done, ?_, ?_⟩
  · rw [alone, List.foldlM_cons, hload]
    change List.foldlM step loaded _ = _
    rw [List.foldlM_cons, hquery]
    change List.foldlM step looping _ = _
    rw [List.foldlM_append, hrun]
    exact congrArg (· >>= pure) hfinish
  · have hloop : (s'.toPromotions, task'.queued) =
        (s.audience campaign).foldl (Promotions.sendTo c campaign) (s.toPromotions, 0) := hsame
    rw [sendPromotionCampaignTask, hrow]
    simp only [hdraft, reduceCtorEq, if_false, ← hloop]
    exact congrArg (fun id => s'.markSent now id task'.queued) hid

end PromotionSystem

/-! ## After the nightly run -/

/-- A campaign for a segment that is sent after the nightly run reaches the active customers with a
    phone number whom the run has found, or left, in that segment, each of them once. -/
theorem campaign_after_refresh (now now' : Time) (s : Promotions) (a : UserId → Option SegmentId)
    (h : s.memberships.Places a) (c : CampaignId) (campaign : PromotionCampaign)
    (segment : SegmentId) (hrow : s.campaigns.rows c = some campaign)
    (hdraft : campaign.status = .draft) (hsegment : campaign.segment = some segment) :
    let s' := { s with memberships := (refreshCustomerSegments now s.customers s.memberships).1 }
    ∃ users : List UserId, users.Nodup ∧
      (∀ user, user ∈ users ↔ user ∈ s.customers.activeUsers ∧
        (s.customers.place now user).or (a user) = some segment ∧ s.phone user ≠ "") ∧
      sendPromotionCampaignTask now' c s' = (.queued c users.length,
        ({ s' with dispatched := s.dispatched ++ users.map (s.sms c campaign) } :
          Promotions).markSent now' c users.length) := by
  intro s'
  have hplaces : s'.memberships.Places _ := h.act (.refresh now s.customers)
  refine ⟨(s'.audience campaign).filter fun user => decide (s'.phone user ≠ ""),
    (s'.nodup_audience campaign).filter _, fun user => ?_,
    Promotions.sendPromotionCampaignTask_of_draft now' hrow hdraft⟩
  have hheld : segment ∈ s'.memberships.segmentsOf user ↔
      (s.customers.place now user).or (a user) = some segment := by
    rw [Memberships.segmentsOf, hplaces user]
    exact Option.mem_toList
  rw [List.mem_filter, Promotions.audience, hsegment]
  simp only [List.mem_filter, decide_eq_true_eq, hheld, and_assoc]
  rfl

theorem campaign_after_refresh_morningOffer :
    ∃ users : List UserId, users.Nodup ∧
      (∀ user, user ∈ users ↔ user ∈ morningOffer.customers.activeUsers ∧
        (morningOffer.customers.place 0 user).or none = some 0 ∧ morningOffer.phone user ≠ "") ∧
      sendPromotionCampaignTask 1 0 { morningOffer with
          memberships := (refreshCustomerSegments 0 morningOffer.customers .empty).1 } =
        (.queued 0 users.length,
          ({ morningOffer with
              memberships := (refreshCustomerSegments 0 morningOffer.customers .empty).1
              dispatched := users.map
                (morningOffer.sms 0 { message := "Fresh bread", segment := some 0 }) } :
            Promotions).markSent 1 0 users.length) :=
  campaign_after_refresh 0 1 morningOffer.toPromotions (fun _ => none) (fun _ => rfl) 0 _ 0 rfl rfl rfl

end Crumbs
