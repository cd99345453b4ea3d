import Crumbs.Growth.SmsRevenue
import Crumbs.Text.Keys

/-!
# The Reminders of a Cart

The reminders of a tracker come in steps: a first one, a second one, and then offers if the cart is
worth one. The job that sends them runs every hour, while carts are edited and orders are paid. A
tracker counts its reminders in a column, and the columns are all that the job goes by.

## Contents

- `reminderKey_inj`: the key of a reminder says which one it is
- `Reminder.IsNth`, `AbandonedCartTracker.Accounts`: the reminders of a tracker, and what its row
  says of them
- `Growth.KeepsAccounts`: the rest of the app leaves the rows' accounts alone
- `Funnel.Counted`, `reminders_of_run`: the reminders over a run
- `dispatched_of_job`: what one run of the job sends
-/

namespace Crumbs

open Crumbs.Db AttributionService

/-! ## Keys -/

/-- The key names the tracker and the number of the reminder. -/
theorem reminderKey_inj {t u n m : ℕ} (h : s!"abandoned:{t}:{n}" = s!"abandoned:{u}:{m}") :
    t = u ∧ n = m := by
  have hlist : "abandoned:".toList ++ (t.repr.toList ++ ':' :: n.repr.toList) =
      "abandoned:".toList ++ (u.repr.toList ++ ':' :: m.repr.toList) := by
    simpa [toString, String.toList_append] using congrArg String.toList h
  exact twoNumbers_inj hlist

/-! ## What a row says -/

/-- The columns of a tracker that count its reminders. -/
def AbandonedCartTracker.account (tracker : AbandonedCartTracker) : ℕ × ℕ × Option CouponId :=
  (tracker.reminderCount, tracker.funnelStep, tracker.offeredCoupon)

/-- What a customer is told of a coupon. -/
def Coupon.offer (coupon : Coupon) : String × ℤ := (coupon.code, coupon.discountValue.toInt)

/-- The funnel step after `n` reminders. Carts that are not worth an offer stay at step 2. -/
def IsStepAfter (n step : ℕ) : Prop := if n < 3 then step = n else step = 2 ∨ step = 3

/-- The text of the reminder with the index `n`. -/
def templateOf (n : ℕ) (hasCoupon : Bool) : String :=
  if n = 1 then "abandoned_cart_step2"
  else if hasCoupon then "abandoned_cart_discount"
  else "abandoned_cart"

/-- The reminder has the index `n` among those of its tracker. -/
structure Reminder.IsNth (reminder : Reminder) (t : TrackerId) (n : ℕ) : Prop where
  key : reminder.dedupeKey = s!"abandoned:{t}:{n + 1}"
  step : IsStepAfter (n + 1) reminder.funnelStep
  template : reminder.templateCode = templateOf n reminder.coupon.isSome
  late : reminder.coupon.isSome → 2 ≤ n

/-- The row of a tracker accounts for its reminders: their number, the step, and the one coupon that
    they offer. -/
structure AbandonedCartTracker.Accounts (tracker : AbandonedCartTracker) (t : TrackerId)
    (coupons : Table Coupon) (reminders : List Reminder) : Prop where
  count : tracker.reminderCount = reminders.length
  step : IsStepAfter reminders.length tracker.funnelStep
  numbered : ∀ (n : ℕ) (r : Reminder), reminders[n]? = some r → r.IsNth t n
  offers : ∀ r ∈ reminders, ∀ offer ∈ r.coupon, ∃ c coupon, tracker.offeredCoupon = some c ∧
    coupons.rows c = some coupon ∧ offer = coupon.offer

/-- From `g` to `g'` the rows of the trackers keep their accounts, new trackers have nothing to
    account for, and coupons stay what they are. -/
structure Growth.KeepsAccounts (g g' : Growth) : Prop where
  accounts : ∀ t tracker', g'.trackers.rows t = some tracker' →
    (∃ tracker, g.trackers.rows t = some tracker ∧ tracker'.account = tracker.account) ∨
      g.trackers.rows t = none ∧ tracker'.account = (0, 0, none)
  trackers : ∀ t, (g.trackers.rows t).isSome → (g'.trackers.rows t).isSome
  coupons : ∀ c coupon, g.coupons.rows c = some coupon →
    ∃ coupon', g'.coupons.rows c = some coupon' ∧ coupon'.offer = coupon.offer

namespace Growth.KeepsAccounts

variable {g g₁ g₂ : Growth} {t : TrackerId}

theorem of_same (htrackers : g₁.trackers = g.trackers) (hcoupons : g₁.coupons = g.coupons) :
    KeepsAccounts g g₁ where
  accounts _ tracker' hrow := .inl ⟨tracker', htrackers ▸ hrow, rfl⟩
  trackers _ ht := htrackers ▸ ht
  coupons _ coupon hrow := ⟨coupon, hcoupons ▸ hrow, rfl⟩

theorem refl (g : Growth) : KeepsAccounts g g := .of_same rfl rfl

theorem trans (h : KeepsAccounts g g₁) (h' : KeepsAccounts g₁ g₂) : KeepsAccounts g g₂ where
  accounts t tracker₂ hrow₂ := by
    rcases h'.accounts t tracker₂ hrow₂ with ⟨tracker₁, hrow₁, haccount⟩ | ⟨hnone, hnew⟩
    · rw [haccount]
      exact h.accounts t tracker₁ hrow₁
    · refine .inr ⟨?_, hnew⟩
      by_contra hsome
      have hthere := h.trackers t (Option.isSome_iff_ne_none.2 hsome)
      rw [hnone] at hthere
      cases hthere
  trackers t ht := h'.trackers t (h.trackers t ht)
  coupons c coupon hrow := by
    obtain ⟨coupon₁, hrow₁, hoffer₁⟩ := h.coupons c coupon hrow
    obtain ⟨coupon₂, hrow₂, hoffer₂⟩ := h'.coupons c coupon₁ hrow₁
    exact ⟨coupon₂, hrow₂, hoffer₂.trans hoffer₁⟩

/-- A row that is there keeps its account. -/
theorem row (h : KeepsAccounts g g₁) {tracker : AbandonedCartTracker}
    (hrow : g.trackers.rows t = some tracker) :
    ∃ tracker', g₁.trackers.rows t = some tracker' ∧ tracker'.account = tracker.account := by
  obtain ⟨tracker', hrow'⟩ :=
    Option.isSome_iff_exists.1 (h.trackers t (Option.isSome_of_eq_some hrow))
  rcases h.accounts t tracker' hrow' with ⟨before, hbefore, haccount⟩ | ⟨hnone, -⟩
  · obtain rfl := Option.some.inj (hrow.symm.trans hbefore)
    exact ⟨tracker', hrow', haccount⟩
  · cases hrow.symm.trans hnone

/-- A tracker is changed in other columns. -/
theorem modifyTracker {f : AbandonedCartTracker → AbandonedCartTracker}
    (hf : ∀ tracker, (f tracker).account = tracker.account)
    (htrackers : g₁.trackers = g.trackers.modify t f) (hcoupons : g₁.coupons = g.coupons) :
    KeepsAccounts g g₁ where
  accounts t' tracker' hrow := by
    rw [htrackers] at hrow
    rcases Table.rows_modify_eq_some.1 hrow with ⟨rfl, before, hbefore, rfl⟩ | ⟨-, hsame⟩
    · exact .inl ⟨before, hbefore, hf before⟩
    · exact .inl ⟨tracker', hsame, rfl⟩
  trackers t' ht' := by
    rwa [htrackers, Table.isSome_rows_modify]
  coupons _ coupon hrow := ⟨coupon, hcoupons ▸ hrow, rfl⟩

/-- A tracker is new. -/
theorem insertTracker {tracker : AbandonedCartTracker} (h : tracker.account = (0, 0, none)) :
    KeepsAccounts g { g with trackers := g.trackers.insert tracker } where
  accounts t tracker' hrow := by
    rcases Table.rows_insert_cases hrow with ⟨rfl, rfl⟩ | ⟨-, hbefore⟩
    · exact .inr ⟨g.trackers.fresh _ le_rfl, h⟩
    · exact .inl ⟨tracker', hbefore, rfl⟩
  trackers t ht := by
    obtain ⟨before, hbefore⟩ := Option.isSome_iff_exists.1 ht
    exact Option.isSome_of_eq_some (Table.rows_insert_of_some tracker hbefore)
  coupons _ coupon hrow := ⟨coupon, hrow, rfl⟩

/-- Redeeming a coupon counts a use of it. -/
theorem redeemedBy (order : OrderInstance) (g : Growth) :
    KeepsAccounts g (Crumbs.redeemedBy order g) := by
  rw [Crumbs.redeemedBy]
  cases order.coupon with
  | none => exact .refl g
  | some c =>
    dsimp only
    split
    next => exact .refl g
    next =>
      refine ⟨fun _ tracker' hrow => .inl ⟨tracker', hrow, rfl⟩, fun _ ht => ht,
        fun c' coupon hrow => ?_⟩
      by_cases heq : c' = c
      · subst heq
        exact ⟨{ coupon with usageCount := coupon.usageCount + 1 },
          (Table.rows_modify_self _ _ _).trans (congrArg (Option.map _) hrow), rfl⟩
      · exact ⟨coupon, (Table.rows_modify_ne _ _ heq).trans hrow, rfl⟩

end Growth.KeepsAccounts

/-! ## The rest of the app -/

instance : IsPreorder Growth Growth.KeepsAccounts where
  refl := .refl
  trans _ _ _ h h' := h.trans h'

/-- A conversion is noted in the tracker, which keeps its account. -/
theorem FinalizePart.accounts {env : Env} {settings : GrowthSettings} {order : OrderInstance}
    {g g' : Growth} (h : FinalizePart env settings order g g') : g.KeepsAccounts g' := by
  cases h with
  | redeemed => exact .redeemedBy order g
  | rewarded => exact .of_same rfl rfl
  | valued => exact .of_same rfl rfl
  | recorded hrecorded =>
    have hcoupons : g'.coupons = g.coupons := by rw [hrecorded.same]
    rcases hrecorded.trackers with hsame | ⟨e, -, hconverted⟩
    · exact .of_same hsame hcoupons
    · exact .modifyTracker (f := converted env.now) (fun _ => rfl) hconverted hcoupons

theorem finalizeRun_accounts (env : Env) (settings : GrowthSettings) (o : OrderId)
    (db : GrowthDatabase) : db.growth.KeepsAccounts (finalizeRun settings env o db).growth :=
  finalizeRun_follows fun _ _ _ => FinalizePart.accounts

/-- Steps of the growth app keep the accounts of the trackers. -/
theorem GrowthState.step_accounts {s s' : GrowthState} {action : GrowthAction}
    (h : s.step action = some s') : s.db.growth.KeepsAccounts s'.db.growth := by
  cases action with
  | shop step =>
    cases h
    exact .refl _
  | prepare env items user codes subtotal =>
    simp only [GrowthState.step] at h
    split at h <;> cases h <;> exact .refl _
  | applyToOrder checkout o =>
    obtain ⟨e, -, rfl⟩ := Option.map_eq_some_iff.1 h
    have hleaves := applyToOrder_leavesGrowth (fun g => (g.trackers, g.coupons)) (fun _ _ => rfl)
      (fun _ _ => rfl) o e.2 e.1
    obtain ⟨htrackers, hcoupons⟩ := Prod.mk.inj (hleaves ⟨s.db, []⟩).run
    exact .of_same htrackers hcoupons
  | finalize env settings o =>
    cases h
    exact finalizeRun_accounts env settings o s.db

/-! ## The reminders that were dispatched -/

namespace Funnel

/-- The reminders of a tracker, in their order. -/
def remindersOf (s : Funnel) (t : TrackerId) : List Reminder :=
  s.dispatched.filter fun r => decide (r.tracker = t)

/-- Reminders are counted, each is the next one of its tracker, and no tracker has more than `limit`
    of them. -/
structure Counted (limit : ℕ) (s : Funnel) : Prop where
  known : ∀ r ∈ s.dispatched, (s.db.growth.trackers.rows r.tracker).isSome
  accounts : ∀ t tracker, s.db.growth.trackers.rows t = some tracker →
    tracker.Accounts t s.db.growth.coupons (s.remindersOf t)
  atMost : ∀ t, (s.remindersOf t).length ≤ limit
  keys : (s.dispatched.map (·.dedupeKey)).Nodup

end Funnel

section Accounts

variable {tracker tracker' : AbandonedCartTracker} {t : TrackerId} {coupons coupons' : Table Coupon}
  {reminders : List Reminder}

/-- A new tracker has no reminders. -/
theorem accounts_nil (h : tracker.account = (0, 0, none)) : tracker.Accounts t coupons [] := by
  obtain ⟨hcount, hrest⟩ := Prod.mk.inj h
  obtain ⟨hstep, -⟩ := Prod.mk.inj hrest
  refine ⟨hcount, ?_, fun _ _ hget => ?_, fun _ hr => absurd hr List.not_mem_nil⟩
  · rw [hstep]
    rfl
  · rw [List.getElem?_nil] at hget
    cases hget

theorem AbandonedCartTracker.Accounts.mono (h : tracker.Accounts t coupons reminders)
    (haccount : tracker'.account = tracker.account)
    (hcoupons : ∀ c coupon, coupons.rows c = some coupon →
      ∃ coupon', coupons'.rows c = some coupon' ∧ coupon'.offer = coupon.offer) :
    tracker'.Accounts t coupons' reminders := by
  obtain ⟨hcount, hrest⟩ := Prod.mk.inj haccount
  obtain ⟨hstep, hoffered⟩ := Prod.mk.inj hrest
  refine ⟨hcount.trans h.count, ?_, h.numbered, fun r hr offer hoffer => ?_⟩
  · rw [hstep]
    exact h.step
  · obtain ⟨c, coupon, hof, hrow, rfl⟩ := h.offers r hr offer hoffer
    obtain ⟨coupon', hrow', hsame⟩ := hcoupons c coupon hrow
    exact ⟨c, coupon', hoffered.trans hof, hrow', hsame.symm⟩

/-- What the next reminder of a tracker is, and what its row then says: `tracker'` is the row but for
    the number of reminders. -/
structure NextReminder (coupons : Table Coupon) (tracker tracker' : AbandonedCartTracker)
    (templateCode : String) (coupon : Option Coupon) : Prop where
  count : tracker'.reminderCount = tracker.reminderCount
  step : tracker.funnelStep < 2 ∧ tracker'.funnelStep = tracker.funnelStep + 1 ∨
    2 ≤ tracker.funnelStep ∧
      (tracker'.funnelStep = tracker.funnelStep ∨ tracker'.funnelStep = 3)
  template : templateCode = templateOf tracker.funnelStep coupon.isSome
  late : coupon.isSome → 2 ≤ tracker.funnelStep
  offered : coupon = none ∧ tracker'.offeredCoupon = tracker.offeredCoupon ∨
    ∃ c row, (tracker.offeredCoupon = none ∨ tracker.offeredCoupon = some c) ∧
      tracker'.offeredCoupon = some c ∧ coupons.rows c = some row ∧
        coupon.map Coupon.offer = some row.offer

theorem NextReminder.mono {templateCode : String} {coupon : Option Coupon}
    (h : NextReminder coupons tracker tracker' templateCode coupon)
    (hcoupons : ∀ c coupon, coupons.rows c = some coupon →
      ∃ coupon', coupons'.rows c = some coupon' ∧ coupon'.offer = coupon.offer) :
    NextReminder coupons' tracker tracker' templateCode coupon := by
  refine ⟨h.count, h.step, h.template, h.late, ?_⟩
  rcases h.offered with hnone | ⟨c, row, hbefore, hafter, hrow, hoffer⟩
  · exact .inl hnone
  · obtain ⟨row', hrow', hsame⟩ := hcoupons c row hrow
    exact .inr ⟨c, row', hbefore, hafter, hrow', hoffer.trans (congrArg some hsame.symm)⟩

/-- The step says which reminder is the next one. -/
theorem templateOf_step {n step : ℕ} (h : IsStepAfter n step) (hasCoupon : Bool) :
    templateOf step hasCoupon = templateOf n hasCoupon := by
  unfold IsStepAfter at h
  split at h
  · rw [h]
  · unfold templateOf
    rw [if_neg (show step ≠ 1 by omega), if_neg (show n ≠ 1 by omega)]

theorem isStepAfter_succ {n step step' : ℕ} (h : IsStepAfter n step)
    (hnext : step < 2 ∧ step' = step + 1 ∨ 2 ≤ step ∧ (step' = step ∨ step' = 3)) :
    IsStepAfter (n + 1) step' := by
  unfold IsStepAfter at h ⊢
  split at h <;> split <;> omega

/-- The reminder that is dispatched. -/
def reminderOf (t : TrackerId) (tracker : AbandonedCartTracker) (columns : TrackerColumns)
    (templateCode : String) (coupon : Option Coupon) : Reminder where
  tracker := t
  templateCode := templateCode
  phone := columns.phone
  user := columns.user
  itemCount := columns.itemCount
  subtotal := columns.subtotal.toInt
  coupon := coupon.map Coupon.offer
  funnelStep := tracker.funnelStep
  dedupeKey := s!"abandoned:{t}:{tracker.reminderCount + 1}"

variable {columns : TrackerColumns} {templateCode : String} {coupon : Option Coupon}

theorem NextReminder.isNth (h : NextReminder coupons tracker tracker' templateCode coupon)
    (haccounts : tracker.Accounts t coupons reminders) :
    (reminderOf t tracker' columns templateCode coupon).IsNth t reminders.length where
  key := by rw [reminderOf, h.count, haccounts.count]
  step := isStepAfter_succ haccounts.step h.step
  template := by
    rw [reminderOf, h.template, templateOf_step haccounts.step, Option.isSome_map]
  late hcoupon := by
    have hlate := h.late ((Option.isSome_map).symm.trans hcoupon)
    have hstep := haccounts.step
    unfold IsStepAfter at hstep
    split at hstep <;> omega

/-- The row that is written with a reminder accounts for it. -/
theorem NextReminder.accounts (h : NextReminder coupons tracker tracker' templateCode coupon)
    (haccounts : tracker.Accounts t coupons reminders) {row : AbandonedCartTracker}
    (hrow : row.account =
      (tracker'.reminderCount + 1, tracker'.funnelStep, tracker'.offeredCoupon)) :
    row.Accounts t coupons (reminders ++ [reminderOf t tracker' columns templateCode coupon]) := by
  obtain ⟨hcount, hrest⟩ := Prod.mk.inj hrow
  obtain ⟨hstep, hoffered⟩ := Prod.mk.inj hrest
  have hlength : (reminders ++ [reminderOf t tracker' columns templateCode coupon]).length =
      reminders.length + 1 := List.length_append
  refine ⟨?_, ?_, fun n r hget => ?_, fun r hr offer hoffer => ?_⟩
  · rw [hcount, hlength, h.count, haccounts.count]
  · rw [hlength, hstep]
    exact isStepAfter_succ haccounts.step h.step
  · rw [List.getElem?_append] at hget
    split at hget
    next => exact haccounts.numbered n r hget
    next hlt =>
      -- the only other index is that of the new one
      rw [List.getElem?_singleton] at hget
      split at hget
      next hzero =>
        obtain rfl := Option.some.inj hget
        obtain rfl : n = reminders.length := by omega
        exact h.isNth haccounts
      next => cases hget
  · -- a coupon that was offered before is offered again
    rcases List.mem_append.1 hr with hold | hnew
    · obtain ⟨c, coupon', hof, hcoupon, rfl⟩ := haccounts.offers r hold offer hoffer
      rcases h.offered with ⟨-, hsame⟩ | ⟨c', row', hnone | hsome, hof', -⟩
      · exact ⟨c, coupon', hoffered.trans (hsame.trans hof), hcoupon, rfl⟩
      · cases hnone.symm.trans hof
      · obtain rfl := Option.some.inj (hsome.symm.trans hof)
        exact ⟨c', coupon', hoffered.trans hof', hcoupon, rfl⟩
    · obtain rfl := List.mem_singleton.1 hnew
      rcases h.offered with ⟨rfl, -⟩ | ⟨c, row', -, hof, hcoupon, hsame⟩
      · cases hoffer
      · exact ⟨c, row', hoffered.trans hof, hcoupon, Option.some.inj (hoffer.symm.trans hsame)⟩

end Accounts

/-! ## Writes to the trackers -/

namespace Funnel

/-- Nothing is dispatched, and the accounts are kept. -/
structure Quiet (s s' : Funnel) : Prop where
  shop : s'.db.shop = s.db.shop
  dispatched : s'.dispatched = s.dispatched
  accounts : s.db.growth.KeepsAccounts s'.db.growth

variable {limit : ℕ} {s s₁ s₂ : Funnel} {t : TrackerId}

namespace Quiet

theorem refl (s : Funnel) : Quiet s s := ⟨rfl, rfl, .refl _⟩

theorem trans (h : Quiet s s₁) (h' : Quiet s₁ s₂) : Quiet s s₂ :=
  ⟨h'.shop.trans h.shop, h'.dispatched.trans h.dispatched, h.accounts.trans h'.accounts⟩

/-- A tracker is changed in other columns. -/
theorem modifyTrackers {f : AbandonedCartTracker → AbandonedCartTracker}
    (hf : ∀ tracker, (f tracker).account = tracker.account) :
    Quiet s (s.modifyTrackers (·.modify t f)) :=
  ⟨rfl, rfl, .modifyTracker hf rfl rfl⟩

theorem setColumns (columns : TrackerColumns) : Quiet s (s.setColumns t columns) :=
  ⟨rfl, rfl, .refl _⟩

end Quiet

theorem remindersOf_of_unknown (h : s.Counted limit) (hnone : s.db.growth.trackers.rows t = none) :
    s.remindersOf t = [] := by
  refine List.filter_eq_nil_iff.2 fun r hr htracker => ?_
  have hknown := h.known r hr
  rw [of_decide_eq_true htracker, hnone] at hknown
  cases hknown

/-- What keeps the accounts and sends nothing leaves the reminders counted. -/
theorem Counted.of_keeps (h : s.Counted limit) (hdispatched : s₁.dispatched = s.dispatched)
    (hkeeps : s.db.growth.KeepsAccounts s₁.db.growth) : s₁.Counted limit := by
  have hreminders (t : TrackerId) : s₁.remindersOf t = s.remindersOf t := by
    rw [remindersOf, remindersOf, hdispatched]
  refine ⟨fun r hr => ?_, fun t tracker' hrow => ?_, fun t => ?_, ?_⟩
  · exact hkeeps.trackers _ (h.known r (hdispatched ▸ hr))
  · rw [hreminders]
    rcases hkeeps.accounts t tracker' hrow with ⟨tracker, hold, haccount⟩ | ⟨hnone, hnew⟩
    · exact (h.accounts t tracker hold).mono haccount hkeeps.coupons
    · rw [remindersOf_of_unknown h hnone]
      exact accounts_nil hnew
  · rw [hreminders]
    exact h.atMost t
  · rw [hdispatched]
    exact h.keys

/-- The key of the next reminder of a tracker is new. -/
theorem Counted.key_new (h : s.Counted limit) {key : String}
    (hkey : key = s!"abandoned:{t}:{(s.remindersOf t).length + 1}") :
    key ∉ s.dispatched.map (·.dedupeKey) := by
  intro hmem
  obtain ⟨r, hr, hsame⟩ := List.mem_map.1 hmem
  obtain ⟨row, hrow⟩ := Option.isSome_iff_exists.1 (h.known r hr)
  have hown : r ∈ s.remindersOf r.tracker := List.mem_filter.2 ⟨hr, decide_eq_true rfl⟩
  obtain ⟨n, hn, hget⟩ := List.mem_iff_getElem.1 hown
  have hnth := (h.accounts _ row hrow).numbered n r (List.getElem?_eq_some_iff.2 ⟨hn, hget⟩)
  -- the same key, so the same tracker and the same number, which is past the end
  obtain ⟨htracker, hnumber⟩ := reminderKey_inj (hnth.key.symm.trans (hsame.trans hkey))
  rw [htracker] at hn
  omega

/-! ## Sending a reminder -/

variable {env : FunnelEnv} {row tracker tracker' : AbandonedCartTracker} {columns : TrackerColumns}
  {templateCode : String} {coupon : Option Coupon}

theorem dispatched_dispatchReminder :
    (dispatchReminder env s t tracker' columns templateCode coupon).dispatched =
      s.dispatched ++ [reminderOf t tracker' columns templateCode coupon] := rfl

theorem trackers_dispatchReminder :
    (dispatchReminder env s t tracker' columns templateCode coupon).db.growth.trackers =
      s.db.growth.trackers.modify t fun row => { row with
        reminderCount := tracker'.reminderCount + 1
        status := .reminded
        funnelStep := tracker'.funnelStep
        offeredCoupon := tracker'.offeredCoupon
        updatedAt := env.now } := rfl

theorem remindersOf_dispatchReminder (t' : TrackerId) :
    (dispatchReminder env s t tracker' columns templateCode coupon).remindersOf t' =
      if t' = t then s.remindersOf t ++ [reminderOf t tracker' columns templateCode coupon]
      else s.remindersOf t' := by
  by_cases heq : t' = t
  · subst heq
    simp [remindersOf, dispatched_dispatchReminder, List.filter_append, reminderOf]
  · have hother : t ≠ t' := Ne.symm heq
    simp [remindersOf, dispatched_dispatchReminder, List.filter_append, reminderOf, heq, hother]

theorem Counted.dispatch (h : s.Counted limit) (hrow : s.db.growth.trackers.rows t = some row)
    (hsame : row.account = tracker.account)
    (hnext : NextReminder s.db.growth.coupons tracker tracker' templateCode coupon)
    (hlt : tracker.reminderCount < limit) :
    (dispatchReminder env s t tracker' columns templateCode coupon).Counted limit := by
  have haccounts : tracker.Accounts t s.db.growth.coupons (s.remindersOf t) :=
    (h.accounts t row hrow).mono hsame.symm fun c coupon hc => ⟨coupon, hc, rfl⟩
  refine ⟨fun r hr => ?_, fun t' row' hrow' => ?_, fun t' => ?_, ?_⟩
  · rw [trackers_dispatchReminder, Table.isSome_rows_modify]
    rcases List.mem_append.1 hr with hold | hnew
    · exact h.known r hold
    · obtain rfl := List.mem_singleton.1 hnew
      exact Option.isSome_of_eq_some hrow
  · rw [remindersOf_dispatchReminder]
    rcases Table.rows_modify_eq_some.1 hrow' with ⟨rfl, before, -, rfl⟩ | ⟨hne, hrow'⟩
    · rw [if_pos rfl]
      exact hnext.accounts haccounts rfl
    · rw [if_neg hne]
      exact h.accounts t' row' hrow'
  · rw [remindersOf_dispatchReminder]
    split
    next =>
      rw [List.length_append, ← haccounts.count]
      exact hlt
    next => exact h.atMost t'
  · rw [dispatched_dispatchReminder, List.map_append, List.nodup_append]
    refine ⟨h.keys, List.nodup_singleton _, ?_⟩
    rintro key hkey _ hnew rfl
    refine h.key_new (t := t) ?_ hkey
    exact (List.mem_singleton.1 hnew).trans (hnext.isNth haccounts).key

end Funnel

section Job

variable (env : FunnelEnv) (s : Funnel) (t : TrackerId) (tracker : AbandonedCartTracker)
  (columns : TrackerColumns)

theorem syncAbandonedCartTracker_quiet (c : CartId) :
    s.Quiet (syncAbandonedCartTracker env s c) := by
  rw [syncAbandonedCartTracker]
  cases s.db.shop.carts.rows c with
  | none => exact .refl s
  | some cart =>
    dsimp only
    split
    next =>
      cases s.trackerOfCart c with
      | none => exact .refl s
      | some t =>
        refine .modifyTrackers fun tracker => ?_
        split <;> rfl
    next =>
      cases s.trackerOfCart c with
      | some t =>
        have hmodify : s.Quiet (s.modifyTrackers (·.modify t
            ({ · with status := .active, updatedAt := env.now }))) := .modifyTrackers fun _ => rfl
        exact hmodify.trans (.setColumns _)
      | none =>
        have hinsert : s.Quiet (s.modifyTrackers (·.insert { status := .active, updatedAt := env.now })) :=
          ⟨rfl, rfl, .insertTracker rfl⟩
        exact hinsert.trans (.setColumns _)

theorem offerCoupon_quiet (coupon : Coupon) :
    s.Quiet (offerCoupon env s tracker columns coupon) := by
  rw [offerCoupon]
  split
  next =>
    have hcodes : s.Quiet { s with couponCodes := fun c =>
        if c = columns.cart then coupon.code else s.couponCodes c } := ⟨rfl, rfl, .refl _⟩
    exact hcodes.trans (syncAbandonedCartTracker_quiet env _ columns.cart)
  next => exact .refl s

/-- The coupon of a reminder is the one that was offered before, if any was. -/
theorem reminderCoupon_offered {c : CouponId} {coupon : Coupon}
    (h : reminderCoupon s tracker = some (c, coupon)) :
    (tracker.offeredCoupon = none ∨ tracker.offeredCoupon = some c) ∧
      s.db.growth.coupons.rows c = some coupon := by
  rw [reminderCoupon] at h
  cases hoffered : tracker.offeredCoupon with
  | none =>
    simp only [hoffered] at h
    exact ⟨.inl rfl, (Table.mem_filter.1 (List.mem_of_getLast? h)).1⟩
  | some c' =>
    simp only [hoffered] at h
    obtain ⟨coupon', hrow, hpair⟩ := Option.map_eq_some_iff.1 h
    obtain ⟨rfl, rfl⟩ := Prod.mk.inj hpair
    exact ⟨.inr rfl, hrow⟩

/-- The cart has items, and has been left alone for as long as the next reminder takes. -/
def Funnel.HasWaited (env : FunnelEnv) (s : Funnel)
    (e : TrackerId × AbandonedCartTracker × TrackerColumns) : Prop :=
  s.totalItems e.2.2.cart ≠ 0 ∧
    hours (if e.2.1.funnelStep = 0 then env.settings.abandonedCartHours
      else env.settings.abandonedCartStep2Hours) ≤ env.now - e.2.2.lastActivityAt

instance (e : TrackerId × AbandonedCartTracker × TrackerColumns) : Decidable (s.HasWaited env e) :=
  inferInstanceAs (Decidable (_ ∧ _))

/-- A tracker that is not due gets no reminder. -/
theorem remindTracker_quiet (h : ¬s.HasWaited env (t, tracker, columns)) :
    s.Quiet (remindTracker env s (t, tracker, columns)) := by
  rw [remindTracker]
  by_cases hitems : s.totalItems columns.cart = 0
  · rw [if_pos hitems]
    exact .modifyTrackers fun _ => rfl
  · rw [if_neg hitems, if_pos (lt_of_not_ge fun hwait => h ⟨hitems, hwait⟩)]
    exact .refl s

/-- A tracker that is due gets its next reminder. -/
theorem remindTracker_of_hasWaited (h : s.HasWaited env (t, tracker, columns)) :
    ∃ s₁ tracker' templateCode coupon, s.Quiet s₁ ∧
      remindTracker env s (t, tracker, columns) =
        dispatchReminder env s₁ t tracker' columns templateCode coupon ∧
      NextReminder s.db.growth.coupons tracker tracker' templateCode coupon := by
  rw [remindTracker, if_neg h.1, if_neg (not_lt.2 h.2)]
  by_cases hzero : tracker.funnelStep = 0
  · rw [if_pos hzero]
    refine ⟨s, _, _, _, .refl s, rfl, rfl, ?_, ?_, by simp, .inl ⟨rfl, rfl⟩⟩
    · exact .inl ⟨by omega, by rw [hzero]⟩
    · simp [templateOf, hzero]
  rw [if_neg hzero]
  by_cases hone : tracker.funnelStep = 1
  · rw [if_pos hone]
    refine ⟨s, _, _, _, .refl s, rfl, rfl, ?_, ?_, by simp, .inl ⟨rfl, rfl⟩⟩
    · exact .inl ⟨by omega, by rw [hone]⟩
    · simp [templateOf, hone]
  rw [if_neg hone]
  -- the late reminders, of which those of a valuable cart come with an offer
  have hlate : 2 ≤ tracker.funnelStep := by omega
  split
  next =>
    cases hcoupon : reminderCoupon s tracker with
    | none =>
      refine ⟨s, _, _, _, .refl s, rfl, rfl, .inr ⟨hlate, .inr rfl⟩, ?_, by simp, .inl ⟨rfl, rfl⟩⟩
      simp [templateOf, hone]
    | some found =>
      obtain ⟨c, coupon⟩ := found
      obtain ⟨hoffered, hrow⟩ := reminderCoupon_offered s tracker hcoupon
      refine ⟨_, _, _, _, offerCoupon_quiet env s tracker columns coupon, rfl, rfl,
        .inr ⟨hlate, .inr rfl⟩, ?_, fun _ => hlate, .inr ⟨c, coupon, hoffered, rfl, hrow, rfl⟩⟩
      simp [templateOf, hone]
  next =>
    refine ⟨s, _, _, _, .refl s, rfl, rfl, .inr ⟨hlate, .inl rfl⟩, ?_, by simp, .inl ⟨rfl, rfl⟩⟩
    simp [templateOf, hone]

end Job

/-! ## The job -/

/-- The row that the job has loaded still says the same of the reminders. -/
def Funnel.IsLoaded (limit : ℕ) (s : Funnel)
    (e : TrackerId × AbandonedCartTracker × TrackerColumns) : Prop :=
  e.2.1.reminderCount < limit ∧
    ∃ row, s.db.growth.trackers.rows e.1 = some row ∧ row.account = e.2.1.account

/-- The reminder goes to the customer of the tracker, and is about the cart. -/
structure Reminder.IsFor (e : TrackerId × AbandonedCartTracker × TrackerColumns) (r : Reminder) :
    Prop where
  tracker : r.tracker = e.1
  phone : r.phone = e.2.2.phone
  user : r.user = e.2.2.user
  itemCount : r.itemCount = e.2.2.itemCount
  subtotal : r.subtotal = e.2.2.subtotal.toInt

section Loop

variable {env : FunnelEnv} {s s₁ : Funnel} {limit : ℕ}
  {e e' : TrackerId × AbandonedCartTracker × TrackerColumns}
  {entries : List (TrackerId × AbandonedCartTracker × TrackerColumns)}

theorem Funnel.IsLoaded.of_quiet (h : s.IsLoaded limit e) (hquiet : s.Quiet s₁) :
    s₁.IsLoaded limit e := by
  obtain ⟨hlt, row, hrow, haccount⟩ := h
  obtain ⟨row', hrow', haccount'⟩ := hquiet.accounts.row hrow
  exact ⟨hlt, row', hrow', haccount'.trans haccount⟩

/-- One pass of the loop. -/
theorem remindTracker_counted (h : s.Counted limit) (hloaded : s.IsLoaded limit e) :
    (remindTracker env s e).Counted limit := by
  obtain ⟨t, tracker, columns⟩ := e
  by_cases hwaited : s.HasWaited env (t, tracker, columns)
  · obtain ⟨s₁, tracker', templateCode, coupon, hquiet, hrun, hnext⟩ :=
      remindTracker_of_hasWaited env s t tracker columns hwaited
    obtain ⟨hlt, row, hrow, haccount⟩ := hloaded.of_quiet hquiet
    rw [hrun]
    exact (h.of_keeps hquiet.dispatched hquiet.accounts).dispatch hrow haccount
      (hnext.mono hquiet.accounts.coupons) hlt
  · have hquiet := remindTracker_quiet env s t tracker columns hwaited
    exact h.of_keeps hquiet.dispatched hquiet.accounts

/-- It writes nothing of what was loaded for the other trackers. -/
theorem remindTracker_isLoaded (h : s.IsLoaded limit e') (hne : e'.1 ≠ e.1) :
    (remindTracker env s e).IsLoaded limit e' := by
  obtain ⟨t, tracker, columns⟩ := e
  by_cases hwaited : s.HasWaited env (t, tracker, columns)
  · obtain ⟨s₁, tracker', templateCode, coupon, hquiet, hrun, -⟩ :=
      remindTracker_of_hasWaited env s t tracker columns hwaited
    obtain ⟨hlt, row, hrow, haccount⟩ := h.of_quiet hquiet
    rw [hrun]
    exact ⟨hlt, row, (Table.rows_modify_ne _ _ hne).trans hrow, haccount⟩
  · exact h.of_quiet (remindTracker_quiet env s t tracker columns hwaited)

theorem foldl_remindTracker_counted (hnodup : (entries.map Prod.fst).Nodup) (h : s.Counted limit)
    (hloaded : ∀ e ∈ entries, s.IsLoaded limit e) :
    (entries.foldl (remindTracker env) s).Counted limit := by
  induction entries generalizing s with
  | nil => exact h
  | cons e rest ih =>
    rw [List.map_cons, List.nodup_cons] at hnodup
    refine ih hnodup.2 (remindTracker_counted h (hloaded e List.mem_cons_self)) fun e' he' => ?_
    refine remindTracker_isLoaded (hloaded e' (List.mem_cons_of_mem e he')) fun heq => hnodup.1 ?_
    exact heq ▸ List.mem_map_of_mem he'

/-- What the loop sends: in its order, one reminder for each tracker that is due. -/
theorem dispatched_foldl_remindTracker (env : FunnelEnv) (s : Funnel)
    (entries : List (TrackerId × AbandonedCartTracker × TrackerColumns)) :
    ∃ new, (entries.foldl (remindTracker env) s).dispatched = s.dispatched ++ new ∧
      List.Forall₂ Reminder.IsFor (entries.filter fun e => decide (s.HasWaited env e)) new := by
  induction entries generalizing s with
  | nil => exact ⟨[], (List.append_nil _).symm, .nil⟩
  | cons e rest ih =>
    obtain ⟨new, hdispatched, hfor⟩ := ih (remindTracker env s e)
    -- the carts are what they were, so the same trackers are due
    have hwaitedSame (h : (remindTracker env s e).db.shop = s.db.shop) :
        (rest.filter fun e' => decide ((remindTracker env s e).HasWaited env e')) =
          rest.filter fun e' => decide (s.HasWaited env e') := by
      refine List.filter_congr fun e' _ => ?_
      rw [decide_eq_decide, Funnel.HasWaited, Funnel.HasWaited, Funnel.totalItems, Funnel.totalItems, h]
    obtain ⟨t, tracker, columns⟩ := e
    rw [List.foldl_cons, hdispatched]
    by_cases hwaited : s.HasWaited env (t, tracker, columns)
    · obtain ⟨s₁, tracker', templateCode, coupon, hquiet, hrun, -⟩ :=
        remindTracker_of_hasWaited env s t tracker columns hwaited
      rw [hwaitedSame (by rw [hrun]; exact hquiet.shop)] at hfor
      rw [hrun, Funnel.dispatched_dispatchReminder, hquiet.dispatched, List.append_assoc,
        List.filter_cons_of_pos (by simpa using hwaited)]
      exact ⟨_, rfl, .cons ⟨rfl, rfl, rfl, rfl, rfl⟩ hfor⟩
    · have hquiet := remindTracker_quiet env s t tracker columns hwaited
      rw [hwaitedSame hquiet.shop] at hfor
      rw [hquiet.dispatched, List.filter_cons_of_neg (by simpa using hwaited)]
      exact ⟨new, rfl, hfor⟩

end Loop

section Job

variable {env : FunnelEnv} {s : Funnel} {limit : ℕ}
  {e : TrackerId × AbandonedCartTracker × TrackerColumns}

theorem mem_remindableTrackers : e ∈ remindableTrackers env s ↔
    s.db.growth.trackers.rows e.1 = some e.2.1 ∧ s.columns e.1 = some e.2.2 ∧
      (e.2.1.status = .active ∨ e.2.1.status = .reminded) ∧
        e.2.1.reminderCount < env.settings.abandonedCartMaxReminders ∧ e.2.2.phone ≠ "" := by
  obtain ⟨t, tracker, columns⟩ := e
  rw [remindableTrackers, List.mem_mergeSort, List.mem_filterMap]
  constructor
  · rintro ⟨⟨t', tracker'⟩, hmem, hcolumns⟩
    obtain ⟨hrow, hmatch⟩ := Table.mem_filter.1 hmem
    obtain ⟨columns', hfilter, hsame⟩ := Option.map_eq_some_iff.1 hcolumns
    obtain ⟨hcolumns', hphone⟩ := Option.filter_eq_some_iff.1 hfilter
    cases hsame
    obtain ⟨hstatus, hcount⟩ := of_decide_eq_true hmatch
    exact ⟨hrow, hcolumns', hstatus, hcount, of_decide_eq_true hphone⟩
  · rintro ⟨hrow, hcolumns, hstatus, hcount, hphone⟩
    refine ⟨(t, tracker), Table.mem_filter.2 ⟨hrow, decide_eq_true ⟨hstatus, hcount⟩⟩,
      Option.map_eq_some_iff.2 ⟨columns, Option.filter_eq_some_iff.2 ⟨hcolumns, ?_⟩, rfl⟩⟩
    exact decide_eq_true hphone

/-- The job looks at every tracker once. -/
theorem nodup_remindableTrackers (env : FunnelEnv) (s : Funnel) :
    ((remindableTrackers env s).map Prod.fst).Nodup := by
  rw [remindableTrackers, ((List.mergeSort_perm _ _).map Prod.fst).nodup_iff, List.Nodup,
    List.pairwise_map]
  have hentries := Table.nodup_filter s.db.growth.trackers fun tracker =>
    decide ((tracker.status = .active ∨ tracker.status = .reminded) ∧
      tracker.reminderCount < env.settings.abandonedCartMaxReminders)
  rw [List.Nodup, List.pairwise_map] at hentries
  refine hentries.filterMap _ fun a a' hne b hb b' hb' heq => hne ?_
  obtain ⟨columns, -, rfl⟩ := Option.map_eq_some_iff.1 hb
  obtain ⟨columns', -, rfl⟩ := Option.map_eq_some_iff.1 hb'
  exact heq

theorem processAbandonedCartReminders_counted (h : s.Counted limit)
    (hlimit : env.settings.abandonedCartMaxReminders ≤ limit) :
    (processAbandonedCartReminders env s).Counted limit := by
  refine foldl_remindTracker_counted (nodup_remindableTrackers env s) h fun e he => ?_
  obtain ⟨hrow, -, -, hcount, -⟩ := mem_remindableTrackers.1 he
  exact ⟨by omega, e.2.1, hrow, rfl⟩

/-- The tracker is to be reminded: its cart has items and was left alone for long enough, its
    customer can be reached and has not had all reminders. -/
def Funnel.Awaits (env : FunnelEnv) (s : Funnel) (t : TrackerId) : Prop :=
  ∃ tracker columns, s.db.growth.trackers.rows t = some tracker ∧ s.columns t = some columns ∧
    (tracker.status = .active ∨ tracker.status = .reminded) ∧
      tracker.reminderCount < env.settings.abandonedCartMaxReminders ∧ columns.phone ≠ "" ∧
        s.HasWaited env (t, tracker, columns)

theorem exists_of_forall₂ {α β : Type} {R : α → β → Prop} {l : List α} {l' : List β}
    (h : List.Forall₂ R l l') : ∀ b ∈ l', ∃ a ∈ l, R a b := by
  induction h with
  | nil => exact fun b hb => absurd hb List.not_mem_nil
  | cons hab _ ih =>
    intro b hb
    rcases List.mem_cons.1 hb with rfl | hrest
    · exact ⟨_, List.mem_cons_self, hab⟩
    · obtain ⟨a, ha, hR⟩ := ih b hrest
      exact ⟨a, List.mem_cons_of_mem _ ha, hR⟩

/-- A run of the job sends one reminder to each tracker that awaits one, and no other. -/
theorem dispatched_of_job (env : FunnelEnv) (s : Funnel) :
    ∃ new, (processAbandonedCartReminders env s).dispatched = s.dispatched ++ new ∧
      (new.map (·.tracker)).Nodup ∧ (∀ t, t ∈ new.map (·.tracker) ↔ s.Awaits env t) ∧
        ∀ r ∈ new, ∃ tracker columns, s.db.growth.trackers.rows r.tracker = some tracker ∧
          s.columns r.tracker = some columns ∧ r.IsFor (r.tracker, tracker, columns) := by
  obtain ⟨new, hdispatched, hfor⟩ :=
    dispatched_foldl_remindTracker env s (remindableTrackers env s)
  have htrackers : List.Forall₂ (· = ·)
      (((remindableTrackers env s).filter fun e => decide (s.HasWaited env e)).map Prod.fst)
      (new.map (·.tracker)) :=
    List.forall₂_map_left_iff.2 (List.forall₂_map_right_iff.2 (hfor.imp fun _ _ h => h.tracker.symm))
  rw [List.forall₂_eq_eq_eq] at htrackers
  refine ⟨new, hdispatched, ?_, fun t => ?_, fun r hr => ?_⟩
  · rw [← htrackers]
    exact (nodup_remindableTrackers env s).sublist (List.filter_sublist.map _)
  · rw [← htrackers, List.mem_map]
    constructor
    · rintro ⟨⟨t, tracker, columns⟩, hmem, rfl⟩
      obtain ⟨hremindable, hwaited⟩ := List.mem_filter.1 hmem
      obtain ⟨hrow, hcolumns, hstatus, hcount, hphone⟩ := mem_remindableTrackers.1 hremindable
      exact ⟨tracker, columns, hrow, hcolumns, hstatus, hcount, hphone, of_decide_eq_true hwaited⟩
    · rintro ⟨tracker, columns, hrow, hcolumns, hstatus, hcount, hphone, hwaited⟩
      refine ⟨(t, tracker, columns), List.mem_filter.2 ⟨?_, decide_eq_true hwaited⟩, rfl⟩
      exact mem_remindableTrackers.2 ⟨hrow, hcolumns, hstatus, hcount, hphone⟩
  · obtain ⟨e, he, hfor⟩ := exists_of_forall₂ hfor r hr
    obtain ⟨hrow, hcolumns, -⟩ := mem_remindableTrackers.1 (List.mem_of_mem_filter he)
    rw [hfor.tracker]
    exact ⟨e.2.1, e.2.2, hrow, hcolumns, hfor⟩

end Job

/-! ## Runs -/

namespace FunnelState

/-- The job is set to send at most `limit` reminders. -/
def CapsReminders (limit : ℕ) (_ : FunnelState) : FunnelAction → Prop
  | .sendReminders env => env.settings.abandonedCartMaxReminders ≤ limit
  | _ => True

instance (limit : ℕ) (s : FunnelState) : ∀ action, Decidable (CapsReminders limit s action)
  | .sendReminders env => inferInstanceAs (Decidable (env.settings.abandonedCartMaxReminders ≤ limit))
  | .growth _ | .cartSaved _ _ | .recovered _ => isTrue trivial

/-- The task for a paid order leaves the accounts alone. -/
theorem markAbandonedCartRecovered_quiet (s : Funnel) (o : OrderId) (order : Order) :
    s.Quiet (markAbandonedCartRecovered s o order) := by
  rw [markAbandonedCartRecovered]
  cases s.buyersTracker order with
  | none => exact .refl s
  | some t => exact .modifyTrackers fun _ => rfl

theorem counted_step {limit : ℕ} {s s' : FunnelState} {action : FunnelAction}
    (h : s.funnel.Counted limit) (hcaps : s.CapsReminders limit action)
    (hstep : s.step action = some s') : s'.funnel.Counted limit := by
  cases action with
  | growth action =>
    obtain ⟨g, hg, rfl⟩ := Option.map_eq_some_iff.1 hstep
    exact h.of_keeps rfl (GrowthState.step_accounts hg)
  | cartSaved env c =>
    cases hstep
    have hquiet := syncAbandonedCartTracker_quiet env s.funnel c
    exact h.of_keeps hquiet.dispatched hquiet.accounts
  | sendReminders env =>
    cases hstep
    exact processAbandonedCartReminders_counted h hcaps
  | recovered o =>
    rw [FunnelState.step] at hstep
    split at hstep
    next order _ _ =>
      cases hstep
      have hquiet := markAbandonedCartRecovered_quiet s.funnel o order
      exact h.of_keeps hquiet.dispatched hquiet.accounts
    next => cases hstep

/-- Over every run of cart edits, jobs, checkouts and payments a tracker gets no more than `limit`
    reminders, in the order of the steps, each with a key of its own, and with one offer at most. -/
theorem reminders_of_run {limit : ℕ} {s : FunnelState} {run : List FunnelAction}
    (hs : s.funnel.Counted limit) (h : Guarded step (CapsReminders limit) s run) :
    Throughout step (fun s => s.funnel.Counted limit) s run :=
  h.throughout (fun _ _ _ hs hcaps hstep => counted_step hs hcaps hstep) hs

/-- Nothing has been sent in the corner shop. -/
theorem reminders_of_run_userShop :
    Throughout step (fun s => s.funnel.Counted 3) userShop (remindedCheckout ++ remindedCheckout) := by
  refine reminders_of_run ⟨fun r hr => ?_, fun t tracker hrow => ?_, fun t => ?_, ?_⟩
    (by decide +kernel)
  · exact absurd hr List.not_mem_nil
  · cases hrow
  · exact Nat.zero_le 3
  · exact List.nodup_nil

end FunnelState

end Crumbs
