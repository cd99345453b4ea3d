import Crumbs.Growth.Payment
import Crumbs.System

/-!
# Abandoned Carts

Every cart with items has a tracker. The tracker is written by five: the signals of every edit of
the cart, the hourly job that sends the reminders, the task that follows the payment of an order,
and the attribution of its revenue. A reminder is counted when it is dispatched.

## Contents

- `TrackerColumns`, `Funnel`: the trackers with their carts, and the reminders that were dispatched
- `syncAbandonedCartTracker`, `markAbandonedCartRecovered`, `processAbandonedCartReminders`
- `Growth.SmsTrail`: what is attributed is attributed to trackers that were recovered
- `Funnel.Keeps`: no tracker is recovered that was not, and none gets another cart
- `syncAbandonedCartTracker_keeps`, `processAbandonedCartReminders_keeps`
-/

namespace Crumbs

open Crumbs.Db

/-! ## Tables -/

/-- The columns of a tracker that only this part of the app reads. -/
structure TrackerColumns where
  cart : CartId
  user : Option UserId := none
  phone : String := ""
  sessionKey : String := ""
  itemCount : ℕ := 0
  subtotal : Money := 0
  lastActivityAt : Time
  lastReminderAt : Option Time := none
  deriving DecidableEq, Repr

/-- A reminder that is dispatched, with the event that records it. -/
structure Reminder where
  tracker : TrackerId
  templateCode : String
  phone : String
  user : Option UserId
  itemCount : ℕ
  subtotal : ℤ
  coupon : Option (String × ℤ) := none
  funnelStep : ℕ
  dedupeKey : String
  deriving DecidableEq, Repr

/-- `ABANDONED_CART_…`, with their defaults; the threshold is in hundredths of a toman. -/
structure FunnelSettings where
  abandonedCartHours : ℤ := 2
  abandonedCartStep2Hours : ℤ := 24
  abandonedCartHighValueThreshold : Money := 50000000
  abandonedCartMaxReminders : ℤ := 3

/-- What the work on the trackers finds around it; `latestOrderPhone` is the phone number of the
    latest order of a user that has one. -/
structure FunnelEnv where
  now : Time := 0
  settings : FunnelSettings := {}
  latestOrderPhone : UserId → String := fun _ => ""

/-- The tables, and the reminders that were dispatched. `couponCodes` are those that the carts
    keep. -/
structure Funnel where
  db : GrowthDatabase
  columns : TrackerId → Option TrackerColumns := fun _ => none
  couponCodes : CartId → String := fun _ => ""
  dispatched : List Reminder := []

namespace Funnel

/-- The tracker of a cart; it has at most one. -/
def trackerOfCart (s : Funnel) (c : CartId) : Option TrackerId :=
  (s.db.growth.trackers.entries.find? fun e =>
    decide ((s.columns e.1).map (·.cart) = some c)).map Prod.fst

def modifyTrackers (s : Funnel) (f : Table AbandonedCartTracker → Table AbandonedCartTracker) :
    Funnel :=
  { s with db := { s.db with growth := { s.db.growth with trackers := f s.db.growth.trackers } } }

def setColumns (s : Funnel) (t : TrackerId) (columns : TrackerColumns) : Funnel :=
  { s with columns := fun t' => if t' = t then some columns else s.columns t' }

def modifyColumns (s : Funnel) (t : TrackerId) (f : TrackerColumns → TrackerColumns) : Funnel :=
  { s with columns := fun t' => if t' = t then (s.columns t).map f else s.columns t' }

/-- `cart.total_items` -/
def totalItems (s : Funnel) (c : CartId) : ℕ := ((s.db.shop.cartItems c).map (·.quantity)).sum

end Funnel

/-! ## The tracker of a cart -/

/-- `resolve_phone_for_cart` -/
def resolvePhoneForCart (env : FunnelEnv) (s : Funnel) (cart : Cart) : String :=
  match cart.user with
  | none => ""
  | some user =>
    let profilePhone := (s.db.contacts user).phone
    if profilePhone ≠ "" then profilePhone else env.latestOrderPhone user

/-- `sync_abandoned_cart_tracker` -/
def syncAbandonedCartTracker (env : FunnelEnv) (s : Funnel) (c : CartId) : Funnel :=
  match s.db.shop.carts.rows c with
  | none => s
  | some cart =>
    if s.totalItems c = 0 then
      match s.trackerOfCart c with
      | none => s
      | some t => s.modifyTrackers (·.modify t fun tracker =>
          if tracker.status = .active then { tracker with status := .expired } else tracker)
    else
      let lastReminderAt (t : TrackerId) := (s.columns t).bind (·.lastReminderAt)
      let columns (t : TrackerId) : TrackerColumns :=
        { cart := c, user := cart.user, phone := resolvePhoneForCart env s cart,
          sessionKey := cart.sessionKey.getD "", itemCount := s.totalItems c,
          subtotal := calculateSubtotal s.db.shop.stock (s.db.shop.cartItems c),
          lastActivityAt := env.now, lastReminderAt := lastReminderAt t }
      match s.trackerOfCart c with
      | some t => (s.modifyTrackers (·.modify t
          ({ · with status := .active, updatedAt := env.now }))).setColumns t (columns t)
      | none =>
        let t := s.db.growth.trackers.next
        (s.modifyTrackers (·.insert { status := .active, updatedAt := env.now })).setColumns t
          { columns t with lastReminderAt := none }

/-- The cart of a user; there is at most one. -/
def Funnel.cartOfUser (s : Funnel) (user : UserId) : Option CartId :=
  ((s.db.shop.carts.filter fun cart => decide (cart.user = some user)).head?).map Prod.fst

/-- The tracker of the buyer's cart. -/
def Funnel.buyersTracker (s : Funnel) (order : Order) : Option TrackerId :=
  (order.user.bind s.cartOfUser).bind s.trackerOfCart

/-- `mark_abandoned_cart_recovered` -/
def markAbandonedCartRecovered (s : Funnel) (o : OrderId) (order : Order) : Funnel :=
  match s.buyersTracker order with
  | none => s
  | some t => s.modifyTrackers (·.modify t
      ({ · with status := .recovered, recoveredOrder := some o }))

/-! ## Reminders -/

/-- `timedelta(hours=n)` -/
def hours (n : ℤ) : Time := minutes (n * 60)

/-- The trackers that a run of the job looks at, the last active ones first. -/
def remindableTrackers (env : FunnelEnv) (s : Funnel) :
    List (TrackerId × AbandonedCartTracker × TrackerColumns) :=
  ((s.db.growth.trackers.filter fun tracker =>
      decide ((tracker.status = .active ∨ tracker.status = .reminded) ∧
        tracker.reminderCount < env.settings.abandonedCartMaxReminders)).filterMap fun e =>
    ((s.columns e.1).filter fun columns => decide (columns.phone ≠ "")).map fun columns =>
      (e.1, e.2, columns)).mergeSort fun e e' =>
    decide (e'.2.2.lastActivityAt ≤ e.2.2.lastActivityAt)

/-- The coupon of a late reminder: the one that was offered before, or the newest active one for
    abandoned carts. -/
def reminderCoupon (s : Funnel) (tracker : AbandonedCartTracker) : Option (CouponId × Coupon) :=
  match tracker.offeredCoupon with
  | some id => (s.db.growth.coupons.rows id).map fun coupon => (id, coupon)
  | none => (s.db.growth.coupons.filter fun coupon =>
      decide (coupon.campaignType = .abandonedCart ∧ coupon.isActive = true)).getLast?

/-- A coupon that is offered for the first time is kept in the cart of a user, which is saved. -/
def offerCoupon (env : FunnelEnv) (s : Funnel) (tracker : AbandonedCartTracker)
    (columns : TrackerColumns) (coupon : Coupon) : Funnel :=
  if tracker.offeredCoupon = none ∧ columns.user.isSome then
    syncAbandonedCartTracker env
      { s with couponCodes := fun c => if c = columns.cart then coupon.code else s.couponCodes c }
      columns.cart
  else s

/-- The reminder is dispatched, and counted. -/
def dispatchReminder (env : FunnelEnv) (s : Funnel) (t : TrackerId)
    (tracker : AbandonedCartTracker) (columns : TrackerColumns) (templateCode : String)
    (coupon : Option Coupon) : Funnel :=
  let reminder : Reminder :=
    { tracker := t, templateCode, phone := columns.phone, user := columns.user,
      itemCount := columns.itemCount, subtotal := columns.subtotal.toInt,
      coupon := coupon.map fun coupon => (coupon.code, coupon.discountValue.toInt),
      funnelStep := tracker.funnelStep,
      dedupeKey := s!"abandoned:{t}:{tracker.reminderCount + 1}" }
  let s := { s with dispatched := s.dispatched ++ [reminder] }.modifyColumns t
    ({ · with lastReminderAt := some env.now })
  s.modifyTrackers (·.modify t fun row => { row with
    reminderCount := tracker.reminderCount + 1
    status := .reminded
    funnelStep := tracker.funnelStep
    offeredCoupon := tracker.offeredCoupon
    updatedAt := env.now })

/-- The body of the loop in `process_abandoned_cart_reminders`. -/
def remindTracker (env : FunnelEnv) (s : Funnel) :
    TrackerId × AbandonedCartTracker × TrackerColumns → Funnel
  | (t, tracker, columns) =>
    let wait := if tracker.funnelStep = 0 then env.settings.abandonedCartHours
      else env.settings.abandonedCartStep2Hours
    if s.totalItems columns.cart = 0 then
      s.modifyTrackers (·.modify t ({ · with status := .expired, updatedAt := env.now }))
    else if env.now - columns.lastActivityAt < hours wait then s
    else if tracker.funnelStep = 0 then
      dispatchReminder env s t { tracker with funnelStep := 1 } columns "abandoned_cart" none
    else if tracker.funnelStep = 1 then
      dispatchReminder env s t { tracker with funnelStep := 2 } columns "abandoned_cart_step2" none
    else if env.settings.abandonedCartHighValueThreshold ≤ columns.subtotal then
      match reminderCoupon s tracker with
      | some (id, coupon) =>
        dispatchReminder env (offerCoupon env s tracker columns coupon) t
          { tracker with funnelStep := 3, offeredCoupon := some id } columns
          "abandoned_cart_discount" (some coupon)
      | none =>
        dispatchReminder env s t { tracker with funnelStep := 3 } columns "abandoned_cart" none
    else dispatchReminder env s t tracker columns "abandoned_cart" none

/-- `process_abandoned_cart_reminders` -/
def processAbandonedCartReminders (env : FunnelEnv) (s : Funnel) : Funnel :=
  (remindableTrackers env s).foldl (remindTracker env) s

/-! ## What stays as it is -/

namespace Growth

/-- The tracker is recovered, by this order. -/
def IsRecovered (growth : Growth) (t : TrackerId) (o : OrderId) : Prop :=
  ∃ tracker, growth.trackers.rows t = some tracker ∧ tracker.status = .recovered ∧
    tracker.recoveredOrder = some o

/-- No tracker is recovered that was not, none is deleted, and what is new was attributed to a
    tracker that was recovered by the order. -/
structure SmsTrail (g g' : Growth) : Prop where
  trackers : ∀ t, (g.trackers.rows t).isSome → (g'.trackers.rows t).isSome
  recovered : ∀ t o, g'.IsRecovered t o → g.IsRecovered t o
  attributions : ∀ a ∈ g'.attributions, a.sourceType = .sms →
    a ∈ g.attributions ∨ ∃ t, a.sourceId = s!"abandoned_cart:{t}" ∧ g.IsRecovered t a.order
  conversions : ∀ conversion ∈ g'.smsConversions,
    conversion ∈ g.smsConversions ∨ g.IsRecovered conversion.tracker conversion.order

/-- The tables of the trail. -/
def sms (g : Growth) : Table AbandonedCartTracker × List RevenueAttribution × List SmsConversion :=
  (g.trackers, g.attributions, g.smsConversions)

namespace SmsTrail

variable {g g₁ g₂ : Growth} {t : TrackerId}

theorem refl (g : Growth) : SmsTrail g g :=
  ⟨fun _ h => h, fun _ _ h => h, fun _ ha _ => .inl ha, fun _ hc => .inl hc⟩

theorem trans (h : SmsTrail g g₁) (h' : SmsTrail g₁ g₂) : SmsTrail g g₂ where
  trackers t ht := h'.trackers t (h.trackers t ht)
  recovered t o ho := h.recovered t o (h'.recovered t o ho)
  attributions a ha htype := by
    rcases h'.attributions a ha htype with hold | ⟨t, hid, hrecovered⟩
    · exact h.attributions a hold htype
    · exact .inr ⟨t, hid, h.recovered t _ hrecovered⟩
  conversions c hc := by
    rcases h'.conversions c hc with hold | hrecovered
    · exact h.conversions c hold
    · exact .inr (h.recovered _ _ hrecovered)

theorem of_same (h : g₁.sms = g.sms) : SmsTrail g g₁ := by
  obtain ⟨htrackers, hrest⟩ := Prod.mk.inj h
  obtain ⟨hattributions, hconversions⟩ := Prod.mk.inj hrest
  refine ⟨fun t ht => htrackers ▸ ht, fun t o => ?_, fun a ha _ => .inl (hattributions ▸ ha),
    fun c hc => .inl (hconversions ▸ hc)⟩
  rw [IsRecovered, IsRecovered, htrackers]
  exact id

/-- A tracker is changed, and is recovered only if it was recovered by the same order. -/
theorem modifyTracker {f : AbandonedCartTracker → AbandonedCartTracker}
    (hf : ∀ tracker, (f tracker).status = .recovered →
      tracker.status = .recovered ∧ tracker.recoveredOrder = (f tracker).recoveredOrder) :
    SmsTrail g { g with trackers := g.trackers.modify t f } where
  trackers t' ht' := by
    rw [Table.rows_modify]
    split
    next heq => rwa [Option.isSome_map, ← heq]
    next => exact ht'
  recovered t' o h := by
    obtain ⟨tracker, hrow, hstatus, horder⟩ := h
    rcases Table.rows_modify_eq_some.1 hrow with ⟨rfl, before, hbefore, rfl⟩ | ⟨-, hsame⟩
    · obtain ⟨hwas, hby⟩ := hf before hstatus
      exact ⟨before, hbefore, hwas, hby.trans horder⟩
    · exact ⟨tracker, hsame, hstatus, horder⟩
  attributions _ ha _ := .inl ha
  conversions _ hc := .inl hc

/-- A new tracker is not recovered. -/
theorem insertTracker {tracker : AbandonedCartTracker} (h : tracker.status ≠ .recovered) :
    SmsTrail g { g with trackers := g.trackers.insert tracker } where
  trackers t ht := by
    obtain ⟨before, hbefore⟩ := Option.isSome_iff_exists.1 ht
    exact Option.isSome_of_eq_some (Table.rows_insert_of_some tracker hbefore)
  recovered t o ho := by
    obtain ⟨row, hrow, hstatus, horder⟩ := ho
    rcases Table.rows_insert_cases hrow with ⟨-, rfl⟩ | ⟨-, hbefore⟩
    · exact (h hstatus).elim
    · exact ⟨row, hbefore, hstatus, horder⟩
  attributions _ ha _ := .inl ha
  conversions _ hc := .inl hc

end SmsTrail

end Growth

namespace Funnel

/-- The cart of a tracker. -/
def cartOf (s : Funnel) (t : TrackerId) : Option CartId :=
  (s.db.growth.trackers.rows t).bind fun _ => (s.columns t).map (·.cart)

/-- The trackers keep their carts, and none is recovered that was not. -/
structure Keeps (s s' : Funnel) : Prop where
  carts : ∀ t c, s.cartOf t = some c → s'.cartOf t = some c
  trail : s.db.growth.SmsTrail s'.db.growth

section Keeps

variable {s s₁ s₂ : Funnel} {t : TrackerId} {c : CartId}

theorem cartOf_eq_some : s.cartOf t = some c ↔ (s.db.growth.trackers.rows t).isSome ∧
    ∃ columns, s.columns t = some columns ∧ columns.cart = c := by
  rw [cartOf, Option.bind_eq_some_iff]
  constructor
  · rintro ⟨tracker, hrow, hcart⟩
    exact ⟨Option.isSome_of_eq_some hrow, Option.map_eq_some_iff.1 hcart⟩
  · rintro ⟨hrow, hcart⟩
    obtain ⟨tracker, hrow⟩ := Option.isSome_iff_exists.1 hrow
    exact ⟨tracker, hrow, Option.map_eq_some_iff.2 hcart⟩

@[simp] theorem cartOf_modifyTrackers (f : AbandonedCartTracker → AbandonedCartTracker)
    (t' : TrackerId) : (s.modifyTrackers (·.modify t f)).cartOf t' = s.cartOf t' := by
  change ((s.db.growth.trackers.modify t f).rows t').bind _ = _
  rw [Table.rows_modify]
  split
  next heq => rw [Option.bind_map, cartOf, heq]; rfl
  next => rfl

namespace Keeps

theorem refl (s : Funnel) : Keeps s s := ⟨fun _ _ h => h, .refl _⟩

theorem trans (h : Keeps s s₁) (h' : Keeps s₁ s₂) : Keeps s s₂ :=
  ⟨fun t c hc => h'.carts t c (h.carts t c hc), h.trail.trans h'.trail⟩

theorem ite {p : Prop} [Decidable p] (h₁ : Keeps s s₁) (h₂ : Keeps s s₂) :
    Keeps s (if p then s₁ else s₂) := by
  split
  · exact h₁
  · exact h₂

/-- The columns of the trackers are as they were. -/
theorem of_trail (htrail : s.db.growth.SmsTrail s₁.db.growth) (hcolumns : s₁.columns = s.columns) :
    Keeps s s₁ where
  carts t c hc := by
    obtain ⟨hrow, hcart⟩ := cartOf_eq_some.1 hc
    rw [← hcolumns] at hcart
    exact cartOf_eq_some.2 ⟨htrail.trackers t hrow, hcart⟩
  trail := htrail

/-- A tracker is changed, and is not recovered now. -/
theorem modifyTrackers_of_ne {f : AbandonedCartTracker → AbandonedCartTracker}
    (hf : ∀ tracker, (f tracker).status ≠ .recovered) :
    Keeps s (s.modifyTrackers (·.modify t f)) :=
  .of_trail (.modifyTracker fun tracker h => (hf tracker h).elim) rfl

/-- A tracker gets new columns for the same cart. -/
theorem setColumns {columns : TrackerColumns} (h : ∀ c, s.cartOf t = some c → columns.cart = c) :
    Keeps s (s.setColumns t columns) where
  carts t' c hc := by
    by_cases heq : t' = t
    · subst heq
      exact cartOf_eq_some.2 ⟨(cartOf_eq_some.1 hc).1, columns, if_pos rfl, h c hc⟩
    · obtain ⟨hrow, columns', hcolumns, hcart⟩ := cartOf_eq_some.1 hc
      exact cartOf_eq_some.2 ⟨hrow, columns', (if_neg heq).trans hcolumns, hcart⟩
  trail := .refl _

theorem modifyColumns {f : TrackerColumns → TrackerColumns}
    (hf : ∀ columns, (f columns).cart = columns.cart) : Keeps s (s.modifyColumns t f) where
  carts t' c hc := by
    obtain ⟨hrow, columns, hcolumns, hcart⟩ := cartOf_eq_some.1 hc
    by_cases heq : t' = t
    · subst heq
      refine cartOf_eq_some.2 ⟨hrow, f columns, ?_, (hf columns).trans hcart⟩
      exact (if_pos rfl).trans (congrArg (Option.map f) hcolumns)
    · exact cartOf_eq_some.2 ⟨hrow, columns, (if_neg heq).trans hcolumns, hcart⟩
  trail := .refl _

/-- The tracker of a cart that had none. -/
theorem insert {tracker : AbandonedCartTracker} {columns : TrackerColumns}
    (h : tracker.status ≠ .recovered) :
    Keeps s ((s.modifyTrackers (·.insert tracker)).setColumns s.db.growth.trackers.next columns) where
  carts t' c hc := by
    obtain ⟨hrow, columns', hcolumns, hcart⟩ := cartOf_eq_some.1 hc
    obtain ⟨before, hbefore⟩ := Option.isSome_iff_exists.1 hrow
    refine cartOf_eq_some.2 ⟨?_, columns', (if_neg (Table.lt_next hbefore).ne).trans hcolumns, hcart⟩
    exact Option.isSome_of_eq_some (Table.rows_insert_of_some tracker hbefore)
  trail := .insertTracker h

end Keeps

theorem trackerOfCart_cart (h : s.trackerOfCart c = some t) :
    (s.columns t).map (·.cart) = some c := by
  obtain ⟨e, he, rfl⟩ := Option.map_eq_some_iff.1 h
  exact of_decide_eq_true (List.find?_some he :)

end Keeps

end Funnel

section Keeps

variable (env : FunnelEnv) (s : Funnel) (t : TrackerId) (tracker : AbandonedCartTracker)
  (columns : TrackerColumns)

theorem syncAbandonedCartTracker_keeps (c : CartId) :
    s.Keeps (syncAbandonedCartTracker env s c) := by
  rw [syncAbandonedCartTracker]
  cases s.db.shop.carts.rows c with
  | none => exact .refl s
  | some cart =>
    dsimp only
    split
    next =>
      -- the cart is empty
      cases s.trackerOfCart c with
      | none => exact .refl s
      | some t =>
        refine .of_trail (.modifyTracker fun tracker h => ?_) rfl
        by_cases hactive : tracker.status = .active
        · rw [if_pos hactive] at h
          exact nomatch h
        · rw [if_neg hactive] at h ⊢
          exact ⟨h, rfl⟩
    next =>
      cases htracker : s.trackerOfCart c with
      | none => exact .insert fun h => nomatch (h : TrackerStatus.active = .recovered)
      | some t =>
        have hactive : TrackerStatus.active ≠ .recovered := nofun
        refine .trans (.modifyTrackers_of_ne fun _ => hactive) (.setColumns fun c' hc' => ?_)
        obtain ⟨-, columns, hcolumns, rfl⟩ := Funnel.cartOf_eq_some.1 hc'
        have hcart := Funnel.trackerOfCart_cart htracker
        rw [show s.columns t = some columns from hcolumns] at hcart
        exact (Option.some.inj hcart).symm

theorem offerCoupon_keeps (coupon : Coupon) :
    s.Keeps (offerCoupon env s tracker columns coupon) := by
  rw [offerCoupon]
  split
  next =>
    have hcodes : s.Keeps { s with couponCodes := fun c =>
        if c = columns.cart then coupon.code else s.couponCodes c } :=
      .of_trail (.refl _) rfl
    exact hcodes.trans (syncAbandonedCartTracker_keeps env _ columns.cart)
  next => exact .refl s

theorem dispatchReminder_keeps (templateCode : String) (coupon : Option Coupon) :
    s.Keeps (dispatchReminder env s t tracker columns templateCode coupon) := by
  have hdispatched (reminder : Reminder) :
      s.Keeps { s with dispatched := s.dispatched ++ [reminder] } :=
    .of_trail (.refl _) rfl
  rw [dispatchReminder]
  refine .trans ?_ (.modifyTrackers_of_ne fun _ => nofun)
  exact (hdispatched _).trans (.modifyColumns fun _ => rfl)

theorem remindTracker_keeps (e : TrackerId × AbandonedCartTracker × TrackerColumns) :
    s.Keeps (remindTracker env s e) := by
  obtain ⟨t, tracker, columns⟩ := e
  rw [remindTracker]
  refine .ite (.modifyTrackers_of_ne fun _ => nofun) (.ite (.refl s) (.ite
    (dispatchReminder_keeps ..) (.ite (dispatchReminder_keeps ..) (.ite ?_
      (dispatchReminder_keeps ..)))))
  -- the cart is worth a discount
  cases reminderCoupon s tracker with
  | none => exact dispatchReminder_keeps ..
  | some coupon => exact (offerCoupon_keeps ..).trans (dispatchReminder_keeps ..)

theorem processAbandonedCartReminders_keeps : s.Keeps (processAbandonedCartReminders env s) := by
  rw [processAbandonedCartReminders]
  generalize remindableTrackers env s = trackers
  induction trackers generalizing s with
  | nil => exact .refl s
  | cons e rest ih => exact (remindTracker_keeps env s e).trans (ih (remindTracker env s e))

end Keeps

end Crumbs
