import Crumbs.Growth.Funnel
import Crumbs.Growth.Limits

/-!
# The Revenue of the Reminders

The revenue of an order is attributed to the reminders of a tracker if the tracker is recovered by
the order. The task that follows a payment makes it recovered: it takes the tracker of the buyer's
cart, and does not look whether a reminder was ever sent.

## Contents

- `finalizeRun_smsTrail`: what the task attributes, and to which trackers
- `FunnelState`, `FunnelAction`: edits of carts, reminders, checkouts and payments in any order
- `FunnelState.IsReminded`, `NeedsSms`: what an attribution to the reminders needs
- `guarded_needsSms`, `not_needsSms_unreminded`
-/

namespace Crumbs

open Crumbs.Db AttributionService

/-! ## The task for a paid order -/

namespace Growth.SmsTrail

variable {g : Growth} {env : Env} {order : OrderInstance}
  {e : TrackerId × AbandonedCartTracker} {a : RevenueAttribution}

/-- Another kind of source. -/
theorem append (h : a.sourceType ≠ .sms) : SmsTrail g (AttributionService.append g a) where
  trackers _ ht := ht
  recovered _ _ ho := ho
  attributions b hb htype := by
    rcases List.mem_append.1 hb with hold | hnew
    · exact .inl hold
    · obtain rfl := List.mem_singleton.1 hnew
      exact (h htype).elim
  conversions _ hc := .inl hc

theorem isRecovered_of_trackerOf (h : trackerOf order g = some e) :
    g.IsRecovered e.1 order.id := by
  have hmem := mem_of_latest (recoveredTracker_of_trackerOf h)
  obtain ⟨hrow, hmatch⟩ := Table.mem_filter.1 hmem
  obtain ⟨horder, hstatus⟩ := of_decide_eq_true hmatch
  exact ⟨e.2, hrow, hstatus, horder⟩

theorem append_sms (h : trackerOf order g = some e) :
    SmsTrail g (AttributionService.append g (smsAttribution order e)) where
  trackers _ ht := ht
  recovered _ _ ho := ho
  attributions b hb _ := by
    rcases List.mem_append.1 hb with hold | hnew
    · exact .inl hold
    · obtain rfl := List.mem_singleton.1 hnew
      exact .inr ⟨e.1, rfl, isRecovered_of_trackerOf h⟩
  conversions _ hc := .inl hc

theorem converted (h : g.IsRecovered e.1 order.id) :
    SmsTrail g (convertedGrowth env order e.1 g) := by
  have hmodify : SmsTrail g { g with
      trackers := g.trackers.modify e.1 (AttributionService.converted env.now) } :=
    modifyTracker fun _ h => ⟨h, rfl⟩
  refine ⟨hmodify.trackers, hmodify.recovered, fun _ ha _ => .inl ha, fun c hc => ?_⟩
  rcases List.mem_append.1 hc with hold | hnew
  · exact .inl hold
  · obtain rfl := List.mem_singleton.1 hnew
    exact .inr h

end Growth.SmsTrail

/-- The growth app's tables move along the trail. -/
def SmsMoves (w w' : GrowthWorld) : Prop := w.db.growth.SmsTrail w'.db.growth

instance : IsPreorder GrowthWorld SmsMoves where
  refl w := .refl w.db.growth
  trans _ _ _ h h' := h.trans h'

instance : Tx.RestoresDb SmsMoves := ⟨fun {w _} _ => .refl w.db.growth⟩

section Finalize

variable (env : Env) (settings : GrowthSettings) (order : OrderInstance)

theorem redeemCoupon_smsMoves : (GrowthCheckoutFacade.redeemCoupon order).Steps SmsMoves := by
  intro w
  obtain ⟨r, hrun, -⟩ := redeem_step w.db.shop {} order w
  refine .of_run ?_
  rw [hrun]
  refine .of_same ?_
  change (redeemedBy order w.db.growth).sms = _
  rw [redeemedBy]
  split
  · rfl
  · split <;> rfl

theorem finalizeReferral_smsMoves :
    (ReferralService.finalizeOnPayment env settings order).Steps SmsMoves := by
  intro w
  refine .of_run ?_
  rcases ReferralService.finalizeOnPayment_cases env settings order w with
    ⟨-, ⟨_, _, _, _, _, hrun⟩ | ⟨_, hrun⟩⟩ | ⟨-, _, hrun⟩
  · rw [hrun]
    exact .of_same rfl
  · rw [hrun]
    exact .refl _
  · rw [hrun]
    exact .refl _

theorem attributeOnce_smsMoves {attribution : Growth → Option RevenueAttribution}
    (h : ∀ g a, attribution g = some a → a.sourceType ≠ .sms) :
    (attributeOnce attribution).Steps SmsMoves := by
  intro w
  refine .of_run ?_
  rcases attributeOnce_cases attribution w with ⟨-, hrun⟩ |
    ⟨a, ha, ⟨-, hrun⟩ | ⟨_, -, hrun⟩ | ⟨-, _, hrun⟩⟩
  · rw [hrun]
    exact .refl _
  · rw [hrun]
    exact .append (h _ a ha)
  · rw [hrun]
    exact .refl _
  · rw [hrun]
    exact .refl _

theorem attributeSms_smsMoves : (attributeSms env order).Steps SmsMoves := by
  intro w
  refine .of_run ?_
  rcases attributeSms_cases env order w with ⟨-, hrun⟩ |
    ⟨e, he, ⟨-, hrun⟩ | ⟨_, -, hrun⟩ | ⟨-, _, hrun⟩⟩
  · rw [hrun]
    exact .refl _
  · rw [hrun]
    have happend := Growth.SmsTrail.append_sms he
    split
    · exact happend.trans (.converted (Growth.SmsTrail.isRecovered_of_trackerOf he))
    · exact happend
  · rw [hrun]
    exact .refl _
  · rw [hrun]
    exact .refl _

theorem recordForOrder_smsMoves : (recordForOrder env order).Steps SmsMoves := by
  have hother {type type' : SourceType} {p : Prop} (h : p ∧ type = type') (hne : type' ≠ .sms) :
      type ≠ .sms := h.2 ▸ hne
  refine Tx.Steps.atomic (Tx.Steps.bind (attributeOnce_smsMoves fun g a ha =>
    hother (couponAttribution_source ha) (by decide)) fun coupon => Tx.Steps.bind
    (attributeOnce_smsMoves fun g a ha => hother (referralAttribution_source ha) (by decide))
    fun referral => Tx.Steps.bind (attributeOnce_smsMoves fun g a ha =>
      hother (promotionAttribution_source ha) (by decide)) fun promotion => ?_)
  exact (attributeSms_smsMoves env order).bind fun sms => Tx.steps_pure _

/-- Only what is recovered is attributed. -/
theorem finalizeGrowth_smsMoves :
    (GrowthCheckoutFacade.finalizeOnPayment env settings order).Steps SmsMoves := by
  refine Tx.Steps.atomic (Tx.Steps.bind (redeemCoupon_smsMoves order) fun coupon =>
    Tx.Steps.bind (finalizeReferral_smsMoves env settings order) fun referral =>
      Tx.Steps.bind (recordForOrder_smsMoves env order) fun attributions =>
        Tx.Steps.bind (fun w => ?_) fun _ => Tx.steps_pure _)
  obtain ⟨g, hrun, -, hsame, -⟩ := clv_step env order w
  refine .of_run ?_
  rw [hrun]
  refine .of_same ?_
  change g.sms = _
  rw [hsame]
  rfl

theorem finalizeRun_smsTrail (o : OrderId) (db : GrowthDatabase) :
    db.growth.SmsTrail (finalizeRun settings env o db).growth := by
  cases horder : db.order o with
  | none =>
    rw [finalizeRun_of_none horder]
    exact .refl _
  | some order =>
    rw [finalizeRun_of_order horder]
    exact (finalizeGrowth_smsMoves env settings order ⟨db, []⟩).run

end Finalize

/-- So it is with every step of the growth app. -/
theorem GrowthState.step_smsTrail {s s' : GrowthState} {action : GrowthAction}
    (h : s.step action = some s') : s.db.growth.SmsTrail s'.db.growth := by
  cases action with
  | shop step =>
    cases h
    exact .refl _
  | prepare env items user codes subtotal =>
    simp only [GrowthState.step] at h
    split at h <;> cases h <;> exact .refl _
  | applyToOrder checkout o =>
    obtain ⟨e, -, rfl⟩ := Option.map_eq_some_iff.1 h
    have hleaves := applyToOrder_leavesGrowth Growth.sms (fun _ _ => rfl)
      (fun _ _ => rfl) o e.2 e.1
    exact .of_same (hleaves ⟨s.db, []⟩).run
  | finalize env settings o =>
    cases h
    exact finalizeRun_smsTrail env settings o s.db

/-! ## Runs -/

/-- The trackers and the tables, with what no table has: the cart that an order was checked out
    from, and the reminders that had been dispatched when it was paid. -/
structure FunnelState where
  funnel : Funnel
  events : String → Option PaymentEvent := fun _ => none
  prepared : List (Option UserId × GrowthCheckoutFacade.Context) := []
  cameFrom : OrderId → Option CartId := fun _ => none
  paidAfter : OrderId → Option (List Reminder) := fun _ => none

/-- What may happen next: a step of the shop or the growth app, of which every save of a cart and
    its items is followed by the signal, the hourly job, or the task for an order that is paid. -/
inductive FunnelAction where
  | growth (action : GrowthAction)
  | cartSaved (env : FunnelEnv) (c : CartId)
  | sendReminders (env : FunnelEnv)
  | recovered (o : OrderId)

/-- The cart that is checked out. -/
def GrowthAction.cart : GrowthAction → Option CartId
  | .shop ⟨_, .call (.processCheckout c ..)⟩ => some c
  | .shop ⟨_, .call (.processCounterCheckout c ..)⟩ => some c
  | _ => none

namespace FunnelState

def growthState (s : FunnelState) : GrowthState where
  db := s.funnel.db
  events := s.events
  prepared := s.prepared

/-- The tables are those of `g` now; the orders are new, or paid, that were not before. -/
def moved (s : FunnelState) (action : GrowthAction) (g : GrowthState) : FunnelState where
  funnel := { s.funnel with db := g.db }
  events := g.events
  prepared := g.prepared
  cameFrom o := (s.cameFrom o).or
    (if s.funnel.db.shop.orders.rows o = none ∧ g.db.shop.orders.rows o ≠ none then action.cart
    else none)
  paidAfter o := (s.paidAfter o).or
    (((g.db.shop.orders.rows o).filter fun order => decide order.paymentStatus.isSuccessful).map
      fun _ => s.funnel.dispatched)

/-- The next state; `none` if the order is not paid. -/
def step (s : FunnelState) : FunnelAction → Option FunnelState
  | .growth action => (s.growthState.step action).map (s.moved action)
  | .cartSaved env c => some { s with funnel := syncAbandonedCartTracker env s.funnel c }
  | .sendReminders env => some { s with funnel := processAbandonedCartReminders env s.funnel }
  | .recovered o =>
    match s.paidAfter o, s.funnel.db.shop.orders.rows o with
    | some _, some order => some { s with funnel := markAbandonedCartRecovered s.funnel o order }
    | _, _ => none

/-- A reminder had been sent for the tracker, which is that of the order's cart, when the order was
    paid. -/
def IsReminded (s : FunnelState) (o : OrderId) (t : TrackerId) : Prop :=
  (∃ c ∈ s.cameFrom o, s.funnel.cartOf t = some c) ∧
    ∃ reminders ∈ s.paidAfter o, ∃ reminder ∈ reminders, reminder.tracker = t

instance (s : FunnelState) (o : OrderId) (t : TrackerId) : Decidable (s.IsReminded o t) :=
  inferInstanceAs (Decidable (_ ∧ _))

/-- Whatever is attributed to reminders had one. -/
structure NeedsSms (s : FunnelState) : Prop where
  attributions : ∀ a ∈ s.funnel.db.growth.attributions, a.sourceType = .sms →
    ∃ t, a.sourceId = s!"abandoned_cart:{t}" ∧ s.IsReminded a.order t
  conversions : ∀ conversion ∈ s.funnel.db.growth.smsConversions,
    s.IsReminded conversion.order conversion.tracker

/-- The task for an order that is paid finds a tracker, if any, that was reminded of the order. -/
def RecoversReminded (s : FunnelState) : FunnelAction → Prop
  | .recovered o => ∀ order ∈ s.funnel.db.shop.orders.rows o,
    ∀ t ∈ s.funnel.buyersTracker order, s.IsReminded o t
  | _ => True

instance (s : FunnelState) : ∀ action, Decidable (s.RecoversReminded action)
  | .recovered o => inferInstanceAs (Decidable (∀ order ∈ s.funnel.db.shop.orders.rows o,
    ∀ t ∈ s.funnel.buyersTracker order, s.IsReminded o t))
  | .growth _ | .cartSaved _ _ | .sendReminders _ => isTrue trivial

/-- Every tracker that is recovered was reminded of the order. -/
structure Sound (s : FunnelState) : Prop extends s.NeedsSms where
  recovered : ∀ t o, s.funnel.db.growth.IsRecovered t o → s.IsReminded o t

section Steps

variable {s s' : FunnelState} {o : OrderId} {t : TrackerId}

/-- What is known of the orders stays known, and the trackers keep their carts. -/
structure Remembers (s s' : FunnelState) : Prop where
  carts : ∀ t c, s.funnel.cartOf t = some c → s'.funnel.cartOf t = some c
  cameFrom : ∀ o c, s.cameFrom o = some c → s'.cameFrom o = some c
  paidAfter : ∀ o reminders, s.paidAfter o = some reminders → s'.paidAfter o = some reminders

theorem IsReminded.mono (h : s.IsReminded o t) (hs : s.Remembers s') : s'.IsReminded o t := by
  obtain ⟨⟨c, hcame, hcart⟩, reminders, hpaid, hreminder⟩ := h
  exact ⟨⟨c, hs.cameFrom o c hcame, hs.carts t c hcart⟩, reminders,
    hs.paidAfter o reminders hpaid, hreminder⟩

theorem NeedsSms.mono (h : s.NeedsSms) (hs : s.Remembers s')
    (hattributions : s'.funnel.db.growth.attributions = s.funnel.db.growth.attributions)
    (hconversions : s'.funnel.db.growth.smsConversions = s.funnel.db.growth.smsConversions) :
    s'.NeedsSms where
  attributions a ha htype := by
    obtain ⟨t, hid, hreminded⟩ := h.attributions a (hattributions ▸ ha) htype
    exact ⟨t, hid, hreminded.mono hs⟩
  conversions c hc := (h.conversions c (hconversions ▸ hc)).mono hs

theorem Sound.trail (h : s.Sound) (hs : s.Remembers s')
    (htrail : s.funnel.db.growth.SmsTrail s'.funnel.db.growth) : s'.Sound where
  attributions a ha htype := by
    rcases htrail.attributions a ha htype with hold | ⟨t, hid, hrecovered⟩
    · obtain ⟨t, hid, hreminded⟩ := h.attributions a hold htype
      exact ⟨t, hid, hreminded.mono hs⟩
    · exact ⟨t, hid, (h.recovered t _ hrecovered).mono hs⟩
  conversions c hc := by
    rcases htrail.conversions c hc with hold | hrecovered
    · exact (h.conversions c hold).mono hs
    · exact (h.recovered _ _ hrecovered).mono hs
  recovered t o ho := (h.recovered t o (htrail.recovered t o ho)).mono hs

theorem Remembers.of_keeps {funnel : Funnel} (h : s.funnel.Keeps funnel) :
    s.Remembers { s with funnel } :=
  ⟨h.carts, fun _ _ hc => hc, fun _ _ hr => hr⟩

theorem moved_remembers {action : GrowthAction} {g : GrowthState}
    (h : s.growthState.step action = some g) : s.Remembers (s.moved action g) where
  carts :=
    have hkeeps : s.funnel.Keeps (s.moved action g).funnel :=
      .of_trail (GrowthState.step_smsTrail h) rfl
    hkeeps.carts
  cameFrom o c hc := by simp only [moved, hc, Option.some_or]
  paidAfter o r hr := by simp only [moved, hr, Option.some_or]

/-- The task for a paid order changes no tracker but that of the buyer's cart. -/
theorem Sound.marked {order : Order} (h : s.Sound)
    (hreminded : ∀ t ∈ s.funnel.buyersTracker order, s.IsReminded o t) :
    Sound { s with funnel := markAbandonedCartRecovered s.funnel o order } := by
  rw [markAbandonedCartRecovered]
  cases htracker : s.funnel.buyersTracker order with
  | none => exact h
  | some t =>
    have hs : s.Remembers { s with funnel := s.funnel.modifyTrackers (·.modify t
        ({ · with status := .recovered, recoveredOrder := some o })) } :=
      ⟨fun t' c hc => (Funnel.cartOf_modifyTrackers _ t').trans hc, fun _ _ hc => hc,
        fun _ _ hr => hr⟩
    refine ⟨h.toNeedsSms.mono hs rfl rfl, fun t' o' ho' => ?_⟩
    obtain ⟨tracker, hrow, hstatus, horder⟩ := ho'
    rcases Table.rows_modify_eq_some.1 hrow with ⟨rfl, before, -, rfl⟩ | ⟨-, hsame⟩
    · obtain rfl := Option.some.inj horder
      exact (hreminded t' htracker).mono hs
    · exact (h.recovered t' o' ⟨tracker, hsame, hstatus, horder⟩).mono hs

/-- One step. -/
theorem Sound.step {action : FunnelAction} (h : s.Sound) (hguard : s.RecoversReminded action)
    (hstep : s.step action = some s') : s'.Sound := by
  cases action with
  | growth action =>
    obtain ⟨g, hg, rfl⟩ := Option.map_eq_some_iff.1 hstep
    exact h.trail (moved_remembers hg) (GrowthState.step_smsTrail hg)
  | cartSaved env c =>
    cases hstep
    have hkeeps := syncAbandonedCartTracker_keeps env s.funnel c
    exact h.trail (.of_keeps hkeeps) hkeeps.trail
  | sendReminders env =>
    cases hstep
    have hkeeps := processAbandonedCartReminders_keeps env s.funnel
    exact h.trail (.of_keeps hkeeps) hkeeps.trail
  | recovered o =>
    rw [FunnelState.step] at hstep
    split at hstep
    next order _ hrow =>
      cases hstep
      exact h.marked (hguard order hrow)
    next => cases hstep

/-- As long as the task for a paid order finds no tracker but one that was reminded of the order,
    what is attributed to reminders had one. -/
theorem guarded_needsSms {run : List FunnelAction} (hs : s.Sound)
    (h : Guarded step RecoversReminded s run) : Throughout step NeedsSms s run :=
  (h.throughout (fun _ _ _ hs hguard hstep => hs.step hguard hstep) hs).mono fun _ hs => hs.toNeedsSms

end Steps

/-! ## A cart in the corner shop -/

/-- The corner shop, where the cart is that of the user 0. -/
def userShop : FunnelState where
  funnel :=
    { db :=
        { shop := { cornerShop.shop with
            carts := Table.empty.insert
              { user := some 0, sessionKey := none, activeCheckoutOrder := none } }
          contacts := fun _ => { phone := "1" } } }

/-- The user checks the cart out and pays, and the tasks for the order run. -/
def userCheckout : List FunnelAction :=
  [.growth (.shop (cornerCall (.processCheckout 0 { email := "", phone := "1" } (some 0)
      fun _ _ => {}))),
    .growth (.shop (cornerCallback 0 "OK")), .cartSaved {} 0, .recovered 0,
    .growth (.finalize cornerEnv {} 0)]

/-- Three hours after the last edit of the cart the job runs. -/
def remindedCheckout : List FunnelAction :=
  .cartSaved {} 0 :: .sendReminders { now := hours 3 } :: userCheckout

theorem userShop_sound : userShop.Sound where
  attributions _ ha := nomatch ha
  conversions _ hc := nomatch hc
  recovered _ _ ho := by
    obtain ⟨_, hrow, -⟩ := ho
    exact nomatch hrow

theorem guarded_needsSms_reminded : Throughout step NeedsSms userShop remindedCheckout :=
  guarded_needsSms userShop_sound (by decide +kernel)

/-- The order is paid before any reminder is sent. -/
theorem not_needsSms_unreminded : ¬∀ (s : FunnelState) (run : List FunnelAction), s.Sound →
    Throughout step NeedsSms s run := by
  intro h
  have hpaid : ((.cartSaved {} 0 :: userCheckout).foldlM step userShop).map (fun s =>
      (s.funnel.db.growth.smsConversions, s.paidAfter 0)) =
        some ([{ user := some 0, order := 0, tracker := 0 }], some []) := by
    decide +kernel
  obtain ⟨s, hrun, hs⟩ := Option.map_eq_some_iff.1 hpaid
  obtain ⟨hconversions, hnone⟩ := Prod.mk.inj hs
  have hmem : (⟨some 0, 0, 0⟩ : SmsConversion) ∈ s.funnel.db.growth.smsConversions :=
    hconversions ▸ List.mem_singleton_self _
  have hneeds := (h userShop _ userShop_sound).last hrun
  obtain ⟨-, reminders, hreminders, reminder, hreminder, -⟩ := hneeds.conversions _ hmem
  obtain rfl := Option.some.inj (hnone.symm.trans hreminders)
  exact nomatch hreminder

end FunnelState

end Crumbs
