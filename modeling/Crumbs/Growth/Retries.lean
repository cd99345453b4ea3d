import Crumbs.Db.Retries
import Crumbs.Growth.Outcomes

/-!
# Finalising an Order Again

The task that follows a payment may be run again. Each of its parts has its own way to see that it
has been done: a redemption of the order, the status of the referral, the key of an attribution.
Whatever order the runs come in, only the first one for each order counts.

## Contents

- `latest_map`: the tracker that was updated last is still the last one when it is updated
- `Stage`, `recordForOrder_spec`: the attributions of an order
- `Progress`: what a run may do, seen from the other orders
- `IsDone`, `IsStuck`: nothing is left to do for an order, or nothing can be done
- `finalizeOnPayment_spec`, `finalize_settles`
- `UsesCounted`, `runAll_finalize`: retries change nothing, and the uses of coupons are counted
- `FinalizePart`, `finalizeRun_follows`: what every part of a run keeps is kept by the run
-/

namespace Crumbs

open Crumbs.Db AttributionService ReferralService

/-! ## The tracker of an order -/

section Trackers

variable {env : Env} {growth : Growth} {o : OrderId} {t : TrackerId}
  {l : List (TrackerId × AbandonedCartTracker)} {e : TrackerId × AbandonedCartTracker}
  {f : AbandonedCartTracker → AbandonedCartTracker}

theorem mem_of_latest (h : latest l = some e) : e ∈ l := by
  induction l with
  | nil => cases h
  | cons x rest ih =>
    rw [latest] at h
    cases hrest : latest rest with
    | none =>
      rw [hrest] at h
      exact Option.some.inj h ▸ List.mem_cons_self
    | some e' =>
      simp only [hrest] at h
      split at h
      · exact Option.some.inj h ▸ List.mem_cons_self
      · exact List.mem_cons_of_mem x (ih (hrest.trans h))

/-- The tracker that was updated last is still the last one after it is updated again. -/
theorem latest_map (hnodup : (l.map Prod.fst).Nodup) (h : latest l = some e)
    (hf : ∀ x ∈ l, x.2.updatedAt ≤ (f e.2).updatedAt) :
    latest (l.map fun x => if x.1 = e.1 then (x.1, f x.2) else x) = some (e.1, f e.2) := by
  induction l with
  | nil => cases h
  | cons x rest ih =>
    rw [List.map_cons, List.nodup_cons] at hnodup
    rw [List.map_cons, latest]
    rw [latest] at h
    cases hrest : latest rest with
    | none =>
      rw [hrest] at h
      obtain rfl : x = e := Option.some.inj h
      have hnil : rest = [] := by
        rcases rest with _ | ⟨y, rest⟩
        · rfl
        · rw [latest] at hrest
          split at hrest
          · cases hrest
          · split at hrest <;> cases hrest
      rw [hnil, if_pos rfl]
      rfl
    | some e' =>
      simp only [hrest] at h
      have hrestle : ∀ y ∈ rest, y.2.updatedAt ≤ (f e.2).updatedAt := fun y hy =>
        hf y (List.mem_cons_of_mem x hy)
      by_cases hle : e'.2.updatedAt ≤ x.2.updatedAt
      · rw [if_pos hle] at h
        obtain rfl : x = e := Option.some.inj h
        -- the rest has no row with this key
        have hsame : (rest.map fun y => if y.1 = x.1 then (y.1, f y.2) else y) = rest := by
          refine (List.map_congr_left fun y hy => ?_).trans (List.map_id rest)
          exact if_neg fun heq : y.1 = x.1 => hnodup.1 (heq ▸ List.mem_map_of_mem hy)
        simp only [hsame, hrest, if_pos]
        exact if_pos (hrestle e' (mem_of_latest hrest))
      · rw [if_neg hle] at h
        obtain rfl : e' = e := Option.some.inj h
        have hmem := mem_of_latest hrest
        have hne : x.1 ≠ e'.1 := fun heq => hnodup.1 (heq ▸ List.mem_map_of_mem hmem)
        simp only [ih hnodup.2 hrest hrestle, if_neg hne]
        refine if_neg fun hle' => hle ?_
        exact (hrestle e' hmem).trans hle'

/-- No tracker was updated after `now`. -/
def Growth.StampedBy (growth : Growth) (now : Time) : Prop :=
  ∀ t tracker, growth.trackers.rows t = some tracker → tracker.updatedAt ≤ now

theorem recoveredTracker_of_trackerOf {order : OrderInstance} (h : trackerOf order growth = some e) :
    recoveredTracker growth order.id = some e := by
  obtain ⟨user, -, htracker⟩ := Option.bind_eq_some_iff.1 h
  exact htracker

theorem recoveredTracker_converted {order : OrderInstance} (hstamps : growth.StampedBy env.now)
    (h : recoveredTracker growth order.id = some e) :
    recoveredTracker (convertedGrowth env order e.1 growth) order.id =
      some (e.1, converted env.now e.2) := by
  rw [recoveredTracker, convertedGrowth]
  rw [Table.filter_modify _ _ _ (converted env.now) fun _ _ => rfl]
  refine latest_map (Table.nodup_filter _ _) h fun x hx => ?_
  exact hstamps x.1 x.2 (Table.mem_filter.1 hx).1

/-- The trackers of other orders are not touched. -/
theorem recoveredTracker_converted_ne {order : OrderInstance}
    (h : recoveredTracker growth order.id = some e) (hne : o ≠ order.id) :
    recoveredTracker (convertedGrowth env order e.1 growth) o = recoveredTracker growth o := by
  obtain ⟨hrow, hmatch⟩ := Table.mem_filter.1 (mem_of_latest h)
  have hother : ¬(e.2.recoveredOrder = some o ∧ e.2.status = .recovered) := fun hboth =>
    hne (Option.some.inj (hboth.1.symm.trans (of_decide_eq_true hmatch).1))
  rw [recoveredTracker, convertedGrowth]
  rw [Table.filter_modify _ _ _ (converted env.now) fun _ _ => rfl]
  refine congrArg latest ((List.map_congr_left fun x hx => if_neg fun heq => ?_).trans
    (List.map_id _))
  obtain ⟨hrow', hmatch'⟩ := Table.mem_filter.1 hx
  rw [heq, hrow] at hrow'
  exact hother (Option.some.inj hrow' ▸ of_decide_eq_true hmatch')

end Trackers

/-! ## The attributions of an order -/

/-- What the revenue of an order is attributed to. -/
def sources (order : OrderInstance) (growth : Growth) : List (SourceType × String) :=
  (couponAttribution order growth).toList.map (·.source) ++
    ((referralAttribution order growth).toList.map (·.source) ++
      ((promotionAttribution order growth).toList.map (·.source) ++
        (trackerOf order growth).toList.map fun e => (smsAttribution order e).source))

theorem mem_sources {order : OrderInstance} {growth : Growth} {source : SourceType × String} :
    source ∈ sources order growth ↔
      (∃ a, couponAttribution order growth = some a ∧ a.source = source) ∨
      (∃ a, referralAttribution order growth = some a ∧ a.source = source) ∨
      (∃ a, promotionAttribution order growth = some a ∧ a.source = source) ∨
      ∃ e, trackerOf order growth = some e ∧ (smsAttribution order e).source = source := by
  simp only [sources, List.mem_append, List.mem_map, Option.mem_toList]

/-- Some attributions of an order to sources of the given types have been made. -/
structure Stage (o : OrderId) (types : List SourceType) (g g' : Growth) : Prop where
  same : g' = { g with attributions := g'.attributions }
  attributions : ∃ new, g'.attributions = g.attributions ++ new ∧
    ∀ a ∈ new, a.order = o ∧ a.sourceType ∈ types

section Attributions

variable {env : Env} {order : OrderInstance} {o : OrderId} {types : List SourceType}
  {g g' : Growth} {source : SourceType × String} {w : GrowthWorld}

/-- Attributions stay. -/
theorem length_rows_le (h : g.attributions <+: g'.attributions) :
    (rows g o source).length ≤ (rows g' o source).length := (h.filter _).length_le

theorem rows_ne_nil (h : g.attributions <+: g'.attributions) (hne : rows g o source ≠ []) :
    rows g' o source ≠ [] :=
  List.ne_nil_of_length_pos ((List.length_pos_of_ne_nil hne).trans_le (length_rows_le h))

theorem rows_append_self (a : RevenueAttribution) : rows (append g a) a.order a.source ≠ [] := by
  rw [rows, append, List.filter_append]
  refine fun hnil => ?_
  have hlast := (List.append_eq_nil_iff.1 hnil).2
  exact List.filter_eq_nil_iff.1 hlast a List.mem_cons_self (decide_eq_true ⟨rfl, rfl⟩)

namespace Stage

theorem refl (o : OrderId) (g : Growth) : Stage o [] g g :=
  ⟨rfl, [], (List.append_nil _).symm, fun _ ha => absurd ha List.not_mem_nil⟩

theorem append {a : RevenueAttribution} (h : Stage o types g g') (ha : a.order = o) :
    Stage o (a.sourceType :: types) g (AttributionService.append g' a) := by
  obtain ⟨new, hnew, htypes⟩ := h.attributions
  refine ⟨?_, new ++ [a], ?_, fun b hb => ?_⟩
  · rw [AttributionService.append, h.same]
  · rw [AttributionService.append, hnew, List.append_assoc]
  · rcases List.mem_append.1 hb with hb | hb
    · exact ⟨(htypes b hb).1, List.mem_cons_of_mem _ (htypes b hb).2⟩
    · obtain rfl := List.mem_singleton.1 hb
      exact ⟨ha, List.mem_cons_self⟩

theorem cons (h : Stage o types g g') (type : SourceType) : Stage o (type :: types) g g' := by
  obtain ⟨new, hnew, htypes⟩ := h.attributions
  exact ⟨h.same, new, hnew, fun a ha => ⟨(htypes a ha).1, List.mem_cons_of_mem _ (htypes a ha).2⟩⟩

/-- The other types are as they were. -/
theorem rows_eq (h : Stage o types g g') (htype : source.1 ∉ types) :
    rows g' o source = rows g o source := by
  obtain ⟨new, hnew, htypes⟩ := h.attributions
  have hnone : new.filter (fun b => b.order = o ∧ b.source = source) = [] := by
    refine List.filter_eq_nil_iff.2 fun a ha hmatch => htype ?_
    have hsource : a.source = source := (of_decide_eq_true hmatch).2
    exact hsource ▸ (htypes a ha).2
  rw [rows, rows, hnew, List.filter_append, hnone, List.append_nil]

end Stage

/-- One kind of attribution: it is there afterwards, unless `get` fails. -/
theorem attributeOnce_stage {attribution : Growth → Option RevenueAttribution} {type : SourceType}
    (hsource : ∀ g a, attribution g = some a → a.order = o ∧ a.sourceType = type)
    (hsame : ∀ g attributions, attribution { g with attributions } = attribution g)
    (hstage : Stage o types g w.db.growth) (htype : type ∉ types) :
    (attributeOnce attribution).wp
      (fun _ w' => ∃ g', w' = withGrowth w g' ∧ Stage o (type :: types) g g' ∧
        w.db.growth.attributions <+: g'.attributions ∧ ∀ a, attribution g = some a →
          rows g' o a.source ≠ [] ∧ (rows g o a.source).length < 2)
      (fun _ _ => ∃ a, attribution g = some a ∧ 2 ≤ (rows g o a.source).length) w := by
  have hattribution : attribution w.db.growth = attribution g := by
    rw [hstage.same]
    exact hsame g _
  rcases attributeOnce_cases attribution w with ⟨hnone, hrun⟩ | ⟨a, hsome, hcases⟩
  · refine (Tx.wp_iff_of_ok hrun).2 ⟨w.db.growth, rfl, hstage.cons type, List.prefix_refl _,
      fun a ha => ?_⟩
    cases hnone.symm.trans (hattribution.trans ha)
  · obtain ⟨ho, ht⟩ := hsource _ a hsome
    subst ho ht
    have hrows : rows w.db.growth a.order a.source = rows g a.order a.source := hstage.rows_eq htype
    have hfirst : ∀ b, attribution g = some b → b = a := fun b hb =>
      Option.some.inj (hb.symm.trans (hattribution.symm.trans hsome))
    rw [hrows] at hcases
    rcases hcases with ⟨hnone, hrun⟩ | ⟨b, hone, hrun⟩ | ⟨hmany, e, hrun⟩
    · refine (Tx.wp_iff_of_ok hrun).2 ⟨_, rfl, hstage.append rfl, List.prefix_append _ _,
        fun b hb => ?_⟩
      rw [hfirst b hb, hnone]
      exact ⟨rows_append_self a, Nat.zero_lt_two⟩
    · refine (Tx.wp_iff_of_ok hrun).2 ⟨w.db.growth, rfl, hstage.cons _, List.prefix_refl _,
        fun b' hb => ?_⟩
      rw [hfirst b' hb, hrows, hone]
      exact ⟨List.cons_ne_nil _ _, Nat.one_lt_two⟩
    · exact (Tx.wp_iff_of_error hrun).2 ⟨a, hattribution.symm.trans hsome, hmany⟩

theorem couponAttribution_source {a : RevenueAttribution} (h : couponAttribution order g = some a) :
    a.order = order.id ∧ a.sourceType = .coupon := by
  rw [couponAttribution] at h
  split at h
  · cases h
  · obtain ⟨coupon, -, rfl⟩ := Option.map_eq_some_iff.1 h
    exact ⟨rfl, rfl⟩

theorem referralAttribution_source {a : RevenueAttribution}
    (h : referralAttribution order g = some a) : a.order = order.id ∧ a.sourceType = .referral := by
  rw [referralAttribution] at h
  split at h
  · cases h
  · exact Option.some.inj h ▸ ⟨rfl, rfl⟩

theorem promotionAttribution_source {a : RevenueAttribution}
    (h : promotionAttribution order g = some a) :
    a.order = order.id ∧ a.sourceType = .promotion := by
  rw [promotionAttribution] at h
  split at h
  · cases h
  · exact Option.some.inj h ▸ ⟨rfl, rfl⟩

/-- The last kind of attribution, after the others have led from `g` to `g₁`. -/
structure SmsStage (env : Env) (order : OrderInstance) (g g₁ g' : Growth) : Prop where
  same : g' = { g with
    attributions := g'.attributions, trackers := g'.trackers, smsConversions := g'.smsConversions }
  attributions : g₁.attributions <+: g'.attributions
  attributed : ∀ e, trackerOf order g = some e →
    rows g' order.id (smsAttribution order e).source ≠ [] ∧
      (rows g order.id (smsAttribution order e).source).length < 2
  trackers : g'.trackers = g.trackers ∨ ∃ e, trackerOf order g = some e ∧
    g'.trackers = g.trackers.modify e.1 (converted env.now)

theorem attributeSms_stage (hstage : Stage order.id types g w.db.growth) (htype : .sms ∉ types) :
    (attributeSms env order).wp
      (fun _ w' => ∃ g', w' = withGrowth w g' ∧ SmsStage env order g w.db.growth g')
      (fun _ _ => ∃ e, trackerOf order g = some e ∧
        2 ≤ (rows g order.id (smsAttribution order e).source).length) w := by
  have htrackers : w.db.growth.trackers = g.trackers := by rw [hstage.same]
  have hof : trackerOf order w.db.growth = trackerOf order g := by
    rw [trackerOf, recoveredTracker, htrackers]
    rfl
  rcases attributeSms_cases env order w with ⟨hnone, hrun⟩ | ⟨e, hsome, hcases⟩
  · refine (Tx.wp_iff_of_ok hrun).2 ⟨w.db.growth, rfl, ?_, List.prefix_refl _, fun e he => ?_,
      .inl htrackers⟩
    · rw [hstage.same]
    · cases hnone.symm.trans (hof.trans he)
  · have hrows : rows w.db.growth order.id (smsAttribution order e).source =
        rows g order.id (smsAttribution order e).source := hstage.rows_eq htype
    have hsome' : trackerOf order g = some e := hof.symm.trans hsome
    change (rows w.db.growth order.id _ = [] ∧ _) ∨ (∃ b, rows w.db.growth order.id _ = [b] ∧ _) ∨
      2 ≤ (rows w.db.growth order.id _).length ∧ _ at hcases
    rw [hrows] at hcases
    rcases hcases with ⟨hnone, hrun⟩ | ⟨b, hone, hrun⟩ | ⟨hmany, exc, hrun⟩
    · have hself := rows_append_self (g := w.db.growth) (smsAttribution order e)
      refine (Tx.wp_iff_of_ok hrun).2 ⟨_, rfl, ?_⟩
      split
      · refine ⟨?_, List.prefix_append _ _, fun e' he' => ?_, .inr ⟨e, hsome', ?_⟩⟩
        · rw [convertedGrowth, AttributionService.append, hstage.same]
        · obtain rfl := Option.some.inj (hsome'.symm.trans he')
          exact ⟨hself, hnone ▸ Nat.zero_lt_two⟩
        · rw [convertedGrowth, AttributionService.append, htrackers]
      · refine ⟨?_, List.prefix_append _ _, fun e' he' => ?_, .inl htrackers⟩
        · rw [AttributionService.append, hstage.same]
        · obtain rfl := Option.some.inj (hsome'.symm.trans he')
          exact ⟨hself, hnone ▸ Nat.zero_lt_two⟩
    · refine (Tx.wp_iff_of_ok hrun).2 ⟨w.db.growth, rfl, ?_, List.prefix_refl _, fun e' he' => ?_,
        .inl htrackers⟩
      · rw [hstage.same]
      · obtain rfl := Option.some.inj (hsome'.symm.trans he')
        rw [hrows, hone]
        exact ⟨List.cons_ne_nil _ _, Nat.one_lt_two⟩
    · exact (Tx.wp_iff_of_error hrun).2 ⟨e, hsome', hmany⟩

/-- What is recorded for an order: all its sources, and the conversion of its tracker. -/
structure Recorded (env : Env) (order : OrderInstance) (g g' : Growth) : Prop where
  same : g' = { g with
    attributions := g'.attributions, trackers := g'.trackers, smsConversions := g'.smsConversions }
  attributions : g.attributions <+: g'.attributions
  attributed : ∀ source ∈ sources order g, rows g' order.id source ≠ []
  single : ∀ source ∈ sources order g, (rows g order.id source).length < 2
  trackers : g'.trackers = g.trackers ∨ ∃ e, trackerOf order g = some e ∧
    g'.trackers = g.trackers.modify e.1 (converted env.now)

/-- What one stage has attributed is there after the later ones. -/
theorem recorded_of_stages {g₁ g₂ g₃ g₄ : Growth} (h₁ : Stage order.id types g g₁)
    (h₂ : g₁.attributions <+: g₂.attributions) (h₃ : g₂.attributions <+: g₃.attributions)
    (h₄ : SmsStage env order g g₃ g₄)
    (hcoupon : ∀ a, couponAttribution order g = some a →
      rows g₁ order.id a.source ≠ [] ∧ (rows g order.id a.source).length < 2)
    (hreferral : ∀ a, referralAttribution order g = some a →
      rows g₂ order.id a.source ≠ [] ∧ (rows g order.id a.source).length < 2)
    (hpromotion : ∀ a, promotionAttribution order g = some a →
      rows g₃ order.id a.source ≠ [] ∧ (rows g order.id a.source).length < 2) :
    Recorded env order g g₄ := by
  have hfirst : g.attributions <+: g₁.attributions := by
    obtain ⟨new, hnew, -⟩ := h₁.attributions
    exact ⟨new, hnew.symm⟩
  have hlast := h₄.attributions
  refine ⟨h₄.same, ((hfirst.trans h₂).trans h₃).trans hlast, fun source hsource => ?_,
    fun source hsource => ?_, h₄.trackers⟩
  · rcases mem_sources.1 hsource with ⟨a, ha, rfl⟩ | ⟨a, ha, rfl⟩ | ⟨a, ha, rfl⟩ | ⟨e, he, rfl⟩
    · exact rows_ne_nil ((h₂.trans h₃).trans hlast) (hcoupon a ha).1
    · exact rows_ne_nil (h₃.trans hlast) (hreferral a ha).1
    · exact rows_ne_nil hlast (hpromotion a ha).1
    · exact (h₄.attributed e he).1
  · rcases mem_sources.1 hsource with ⟨a, ha, rfl⟩ | ⟨a, ha, rfl⟩ | ⟨a, ha, rfl⟩ | ⟨e, he, rfl⟩
    · exact (hcoupon a ha).2
    · exact (hreferral a ha).2
    · exact (hpromotion a ha).2
    · exact (h₄.attributed e he).2

/-- All sources of the order are attributed, unless one of them was attributed twice before. -/
theorem recordForOrder_spec (env : Env) (order : OrderInstance) (w : GrowthWorld) :
    (recordForOrder env order).wp
      (fun _ w' => ∃ g', w' = withGrowth w g' ∧ Recorded env order w.db.growth g')
      (fun _ _ => ∃ source ∈ sources order w.db.growth,
        2 ≤ (rows w.db.growth order.id source).length) w := by
  refine Tx.wp_atomic.2 (Tx.wp_seq (attributeOnce_stage (fun _ _ => couponAttribution_source)
    (fun _ _ => rfl) (.refl _ _) List.not_mem_nil) ?_ ?_)
  · rintro coupon _ ⟨g₁, rfl, h₁, -, hcoupon⟩
    refine Tx.wp_seq (attributeOnce_stage (fun _ _ => referralAttribution_source)
      (fun _ _ => rfl) h₁ (by decide)) ?_ ?_
    · rintro referral _ ⟨g₂, rfl, h₂, hle₂, hreferral⟩
      refine Tx.wp_seq (attributeOnce_stage (fun _ _ => promotionAttribution_source)
        (fun _ _ => rfl) h₂ (by decide)) ?_ ?_
      · rintro promotion _ ⟨g₃, rfl, h₃, hle₃, hpromotion⟩
        refine Tx.wp_seq (attributeSms_stage h₃ (by decide)) ?_ ?_
        · rintro sms _ ⟨g₄, rfl, h₄⟩
          exact ⟨g₄, rfl, recorded_of_stages h₁ hle₂ hle₃ h₄ hcoupon hreferral hpromotion⟩
        · rintro _ _ ⟨e, he, hmany⟩
          exact ⟨_, mem_sources.2 (.inr (.inr (.inr ⟨e, he, rfl⟩))), hmany⟩
      · rintro _ _ ⟨a, ha, hmany⟩
        exact ⟨_, mem_sources.2 (.inr (.inr (.inl ⟨a, ha, rfl⟩))), hmany⟩
    · rintro _ _ ⟨a, ha, hmany⟩
      exact ⟨_, mem_sources.2 (.inr (.inl ⟨a, ha, rfl⟩)), hmany⟩
  · rintro _ _ ⟨a, ha, hmany⟩
    exact ⟨_, mem_sources.2 (.inl ⟨a, ha, rfl⟩), hmany⟩

end Attributions

/-! ## What a run may do -/

/-- The new redemptions are of orders that had none, one for each, and are counted as uses. -/
def CountsUses (g g' : Growth) : Prop :=
  ∃ new, g'.redemptions = g.redemptions ++ new ∧ (new.map (·.order)).Nodup ∧
    (∀ r ∈ new, ∀ r' ∈ g.redemptions, r'.order ≠ r.order) ∧
    ∀ c coupon, g.coupons.rows c = some coupon → g'.coupons.rows c =
      some { coupon with usageCount := coupon.usageCount + new.countP (·.coupon = c) }

/-- A run for `order` does not undo what has been done for other orders. -/
structure Progress (env : Env) (shop : Shop) (order : OrderInstance) (g g' : Growth) : Prop where
  codes : g'.referralCodes = g.referralCodes
  columns : g'.orderGrowth = g.orderGrowth
  uses : CountsUses g g'
  attributions : g.attributions <+: g'.attributions
  pending : ∀ u, pendingReferral g u = none → pendingReferral g' u = none
  referred : ∀ u, (g.referrals.rows u).isSome → (g'.referrals.rows u).isSome
  trackers : ∀ o, o ≠ order.id → recoveredTracker g' o = recoveredTracker g o
  valued : ∀ u, g'.clvProfiles u = g.clvProfiles u ∨
    g'.clvProfiles u = some (CLVService.profile (CLVService.paidOrders shop u))
  stamps : ∀ t tracker, g'.trackers.rows t = some tracker →
    tracker.updatedAt = env.now ∨ g.trackers.rows t = some tracker

theorem CountsUses.refl (g : Growth) : CountsUses g g := by
  refine ⟨[], (List.append_nil _).symm, List.nodup_nil, fun _ hr => absurd hr List.not_mem_nil, ?_⟩
  exact fun c coupon hrow => hrow

theorem CountsUses.of_same {g g' : Growth} (hredemptions : g'.redemptions = g.redemptions)
    (hcoupons : g'.coupons = g.coupons) : CountsUses g g' := by
  obtain ⟨new, hnew, hnodup, hfresh, hcounts⟩ := CountsUses.refl g
  exact ⟨new, hredemptions.trans hnew, hnodup, hfresh, hcoupons ▸ hcounts⟩

theorem CountsUses.trans {g g₁ g₂ : Growth} (h : CountsUses g g₁) (h' : CountsUses g₁ g₂) :
    CountsUses g g₂ := by
  obtain ⟨new, hnew, hnodup, hfresh, hcounts⟩ := h
  obtain ⟨new', hnew', hnodup', hfresh', hcounts'⟩ := h'
  rw [hnew] at hnew' hfresh'
  refine ⟨new ++ new', by rw [hnew', List.append_assoc], ?_, fun r hr r' hr' => ?_,
    fun c coupon hrow => ?_⟩
  · rw [List.map_append]
    refine List.nodup_append.2 ⟨hnodup, hnodup', ?_⟩
    rintro _ ho _ ho' rfl
    obtain ⟨r, hr, rfl⟩ := List.mem_map.1 ho
    obtain ⟨r', hr', hsame⟩ := List.mem_map.1 ho'
    exact hfresh' r' hr' r (List.mem_append_right _ hr) hsame.symm
  · rcases List.mem_append.1 hr with hr | hr
    · exact hfresh r hr r' hr'
    · exact hfresh' r hr r' (List.mem_append_left _ hr')
  · rw [hcounts' c _ (hcounts c coupon hrow), List.countP_append, Nat.add_assoc]

section Progress

variable {env : Env} {settings : GrowthSettings} {shop : Shop} {order : OrderInstance}
  {g g₁ g₂ : Growth}

namespace Progress

theorem refl (g : Growth) : Progress env shop order g g :=
  ⟨rfl, rfl, .refl g, List.prefix_refl _, fun _ h => h, fun _ h => h, fun _ _ => rfl,
    fun _ => .inl rfl, fun _ _ h => .inr h⟩

theorem trans (h : Progress env shop order g g₁) (h' : Progress env shop order g₁ g₂) :
    Progress env shop order g g₂ where
  codes := h'.codes.trans h.codes
  columns := h'.columns.trans h.columns
  uses := h.uses.trans h'.uses
  attributions := h.attributions.trans h'.attributions
  pending u hu := h'.pending u (h.pending u hu)
  referred u hu := h'.referred u (h.referred u hu)
  trackers o ho := (h'.trackers o ho).trans (h.trackers o ho)
  valued u := by
    rcases h'.valued u with hsame | hnew
    · rw [hsame]
      exact h.valued u
    · exact .inr hnew
  stamps t tracker hrow := by
    rcases h'.stamps t tracker hrow with hnow | hold
    · exact .inl hnow
    · exact h.stamps t tracker hold

theorem redeemed {coupon : CouponId} {user : Option UserId}
    (h : ∀ r ∈ g.redemptions, r.order ≠ order.id) :
    Progress env shop order g (CouponService.redeemedGrowth coupon order user g) := by
  refine { refl g with uses := ⟨[CouponService.newRedemption coupon order user], rfl, ?_, ?_, ?_⟩ }
  · exact List.nodup_singleton _
  · intro r hr r' hr'
    obtain rfl := List.mem_singleton.1 hr
    exact h r' hr'
  · intro c row hrow
    change (g.coupons.modify coupon _).rows c = _
    rw [Table.rows_modify]
    by_cases hc : c = coupon
    · subst hc
      rw [if_pos rfl, hrow, List.countP_cons_of_pos (by exact decide_eq_true rfl)]
      rfl
    · rw [if_neg hc, hrow, List.countP_cons_of_neg fun hmatch => hc (of_decide_eq_true hmatch).symm]
      rfl

theorem rewarded {user : UserId} {referral : Referral} :
    Progress env shop order g (rewardedGrowth env settings order user referral g) := by
  refine { refl g with uses := .of_same rfl rfl, pending := fun u hu => ?_, referred := fun u hu => ?_ }
  · rw [pendingReferral, rewardedGrowth]
    by_cases hu' : u = user
    · subst hu'
      rw [Keyed.rows_put_self]
      rfl
    · rw [Keyed.rows_put_ne _ _ hu']
      exact hu
  · rw [rewardedGrowth]
    by_cases hu' : u = user
    · subst hu'
      rw [Keyed.rows_put_self]
      rfl
    · rwa [Keyed.rows_put_ne _ _ hu']

theorem recorded (h : Recorded env order g g₁) : Progress env shop order g g₁ := by
  have hsame := h.same
  refine ⟨by rw [hsame], by rw [hsame], .of_same (by rw [hsame]) (by rw [hsame]), h.attributions,
    fun u hu => ?_, fun u hu => ?_, fun o ho => ?_, fun u => .inl (by rw [hsame]),
    fun t tracker hrow => ?_⟩
  · rwa [pendingReferral, hsame]
  · rwa [hsame]
  · rcases h.trackers with hkept | ⟨e, he, hconverted⟩
    · rw [recoveredTracker, hkept]
      rfl
    · rw [recoveredTracker, hconverted]
      exact recoveredTracker_converted_ne (recoveredTracker_of_trackerOf he) ho
  · rcases h.trackers with hkept | ⟨e, -, hconverted⟩
    · exact .inr (hkept ▸ hrow)
    · rw [hconverted, Table.rows_modify] at hrow
      split at hrow
      next =>
        obtain ⟨before, -, rfl⟩ := Option.map_eq_some_iff.1 hrow
        exact .inl rfl
      next => exact .inr hrow

theorem valuedAt {user : UserId} : Progress env shop order g { g with
    clvProfiles := fun u =>
      if u = user then some (CLVService.profile (CLVService.paidOrders shop user))
      else g.clvProfiles u } := by
  have hrefl : Progress env shop order g g := refl g
  refine { hrefl with uses := .of_same rfl rfl, valued := fun u => ?_ }
  by_cases hu : u = user
  · subst hu
    exact .inr (if_pos rfl)
  · exact .inl (if_neg hu)

end Progress

end Progress

/-! ## One order -/

/-- Nothing is left to do for the order. -/
structure IsDone (shop : Shop) (order : OrderInstance) (g : Growth) : Prop where
  redeemed : ∀ c, order.coupon = some c → ∃ r ∈ g.redemptions, r.order = order.id
  noReward : NoReward order g
  attributed : ∀ source ∈ sources order g, rows g order.id source ≠ []
  valued : ∀ u, order.user = some u →
    g.clvProfiles u = some (CLVService.profile (CLVService.paidOrders shop u))

/-- A source of the order is attributed twice. -/
def HasDouble (order : OrderInstance) (g : Growth) : Prop :=
  ∃ source ∈ sources order g, 2 ≤ (rows g order.id source).length

/-- Every run for the order raises: `get` finds two codes, or two attributions. -/
def IsStuck (order : OrderInstance) (g : Growth) : Prop :=
  CodeIsAmbiguous order g ∨ HasDouble order g

section Order

variable {env : Env} {settings : GrowthSettings} {shop : Shop} {order : OrderInstance}
  {g g' : Growth} {w : GrowthWorld}

/-- Only the tracker of the order matters to its sources. -/
theorem sources_congr (h : (trackerOf order g').map Prod.fst = (trackerOf order g).map Prod.fst) :
    sources order g' = sources order g := by
  have hcoupon : (couponAttribution order g').toList.map (·.source) =
      (couponAttribution order g).toList.map (·.source) := by
    rw [couponAttribution, couponAttribution]
    split
    · rfl
    · cases order.coupon <;> rfl
  have hreferral : (referralAttribution order g').toList.map (·.source) =
      (referralAttribution order g).toList.map (·.source) := by
    rw [referralAttribution, referralAttribution]
    split <;> rfl
  have hsms : ((trackerOf order g').toList.map fun e => (smsAttribution order e).source) =
      (trackerOf order g).toList.map fun e => (smsAttribution order e).source := by
    have hkeys (o : Option (TrackerId × AbandonedCartTracker)) :
        (o.toList.map fun e => (smsAttribution order e).source) =
          (o.map Prod.fst).toList.map fun t => (SourceType.sms, s!"abandoned_cart:{t}") := by
      cases o <;> rfl
    rw [hkeys, hkeys, h]
  rw [sources, sources, hcoupon, hreferral, hsms]
  rfl

/-- The tracker of the order is still its tracker when its conversion is on record. -/
theorem sources_recorded (hstamps : g.StampedBy env.now) (h : Recorded env order g g') :
    sources order g' = sources order g := by
  refine sources_congr ?_
  rcases h.trackers with hkept | ⟨e, he, hconverted⟩
  · rw [trackerOf, recoveredTracker, hkept]
    rfl
  · have hafter : trackerOf order g' = some (e.1, converted env.now e.2) := by
      obtain ⟨user, huser, htracker⟩ := Option.bind_eq_some_iff.1 he
      rw [trackerOf, huser, recoveredTracker, hconverted]
      exact recoveredTracker_converted hstamps htracker
    rw [hafter, he]
    rfl

theorem hasDouble_congr (hattributions : g'.attributions = g.attributions)
    (htrackers : g'.trackers = g.trackers) : HasDouble order g' ↔ HasDouble order g := by
  have hsources : sources order g' = sources order g := by
    refine sources_congr ?_
    rw [trackerOf, recoveredTracker, htrackers]
    rfl
  simp only [HasDouble, hsources, rows, hattributions]

/-- The coupon of the order is redeemed, or was before. -/
theorem redeem_step (shop : Shop) (env : Env) (order : OrderInstance) (w : GrowthWorld) :
    ∃ r, GrowthCheckoutFacade.redeemCoupon order w =
        (.ok r, withGrowth w (redeemedBy order w.db.growth)) ∧
      Progress env shop order w.db.growth (redeemedBy order w.db.growth) ∧
      (IsStuck order (redeemedBy order w.db.growth) ↔ IsStuck order w.db.growth) ∧
        (redeemedBy order w.db.growth).trackers = w.db.growth.trackers ∧
          ∀ c, order.coupon = some c →
            ∃ r ∈ (redeemedBy order w.db.growth).redemptions, r.order = order.id := by
  rw [GrowthCheckoutFacade.redeemCoupon]
  cases hcoupon : order.coupon with
  | none =>
    rw [redeemedBy_of_none hcoupon]
    exact ⟨none, rfl, .refl _, .rfl, rfl, fun _ h => nomatch h⟩
  | some coupon =>
    rcases CouponService.redeem_cases coupon order order.user w with ⟨r, hr, ho, hrun⟩ | ⟨hfresh, hrun⟩
    · rw [redeemedBy_of_mem hr ho]
      exact ⟨some r, Tx.bind_of_ok hrun, .refl _, .rfl, rfl, fun _ _ => ⟨r, hr, ho⟩⟩
    · rw [redeemedBy_of_fresh hcoupon hfresh]
      refine ⟨_, Tx.bind_of_ok hrun, .redeemed hfresh, ?_, rfl, fun _ _ => ?_⟩
      · exact or_congr .rfl (hasDouble_congr rfl rfl)
      · exact ⟨_, List.mem_append_right _ List.mem_cons_self, rfl⟩

/-- A referral of the buyer is rewarded, or there is none to be rewarded. -/
theorem referral_step (shop : Shop) (env : Env) (settings : GrowthSettings) (order : OrderInstance)
    (w : GrowthWorld) :
    (¬CodeIsAmbiguous order w.db.growth ∧ ∃ r g,
      ReferralService.finalizeOnPayment env settings order w = (.ok r, withGrowth w g) ∧
        Progress env shop order w.db.growth g ∧ NoReward order g ∧
          g.uses = w.db.growth.uses ∧ g.trackers = w.db.growth.trackers ∧
            g.attributions = w.db.growth.attributions) ∨
    CodeIsAmbiguous order w.db.growth ∧
      ∃ e, ReferralService.finalizeOnPayment env settings order w = (.error e, w) := by
  rcases finalizeOnPayment_cases env settings order w with
    ⟨hclear, ⟨user, referral, huser, -, -, hrun⟩ | ⟨hnone, hrun⟩⟩ | herror
  · refine .inl ⟨hclear, _, _, hrun, .rewarded, fun u hu _ => ?_, rfl, rfl, rfl⟩
    obtain rfl := Option.some.inj (huser.symm.trans hu)
    have hrow : (rewardedGrowth env settings order user referral w.db.growth).referrals.rows user =
        some (rewarded env settings order w.db.growth referral) := Keyed.rows_put_self _ _ _
    rw [pendingReferral, hrow]
    exact ⟨rfl, .inr (.inr rfl)⟩
  · exact .inl ⟨hclear, _, _, hrun, .refl _, hnone, rfl, rfl, rfl⟩
  · exact .inr herror

/-- The value of the buyer is worked out. -/
theorem clv_step (env : Env) (order : OrderInstance) (w : GrowthWorld) :
    ∃ g, Tx.ifSome order.user (fun user => Tx.void (CLVService.calculateForUser user)) w =
        (.ok (), withGrowth w g) ∧
      Progress env w.db.shop order w.db.growth g ∧
        g = { w.db.growth with clvProfiles := g.clvProfiles } ∧ ∀ u, order.user = some u →
          g.clvProfiles u = some (CLVService.profile (CLVService.paidOrders w.db.shop u)) := by
  cases order.user with
  | none => exact ⟨w.db.growth, rfl, .refl _, rfl, fun _ h => nomatch h⟩
  | some user =>
    refine ⟨_, rfl, .valuedAt, rfl, fun u hu => ?_⟩
    obtain rfl := Option.some.inj hu
    exact if_pos rfl

theorem isDone_of_recorded {g₂ g₃ g₄ : Growth} (hstamps : g₂.StampedBy env.now)
    (h : Recorded env order g₂ g₃) (hsame : g₄ = { g₃ with clvProfiles := g₄.clvProfiles })
    (hredeemed : ∀ c, order.coupon = some c → ∃ r ∈ g₂.redemptions, r.order = order.id)
    (hnoReward : NoReward order g₂) (hvalued : ∀ u, order.user = some u →
      g₄.clvProfiles u = some (CLVService.profile (CLVService.paidOrders shop u))) :
    IsDone shop order g₄ := by
  have hsources : sources order g₄ = sources order g₂ := by
    rw [← sources_recorded hstamps h, hsame]
    exact sources_congr rfl
  refine ⟨?_, ?_, ?_, hvalued⟩
  · rw [hsame, h.same]
    exact hredeemed
  · rw [hsame, h.same]
    exact hnoReward
  · rw [hsources, hsame]
    exact h.attributed

/-- A run does everything there is to do for the order, or raises because the order is stuck. -/
theorem finalizeOnPayment_spec (env : Env) (settings : GrowthSettings) (order : OrderInstance)
    (w : GrowthWorld) :
    (GrowthCheckoutFacade.finalizeOnPayment env settings order).wp
      (fun _ w' => ∃ g, w' = withGrowth w g ∧ Progress env w.db.shop order w.db.growth g ∧
        g.uses = (redeemedBy order w.db.growth).uses ∧ ¬IsStuck order w.db.growth ∧
          (w.db.growth.StampedBy env.now → IsDone w.db.shop order g))
      (fun _ w' => w'.db = w.db ∧ IsStuck order w.db.growth) w := by
  obtain ⟨r₁, hrun₁, hp₁, hstuck, htrackers₁, hredeemed⟩ := redeem_step w.db.shop env order w
  refine Tx.wp_atomic.2 (Tx.wp_bind.2 ((Tx.wp_iff_of_ok hrun₁).2 ?_))
  rcases referral_step w.db.shop env settings order
      (withGrowth w (redeemedBy order w.db.growth)) with
    ⟨hclear, r₂, g₂, hrun₂, hp₂, hnoReward, huses₂, htrackers₂, hattributions₂⟩ |
    ⟨hambiguous, e, herror⟩
  · refine Tx.wp_bind.2 ((Tx.wp_iff_of_ok hrun₂).2 ?_)
    have hdouble : HasDouble order g₂ ↔ HasDouble order (redeemedBy order w.db.growth) :=
      hasDouble_congr hattributions₂ htrackers₂
    refine Tx.wp_seq (recordForOrder_spec env order (withGrowth w g₂)) ?_ ?_
    · rintro records _ ⟨g₃, rfl, hrecorded⟩
      have hnot : ¬IsStuck order w.db.growth := by
        rw [← hstuck]
        rintro (hambiguous | hmany)
        · exact hclear hambiguous
        · obtain ⟨source, hsource, hle⟩ := hdouble.2 hmany
          have hlt := hrecorded.single source hsource
          exact absurd (Nat.lt_of_lt_of_le hlt hle) (Nat.lt_irrefl _)
      obtain ⟨g₄, hrun₄, hp₄, hsame₄, hvalued⟩ := clv_step env order (withGrowth w g₃)
      have huses₄ : g₄.uses = g₂.uses := by
        rw [hsame₄, hrecorded.same]
        rfl
      refine Tx.wp_bind.2 ((Tx.wp_iff_of_ok hrun₄).2
        ⟨g₄, rfl, ?_, huses₄.trans huses₂, hnot, fun hstamps => ?_⟩)
      · exact ((hp₁.trans hp₂).trans (.recorded hrecorded)).trans hp₄
      · have hstamps₂ : g₂.StampedBy env.now := fun t tracker hrow =>
          hstamps t tracker (htrackers₁ ▸ htrackers₂ ▸ hrow)
        have hsame₂ : g₂.redemptions = (redeemedBy order w.db.growth).redemptions :=
          congrArg Prod.snd huses₂
        exact isDone_of_recorded hstamps₂ hrecorded hsame₄ (hsame₂ ▸ hredeemed) hnoReward hvalued
    · rintro _ w' hmany
      exact ⟨rfl, hstuck.1 (.inr (hdouble.1 hmany))⟩
  · refine Tx.wp_bind.2 ((Tx.wp_iff_of_error herror).2 ⟨rfl, ?_⟩)
    exact hstuck.1 (.inl hambiguous)

theorem attributeOnce_noop {attribution : Growth → Option RevenueAttribution}
    (h : ∀ a, attribution w.db.growth = some a → rows w.db.growth a.order a.source ≠ []) :
    (attributeOnce attribution).StepsAt Eq w := by
  rcases attributeOnce_cases attribution w with ⟨-, hrun⟩ |
    ⟨a, ha, ⟨hnone, -⟩ | ⟨b, -, hrun⟩ | ⟨-, e, hrun⟩⟩
  · exact .of_run (by rw [hrun])
  · exact (h a ha hnone).elim
  · exact .of_run (by rw [hrun])
  · exact .of_run (by rw [hrun])

theorem attributeSms_noop (h : ∀ e, trackerOf order w.db.growth = some e →
    rows w.db.growth order.id (smsAttribution order e).source ≠ []) :
    (attributeSms env order).StepsAt Eq w := by
  rcases attributeSms_cases env order w with ⟨-, hrun⟩ |
    ⟨e, he, ⟨hnone, -⟩ | ⟨b, -, hrun⟩ | ⟨-, exc, hrun⟩⟩
  · exact .of_run (by rw [hrun])
  · exact (h e he hnone).elim
  · exact .of_run (by rw [hrun])
  · exact .of_run (by rw [hrun])

theorem recordForOrder_noop (h : ∀ source ∈ sources order w.db.growth,
    rows w.db.growth order.id source ≠ []) : (recordForOrder env order).StepsAt Eq w := by
  refine .atomic (.eq_bind (attributeOnce_noop fun a ha => ?_) fun _ =>
    .eq_bind (attributeOnce_noop fun a ha => ?_) fun _ =>
      .eq_bind (attributeOnce_noop fun a ha => ?_) fun _ =>
        .eq_bind (attributeSms_noop fun e he => ?_) fun _ => Tx.steps_pure _ w)
  · exact (couponAttribution_source ha).1 ▸ h _ (mem_sources.2 (.inl ⟨a, ha, rfl⟩))
  · exact (referralAttribution_source ha).1 ▸ h _ (mem_sources.2 (.inr (.inl ⟨a, ha, rfl⟩)))
  · exact (promotionAttribution_source ha).1 ▸ h _ (mem_sources.2 (.inr (.inr (.inl ⟨a, ha, rfl⟩))))
  · exact h _ (mem_sources.2 (.inr (.inr (.inr ⟨e, he, rfl⟩))))

/-- For an order that is done, a run leaves everything as it is. -/
theorem IsDone.noop (h : IsDone w.db.shop order w.db.growth) :
    (GrowthCheckoutFacade.finalizeOnPayment env settings order).StepsAt Eq w := by
  refine .atomic (.eq_bind ?_ fun _ => .eq_bind ?_ fun _ => .eq_bind (recordForOrder_noop h.attributed)
    fun _ => .eq_bind (.ifSome fun user huser => .of_run ?_) fun _ => Tx.steps_pure _ w)
  · rw [GrowthCheckoutFacade.redeemCoupon]
    cases hcoupon : order.coupon with
    | none => exact Tx.steps_pure _ w
    | some coupon =>
      refine .eq_bind ?_ fun _ => Tx.steps_pure _ w
      rcases CouponService.redeem_cases coupon order order.user w with ⟨r, -, -, hrun⟩ | ⟨hfresh, -⟩
      · exact .of_run (by rw [hrun])
      · obtain ⟨r, hr, ho⟩ := h.redeemed coupon hcoupon
        exact (hfresh r hr ho).elim
  · rcases finalizeOnPayment_cases env settings order w with
      ⟨-, ⟨user, referral, -, hreward, -, -⟩ | ⟨-, hrun⟩⟩ | ⟨-, e, hrun⟩
    · exact (hreward h.noReward).elim
    · exact .of_run (by rw [hrun])
    · exact .of_run (by rw [hrun])
  · have hsame : (fun u => if u = user then
        some (CLVService.profile (CLVService.paidOrders w.db.shop user))
        else w.db.growth.clvProfiles u) = w.db.growth.clvProfiles := by
      funext u
      split
      next hu => exact hu ▸ (h.valued user huser).symm
      next => rfl
    exact congrArg (fun clvProfiles => withGrowth w { w.db.growth with clvProfiles }) hsame.symm

/-- What is done for an order stays done. -/
theorem IsDone.progress {other : OrderInstance} (h : IsDone shop order g) (hne : order.id ≠ other.id)
    (hp : Progress env shop other g g') : IsDone shop order g' := by
  have hsources : sources order g' = sources order g := by
    refine sources_congr ?_
    rw [trackerOf, hp.trackers _ hne]
    rfl
  refine ⟨fun c hc => ?_, fun u hu hpaid => ?_, fun source hsource => ?_, fun u hu => ?_⟩
  · obtain ⟨r, hr, ho⟩ := h.redeemed c hc
    obtain ⟨new, hnew, -⟩ := hp.uses
    exact ⟨r, hnew ▸ List.mem_append_left _ hr, ho⟩
  · obtain ⟨hpending, hcode⟩ := h.noReward u hu hpaid
    refine ⟨hp.pending u hpending, hcode.imp_right fun hcode => hcode.imp (fun hlength => ?_)
      (hp.referred u)⟩
    rwa [codesOf, hp.codes]
  · exact rows_ne_nil hp.attributions (h.attributed source (hsources ▸ hsource))
  · rcases hp.valued u with hsame | hnew
    · rw [hsame]
      exact h.valued u hu
    · exact hnew

/-- An order that is stuck stays stuck. -/
theorem IsStuck.progress {other : OrderInstance} (h : IsStuck order g) (hne : order.id ≠ other.id)
    (hp : Progress env shop other g g') : IsStuck order g' := by
  rcases h with ⟨u, hu, hpaid, hpending, hcode, hmany⟩ | ⟨source, hsource, hmany⟩
  · refine .inl ⟨u, hu, hpaid, hp.pending u hpending, hcode, ?_⟩
    rwa [codesOf, hp.codes]
  · have hsources : sources order g' = sources order g := by
      refine sources_congr ?_
      rw [trackerOf, hp.trackers _ hne]
      rfl
    exact .inr ⟨source, hsources ▸ hsource, hmany.trans (length_rows_le hp.attributions)⟩

end Order

/-! ## Runs of the task -/

/-- The database after a run of the task. -/
def finalizeRun (settings : GrowthSettings) (env : Env) (o : OrderId) (db : GrowthDatabase) :
    GrowthDatabase := (finalizeGrowthOrderTask env settings o ⟨db, []⟩).2.db

/-- Nothing is left to do for the order, or nothing can be done. -/
def IsSettled (o : OrderId) (db : GrowthDatabase) : Prop :=
  ∀ order, db.order o = some order → IsDone db.shop order db.growth ∨ IsStuck order db.growth

section Runs

variable {env : Env} {settings : GrowthSettings} {o p : OrderId} {db : GrowthDatabase}
  {order : OrderInstance}

theorem order_id (h : db.order o = some order) : order.id = o := by
  obtain ⟨row, -, rfl⟩ := Option.map_eq_some_iff.1 h
  rfl

theorem finalizeRun_of_order (h : db.order o = some order) :
    finalizeRun settings env o db =
      (GrowthCheckoutFacade.finalizeOnPayment env settings order ⟨db, []⟩).2.db := by
  have hrun : finalizeGrowthOrderTask env settings o ⟨db, []⟩ = (do
      let results ← GrowthCheckoutFacade.finalizeOnPayment env settings order
      return some results : GrowthTx (Option GrowthCheckoutFacade.FinalizeResults)) ⟨db, []⟩ := by
    refine (Tx.bind_of_ok rfl).trans ?_
    simp only [h]
  rw [finalizeRun, hrun]
  rcases hresult : GrowthCheckoutFacade.finalizeOnPayment env settings order ⟨db, []⟩ with ⟨e | r, w⟩
  · rw [Tx.bind_of_error hresult]
  · rw [Tx.bind_of_ok hresult]
    rfl

theorem finalizeRun_of_none (h : db.order o = none) : finalizeRun settings env o db = db := by
  have hrun : finalizeGrowthOrderTask env settings o ⟨db, []⟩ = (.ok none, ⟨db, []⟩) := by
    refine (Tx.bind_of_ok rfl).trans ?_
    simp only [h]
    rfl
  rw [finalizeRun, hrun]

/-- A run leaves an order that is stuck, and does not undo what has been done for others. -/
theorem finalizeRun_cases (env : Env) (settings : GrowthSettings) (o : OrderId)
    (db : GrowthDatabase) :
    (finalizeRun settings env o db = db ∧
      ∀ order, db.order o = some order → IsStuck order db.growth) ∨
    ∃ order g, db.order o = some order ∧ finalizeRun settings env o db = { db with growth := g } ∧
      Progress env db.shop order db.growth g ∧
        g.uses = (redeemedBy order db.growth).uses ∧ ¬IsStuck order db.growth ∧
          (db.growth.StampedBy env.now → IsDone db.shop order g) := by
  cases horder : db.order o with
  | none => exact .inl ⟨finalizeRun_of_none horder, fun order h => nomatch h⟩
  | some order =>
    rw [finalizeRun_of_order horder]
    have hspec := finalizeOnPayment_spec env settings order ⟨db, []⟩
    rcases hresult : GrowthCheckoutFacade.finalizeOnPayment env settings order ⟨db, []⟩ with ⟨e | r, w⟩
    · obtain ⟨hdb, hstuck⟩ := Tx.wp_of_error hspec hresult
      refine .inl ⟨hdb, fun order' h => ?_⟩
      rwa [← Option.some.inj h]
    · obtain ⟨g, rfl, hp, huses, hnot, hdone⟩ := Tx.wp_of_ok hspec hresult
      exact .inr ⟨order, g, rfl, rfl, hp, huses, hnot, hdone⟩

/-- A run for a settled order does nothing. -/
theorem IsSettled.noop (h : IsSettled o db) : finalizeRun settings env o db = db := by
  cases horder : db.order o with
  | none => exact finalizeRun_of_none horder
  | some order =>
    rw [finalizeRun_of_order horder]
    rcases h order horder with hdone | hstuck
    · have hnoop : (GrowthCheckoutFacade.finalizeOnPayment env settings order).StepsAt Eq
          ⟨db, []⟩ := hdone.noop
      exact congrArg World.db hnoop.run.symm
    · have hspec := finalizeOnPayment_spec env settings order ⟨db, []⟩
      rcases hresult : GrowthCheckoutFacade.finalizeOnPayment env settings order ⟨db, []⟩ with
        ⟨e | r, w⟩
      · exact (Tx.wp_of_error hspec hresult).1
      · obtain ⟨g, -, -, -, hnot, -⟩ := Tx.wp_of_ok hspec hresult
        exact (hnot hstuck).elim

/-- The orders are the same after a run. -/
theorem order_of_progress {other : OrderInstance} {g : Growth}
    (hp : Progress env db.shop other db.growth g) :
    ({ db with growth := g } : GrowthDatabase).order o = db.order o := by
  simp only [GrowthDatabase.order, hp.columns]

theorem IsSettled.finalizeRun (h : IsSettled o db) (hstamps : db.growth.StampedBy env.now) :
    IsSettled o (finalizeRun settings env p db) := by
  rcases finalizeRun_cases env settings p db with ⟨hsame, -⟩ | ⟨other, g, hother, hrun, hp, -, -, hdone⟩
  · rwa [hsame]
  · rw [hrun]
    intro order horder
    rw [order_of_progress hp] at horder
    by_cases hne : order.id = other.id
    · -- the run was for this order
      have hop : o = p := (order_id horder).symm.trans (hne.trans (order_id hother))
      subst hop
      obtain rfl := Option.some.inj (horder.symm.trans hother)
      exact .inl (hdone hstamps)
    · exact (h order horder).imp (·.progress hne hp) (·.progress hne hp)

theorem finalize_settles (settings : GrowthSettings) :
    Settles (finalizeRun settings) (fun e e' => e.now ≤ e'.now)
      (fun e db => db.growth.StampedBy e.now) IsSettled where
  later hle hstamps t tracker hrow := (hstamps t tracker hrow).trans hle
  fits {env o db} hstamps := by
    rcases finalizeRun_cases env settings o db with ⟨hsame, -⟩ | ⟨order, g, -, hrun, hp, -⟩
    · rwa [hsame]
    · rw [hrun]
      intro t tracker hrow
      rcases hp.stamps t tracker hrow with hnow | hold
      · exact hnow.le
      · exact hstamps t tracker hold
  noop _ h := h.noop
  settles {env o db} hstamps := by
    rcases finalizeRun_cases env settings o db with ⟨hsame, h⟩ |
      ⟨order, g, horder, hrun, hp, -, -, hdone⟩
    · rw [hsame]
      exact fun order horder => .inr (h order horder)
    · rw [hrun]
      intro order' horder'
      rw [order_of_progress hp] at horder'
      obtain rfl := Option.some.inj (horder.symm.trans horder')
      exact .inl (hdone hstamps)
  keeps hstamps h := h.finalizeRun hstamps

/-- Two databases between which redemptions were counted as uses. -/
def UsesCounted (db db' : GrowthDatabase) : Prop := CountsUses db.growth db'.growth

instance : IsPreorder GrowthDatabase UsesCounted where
  refl db := .refl db.growth
  trans _ _ _ h h' := h.trans h'

theorem finalizeRun_usesCounted : UsesCounted db (finalizeRun settings env o db) := by
  rcases finalizeRun_cases env settings o db with ⟨hsame, -⟩ | ⟨order, g, -, hrun, hp, -⟩
  · rw [hsame]
    exact .refl _
  · rw [hrun]
    exact hp.uses

end Runs

/-- Of all runs for an order only the first one counts, if the clock does not go back and every
    tracker was updated before the runs; and whatever the clock does, a coupon's uses are its
    redemptions, of which an order has at most one. -/
theorem runAll_finalize (settings : GrowthSettings) (db : GrowthDatabase)
    (runs : List (Env × OrderId)) :
    (runs.Pairwise (fun r r' => r.1.now ≤ r'.1.now) →
      (∀ r ∈ runs, db.growth.StampedBy r.1.now) →
        runAll (finalizeRun settings) runs db =
          runAll (finalizeRun settings) (firstRuns [] runs) db) ∧
      UsesCounted db (runAll (finalizeRun settings) runs db) :=
  ⟨fun hordered hstamped => (finalize_settles settings).runAll_firstRuns hstamped hordered,
    runAll_follows fun _ _ _ => finalizeRun_usesCounted⟩

/-- One order has recovered two carts, whose trackers were updated at the times 2 and 1. -/
def twiceRecovered : GrowthDatabase where
  shop :=
    { stock := { products := fun _ => ⟨"Baklava", 500000, .available⟩ }
      orders := Table.empty.insert
        { orderNumber := "CR-1", user := some 1, email := "", status := .paid, paymentStatus := .paid
          paymentMethod := .online, deliveryType := .pickup, deliveryFee := 0, subtotal := 500000
          total := 500000, createdAt := 0 } }
  growth :=
    { trackers := (Table.empty.insert
        { status := .recovered, recoveredOrder := some 0, updatedAt := 2 }).insert
        { status := .recovered, recoveredOrder := some 0, updatedAt := 1 } }

/-- At the time 2 the second run finds what the first one has left. -/
theorem runAll_finalize_twiceRecovered :
    runAll (finalizeRun {}) [({ now := 2 }, 0), ({ now := 2 }, 0)] twiceRecovered =
      runAll (finalizeRun {}) [({ now := 2 }, 0)] twiceRecovered := by
  refine (runAll_finalize {} twiceRecovered _).1 (by simp) fun r hr t tracker hrow => ?_
  have hnow : r.1.now = 2 := by
    rcases List.mem_cons.1 hr with rfl | hr
    · rfl
    · rw [List.mem_singleton.1 hr]
  rw [hnow]
  rcases Table.rows_insert_cases hrow with ⟨-, rfl⟩ | ⟨-, hrow⟩
  · decide
  · rcases Table.rows_insert_cases hrow with ⟨-, rfl⟩ | ⟨-, hrow⟩
    · decide
    · exact nomatch hrow

/-- At the time 0 the first run puts the newer tracker behind the other one, and the second run
    attributes the revenue of the order once more. -/
theorem runAll_ne_twiceRecovered :
    (runAll (finalizeRun {}) [({ now := 0 }, 0), ({ now := 0 }, 0)] twiceRecovered).growth.attributions ≠
      (runAll (finalizeRun {}) (firstRuns [] [({ now := 0 }, 0), ({ now := 0 }, 0)])
        twiceRecovered).growth.attributions := by
  decide +kernel

/-! ## The parts of a run -/

/-- What a part of a run for the order may do to the tables. -/
inductive FinalizePart (env : Env) (settings : GrowthSettings) (order : OrderInstance) :
    Growth → Growth → Prop
  | redeemed (g : Growth) : FinalizePart env settings order g (redeemedBy order g)
  | rewarded (g : Growth) (user : UserId) (referral : Referral) :
    FinalizePart env settings order g (rewardedGrowth env settings order user referral g)
  | recorded {g g' : Growth} (h : Recorded env order g g') : FinalizePart env settings order g g'
  | valued (g : Growth) (clvProfiles : UserId → Option CustomerCLVProfile) :
    FinalizePart env settings order g { g with clvProfiles }

section Parts

variable {R : Growth → Growth → Prop} [IsPreorder Growth R] {env : Env}
  {settings : GrowthSettings} {order : OrderInstance}

/-- The worlds are as `R` has it for their tables. -/
def GrowthFollows (R : Growth → Growth → Prop) (w w' : GrowthWorld) : Prop :=
  R w.db.growth w'.db.growth

instance : IsPreorder GrowthWorld (GrowthFollows R) where
  refl w := refl_of R w.db.growth
  trans _ _ _ h h' := trans_of R h h'

instance : Tx.RestoresDb (GrowthFollows R) := ⟨fun {w _} _ => refl_of R w.db.growth⟩

/-- What is preserved by every part is preserved by the whole. -/
theorem finalizeOnPayment_follows
    (h : ∀ g g', FinalizePart env settings order g g' → R g g') :
    (GrowthCheckoutFacade.finalizeOnPayment env settings order).Steps (GrowthFollows R) := by
  refine Tx.Steps.atomic (Tx.Steps.bind (fun w => ?_) fun coupon => Tx.Steps.bind (fun w => ?_)
    fun referral => Tx.Steps.bind (fun w => ?_) fun attributions =>
      Tx.Steps.bind (fun w => ?_) fun _ => Tx.steps_pure _)
  · obtain ⟨r, hrun, -⟩ := redeem_step w.db.shop env order w
    refine .of_run ?_
    rw [hrun]
    exact h _ _ (.redeemed w.db.growth)
  · refine .of_run ?_
    rcases finalizeOnPayment_cases env settings order w with
      ⟨-, ⟨user, referral, -, -, -, hrun⟩ | ⟨-, hrun⟩⟩ | ⟨-, e, hrun⟩
    · rw [hrun]
      exact h _ _ (.rewarded w.db.growth user referral)
    · rw [hrun]
      exact refl_of R _
    · rw [hrun]
      exact refl_of R _
  · refine (Tx.wp_iff _).2 ⟨fun results w' hrun => ?_, fun e w' hrun => ?_⟩
    · obtain ⟨g', rfl, hrecorded⟩ := Tx.wp_of_ok (recordForOrder_spec env order w) hrun
      exact h _ _ (.recorded hrecorded)
    · have hback : w'.db = w.db := (Tx.rollsBack_atomic _).run hrun
      rw [GrowthFollows, hback]
      exact refl_of R _
  · obtain ⟨g, hrun, -, hsame, -⟩ := clv_step env order w
    refine .of_run ?_
    rw [hrun, hsame]
    exact h _ _ (.valued w.db.growth _)

theorem finalizeRun_follows {o : OrderId} {db : GrowthDatabase}
    (h : ∀ order g g', FinalizePart env settings order g g' → R g g') :
    R db.growth (finalizeRun settings env o db).growth := by
  cases horder : db.order o with
  | none =>
    rw [finalizeRun_of_none horder]
    exact refl_of R _
  | some order =>
    rw [finalizeRun_of_order horder]
    exact (finalizeOnPayment_follows (h order) ⟨db, []⟩).run

end Parts

end Crumbs
