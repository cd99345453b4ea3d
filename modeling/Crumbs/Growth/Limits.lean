import Crumbs.Db.Runs
import Crumbs.Growth.Retries
import Crumbs.System

/-!
# The Limits of a Coupon

A coupon has a limit for all its uses and one for the uses by a user. Both are looked at when a
checkout is prepared. The use counts from the payment on, which does not look again. The task that
counts it inserts a row under a unique key and has the database add one, so that it is one action
here, whatever runs beside it.

## Contents

- `GrowthState`, `GrowthAction`: checkouts and payments in any order
- `Growth.Counted`, `Growth.WithinLimits`: what is to hold of the coupons
- `withinLimits_redeemed`: what a redemption does to the limits
- `withinLimits_iff`, `not_forall_withinLimits`
-/

namespace Crumbs

open Crumbs.Db

/-! ## Checkouts and payments -/

/-- The database, and what has been prepared for checkouts, with their users. -/
structure GrowthState where
  db : GrowthDatabase
  events : String → Option PaymentEvent := fun _ => none
  prepared : List (Option UserId × GrowthCheckoutFacade.Context) := []

/-- What may happen next. A checkout prepares its discounts, places its order by a step of the
    shop, and applies the discounts to it; other steps of the shop pay orders; the task for a paid
    order runs at some later time. -/
inductive GrowthAction where
  | shop (step : Step)
  | prepare (env : Env) (items : List CartItem) (user : Option UserId)
      (codes : GrowthCheckoutFacade.Codes) (subtotal : Money)
  | applyToOrder (checkout : ℕ) (o : OrderId)
  | finalize (env : Env) (settings : GrowthSettings) (o : OrderId)

/-- The next state; `none` if there is no such checkout. -/
def GrowthState.step (s : GrowthState) : GrowthAction → Option GrowthState
  | .shop step =>
    let db := (step.exec { shop := s.db.shop, events := s.events }).db
    some { s with db := { s.db with shop := db.shop }, events := db.events }
  | .prepare env items user codes subtotal =>
    match GrowthCheckoutFacade.prepare env s.db items user codes subtotal with
    | .ok ctx => some { s with prepared := s.prepared ++ [(user, ctx)] }
    | .error _ => some s
  | .applyToOrder checkout o => s.prepared[checkout]?.map fun e =>
    { s with db := (GrowthCheckoutFacade.applyToOrder o e.2 e.1 ⟨s.db, []⟩).2.db }
  | .finalize env settings o => some { s with db := finalizeRun settings env o s.db }

/-! ## Counts and limits -/

namespace Growth

/-- The redemptions of a coupon. -/
def redemptionsOf (growth : Growth) (coupon : CouponId) : ℕ :=
  growth.redemptions.countP fun r => r.coupon = coupon

/-- The use count of a coupon counts its redemptions. -/
def Counted (growth : Growth) : Prop :=
  ∀ coupon row, growth.coupons.rows coupon = some row →
    row.usageCount = growth.redemptionsOf coupon

/-- No coupon has more redemptions than it may have, by all users or by one of them. -/
def WithinLimits (growth : Growth) : Prop :=
  ∀ coupon row, growth.coupons.rows coupon = some row →
    (∀ limit ∈ row.usageLimitGlobal, growth.redemptionsOf coupon ≤ limit) ∧
      ∀ user, CouponService.userUses growth coupon user ≤ row.usageLimitPerUser

/-- Neither limit of a coupon is reached, as the checkout looks at them. -/
def HasRoom (growth : Growth) (coupon : CouponId) (row : Coupon) (user : Option UserId) : Prop :=
  (∀ limit ∈ row.usageLimitGlobal, row.usageCount < limit) ∧
    ∀ u ∈ user, CouponService.userUses growth coupon u < row.usageLimitPerUser

end Growth

/-- A payment that redeems a coupon finds that neither of its limits is reached. -/
def GrowthState.FindsRoom (s : GrowthState) : GrowthAction → Prop
  | .finalize _ _ o => ∀ order coupon row, s.db.order o = some order →
      ¬IsStuck order s.db.growth → order.coupon = some coupon →
        (∀ r ∈ s.db.growth.redemptions, r.order ≠ order.id) →
          s.db.growth.coupons.rows coupon = some row →
            s.db.growth.HasRoom coupon row order.user
  | _ => True

section Uses

variable {g g' : Growth}

theorem Growth.Counted.congr (huses : g'.uses = g.uses) (h : g.Counted) : g'.Counted := by
  obtain ⟨hcoupons, hredemptions⟩ := Prod.mk.inj huses
  intro coupon row hrow
  rw [Growth.redemptionsOf, hredemptions]
  exact h coupon row (hcoupons ▸ hrow)

theorem withinLimits_congr (huses : g'.uses = g.uses) : g'.WithinLimits ↔ g.WithinLimits := by
  obtain ⟨hcoupons, hredemptions⟩ := Prod.mk.inj huses
  simp only [Growth.WithinLimits, Growth.redemptionsOf, CouponService.userUses, hcoupons,
    hredemptions]

/-! ## A redemption -/

variable {coupon : CouponId} {order : OrderInstance}

theorem redemptionsOf_redeemed (c : CouponId) :
    (CouponService.redeemedGrowth coupon order order.user g).redemptionsOf c =
      g.redemptionsOf c + if coupon = c then 1 else 0 := by
  simp only [Growth.redemptionsOf, CouponService.redeemedGrowth, List.countP_append,
    List.countP_singleton, CouponService.newRedemption, decide_eq_true_eq]

theorem userUses_redeemed (c : CouponId) (u : UserId) :
    CouponService.userUses (CouponService.redeemedGrowth coupon order order.user g) c u =
      CouponService.userUses g c u + if coupon = c ∧ order.user = some u then 1 else 0 := by
  simp only [CouponService.userUses, CouponService.redeemedGrowth, List.countP_append,
    List.countP_singleton, CouponService.newRedemption, Option.orElse_eq_orElse,
    Option.orElse_eq_or, Option.or_self, decide_eq_true_eq]

theorem counted_redeemed (h : g.Counted) :
    (CouponService.redeemedGrowth coupon order order.user g).Counted := by
  intro c row hrow
  rw [redemptionsOf_redeemed]
  rcases Table.rows_modify_eq_some.1 hrow with ⟨rfl, old, hold, rfl⟩ | ⟨hc, hold⟩
  · rw [if_pos rfl, ← h c old hold]
  · rw [if_neg (Ne.symm hc)]
    exact h c row hold

/-- A redemption keeps the limits exactly if the coupon has not reached them. -/
theorem withinLimits_redeemed (hcounted : g.Counted) (h : g.WithinLimits) :
    (CouponService.redeemedGrowth coupon order order.user g).WithinLimits ↔
      ∀ row, g.coupons.rows coupon = some row → g.HasRoom coupon row order.user := by
  constructor
  · intro hafter row hrow
    have hrow' : (CouponService.redeemedGrowth coupon order order.user g).coupons.rows coupon =
        some { row with usageCount := row.usageCount + 1 } := by
      rw [CouponService.redeemedGrowth, Table.rows_modify_self, hrow]
      rfl
    obtain ⟨hglobal, huser⟩ := hafter coupon _ hrow'
    refine ⟨fun limit hlimit => ?_, fun u hu => ?_⟩
    · have hle := hglobal limit hlimit
      rw [redemptionsOf_redeemed, if_pos rfl] at hle
      rw [hcounted coupon row hrow]
      exact hle
    · have hle := huser u
      rw [userUses_redeemed, if_pos ⟨rfl, hu⟩] at hle
      exact hle
  · intro hroom c row hrow
    rcases Table.rows_modify_eq_some.1 hrow with ⟨rfl, old, hold, rfl⟩ | ⟨hc, hold⟩
    · obtain ⟨hglobalRoom, huserRoom⟩ := hroom old hold
      refine ⟨fun limit hlimit => ?_, fun u => ?_⟩
      · rw [redemptionsOf_redeemed, if_pos rfl, ← hcounted c old hold]
        exact hglobalRoom limit hlimit
      · rw [userUses_redeemed]
        by_cases hu : order.user = some u
        · rw [if_pos ⟨rfl, hu⟩]
          exact huserRoom u hu
        · rw [if_neg fun h' => hu h'.2]
          exact (h c old hold).2 u
    · obtain ⟨hglobal, huser⟩ := h c row hold
      refine ⟨fun limit hlimit => ?_, fun u => ?_⟩
      · rw [redemptionsOf_redeemed, if_neg (Ne.symm hc)]
        exact hglobal limit hlimit
      · rw [userUses_redeemed, if_neg fun h' => hc h'.1.symm]
        exact huser u

theorem redeemedBy_counted (h : g.Counted) : (redeemedBy order g).Counted := by
  rw [redeemedBy]
  split
  · exact h
  · split
    · exact h
    · exact counted_redeemed h

/-- What a redemption has to find; an order without a coupon, or with a redemption, finds it. -/
theorem redeemedBy_withinLimits (hcounted : g.Counted) (h : g.WithinLimits) :
    (redeemedBy order g).WithinLimits ↔ ∀ coupon row, order.coupon = some coupon →
      (∀ r ∈ g.redemptions, r.order ≠ order.id) → g.coupons.rows coupon = some row →
        g.HasRoom coupon row order.user := by
  cases hcoupon : order.coupon with
  | none =>
    rw [redeemedBy_of_none hcoupon]
    exact iff_of_true h fun _ _ hc => nomatch hc
  | some coupon =>
    by_cases hredeemed : ∃ r ∈ g.redemptions, r.order = order.id
    · obtain ⟨r, hr, ho⟩ := hredeemed
      rw [redeemedBy_of_mem hr ho]
      exact iff_of_true h fun _ _ _ hfresh => (hfresh r hr ho).elim
    · have hfresh : ∀ r ∈ g.redemptions, r.order ≠ order.id := fun r hr ho => hredeemed ⟨r, hr, ho⟩
      rw [redeemedBy_of_fresh hcoupon hfresh, withinLimits_redeemed hcounted h]
      constructor
      · intro hroom c row hc _ hrow
        obtain rfl := Option.some.inj hc
        exact hroom row hrow
      · exact fun hroom row hrow => hroom coupon row rfl hfresh hrow

end Uses

/-! ## Steps -/

/-- To attach a referral is to write to the referrals. -/
private theorem attachPendingReferral_leavesGrowth {β : Type} {get : Growth → β}
    (hget : ∀ growth referrals, get { growth with referrals } = get growth)
    (user : Option UserId) (id : ReferralCodeId) (referralCode : ReferralCode) :
    (ReferralService.attachPendingReferral user id referralCode).Steps
      (Tx.Leaves fun db : GrowthDatabase => get db.growth) := by
  intro w
  refine Tx.StepsAt.atomic ?_
  cases user with
  | none => exact Tx.steps_pure none w
  | some user =>
    refine (Tx.steps_getDb w).bind fun db w => .ite (fun _ => Tx.steps_pure none w) fun _ => ?_
    exact Tx.StepsAt.bind (Tx.steps_modifyDb (hget _ _)) fun _ => Tx.steps_pure _

/-- To discount an order is to write to its columns and to the referrals. -/
theorem applyToOrder_leavesGrowth {β : Type} (get : Growth → β)
    (hcolumns : ∀ growth orderGrowth, get { growth with orderGrowth } = get growth)
    (hreferrals : ∀ growth referrals, get { growth with referrals } = get growth)
    (o : OrderId) (ctx : GrowthCheckoutFacade.Context) (user : Option UserId) :
    (GrowthCheckoutFacade.applyToOrder o ctx user).Steps
      (Tx.Leaves fun db : GrowthDatabase => get db.growth) := by
  have honShop {α : Type} (x : ShopTx α) : (GrowthTx.onShop x).Steps
      (Tx.Leaves fun db : GrowthDatabase => get db.growth) := fun w =>
    Tx.wp_zoom.2 ((Tx.wp_iff _).2 ⟨fun _ _ _ => rfl, fun _ _ _ => rfl⟩)
  refine Tx.Steps.atomic (Tx.Steps.bind (honShop _) fun _ => Tx.Steps.bind
    (fun _ => Tx.steps_modifyDb (hcolumns _ _)) fun _ => Tx.Steps.bind Tx.steps_getDb fun db => ?_)
  refine Tx.Steps.bind (fun _ => .when fun _ => .ifSome fun e _ => .void ?_)
    fun _ _ => Tx.steps_modifyDb (hcolumns _ _)
  exact (honShop _ _).bind fun order =>
    attachPendingReferral_leavesGrowth hreferrals order.user e.1 e.2

section Steps

variable {s s' : GrowthState}

/-- The task for a paid order redeems its coupon; nothing else touches the coupons. -/
theorem step_uses {action : GrowthAction} (h : s.step action = some s') :
    s'.db.growth.uses = s.db.growth.uses ∧ s.FindsRoom action ∨
    ∃ env settings o, action = .finalize env settings o ∧
      (s'.db = s.db ∧ (∀ order, s.db.order o = some order → IsStuck order s.db.growth) ∨
        ∃ order, s.db.order o = some order ∧ ¬IsStuck order s.db.growth ∧
          s'.db.growth.uses = (redeemedBy order s.db.growth).uses) := by
  cases action with
  | shop step =>
    cases h
    exact .inl ⟨rfl, trivial⟩
  | prepare env items user codes subtotal =>
    simp only [GrowthState.step] at h
    split at h <;> cases h <;> exact .inl ⟨rfl, trivial⟩
  | applyToOrder checkout o =>
    obtain ⟨e, -, rfl⟩ := Option.map_eq_some_iff.1 h
    have hleaves := applyToOrder_leavesGrowth Growth.uses (fun _ _ => rfl)
      (fun _ _ => rfl) o e.2 e.1
    exact .inl ⟨(hleaves ⟨s.db, []⟩).run, trivial⟩
  | finalize env settings o =>
    cases h
    refine .inr ⟨env, settings, o, rfl, ?_⟩
    rcases finalizeRun_cases env settings o s.db with hstuck |
      ⟨order, g, horder, hrun, -, huses, hnot, -⟩
    · exact .inl hstuck
    · refine .inr ⟨order, horder, hnot, ?_⟩
      dsimp only
      rw [hrun]
      exact huses

theorem step_counted {action : GrowthAction} (hcounted : s.db.growth.Counted)
    (h : s.step action = some s') : s'.db.growth.Counted := by
  rcases step_uses h with ⟨huses, -⟩ | ⟨env, settings, o, -, ⟨hdb, -⟩ | ⟨order, -, -, huses⟩⟩
  · exact hcounted.congr huses
  · rw [hdb]
    exact hcounted
  · exact Growth.Counted.congr huses (redeemedBy_counted hcounted)

theorem step_withinLimits {action : GrowthAction} (hcounted : s.db.growth.Counted)
    (hlimits : s.db.growth.WithinLimits) (h : s.step action = some s') :
    s'.db.growth.WithinLimits ↔ s.FindsRoom action := by
  rcases step_uses h with ⟨huses, hroom⟩ | ⟨env, settings, o, rfl, ⟨hdb, hstuck⟩ |
    ⟨order, horder, hnot, huses⟩⟩
  · exact iff_of_true ((withinLimits_congr huses).2 hlimits) hroom
  · refine iff_of_true (hdb ▸ hlimits) fun order _ _ horder hnot => ?_
    exact (hnot (hstuck order horder)).elim
  · rw [withinLimits_congr huses, redeemedBy_withinLimits hcounted hlimits]
    constructor
    · intro hroom order' coupon row horder' _
      obtain rfl := Option.some.inj (horder.symm.trans horder')
      exact hroom coupon row
    · exact fun hroom coupon row => hroom order coupon row horder hnot

/-- However checkouts and payments come one after the other, the limits of the coupons hold
    throughout exactly if every payment that redeems a coupon finds that they are not reached. -/
theorem withinLimits_iff (hcounted : s.db.growth.Counted) (hlimits : s.db.growth.WithinLimits)
    (run : List GrowthAction) :
    Throughout GrowthState.step (fun s => s.db.growth.WithinLimits) s run ↔
      Guarded GrowthState.step GrowthState.FindsRoom s run :=
  throughout_iff_guarded (I := fun s => s.db.growth.Counted)
    (fun _ _ _ hs hstep => step_counted hs hstep)
    (fun _ _ _ hs hPs hstep => step_withinLimits hs hPs hstep) hcounted hlimits

end Steps

/-! ## A coupon for one use -/

/-- A coupon for one use. -/
def onceCoupon : Coupon where
  code := "ONCE"
  discountType := .fixed
  discountValue := 50000
  usageLimitGlobal := some 1

/-- The corner shop gives it away. -/
def onceShop : GrowthState where
  db := { shop := cornerShop.shop, growth := { coupons := Table.empty.insert onceCoupon } }

/-- What `prepare` finds for it. -/
def onceContext : GrowthCheckoutFacade.Context :=
  { couponDiscount := 50000, totalDiscount := 50000, coupon := some 0 }

/-- The user 1 checks the cart out with the coupon, and pays. -/
def onceCheckout (o : OrderId) : List GrowthAction :=
  [.prepare cornerEnv [{ product := 0, quantity := 1, quantity_pos := Nat.one_pos }] (some 1)
      { couponCode := "ONCE" } 200000,
    .shop (cornerCall (.processCheckout 0 { email := "", phone := "1" } (some 1)
      fun _ _ => onceContext.toGrowthCheckoutContext)),
    .applyToOrder o o, .shop (cornerCallback o "OK")]

/-- The user does so twice before the task for the first order runs. -/
def twiceRun : List GrowthAction :=
  onceCheckout 0 ++ .shop (cornerCall (.addItem 0 0 1)) :: onceCheckout 1 ++
    [.finalize cornerEnv {} 0, .finalize cornerEnv {} 1]

theorem onceShop_row {c : CouponId} {row : Coupon}
    (hrow : onceShop.db.growth.coupons.rows c = some row) : row = onceCoupon := by
  have hmem := Table.mem_entries.2 hrow
  exact congrArg Prod.snd (List.mem_singleton.1 hmem)

theorem onceShop_withinLimits : onceShop.db.growth.WithinLimits :=
  fun _ _ _ => ⟨fun limit _ => Nat.zero_le limit, fun _ => Nat.zero_le _⟩

theorem onceShop_counted : onceShop.db.growth.Counted := by
  intro c row hrow
  obtain rfl := onceShop_row hrow
  rfl

/-- An order with the coupon, for which the task has not run. -/
def oncePaid : GrowthState where
  db :=
    { shop := { cornerShop.shop with
        orders := Table.empty.insert { cornerOrder with user := some 1, paymentStatus := .paid } }
      growth := { onceShop.db.growth with orderGrowth := fun _ => { coupon := some 0 } } }

/-- The only redemption of the coupon is within its limits. -/
theorem withinLimits_iff_oncePaid : Throughout GrowthState.step
    (fun s => s.db.growth.WithinLimits) oncePaid [.finalize cornerEnv {} 0] := by
  refine (withinLimits_iff (s := oncePaid) onceShop_counted onceShop_withinLimits _).2
    fun s' _ => ⟨fun order coupon row _ _ _ _ hrow => ?_, trivial⟩
  obtain rfl := onceShop_row hrow
  refine ⟨fun limit hlimit => ?_, fun _ _ => Nat.one_pos⟩
  obtain rfl := Option.some.inj hlimit
  exact Nat.one_pos

/-- A coupon for one use is redeemed twice, and by one user. -/
theorem not_forall_withinLimits : ¬∀ (s : GrowthState) (run : List GrowthAction),
    s.db.growth.Counted → s.db.growth.WithinLimits →
      Throughout GrowthState.step (fun s => s.db.growth.WithinLimits) s run := by
  intro h
  have htwice : (twiceRun.foldlM GrowthState.step onceShop).map (fun s =>
      (s.db.growth.redemptionsOf 0, (s.db.growth.coupons.rows 0).map (·.usageLimitGlobal))) =
        some (2, some (some 1)) := by
    decide +kernel
  obtain ⟨s, hrun, hs⟩ := Option.map_eq_some_iff.1 htwice
  obtain ⟨htwo, hrow⟩ := Prod.mk.inj hs
  obtain ⟨row, hrow, hlimit⟩ := Option.map_eq_some_iff.1 hrow
  have hle := ((h onceShop twiceRun onceShop_counted onceShop_withinLimits).last hrun 0 row hrow).1 1
    hlimit
  omega

end Crumbs
