import Crumbs.Db.Assignments
import Crumbs.Growth.Payment
import Crumbs.Loyalty.Services

/-!
# Segments of the Customers

A nightly task puts every active customer into the segment of its class. The class follows from the
paid orders, from the tier of the points and from the time since the last order. Only the segments
that are active are used, and a customer whose class has none stays where it is. The table lets a
customer be in several segments at a time; the task looks at the first one only.

## Contents

- `classifyUserSegment`, `refreshCustomerSegments`
- `Customers.place`: the segment that a customer belongs to, if there is one
- `refreshCustomerSegments_spec`: what one run does, from any table
- `MembershipStep`: the runs of the task, with the deletions of users and of segments
- `assigns_of_run`: over every run the table is the partial function that the classes say
-/

namespace Crumbs

open Crumbs.Db

abbrev SegmentId := ℕ

/-! ## Tables -/

/-- `CustomerSegment.Code` -/
inductive SegmentCode where
  | new
  | active
  | vip
  | atRisk
  | dormant
  deriving DecidableEq, Repr

structure CustomerSegment where
  code : SegmentCode
  isActive : Bool := true
  deriving DecidableEq, Repr

/-- The segments. Their code is unique. -/
structure Segments where
  table : Table CustomerSegment
  unique : ∀ i j r r', table.rows i = some r → table.rows j = some r' → r.code = r'.code → i = j

structure CustomerSegmentMembership where
  user : UserId
  segment : SegmentId
  assignedAt : Time
  deriving DecidableEq, Repr

/-- A user, as far as the tasks choose by it. -/
structure CustomerUser where
  isActive : Bool := true
  deriving DecidableEq, Repr

/-- What the customers are classified by, and the segments that they can be put into. -/
structure Customers where
  db : GrowthDatabase
  users : Table CustomerUser := .empty
  segments : Segments

namespace Customers

/-- `User.objects.filter(is_active=True)` -/
def activeUsers (c : Customers) : List UserId := (c.users.filter (·.isActive)).map Prod.fst

/-- `segments.get(code)`, of the segments that are active. -/
def activeSegment (c : Customers) (code : SegmentCode) : Option SegmentId :=
  (c.segments.table.filter fun s => s.isActive && decide (s.code = code)).head?.map Prod.fst

end Customers

/-! ## The task -/

/-- `(now - t).days` -/
def daysSince (now t : Time) : ℤ := (now - t) / 86400000000

/-- `classify_user_segment` -/
def classifyUserSegment (now : Time) (db : GrowthDatabase) (user : UserId) : SegmentCode :=
  let orders := CLVService.paidOrders db.shop user
  let lifetimeSpend := (orders.map (·.total)).sum
  let tier := (db.growth.loyalty.accounts user).elim Tier.normal (·.tier)
  if orders.length = 0 then .new
  -- five million toman
  else if tier = .gold ∨ 500000000 ≤ lifetimeSpend then .vip
  else
    match (orders.map (·.createdAt)).max? with
    | none => .active
    | some lastOrderAt =>
      if 90 < daysSince now lastOrderAt then .dormant
      else if 45 < daysSince now lastOrderAt then .atRisk
      else .active

abbrev Memberships := Table CustomerSegmentMembership

/-- `CustomerSegmentMembership.objects.filter(user=user)`, as the segments of the rows. -/
def Memberships.segmentsOf (t : Memberships) (user : UserId) : List SegmentId :=
  t.valuesOf (·.user) (·.segment) user

/-- The body of the loop of `refresh_customer_segments`. -/
def refreshUser (now : Time) (customers : Customers) (acc : Memberships × ℕ) (user : UserId) :
    Memberships × ℕ :=
  match customers.activeSegment (classifyUserSegment now customers.db user) with
  | none => acc
  | some segment =>
    -- `.first()`: the row with the smallest key
    if (acc.1.segmentsOf user).head? = some segment then acc
    else (acc.1.replaceFor (·.user) { user, segment, assignedAt := now }, acc.2 + 1)

/-- `refresh_customer_segments` -/
def refreshCustomerSegments (now : Time) (customers : Customers) (t : Memberships) :
    Memberships × ℕ :=
  customers.activeUsers.foldl (refreshUser now customers) (t, 0)

/-! ## One run -/

/-- The segment that the task finds for a user. -/
def Customers.place (c : Customers) (now : Time) (user : UserId) : Option SegmentId :=
  if user ∈ c.activeUsers then c.activeSegment (classifyUserSegment now c.db user) else none

/-- The task has to move a user that is held by these segments. -/
def IsMisplaced (place : Option SegmentId) (held : List SegmentId) : Prop :=
  place ≠ none ∧ held.head? ≠ place

instance (place : Option SegmentId) (held : List SegmentId) : Decidable (IsMisplaced place held) :=
  inferInstanceAs (Decidable (_ ∧ _))

/-- The segments that a user is in after the task. -/
def settled (place : Option SegmentId) (held : List SegmentId) : List SegmentId :=
  if IsMisplaced place held then place.toList else held

theorem not_isMisplaced_settled (place : Option SegmentId) (held : List SegmentId) :
    ¬IsMisplaced place (settled place held) := by
  rw [settled]
  split
  next h =>
    obtain ⟨segment, rfl⟩ := Option.ne_none_iff_exists'.1 h.1
    exact fun hmis => hmis.2 rfl
  next h => exact h

section Run

variable {now : Time} {customers : Customers} {users : List UserId}

/-- A user is in its place, or all its memberships are replaced by one. -/
theorem refreshUser_cases (now : Time) (customers : Customers) (acc : Memberships × ℕ)
    (user : UserId) :
    (¬IsMisplaced (customers.activeSegment (classifyUserSegment now customers.db user))
        (acc.1.segmentsOf user) ∧ refreshUser now customers acc user = acc) ∨
    ∃ segment, customers.activeSegment (classifyUserSegment now customers.db user) = some segment ∧
      IsMisplaced (some segment) (acc.1.segmentsOf user) ∧
      refreshUser now customers acc user =
        (acc.1.replaceFor (·.user) { user, segment, assignedAt := now }, acc.2 + 1) := by
  rw [refreshUser]
  cases customers.activeSegment (classifyUserSegment now customers.db user) with
  | none => exact .inl ⟨fun h => h.1 rfl, rfl⟩
  | some segment =>
    by_cases hhead : (acc.1.segmentsOf user).head? = some segment
    · exact .inl ⟨fun h => h.2 hhead, if_pos hhead⟩
    · exact .inr ⟨segment, rfl, ⟨Option.some_ne_none segment, hhead⟩, if_neg hhead⟩

/-- A user that is in its place is skipped. -/
theorem refreshUser_of_not_isMisplaced {acc : Memberships × ℕ} {user : UserId}
    (h : ¬IsMisplaced (customers.activeSegment (classifyUserSegment now customers.db user))
      (acc.1.segmentsOf user)) : refreshUser now customers acc user = acc := by
  rcases refreshUser_cases now customers acc user with ⟨-, hsame⟩ | ⟨segment, hsegment, hmis, -⟩
  · exact hsame
  · exact absurd (hsegment ▸ hmis) h

/-- One user is settled, and no other is touched. -/
theorem segmentsOf_refreshUser (acc : Memberships × ℕ) (user u : UserId) :
    (refreshUser now customers acc user).1.segmentsOf u =
      if u = user then
        settled (customers.activeSegment (classifyUserSegment now customers.db user))
          (acc.1.segmentsOf u)
      else acc.1.segmentsOf u := by
  rcases refreshUser_cases now customers acc user with ⟨hplaced, hrun⟩ | ⟨segment, hsegment, hmis, hrun⟩
  · rw [hrun, settled]
    split
    next hu =>
      subst u
      rw [if_neg hplaced]
    next => rfl
  · have hvalues := @Table.valuesOf_replaceFor _ _ _ _ CustomerSegmentMembership.user
      CustomerSegmentMembership.segment acc.1 { user, segment, assignedAt := now } u
    rw [hrun, hsegment]
    by_cases hu : u = user
    · subst u
      rw [if_pos rfl, settled, if_pos hmis]
      exact hvalues.trans (if_pos rfl)
    · rw [if_neg hu]
      exact hvalues.trans (if_neg (Ne.symm hu))

/-- A user is counted if it has to be moved. -/
theorem count_refreshUser (acc : Memberships × ℕ) (user : UserId) :
    (refreshUser now customers acc user).2 = acc.2 +
      if IsMisplaced (customers.activeSegment (classifyUserSegment now customers.db user))
        (acc.1.segmentsOf user) then 1 else 0 := by
  rcases refreshUser_cases now customers acc user with ⟨hplaced, hrun⟩ | ⟨segment, hsegment, hmis, hrun⟩
  · rw [hrun, if_neg hplaced, Nat.add_zero]
  · rw [hrun, hsegment, if_pos hmis]

/-- The loop settles its users, each for itself. -/
theorem segmentsOf_foldl_refreshUser (hnodup : users.Nodup) (acc : Memberships × ℕ) (u : UserId) :
    (users.foldl (refreshUser now customers) acc).1.segmentsOf u =
      if u ∈ users then
        settled (customers.activeSegment (classifyUserSegment now customers.db u))
          (acc.1.segmentsOf u)
      else acc.1.segmentsOf u := by
  induction users generalizing acc with
  | nil => rfl
  | cons user rest ih =>
    obtain ⟨hnew, hrest⟩ := List.nodup_cons.1 hnodup
    rw [List.foldl_cons, ih hrest, segmentsOf_refreshUser]
    by_cases hu : u = user
    · subst u
      simp [hnew]
    · simp [hu]

/-- The loop counts the users that it moves. -/
theorem count_foldl_refreshUser (hnodup : users.Nodup) (acc : Memberships × ℕ) :
    (users.foldl (refreshUser now customers) acc).2 = acc.2 +
      users.countP fun u => decide (IsMisplaced
        (customers.activeSegment (classifyUserSegment now customers.db u)) (acc.1.segmentsOf u)) := by
  induction users generalizing acc with
  | nil => rfl
  | cons user rest ih =>
    obtain ⟨hnew, hrest⟩ := List.nodup_cons.1 hnodup
    rw [List.foldl_cons, ih hrest, count_refreshUser, List.countP_cons, Nat.add_assoc]
    -- what the first user is moved to is not seen by the others
    have hothers : ∀ u ∈ rest, (refreshUser now customers acc user).1.segmentsOf u =
        acc.1.segmentsOf u := by
      intro u hu
      rw [segmentsOf_refreshUser, if_neg (ne_of_mem_of_not_mem hu hnew)]
    rw [List.countP_congr fun u hu => by rw [hothers u hu], Nat.add_comm (ite ..)]
    simp

theorem foldl_refreshUser_of_not_isMisplaced (acc : Memberships × ℕ)
    (h : ∀ u ∈ users, ¬IsMisplaced
      (customers.activeSegment (classifyUserSegment now customers.db u)) (acc.1.segmentsOf u)) :
    users.foldl (refreshUser now customers) acc = acc := by
  induction users with
  | nil => rfl
  | cons user rest ih =>
    rw [List.foldl_cons, refreshUser_of_not_isMisplaced (h user List.mem_cons_self)]
    exact ih fun u hu => h u (List.mem_cons_of_mem user hu)

end Run

/-- One run settles every user. -/
theorem segmentsOf_refreshCustomerSegments (now : Time) (customers : Customers) (t : Memberships)
    (user : UserId) : (refreshCustomerSegments now customers t).1.segmentsOf user =
      settled (customers.place now user) (t.segmentsOf user) := by
  have hnodup : customers.activeUsers.Nodup := Table.nodup_filter _ _
  rw [refreshCustomerSegments, segmentsOf_foldl_refreshUser hnodup, Customers.place]
  split
  next => rfl
  next => simp [settled, IsMisplaced]

/-- From any table, one run puts every active user whose class has an active segment into that one,
    unless it is the first that the user is in already. It counts the users that it moves, and
    another run at the same time moves none. -/
theorem refreshCustomerSegments_spec (now : Time) (customers : Customers) (t : Memberships) :
    (∀ user, (refreshCustomerSegments now customers t).1.segmentsOf user =
      settled (customers.place now user) (t.segmentsOf user)) ∧
    (refreshCustomerSegments now customers t).2 =
      customers.activeUsers.countP (fun user =>
        decide (IsMisplaced (customers.place now user) (t.segmentsOf user))) ∧
    refreshCustomerSegments now customers (refreshCustomerSegments now customers t).1 =
      ((refreshCustomerSegments now customers t).1, 0) := by
  have hnodup : customers.activeUsers.Nodup := Table.nodup_filter _ _
  have hsettled := segmentsOf_refreshCustomerSegments now customers t
  have hplace : ∀ user ∈ customers.activeUsers, customers.place now user =
      customers.activeSegment (classifyUserSegment now customers.db user) :=
    fun user huser => if_pos huser
  refine ⟨hsettled, ?_, ?_⟩
  · rw [refreshCustomerSegments, count_foldl_refreshUser hnodup, Nat.zero_add]
    exact List.countP_congr fun user huser => by rw [hplace user huser]
  · refine foldl_refreshUser_of_not_isMisplaced _ fun user huser => ?_
    rw [hsettled, ← hplace user huser]
    exact not_isMisplaced_settled _ _

/-! ## Runs -/

/-- What happens to the memberships: a run of the task, among whatever customers and segments there
    are by then, and the deletions that come with the foreign keys. -/
inductive MembershipStep where
  | refresh (now : Time) (customers : Customers)
  | userDeleted (user : UserId)
  | segmentDeleted (segment : SegmentId)

namespace MembershipStep

def act (t : Memberships) : MembershipStep → Memberships
  | .refresh now customers => (refreshCustomerSegments now customers t).1
  | .userDeleted user => t.eraseWhere fun m => decide (m.user = user)
  | .segmentDeleted segment => t.eraseWhere fun m => decide (m.segment = segment)

/-- The same for a function that says where each user is. -/
def assign (a : UserId → Option SegmentId) : MembershipStep → UserId → Option SegmentId
  | .refresh now customers => fun user => (customers.place now user).or (a user)
  | .userDeleted user => Function.update a user none
  | .segmentDeleted segment => fun user => (a user).filter fun s => !decide (s = segment)

end MembershipStep

/-- Every user is in the segment that `a` says, and in no other. -/
def Memberships.Places (t : Memberships) (a : UserId → Option SegmentId) : Prop :=
  Table.Assigns (·.user) (·.segment) t a

theorem settled_toList (place held : Option SegmentId) :
    settled place held.toList = (place.or held).toList := by
  cases place with
  | none => simp [settled, IsMisplaced]
  | some segment =>
    cases held with
    | none => simp [settled, IsMisplaced]
    | some held => by_cases h : held = segment <;> simp [settled, IsMisplaced, h]

theorem Memberships.Places.act {t : Memberships} {a : UserId → Option SegmentId} (h : t.Places a)
    (s : MembershipStep) : (s.act t).Places (s.assign a) := by
  cases s with
  | refresh now customers =>
    intro user
    refine (segmentsOf_refreshCustomerSegments now customers t user).trans ?_
    rw [Memberships.segmentsOf, h user]
    exact settled_toList _ _
  | userDeleted user => exact h.eraseOwner user
  | segmentDeleted segment => exact h.eraseValue segment

/-- Whatever the orders, the points, the users and the segments are at each run of the task, and
    whatever is deleted in between: every user is in one segment at most, the one that the last run
    found for it. -/
theorem assigns_of_run (t : Memberships) (a : UserId → Option SegmentId) (h : t.Places a)
    (run : List MembershipStep) :
    (run.foldl MembershipStep.act t).Places (run.foldl MembershipStep.assign a) := by
  induction run generalizing t a with
  | nil => exact h
  | cons s rest ih => exact ih _ _ (h.act s)

/-- A customer without orders, and a segment for such customers. -/
def newcomers : Customers where
  db := { shop := { stock := { products := fun _ => ⟨"", 0, .comingSoon⟩ } } }
  users := Table.empty.insert {}
  segments :=
    { table := Table.empty.insert { code := .new }
      unique := by
        intro i j r r' hr hr' _
        rcases Table.rows_insert_cases hr with ⟨rfl, -⟩ | ⟨-, hr⟩
        · rcases Table.rows_insert_cases hr' with ⟨rfl, -⟩ | ⟨-, hr'⟩
          · rfl
          · cases hr'
        · cases hr }

theorem assigns_of_run_newcomers :
    Memberships.Places
      ([MembershipStep.refresh 0 newcomers, .refresh 1 newcomers].foldl MembershipStep.act .empty)
      ([MembershipStep.refresh 0 newcomers, .refresh 1 newcomers].foldl MembershipStep.assign
        fun _ => none) :=
  assigns_of_run .empty (fun _ => none) (fun _ => rfl)
    [.refresh 0 newcomers, .refresh 1 newcomers]

example : (refreshCustomerSegments 0 newcomers .empty).2 = 1 := by decide

/-! ## Profiles -/

/-- The body of the loop of `CLVService.refresh_all`. -/
def CLVService.refreshOne (updated : ℕ) (user : UserId) : GrowthTx ℕ := do
  let _ ← CLVService.calculateForUser user
  return updated + 1

/-- `CLVService.refresh_all`, over the users that are active. -/
def CLVService.refreshAll (users : List UserId) : GrowthTx ℕ :=
  users.foldlM CLVService.refreshOne 0

/-- The class of a customer, as far as its profile and its tier say. -/
def CustomerCLVProfile.segmentCode (profile : CustomerCLVProfile) (now : Time) (tier : Tier) :
    SegmentCode :=
  if profile.frequencyTag = .new then .new
  else if tier = .gold ∨ profile.revenueTier = .high then .vip
  else
    match profile.lastOrderAt with
    | none => .active
    | some lastOrderAt =>
      if 90 < daysSince now lastOrderAt then .dormant
      else if 45 < daysSince now lastOrderAt then .atRisk
      else .active

/-- The growth tables with new profiles of these users. -/
def Growth.profiled (growth : Growth) (shop : Shop) (users : List UserId) : Growth :=
  { growth with
    clvProfiles := fun user =>
      if user ∈ users then some (CLVService.profile (CLVService.paidOrders shop user))
      else growth.clvProfiles user }

section Profiles

variable {w : World GrowthDatabase (List Observation)}

theorem refreshOne_run (updated : ℕ) (user : UserId) :
    CLVService.refreshOne updated user w =
      (.ok (updated + 1),
        ⟨{ w.db with growth := w.db.growth.profiled w.db.shop [user] }, w.ext⟩) := by
  have hprofiled : w.db.growth.profiled w.db.shop [user] = { w.db.growth with
      clvProfiles := fun u =>
        if u = user then some (CLVService.profile (CLVService.paidOrders w.db.shop user))
        else w.db.growth.clvProfiles u } := by
    rw [Growth.profiled]
    congr 1
    funext u
    by_cases hu : u = user <;> simp [hu]
  rw [hprofiled]
  rfl

/-- The loop gives every user a new profile. No profile depends on another one. -/
theorem foldlM_refreshOne (users : List UserId) (n : ℕ)
    (w : World GrowthDatabase (List Observation)) :
    users.foldlM CLVService.refreshOne n w =
      (.ok (n + users.length),
        ⟨{ w.db with growth := w.db.growth.profiled w.db.shop users }, w.ext⟩) := by
  induction users generalizing n w with
  | nil => simp [Growth.profiled, pure]
  | cons user rest ih =>
    rw [List.foldlM_cons, Tx.bind_of_ok (refreshOne_run n user), ih]
    have hprofiled : (w.db.growth.profiled w.db.shop [user]).profiled w.db.shop rest =
        w.db.growth.profiled w.db.shop (user :: rest) := by
      simp only [Growth.profiled]
      congr 1
      funext u
      by_cases hrest : u ∈ rest <;> by_cases hu : u = user <;> simp [hrest, hu]
    rw [hprofiled, List.length_cons, Nat.add_assoc, Nat.add_comm 1]

end Profiles

theorem frequencyTag_profile (orders : List Order) :
    (CLVService.profile orders).frequencyTag = .new ↔ orders.length = 0 := by
  change CLVService.frequencyTag orders.length = .new ↔ _
  rw [CLVService.frequencyTag]
  split_ifs with hnone hten hfour <;> simp [hnone]

theorem revenueTier_profile (orders : List Order) :
    (CLVService.profile orders).revenueTier = .high ↔
      CLVService.highThreshold ≤ (orders.map (·.total)).sum := by
  by_cases hhigh : CLVService.highThreshold ≤ (orders.map (·.total)).sum
  · exact iff_of_true (if_pos hhigh) hhigh
  · refine iff_of_false ?_ hhigh
    simp only [CLVService.profile, if_neg hhigh]
    split <;> simp

/-- The class of a customer follows from the profile that its orders make. The threshold of the class
    is that of the tier. -/
theorem classifyUserSegment_eq (now : Time) (db : GrowthDatabase) (user : UserId) :
    classifyUserSegment now db user =
      (CLVService.profile (CLVService.paidOrders db.shop user)).segmentCode now
        ((db.growth.loyalty.accounts user).elim Tier.normal (·.tier)) := by
  simp only [classifyUserSegment, CustomerCLVProfile.segmentCode, frequencyTag_profile,
    revenueTier_profile]
  rfl

/-- The nightly task of the profiles and the one of the segments look at the same orders. After the
    first one every active customer has a profile, and the second one puts it into the segment that
    the profile stands for, whichever of them runs first. -/
theorem segments_follow_profiles (now : Time) (customers : Customers) (t : Memberships)
    (ext : List Observation) :
    ∃ db, CLVService.refreshAll customers.activeUsers ⟨customers.db, ext⟩ =
        (.ok customers.activeUsers.length, ⟨db, ext⟩) ∧
      refreshCustomerSegments now { customers with db } t =
        refreshCustomerSegments now customers t ∧
      (∀ user, user ∉ customers.activeUsers →
        db.growth.clvProfiles user = customers.db.growth.clvProfiles user) ∧
      ∀ user ∈ customers.activeUsers, ∃ profile, db.growth.clvProfiles user = some profile ∧
        (refreshCustomerSegments now customers t).1.segmentsOf user =
          settled (customers.activeSegment (profile.segmentCode now
            ((customers.db.growth.loyalty.accounts user).elim Tier.normal (·.tier))))
            (t.segmentsOf user) := by
  refine ⟨{ customers.db with
      growth := customers.db.growth.profiled customers.db.shop customers.activeUsers },
    (foldlM_refreshOne customers.activeUsers 0 ⟨customers.db, ext⟩).trans ?_, rfl,
    fun user huser => if_neg huser, fun user huser => ⟨_, if_pos huser, ?_⟩⟩
  · rw [Nat.zero_add]
  · rw [← classifyUserSegment_eq, segmentsOf_refreshCustomerSegments now customers t user,
      Customers.place, if_pos huser]

end Crumbs
