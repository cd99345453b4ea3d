import Crumbs.Inventory.Writes

/-!
# The Day of a Booking

Two searches decide the day that a booking is made for. Both create the capacity rows they look at,
which changes no day's capacity: what a day without a row has left is what its row will have. So the
day is a function of the stock as it was before the search.

## Contents

- `Stock.capacity`, `Stock.Fits`: what is left of a day, whether or not it has a row yet
- `Stock.SameDays`: rows may have been created, and every day has left what it had
- `Stock.foundDate`, `findFulfillmentDate_days`: the day that the search finds
- `reserveItem_days`: the day of the booking, and when it is accepted
- `datesAgree_iff`, `booksAhead_iff`: when the search and the booking agree, and when a pre-order is
  booked ahead
-/

namespace Crumbs

open Crumbs.Db

/-! ## Days -/

namespace Stock

/-- What a day starts with. -/
def defaultCapacity (s : Stock) (p : ProductId) : ℕ :=
  if (s.inventory p).trackStock then max (s.inventory p).stockQuantity 50 else 100

/-- The row of the day, or the one that `get_or_create` would insert. -/
def capacity (s : Stock) (p : ProductId) (d : Date) : DailyProductionCapacity :=
  (s.capacities p d).getD { maxUnits := s.defaultCapacity p }

/-- The quantity can be produced on that day. -/
def Fits (s : Stock) (p : ProductId) (quantity : ℤ) (d : Date) : Prop :=
  quantity ≤ (s.capacity p d).availableUnits

instance (s : Stock) (p : ProductId) (quantity : ℤ) (d : Date) : Decidable (s.Fits p quantity d) :=
  inferInstanceAs (Decidable (_ ≤ _))

/-- The quantity is on the shelf, or the product has no stock to check. -/
def InStock (s : Stock) (p : ProductId) (quantity : ℤ) : Prop :=
  (s.inventory p).trackStock → quantity ≤ (s.inventory p).availableQuantity

instance (s : Stock) (p : ProductId) (quantity : ℤ) : Decidable (s.InStock p quantity) :=
  inferInstanceAs (Decidable (_ → _))

/-- From `s` to `s'` rows with default values may have been inserted; what is left of the shelves
    and of the days is the same. -/
structure SameDays (s s' : Stock) : Prop where
  touches : s.Touches s'
  capacity : ∀ p d, s'.capacity p d = s.capacity p d

namespace SameDays

variable {s s' s'' : Stock}

theorem refl (s : Stock) : s.SameDays s := ⟨.refl s, fun _ _ => rfl⟩

theorem trans (h : s.SameDays s') (h' : s'.SameDays s'') : s.SameDays s'' :=
  ⟨h.touches.trans h'.touches, fun p d => (h'.capacity p d).trans (h.capacity p d)⟩

theorem inventory (h : s.SameDays s') (p : ProductId) : s'.inventory p = s.inventory p :=
  h.touches.inventory p

theorem fits_iff (h : s.SameDays s') {p : ProductId} {quantity : ℤ} {d : Date} :
    s'.Fits p quantity d ↔ s.Fits p quantity d := by
  rw [Fits, h.capacity, Fits]

theorem setInventory (s : Stock) (p : ProductId) :
    s.SameDays (s.setInventory p (s.inventory p)) := by
  have h := Touches.setInventory s p
  refine ⟨h, fun q d => ?_⟩
  unfold Stock.capacity defaultCapacity
  rw [h.inventory]
  rfl

theorem setCapacity (s : Stock) (p : ProductId) (d : Date) :
    s.SameDays (s.setCapacity p d (s.capacity p d)) := by
  have h := Touches.setCapacity s p d (s.defaultCapacity p)
  refine ⟨h, fun q e => ?_⟩
  by_cases hq : q = p ∧ e = d
  · obtain ⟨rfl, rfl⟩ := hq
    have hrow : (s.setCapacity q e (s.capacity q e)).capacities q e = some (s.capacity q e) :=
      if_pos ⟨rfl, rfl⟩
    rw [Stock.capacity, hrow, Option.getD_some]
  · have hrow : (s.setCapacity p d (s.capacity p d)).capacities q e = s.capacities q e :=
      if_neg hq
    unfold Stock.capacity defaultCapacity at hrow ⊢
    rw [hrow]
    rfl

end SameDays

/-! ## The search -/

/-- What the search stops at: a day with room, or the first day if the units are on the shelf. -/
def accepts (s : Stock) (p : ProductId) (quantity : ℤ) (current : Date) (offset : ℕ) : Bool :=
  s.Fits p quantity (current + offset) ∨
    offset = 0 ∧ (s.inventory p).trackStock ∧ quantity ≤ (s.inventory p).availableQuantity

/-- The day that the search finds. -/
def foundDate (s : Stock) (p : ProductId) (quantity : ℤ) (current : Date) : Option Date :=
  ((List.range maxDays).find? (s.accepts p quantity current)).map fun offset : ℕ =>
    current + offset

/-- The earliest of the days that are searched from `today` on with room for the quantity. -/
structure EarliestFit (s : Stock) (p : ProductId) (quantity : ℤ) (today d : Date) : Prop where
  notBefore : today ≤ d
  horizon : d < today + maxDays
  fits : s.Fits p quantity d
  earliest : ∀ e, today ≤ e → e < d → ¬s.Fits p quantity e

theorem le_add_days (d : Date) (offset : ℕ) : d ≤ d + offset :=
  le_add_of_nonneg_right (Int.natCast_nonneg offset)

theorem add_days_lt_iff {d : Date} {j k : ℕ} : d + j < d + k ↔ j < k :=
  (add_lt_add_iff_left d).trans Int.ofNat_lt

section FoundDate

variable {s : Stock} {p : ProductId} {quantity : ℤ} {current d : Date}

theorem accepts_iff {offset : ℕ} : s.accepts p quantity current offset = true ↔
    s.Fits p quantity (current + offset) ∨
      offset = 0 ∧ (s.inventory p).trackStock ∧ quantity ≤ (s.inventory p).availableQuantity :=
  decide_eq_true_iff

theorem foundDate_eq_some : s.foundDate p quantity current = some d ↔
    ∃ offset < maxDays, d = current + offset ∧ s.accepts p quantity current offset = true ∧
      ∀ j < offset, ¬s.accepts p quantity current j = true := by
  rw [foundDate, Option.map_eq_some_iff]
  constructor
  · rintro ⟨offset, hfind, rfl⟩
    obtain ⟨haccepts, hlt, hfirst⟩ := List.find?_range_eq_some.1 hfind
    exact ⟨offset, List.mem_range.1 hlt, rfl, haccepts, fun j hj => by simpa using hfirst j hj⟩
  · rintro ⟨offset, hlt, rfl, haccepts, hfirst⟩
    exact ⟨offset, List.find?_range_eq_some.2 ⟨haccepts, List.mem_range.2 hlt, fun j hj => by
      simpa using hfirst j hj⟩, rfl⟩

/-- Units on the shelf are promised for the first day, whatever is left of it. -/
theorem foundDate_of_shelf (htrack : (s.inventory p).trackStock)
    (hshelf : quantity ≤ (s.inventory p).availableQuantity) :
    s.foundDate p quantity current = some current :=
  foundDate_eq_some.2 ⟨0, by decide, (add_zero current).symm,
    accepts_iff.2 (.inr ⟨rfl, htrack, hshelf⟩), fun _ hj => absurd hj (Nat.not_lt_zero _)⟩

/-- Otherwise the search finds the earliest day with room. -/
theorem foundDate_iff_earliest (h : (s.inventory p).trackStock →
    quantity ≤ (s.inventory p).availableQuantity → s.Fits p quantity current) :
    s.foundDate p quantity current = some d ↔ s.EarliestFit p quantity current d := by
  have haccepts : ∀ offset, s.accepts p quantity current offset = true ↔
      s.Fits p quantity (current + offset) := by
    intro offset
    rw [accepts_iff]
    refine ⟨fun hfits => hfits.elim id ?_, .inl⟩
    rintro ⟨rfl, htrack, hshelf⟩
    exact (add_zero current).symm ▸ h htrack hshelf
  simp only [foundDate_eq_some, haccepts]
  constructor
  · rintro ⟨offset, hlt, rfl, hfits, hfirst⟩
    refine ⟨le_add_days _ _, add_days_lt_iff.2 hlt, hfits, fun e hle hlt' => ?_⟩
    obtain ⟨j, rfl⟩ := Int.le.dest hle
    exact hfirst j (add_days_lt_iff.1 hlt')
  · rintro ⟨hle, hlt, hfits, hfirst⟩
    obtain ⟨offset, rfl⟩ := Int.le.dest hle
    exact ⟨offset, add_days_lt_iff.1 hlt, rfl, hfits, fun j hj =>
      hfirst _ (le_add_days _ _) (add_days_lt_iff.2 hj)⟩

theorem EarliestFit.again (h : s.EarliestFit p quantity current d) :
    s.EarliestFit p quantity d d :=
  ⟨le_rfl, lt_add_of_pos_right d (by decide), h.fits, fun _ hle hlt => absurd hlt (not_lt.2 hle)⟩

/-- If some day has room there is an earliest one. -/
theorem exists_earliestFit {e : Date} (hle : current ≤ e) (hlt : e < current + maxDays)
    (hfits : s.Fits p quantity e) : ∃ d, s.EarliestFit p quantity current d := by
  classical
  obtain ⟨offset, rfl⟩ := Int.le.dest hle
  have hthere : ∃ k : ℕ, s.Fits p quantity (current + k) := ⟨offset, hfits⟩
  refine ⟨current + Nat.find hthere, le_add_days _ _, add_days_lt_iff.2 ?_, Nat.find_spec hthere,
    fun e hle hlt => ?_⟩
  · exact (Nat.find_min' hthere hfits).trans_lt (add_days_lt_iff.1 hlt)
  · obtain ⟨j, rfl⟩ := Int.le.dest hle
    exact Nat.find_min hthere (add_days_lt_iff.1 hlt)

/-- The search looks at the shelf and at the days. -/
theorem foundDate_congr {s' : Stock} (hinventory : s'.inventory p = s.inventory p)
    (hcapacity : ∀ d, s'.capacity p d = s.capacity p d) :
    s'.foundDate p quantity current = s.foundDate p quantity current := by
  have hfits (d : Date) : s'.Fits p quantity d ↔ s.Fits p quantity d := by
    rw [Fits, hcapacity, Fits]
  have haccepts : s'.accepts p quantity current = s.accepts p quantity current := by
    funext offset
    rw [accepts, hinventory]
    exact decide_eq_decide.2 (or_congr_left (hfits _))
  rw [foundDate, haccepts, foundDate]

theorem SameDays.foundDate_eq {s' : Stock} (h : s.SameDays s') :
    s'.foundDate p quantity current = s.foundDate p quantity current :=
  foundDate_congr (h.inventory p) (h.capacity p)

end FoundDate

end Stock

section Search

variable {E : Exn → World Stock (List Observation) → Prop} {w : World Stock (List Observation)}
  {p : ProductId} {quantity : ℤ}

theorem getOrCreateInventory_days : (getOrCreateInventory p).wp (fun inv w' =>
    inv = w.db.inventory p ∧ w.db.SameDays w'.db) E w := ⟨rfl, .setInventory _ _⟩

theorem defaultDailyCapacity_days : (defaultDailyCapacity p).wp (fun maxUnits w' =>
    maxUnits = w.db.defaultCapacity p ∧ w.db.SameDays w'.db) E w :=
  Tx.wp_seq getOrCreateInventory_days (fun _ _ h => ⟨by rw [h.1]; rfl, h.2⟩) fun _ _ h => h

theorem getOrCreateDailyCapacity_days (d : Date) : (getOrCreateDailyCapacity p d).wp (fun cap w' =>
    cap = w.db.capacity p d ∧ w.db.SameDays w'.db) E w := by
  refine Tx.wp_seq defaultDailyCapacity_days (fun maxUnits w₁ h => ?_) fun _ _ h => h
  obtain ⟨rfl, hdays⟩ := h
  have hdefault : w₁.db.defaultCapacity p = w.db.defaultCapacity p := by
    rw [Stock.defaultCapacity, hdays.inventory, Stock.defaultCapacity]
  rw [← hdefault, ← hdays.capacity]
  exact ⟨rfl, hdays.trans (.setCapacity w₁.db p d)⟩

/-- The loop returns what a search in the list of offsets finds. -/
theorem searchFulfillmentDate_days (current : Date) (offsets : List ℕ) (s : Stock)
    (hs : s.SameDays w.db) :
    (searchFulfillmentDate p (s.inventory p) quantity current offsets).wp (fun found w' =>
      found = (offsets.find? (s.accepts p quantity current)).map (fun offset : ℕ => current + offset) ∧
        s.SameDays w'.db) E w := by
  induction offsets generalizing w with
  | nil => exact ⟨rfl, hs⟩
  | cons offset rest ih =>
    refine Tx.wp_seq (getOrCreateDailyCapacity_days _) (fun cap w₁ h => ?_) fun _ _ h => h
    obtain ⟨rfl, hdays⟩ := h
    have hdays := hs.trans hdays
    rw [hs.capacity]
    simp only [Tx.wp_ite, Tx.wp_pure]
    refine ⟨fun hfits => ⟨?_, hdays⟩, fun hfull => ⟨fun hshelf => ⟨?_, hdays⟩, fun hnot => ?_⟩⟩
    · have haccepts : s.accepts p quantity current offset = true := decide_eq_true (.inl hfits)
      rw [List.find?_cons_of_pos haccepts, Option.map_some]
    · have haccepts : s.accepts p quantity current offset = true := decide_eq_true (.inr hshelf)
      rw [List.find?_cons_of_pos haccepts, Option.map_some]
    · rw [List.find?_cons_of_neg]
      · exact ih hdays
      · rw [Stock.accepts, decide_eq_true_eq]
        exact not_or.2 ⟨hfull, hnot⟩

/-- The search finds the day that it should have found before it began, or raises if there is
    none. -/
theorem findFulfillmentDate_days (env : Env) (startDate : Option Date) :
    (findFulfillmentDate env p quantity startDate).wp
      (fun d w' => w.db.foundDate p quantity (startDate.getD env.today) = some d ∧
        w.db.SameDays w'.db)
      (fun _ w' => w.db.foundDate p quantity (startDate.getD env.today) = none ∧
        w.db.SameDays w'.db) w := by
  refine Tx.wp_seq getOrCreateInventory_days (fun inv w₁ h => ?_) fun _ _ h => h
  obtain ⟨rfl, hdays⟩ := h
  rw [Tx.wp_bind, Tx.wp_getDb]
  refine Tx.wp_seq (searchFulfillmentDate_days (startDate.getD env.today) (List.range maxDays)
    w.db hdays) (fun found w₂ h => ?_) fun _ _ h => h
  obtain ⟨hfound, hdays⟩ := h
  have hfound : w.db.foundDate p quantity (startDate.getD env.today) = found := hfound.symm
  cases found with
  | some target => exact ⟨hfound, hdays⟩
  | none => exact Tx.wp_ite.2 ⟨fun _ => ⟨hfound, hdays⟩, fun _ => ⟨hfound, hdays⟩⟩

end Search

/-! ## The booking -/

section Booking

variable {w : World Stock (List Observation)} (env : Env) (order : Option OrderId) (p : ProductId)
  (cart : Option CartId) (holdMinutes : ℤ)

/-- A pre-order searches again from the day that was found, which has room, and finds it again. -/
theorem chooseFulfillmentDate_days {quantity : ℤ} {d : Date} (name : String) {s : Stock}
    (hs : s.SameDays w.db) (hfound : s.foundDate p quantity env.today = some d) :
    (chooseFulfillmentDate env p quantity (s.inventory p) name d).wp
      (fun d' w' => d' = d ∧ (s.InStock p quantity ∨ (s.inventory p).allowPreorder) ∧
        s.SameDays w'.db)
      (fun _ _ => ¬(s.InStock p quantity ∨ (s.inventory p).allowPreorder)) w := by
  refine Tx.wp_ite.2 ⟨fun hshort => Tx.wp_ite.2 ⟨fun hpre => ?_, fun hpre => ?_⟩, fun hnot => ?_⟩
  · have hlater : (s.inventory p).trackStock → quantity ≤ (s.inventory p).availableQuantity →
        s.Fits p quantity env.today := fun _ hle => absurd hle (not_le.2 hshort.2)
    have hfits := (Stock.foundDate_iff_earliest hlater).1 hfound
    have hagain : s.foundDate p quantity d = some d :=
      (Stock.foundDate_iff_earliest fun _ _ => hfits.fits).2 hfits.again
    have hagain : w.db.foundDate p quantity d = some d := by rwa [hs.foundDate_eq]
    refine Tx.wp_mono (findFulfillmentDate_days env (some d)) (fun d' w' h => ?_) fun e w' h => ?_
    · exact ⟨Option.some.inj (h.1.symm.trans hagain), .inr hpre, hs.trans h.2⟩
    · exact nomatch h.1.symm.trans hagain
  · rintro (hstock | hpre')
    · exact absurd (hstock hshort.1) (not_le.2 hshort.2)
    · exact hpre hpre'
  · exact ⟨rfl, .inl fun htrack => not_lt.1 fun hlt => hnot ⟨htrack, hlt⟩, hs⟩

/-- A booking is accepted if and only if the search finds a day, that day has room, and the units
    are on the shelf or may be pre-ordered. -/
theorem reserveItem_days (quantity : ℕ) :
    (reserveItem env order p quantity cart holdMinutes).wp
      (fun e _ => w.db.foundDate p quantity env.today = some e.2.productionDate ∧
        (w.db.InStock p quantity ∨ (w.db.inventory p).allowPreorder) ∧
        w.db.Fits p quantity e.2.productionDate)
      (fun _ _ => ∀ d, w.db.foundDate p quantity env.today = some d →
        (w.db.InStock p quantity ∨ (w.db.inventory p).allowPreorder) → ¬w.db.Fits p quantity d) w := by
  refine Tx.wp_seq getOrCreateInventory_days (fun inv w₁ h => ?_) fun _ _ h => h
  obtain ⟨rfl, hdays₁⟩ := h
  rw [Tx.wp_bind, Tx.wp_getDb]
  refine Tx.wp_seq (findFulfillmentDate_days env none) (fun d w₂ h => ?_) fun _ _ h d hd _ => ?_
  swap
  · rw [hdays₁.foundDate_eq] at h
    exact nomatch hd.symm.trans h.1
  obtain ⟨hfound, hdays₂⟩ := h
  rw [hdays₁.foundDate_eq] at hfound
  have hdays₂ := hdays₁.trans hdays₂
  refine Tx.wp_seq (chooseFulfillmentDate_days env p _ hdays₂ hfound) (fun d' w₃ h => ?_)
    fun _ _ h _ _ hor => absurd hor h
  obtain ⟨rfl, hor, hdays₃⟩ := h
  refine Tx.wp_seq (getOrCreateDailyCapacity_days d') (fun cap w₄ h => ?_) fun _ _ h => h
  obtain ⟨rfl, hdays₄⟩ := h
  -- no counter becomes negative
  have hsum : ∀ n : ℕ, ¬((n : ℤ) + (quantity : ℤ) < 0) := fun n => by omega
  have hheld : ¬((quantity : ℤ) < 0) := by omega
  have hcap : w₃.db.capacity p d' = w.db.capacity p d' := hdays₃.capacity p d'
  rw [hcap]
  refine Tx.wp_bind.2 (Tx.wp_when.2 ⟨fun hfull d hd _ => ?_, fun hroom => ?_⟩)
  · obtain rfl := Option.some.inj (hfound.symm.trans hd)
    exact not_le.2 hfull
  · have hresult : w.db.foundDate p quantity env.today = some d' ∧
        (w.db.InStock p quantity ∨ (w.db.inventory p).allowPreorder) ∧
          w.db.Fits p quantity d' := ⟨hfound, hor, not_lt.1 hroom⟩
    simp only [Tx.wp_bind, wp_positiveInteger, Tx.wp_modifyDb, Tx.wp_when, Tx.wp_getDb, Tx.wp_pure]
    refine ⟨fun h => absurd h (hsum _), fun _ => ⟨fun _ => ?_, fun _ => ?_⟩⟩
    · exact ⟨fun h => absurd h (hsum _), fun _ => ⟨fun h => absurd h hheld, fun _ => hresult⟩⟩
    · exact ⟨fun h => absurd h hheld, fun _ => hresult⟩

/-- Unless the units are on the shelf on a first day without room, the day that is found has room. -/
theorem findFulfillmentDate_fits {quantity : ℤ} {startDate : Option Date} {d : Date}
    {w' : World Stock (List Observation)} (h : (w.db.inventory p).trackStock →
      quantity ≤ (w.db.inventory p).availableQuantity →
        w.db.Fits p quantity (startDate.getD env.today))
    (hrun : findFulfillmentDate env p quantity startDate w = (.ok d, w')) :
    w'.db.Fits p quantity d := by
  obtain ⟨hfound, hdays⟩ := Tx.wp_of_ok (findFulfillmentDate_days env startDate) hrun
  exact hdays.fits_iff.2 ((Stock.foundDate_iff_earliest h).1 hfound).fits

/-- What the searches of a booking find: the one from today, and for a pre-order the one from the day
    that was found first. -/
def Searches (quantity : ℤ) (w : World Stock (List Observation)) (d : Date)
    (w' : World Stock (List Observation)) : Prop :=
  findFulfillmentDate env p quantity none w = (.ok d, w') ∨
    ∃ d₁ w₁, findFulfillmentDate env p quantity none w = (.ok d₁, w₁) ∧
      ¬w.db.InStock p quantity ∧ (w.db.inventory p).allowPreorder ∧
      findFulfillmentDate env p quantity (some d₁) w₁ = (.ok d, w')

/-- The search and the booking agree: what is on the shelf is booked for the earliest day with room
    if there is one, and the booking finds room on the day that a search has found. -/
structure DatesAgree (quantity : ℕ) (w : World Stock (List Observation)) : Prop where
  books : w.db.InStock p quantity →
    (∃ d, env.today ≤ d ∧ d < env.today + maxDays ∧ w.db.Fits p quantity d) →
      ∃ e w', reserveItem env order p quantity cart holdMinutes w = (.ok e, w') ∧
        w.db.EarliestFit p quantity env.today e.2.productionDate
  finds : ∀ d w', Searches env p quantity w d w' → w'.db.Fits p quantity d

/-- They agree unless the units are on the shelf on a day without room. -/
theorem datesAgree_iff (quantity : ℕ) :
    DatesAgree env order p cart holdMinutes quantity w ↔
      ((w.db.inventory p).trackStock → (quantity : ℤ) ≤ (w.db.inventory p).availableQuantity →
        w.db.Fits p quantity env.today) := by
  constructor
  · intro h htrack hshelf
    have htoday : w.db.foundDate p quantity env.today = some env.today :=
      Stock.foundDate_of_shelf htrack hshelf
    have hspec : (findFulfillmentDate env p quantity none).wp _ _ w :=
      findFulfillmentDate_days env none
    rcases hrun : findFulfillmentDate env p quantity none w with ⟨e | d, w'⟩
    · exact nomatch htoday.symm.trans (Tx.wp_of_error hspec hrun).1
    · obtain ⟨hfound, hdays⟩ := Tx.wp_of_ok hspec hrun
      obtain rfl : env.today = d := Option.some.inj (htoday.symm.trans hfound)
      exact hdays.fits_iff.1 (h.finds _ w' (.inl hrun))
  · intro h
    refine ⟨fun hstock hroom => ?_, fun d w' hsearch => ?_⟩
    · obtain ⟨d, hle, hlt, hfits⟩ := hroom
      obtain ⟨d, hearliest⟩ := Stock.exists_earliestFit hle hlt hfits
      have hfound := (Stock.foundDate_iff_earliest h).2 hearliest
      have hspec := reserveItem_days (w := w) env order p cart holdMinutes quantity
      rcases hrun : reserveItem env order p quantity cart holdMinutes w with ⟨e | e, w'⟩
      · exact absurd hearliest.fits (Tx.wp_of_error hspec hrun d hfound (.inl hstock))
      · obtain ⟨hfound', -, -⟩ := Tx.wp_of_ok hspec hrun
        exact ⟨e, w', rfl, (Stock.foundDate_iff_earliest h).1 hfound'⟩
    · rcases hsearch with hrun | ⟨d₁, w₁, hrun₁, hshort, -, hrun⟩
      · exact findFulfillmentDate_fits env p h hrun
      · obtain ⟨-, hdays⟩ := Tx.wp_of_ok (findFulfillmentDate_days env none) hrun₁
        refine findFulfillmentDate_fits env p (fun htrack hle => (hshort fun _ => ?_).elim) hrun
        rwa [hdays.inventory] at hle

/-- Three loaves on the shelf, for which `today` is full. -/
def fullToday (today : Date) : Stock where
  products _ := { name := "Loaf", price := 200000, availabilityStatus := .available }
  inventories p := if p = 0 then some { stockQuantity := 3 } else none
  capacities p d := if p = 0 ∧ d = today then some { maxUnits := 50, reservedUnits := 50 } else none

/-- One of them is promised for today, and then not booked for today. -/
theorem not_datesAgree_fullToday :
    ¬DatesAgree {} none 0 (some 0) 30 1 ⟨fullToday 0, []⟩ := fun h =>
  absurd (h.finds 0 _ (.inl (Tx.run_of_fst (by decide +kernel)))) (by decide +kernel)

/-! ## Pre-orders -/

/-- What is booked is booked for a day after today. -/
def BooksAhead (quantity : ℤ) (w : World Stock (List Observation)) : Prop :=
  ∀ e w', reserveItem env order p quantity cart holdMinutes w = (.ok e, w') →
    env.today < e.2.productionDate

/-- Units that are not on the shelf are booked for a later day if and only if today has no room for
    them. -/
theorem booksAhead_iff (quantity : ℤ) (hpre : (w.db.inventory p).allowPreorder)
    (hmore : (w.db.inventory p).availableQuantity < quantity) :
    BooksAhead env order p cart holdMinutes quantity w ↔ ¬w.db.Fits p quantity env.today := by
  have hlater : (w.db.inventory p).trackStock → quantity ≤ (w.db.inventory p).availableQuantity →
      w.db.Fits p quantity env.today := fun _ hle => absurd hle (not_le.2 hmore)
  lift quantity to ℕ using (Int.natCast_nonneg _).trans hmore.le
  have hspec := reserveItem_days (w := w) env order p cart holdMinutes quantity
  constructor
  · intro h htoday
    have hfound : w.db.foundDate p quantity env.today = some env.today :=
      (Stock.foundDate_iff_earliest hlater).2 ⟨le_rfl, lt_add_of_pos_right _ (by decide), htoday,
        fun _ hle hlt => absurd hlt (not_lt.2 hle)⟩
    rcases hrun : reserveItem env order p quantity cart holdMinutes w with ⟨e | e, w'⟩
    · exact Tx.wp_of_error hspec hrun _ hfound (.inr hpre) htoday
    · obtain ⟨hfound', -, -⟩ := Tx.wp_of_ok hspec hrun
      exact (h e w' hrun).ne (Option.some.inj (hfound.symm.trans hfound'))
  · intro htoday e w' hrun
    obtain ⟨hfound, -, hfits⟩ := Tx.wp_of_ok hspec hrun
    have hearliest := (Stock.foundDate_iff_earliest hlater).1 hfound
    refine lt_of_le_of_ne hearliest.notBefore fun heq => htoday ?_
    rwa [heq]

/-- A fourth loaf is booked for tomorrow, since today is full. -/
theorem booksAhead_iff_full : BooksAhead {} none 0 (some 0) 30 4 ⟨fullToday 0, []⟩ :=
  (booksAhead_iff {} none 0 (some 0) 30 4 (by decide) (by decide)).2 (by decide)

/-- The day of a booking, read off its run. -/
theorem BooksAhead.today_lt {quantity : ℤ} {d : Date}
    (h : BooksAhead env order p cart holdMinutes quantity w)
    (hrun : (reserveItem env order p quantity cart holdMinutes w).1.map (·.2.productionDate) =
      .ok d) : env.today < d := by
  rcases hx : reserveItem env order p quantity cart holdMinutes w with ⟨e | e, w'⟩
  · rw [hx] at hrun
    exact nomatch hrun
  · rw [hx] at hrun
    exact Except.ok.inj hrun ▸ h e w' hx

end Booking

/-- It is booked for today if today is like any other day. -/
theorem not_booksAhead_today : ¬BooksAhead {} none 0 (some 0) 30 4 ⟨fullToday 1, []⟩ := by
  intro h
  have hlt := BooksAhead.today_lt (d := 0) {} none 0 (some 0) 30 h (by decide +kernel)
  exact absurd hlt (by decide)

end Crumbs
