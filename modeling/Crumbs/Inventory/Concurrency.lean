import Crumbs.Db.RowLock
import Crumbs.Inventory.Ledger

/-!
# No Oversell

Carts, checkouts, payments and the expiry job work on the same inventory rows in concurrent
transactions. Availability is checked on rows that may be stale; only a section locks the rows
it writes, and keeps the locks until its transaction ends. For a tracked product that takes no
pre-orders this is enough: what is promised never exceeds what is in stock, and stock leaves
only with the reservations that are handed over.

## Contents

- `RowLock`, `Stock.overlay`: the rows that are locked, and versions of them
- `Section.locks`: the rows that a section locks before it runs
- `Shared`, `Shared.Step`: the interleavings
- `Covered`: one product's part of the ledger, with its stock
- `Safe`: the invariant of the interleavings
- `covered_of_does`: a service of the inventory alone
- `no_oversell`: every interleaving
-/

namespace Crumbs

open Crumbs.Db StockReservation

/-! ## Rows under locks -/

/-- The lock on a product's inventory row also guards its days and its availability: every
    writer of those holds it. -/
inductive RowLock where
  | inventory (product : ProductId)
  | reservation (id : ReservationId)
  deriving DecidableEq

/-- The rows of `own` from `a`, the others from `b`. -/
def Stock.overlay : Overlay Stock RowLock := fun own a b =>
  { products := fun p => if own (.inventory p) then a.products p else b.products p
    inventories := fun p => if own (.inventory p) then a.inventories p else b.inventories p
    capacities := fun p d => if own (.inventory p) then a.capacities p d else b.capacities p d
    reservations := Table.overlay (fun i => own (.reservation i)) a.reservations b.reservations }

/-- The inventory of a product, written under its own lock. -/
def inventoryField (p : ProductId) : Field Stock.overlay ProductInventory where
  read s := s.inventory p
  key := .inventory p
  guards k := k = .inventory p
  guards_key := rfl
  read_overlay own a b := by
    simp only [Stock.inventory, Stock.overlay]
    split <;> rfl

/-- What the reservation `i` adds to the reserved quantity of `p`. -/
def Stock.share (s : Stock) (p : ProductId) (i : ReservationId) : ℕ :=
  (s.reservations.rows i).elim 0 (liveQuantity p)

/-- A reservation's share changes only together with the inventory that counts it. -/
def shareField (p : ProductId) (i : ReservationId) : Field Stock.overlay ℕ where
  read s := s.share p i
  key := .reservation i
  guards k := k = .reservation i ∨ k = .inventory p
  guards_key := .inl rfl
  read_overlay own a b := by
    simp only [Stock.share, Stock.overlay, Table.rows_overlay]
    split <;> rfl

namespace Section

/-- The rows that a section locks. A row that it inserts is locked by the insert. -/
def locks (s : Stock) : Section → List RowLock
  | touch p => [.inventory p]
  | reserve _ _ p _ _ _ => [.inventory p, .reservation s.reservations.next]
  | release i | expire i | fulfill i =>
    .reservation i :: (s.reservations.rows i).toList.map fun r => .inventory r.product
  | confirm i => [.reservation i]

/-- The reservation that a section hands over, if it is of that kind. -/
def handedOver (s : Stock) : Section → List StockReservation
  | fulfill i => (s.reservations.rows i).toList
  | _ => []

end Section

/-! ## Interleavings -/

/-- A transaction's number. -/
abbrev Tid := ℕ

/-- The inventory under concurrent transactions. `pending` and `fulfilled` keep account of the
    reservations handed over, by transactions that still run and by committed ones. -/
structure Shared where
  versions : Versions Stock RowLock Tid
  pending : Tid → List StockReservation
  fulfilled : List StockReservation
  trace : List Observation

namespace Shared

/-- No transaction is running. -/
def start (s : Stock) : Shared where
  versions := { committed := s, working := s, locks := fun _ => none }
  pending _ := []
  fulfilled := []
  trace := []

/-- Any transaction may be next, with any section whose rows are free or its own. -/
inductive Step : Shared → Shared → Prop where
  /-- The availability check reads without a lock. Whatever it answers, its transaction may go
      on or give up. -/
  | check {sh : Shared} {w} (t : Tid) (product : ProductId) (quantity : ℤ) (cart : Option CartId)
      (answer : Except Exn Unit)
      (hrun : checkCartAvailability product quantity cart
        ⟨sh.versions.view Stock.overlay t, sh.trace⟩ = (answer, w)) : Step sh sh
  | run {sh : Shared} {s' obs} (t : Tid) (sec : Section)
      (hlocks : ∀ k ∈ sec.locks sh.versions.working, sh.versions.MayLock t k)
      (hran : sec.Ran sh.versions.working obs s') :
      Step sh
        { versions := sh.versions.write t (sec.locks sh.versions.working) s'
          pending := fun u => if u = t then sh.pending t ++ sec.handedOver sh.versions.working
            else sh.pending u
          fulfilled := sh.fulfilled
          trace := sh.trace ++ obs }
  | commit {sh : Shared} (t : Tid) :
      Step sh
        { versions := sh.versions.commit Stock.overlay t
          pending := fun u => if u = t then [] else sh.pending u
          fulfilled := sh.fulfilled ++ sh.pending t
          trace := sh.trace }
  | rollback {sh : Shared} (t : Tid) :
      Step sh
        { versions := sh.versions.rollback Stock.overlay t
          pending := fun u => if u = t then [] else sh.pending u
          fulfilled := sh.fulfilled
          trace := sh.trace }

/-- Any number of steps. -/
inductive Run (sh : Shared) : Shared → Prop where
  | refl : Run sh sh
  | tail {sh' sh''} : Run sh sh' → Step sh' sh'' → Run sh sh''

end Shared

namespace Shared

variable {s s' : Stock} {obs : List Observation}

/-- A chain of sections, run by one transaction that nobody stands in the way of, is a run. -/
theorem run_of_sections (h : Sections s obs s') (sh : Shared) {t : Tid}
    (hworking : sh.versions.working = s) (hfree : ∀ k, sh.versions.MayLock t k) :
    ∃ sh', Run sh sh' ∧ sh'.versions.working = s' ∧ sh'.trace = sh.trace ++ obs ∧
      ∀ k, sh'.versions.MayLock t k := by
  induction h with
  | refl => exact ⟨sh, .refl, hworking, (List.append_nil _).symm, hfree⟩
  | @tail s₁ s₂ obs₁ obs₂ sec _ hran ih =>
    obtain ⟨sh', hrun, hworking', htrace, hfree'⟩ := ih
    rw [← hworking'] at hran
    refine ⟨_, hrun.tail (.run t _ (fun k _ => hfree' k) hran), rfl,
      by rw [htrace, List.append_assoc], fun k => ?_⟩
    by_cases hk : k ∈ sec.locks sh'.versions.working
    · exact .inr (if_pos hk)
    · simpa only [Versions.MayLock, Versions.write, if_neg hk] using hfree' k

/-- A service that returns is one of the runs. -/
theorem run_of_does {α : Type} {x : StockTx α} (hx : Does x) {a : α} {trace : List Observation}
    (h : x ⟨s, []⟩ = (.ok a, ⟨s', trace⟩)) :
    ∃ sh, Run (start s) sh ∧ sh.versions.working = s' ∧ sh.trace = trace := by
  obtain ⟨obs, hsections, htrace⟩ := Tx.wp_of_ok (hx ⟨s, []⟩) h
  obtain ⟨sh, hrun, hworking, htrace', -⟩ :=
    run_of_sections hsections (start s) (t := 0) rfl fun _ => .inl rfl
  exact ⟨sh, hrun, hworking, htrace'.trans htrace.symm⟩

end Shared

/-! ## One product -/

/-- The units of `p` among some reservations. -/
def unitsOf (p : ProductId) (rs : List StockReservation) : ℕ :=
  (rs.map fun r => if r.product = p then r.quantity else 0).sum

@[simp] theorem unitsOf_nil (p : ProductId) : unitsOf p [] = 0 := rfl

@[simp] theorem unitsOf_append (p : ProductId) (rs rs' : List StockReservation) :
    unitsOf p (rs ++ rs') = unitsOf p rs + unitsOf p rs' := by
  simp [unitsOf]

/-- The stock of a tracked product without pre-orders covers what is reserved, and what is
    reserved is what the live reservations hold. -/
structure Covered (p : ProductId) (s : Stock) : Prop where
  trackStock : (s.inventory p).trackStock
  allowPreorder : (s.inventory p).allowPreorder = false
  ledger : (s.inventory p).reservedQuantity = s.reservations.total (liveQuantity p)
  reserved_le : (s.inventory p).reservedQuantity ≤ (s.inventory p).stockQuantity

/-- `Covered` is about one inventory and the shares in it. -/
theorem Covered.congr {p : ProductId} {s s' : Stock} (h : Covered p s)
    (hinv : s'.inventory p = s.inventory p) (hshare : ∀ i, s'.share p i = s.share p i) :
    Covered p s' := by
  obtain ⟨ht, hpre, hl, hle⟩ := h
  rw [← hinv] at ht hpre hl hle
  exact ⟨ht, hpre, hl.trans (Table.total_congr fun i => (hshare i).symm), hle⟩

/-- The clamp did not cut the decrement of the stock. -/
def Observation.Uncut (p : ProductId) : Observation → Prop
  | .clamped (.stockQuantity q) value quantity => q = p → quantity ≤ value
  | _ => True

section Shares

variable {s s' : Stock} {p : ProductId} {i j : ReservationId} {r : StockReservation}

theorem share_touch (h : s.Touches s') : s'.share p i = s.share p i := by
  rw [Stock.share, h.reservations, Stock.share]

theorem share_hold : (s.hold r).share p i =
    if i = s.reservations.next then liveQuantity p r else s.share p i := by
  rw [Stock.share, reservations_hold, Table.rows_insert]
  split <;> rfl

theorem share_modify {f : StockReservation → StockReservation}
    (h : s'.reservations = s.reservations.modify i f) (hrow : s.reservations.rows i = some r) :
    s'.share p j = if j = i then liveQuantity p (f r) else s.share p j := by
  rw [Stock.share, h, Table.rows_modify, hrow]
  split <;> rfl

end Shares

/-- What a section of a transaction does to one product: the product stays covered, its stock
    falls by what is handed over, and nothing of it changes without the locks. -/
structure Respects (p : ProductId) (sec : Section) (s : Stock) (obs : List Observation)
    (s' : Stock) : Prop where
  covered : Covered p s'
  stock : (s'.inventory p).stockQuantity + unitsOf p (sec.handedOver s) =
    (s.inventory p).stockQuantity
  uncut : ∀ o ∈ obs, o.Uncut p
  inventory : s'.inventory p ≠ s.inventory p → .inventory p ∈ sec.locks s
  share : ∀ i, s'.share p i ≠ s.share p i →
    .reservation i ∈ sec.locks s ∧ .inventory p ∈ sec.locks s
  handedOver : unitsOf p (sec.handedOver s) ≠ 0 → .inventory p ∈ sec.locks s

section Respect

variable {p : ProductId} {s s' : Stock} {i : ReservationId} {r : StockReservation}
  {obs : List Observation}

theorem Covered.quantityLedger (h : Covered p s) : QuantityLedger s p := fun _ => h.ledger

/-- A live reservation of the product is covered by the stock. -/
theorem Covered.quantity_le (h : Covered p s) (hrow : s.reservations.rows i = some r)
    (hlive : r.isLive) (hp : r.product = p) :
    r.quantity ≤ (s.inventory p).reservedQuantity ∧
      r.quantity ≤ (s.inventory p).stockQuantity := by
  subst hp
  have hle := h.quantityLedger.covers hrow hlive h.trackStock
  exact ⟨hle, hle.trans h.reserved_le⟩

theorem Covered.uncut (h : Covered p s) (hrow : s.reservations.rows i = some r)
    (hlive : r.isLive) {o : Observation} (ho : s.Clamps r o) : o.Uncut p := by
  rcases ho with ⟨-, rfl | rfl⟩ | rfl
  · trivial
  · rintro rfl
    exact (h.quantity_le hrow hlive rfl).2
  · trivial

theorem Covered.touch (h : Covered p s) (htouch : s.Touches s') : Covered p s' :=
  h.congr (htouch.inventory p) fun _ => share_touch htouch

/-- A write for another product is none of this product's business. -/
theorem inventory_hold_ne (hinv : s.inventories r.product ≠ none) (hp : p ≠ r.product) :
    (s.hold r).inventory p = s.inventory p := by
  rw [inventory_hold hinv, if_neg fun h => hp h.1]

theorem inventory_release_ne (hp : p ≠ r.product) (status : ReservationStatus) :
    (s.release i r status).inventory p = s.inventory p := by
  rw [inventory_release, if_neg fun h => hp h.1]

theorem inventory_consume_ne (hinv : s.inventories r.product ≠ none) (hp : p ≠ r.product) (n : ℕ) :
    (s.consume i r n).inventory p = s.inventory p := by
  rw [inventory_consume hinv, if_neg fun h => hp h.1]

theorem liveQuantity_ne (hp : p ≠ r.product) : liveQuantity p r = 0 := by
  simp [liveQuantity, Ne.symm hp]

theorem share_hold_ne (hp : p ≠ r.product) : (s.hold r).share p i = s.share p i := by
  rw [share_hold, liveQuantity_ne hp]
  split
  · next h => rw [h, Stock.share, s.reservations.fresh _ le_rfl, Option.elim_none]
  · rfl

/-- Ending a reservation changes its own share only. -/
theorem share_end {f : StockReservation → StockReservation} {j : ReservationId}
    (h : s'.reservations = s.reservations.modify i f) (hrow : s.reservations.rows i = some r)
    (hend : liveQuantity p (f r) = 0) (hne : s'.share p j ≠ s.share p j) :
    j = i ∧ r.product = p := by
  rw [share_modify h hrow] at hne
  split at hne
  · next hji =>
    subst hji
    refine ⟨rfl, ?_⟩
    by_contra hp
    rw [hend, Stock.share, hrow, Option.elim_some, liveQuantity_ne (Ne.symm hp)] at hne
    exact hne rfl
  · exact absurd rfl hne

theorem Covered.hold (h : Covered p s) (hstatus : r.status = .active)
    (hinv : s.inventories r.product ≠ none)
    (hstock : (s.inventory r.product).trackStock → (s.inventory r.product).allowPreorder = false →
      r.quantity ≤ (s.inventory r.product).availableQuantity) : Covered p (s.hold r) := by
  by_cases hp : p = r.product
  · subst hp
    have hinv' : (s.hold r).inventory r.product = _ :=
      (inventory_hold hinv).trans (if_pos ⟨rfl, h.trackStock⟩)
    have hfit := hstock h.trackStock h.allowPreorder
    rw [ProductInventory.availableQuantity, if_pos h.trackStock] at hfit
    have hle := h.reserved_le
    have ht : ((s.hold r).inventory r.product).trackStock := by rw [hinv']; exact h.trackStock
    refine ⟨ht, by rw [hinv']; exact h.allowPreorder, ?_, ?_⟩
    · exact h.quantityLedger.hold (.inl hstatus) hinv ht
    · rw [hinv']
      dsimp only
      omega
  · exact h.congr (inventory_hold_ne hinv hp) fun _ => share_hold_ne hp

theorem Covered.release (h : Covered p s) (hrow : s.reservations.rows i = some r)
    (hlive : r.isLive) {status : ReservationStatus}
    (hstatus : status = .released ∨ status = .expired) : Covered p (s.release i r status) := by
  have hl := h.quantityLedger.release hrow hlive hstatus
  have hle := h.reserved_le
  by_cases hp : p = r.product
  · subst hp
    have hinv : (s.release i r status).inventory r.product = _ :=
      (inventory_release status).trans (if_pos ⟨rfl, h.trackStock⟩)
    have ht : ((s.release i r status).inventory r.product).trackStock := by
      rw [hinv]; exact h.trackStock
    refine ⟨ht, by rw [hinv]; exact h.allowPreorder, hl ht, ?_⟩
    rw [hinv]
    dsimp only
    omega
  · have hinv : (s.release i r status).inventory p = _ := inventory_release_ne hp status
    have ht : ((s.release i r status).inventory p).trackStock := by rw [hinv]; exact h.trackStock
    exact ⟨ht, by rw [hinv]; exact h.allowPreorder, hl ht, by rw [hinv]; exact hle⟩

/-- Handing over takes from the stock what it takes from the reserved quantity. -/
theorem Covered.consume (h : Covered p s) (hrow : s.reservations.rows i = some r)
    (hlive : r.isLive) (hinv : s.inventories r.product ≠ none) (n : ℕ) :
    Covered p (s.consume i r n) ∧
      ((s.consume i r n).inventory p).stockQuantity + unitsOf p [r] =
        (s.inventory p).stockQuantity := by
  have hl := h.quantityLedger.consume hrow hlive hinv n
  have hle := h.reserved_le
  by_cases hp : p = r.product
  · subst hp
    have hinv' : (s.consume i r n).inventory r.product = _ :=
      (inventory_consume hinv n).trans (if_pos ⟨rfl, h.trackStock⟩)
    have ht : ((s.consume i r n).inventory r.product).trackStock := by
      rw [hinv']; exact h.trackStock
    obtain ⟨hreserved, hstock⟩ := h.quantity_le hrow hlive rfl
    refine ⟨⟨ht, by rw [hinv']; exact h.allowPreorder, hl ht, ?_⟩, ?_⟩
    · rw [hinv']
      dsimp only
      omega
    · rw [hinv', unitsOf, List.map_singleton, List.sum_singleton, if_pos rfl]
      exact Nat.sub_add_cancel hstock
  · have hinv' : (s.consume i r n).inventory p = _ := inventory_consume_ne hinv hp n
    have ht : ((s.consume i r n).inventory p).trackStock := by rw [hinv']; exact h.trackStock
    refine ⟨⟨ht, by rw [hinv']; exact h.allowPreorder, hl ht, by rw [hinv']; exact hle⟩, ?_⟩
    rw [hinv', unitsOf, List.map_singleton, List.sum_singleton, if_neg (Ne.symm hp), Nat.add_zero]

/-- The two sections that give units back differ only in the status they leave. -/
theorem Respects.of_release {sec : Section} {status : ReservationStatus} (h : Covered p s)
    (hlocks : sec.locks s = [.reservation i, .inventory r.product])
    (hhanded : sec.handedOver s = []) (hstatus : status = .released ∨ status = .expired)
    (hrow : s.reservations.rows i = some r) (hlive : r.isLive) (hobs : ∀ o ∈ obs, s.Clamps r o) :
    Respects p sec s obs (s.release i r status) where
  covered := h.release hrow hlive hstatus
  stock := by
    rw [hhanded, inventory_release]
    split <;> rfl
  uncut o ho := h.uncut hrow hlive (hobs o ho)
  inventory hne := by
    by_cases hp : p = r.product
    · simp [hlocks, hp]
    · exact absurd (inventory_release_ne hp status) hne
  share j hne := by
    obtain ⟨rfl, rfl⟩ := share_end (reservations_release s i r status) hrow
      (liveQuantity_of_ended (not_live_released r hstatus) p) hne
    simp [hlocks]
  handedOver hne := absurd (by rw [hhanded]; rfl) hne

theorem Section.Ran.respects {sec : Section} (h : sec.Ran s obs s') (hc : Covered p s) :
    Respects p sec s obs s' := by
  cases h.effect with
  | touch htouch =>
    exact
      { covered := hc.touch htouch
        stock := by rw [htouch.inventory]; rfl
        uncut := by simp
        inventory := fun hne => absurd (htouch.inventory p) hne
        share := fun i hne => absurd (share_touch htouch) hne
        handedOver := fun hne => absurd rfl hne }
  | @reserve _ _ _ _ _ _ s₁ _ r htouch hstatus hinv hcap hunits hstock =>
    have hstockQuantity : ((s₁.hold r).inventory p).stockQuantity =
        (s₁.inventory p).stockQuantity := by
      rw [inventory_hold hinv]
      split <;> rfl
    exact
      { covered := (hc.touch htouch).hold hstatus hinv hstock
        stock := by rw [hstockQuantity, htouch.inventory]; rfl
        uncut := by simp
        inventory := fun hne => by
          by_cases hp : p = r.product
          · simp [Section.locks, hp]
          · exact absurd ((inventory_hold_ne hinv hp).trans (htouch.inventory p)) hne
        share := fun i hne => by
          rw [← share_touch htouch] at hne
          by_cases hp : p = r.product
          · by_cases hi : i = s₁.reservations.next
            · simp [Section.locks, hp, hi, htouch.reservations]
            · rw [share_hold, if_neg hi] at hne
              exact absurd rfl hne
          · exact absurd (share_hold_ne hp) hne
        handedOver := fun hne => absurd rfl hne }
  | release i r hrow hlive hobs =>
    exact .of_release hc (by simp [Section.locks, hrow]) rfl (.inl rfl) hrow hlive hobs
  | expire i r hrow hlive hobs =>
    exact .of_release hc (by simp [Section.locks, hrow]) rfl (.inr rfl) hrow hlive hobs
  | confirm i r hrow hactive =>
    have hshare : ∀ j, (s.confirm i).share p j = s.share p j := fun j => by
      rw [share_modify (s := s) rfl hrow]
      split
      · next h =>
        rw [h, Stock.share, hrow]
        simp [liveQuantity, StockReservation.isLive, hactive]
      · rfl
    exact
      { covered := hc.congr rfl hshare
        stock := rfl
        uncut := by simp
        inventory := fun hne => absurd rfl hne
        share := fun j hne => absurd (hshare j) hne
        handedOver := fun hne => absurd rfl hne }
  | @fulfill _ s₁ _ inv cap i r htouch hrow hconfirmed hinv hcap hobs =>
    have hc' := hc.touch htouch
    have hinv' : s₁.inventories r.product ≠ none := by simp [hinv]
    have hrow₀ : s.reservations.rows i = some r := by rw [← htouch.reservations, hrow]
    have hlocks : Section.locks s (.fulfill i) = [.reservation i, .inventory r.product] := by
      simp [Section.locks, hrow₀]
    have hhanded : Section.handedOver s (.fulfill i) = [r] := by simp [Section.handedOver, hrow₀]
    obtain ⟨hcovered, hstock⟩ := hc'.consume hrow (.inr hconfirmed) hinv'
      (cap.fulfilledUnits + r.quantity)
    exact
      { covered := hcovered
        stock := by rw [hhanded, hstock, htouch.inventory]
        uncut := fun o ho => hc'.uncut hrow (.inr hconfirmed) (hobs o ho)
        inventory := fun hne => by
          by_cases hp : p = r.product
          · simp [hlocks, hp]
          · exact absurd ((inventory_consume_ne hinv' hp _).trans (htouch.inventory p)) hne
        share := fun j hne => by
          rw [← share_touch htouch] at hne
          obtain ⟨rfl, rfl⟩ := share_end (reservations_consume s₁ i r _) hrow
            (liveQuantity_of_ended (not_live_released r (.inl rfl)) p) hne
          simp [hlocks]
        handedOver := fun hne => by
          by_cases hp : p = r.product
          · simp [hlocks, hp]
          · simp [hhanded, unitsOf, Ne.symm hp] at hne }

end Respect

/-! ## The invariant of the interleavings -/

/-- Both versions of a product are covered, and its stock has fallen by what was handed over:
    in the committed version by committed transactions, in the working version also by the one
    that holds its inventory. -/
structure Safe (s₀ : Stock) (p : ProductId) (sh : Shared) : Prop where
  inventory : Isolated (inventoryField p) sh.versions
  share : ∀ i, Isolated (shareField p i) sh.versions
  committed : Covered p sh.versions.committed
  working : Covered p sh.versions.working
  sold : (sh.versions.committed.inventory p).stockQuantity + unitsOf p sh.fulfilled =
    (s₀.inventory p).stockQuantity
  selling : ∀ t, sh.versions.locks (.inventory p) = some t →
    (sh.versions.working.inventory p).stockQuantity + unitsOf p (sh.pending t) =
      (sh.versions.committed.inventory p).stockQuantity
  idle : ∀ t, sh.versions.locks (.inventory p) ≠ some t → unitsOf p (sh.pending t) = 0
  uncut : ∀ o ∈ sh.trace, o.Uncut p

section Invariant

variable {s₀ : Stock} {p : ProductId} {sh sh' : Shared}

theorem safe_start (h : Covered p s₀) : Safe s₀ p (.start s₀) where
  inventory hne := absurd rfl hne
  share _ hne := absurd rfl hne
  committed := h
  working := h
  sold := rfl
  selling _ ht := by simp [Shared.start] at ht
  idle _ _ := rfl
  uncut _ ho := by simp [Shared.start] at ho

/-- The committed product after a commit is the working one, if the committing transaction
    holds the product, and otherwise the one committed before. -/
theorem Safe.commit_cases (h : Safe s₀ p sh) (t : Tid) :
    let s := (sh.versions.commit Stock.overlay t).committed
    (sh.versions.locks (.inventory p) = some t ∧
        s.inventory p = sh.versions.working.inventory p ∧
        ∀ i, s.share p i = sh.versions.working.share p i) ∨
      (sh.versions.locks (.inventory p) ≠ some t ∧
        s.inventory p = sh.versions.committed.inventory p ∧
        ∀ i, s.share p i = sh.versions.committed.share p i) := by
  by_cases ht : sh.versions.locks (.inventory p) = some t
  · exact .inl ⟨ht, commit_of_holder h.inventory rfl ht,
      fun i => commit_of_holder (h.share i) (.inr rfl) ht⟩
  · exact .inr ⟨ht, commit_of_other h.inventory rfl ht,
      fun i => commit_of_other (h.share i) (.inr rfl) ht⟩

theorem Safe.rollback_cases (h : Safe s₀ p sh) (t : Tid) :
    let s := (sh.versions.rollback Stock.overlay t).working
    (sh.versions.locks (.inventory p) = some t ∧
        s.inventory p = sh.versions.committed.inventory p ∧
        ∀ i, s.share p i = sh.versions.committed.share p i) ∨
      (sh.versions.locks (.inventory p) ≠ some t ∧
        s.inventory p = sh.versions.working.inventory p ∧
        ∀ i, s.share p i = sh.versions.working.share p i) := by
  by_cases ht : sh.versions.locks (.inventory p) = some t
  · exact .inl ⟨ht, rollback_of_holder h.inventory rfl ht,
      fun i => rollback_of_holder (h.share i) (.inr rfl) ht⟩
  · exact .inr ⟨ht, rollback_of_other h.inventory rfl ht,
      fun i => rollback_of_other (h.share i) (.inr rfl) ht⟩

theorem Safe.commit (h : Safe s₀ p sh) (t : Tid) : Safe s₀ p
    { versions := sh.versions.commit Stock.overlay t
      pending := fun u => if u = t then [] else sh.pending u
      fulfilled := sh.fulfilled ++ sh.pending t
      trace := sh.trace } := by
  have hidle : ∀ u, sh.versions.unlocked t (.inventory p) ≠ some u →
      unitsOf p (if u = t then [] else sh.pending u) = 0 := fun u hu => by
    split
    · rfl
    · next hut => exact h.idle u fun hlock => hu (unlocked_of_other hlock hut)
  rcases h.commit_cases t with ⟨ht, hinv, hshare⟩ | ⟨ht, hinv, hshare⟩
  · refine ⟨h.inventory.commit, fun i => (h.share i).commit, h.working.congr hinv hshare, h.working,
      ?_, fun u hu => ?_, hidle, h.uncut⟩
    · have hsold := h.sold
      have hselling := h.selling t ht
      simp only [hinv, unitsOf_append]
      omega
    · obtain ⟨hlock, hne⟩ := locks_of_unlocked hu
      rw [ht, Option.some.injEq] at hlock
      exact absurd hlock.symm hne
  · refine ⟨h.inventory.commit, fun i => (h.share i).commit, h.committed.congr hinv hshare,
      h.working, ?_, fun u hu => ?_, hidle, h.uncut⟩
    · simp only [hinv, unitsOf_append, h.idle t ht, Nat.add_zero]
      exact h.sold
    · obtain ⟨hlock, hne⟩ := locks_of_unlocked hu
      simp only [hinv, if_neg hne]
      exact h.selling u hlock

theorem Safe.rollback (h : Safe s₀ p sh) (t : Tid) : Safe s₀ p
    { versions := sh.versions.rollback Stock.overlay t
      pending := fun u => if u = t then [] else sh.pending u
      fulfilled := sh.fulfilled
      trace := sh.trace } := by
  have hidle : ∀ u, sh.versions.unlocked t (.inventory p) ≠ some u →
      unitsOf p (if u = t then [] else sh.pending u) = 0 := fun u hu => by
    split
    · rfl
    · next hut => exact h.idle u fun hlock => hu (unlocked_of_other hlock hut)
  rcases h.rollback_cases t with ⟨ht, hinv, hshare⟩ | ⟨ht, hinv, hshare⟩
  · refine ⟨h.inventory.rollback, fun i => (h.share i).rollback, h.committed,
      h.committed.congr hinv hshare, h.sold, fun u hu => ?_, hidle, h.uncut⟩
    obtain ⟨hlock, hne⟩ := locks_of_unlocked hu
    rw [ht, Option.some.injEq] at hlock
    exact absurd hlock.symm hne
  · refine ⟨h.inventory.rollback, fun i => (h.share i).rollback, h.committed,
      h.working.congr hinv hshare, h.sold, fun u hu => ?_, hidle, h.uncut⟩
    obtain ⟨hlock, hne⟩ := locks_of_unlocked hu
    simp only [hinv, if_neg hne]
    exact h.selling u hlock

/-- While nobody holds the product, both versions of it have the same stock; while `t` holds it,
    the account of `t` makes up the difference. -/
theorem Safe.stock_of_mayLock (h : Safe s₀ p sh) {t : Tid}
    (hmay : sh.versions.MayLock t (.inventory p)) :
    (sh.versions.working.inventory p).stockQuantity + unitsOf p (sh.pending t) =
      (sh.versions.committed.inventory p).stockQuantity := by
  rcases hmay with hfree | hown
  · have hsame : sh.versions.working.inventory p = sh.versions.committed.inventory p := by
      by_contra hne
      obtain ⟨u, hu⟩ := h.inventory hne
      have := hu _ rfl
      rw [hfree] at this
      cases this
    rw [h.idle t (by rw [hfree]; simp), hsame, Nat.add_zero]
  · exact h.selling t hown

theorem Safe.run (h : Safe s₀ p sh) {t : Tid} {sec : Section} {s' : Stock}
    {obs : List Observation}
    (hlocks : ∀ k ∈ sec.locks sh.versions.working, sh.versions.MayLock t k)
    (hr : Respects p sec sh.versions.working obs s') : Safe s₀ p
    { versions := sh.versions.write t (sec.locks sh.versions.working) s'
      pending := fun u => if u = t then sh.pending t ++ sec.handedOver sh.versions.working
        else sh.pending u
      fulfilled := sh.fulfilled
      trace := sh.trace ++ obs } where
  inventory := h.inventory.write hlocks fun hne k hk => hk ▸ hr.inventory hne
  share i := (h.share i).write hlocks fun hne k hk => by
    obtain ⟨hres, hinv⟩ := hr.share i hne
    rcases hk with rfl | rfl
    · exact hres
    · exact hinv
  committed := h.committed
  working := hr.covered
  sold := h.sold
  selling u hu := by
    have hstock := hr.stock
    by_cases hmem : RowLock.inventory p ∈ sec.locks sh.versions.working
    · simp only [Versions.write, if_pos hmem, Option.some.injEq] at hu
      subst hu
      have hbefore := h.stock_of_mayLock (hlocks _ hmem)
      simp only [Versions.write, if_true, unitsOf_append]
      omega
    · simp only [Versions.write, if_neg hmem] at hu
      have hsame : s'.inventory p = sh.versions.working.inventory p := by
        by_contra hne
        exact hmem (hr.inventory hne)
      have hnone : unitsOf p (sec.handedOver sh.versions.working) = 0 := by
        by_contra hne
        exact hmem (hr.handedOver hne)
      have hbefore := h.selling u hu
      simp only [Versions.write, hsame]
      split
      · next hut =>
        rw [unitsOf_append, hnone, Nat.add_zero, ← hut]
        exact hbefore
      · exact hbefore
  idle u hu := by
    by_cases hmem : RowLock.inventory p ∈ sec.locks sh.versions.working
    · simp only [Versions.write, if_pos hmem, ne_eq, Option.some.injEq] at hu
      dsimp only
      rw [if_neg (Ne.symm hu)]
      refine h.idle u fun hlock => hu ?_
      rcases hlocks _ hmem with hfree | hown
      · rw [hfree] at hlock
        cases hlock
      · exact Option.some.inj (hown.symm.trans hlock)
    · simp only [Versions.write, if_neg hmem] at hu
      have hnone : unitsOf p (sec.handedOver sh.versions.working) = 0 := by
        by_contra hne
        exact hmem (hr.handedOver hne)
      dsimp only
      split
      · next hut => rw [unitsOf_append, hnone, ← hut, h.idle u hu]
      · exact h.idle u hu
  uncut o ho := (List.mem_append.1 ho).elim (h.uncut o) (hr.uncut o)

theorem Safe.step (h : Safe s₀ p sh) (hstep : Shared.Step sh sh') : Safe s₀ p sh' := by
  cases hstep with
  | check t product quantity cart answer hrun => exact h
  | run t sec hlocks hran => exact h.run hlocks (hran.respects h.working)
  | commit t => exact h.commit t
  | rollback t => exact h.rollback t

theorem safe_of_run (h : Covered p s₀) (hrun : Shared.Run (.start s₀) sh) : Safe s₀ p sh := by
  induction hrun with
  | refl => exact safe_start h
  | tail _ hstep ih => exact ih.step hstep

/-- A service that returns, which is a transaction alone, keeps a product covered, and no clamp has
    cut a decrement of its stock. -/
theorem covered_of_does {α : Type} {x : StockTx α} (hx : Does x) (h : Covered p s₀) {a : α}
    {s : Stock} {trace : List Observation} (hreturns : x ⟨s₀, []⟩ = (.ok a, ⟨s, trace⟩)) :
    Covered p s ∧ ∀ o ∈ trace, o.Uncut p := by
  obtain ⟨sh, hrun, rfl, rfl⟩ := Shared.run_of_does hx hreturns
  have hsafe := safe_of_run h hrun
  exact ⟨hsafe.working, hsafe.uncut⟩

end Invariant

/-- From a covered product, in every state of every interleaving: what is reserved is in stock,
    in the committed rows and in the rows under lock; the committed stock has fallen by exactly
    the units of the reservations handed over; and no clamp has cut a decrement of the stock. -/
theorem no_oversell {s₀ : Stock} {p : ProductId} (h : Covered p s₀) {sh : Shared}
    (hrun : Shared.Run (.start s₀) sh) :
    (sh.versions.committed.inventory p).reservedQuantity ≤
        (sh.versions.committed.inventory p).stockQuantity ∧
      (sh.versions.working.inventory p).reservedQuantity ≤
        (sh.versions.working.inventory p).stockQuantity ∧
      (sh.versions.committed.inventory p).stockQuantity + unitsOf p sh.fulfilled =
        (s₀.inventory p).stockQuantity ∧
      ∀ o ∈ sh.trace, o.Uncut p := by
  have hsafe := safe_of_run h hrun
  exact ⟨hsafe.committed.reserved_le, hsafe.working.reserved_le, hsafe.sold, hsafe.uncut⟩

/-- The first loaf on the shelf is covered: three in stock, none reserved. -/
theorem shelf_covered : Covered 0 shelf.stock where
  trackStock := rfl
  allowPreorder := rfl
  ledger := rfl
  reserved_le := Nat.zero_le _

/-- One transaction books two loaves and commits, then another one books the third. -/
theorem no_oversell_shelf : ∃ sh : Shared, Shared.Run (.start shelf.stock) sh ∧
    (sh.versions.working.inventory 0).reservedQuantity = 3 ∧
    (sh.versions.committed.inventory 0).reservedQuantity = 2 ∧
    (sh.versions.working.inventory 0).reservedQuantity ≤
      (sh.versions.working.inventory 0).stockQuantity := by
  let booked := (reserveItem {} none 0 2 (some 7) 30 ⟨shelf.stock, []⟩).2.db
  have first : (Section.reserve {} none 0 2 (some 7) 30).Ran shelf.stock [] booked :=
    ⟨trivial, [], rfl⟩
  have second : (Section.reserve {} none 0 1 (some 8) 30).Ran booked []
      (reserveItem {} none 0 1 (some 8) 30 ⟨booked, []⟩).2.db := ⟨trivial, [], rfl⟩
  have run := ((Shared.Run.refl : Shared.Run (.start shelf.stock) _).tail
    (.run 1 _ (fun _ _ => .inl rfl) first)).tail (.commit 1)
  have run' := run.tail (.run 2 _ (fun k _ => .inl ?_) second)
  · exact ⟨_, run', rfl, rfl, (no_oversell shelf_covered run').2.1⟩
  · -- the first transaction has let go of its rows
    simp [Versions.commit, Versions.unlocked, Versions.write, Shared.start]

end Crumbs
