import Crumbs.Inventory.Ledger
import Crumbs.Lifecycle.Runs

/-!
# Merging Carts

A guest's cart goes into the cart of the user that logs in: its lines are added there, which holds
stock for the user's cart, and then it is deleted. Its own holds are rows that refer to it, and
disappear with it; nothing gives their units back.

## Contents

- `addItem_does`: additions are chains of sections
- `addItems_spec`: what the loop of a merge keeps
- `ledger_erase_iff`: what deleting reservations does to the ledger
- `ledger_mergeCarts_iff`, `not_forall_ledger_mergeCarts`: when a merge keeps the ledger
-/

namespace Crumbs

open Crumbs.Db StockReservation

/-! ## Additions and the ledger -/

section Does

variable {α : Type} {env : Env} {c : CartId} {product : ProductId} {quantity : ℤ}

theorem Does.raise (e : Exn) : Does (Tx.raise e : StockTx α) := fun _ => Abandoned.of_ext rfl

theorem Does.check {p : Prop} [Decidable p] (e : Exn) : Does (Tx.when p (Tx.raise e)) := fun w =>
  Tx.wp_when.2 ⟨fun _ => Does.raise e w, fun _ => Reached.refl w⟩

theorem checkCartAvailability_does (cart : Option CartId) :
    Does (checkCartAvailability product quantity cart) := by
  refine Does.getDb.bind fun stock => (Does.check _).bind fun _ => ?_
  refine (getOrCreateInventory_does product).bind fun inventory w => Tx.wp_ite.2
    ⟨fun _ => Reached.refl w, fun _ => ?_⟩
  exact (Does.getDb.bind fun _ => Does.check _) w

theorem ShopDoes.check {p : Prop} [Decidable p] (e : Exn) :
    ShopDoes (Tx.when p (Tx.raise e)) := fun w =>
  Tx.wp_when.2 ⟨fun _ => Abandoned.of_ext rfl, fun _ => Reached.refl (stockWorld w)⟩

/-- Computations that change nothing. -/
theorem ShopDoes.of_reads {x : ShopTx α} (h : x.Steps Eq) : ShopDoes x := fun w =>
  Tx.wp_mono (h w) (fun _ _ h => h ▸ Reached.refl (stockWorld w)) fun _ _ h => h ▸ .of_ext rfl

theorem saveCartItem_does : ShopDoes (saveCartItem c product quantity) := by
  rw [saveCartItem]
  split
  · exact ShopDoes.bind (.modifyDb fun _ => rfl) fun _ => .pure _
  · exact fun _ => Abandoned.of_ext rfl

/-- An addition is a chain of sections. -/
theorem addItem_does : ShopDoes (addItem env c product quantity) := by
  refine ShopDoes.atomic ((ShopDoes.of_reads (ensureCartMutable_reads c)).bind fun _ => ?_)
  refine (ShopDoes.check _).bind fun _ => ShopDoes.getDb.bind fun shop => ?_
  refine ShopDoes.bind (ShopDoes.getDb.bind fun _ => (ShopDoes.check _).bind fun _ =>
    (checkCartAvailability_does _).onStock) fun _ => ?_
  refine saveCartItem_does.bind fun item => ?_
  exact (reserveForCartItem_does env c product item.quantity).onStock.bind fun _ => .pure _

end Does

/-! ## The loop -/

section Merge

variable {env : Env} {source target : CartId} {w w' : World Shop (List Observation)}

/-- An addition to the target leaves the holds of other carts. -/
theorem addItem_reshelves {item : CartItem} (w : World Shop (List Observation)) :
    (addItem env target item.product item.quantity).Ensures
      (fun _ w' => Reshelves target w.db.stock.reservations w'.db.stock.reservations) w := by
  refine (addItem_made (w := w) (b := w.db.books) rfl).mono fun _ w' h => ?_
  obtain ⟨items, holds, heq | ⟨ch, hch, hguard, heq⟩⟩ := h
  · rw [show w'.db.stock.reservations = w.db.stock.reservations from congrArg Books.holds heq]
    exact .refl _ _
  · obtain rfl := List.mem_singleton.1 hch
    rw [show w'.db.stock.reservations = holds from congrArg Books.holds heq]
    exact hguard

/-- The loop of a merge is a chain of sections, and leaves the holds of other carts. -/
theorem addItems_spec (items : List CartItem) (w : World Shop (List Observation)) :
    (items.forM fun item => Tx.void (addItem env target item.product item.quantity)).Ensures
      (fun _ w' => Reached (stockWorld w) (stockWorld w') ∧
        Reshelves target w.db.stock.reservations w'.db.stock.reservations) w := by
  induction items generalizing w with
  | nil => exact ⟨.refl _, .refl _ _⟩
  | cons item rest ih =>
    refine Tx.Ensures.bind (P := fun _ w' => Reached (stockWorld w) (stockWorld w') ∧
      Reshelves target w.db.stock.reservations w'.db.stock.reservations) ?_ fun _ w₁ h₁ => ?_
    · refine Tx.wp_void.2 (Tx.wp_mono (Tx.wp_and (addItem_does w) (addItem_reshelves w))
        (fun _ _ h => h) fun _ _ _ => trivial)
    · exact (ih w₁).mono fun _ _ h => ⟨h₁.1.trans h.1, h₁.2.trans h.2⟩

/-! ## Deleting holds -/

/-- Deleting reservations without giving their units back keeps the ledger if and only if those that
    are live hold nothing. -/
theorem ledger_erase_iff {s : Stock} (hl : Ledger s) (P : StockReservation → Bool) :
    Ledger { s with reservations := s.reservations.eraseWhere P } ↔
      ∀ i r, s.reservations.rows i = some r → P r → r.isLive → r.quantity = 0 := by
  constructor
  · intro h i r hrow hP hlive
    have hbefore := hl.units r.product r.productionDate
    have hafter := h.units r.product r.productionDate
    have herase := s.reservations.total_eraseWhere P (liveUnits r.product r.productionDate)
    have hle := Table.le_total hrow
      fun r' => if P r' then liveUnits r.product r.productionDate r' else 0
    rw [UnitsLedger] at hbefore hafter
    have hsame := hbefore.symm.trans hafter
    dsimp only at hsame hle
    rw [if_pos hP, liveUnits, if_pos ⟨hlive, rfl, rfl⟩] at hle
    omega
  · intro h
    have hkeeps (f : StockReservation → ℕ) (hf : ∀ r, ¬r.isLive ∨ r.quantity = 0 → f r = 0) :
        (s.reservations.eraseWhere P).total f = s.reservations.total f := by
      have herase := s.reservations.total_eraseWhere P f
      have hnone : s.reservations.total (fun r => if P r then f r else 0) = 0 := by
        refine Table.total_eq_zero fun i r hrow => ?_
        by_cases hP : P r
        · rw [if_pos hP]
          exact hf r (or_iff_not_imp_left.2 fun hlive => h i r hrow hP (not_not.1 hlive))
        · rw [if_neg hP]
      omega
    refine ⟨fun p htrack => ?_, fun p d => ?_⟩
    · refine (hl.quantity p htrack).trans (hkeeps _ fun r hr => ?_).symm
      rw [liveQuantity]
      split
      next hcount => exact hr.resolve_left (not_not.2 hcount.1)
      next => rfl
    · refine (hl.units p d).trans (hkeeps _ fun r hr => ?_).symm
      rw [liveUnits]
      split
      next hcount => exact hr.resolve_left (not_not.2 hcount.1)
      next => rfl

/-! ## The merge -/

/-- What a merge has done when it deletes the cart. -/
theorem mergeCarts_of_ok (hne : source ≠ target) (h : mergeCarts env source target w = (.ok (), w')) :
    ∃ w₁, Reached (stockWorld w) (stockWorld w₁) ∧
      Reshelves target w.db.stock.reservations w₁.db.stock.reservations ∧
      w'.db.stock = { w₁.db.stock with
        reservations := w₁.db.stock.reservations.eraseWhere fun r => r.cart = some source } := by
  have hrun := (Tx.ite_of_not hne).symm.trans (Tx.atomic_eq_ok h)
  obtain ⟨shop, w₀, hshop, hrun⟩ := Tx.bind_eq_ok hrun
  cases hshop
  obtain ⟨_, w₁, hitems, hdelete⟩ := Tx.bind_eq_ok hrun
  obtain ⟨hreached, hreshelves⟩ := (addItems_spec _ w).of_ok hitems
  cases hdelete
  exact ⟨w₁, hreached, hreshelves, rfl⟩

/-- A merge keeps the ledger if and only if the cart that goes away holds no units: the rows of its
    holds are deleted with it, and their units stay reserved for nobody. -/
theorem ledger_mergeCarts_iff (hne : source ≠ target) (hl : Ledger w.db.stock)
    (h : mergeCarts env source target w = (.ok (), w')) :
    Ledger w'.db.stock ↔ ∀ i r, w.db.stock.reservations.rows i = some r → r.cart = some source →
      r.isLive → r.quantity = 0 := by
  obtain ⟨w₁, ⟨obs, hsections, -⟩, hreshelves, hstock⟩ := mergeCarts_of_ok hne h
  rw [hstock]
  refine (ledger_erase_iff (hsections.ledger hl).1 _).trans (forall₂_congr fun i r => ?_)
  by_cases hcart : r.cart = some source
  · have hother : r.cart ≠ some target := fun h => hne (Option.some.inj (hcart.symm.trans h))
    exact imp_congr (hreshelves.others i r hother) (imp_congr_left decide_eq_true_iff)
  · exact iff_of_true (fun _ hP => (hcart (of_decide_eq_true hP)).elim) fun _ hP => (hcart hP).elim

end Merge

/-- A guest and a user with empty carts. Loaves are counted, cakes are baked to order. -/
def visitors : Shop where
  stock :=
    { products := fun _ => { name := "Loaf", price := 200000, availabilityStatus := .available }
      inventories := fun p =>
        some (if p = 0 then { stockQuantity := 3, allowPreorder := false } else { trackStock := false }) }
  carts := (Table.empty.insert
    { user := none, sessionKey := some "guest", activeCheckoutOrder := none }).insert
      { user := some 1, sessionKey := none, activeCheckoutOrder := none }

/-- The guest has put one unit of a product into the cart. -/
def guestAdds (product : ProductId) : World Shop (List Observation) :=
  (addItem {} 0 product 1 ⟨visitors, []⟩).2

theorem guestAdds_ledger (product : ProductId) (h : (addItem {} 0 product 1 ⟨visitors, []⟩).1.isOk) :
    Ledger (guestAdds product).db.stock := by
  have hstart : Ledger visitors.stock := by
    refine ⟨fun p _ => ?_, fun p d => rfl⟩
    by_cases hp : p = 0 <;> simp [visitors, Stock.inventory, hp]
  have hdoes := (addItem_does : ShopDoes (addItem {} 0 product 1)) ⟨visitors, []⟩
  rw [guestAdds]
  rcases hrun : addItem {} 0 product 1 ⟨visitors, []⟩ with ⟨e | item, w⟩
  · rw [hrun] at h
    cases h
  · obtain ⟨obs, hsections, -⟩ := Tx.wp_of_ok hdoes hrun
    exact (hsections.ledger hstart).1

theorem ledger_mergeCarts_iff_cake : Ledger (mergeCarts {} 0 1 (guestAdds 1)).2.db.stock := by
  refine (ledger_mergeCarts_iff (by decide) (guestAdds_ledger 1 (by decide +kernel))
    (Tx.run_of_fst (by decide +kernel))).2 fun i r hrow => ?_
  have hnext : (guestAdds 1).db.stock.reservations.next = 0 := by decide +kernel
  have hlt := Table.lt_next hrow
  omega

/-- A guest's loaf stays reserved twice when the carts are merged. -/
theorem not_forall_ledger_mergeCarts : ¬∀ (env : Env) (source target : CartId)
    (w w' : World Shop (List Observation)), source ≠ target → Ledger w.db.stock →
      mergeCarts env source target w = (.ok (), w') → Ledger w'.db.stock := by
  intro h
  have hrun : mergeCarts {} 0 1 (guestAdds 0) = (.ok (), (mergeCarts {} 0 1 (guestAdds 0)).2) :=
    Tx.run_of_fst (by decide +kernel)
  have hledger := h {} 0 1 _ _ (by decide) (guestAdds_ledger 0 (by decide +kernel)) hrun
  have hsum := hledger.quantity 0 (by decide +kernel)
  have hreserved : ((mergeCarts {} 0 1 (guestAdds 0)).2.db.stock.inventory 0).reservedQuantity = 2 := by
    decide +kernel
  have hlive : (mergeCarts {} 0 1 (guestAdds 0)).2.db.stock.reservations.total
      (liveQuantity 0) = 1 := by decide +kernel
  rw [hreserved, hlive] at hsum
  cases hsum

end Crumbs
