import Crumbs.Lifecycle.OneOrder
import Crumbs.Lifecycle.Snapshot

/-!
# The Units of a Cart

What additions put into a cart is in the cart, or in the orders that were made of it. This is so as
long as nobody writes what a call has read and is about to write; two additions to one line can
read the same quantity, and then one of them is lost.

## Contents

- `KeepsUnits`: no unit is lost
- `CartCalls.Undisturbed`: the condition, along a run
- `lineQuantity_put`: the lines of a cart after one is put
- `UnitsKept`: the invariant
- `keepsUnits_of_undisturbed`, `not_keepsUnits_twoAdditions`
-/

namespace Crumbs

open Crumbs.Db

/-! ## The property -/

/-- The units of a product on the lines of an order. -/
def orderQuantity (shop : Shop) (o : OrderId) (p : ProductId) : ℕ :=
  (((shop.orderItems o).filter (·.product = p)).map (·.quantity)).sum

namespace CartCalls

/-- The units of a product in additions that have returned. -/
def addedUnits (s : CartCalls) (p : ProductId) : ℤ :=
  ((s.added.filter (·.1 = p)).map (·.2)).sum

/-- The units of a product in the orders that checkouts have made. -/
def createdUnits (s : CartCalls) (p : ProductId) : ℤ :=
  (s.created.map fun o => (orderQuantity s.db.shop o p : ℤ)).sum

end CartCalls

/-- The units that were in the cart, and those that were added to it, are in orders or still in the
    cart. -/
def KeepsUnits (c : CartId) (db : Database) (s : CartCalls) : Prop :=
  ∀ p, (lineQuantity (db.shop.cartItems c) p : ℤ) + s.addedUnits p =
    s.createdUnits p + lineQuantity (s.db.shop.cartItems c) p

/-- A row is still what the call has read that writes it: the line that an addition saves, unless it
    is gone, and the lines that a checkout deletes. -/
def CartAction.Undisturbed (c : CartId) (s : CartCalls) : CartAction → Prop
  | addSaves t _ =>
    match s.calls t with
    | .adding product _ (.read (some line) n) =>
      n = s.created.length → s.db.shop.cartItem c product = some line
    | _ => True
  | checksOut t _ =>
    match s.calls t with
    | .checkingOut _ _ (some items) => items = s.db.shop.cartItems c
    | _ => True
  | _ => True

instance (c : CartId) (s : CartCalls) (action : CartAction) : Decidable (action.Undisturbed c s) := by
  unfold CartAction.Undisturbed
  repeat' split
  all_goals infer_instance

/-- Every call of the run finds the rows that it writes as it has read them. -/
def CartCalls.Undisturbed (c : CartId) (s : CartCalls) : List CartAction → Prop
  | [] => True
  | action :: rest => action.Undisturbed c s ∧
      match s.step c action with
      | some s' => s'.Undisturbed c rest
      | none => True

instance CartCalls.decidableUndisturbed (c : CartId) :
    (s : CartCalls) → (actions : List CartAction) → Decidable (s.Undisturbed c actions)
  | _, [] => .isTrue trivial
  | s, action :: rest =>
    haveI : Decidable (match s.step c action with
        | some s' => s'.Undisturbed c rest
        | none => True) :=
      match s.step c action with
      | some s' => CartCalls.decidableUndisturbed c s' rest
      | none => .isTrue trivial
    inferInstanceAs (Decidable (_ ∧ _))

/-! ## The lines of a cart -/

section Lines

variable {items : List CartItem} {item : CartItem} {p : ProductId}

theorem lineQuantity_cons (x : CartItem) (items : List CartItem) (p : ProductId) :
    lineQuantity (x :: items) p = (if x.product = p then x.quantity else 0) + lineQuantity items p := by
  simp only [lineQuantity, List.filter_cons, decide_eq_true_eq]
  split
  · rw [List.map_cons, List.sum_cons]
  · rw [Nat.zero_add]

theorem lineQuantity_append (items items' : List CartItem) (p : ProductId) :
    lineQuantity (items ++ items') p = lineQuantity items p + lineQuantity items' p := by
  simp only [lineQuantity, List.filter_append, List.map_append, List.sum_append]

/-- Replacing a line leaves the others. -/
theorem lineQuantity_replace (hunique : (items.map (·.product)).Nodup) {line : CartItem}
    (hline : items.find? (·.product = item.product) = some line) (p : ProductId) :
    (lineQuantity (items.map fun old => if old.product = item.product then item else old) p : ℤ) =
      lineQuantity items p + if item.product = p then (item.quantity : ℤ) - line.quantity else 0 := by
  induction items with
  | nil => exact nomatch hline
  | cons x rest ih =>
    rw [List.map_cons, List.nodup_cons] at hunique
    rw [List.map_cons, lineQuantity_cons, lineQuantity_cons]
    by_cases hx : x.product = item.product
    · obtain rfl : x = line := by
        rw [List.find?_cons_of_pos (by exact decide_eq_true hx)] at hline
        exact Option.some.inj hline
      -- no other line is for this product
      have hrest : (rest.map fun old => if old.product = item.product then item else old) = rest := by
        refine (List.map_congr_left fun old hold => ?_).trans (List.map_id rest)
        refine if_neg fun hsame => hunique.1 ?_
        exact List.mem_map.2 ⟨old, hold, hsame.trans hx.symm⟩
      rw [hrest, if_pos hx, hx]
      split <;> push_cast <;> omega
    · rw [List.find?_cons_of_neg (by simpa using hx)] at hline
      rw [if_neg hx]
      have hih := ih hunique.2 hline
      push_cast
      omega

/-- Putting a line changes the units of its product by the difference to the line before. -/
theorem lineQuantity_put {shop : Shop} {c : CartId}
    (hunique : ((shop.cartItems c).map (·.product)).Nodup) (item : CartItem) (p : ProductId) :
    (lineQuantity ((shop.putCartItem c item).cartItems c) p : ℤ) =
      lineQuantity (shop.cartItems c) p + if item.product = p then
        (item.quantity : ℤ) - (shop.cartItem c item.product).elim 0 (fun l => (l.quantity : ℤ))
      else 0 := by
  have hitems : (shop.putCartItem c item).cartItems c =
      if (shop.cartItem c item.product).isSome then
        (shop.cartItems c).map fun old => if old.product = item.product then item else old
      else shop.cartItems c ++ [item] := if_pos rfl
  rw [hitems]
  cases hline : shop.cartItem c item.product with
  | some line => exact lineQuantity_replace hunique hline p
  | none =>
    simp only [Option.isSome_none, Bool.false_eq_true, if_false, lineQuantity_append,
      lineQuantity_cons, Option.elim_none, sub_zero]
    rw [show lineQuantity [] p = 0 from rfl, Nat.add_zero]
    push_cast
    split <;> rfl

/-- A cart has one line for a product. -/
theorem nodup_put {shop : Shop} {c : CartId}
    (hunique : ((shop.cartItems c).map (·.product)).Nodup) (item : CartItem) :
    (((shop.putCartItem c item).cartItems c).map (·.product)).Nodup := by
  have hitems : (shop.putCartItem c item).cartItems c =
      if (shop.cartItem c item.product).isSome then
        (shop.cartItems c).map fun old => if old.product = item.product then item else old
      else shop.cartItems c ++ [item] := if_pos rfl
  rw [hitems]
  cases hline : shop.cartItem c item.product with
  | some line =>
    rw [Option.isSome_some, if_pos rfl, List.map_map]
    refine (List.map_congr_left fun old _ => ?_) ▸ hunique
    dsimp only [Function.comp]
    split
    next hsame => exact hsame
    next => rfl
  | none =>
    rw [Option.isSome_none, if_neg Bool.false_ne_true, List.map_append]
    refine List.nodup_append.2 ⟨hunique, List.nodup_singleton _, ?_⟩
    rintro _ hold _ hnew rfl
    obtain ⟨old, hmem, hproduct⟩ := List.mem_map.1 hold
    have hnot := List.find?_eq_none.1 hline old hmem
    exact hnot (decide_eq_true (hproduct.trans (List.mem_singleton.1 hnew)))

end Lines

/-! ## Orders that are there -/

section Orders

variable {b : Books} {ch : Change} {o : OrderId}

/-- An order that is there keeps its lines through whatever happens in the shop. -/
theorem lines_exec {step : Step} {db : Database} (h : o < db.shop.orders.next) :
    o < (step.exec db).db.shop.orders.next ∧
      (step.exec db).db.shop.books.lines o = db.shop.books.lines o := by
  refine (step.follows db).inv (I := fun b => o < b.orders.next ∧ b.lines o = db.shop.books.lines o)
    ⟨h, rfl⟩ fun b ch hb _ _ => ⟨hb.1.trans_le (Change.next_le_apply b ch), ?_⟩
  exact (Change.lines_apply hb.1).trans hb.2

theorem orderQuantity_eq (shop : Shop) (o : OrderId) (p : ProductId) : orderQuantity shop o p =
    (((shop.books.lines o).filter (·.product = p)).map (·.quantity)).sum := by
  change _ = ((((shop.orderItems o).map OrderItem.line).filter (·.product = p)).map (·.quantity)).sum
  rw [List.filter_map, List.map_map]
  rfl

theorem orderQuantity_congr {shop shop' : Shop} (h : shop'.books.lines o = shop.books.lines o)
    (p : ProductId) : orderQuantity shop' o p = orderQuantity shop o p := by
  rw [orderQuantity_eq, orderQuantity_eq, h]

end Orders

/-! ## The invariant -/

/-- No unit is lost so far; a cart has one line for a product, and the orders made are there. -/
structure UnitsKept (c : CartId) (db : Database) (s : CartCalls) : Prop where
  locked : Locked c s
  unique : ((s.db.shop.cartItems c).map (·.product)).Nodup
  made : ∀ o ∈ s.created, o < s.db.shop.orders.next
  units : KeepsUnits c db s

section Invariant

variable {c : CartId} {db : Database} {s s' : CartCalls} {t : CallId}

theorem unitsKept_start (hunique : ((db.shop.cartItems c).map (·.product)).Nodup) :
    UnitsKept c db (.start db) where
  locked := locked_start c db
  unique := hunique
  made _ ho := absurd ho List.not_mem_nil
  units _ := (add_comm ..)

/-- A step that writes no line and makes no order. -/
theorem UnitsKept.congr (h : UnitsKept c db s) (hlocked : Locked c s')
    (hitems : s'.db.shop.cartItems c = s.db.shop.cartItems c) (hadded : s'.added = s.added)
    (hcreated : s'.created = s.created) (hnext : s.db.shop.orders.next ≤ s'.db.shop.orders.next)
    (hlines : ∀ o ∈ s.created, s'.db.shop.books.lines o = s.db.shop.books.lines o) :
    UnitsKept c db s' := by
  refine ⟨hlocked, hitems ▸ h.unique, fun o ho => (h.made o (hcreated ▸ ho)).trans_le hnext,
    fun p => ?_⟩
  have hunits := h.units p
  have hmade : s'.createdUnits p = s.createdUnits p := by
    rw [CartCalls.createdUnits, hcreated, CartCalls.createdUnits]
    refine congrArg List.sum (List.map_congr_left fun o ho => ?_)
    rw [orderQuantity_congr (hlines o ho)]
  rw [CartCalls.addedUnits] at hunits ⊢
  rw [hadded, hmade, hitems]
  exact hunits

theorem UnitsKept.setCall (h : UnitsKept c db s) {call : CallState}
    (hlocked : Locked c (s.setCall t call)) : UnitsKept c db (s.setCall t call) :=
  h.congr hlocked rfl rfl rfl le_rfl fun _ _ => rfl

/-- An addition whose line is as it was read adds its quantity. -/
theorem UnitsKept.saves (h : UnitsKept c db s) {env : Env} {product : ProductId} {quantity : ℤ}
    {line : Option CartItem} (hline : s.db.shop.cartItem c product = line) :
    UnitsKept c db (s.saves c t env product quantity line) := by
  have hlocked := h.locked.saves (t := t) env product quantity line
  rcases saves_cases (c := c) env s t product quantity line with heq |
    ⟨item, shop', hproduct, hquantity, hshop, heq⟩ <;> rw [heq] at hlocked ⊢
  · exact h.setCall hlocked
  · have hitems : shop'.cartItems c = (s.db.shop.putCartItem c item).cartItems c := by rw [hshop]
    have hlines (o : OrderId) (p : ProductId) :
        orderQuantity shop' o p = orderQuantity s.db.shop o p := by
      rw [hshop]
      rfl
    have hnext : shop'.orders.next = s.db.shop.orders.next := by
      rw [hshop]
      rfl
    refine ⟨hlocked, ?_, fun o ho => hnext.symm ▸ h.made o ho, fun p => ?_⟩
    · exact hitems.symm ▸ nodup_put h.unique item
    · have hunits := h.units p
      have hput := lineQuantity_put h.unique item p
      rw [hproduct, hline] at hput
      simp only [CartCalls.addedUnits, CartCalls.createdUnits, CartCalls.created_setCall,
        List.filter_append, List.map_append, List.sum_append, hlines, hitems] at hunits ⊢
      by_cases hp : product = p
      · rw [if_pos hp] at hput
        rw [List.filter_cons_of_pos (by exact decide_eq_true hp), List.filter_nil, List.map_singleton,
          List.sum_singleton, hput]
        omega
      · rw [if_neg hp] at hput
        rw [List.filter_cons_of_neg (by simpa using hp), List.filter_nil, List.map_nil, List.sum_nil,
          hput]
        omega

/-- A checkout that has read the lines as they are moves their units to its order. -/
theorem UnitsKept.checksOut (h : UnitsKept c db s) {env : Env} {checkout : Checkout} {cart : Cart}
    {items : List CartItem} (hcall : s.calls t = .checkingOut checkout cart (some items))
    (hitems : items = s.db.shop.cartItems c)
    (hlocked : Locked c (s.checksOut c t env checkout cart items)) :
    UnitsKept c db (s.checksOut c t env checkout cart items) := by
  rcases h.locked.checksOut_cases env hcall hitems with heq | ⟨o, shop', heq, hout⟩ <;>
    rw [heq] at hlocked ⊢
  · exact h.congr hlocked rfl rfl rfl le_rfl fun _ _ => rfl
  · rcases hout with ⟨hbooks, hthere⟩ | ⟨hfresh, hnew⟩
    · refine h.congr hlocked (congrFun (congrArg Books.cartItems hbooks) c) rfl (if_neg hthere) ?_
        fun o _ => congrFun (congrArg Books.lines hbooks) o
      exact (congrArg (·.orders.next) hbooks).ge
    · have hempty : shop'.cartItems c = [] := hnew.emptied
      have hlines (o' : OrderId) : shop'.books.lines o' =
          if o' = o then s.db.shop.books.cartLines c else s.db.shop.books.lines o' :=
        congrFun hnew.lines o'
      have hnext : shop'.orders.next = s.db.shop.orders.next + 1 := hnew.next
      have horder : o = s.db.shop.orders.next := hnew.order
      refine ⟨hlocked, ?_, fun o' ho' => ?_, fun p => ?_⟩
      · dsimp only
        rw [hempty]
        exact List.nodup_nil
      · dsimp only at ho' ⊢
        rw [if_pos hfresh, List.mem_append, List.mem_singleton] at ho'
        rw [hnext]
        rcases ho' with hold | rfl
        · exact (h.made o' hold).trans (Nat.lt_succ_self _)
        · exact horder ▸ Nat.lt_succ_self _
      · have hunits := h.units p
        have hmoved : orderQuantity shop' o p = lineQuantity (s.db.shop.cartItems c) p := by
          rw [orderQuantity_eq, hlines, if_pos rfl]
          exact lineQuantity_eq s.db.shop.books (s.db.shop.cartItems c) p
        have hothers : (s.created.map fun o' => (orderQuantity shop' o' p : ℤ)) =
            s.created.map fun o' => (orderQuantity s.db.shop o' p : ℤ) := by
          refine List.map_congr_left fun o' ho' => ?_
          rw [orderQuantity_congr ((hlines o').trans (if_neg ?_))]
          exact horder ▸ (h.made o' ho').ne
        simp only [CartCalls.addedUnits, CartCalls.createdUnits, CartCalls.added_setCall, hfresh,
          if_true, List.map_append, List.sum_append, hothers, List.map_cons, List.map_nil,
          List.sum_cons, List.sum_nil, hmoved, hempty] at hunits ⊢
        rw [show lineQuantity [] p = 0 from rfl]
        push_cast
        omega

theorem UnitsKept.step (h : UnitsKept c db s) {action : CartAction}
    (hcalm : action.Undisturbed c s) (hstep : s.step c action = some s') : UnitsKept c db s' := by
  have hlocked := h.locked.step hstep
  cases action with
  | addBegins t product quantity =>
    have heq := CartCalls.step_addBegins hstep
    rcases CartCalls.goesOn_cases s t _ _ with hgoes | hgoes <;> rw [heq, hgoes] at hlocked ⊢ <;>
      exact h.setCall hlocked
  | addChecks t =>
    obtain ⟨product, quantity, heq⟩ := CartCalls.step_addChecks hstep
    rcases CartCalls.goesOn_cases s t _ _ with hgoes | hgoes <;> rw [heq, hgoes] at hlocked ⊢ <;>
      exact h.setCall hlocked
  | addReads t =>
    obtain ⟨product, quantity, rfl⟩ := CartCalls.step_addReads hstep
    exact h.setCall hlocked
  | addSaves t env =>
    obtain ⟨product, quantity, line, n, hcall, ⟨-, hnone, rfl⟩ | ⟨-, found, rfl⟩ | rfl |
      ⟨hsome, hn, rfl⟩⟩ := CartCalls.step_addSaves hstep
    · exact h.saves hnone
    · exact h.setCall hlocked
    · exact h.setCall hlocked
    · obtain ⟨line, rfl⟩ := Option.ne_none_iff_exists'.1 hsome
      rw [CartAction.Undisturbed, hcall] at hcalm
      exact h.saves (hcalm hn)
  | locksCart t checkout =>
    rcases CartCalls.step_locksCart hstep with rfl | ⟨cart, -, -, -, rfl⟩
    · exact h.setCall hlocked
    · exact h.congr hlocked rfl rfl rfl le_rfl fun _ _ => rfl
  | locksItems t =>
    obtain ⟨checkout, cart, -, rfl⟩ := CartCalls.step_locksItems hstep
    exact h.setCall hlocked
  | checksOut t env =>
    obtain ⟨checkout, cart, items, hcall, rfl⟩ := CartCalls.step_checksOut hstep
    rw [CartAction.Undisturbed, hcall] at hcalm
    exact h.checksOut hcall hcalm hlocked
  | others step =>
    obtain ⟨hcart, -, rfl⟩ := CartCalls.step_others hstep
    refine h.congr hlocked (cartItems_exec hcart) rfl rfl ?_ fun o ho => (lines_exec (h.made o ho)).2
    exact (step.follows s.db).inv (I := fun b => s.db.shop.orders.next ≤ b.orders.next) le_rfl
      fun b ch hb _ _ => hb.trans (Change.next_le_apply b ch)

theorem unitsKept_of_run {actions : List CartAction} (h : UnitsKept c db s)
    (hcalm : s.Undisturbed c actions)
    (hrun : s.run c actions = some s') : UnitsKept c db s' := by
  induction actions generalizing s with
  | nil =>
    obtain rfl := Option.some.inj hrun
    exact h
  | cons action rest ih =>
    obtain ⟨s₁, hstep, hrest⟩ := Option.bind_eq_some_iff.1 hrun
    rw [CartCalls.Undisturbed, hstep] at hcalm
    exact ih (h.step hcalm.1 hstep) hcalm.2 hrest

end Invariant

/-- However additions and checkouts of a cart interleave with each other and with the rest of the
    shop: no unit is lost, if no row that a call writes has changed since the call has read it. -/
theorem keepsUnits_of_undisturbed (c : CartId) (db : Database) (actions : List CartAction)
    (s : CartCalls) (hunique : ((db.shop.cartItems c).map (·.product)).Nodup)
    (hrun : (CartCalls.start db).run c actions = some s)
    (hcalm : (CartCalls.start db).Undisturbed c actions) :
    KeepsUnits c db s :=
  (unitsKept_of_run (unitsKept_start hunique) hcalm hrun).units

/-- The cart is checked out, and then two more loaves are added. -/
def addAfterCheckoutActions : List CartAction :=
  [.locksCart 1 (.counter { email := "", phone := "1" } .cash none), .locksItems 1,
    .checksOut 1 cornerEnv, .addBegins 0 0 1, .addChecks 0, .addReads 0, .addSaves 0 cornerEnv,
    .addBegins 2 0 1, .addChecks 2, .addReads 2, .addSaves 2 cornerEnv]

theorem keepsUnits_of_undisturbed_checkout : ∃ s,
    (CartCalls.start cornerShop).run 0 addAfterCheckoutActions = some s ∧ s.created = [0] ∧
      KeepsUnits 0 cornerShop s := by
  have hcreated : ((CartCalls.start cornerShop).run 0 addAfterCheckoutActions).map (·.created) =
      some [0] := by decide +kernel
  obtain ⟨s, hrun, hone⟩ := Option.map_eq_some_iff.1 hcreated
  exact ⟨s, hrun, hone, keepsUnits_of_undisturbed 0 cornerShop addAfterCheckoutActions s
    (by decide +kernel) hrun (by decide +kernel)⟩

/-- Two additions read the same line, and the second one saves over the first. -/
def twoAdditionsActions : List CartAction :=
  [.addBegins 0 0 1, .addChecks 0, .addReads 0, .addBegins 1 0 1, .addChecks 1, .addReads 1,
    .addSaves 0 cornerEnv, .addSaves 1 cornerEnv]

theorem not_keepsUnits_twoAdditions : ∃ s,
    (CartCalls.start cornerShop).run 0 twoAdditionsActions = some s ∧
      ¬KeepsUnits 0 cornerShop s := by
  have hend : ((CartCalls.start cornerShop).run 0 twoAdditionsActions).map
      (fun s => (s.added, s.created, lineQuantity (s.db.shop.cartItems 0) 0)) =
        some ([(0, 1), (0, 1)], [], 2) := by decide +kernel
  obtain ⟨s, hrun, hs⟩ := Option.map_eq_some_iff.1 hend
  simp only [Prod.mk.injEq] at hs
  obtain ⟨hadded, hcreated, hleft⟩ := hs
  refine ⟨s, hrun, fun hkeeps => ?_⟩
  have hunits := hkeeps 0
  rw [CartCalls.addedUnits, CartCalls.createdUnits, hadded, hcreated, hleft, List.map_nil] at hunits
  exact absurd hunits (by decide +kernel)

/-! ## An addition that nothing comes between -/

section Alone

variable {env : Env} {c : CartId} {product : ProductId} {quantity : ℤ} {shop : Shop}

/-- The stock after a look at a product, whose inventory row is created if it is missing. -/
def Shop.looked (shop : Shop) (product : ProductId) : Shop :=
  { shop with stock := shop.stock.setInventory product (shop.stock.inventory product) }

theorem checkCartAvailability_of_ok {stock : Stock} {cart : Option CartId}
    {w : World Stock (List Observation)}
    (h : checkCartAvailability product quantity cart ⟨stock, []⟩ = (.ok (), w)) :
    w = ⟨stock.setInventory product (stock.inventory product), []⟩ := by
  have hrun : (checkCartAvailability product quantity cart).Ensures
      (fun _ w => w = ⟨stock.setInventory product (stock.inventory product), []⟩) ⟨stock, []⟩ := by
    refine Tx.wp_bind.2 (Tx.wp_getDb.2 (Tx.ensures_check fun _ => ?_))
    refine Tx.Ensures.bind (P := fun _ w => w = ⟨stock.setInventory product
      (stock.inventory product), []⟩) rfl ?_
    rintro inventory w rfl
    refine .ite (fun _ => rfl) fun _ => Tx.wp_bind.2 (Tx.wp_getDb.2 (Tx.wp_when.2 ⟨fun _ => trivial,
      fun _ => rfl⟩))
  exact hrun.of_ok h

theorem validateProduct_of_ok {cart : Option CartId} {w : World Shop (List Observation)}
    (h : validateProduct product quantity cart ⟨shop, []⟩ = (.ok (), w)) :
    w = ⟨shop.looked product, []⟩ := by
  have hrun : (validateProduct product quantity cart).Ensures
      (fun _ w => w = ⟨shop.looked product, []⟩) ⟨shop, []⟩ := by
    refine Tx.wp_bind.2 (Tx.wp_getDb.2 (Tx.ensures_check fun _ => Tx.wp_zoom.2 ((Tx.wp_iff _).2
      ⟨fun _ w hw => ?_, fun _ _ _ => trivial⟩)))
    rw [checkCartAvailability_of_ok hw]
    rfl
  exact hrun.of_ok h

/-- The second look finds the row that the first one has created. -/
theorem getOrCreateInventory_looked (stock : Stock) :
    getOrCreateInventory product ⟨stock.setInventory product (stock.inventory product), []⟩ =
      getOrCreateInventory product ⟨stock, []⟩ := by
  let looked := stock.setInventory product (stock.inventory product)
  have hrow : looked.inventories product = some (stock.inventory product) := if_pos rfl
  have hsame : looked.inventory product = stock.inventory product := by
    rw [Stock.inventory, hrow]
    rfl
  have htwice : looked.setInventory product (looked.inventory product) = looked := by
    rw [hsame]
    simp only [looked, Stock.setInventory]
    congr 1
    funext q
    split <;> rfl
  exact congrArg₂ (fun inventory stock => (Except.ok inventory, World.mk stock [])) hsame htwice

theorem reserveForCartItem_looked {stock : Stock} {r : Option (ReservationId × StockReservation)}
    {w : World Stock (List Observation)}
    (h : reserveForCartItem env c product quantity
      ⟨stock.setInventory product (stock.inventory product), []⟩ = (.ok r, w)) :
    reserveForCartItem env c product quantity ⟨stock, []⟩ = (.ok r, w) :=
  Tx.atomic_of_ok ((Tx.bind_congr (getOrCreateInventory_looked stock)).symm.trans
    (Tx.atomic_eq_ok h))

theorem saveCartItem_looked {newQuantity : ℤ} {item : CartItem} {w : World Shop (List Observation)}
    (h : saveCartItem c product newQuantity ⟨shop.looked product, []⟩ = (.ok item, w)) :
    ∃ shop', saveCartItem c product newQuantity ⟨shop, []⟩ = (.ok item, ⟨shop', []⟩) ∧
      w = ⟨shop'.looked product, []⟩ := by
  rw [saveCartItem] at h ⊢
  split at h
  next hpos =>
    cases h
    rw [dif_pos hpos]
    exact ⟨_, rfl, rfl⟩
  next => cases h

/-- The look before does not matter to what is saved. -/
theorem addSaves_looked {line : Option CartItem} {item : CartItem}
    {w : World Shop (List Observation)}
    (h : addSaves env c product quantity line ⟨shop.looked product, []⟩ = (.ok item, w)) :
    addSaves env c product quantity line ⟨shop, []⟩ = (.ok item, w) := by
  obtain ⟨saved, w₁, hsaved, h⟩ := Tx.bind_eq_ok h
  obtain ⟨shop', hsaved', rfl⟩ := saveCartItem_looked hsaved
  obtain ⟨reserved, w₂, hreserved, h⟩ := Tx.bind_eq_ok h
  have hsame : ShopTx.onStock (reserveForCartItem env c product saved.quantity) ⟨shop', []⟩ =
      (.ok reserved, w₂) := by
    change Tx.zoom _ _ _ _ = _ at hreserved ⊢
    rcases hrun : reserveForCartItem env c product saved.quantity
        ⟨(shop'.looked product).stock, []⟩ with ⟨e | r, w₁⟩
    · rw [Tx.zoom_apply hrun] at hreserved
      exact nomatch congrArg Prod.fst hreserved
    · rw [Tx.zoom_apply hrun] at hreserved
      exact (Tx.zoom_apply (reserveForCartItem_looked hrun)).trans hreserved
  exact (Tx.bind_of_ok hsaved').trans ((Tx.bind_of_ok hsame).trans h)

/-- An addition that returns, and that nothing comes between, is the service. -/
theorem addItem_alone {s : CartCalls} {t : CallId} {item : CartItem}
    {w : World Shop (List Observation)} (hidle : s.calls t = .idle) (hfree : s.holder = none)
    (h : addItem env c product quantity ⟨s.db.shop, []⟩ = (.ok item, w)) :
    ∃ s', s.run c [.addBegins t product quantity, .addChecks t, .addReads t, .addSaves t env] =
        some s' ∧ s'.db.shop = w.db ∧ s'.calls t = .returned none ∧
          s'.added = s.added ++ [(product, quantity)] := by
  obtain ⟨_, w₁, hmutable, h⟩ := Tx.bind_eq_ok (Tx.atomic_eq_ok h)
  obtain rfl := Tx.wp_of_ok (ensureCartMutable_reads c ⟨s.db.shop, []⟩) hmutable
  obtain ⟨_, w₂, hvalid, h⟩ := Tx.bind_eq_ok h
  have hreads : (validateQuantity quantity).Steps Eq := fun w => .when fun _ => Tx.steps_raise _ w
  obtain rfl := Tx.wp_of_ok (hreads ⟨s.db.shop, []⟩) hvalid
  obtain ⟨shop, w₃, hread, h⟩ := Tx.bind_eq_ok h
  cases hread
  obtain ⟨_, w₄, hproduct, h⟩ := Tx.bind_eq_ok h
  have hbegins : addBegins c quantity ⟨s.db.shop, []⟩ = (.ok (), ⟨s.db.shop, []⟩) :=
    (Tx.bind_of_ok hmutable).trans hvalid
  have hchecks : (addChecks c product quantity ⟨s.db.shop, []⟩).1 = .ok () :=
    congrArg Prod.fst ((Tx.bind_of_ok rfl).trans hproduct)
  obtain rfl := validateProduct_of_ok hproduct
  have hsaves : Tx.atomic (addSaves env c product quantity (s.db.shop.cartItem c product))
      ⟨s.db.shop, []⟩ = (.ok item, w) := Tx.atomic_of_ok (addSaves_looked h)
  let s₁ := s.setCall t (.adding product quantity .begun)
  let s₂ := s₁.setCall t (.adding product quantity .checked)
  let s₃ := s₂.setCall t
    (.adding product quantity (.read (s.db.shop.cartItem c product) s.created.length))
  have h₁ : s.step c (.addBegins t product quantity) = some s₁ := by
    simp only [CartCalls.step, hidle, CartCalls.goesOn, hbegins, s₁]
  have h₂ : s₁.step c (.addChecks t) = some s₂ := by
    simp only [CartCalls.step, CartCalls.calls_setCall_self, CartCalls.goesOn,
      CartCalls.db_setCall, hchecks, s₁, s₂]
  have h₃ : s₂.step c (.addReads t) = some s₃ := by
    simp only [CartCalls.step, CartCalls.calls_setCall_self, CartCalls.db_setCall,
      CartCalls.created_setCall, s₁, s₂, s₃]
  have h₄ : s₃.step c (.addSaves t env) =
      some (s₃.saves c t env product quantity (s.db.shop.cartItem c product)) := by
    have hread : s₃.calls t = .adding product quantity
        (.read (s.db.shop.cartItem c product) s.created.length) := if_pos rfl
    have hunlocked : s₃.holdsLine product = false := by
      simp only [CartCalls.holdsLine, CartCalls.holder_setCall, hfree, Option.map_none, s₁, s₂, s₃]
    rw [CartCalls.step, hread]
    cases hline : s.db.shop.cartItem c product with
    | none =>
      have hnone : s₃.db.shop.cartItem c product = none := hline
      simp only [hnone]
    | some line =>
      simp only [hunlocked, Bool.false_eq_true, ↓reduceIte]
      exact if_neg (not_not_intro rfl)
  refine ⟨s₃.saves c t env product quantity (s.db.shop.cartItem c product), ?_, ?_⟩
  · simp only [CartCalls.run, h₁, h₂, h₃, h₄, Option.bind_some]
  · simp only [CartCalls.saves, CartCalls.db_setCall, hsaves, s₁, s₂, s₃,
      CartCalls.calls_setCall_self, CartCalls.added_setCall]
    exact ⟨trivial, trivial, trivial⟩

end Alone

end Crumbs
