import Crumbs.Inventory.Writes

/-!
# The Inventory Services as Sections

A section is a stretch of inventory code that works on one reservation under the row locks it
has taken. Every service is a chain of sections, and so is what a service did before an
exception. What holds of one section therefore holds of the services, whether they run one
after the other or interleaved.

## Contents

- `Section`: the six kinds of sections, with their code and the row their query has found
- `Section.Effect`: all that a section can do
- `Sections`: chains of sections
- `Does`: a computation is a chain of sections
-/

namespace Crumbs

open Crumbs.Db

variable {α β : Type}

/-! ## Sections -/

inductive Section where
  | touch (product : ProductId)
  | reserve (env : Env) (order : Option OrderId) (product : ProductId) (quantity : ℤ)
      (cart : Option CartId) (holdMinutes : ℤ)
  | release (id : ReservationId)
  | expire (id : ReservationId)
  | confirm (id : ReservationId)
  | fulfill (id : ReservationId)

/-- A loop body on the row that its query found. -/
def onReservation (id : ReservationId)
    (f : ReservationId × StockReservation → StockTx Unit) : StockTx Unit := do
  let stock ← Tx.getDb
  Tx.ifSome (stock.reservations.rows id) fun r => f (id, r)

namespace Section

/-- The code of a section; results are dropped. -/
def code : Section → StockTx Unit
  | touch product => do
    let _ ← getOrCreateInventory product
  | reserve env order product quantity cart holdMinutes => do
    let _ ← reserveItem env order product quantity cart holdMinutes
  | release id => onReservation id releaseSingleReservation
  | expire id => onReservation id expireSingleReservation
  | confirm id => onReservation id confirmSingleReservation
  | fulfill id => onReservation id fulfillSingleReservation

/-- The row is there and satisfies the filter of the query. -/
def Ready (s : Stock) : Section → Prop
  | touch _ => True
  | reserve .. => True
  | release id => ∃ r, s.reservations.rows id = some r ∧ r.isLive
  | expire id => ∃ r, s.reservations.rows id = some r ∧ r.status = .active
  | confirm id => ∃ r, s.reservations.rows id = some r ∧ r.status = .active
  | fulfill id => ∃ r, s.reservations.rows id = some r ∧ r.status = .confirmed

/-- The section ran from `s` to `s'` and observed `obs`. -/
def Ran (sec : Section) (s : Stock) (obs : List Observation) (s' : Stock) : Prop :=
  sec.Ready s ∧ ∃ trace, sec.code ⟨s, trace⟩ = (.ok (), ⟨s', trace ++ obs⟩)

/-- All that a section can do. -/
inductive Effect : Section → Stock → List Observation → Stock → Prop where
  | touch {p s s'} (htouch : s.Touches s') : Effect (touch p) s [] s'
  /-- A reservation that fits the day's capacity and, without pre-orders, the tracked stock. -/
  | reserve {env order cart quantity holdMinutes s₀ s cap} (r : StockReservation)
      (htouch : s₀.Touches s) (hstatus : r.status = .active)
      (hinv : s.inventories r.product ≠ none)
      (hcap : s.capacities r.product r.productionDate = some cap)
      (hunits : r.quantity ≤ cap.availableUnits)
      (hstock : (s.inventory r.product).trackStock →
        (s.inventory r.product).allowPreorder = false →
          r.quantity ≤ (s.inventory r.product).availableQuantity) :
      Effect (reserve env order r.product quantity cart holdMinutes) s₀ [] (s.hold r)
  | release {s obs} (i : ReservationId) (r : StockReservation)
      (hrow : s.reservations.rows i = some r) (hlive : r.isLive) (hobs : ∀ o ∈ obs, s.Clamps r o) :
      Effect (release i) s obs (s.release i r .released)
  | expire {s obs} (i : ReservationId) (r : StockReservation)
      (hrow : s.reservations.rows i = some r) (hlive : r.isLive) (hobs : ∀ o ∈ obs, s.Clamps r o) :
      Effect (expire i) s obs (s.release i r .expired)
  | confirm {s} (i : ReservationId) (r : StockReservation)
      (hrow : s.reservations.rows i = some r) (hactive : r.status = .active) :
      Effect (confirm i) s [] (s.confirm i)
  | fulfill {s₀ s obs inv cap} (i : ReservationId) (r : StockReservation) (htouch : s₀.Touches s)
      (hrow : s.reservations.rows i = some r) (hconfirmed : r.status = .confirmed)
      (hinv : s.inventories r.product = some inv)
      (hcap : s.capacities r.product r.productionDate = some cap)
      (hobs : ∀ o ∈ obs, s.Clamps r o) :
      Effect (fulfill i) s₀ obs (s.consume i r (cap.fulfilledUnits + r.quantity))

end Section

theorem wp_onReservation {f : ReservationId × StockReservation → StockTx Unit}
    {id : ReservationId} {w : World Stock (List Observation)} {r : StockReservation}
    (hrow : w.db.reservations.rows id = some r) : onReservation id f w = f (id, r) w := by
  change Tx.ifSome (w.db.reservations.rows id) (fun r => f (id, r)) w = _
  rw [hrow]
  rfl

/-- What a section did when it returned. -/
theorem Section.Ran.effect {sec : Section} {s s' : Stock} {obs : List Observation}
    (h : sec.Ran s obs s') : sec.Effect s obs s' := by
  obtain ⟨hready, trace, hrun⟩ := h
  cases sec with
  | touch p =>
    obtain ⟨inv, w, hx, hw⟩ := Tx.bind_eq_ok hrun
    cases hw
    obtain ⟨⟨htouch, hext⟩, -⟩ := Tx.wp_of_ok (E := fun _ _ => True) (getOrCreateInventory_spec ..) hx
    obtain rfl : obs = [] := List.append_right_eq_self.1 hext
    exact .touch htouch
  | reserve env order p quantity cart holdMinutes =>
    obtain ⟨e, w, hx, hw⟩ := Tx.bind_eq_ok hrun
    cases hw
    obtain ⟨hreserved, hext⟩ := Tx.wp_of_ok (reserveItem_spec ..) hx
    obtain rfl : obs = [] := List.append_right_eq_self.1 hext
    obtain ⟨s₁, cap, htouch, hdb, hinv, hcap, hunits, hstock⟩ := hreserved.booked
    obtain rfl := hreserved.product
    obtain rfl : s' = s₁.hold e.2 := hdb
    exact .reserve e.2 htouch hreserved.status hinv hcap hunits hstock
  | release id =>
    obtain ⟨r, hrow, hlive⟩ := hready
    rw [code, wp_onReservation hrow] at hrun
    obtain ⟨hdb, obs', hext, hobs⟩ :=
      Tx.wp_of_ok (E := fun _ _ => True) (releaseSingleReservation_spec id hlive) hrun
    obtain rfl : obs = obs' := List.append_cancel_left hext
    obtain rfl : s' = s.release id r .released := hdb
    exact .release id r hrow hlive hobs
  | expire id =>
    obtain ⟨r, hrow, hactive⟩ := hready
    rw [code, wp_onReservation hrow] at hrun
    obtain ⟨hdb, obs', hext, hobs⟩ :=
      Tx.wp_of_ok (E := fun _ _ => True) (expireSingleReservation_spec id (.inl hactive)) hrun
    obtain rfl : obs = obs' := List.append_cancel_left hext
    obtain rfl : s' = s.release id r .expired := hdb
    exact .expire id r hrow (.inl hactive) hobs
  | confirm id =>
    obtain ⟨r, hrow, hactive⟩ := hready
    rw [code, wp_onReservation hrow] at hrun
    have hrun' : (⟨s.confirm id, trace⟩ : World Stock _) = ⟨s', trace ++ obs⟩ :=
      congrArg Prod.snd hrun
    obtain ⟨rfl, hext⟩ := World.mk.inj hrun'
    obtain rfl : obs = [] := List.append_right_eq_self.1 hext.symm
    exact .confirm id r hrow hactive
  | fulfill id =>
    obtain ⟨r, hrow, hconfirmed⟩ := hready
    rw [code, wp_onReservation hrow] at hrun
    obtain ⟨s₁, inv, cap, htouch, hinv, hcap, hdb, obs', hext, hobs⟩ :=
      Tx.wp_of_ok (fulfillSingleReservation_spec id) hrun
    obtain rfl : obs = obs' := List.append_cancel_left hext
    obtain rfl : s' = s₁.consume id r (cap.fulfilledUnits + r.quantity) := hdb
    exact .fulfill id r htouch (by rw [htouch.reservations, hrow]) hconfirmed hinv hcap hobs

/-- Chains of sections, with all observations in order. -/
inductive Sections : Stock → List Observation → Stock → Prop where
  | refl (s : Stock) : Sections s [] s
  | tail {s s' s'' obs obs' sec} : Sections s obs s' → Section.Ran sec s' obs' s'' →
      Sections s (obs ++ obs') s''

theorem Section.Ran.single {sec : Section} {s s' : Stock} {obs : List Observation}
    (h : sec.Ran s obs s') : Sections s obs s' := by
  simpa using (Sections.refl s).tail h

theorem Sections.trans {s s' s'' : Stock} {obs obs' : List Observation} (h : Sections s obs s')
    (h' : Sections s' obs' s'') : Sections s (obs ++ obs') s'' := by
  induction h' with
  | refl => simpa using h
  | tail _ hstep ih =>
    rw [← List.append_assoc]
    exact ih.tail hstep

/-! ## Computations as chains -/

/-- `w'` is reached from `w` by a chain of sections. -/
def Reached (w w' : World Stock (List Observation)) : Prop :=
  ∃ obs, Sections w.db obs w'.db ∧ w'.ext = w.ext ++ obs

/-- What an exception leaves of the trace is what a chain of sections observed. -/
def Abandoned (w w' : World Stock (List Observation)) : Prop :=
  ∃ obs s, Sections w.db obs s ∧ w'.ext = w.ext ++ obs

theorem Reached.refl (w : World Stock (List Observation)) : Reached w w :=
  ⟨[], .refl w.db, (List.append_nil _).symm⟩

theorem Reached.trans {w w' w'' : World Stock (List Observation)} (h : Reached w w')
    (h' : Reached w' w'') : Reached w w'' := by
  obtain ⟨obs, hs, hx⟩ := h
  obtain ⟨obs', hs', hx'⟩ := h'
  exact ⟨obs ++ obs', hs.trans hs', by rw [hx', hx, List.append_assoc]⟩

theorem Reached.then_abandoned {w w' w'' : World Stock (List Observation)} (h : Reached w w')
    (h' : Abandoned w' w'') : Abandoned w w'' := by
  obtain ⟨obs, hs, hx⟩ := h
  obtain ⟨obs', s, hs', hx'⟩ := h'
  exact ⟨obs ++ obs', s, hs.trans hs', by rw [hx', hx, List.append_assoc]⟩

/-- Raising before anything was observed. -/
theorem Abandoned.of_ext {w w' : World Stock (List Observation)} (h : w'.ext = w.ext) :
    Abandoned w w' := ⟨[], w.db, .refl _, by rw [h, List.append_nil]⟩

/-- The computation is a chain of sections; if it raises, so is what it did until then. -/
def Does (x : StockTx α) : Prop := ∀ w, x.wp (fun _ => Reached w) (fun _ => Abandoned w) w

theorem Does.bind {x : StockTx α} {f : α → StockTx β} (hx : Does x) (hf : ∀ a, Does (f a)) :
    Does (x >>= f) := by
  refine fun w => Tx.wp_seq (hx w) (fun a w' h => ?_) (fun _ _ h => h)
  exact Tx.wp_mono (hf a w') (fun _ _ h' => h.trans h') (fun _ _ h' => h.then_abandoned h')

theorem Does.pure (a : α) : Does (Pure.pure a : StockTx α) := fun w => Reached.refl w

theorem Does.getDb : Does Tx.getDb := fun w => Reached.refl w

/-- A rollback undoes the writes and keeps the observations. -/
theorem Does.atomic {x : StockTx α} (h : Does x) : Does (Tx.atomic x) := fun w =>
  Tx.wp_atomic.2 (Tx.wp_mono (h w) (fun _ _ h => h) (fun _ _ h => h))

/-- A computation that is the code of a section, up to its result. -/
theorem Section.does {x : StockTx α} (sec : Section) (hcode : sec.code = x >>= fun _ => Pure.pure ())
    (hready : ∀ s, sec.Ready s)
    (hx : ∀ w, x.wp (fun _ w' => w'.ext = w.ext) (fun _ w' => w'.ext = w.ext) w) : Does x := by
  intro w
  refine Tx.wp_mono (Tx.wp_and (hx w) (Tx.wp_self x w)) (fun a w' h => ?_)
    (fun _ _ h => .of_ext h.1)
  have hran : sec.Ran w.db [] w'.db := by
    refine ⟨hready _, w.ext, ?_⟩
    rw [hcode]
    change Tx.bind x _ w = _
    rw [Tx.bind, h.2]
    change (Except.ok (), w') = _
    rw [List.append_nil, ← h.1]
  exact ⟨[], hran.single, by rw [h.1, List.append_nil]⟩

theorem getOrCreateInventory_does (p : ProductId) : Does (getOrCreateInventory p) :=
  (Section.touch p).does rfl (fun _ => trivial) fun w =>
    Tx.wp_mono (getOrCreateInventory_spec p w) (fun _ _ h => h.1.2) (fun _ _ h => h)

theorem reserveItem_does (env : Env) (order : Option OrderId) (p : ProductId) (quantity : ℤ)
    (cart : Option CartId) (holdMinutes : ℤ) :
    Does (reserveItem env order p quantity cart holdMinutes) :=
  (Section.reserve env order p quantity cart holdMinutes).does rfl (fun _ => trivial) fun w =>
    Tx.wp_mono (reserveItem_spec env order p quantity cart holdMinutes w)
      (fun _ _ h => h.2) (fun _ _ h => h)

/-! ## Loops over reservations -/

/-- The body of a loop over the reservations that satisfy `P` is a section on the row it is
    called for, leaves the other reservations alone, and raises before it has observed
    anything. -/
structure Treats (sec : ReservationId → Section) (P : StockReservation → Bool)
    (f : ReservationId × StockReservation → StockTx Unit) : Prop where
  code : ∀ i, (sec i).code = onReservation i f
  ready : ∀ s i r, s.reservations.rows i = some r → P r = true → (sec i).Ready s
  body : ∀ w i r, w.db.reservations.rows i = some r → P r = true →
    (f (i, r)).wp (fun _ w' => (∃ obs, w'.ext = w.ext ++ obs) ∧
      ∀ j, j ≠ i → w'.db.reservations.rows j = w.db.reservations.rows j)
      (fun _ w' => w'.ext = w.ext) w

section Loops

variable {sec : ReservationId → Section} {P : StockReservation → Bool}
  {f : ReservationId × StockReservation → StockTx Unit}

/-- Loop rule for what a query found, for a body that changes no other reservation. The rows still
    to come are as the query found them, since no row is found twice. -/
theorem forM_reservationsWhere {J : World Stock (List Observation) → Prop}
    {E : Exn → World Stock (List Observation) → Prop} (w : World Stock (List Observation))
    (step : ∀ w' i r, w'.db.reservations.rows i = some r → P r = true → J w' →
      (f (i, r)).wp (fun _ w'' => J w'' ∧
        ∀ j, j ≠ i → w''.db.reservations.rows j = w'.db.reservations.rows j) E w') (hw : J w) :
    ((w.db.reservationsWhere P).forM f).wp (fun _ => J) E w := by
  let I := fun (rest : List (ReservationId × StockReservation)) w' => J w' ∧
    (rest.map Prod.fst).Nodup ∧
      ∀ e ∈ rest, w'.db.reservations.rows e.1 = some e.2 ∧ P e.2 = true
  have hstart : I (w.db.reservationsWhere P) w := by
    refine ⟨hw, ?_, fun e he => ?_⟩
    · rw [Stock.reservationsWhere, List.map_reverse, List.nodup_reverse]
      exact Table.nodup_filter _ _
    · exact Table.mem_filter.1 (List.mem_reverse.1 he)
  refine Tx.wp_mono (Tx.wp_forM (fun e rest w' h => ?_) hstart) (fun _ _ h => h.1) (fun _ _ h => h)
  obtain ⟨hJ, hnodup, hrows⟩ := h
  rw [List.map_cons, List.nodup_cons] at hnodup
  obtain ⟨hrow, hP⟩ := hrows e List.mem_cons_self
  refine Tx.wp_mono (step w' e.1 e.2 hrow hP hJ) (fun _ w'' h => ?_) (fun _ _ h => h)
  refine ⟨h.1, hnodup.2, fun e' he' => ?_⟩
  have hne : e'.1 ≠ e.1 := fun heq => hnodup.1 (heq ▸ List.mem_map_of_mem he')
  rw [h.2 _ hne]
  exact hrows e' (List.mem_cons_of_mem _ he')

/-- A loop over what a query found is a chain of sections. -/
theorem Treats.forM (hf : Treats sec P f) (w : World Stock (List Observation)) :
    ((w.db.reservationsWhere P).forM f).wp (fun _ => Reached w) (fun _ => Abandoned w) w := by
  refine forM_reservationsWhere w (fun w' i r hrow hP hreached => ?_) (.refl w)
  refine Tx.wp_mono (Tx.wp_and (hf.body w' i r hrow hP) (Tx.wp_self _ w')) (fun _ w'' h => ?_)
    (fun _ _ h => hreached.then_abandoned (.of_ext h.1))
  obtain ⟨⟨⟨obs, hext⟩, hframe⟩, hrun⟩ := h
  have hran : (sec i).Ran w'.db obs w''.db := by
    refine ⟨hf.ready _ _ _ hrow hP, w'.ext, ?_⟩
    rw [hf.code, wp_onReservation hrow, ← hext]
    exact hrun
  exact ⟨hreached.trans ⟨obs, hran.single, hext⟩, hframe⟩

theorem releaseSingleReservation_treats (hP : ∀ r, P r = true → r.isLive) :
    Treats .release P releaseSingleReservation where
  code _ := rfl
  ready _ _ r hrow hr := ⟨r, hrow, hP r hr⟩
  body w i r hrow hr := by
    refine Tx.wp_mono (releaseSingleReservation_spec i (hP r hr)) (fun _ w' h => ?_)
      (fun _ _ h => h)
    obtain ⟨hdb, obs, hext, -⟩ := h
    exact ⟨⟨obs, hext⟩, fun j hj => by rw [hdb, reservations_release, Table.rows_modify_ne _ _ hj]⟩

theorem expireSingleReservation_treats (now : Time) :
    Treats .expire (isStale now) expireSingleReservation where
  code _ := rfl
  ready _ _ r hrow hr := ⟨r, hrow, (of_decide_eq_true hr).1⟩
  body w i r hrow hr := by
    refine Tx.wp_mono (expireSingleReservation_spec i (.inl (of_decide_eq_true hr).1))
      (fun _ w' h => ?_) (fun _ _ h => h)
    obtain ⟨hdb, obs, hext, -⟩ := h
    exact ⟨⟨obs, hext⟩, fun j hj => by rw [hdb, reservations_release, Table.rows_modify_ne _ _ hj]⟩

theorem confirmSingleReservation_treats (hP : ∀ r, P r = true → r.status = .active) :
    Treats .confirm P confirmSingleReservation where
  code _ := rfl
  ready _ _ r hrow hr := ⟨r, hrow, hP r hr⟩
  body _ _ _ _ _ :=
    Tx.wp_modifyDb.2 ⟨⟨[], (List.append_nil _).symm⟩, fun _ hj => Table.rows_modify_ne _ _ hj⟩

theorem fulfillSingleReservation_treats (hP : ∀ r, P r = true → r.status = .confirmed) :
    Treats .fulfill P fulfillSingleReservation where
  code _ := rfl
  ready _ _ r hrow hr := ⟨r, hrow, hP r hr⟩
  body w i r hrow hr := by
    refine Tx.wp_mono (fulfillSingleReservation_spec i) (fun _ w' h => ?_) (fun _ _ h => h.1)
    obtain ⟨s, inv, cap, htouch, -, -, hdb, obs, hext, -⟩ := h
    exact ⟨⟨obs, hext⟩, fun j hj => by
      rw [hdb, reservations_consume, Table.rows_modify_ne _ _ hj, htouch.reservations]⟩

end Loops

/-! ## The services -/

theorem releaseWhere_does {P : StockReservation → Bool} (hP : ∀ r, P r = true → r.isLive) :
    Does (do
      let stock ← Tx.getDb
      releaseAll (stock.reservationsWhere P)) := fun w => by
  rw [Tx.wp_bind, Tx.wp_getDb]
  exact Tx.wp_seq ((releaseSingleReservation_treats hP).forM w) (fun _ _ h => h) (fun _ _ h => h)

theorem releaseCartReservations_does (cart : CartId) : Does (releaseCartReservations cart) :=
  (releaseWhere_does fun _ hr => .inl (of_decide_eq_true hr).2).atomic

theorem releaseCartReservationsForProduct_does (cart : CartId) (p : ProductId) :
    Does (releaseCartReservationsForProduct cart p) :=
  (releaseWhere_does fun _ hr => .inl (of_decide_eq_true hr).2.2).atomic

theorem releaseReservations_does (order : OrderId) : Does (releaseReservations order) := by
  refine Does.atomic fun w => ?_
  rw [Tx.wp_bind, Tx.wp_getDb]
  exact Tx.wp_seq (releaseWhere_does (fun _ hr => (of_decide_eq_true hr).2) w) (fun _ _ h => h)
    (fun _ _ h => h)

theorem confirmReservations_does (order : OrderId) : Does (confirmReservations order) := by
  refine Does.atomic fun w => ?_
  rw [Tx.wp_bind, Tx.wp_getDb]
  exact (confirmSingleReservation_treats fun _ hr => (of_decide_eq_true hr).2).forM w

theorem fulfillReservations_does (order : OrderId) : Does (fulfillReservations order) := by
  refine Does.atomic fun w => ?_
  rw [Tx.wp_bind, Tx.wp_getDb]
  exact (fulfillSingleReservation_treats fun _ hr => (of_decide_eq_true hr).2).forM w

theorem expireStaleReservations_does (env : Env) : Does (expireStaleReservations env) := by
  refine Does.atomic fun w => ?_
  rw [Tx.wp_bind, Tx.wp_getDb]
  exact Tx.wp_seq ((expireSingleReservation_treats env.now).forM w) (fun _ _ h => h) (fun _ _ h => h)

theorem reserveForCartItem_does (env : Env) (cart : CartId) (p : ProductId) (quantity : ℤ) :
    Does (reserveForCartItem env cart p quantity) := by
  refine Does.atomic ((getOrCreateInventory_does p).bind fun inv w => ?_)
  rw [Tx.wp_ite, Tx.wp_pure]
  refine ⟨fun _ => Reached.refl w, fun _ => ?_⟩
  rw [Tx.wp_bind, Tx.wp_getDb]
  refine Tx.wp_seq (releaseWhere_does (fun _ hr => .inl (of_decide_eq_true hr).2.2) w)
    (fun _ w' h => ?_) (fun _ _ h => h)
  exact Tx.wp_seq (reserveItem_does env none p quantity (some cart) _ w')
    (fun _ _ h' => h.trans h') (fun _ _ h' => h.then_abandoned h')

/-! ## Shop work on the stock -/

/-- The part of a shop's world that inventory work sees. -/
def stockWorld (w : World Shop (List Observation)) : World Stock (List Observation) :=
  ⟨w.db.stock, w.ext⟩

/-- Shop work that does chains of sections on the stock. -/
def ShopDoes (x : ShopTx α) : Prop :=
  ∀ w, x.wp (fun _ w' => Reached (stockWorld w) (stockWorld w'))
    (fun _ w' => Abandoned (stockWorld w) (stockWorld w')) w

theorem Does.onStock {x : StockTx α} (h : Does x) : ShopDoes (ShopTx.onStock x) :=
  fun w => Tx.wp_zoom.2 (h (stockWorld w))

theorem ShopDoes.pure (a : α) : ShopDoes (Pure.pure a : ShopTx α) :=
  fun w => Reached.refl (stockWorld w)

theorem ShopDoes.getDb : ShopDoes Tx.getDb := fun w => Reached.refl (stockWorld w)

theorem ShopDoes.bind {x : ShopTx α} {f : α → ShopTx β} (hx : ShopDoes x)
    (hf : ∀ a, ShopDoes (f a)) : ShopDoes (x >>= f) := by
  refine fun w => Tx.wp_seq (hx w) (fun a w' h => ?_) (fun _ _ h => h)
  exact Tx.wp_mono (hf a w') (fun _ _ h' => h.trans h') (fun _ _ h' => h.then_abandoned h')

theorem ShopDoes.atomic {x : ShopTx α} (h : ShopDoes x) : ShopDoes (Tx.atomic x) :=
  fun w => Tx.wp_atomic.2 (Tx.wp_mono (h w) (fun _ _ h => h) (fun _ _ h => h))

/-- Writes outside the inventory tables. -/
theorem ShopDoes.modifyDb {f : Shop → Shop} (hf : ∀ shop, (f shop).stock = shop.stock) :
    ShopDoes (Tx.modifyDb f) := fun w =>
  ⟨[], by simp only [stockWorld, hf]; exact .refl _, (List.append_nil _).symm⟩

theorem reserveOrderItems_does (env : Env) (order : OrderId) (items : List (OrderItem × ℕ)) :
    ShopDoes (reserveOrderItems env order items) := by
  induction items with
  | nil => exact .pure _
  | cons item rest ih =>
    refine (Does.onStock (reserveItem_does _ _ _ _ _ _)).bind fun reservation => ?_
    refine ShopDoes.bind (.modifyDb fun _ => rfl) fun _ => ?_
    exact ih.bind fun _ => .pure _

theorem reserveForOrder_does (env : Env) (order : OrderId) :
    ShopDoes (reserveForOrder env order) := by
  refine ShopDoes.atomic (ShopDoes.getDb.bind fun shop => ?_)
  refine (reserveOrderItems_does env order _).bind fun reservations => ?_
  exact ShopDoes.bind (.modifyDb fun _ => rfl) fun _ => .pure _

end Crumbs
