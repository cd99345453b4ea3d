import Mathlib.Order.Defs.Unbundled
import Mathlib.Logic.Basic

/-!
# Transactions with Rollback

A computation over a database that may raise. An exception carries its state with it, so
whatever was written before the `raise` is still there; only a surrounding `atomic` block
takes the database back to where the block began. The outside world (gateway calls,
messages, logs) is never taken back.

## Contents

- `World`, `Tx`: state and computations
- `atomic`, `catching`, `zoom`: rollback, exception handlers, work on a part of the database
- `Tx.wp`: weakest preconditions with one postcondition for returning and one for raising
- `Tx.Ensures`: a postcondition for returning only
- `Tx.RollsBack`: an exception leaves the database as it was
- `Tx.StepsAt`, `Tx.Steps`: every run of the computation, returning or raising, relates the
  world before to the world after by a preorder
-/

namespace Crumbs.Db

/-- What a computation runs on: a database, which a rollback restores, and the outside
    world, which it does not. -/
structure World (δ ω : Type) where
  db : δ
  ext : ω

/-- A database computation: it returns a value or raises, in a new world either way. -/
def Tx (δ ω ε α : Type) : Type := World δ ω → Except ε α × World δ ω

namespace Tx

variable {δ δ' ω ε α β γ : Type}

/-! ## Computations -/

/-- Sequencing: an exception skips the continuation and keeps what was written. -/
protected def bind (x : Tx δ ω ε α) (f : α → Tx δ ω ε β) : Tx δ ω ε β := fun w =>
  match x w with
  | (.ok a, w') => f a w'
  | (.error e, w') => (.error e, w')

instance : Monad (Tx δ ω ε) where
  pure a := fun w => (.ok a, w)
  bind := Tx.bind

/-- Raise an exception. -/
def raise (e : ε) : Tx δ ω ε α := fun w => (.error e, w)

/-- Raise what a pure check raises. -/
def ofExcept : Except ε α → Tx δ ω ε α
  | .error e => raise e
  | .ok a => pure a

/-- Read the database. -/
def getDb : Tx δ ω ε δ := fun w => (.ok w.db, w)

/-- Read the outside world. -/
def getExt : Tx δ ω ε ω := fun w => (.ok w.ext, w)

/-- Write the database. -/
def modifyDb (f : δ → δ) : Tx δ ω ε Unit := fun w => (.ok (), { w with db := f w.db })

/-- Act on the outside world. -/
def modifyExt (f : ω → ω) : Tx δ ω ε Unit := fun w => (.ok (), { w with ext := f w.ext })

/-- Run `x` only if `c` holds. -/
def when (c : Prop) [Decidable c] (x : Tx δ ω ε Unit) : Tx δ ω ε Unit :=
  if c then x else pure ()

/-- Run `f` on the value of an optional row, if there is one. -/
def ifSome (o : Option β) (f : β → Tx δ ω ε Unit) : Tx δ ω ε Unit :=
  match o with
  | none => pure ()
  | some b => f b

/-- Run a computation and forget what it returns. -/
def void (x : Tx δ ω ε α) : Tx δ ω ε Unit := x >>= fun _ => pure ()

/-- `transaction.atomic`: an exception restores the database of the block's beginning and
    goes on to the caller. Nested blocks behave as savepoints. -/
def atomic (x : Tx δ ω ε α) : Tx δ ω ε α := fun w =>
  match x w with
  | (.ok a, w') => (.ok a, w')
  | (.error e, w') => (.error e, { w' with db := w.db })

/-- `try … except`: the handler runs in the world the exception left behind. -/
def catching (x : Tx δ ω ε α) (handler : ε → Tx δ ω ε α) : Tx δ ω ε α := fun w =>
  match x w with
  | (.ok a, w') => (.ok a, w')
  | (.error e, w') => handler e w'

/-- Run a computation on a part of the database. -/
def zoom (get : δ → δ') (set : δ' → δ → δ) (x : Tx δ' ω ε α) : Tx δ ω ε α := fun w =>
  match x ⟨get w.db, w.ext⟩ with
  | (r, w') => (r, ⟨set w'.db w.db, w'.ext⟩)

/-- A sequence that returns has returned in both parts. -/
theorem bind_eq_ok {x : Tx δ ω ε α} {f : α → Tx δ ω ε β} {w w'' : World δ ω} {b : β}
    (h : (x >>= f) w = (.ok b, w'')) : ∃ a w', x w = (.ok a, w') ∧ f a w' = (.ok b, w'') := by
  change Tx.bind x f w = _ at h
  unfold Tx.bind at h
  rcases hx : x w with ⟨e | a, w'⟩
  · rw [hx] at h
    cases h
  · rw [hx] at h
    exact ⟨a, w', rfl, h⟩

/-- Sequencing is associative. -/
theorem bind_bind {x : Tx δ ω ε α} {f : α → Tx δ ω ε β} {g : β → Tx δ ω ε γ} :
    (x >>= f) >>= g = x >>= fun a => f a >>= g := by
  funext w
  change Tx.bind (Tx.bind x f) g w = Tx.bind x _ w
  unfold Tx.bind
  rcases x w with ⟨_ | _, _⟩ <;> rfl

/-! ## Running a computation -/

section Run

variable {x y : Tx δ ω ε α} {w v : World δ ω} {a : α} {e : ε}

/-- A run is its outcome and the world it leaves. -/
theorem run_of_fst (h : (x w).1 = .ok a) : x w = (.ok a, (x w).2) := Prod.ext h rfl

theorem bind_of_ok {f : α → Tx δ ω ε β} (h : x w = (.ok a, v)) : (x >>= f) w = f a v := by
  change Tx.bind x f w = _
  rw [Tx.bind, h]

theorem bind_of_error {f : α → Tx δ ω ε β} (h : x w = (.error e, v)) :
    (x >>= f) w = (.error e, v) := by
  change Tx.bind x f w = _
  rw [Tx.bind, h]

theorem bind_congr {f : α → Tx δ ω ε β} (h : x w = y w) : (x >>= f) w = (y >>= f) w := by
  change Tx.bind x f w = Tx.bind y f w
  rw [Tx.bind, h, Tx.bind]

theorem atomic_congr (h : x w = y w) : atomic x w = atomic y w := by rw [atomic, h, atomic]

theorem atomic_eq_ok (h : atomic x w = (.ok a, v)) : x w = (.ok a, v) := by
  rw [atomic] at h
  split at h
  · next hx =>
    rw [hx]
    exact h
  · exact nomatch congrArg Prod.fst h

theorem atomic_of_ok (h : x w = (.ok a, v)) : atomic x w = (.ok a, v) := by rw [atomic, h]

theorem atomic_of_error (h : x w = (.error e, v)) :
    atomic x w = (.error e, { v with db := w.db }) := by rw [atomic, h]

theorem catching_of_ok {handler : ε → Tx δ ω ε α} (h : x w = (.ok a, v)) :
    catching x handler w = (.ok a, v) := by rw [catching, h]

theorem catching_of_error {handler : ε → Tx δ ω ε α} (h : x w = (.error e, v)) :
    catching x handler w = handler e v := by rw [catching, h]

theorem zoom_apply {get : δ → δ'} {set : δ' → δ → δ} {x : Tx δ' ω ε α} {r : Except ε α}
    {w₁ : World δ' ω} (h : x ⟨get w.db, w.ext⟩ = (r, w₁)) :
    zoom get set x w = (r, ⟨set w₁.db w.db, w₁.ext⟩) := by rw [zoom, h]

theorem ite_of {c : Prop} [Decidable c] {x y : Tx δ ω ε α} (h : c) :
    (if c then x else y : Tx δ ω ε α) w = x w := by rw [if_pos h]

theorem ite_of_not {c : Prop} [Decidable c] {x y : Tx δ ω ε α} (h : ¬c) :
    (if c then x else y : Tx δ ω ε α) w = y w := by rw [if_neg h]

theorem when_of {c : Prop} [Decidable c] {x : Tx δ ω ε Unit} (h : c) :
    when c x w = x w := by rw [when, if_pos h]

theorem when_of_not {c : Prop} [Decidable c] {x : Tx δ ω ε Unit} (h : ¬c) :
    when c x w = (.ok (), w) := by rw [when, if_neg h]; rfl

end Run

/-! ## Weakest preconditions -/

/-- From `w`, the computation returns into `Q` or raises into `E`. -/
def wp (x : Tx δ ω ε α) (Q : α → World δ ω → Prop) (E : ε → World δ ω → Prop)
    (w : World δ ω) : Prop :=
  match x w with
  | (.ok a, w') => Q a w'
  | (.error e, w') => E e w'

section Rules

variable {Q Q' : α → World δ ω → Prop} {E F : ε → World δ ω → Prop} {w : World δ ω}

theorem wp_iff (x : Tx δ ω ε α) :
    x.wp Q E w ↔ (∀ a w', x w = (.ok a, w') → Q a w') ∧ ∀ e w', x w = (.error e, w') → E e w' := by
  unfold wp
  rcases h : x w with ⟨_ | _, w'⟩ <;> simp

/-- The rule of consequence. -/
theorem wp_mono {x : Tx δ ω ε α} (h : x.wp Q E w) (hQ : ∀ a w', Q a w' → Q' a w')
    (hE : ∀ e w', E e w' → F e w') : x.wp Q' F w := by
  rw [wp_iff] at h ⊢
  exact ⟨fun a w' hx => hQ _ _ (h.1 a w' hx), fun e w' hx => hE _ _ (h.2 e w' hx)⟩

/-- Two postconditions established separately hold together. -/
theorem wp_and {x : Tx δ ω ε α} (h : x.wp Q E w) (h' : x.wp Q' F w) :
    x.wp (fun a w' => Q a w' ∧ Q' a w') (fun e w' => E e w' ∧ F e w') w := by
  rw [wp_iff] at h h' ⊢
  exact ⟨fun a w' hx => ⟨h.1 a w' hx, h'.1 a w' hx⟩, fun e w' hx => ⟨h.2 e w' hx, h'.2 e w' hx⟩⟩

/-- The outcome is the outcome. -/
theorem wp_self (x : Tx δ ω ε α) (w : World δ ω) :
    x.wp (fun a w' => x w = (.ok a, w')) (fun e w' => x w = (.error e, w')) w :=
  (wp_iff x).2 ⟨fun _ _ h => h, fun _ _ h => h⟩

theorem wp_of_ok {x : Tx δ ω ε α} {a : α} {w' : World δ ω} (h : x.wp Q E w)
    (hx : x w = (.ok a, w')) : Q a w' := ((wp_iff x).1 h).1 a w' hx

theorem wp_of_error {x : Tx δ ω ε α} {e : ε} {w' : World δ ω} (h : x.wp Q E w)
    (hx : x w = (.error e, w')) : E e w' := ((wp_iff x).1 h).2 e w' hx

/-- Only the run from `w` counts. -/
theorem wp_congr {x y : Tx δ ω ε α} (h : x w = y w) : x.wp Q E w ↔ y.wp Q E w := by
  unfold wp
  rw [h]

/-- A run that returns. -/
theorem wp_iff_of_ok {x : Tx δ ω ε α} {a : α} {v : World δ ω} (h : x w = (.ok a, v)) :
    x.wp Q E w ↔ Q a v := by rw [wp, h]

/-- A run that raises. -/
theorem wp_iff_of_error {x : Tx δ ω ε α} {e : ε} {v : World δ ω} (h : x w = (.error e, v)) :
    x.wp Q E w ↔ E e v := by rw [wp, h]

@[simp] theorem wp_pure (a : α) : (pure a : Tx δ ω ε α).wp Q E w ↔ Q a w := Iff.rfl

@[simp] theorem wp_raise (e : ε) : (raise e : Tx δ ω ε α).wp Q E w ↔ E e w := Iff.rfl

@[simp] theorem wp_bind {x : Tx δ ω ε β} {f : β → Tx δ ω ε α} :
    (x >>= f).wp Q E w ↔ x.wp (fun b => (f b).wp Q E) E w := by
  change (Tx.bind x f).wp Q E w ↔ _
  unfold wp Tx.bind
  rcases x w with ⟨_ | _, w'⟩ <;> rfl

/-- The rule of sequencing, with an assertion in between. -/
theorem wp_seq {x : Tx δ ω ε β} {f : β → Tx δ ω ε α} {P : β → World δ ω → Prop}
    (hx : x.wp P F w) (hf : ∀ b w', P b w' → (f b).wp Q E w')
    (hE : ∀ e w', F e w' → E e w') : (x >>= f).wp Q E w :=
  wp_bind.2 (wp_mono hx hf hE)

theorem wp_ofExcept {r : Except ε α} :
    (ofExcept r : Tx δ ω ε α).wp Q E w ↔ (∀ a, r = .ok a → Q a w) ∧ ∀ e, r = .error e → E e w := by
  cases r <;> simp [ofExcept]

@[simp] theorem wp_getDb {Q : δ → World δ ω → Prop} :
    (getDb : Tx δ ω ε δ).wp Q E w ↔ Q w.db w := Iff.rfl

@[simp] theorem wp_getExt {Q : ω → World δ ω → Prop} :
    (getExt : Tx δ ω ε ω).wp Q E w ↔ Q w.ext w := Iff.rfl

@[simp] theorem wp_modifyDb {Q : Unit → World δ ω → Prop} {f : δ → δ} :
    (modifyDb f : Tx δ ω ε Unit).wp Q E w ↔ Q () { w with db := f w.db } := Iff.rfl

@[simp] theorem wp_modifyExt {Q : Unit → World δ ω → Prop} {f : ω → ω} :
    (modifyExt f : Tx δ ω ε Unit).wp Q E w ↔ Q () { w with ext := f w.ext } := Iff.rfl

@[simp] theorem wp_ite {c : Prop} [Decidable c] {x y : Tx δ ω ε α} :
    (if c then x else y).wp Q E w ↔ (c → x.wp Q E w) ∧ (¬c → y.wp Q E w) := by
  by_cases h : c <;> simp [h]

@[simp] theorem wp_when {c : Prop} [Decidable c] {x : Tx δ ω ε Unit}
    {Q : Unit → World δ ω → Prop} :
    (when c x).wp Q E w ↔ (c → x.wp Q E w) ∧ (¬c → Q () w) := by
  unfold when
  rw [wp_ite, wp_pure]

@[simp] theorem wp_ifSome {o : Option β} {f : β → Tx δ ω ε Unit}
    {Q : Unit → World δ ω → Prop} :
    (ifSome o f).wp Q E w ↔ (∀ b, o = some b → (f b).wp Q E w) ∧ (o = none → Q () w) := by
  cases o <;> simp [ifSome]

@[simp] theorem wp_void {x : Tx δ ω ε α} {Q : Unit → World δ ω → Prop} :
    (void x).wp Q E w ↔ x.wp (fun _ => Q ()) E w := wp_bind

/-- An `atomic` block raises in the database it began with. -/
@[simp] theorem wp_atomic {x : Tx δ ω ε α} :
    (atomic x).wp Q E w ↔ x.wp Q (fun e w' => E e { w' with db := w.db }) w := by
  unfold wp atomic
  rcases x w with ⟨_ | _, w'⟩ <;> rfl

@[simp] theorem wp_catching {x : Tx δ ω ε α} {handler : ε → Tx δ ω ε α} :
    (catching x handler).wp Q E w ↔ x.wp Q (fun e => (handler e).wp Q E) w := by
  unfold wp catching
  rcases x w with ⟨_ | _, w'⟩ <;> rfl

@[simp] theorem wp_zoom {get : δ → δ'} {set : δ' → δ → δ} {x : Tx δ' ω ε α} :
    (zoom get set x).wp Q E w ↔
      x.wp (fun a w' => Q a ⟨set w'.db w.db, w'.ext⟩) (fun e w' => E e ⟨set w'.db w.db, w'.ext⟩)
        ⟨get w.db, w.ext⟩ := by
  unfold wp zoom
  rcases x ⟨get w.db, w.ext⟩ with ⟨_ | _, w'⟩ <;> rfl

/-- Loop rule: the invariant speaks about what is still to be done. -/
theorem wp_forM {xs : List β} {f : β → Tx δ ω ε PUnit} {I : List β → World δ ω → Prop}
    (step : ∀ b rest w, I (b :: rest) w → (f b).wp (fun _ => I rest) E w) (h : I xs w) :
    (xs.forM f).wp (fun _ => I []) E w := by
  induction xs generalizing w with
  | nil => exact h
  | cons b rest ih =>
    change (f b >>= fun _ => rest.forM f).wp _ _ _
    exact wp_seq (step b rest w h) (fun _ _ h' => ih h') (fun _ _ he => he)

/-- Loop rule for a loop that also counts. -/
theorem wp_foldlM {xs : List β} {f : α → β → Tx δ ω ε α} {I : List β → World δ ω → Prop}
    (step : ∀ a b rest w, I (b :: rest) w → (f a b).wp (fun _ => I rest) E w) (a : α)
    (h : I xs w) : (xs.foldlM f a).wp (fun _ => I []) E w := by
  induction xs generalizing a w with
  | nil => exact h
  | cons b rest ih =>
    rw [List.foldlM_cons]
    exact wp_seq (step a b rest w h) (fun a' _ h' => ih a' h') (fun _ _ he => he)

end Rules

/-! ## Returning runs -/

/-- From `w`, the computation returns into `Q`, if it returns. -/
abbrev Ensures (x : Tx δ ω ε α) (Q : α → World δ ω → Prop) (w : World δ ω) : Prop :=
  x.wp Q (fun _ _ => True) w

section Ensures

variable {Q Q' : α → World δ ω → Prop} {w : World δ ω}

theorem Ensures.mono {x : Tx δ ω ε α} (h : x.Ensures Q w) (hQ : ∀ a w', Q a w' → Q' a w') :
    x.Ensures Q' w := wp_mono h hQ fun _ _ _ => trivial

theorem Ensures.bind {x : Tx δ ω ε β} {f : β → Tx δ ω ε α} {P : β → World δ ω → Prop}
    (hx : x.Ensures P w) (hf : ∀ b w', P b w' → (f b).Ensures Q w') : (x >>= f).Ensures Q w :=
  wp_seq hx hf fun _ _ _ => trivial

theorem Ensures.atomic {x : Tx δ ω ε α} (h : x.Ensures Q w) : (Tx.atomic x).Ensures Q w :=
  wp_atomic.2 h

theorem Ensures.ite {c : Prop} [Decidable c] {x y : Tx δ ω ε α} (hx : c → x.Ensures Q w)
    (hy : ¬c → y.Ensures Q w) : (if c then x else y).Ensures Q w := wp_ite.2 ⟨hx, hy⟩

/-- A check that raises. -/
theorem ensures_check {c : Prop} [Decidable c] {e : ε} {f : Unit → Tx δ ω ε α}
    (h : ¬c → (f ()).Ensures Q w) : (Tx.when c (Tx.raise e) >>= f).Ensures Q w :=
  wp_bind.2 (wp_when.2 ⟨fun _ => trivial, h⟩)

/-- A handler that only raises. -/
theorem Ensures.catching {x : Tx δ ω ε α} {handler : ε → Tx δ ω ε α} (hx : x.Ensures Q w)
    (hh : ∀ e w', (handler e).Ensures (fun _ _ => False) w') :
    (Tx.catching x handler).Ensures Q w :=
  wp_catching.2 (wp_mono hx (fun _ _ h => h) fun e w' _ => (hh e w').mono fun _ _ h => h.elim)

theorem Ensures.of_ok {x : Tx δ ω ε α} (h : x.Ensures Q w) {a : α} {w' : World δ ω}
    (hx : x w = (.ok a, w')) : Q a w' := wp_of_ok h hx

end Ensures

/-! ## Rollback -/

/-- An exception leaves the database as it was. -/
def RollsBack (x : Tx δ ω ε α) : Prop :=
  ∀ w, x.wp (fun _ _ => True) (fun _ w' => w'.db = w.db) w

theorem rollsBack_atomic (x : Tx δ ω ε α) : (atomic x).RollsBack := fun _ =>
  wp_atomic.2 ((wp_iff x).2 ⟨fun _ _ _ => trivial, fun _ _ _ => rfl⟩)

theorem RollsBack.map {x : Tx δ ω ε α} (h : x.RollsBack) (f : α → β) :
    (x >>= fun a => pure (f a)).RollsBack := fun w =>
  wp_seq (h w) (fun _ _ _ => trivial) (fun _ _ h => h)

theorem RollsBack.zoom {get : δ → δ'} {set : δ' → δ → δ} {x : Tx δ' ω ε α} (h : x.RollsBack)
    (hset : ∀ d, set (get d) d = d) : (Tx.zoom get set x).RollsBack := fun w =>
  wp_zoom.2 (wp_mono (h _) (fun _ _ h => h) (fun _ _ h => by
    dsimp only at h ⊢
    rw [h, hset]))

/-- What returning runs end in, and that raising ones are taken back. -/
theorem Ensures.atomic_or {Q : α → World δ ω → Prop} {w : World δ ω} {x : Tx δ ω ε α}
    (h : x.Ensures Q w) : (Tx.atomic x).wp Q (fun _ w' => w'.db = w.db) w :=
  wp_atomic.2 (wp_mono h (fun _ _ h => h) fun _ _ _ => rfl)

/-- The database after an exception of a computation that rolls back. -/
theorem RollsBack.run {x : Tx δ ω ε α} (h : x.RollsBack) {w w' : World δ ω} {e : ε}
    (hx : x w = (.error e, w')) : w'.db = w.db := wp_of_error (h w) hx

/-! ## Two-state invariants -/

/-- From `w`, whatever the outcome, the world moves along `R`. -/
def StepsAt (R : World δ ω → World δ ω → Prop) (x : Tx δ ω ε α) (w : World δ ω) : Prop :=
  x.wp (fun _ w' => R w w') (fun _ w' => R w w') w

/-- From everywhere, whatever the outcome, the world moves along `R`. -/
def Steps (R : World δ ω → World δ ω → Prop) (x : Tx δ ω ε α) : Prop := ∀ w, x.StepsAt R w

/-- `R` still holds when the database is taken back to where it was. -/
class RestoresDb (R : World δ ω → World δ ω → Prop) : Prop where
  restore : ∀ {w v : World δ ω}, R w v → R w { v with db := w.db }

instance : RestoresDb (Eq : World δ ω → World δ ω → Prop) := ⟨fun h => h ▸ rfl⟩

/-- The part of the database that `get` reads stays as it is. -/
def Leaves (get : δ → β) (w w' : World δ ω) : Prop := get w'.db = get w.db

instance {get : δ → β} : IsPreorder (World δ ω) (Leaves get) where
  refl _ := rfl
  trans _ _ _ h h' := Eq.trans h' h

instance {get : δ → β} : RestoresDb (Leaves get : World δ ω → World δ ω → Prop) := ⟨fun _ => rfl⟩

section Steps

variable {R : World δ ω → World δ ω → Prop} {w : World δ ω}

theorem StepsAt.run {x : Tx δ ω ε α} (h : x.StepsAt R w) : R w (x w).2 := by
  rcases hx : x w with ⟨e | a, w'⟩
  · exact ((wp_iff x).1 h).2 e w' hx
  · exact ((wp_iff x).1 h).1 a w' hx

/-- It is enough to know the run. -/
theorem StepsAt.of_run {x : Tx δ ω ε α} (h : R w (x w).2) : x.StepsAt R w :=
  (wp_iff x).2 ⟨fun _ _ hx => by rwa [hx] at h, fun _ _ hx => by rwa [hx] at h⟩

theorem StepsAt.congr {x y : Tx δ ω ε α} (h : x w = y w) (hy : y.StepsAt R w) : x.StepsAt R w :=
  (wp_congr h).2 hy

theorem StepsAt.mono {R' : World δ ω → World δ ω → Prop} {x : Tx δ ω ε α} (h : x.StepsAt R w)
    (hR : ∀ w', R w w' → R' w w') : x.StepsAt R' w :=
  wp_mono h (fun _ => hR) (fun _ => hR)

theorem StepsAt.ite {c : Prop} [Decidable c] {x y : Tx δ ω ε α} (hx : c → x.StepsAt R w)
    (hy : ¬c → y.StepsAt R w) : (if c then x else y).StepsAt R w := wp_ite.2 ⟨hx, hy⟩

theorem steps_modifyDb {f : δ → δ} (h : R w { w with db := f w.db }) :
    (modifyDb f : Tx δ ω ε Unit).StepsAt R w := h

theorem StepsAt.atomic [RestoresDb R] {x : Tx δ ω ε α} (h : x.StepsAt R w) :
    (Tx.atomic x).StepsAt R w :=
  wp_atomic.2 (wp_mono h (fun _ _ h' => h') (fun _ _ => RestoresDb.restore))

theorem Steps.atomic [RestoresDb R] {x : Tx δ ω ε α} (h : x.Steps R) : (Tx.atomic x).Steps R :=
  fun w => (h w).atomic

/-- A computation on a part moves the whole along `R` if it moves the part along `S`. -/
theorem StepsAt.zoom {S : World δ' ω → World δ' ω → Prop} {get : δ → δ'} {set : δ' → δ → δ}
    {x : Tx δ' ω ε α} (hx : x.StepsAt S ⟨get w.db, w.ext⟩)
    (h : ∀ w', S ⟨get w.db, w.ext⟩ w' → R w ⟨set w'.db w.db, w'.ext⟩) :
    (Tx.zoom get set x).StepsAt R w :=
  wp_zoom.2 (wp_mono hx (fun _ => h) (fun _ => h))

variable [IsPreorder (World δ ω) R]

theorem steps_pure (a : α) : (pure a : Tx δ ω ε α).Steps R := refl_of R

theorem steps_raise (e : ε) : (raise e : Tx δ ω ε α).Steps R := refl_of R

theorem steps_getDb : (getDb : Tx δ ω ε δ).Steps R := refl_of R

/-- The second part starts where the first has moved to. -/
theorem StepsAt.seq {x : Tx δ ω ε α} {f : α → Tx δ ω ε β}
    (h : x.wp (fun a w' => R w w' ∧ (f a).StepsAt R w') (fun _ w' => R w w') w) :
    (x >>= f).StepsAt R w := by
  refine wp_seq h (fun a w' h' => ?_) (fun _ _ h' => h')
  exact wp_mono h'.2 (fun _ _ h'' => trans_of R h'.1 h'') (fun _ _ h'' => trans_of R h'.1 h'')

theorem StepsAt.bind {x : Tx δ ω ε α} {f : α → Tx δ ω ε β} (hx : x.StepsAt R w)
    (hf : ∀ a, (f a).Steps R) : (x >>= f).StepsAt R w :=
  StepsAt.seq (wp_mono hx (fun a w' h => ⟨h, hf a w'⟩) (fun _ _ h => h))

theorem Steps.bind {x : Tx δ ω ε α} {f : α → Tx δ ω ε β} (hx : x.Steps R)
    (hf : ∀ a, (f a).Steps R) : (x >>= f).Steps R := fun w => (hx w).bind hf

omit [IsPreorder (World δ ω) R] in
/-- Both parts leave the world as it is. -/
theorem StepsAt.eq_bind {x : Tx δ ω ε α} {f : α → Tx δ ω ε β} (hx : x.StepsAt Eq w)
    (hf : ∀ a, (f a).StepsAt Eq w) : (x >>= f).StepsAt Eq w :=
  StepsAt.seq (wp_mono hx (fun a _ h => ⟨h, h ▸ hf a⟩) fun _ _ h => h)

/-- From `w`, the world moves along `R`, and into `Q` if the computation returns. -/
def StepsTo (R : World δ ω → World δ ω → Prop) (Q : α → World δ ω → Prop) (x : Tx δ ω ε α)
    (w : World δ ω) : Prop := x.wp (fun a w' => R w w' ∧ Q a w') (fun _ w' => R w w') w

omit [IsPreorder (World δ ω) R] in
theorem StepsTo.stepsAt {Q : α → World δ ω → Prop} {x : Tx δ ω ε α} (h : x.StepsTo R Q w) :
    x.StepsAt R w := wp_mono h (fun _ _ h' => h'.1) (fun _ _ h' => h')

theorem StepsTo.seq {P : α → World δ ω → Prop} {x : Tx δ ω ε α} {f : α → Tx δ ω ε β}
    (hx : x.StepsTo R P w) (hf : ∀ a w', R w w' → P a w' → (f a).StepsAt R w') :
    (x >>= f).StepsAt R w :=
  StepsAt.seq (wp_mono hx (fun a w' h => ⟨h.1, hf a w' h.1 h.2⟩) (fun _ _ h => h))

theorem StepsTo.bind {P : α → World δ ω → Prop} {Q : β → World δ ω → Prop} {x : Tx δ ω ε α}
    {f : α → Tx δ ω ε β} (hx : x.StepsTo R P w)
    (hf : ∀ a w', R w w' → P a w' → (f a).StepsTo R Q w') : (x >>= f).StepsTo R Q w :=
  wp_seq hx (fun a w' h => wp_mono (hf a w' h.1 h.2)
    (fun _ _ h' => ⟨trans_of R h.1 h'.1, h'.2⟩) (fun _ _ h' => trans_of R h.1 h'))
    (fun _ _ h => h)

theorem StepsAt.bindTo {Q : β → World δ ω → Prop} {x : Tx δ ω ε α} {f : α → Tx δ ω ε β}
    (hx : x.StepsAt R w) (hf : ∀ a w', R w w' → (f a).StepsTo R Q w') :
    (x >>= f).StepsTo R Q w :=
  StepsTo.bind (P := fun _ _ => True) (wp_mono hx (fun _ _ h => ⟨h, trivial⟩) (fun _ _ h => h))
    fun a w' h _ => hf a w' h

theorem StepsAt.void {x : Tx δ ω ε α} (hx : x.StepsAt R w) : (Tx.void x).StepsAt R w :=
  hx.bind fun _ => steps_pure ()

theorem StepsAt.when {c : Prop} [Decidable c] {x : Tx δ ω ε Unit} (hx : c → x.StepsAt R w) :
    (Tx.when c x).StepsAt R w := StepsAt.ite hx fun _ => steps_pure () w

theorem StepsAt.ifSome {o : Option β} {f : β → Tx δ ω ε Unit}
    (hf : ∀ b, o = some b → (f b).StepsAt R w) : (Tx.ifSome o f).StepsAt R w :=
  wp_ifSome.2 ⟨hf, fun _ => refl_of R w⟩

theorem StepsAt.catching {x : Tx δ ω ε α} {handler : ε → Tx δ ω ε α} (hx : x.StepsAt R w)
    (hh : ∀ e, (handler e).Steps R) : (Tx.catching x handler).StepsAt R w := by
  refine wp_catching.2 (wp_mono hx (fun _ _ h => h) (fun e w' h => ?_))
  exact wp_mono (hh e w') (fun _ _ h' => trans_of R h h') (fun _ _ h' => trans_of R h h')

theorem Steps.forM {xs : List β} {f : β → Tx δ ω ε PUnit} (hf : ∀ b ∈ xs, (f b).Steps R) :
    (xs.forM f).Steps R := by
  induction xs with
  | nil => exact steps_pure _
  | cons b rest ih =>
    change (f b >>= fun _ => rest.forM f).Steps R
    exact (hf b List.mem_cons_self).bind fun _ =>
      ih fun b' hb' => hf b' (List.mem_cons_of_mem b hb')

end Steps

end Tx

end Crumbs.Db
