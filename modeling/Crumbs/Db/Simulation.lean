import Crumbs.Db.Transaction

/-!
# Computations with More around Them

A computation may do what another one does and something beside it, on tables and outside of which
the other knows nothing. What it does on the part of the world that the other one works on is then
what the other one does there, and the two end in the same way.

## Contents

- `View`: a part of a world
- `Tx.within`: a computation on a part of the world
- `Tx.Simulates`: on the part, one computation is the other; a rule for each way to build one
-/

namespace Crumbs.Db

variable {δ δ' ω ω' ε α β : Type}

/-- A part of a world: some of its database, and some of what is outside. -/
structure View (δ ω δ' ω' : Type) where
  db : δ → δ'
  setDb : δ' → δ → δ
  ext : ω → ω'
  setExt : ω' → ω → ω
  db_setDb : ∀ d' d, db (setDb d' d) = d'
  ext_setExt : ∀ e' e, ext (setExt e' e) = e'

namespace View

/-- The part. -/
def get (v : View δ ω δ' ω') (w : World δ ω) : World δ' ω' := ⟨v.db w.db, v.ext w.ext⟩

/-- The world with another part. -/
def put (v : View δ ω δ' ω') (w' : World δ' ω') (w : World δ ω) : World δ ω :=
  ⟨v.setDb w'.db w.db, v.setExt w'.ext w.ext⟩

@[simp] theorem get_put (v : View δ ω δ' ω') (w' : World δ' ω') (w : World δ ω) :
    v.get (v.put w' w) = w' := by
  rw [get, put, v.db_setDb, v.ext_setExt]

end View

namespace Tx

/-- Run a computation on a part of the world. -/
def within (v : View δ ω δ' ω') (x : Tx δ' ω' ε α) : Tx δ ω ε α := fun w =>
  match x (v.get w) with
  | (r, w') => (r, v.put w' w)

@[simp] theorem wp_within {v : View δ ω δ' ω'} {x : Tx δ' ω' ε α} {Q : α → World δ ω → Prop}
    {E : ε → World δ ω → Prop} {w : World δ ω} : (within v x).wp Q E w ↔
      x.wp (fun a w' => Q a (v.put w' w)) (fun e w' => E e (v.put w' w)) (v.get w) := by
  unfold wp within
  rcases x (v.get w) with ⟨_ | _, _⟩ <;> rfl

/-- On the part of the world, `x` is `y`. -/
def Simulates (v : View δ ω δ' ω') (x : Tx δ ω ε α) (y : Tx δ' ω' ε α) : Prop :=
  ∀ w, y (v.get w) = ((x w).1, v.get (x w).2)

section Simulates

variable {v : View δ ω δ' ω'}

theorem simulates_within (x : Tx δ' ω' ε α) : Simulates v (within v x) x := by
  intro w
  rcases h : x (v.get w) with ⟨r, w'⟩
  simp only [within, h, View.get_put]

theorem simulates_pure (a : α) : Simulates v (pure a : Tx δ ω ε α) (pure a) := fun _ => rfl

theorem Simulates.bind {x : Tx δ ω ε α} {y : Tx δ' ω' ε α} {f : α → Tx δ ω ε β}
    {g : α → Tx δ' ω' ε β} (hx : Simulates v x y) (hf : ∀ a, Simulates v (f a) (g a)) :
    Simulates v (x >>= f) (y >>= g) := by
  intro w
  rcases h : x w with ⟨e | a, w'⟩
  · have hy := hx w
    rw [h] at hy
    rw [bind_of_error h, bind_of_error hy]
  · have hy := hx w
    rw [h] at hy
    rw [bind_of_ok h, bind_of_ok hy]
    exact hf a w'

theorem Simulates.atomic {x : Tx δ ω ε α} {y : Tx δ' ω' ε α} (h : Simulates v x y) :
    Simulates v (Tx.atomic x) (Tx.atomic y) := by
  intro w
  rcases hx : x w with ⟨_ | _, w'⟩
  · have hy := h w
    rw [hx] at hy
    rw [atomic_of_error hx, atomic_of_error hy]
    rfl
  · have hy := h w
    rw [hx] at hy
    rw [atomic_of_ok hx, atomic_of_ok hy]

theorem Simulates.ite {c : Prop} [Decidable c] {x x' : Tx δ ω ε α} {y y' : Tx δ' ω' ε α}
    (h : Simulates v x y) (h' : Simulates v x' y') :
    Simulates v (if c then x else x') (if c then y else y') := by
  by_cases hc : c
  · simpa only [if_pos hc] using h
  · simpa only [if_neg hc] using h'

theorem Simulates.when {c : Prop} [Decidable c] {x : Tx δ ω ε Unit} {y : Tx δ' ω' ε Unit}
    (h : Simulates v x y) : Simulates v (Tx.when c x) (Tx.when c y) := h.ite (simulates_pure ())

/-- The two end in the same way, and the part is where the other one leaves it. -/
theorem Simulates.run {x : Tx δ ω ε α} {y : Tx δ' ω' ε α} (h : Simulates v x y) {w : World δ ω} :
    (x w).1 = (y (v.get w)).1 ∧ v.get (x w).2 = (y (v.get w)).2 := by
  rw [h w]
  exact ⟨rfl, rfl⟩

end Simulates

end Tx

end Crumbs.Db
