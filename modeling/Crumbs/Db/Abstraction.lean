import Crumbs.Db.Transaction

/-!
# Computations Seen through an Abstraction

A database shows only part of itself to a specification: its image under an abstraction function.
The rules below are those of weakest preconditions, for assertions about the image alone, so that
a computation can be specified by what it does to the image.

## Contents

- `Tx.Yields`: from every database with the image `b`, the computation returns into `Q`
- rules: sequencing, branching, handlers, `atomic` blocks, reads and writes
-/

namespace Crumbs.Db.Tx

variable {δ ω ε α β γ : Type} {abs : δ → γ}

/-- From every database with the image `b`, the computation returns into `Q`, if it returns. -/
def Yields (abs : δ → γ) (x : Tx δ ω ε α) (b : γ) (Q : α → γ → Prop) : Prop :=
  ∀ w, abs w.db = b → x.Ensures (fun a w' => Q a (abs w'.db)) w

variable {b : γ} {Q Q' : α → γ → Prop}

theorem Yields.ensures {x : Tx δ ω ε α} {w : World δ ω} (h : x.Yields abs (abs w.db) Q) :
    x.Ensures (fun a w' => Q a (abs w'.db)) w := h w rfl

theorem Yields.mono {x : Tx δ ω ε α} (h : x.Yields abs b Q) (hQ : ∀ a b', Q a b' → Q' a b') :
    x.Yields abs b Q' := fun w hw => (h w hw).mono fun a _ => hQ a _

theorem Yields.and {x : Tx δ ω ε α} (h : x.Yields abs b Q) (h' : x.Yields abs b Q') :
    x.Yields abs b fun a b' => Q a b' ∧ Q' a b' := fun w hw =>
  wp_mono (wp_and (h w hw) (h' w hw)) (fun _ _ hboth => hboth) fun _ _ _ => trivial

theorem yields_pure {a : α} (h : Q a b) : (pure a : Tx δ ω ε α).Yields abs b Q := by
  rintro w rfl
  exact h

theorem yields_raise (e : ε) : (raise e : Tx δ ω ε α).Yields abs b Q := fun _ _ => trivial

theorem Yields.bind {x : Tx δ ω ε β} {f : β → Tx δ ω ε α} {P : β → γ → Prop}
    (hx : x.Yields abs b P) (hf : ∀ a b', P a b' → (f a).Yields abs b' Q) :
    (x >>= f).Yields abs b Q := fun w hw =>
  (hx w hw).bind fun a w' h => hf a _ h w' rfl

/-- A computation that leaves the image as it is, and what follows it. -/
theorem Yields.skip {x : Tx δ ω ε β} {f : β → Tx δ ω ε α}
    (hx : x.Yields abs b fun _ b' => b' = b) (hf : ∀ a, (f a).Yields abs b Q) :
    (x >>= f).Yields abs b Q := hx.bind fun a _ hb => hb ▸ hf a

theorem yields_forM {xs : List β} {f : β → Tx δ ω ε PUnit}
    (h : ∀ a ∈ xs, (f a).Yields abs b fun _ b' => b' = b) :
    (xs.forM f).Yields abs b fun _ b' => b' = b := by
  induction xs with
  | nil => exact yields_pure rfl
  | cons a rest ih =>
    change (f a >>= fun _ => rest.forM f).Yields abs b _
    exact (h a List.mem_cons_self).skip fun _ => ih fun a' ha' => h a' (List.mem_cons_of_mem a ha')

/-- The last computation of a block, as one with nothing after it. -/
theorem Yields.last {x : Tx δ ω ε α} (h : (x >>= pure).Yields abs b Q) : x.Yields abs b Q := by
  intro w hw
  have hrun := h w hw
  rw [Ensures, wp_bind] at hrun
  exact hrun

theorem Yields.void {x : Tx δ ω ε α} {Q : Unit → γ → Prop} (hx : x.Yields abs b fun _ => Q ()) :
    (Tx.void x).Yields abs b Q := hx.bind fun _ _ h => yields_pure h

theorem Yields.atomic {x : Tx δ ω ε α} (h : x.Yields abs b Q) : (Tx.atomic x).Yields abs b Q :=
  fun w hw => (h w hw).atomic

theorem Yields.ite {c : Prop} [Decidable c] {x y : Tx δ ω ε α} (hx : c → x.Yields abs b Q)
    (hy : ¬c → y.Yields abs b Q) : (if c then x else y).Yields abs b Q := fun w hw =>
  .ite (fun h => hx h w hw) fun h => hy h w hw

theorem Yields.when {c : Prop} [Decidable c] {x : Tx δ ω ε Unit} {Q : Unit → γ → Prop}
    (hx : c → x.Yields abs b Q) (h : ¬c → Q () b) : (Tx.when c x).Yields abs b Q :=
  .ite hx fun hc => yields_pure (h hc)

/-- A check that raises. -/
theorem yields_check {c : Prop} [Decidable c] {e : ε} {f : Unit → Tx δ ω ε α}
    (h : ¬c → (f ()).Yields abs b Q) : (Tx.when c (Tx.raise e) >>= f).Yields abs b Q :=
  fun w hw => ensures_check fun hc => h hc w hw

/-- A handler that only raises. -/
theorem Yields.catching {x : Tx δ ω ε α} {handler : ε → Tx δ ω ε α} (hx : x.Yields abs b Q)
    (hh : ∀ e b', (handler e).Yields abs b' fun _ _ => False) :
    (Tx.catching x handler).Yields abs b Q := fun w hw =>
  (hx w hw).catching fun e w' => hh e _ w' rfl

/-- Reading: the database that is read has the image `b`. -/
theorem yields_getDb {f : δ → Tx δ ω ε α} (h : ∀ d, abs d = b → (f d).Yields abs b Q) :
    (Tx.getDb >>= f).Yields abs b Q := fun w hw => wp_bind.2 (wp_getDb.2 (h w.db hw w hw))

/-- Writing: the image changes by `g`. -/
theorem yields_modifyDb {f : δ → δ} {g : γ → γ} {Q : Unit → γ → Prop}
    (hfg : ∀ d, abs (f d) = g (abs d)) (h : Q () (g b)) :
    (Tx.modifyDb f : Tx δ ω ε Unit).Yields abs b Q := by
  rintro w rfl
  change Q () (abs (f w.db))
  rw [hfg]
  exact h

/-- A write and what follows it. -/
theorem yields_write {f : δ → δ} {g : γ → γ} {k : Unit → Tx δ ω ε α}
    (hfg : ∀ d, abs (f d) = g (abs d)) (h : (k ()).Yields abs (g b) Q) :
    (Tx.modifyDb f >>= k).Yields abs b Q :=
  (yields_modifyDb (Q := fun _ b' => b' = g b) hfg rfl).bind fun _ _ hb => hb ▸ h

end Crumbs.Db.Tx
