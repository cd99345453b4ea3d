import Crumbs.Db.Table

/-!
# Rows that Writes Leave Alone

Two tables agree on some rows when each of these rows is in both, under the same key, or in neither.
A write leaves the rows alone that it neither finds nor makes.

## Contents

- `Table.AgreeOn`: two tables have the same rows of a kind
- `AgreeOn.insert`, `AgreeOn.insertAll`, `AgreeOn.modify`, `AgreeOn.updateWhere`: writes on other rows
-/

namespace Crumbs.Db.Table

variable {ρ : Type} {P : ρ → Prop} {t u v : Table ρ}

/-- The rows that satisfy `P` are the same. -/
def AgreeOn (P : ρ → Prop) (t u : Table ρ) : Prop :=
  ∀ i r, P r → (u.rows i = some r ↔ t.rows i = some r)

theorem AgreeOn.refl (P : ρ → Prop) (t : Table ρ) : AgreeOn P t t := fun _ _ _ => Iff.rfl

theorem AgreeOn.trans (h : AgreeOn P t u) (h' : AgreeOn P u v) : AgreeOn P t v :=
  fun i r hr => (h' i r hr).trans (h i r hr)

/-- Rows of a narrower kind. -/
theorem AgreeOn.mono {Q : ρ → Prop} (h : AgreeOn Q t u) (hPQ : ∀ r, P r → Q r) : AgreeOn P t u :=
  fun i r hr => h i r (hPQ r hr)

theorem AgreeOn.insert {r : ρ} (hr : ¬P r) (t : Table ρ) : AgreeOn P t (t.insert r) := by
  intro i r' hr'
  rw [rows_insert]
  split
  next hi =>
    -- the key was free, and the row that has it now is not of the kind
    subst hi
    rw [t.fresh _ le_rfl]
    exact iff_of_false (fun h => hr (Option.some.inj h ▸ hr')) (by simp)
  next => rfl

theorem AgreeOn.insertAll {rs : List ρ} (h : ∀ r ∈ rs, ¬P r) (t : Table ρ) :
    AgreeOn P t (t.insertAll rs) := by
  induction rs generalizing t with
  | nil => exact .refl P t
  | cons r rest ih =>
    exact (AgreeOn.insert (h r List.mem_cons_self) t).trans
      (ih (fun r' hr' => h r' (List.mem_cons_of_mem r hr')) (t.insert r))

theorem AgreeOn.updateWhere {p : ρ → Bool} {f : ρ → ρ}
    (h : ∀ i r, t.rows i = some r → p r = true → ¬P r ∧ ¬P (f r)) :
    AgreeOn P t (t.updateWhere p f) := by
  intro i r' hr'
  rw [rows_updateWhere]
  cases hrow : t.rows i with
  | none => rfl
  | some r =>
    rw [Option.map_some]
    split
    next hp =>
      obtain ⟨hbefore, hafter⟩ := h i r hrow hp
      exact iff_of_false (fun heq => hafter (Option.some.inj heq ▸ hr'))
        fun heq => hbefore (Option.some.inj heq ▸ hr')
    next => rfl

theorem AgreeOn.modify {i : ℕ} {f : ρ → ρ} (h : ∀ r, t.rows i = some r → ¬P r ∧ ¬P (f r)) :
    AgreeOn P t (t.modify i f) := by
  intro j r' hr'
  rw [rows_modify]
  split
  next hj =>
    subst hj
    cases hrow : t.rows j with
    | none => rfl
    | some r =>
      obtain ⟨hbefore, hafter⟩ := h r hrow
      exact iff_of_false (fun heq => hafter (Option.some.inj heq ▸ hr'))
        fun heq => hbefore (Option.some.inj heq ▸ hr')
  next => rfl

end Crumbs.Db.Table
