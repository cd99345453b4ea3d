import Mathlib.Tactic.ByContra

/-!
# Row Locks and Uncommitted Rows

Transactions that lock each row before they write it, and keep the lock until they commit or
roll back. A database has two versions then: the rows as committed, and the rows as they stand
with the uncommitted writes of whoever holds their locks.

## Contents

- `Versions`: both versions and the lock table
- `Versions.write`, `Versions.commit`, `Versions.rollback`: what a transaction does to them
- `Field`: a value read from one row that only the holder of several locks changes
- `Isolated`: a field differs between the versions only while one transaction holds its locks
- `commit_of_holder`, `commit_of_other` and their likes for `rollback`: fields that share a
  lock settle together, all on one version
-/

namespace Crumbs.Db

variable {δ κ τ ν ν' : Type} [DecidableEq τ]

/-- A database under row locks: `locks k` is the transaction that holds row `k`. -/
structure Versions (δ κ τ : Type) where
  committed : δ
  working : δ
  locks : κ → Option τ

/-- Laying the rows that satisfy a predicate from one database over another one. -/
abbrev Overlay (δ κ : Type) := (κ → Bool) → δ → δ → δ

namespace Versions

variable (overlay : Overlay δ κ)

/-- The rows of which `t` holds the lock. -/
def holds (v : Versions δ κ τ) (t : τ) (k : κ) : Bool := v.locks k = some t

/-- `t` may lock the row: it is free, or `t` has it already. -/
def MayLock (v : Versions δ κ τ) (t : τ) (k : κ) : Prop := v.locks k = none ∨ v.locks k = some t

/-- The lock table once `t` has let go of its rows. -/
def unlocked (v : Versions δ κ τ) (t : τ) : κ → Option τ :=
  fun k => if v.locks k = some t then none else v.locks k

/-- `t` locks the rows `ks` and leaves the working rows as `d`. -/
def write [DecidableEq κ] (v : Versions δ κ τ) (t : τ) (ks : List κ) (d : δ) : Versions δ κ τ where
  committed := v.committed
  working := d
  locks k := if k ∈ ks then some t else v.locks k

/-- The rows of `t` become committed. -/
def commit (v : Versions δ κ τ) (t : τ) : Versions δ κ τ where
  committed := overlay (v.holds t) v.working v.committed
  working := v.working
  locks := v.unlocked t

/-- The rows of `t` go back to what is committed. -/
def rollback (v : Versions δ κ τ) (t : τ) : Versions δ κ τ where
  committed := v.committed
  working := overlay (v.holds t) v.committed v.working
  locks := v.unlocked t

/-- What `t` reads without a lock: its own writes, and of other rows what is committed. -/
def view (v : Versions δ κ τ) (t : τ) : δ := overlay (v.holds t) v.working v.committed

end Versions

/-- A value read from the row `key`, which is written only under all the locks of `guards`. -/
structure Field (overlay : Overlay δ κ) (ν : Type) where
  read : δ → ν
  key : κ
  guards : κ → Prop
  guards_key : guards key
  read_overlay : ∀ own a b, read (overlay own a b) = if own key then read a else read b

section Isolation

variable {overlay : Overlay δ κ} {v : Versions δ κ τ} {t : τ} {k : κ}
  (f : Field overlay ν) (g : Field overlay ν')

/-- The versions agree on the field, unless one transaction holds all of its locks. -/
def Isolated (v : Versions δ κ τ) : Prop :=
  f.read v.working ≠ f.read v.committed → ∃ t, ∀ k, f.guards k → v.locks k = some t

variable {f}

theorem unlocked_of_other {t' : τ} (hk : v.locks k = some t') (hne : t' ≠ t) :
    v.unlocked t k = some t' := by
  rw [Versions.unlocked, if_neg (by rw [hk]; exact fun h => hne (Option.some.inj h)), hk]

theorem locks_of_unlocked {t' : τ} (hk : v.unlocked t k = some t') :
    v.locks k = some t' ∧ t' ≠ t := by
  rw [Versions.unlocked] at hk
  split at hk
  · simp at hk
  · next h => exact ⟨hk, fun heq => h (heq ▸ hk)⟩

omit [DecidableEq τ] in
/-- A holder of one lock of a field is the only one under whom its versions can differ. -/
theorem Isolated.read_eq (hf : Isolated f v) (hk : f.guards k)
    (hother : v.locks k ≠ v.locks f.key) : f.read v.working = f.read v.committed := by
  by_contra hne
  obtain ⟨t, ht⟩ := hf hne
  exact hother (by rw [ht k hk, ht _ f.guards_key])

/-! ## Commit -/

/-- A commit by the holder of one of the field's locks publishes the field. -/
theorem commit_of_holder (hf : Isolated f v) (hk : f.guards k) (ht : v.locks k = some t) :
    f.read (v.commit overlay t).committed = f.read v.working := by
  rw [Versions.commit, f.read_overlay]
  split
  · rfl
  · next hkey =>
    refine (hf.read_eq hk fun h => hkey ?_).symm
    rw [Versions.holds, decide_eq_true_eq, ← h, ht]

/-- A commit by anyone else leaves the committed field alone. -/
theorem commit_of_other (hf : Isolated f v) (hk : f.guards k) (ht : v.locks k ≠ some t) :
    f.read (v.commit overlay t).committed = f.read v.committed := by
  rw [Versions.commit, f.read_overlay]
  split
  · next hkey =>
    rw [Versions.holds, decide_eq_true_eq] at hkey
    exact hf.read_eq hk (hkey ▸ ht)
  · rfl

theorem Isolated.commit (hf : Isolated f v) : Isolated f (v.commit overlay t) := by
  intro hne
  by_cases hkey : v.locks f.key = some t
  · exact absurd (commit_of_holder hf f.guards_key hkey).symm hne
  · rw [commit_of_other hf f.guards_key hkey] at hne
    obtain ⟨t', ht'⟩ := hf hne
    refine ⟨t', fun k hk => unlocked_of_other (ht' k hk) fun heq => hkey ?_⟩
    rw [ht' _ f.guards_key, heq]

/-! ## Rollback -/

/-- A rollback by the holder of one of the field's locks takes the field back. -/
theorem rollback_of_holder (hf : Isolated f v) (hk : f.guards k) (ht : v.locks k = some t) :
    f.read (v.rollback overlay t).working = f.read v.committed := by
  rw [Versions.rollback, f.read_overlay]
  split
  · rfl
  · next hkey =>
    refine hf.read_eq hk fun h => hkey ?_
    rw [Versions.holds, decide_eq_true_eq, ← h, ht]

/-- A rollback by anyone else leaves the working field alone. -/
theorem rollback_of_other (hf : Isolated f v) (hk : f.guards k) (ht : v.locks k ≠ some t) :
    f.read (v.rollback overlay t).working = f.read v.working := by
  rw [Versions.rollback, f.read_overlay]
  split
  · next hkey =>
    rw [Versions.holds, decide_eq_true_eq] at hkey
    exact (hf.read_eq hk (hkey ▸ ht)).symm
  · rfl

theorem Isolated.rollback (hf : Isolated f v) : Isolated f (v.rollback overlay t) := by
  intro hne
  by_cases hkey : v.locks f.key = some t
  · exact absurd (rollback_of_holder hf f.guards_key hkey) hne
  · rw [rollback_of_other hf f.guards_key hkey] at hne
    obtain ⟨t', ht'⟩ := hf hne
    refine ⟨t', fun k hk => unlocked_of_other (ht' k hk) fun heq => hkey ?_⟩
    rw [ht' _ f.guards_key, heq]

/-! ## Write -/

omit [DecidableEq τ] in
/-- A write that changes a field only under all of its locks keeps it isolated. -/
theorem Isolated.write [DecidableEq κ] (hf : Isolated f v) {ks : List κ} {d : δ}
    (hlocks : ∀ k ∈ ks, v.MayLock t k)
    (hwrite : f.read d ≠ f.read v.working → ∀ k, f.guards k → k ∈ ks) :
    Isolated f (v.write t ks d) := by
  intro hne
  by_cases hchanged : f.read d = f.read v.working
  · obtain ⟨t', ht'⟩ := hf (hchanged ▸ hne)
    -- whoever held the locks still does, also if it is `t` itself
    refine ⟨t', fun k hk => ?_⟩
    rw [Versions.write]
    dsimp only
    split
    · next hmem =>
      rcases hlocks k hmem with h | h
      · rw [ht' k hk] at h
        cases h
      · rw [← h, ht' k hk]
    · exact ht' k hk
  · exact ⟨t, fun k hk => if_pos (hwrite hchanged k hk)⟩

end Isolation

end Crumbs.Db
