import Mathlib.Logic.Basic

/-!
# Runs of Actions

A system in which an action may happen in some states and not in others. A run is a list of actions;
if one of them cannot happen the run ends there.

## Contents

- `Throughout`: a property of every state of a run
- `Guarded`: a condition that every action of a run meets when it happens
- `Guarded.throughout`, `throughout_iff_guarded`: guarded runs keep invariants
-/

namespace Crumbs.Db

variable {σ α : Type} {step : σ → α → Option σ} {I P : σ → Prop} {G : σ → α → Prop}

/-- `P` holds in every state of the run, in the first one and in the last one. -/
def Throughout (step : σ → α → Option σ) (P : σ → Prop) (s : σ) : List α → Prop
  | [] => P s
  | a :: rest => P s ∧ ∀ s' ∈ step s a, Throughout step P s' rest

/-- Every action of the run that happens meets the condition in the state that it happens in. -/
def Guarded (step : σ → α → Option σ) (G : σ → α → Prop) (s : σ) : List α → Prop
  | [] => True
  | a :: rest => ∀ s' ∈ step s a, G s a ∧ Guarded step G s' rest

instance Guarded.decidable [∀ s a, Decidable (G s a)] :
    ∀ s run, Decidable (Guarded step G s run)
  | _, [] => isTrue trivial
  | s, a :: rest =>
    match h : step s a with
    | none => isTrue fun _ hs' => nomatch h.symm.trans hs'
    | some s' =>
      have := Guarded.decidable s' rest
      decidable_of_iff (G s a ∧ Guarded step G s' rest)
        ⟨fun hG _ hs₁ => Option.some.inj (h.symm.trans hs₁) ▸ hG, fun hG => hG s' h⟩

theorem Throughout.head {s : σ} {run : List α} (h : Throughout step P s run) : P s := by
  cases run with
  | nil => exact h
  | cons a rest => exact h.1

/-- It holds in the state that the run comes to. -/
theorem Throughout.last {s s' : σ} {run : List α} (h : Throughout step P s run)
    (hrun : run.foldlM step s = some s') : P s' := by
  induction run generalizing s with
  | nil =>
    obtain rfl := Option.some.inj hrun
    exact h
  | cons a rest ih =>
    obtain ⟨s₁, hstep, hrest⟩ := Option.bind_eq_some_iff.1 hrun
    exact ih (h.2 s₁ hstep) hrest

theorem Throughout.mono {Q : σ → Prop} {s : σ} {run : List α} (h : Throughout step P s run)
    (hPQ : ∀ s, P s → Q s) : Throughout step Q s run := by
  induction run generalizing s with
  | nil => exact hPQ s h
  | cons a rest ih => exact ⟨hPQ s h.1, fun s' hs' => ih (h.2 s' hs')⟩

/-- What every action preserves holds throughout every run. -/
theorem Throughout.of_inv (hstep : ∀ s a s', I s → step s a = some s' → I s') {s : σ}
    {run : List α} (hs : I s) : Throughout step I s run := by
  induction run generalizing s with
  | nil => exact hs
  | cons a rest ih => exact ⟨hs, fun s' hs' => ih (hstep s a s' hs hs')⟩

/-- A run of actions that meet the condition in every state. -/
theorem Guarded.of_forall {s : σ} {run : List α} (h : ∀ a ∈ run, ∀ s, G s a) :
    Guarded step G s run := by
  induction run generalizing s with
  | nil => trivial
  | cons a rest ih =>
    exact fun s' _ => ⟨h a List.mem_cons_self s, ih fun b hb => h b (List.mem_cons_of_mem a hb)⟩

/-- What guarded actions preserve holds throughout a guarded run. -/
theorem Guarded.throughout (hstep : ∀ s a s', I s → G s a → step s a = some s' → I s') {s : σ}
    {run : List α} (h : Guarded step G s run) (hs : I s) : Throughout step I s run := by
  induction run generalizing s with
  | nil => exact hs
  | cons a rest ih =>
    refine ⟨hs, fun s' hs' => ?_⟩
    obtain ⟨hG, hrest⟩ := h s' hs'
    exact ih hrest (hstep s a s' hs hG hs')

/-- A condition that follows from another one where an invariant holds. -/
theorem Guarded.mono_of_inv {G' : σ → α → Prop} {s : σ} {run : List α}
    (h : Guarded step G s run) (hs : I s)
    (hstep : ∀ s a s', I s → G s a → step s a = some s' → I s' ∧ G' s a) :
    Guarded step G' s run := by
  induction run generalizing s with
  | nil => trivial
  | cons a rest ih =>
    intro s' hs'
    obtain ⟨hG, hrest⟩ := h s' hs'
    obtain ⟨hI', hG'⟩ := hstep s a s' hs hG hs'
    exact ⟨hG', ih hrest hI'⟩

/-- If the guard is all that an action needs to preserve `P`, and no action needs it to preserve
    `I`, then `P` holds throughout the guarded runs and no others. -/
theorem throughout_iff_guarded (hI : ∀ s a s', I s → step s a = some s' → I s')
    (hP : ∀ s a s', I s → P s → step s a = some s' → (P s' ↔ G s a)) {s : σ} {run : List α}
    (hs : I s) (hPs : P s) : Throughout step P s run ↔ Guarded step G s run := by
  induction run generalizing s with
  | nil => exact iff_of_true hPs trivial
  | cons a rest ih =>
    constructor
    · intro h s' hs'
      have hPs' := (h.2 s' hs').head
      exact ⟨(hP s a s' hs hPs hs').1 hPs', (ih (hI s a s' hs hs') hPs').1 (h.2 s' hs')⟩
    · intro h
      refine ⟨hPs, fun s' hs' => ?_⟩
      obtain ⟨hG, hrest⟩ := h s' hs'
      exact (ih (hI s a s' hs hs') ((hP s a s' hs hPs hs').2 hG)).2 hrest

end Crumbs.Db
