import Mathlib.Data.List.Pairwise
import Mathlib.Order.Defs.Unbundled

/-!
# Retried Tasks

A queue may run a task for one key any number of times. If every run settles its key for good, then
only the first run for each key counts.

## Contents

- `runAll`, `runAll_follows`: the state after some runs
- `firstRuns`: the first run for each key
- `Settles`: what a task has to satisfy
- `Settles.runAll_firstRuns`, `Settles.runAll_settled`
-/

namespace Crumbs.Db

section Retries

variable {σ κ τ : Type}

/-- The state after runs of a task, each at its time and for its key. -/
def runAll (act : τ → κ → σ → σ) (runs : List (τ × κ)) (s : σ) : σ :=
  runs.foldl (fun s r => act r.1 r.2 s) s

/-- What holds before the runs and is kept by each of them holds after them. -/
theorem runAll_inv {act : τ → κ → σ → σ} {runs : List (τ × κ)} {s : σ} {I : σ → Prop} (hs : I s)
    (hkeeps : ∀ t k s, I s → I (act t k s)) : I (runAll act runs s) := by
  induction runs generalizing s with
  | nil => exact hs
  | cons r rest ih => exact ih (hkeeps r.1 r.2 s hs)

/-- What every run does is done by all of them. -/
theorem runAll_follows {act : τ → κ → σ → σ} {runs : List (τ × κ)} {s : σ} {R : σ → σ → Prop}
    [IsPreorder σ R] (hstep : ∀ t k s, R s (act t k s)) : R s (runAll act runs s) :=
  runAll_inv (refl_of R s) fun t k s' h => trans_of R h (hstep t k s')

/-- The runs for keys that are not in `seen`, without repetitions. -/
def firstRuns [DecidableEq κ] (seen : List κ) : List (τ × κ) → List (τ × κ)
  | [] => []
  | r :: rest => if r.2 ∈ seen then firstRuns seen rest else r :: firstRuns (r.2 :: seen) rest

/-- In states that fit the time of the run, a run settles its key, a run for a settled key does
    nothing, and no run unsettles a key. -/
structure Settles (act : τ → κ → σ → σ) (before : τ → τ → Prop) (Fits : τ → σ → Prop)
    (Settled : κ → σ → Prop) : Prop where
  later : ∀ {t t' s}, before t t' → Fits t s → Fits t' s
  fits : ∀ {t k s}, Fits t s → Fits t (act t k s)
  noop : ∀ {t k s}, Fits t s → Settled k s → act t k s = s
  settles : ∀ {t k s}, Fits t s → Settled k (act t k s)
  keeps : ∀ {t k j s}, Fits t s → Settled k s → Settled k (act t j s)

variable [DecidableEq κ] {act : τ → κ → σ → σ} {before : τ → τ → Prop} {Fits : τ → σ → Prop}
  {Settled : κ → σ → Prop} {runs : List (τ × κ)} {s : σ}

theorem Settles.runAll_firstRuns_of_seen (h : Settles act before Fits Settled) {seen : List κ}
    (hseen : ∀ k ∈ seen, Settled k s) (hfits : ∀ r ∈ runs, Fits r.1 s)
    (hsorted : runs.Pairwise fun r r' => before r.1 r'.1) :
    runAll act runs s = runAll act (firstRuns seen runs) s := by
  induction runs generalizing s seen with
  | nil => rfl
  | cons r rest ih =>
    obtain ⟨hafter, hrest⟩ := List.pairwise_cons.1 hsorted
    have hfit := hfits r List.mem_cons_self
    have hlater : ∀ r' ∈ rest, Fits r'.1 (act r.1 r.2 s) := fun r' hr' =>
      h.later (hafter r' hr') (h.fits hfit)
    change runAll act rest (act r.1 r.2 s) = _
    by_cases hmem : r.2 ∈ seen
    · have hsame : act r.1 r.2 s = s := h.noop hfit (hseen _ hmem)
      rw [firstRuns, if_pos hmem, hsame]
      exact ih hseen (fun r' hr' => hsame ▸ hlater r' hr') hrest
    · rw [firstRuns, if_neg hmem]
      refine ih (fun k hk => ?_) hlater hrest
      rcases List.mem_cons.1 hk with rfl | hk
      · exact h.settles hfit
      · exact h.keeps hfit (hseen k hk)

/-- Only the first run for each key counts. -/
theorem Settles.runAll_firstRuns (h : Settles act before Fits Settled) (hfits : ∀ r ∈ runs, Fits r.1 s)
    (hsorted : runs.Pairwise fun r r' => before r.1 r'.1) :
    runAll act runs s = runAll act (firstRuns [] runs) s :=
  h.runAll_firstRuns_of_seen (fun _ hk => absurd hk List.not_mem_nil) hfits hsorted

omit [DecidableEq κ] in
/-- In the end every key of a run is settled. -/
theorem Settles.runAll_settled (h : Settles act before Fits Settled) (hfits : ∀ r ∈ runs, Fits r.1 s)
    (hsorted : runs.Pairwise fun r r' => before r.1 r'.1) {k : κ}
    (hk : Settled k s ∨ ∃ r ∈ runs, r.2 = k) : Settled k (runAll act runs s) := by
  induction runs generalizing s with
  | nil => exact hk.resolve_right fun ⟨_, hr, _⟩ => absurd hr List.not_mem_nil
  | cons r rest ih =>
    obtain ⟨hafter, hrest⟩ := List.pairwise_cons.1 hsorted
    have hfit := hfits r List.mem_cons_self
    refine ih (fun r' hr' => h.later (hafter r' hr') (h.fits hfit)) hrest ?_
    rcases hk with hk | ⟨r', hr', rfl⟩
    · exact .inl (h.keeps hfit hk)
    · rcases List.mem_cons.1 hr' with rfl | hr'
      · exact .inl (h.settles hfit)
      · exact .inr ⟨r', hr', rfl⟩

end Retries

end Crumbs.Db
