/-!
# Calls that Count Once

Calls are made one after the other, some of them on the same key. If a call either does nothing or
settles its key, and a call on a settled key does nothing, then of the calls on one key at most one
has any effect.

## Contents

- `runCallsOn`: the state after some calls
- `CountsOnce`: what the calls have to satisfy
- `CountsOnce.settled_noop`, `CountsOnce.later_noop`: after the key is settled, and after a call
  with an effect
-/

namespace Crumbs.Db

section Once

variable {σ ι κ : Type}

/-- The state after some calls. -/
def runCallsOn (act : ι → σ → σ) (calls : List ι) (s : σ) : σ := calls.foldl (fun s c => act c s) s

@[simp] theorem runCallsOn_nil (act : ι → σ → σ) (s : σ) : runCallsOn act [] s = s := rfl

@[simp] theorem runCallsOn_cons (act : ι → σ → σ) (c : ι) (rest : List ι) (s : σ) :
    runCallsOn act (c :: rest) s = runCallsOn act rest (act c s) := rfl

/-- In states that fit, a call does nothing or settles its key, a call on a settled key does
    nothing, and no call unsettles a key. -/
structure CountsOnce (act : ι → σ → σ) (key : ι → κ) (Fits : σ → Prop)
    (Settled : κ → σ → Prop) : Prop where
  fits : ∀ {c s}, Fits s → Fits (act c s)
  settles : ∀ {c s}, Fits s → act c s = s ∨ Settled (key c) (act c s)
  noop : ∀ {c s}, Fits s → Settled (key c) s → act c s = s
  keeps : ∀ {c k s}, Fits s → Settled k s → Settled k (act c s)

variable {act : ι → σ → σ} {key : ι → κ} {Fits : σ → Prop} {Settled : κ → σ → Prop} {s : σ}

theorem CountsOnce.fits_run (h : CountsOnce act key Fits Settled) (hs : Fits s) (calls : List ι) :
    Fits (runCallsOn act calls s) := by
  induction calls generalizing s with
  | nil => exact hs
  | cons c rest ih => exact ih (h.fits hs)

theorem CountsOnce.keeps_run (h : CountsOnce act key Fits Settled) (hs : Fits s) {k : κ}
    (hsettled : Settled k s) (calls : List ι) : Settled k (runCallsOn act calls s) := by
  induction calls generalizing s with
  | nil => exact hsettled
  | cons c rest ih => exact ih (h.fits hs) (h.keeps hs hsettled)

/-- Once its key is settled, a call does nothing, whatever calls come before it. -/
theorem CountsOnce.settled_noop (h : CountsOnce act key Fits Settled) (hs : Fits s) {c : ι}
    (hsettled : Settled (key c) s) (calls : List ι) :
    act c (runCallsOn act calls s) = runCallsOn act calls s :=
  h.noop (h.fits_run hs calls) (h.keeps_run hs hsettled calls)

/-- After a call with an effect, no call on its key has any. -/
theorem CountsOnce.later_noop (h : CountsOnce act key Fits Settled) (hs : Fits s) {c c' : ι}
    (heffect : act c s ≠ s) (calls : List ι) (hkey : key c' = key c) :
    act c' (runCallsOn act (c :: calls) s) = runCallsOn act (c :: calls) s := by
  have hsettled : Settled (key c) (act c s) := (h.settles hs).resolve_left heffect
  exact h.settled_noop (h.fits hs) (hkey ▸ hsettled) calls

end Once

end Crumbs.Db
