import Mathlib.Data.List.Chain
import Mathlib.Data.List.Infix

/-!
# Journals of a State Machine

A journal lists the moves of a machine, each with the state before and the state after. An
entry may also be a note, which is taken in a state and leaves the machine there.

## Contents

- `Leads`: the entries lead from one state to another
- `Leads.isChain`, `Leads.eq_last`: what can be read off such a journal
-/

namespace Crumbs.Db

variable {σ : Type} {edge : σ → σ → Prop} {s t : σ} {entries : List (σ × σ)}

/-- The entries lead from `s` to `t`: each begins where the one before it has ended, and follows
    an edge or stays where it is. -/
inductive Leads (edge : σ → σ → Prop) (s : σ) : List (σ × σ) → σ → Prop where
  | nil : Leads edge s [] s
  | snoc {entries t u} (h : Leads edge s entries t) (hmove : t = u ∨ edge t u) :
      Leads edge s (entries ++ [(t, u)]) u

namespace Leads

/-- The journal ends in the current state. -/
theorem eq_last (h : Leads edge s entries t) : t = (entries.getLast?.map Prod.snd).getD s := by
  cases h with
  | nil => rfl
  | snoc _ _ => rw [List.getLast?_append, List.getLast?_singleton]; rfl

/-- Each entry begins where the one before it has ended. -/
theorem isChain (h : Leads edge s entries t) : entries.IsChain fun a b => a.2 = b.1 := by
  induction h with
  | nil => exact List.IsChain.nil
  | @snoc entries t u h _ ih =>
    refine List.isChain_append.2 ⟨ih, List.IsChain.singleton _, fun a ha b hb => ?_⟩
    obtain rfl : b = (t, u) := by simpa using hb.symm
    have hlast := h.eq_last
    rw [Option.mem_def.1 ha] at hlast
    exact hlast.symm

end Leads

end Crumbs.Db
