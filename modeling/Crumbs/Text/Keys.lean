import Mathlib.Data.List.Basic
import Mathlib.Data.Nat.Digits.Defs

/-!
# Keys Made of Numbers

Keys that are written as a label and some numbers, with colons in between. The digits of a number
hold no colon, so a key says what its numbers are.

## Contents

- `digits_inj`: a number is known by its digits
- `twoNumbers_inj`: a key of two numbers says which they are
-/

namespace Crumbs

/-- Digits hold no separator. -/
theorem not_mem_digits (n : ℕ) : ':' ∉ n.repr.toList := by
  rw [Nat.toList_repr]
  intro h
  exact absurd (Nat.isDigit_of_mem_toDigits (by decide) (by decide) h) (by decide)

/-- The digits are those of one number. -/
theorem digits_inj {n n' : ℕ} (h : n.repr.toList = n'.repr.toList) : n = n' := by
  have hvalue := congrArg (fun digits => Nat.ofDigitChars 10 digits 0) h
  simpa [Nat.ofDigitChars_toDigits] using hvalue

/-- After the same label, the two numbers of a key are told apart by the colon between them. -/
theorem twoNumbers_inj {label : List Char} {t u n m : ℕ}
    (h : label ++ (t.repr.toList ++ ':' :: n.repr.toList) =
      label ++ (u.repr.toList ++ ':' :: m.repr.toList)) : t = u ∧ n = m := by
  obtain ⟨hfirst, -, hsecond⟩ := (List.append_cons_inj_of_notMem (not_mem_digits t)
    (not_mem_digits n)).1 (List.append_cancel_left h)
  exact ⟨digits_inj hfirst, digits_inj hsecond⟩

end Crumbs
