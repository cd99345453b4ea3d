import Mathlib.Algebra.Order.Field.Power
import Mathlib.Algebra.Order.Ring.Rat
import Mathlib.Data.Int.Log
import Mathlib.Data.Rat.Floor
import Mathlib.Tactic.Linarith
import Mathlib.Tactic.NormNum
import Mathlib.Tactic.Positivity
import Mathlib.Tactic.Ring

/-!
# Decimal Arithmetic with a Fixed Number of Digits

Results of decimal arithmetic are exact rationals that are rounded to a number of significant
digits, ties to the even digit. Rounding errs by at most half a unit of the last digit; a number
that has so few digits is not rounded at all; and errors of several operations add up.

## Contents

- `roundHalfEven`: the nearest integer, ties to the even one
- `roundTo`: the nearest multiple of a unit
- `toDigits`: the nearest number with so many significant digits
- `Near`: one number is another up to a relative error
- `near_toDigits`, `Near.trans`, `Near.mul_div`: how errors arise and add up
- `toDigits_eq_self`, `roundTo_of_near`: what is not rounded, and what is rounded back
-/

namespace Crumbs.Num

/-! ## Integers -/

/-- The nearest integer, ties to the even one. -/
def roundHalfEven (q : ℚ) : ℤ :=
  if q - ⌊q⌋ < 1 / 2 then ⌊q⌋
  else if 1 / 2 < q - ⌊q⌋ then ⌊q⌋ + 1
  else if ⌊q⌋ % 2 = 0 then ⌊q⌋ else ⌊q⌋ + 1

theorem abs_roundHalfEven_sub_le (q : ℚ) : |(roundHalfEven q : ℚ) - q| ≤ 1 / 2 := by
  have hfloor := Int.floor_le q
  have hlt := Int.lt_floor_add_one q
  rw [roundHalfEven, abs_le]
  split_ifs <;> push_cast <;> constructor <;> linarith

/-- A number that is nearer to an integer than half is rounded to it. -/
theorem roundHalfEven_eq {q : ℚ} {n : ℤ} (h : |q - n| < 1 / 2) : roundHalfEven q = n := by
  have hround := abs_le.1 (abs_roundHalfEven_sub_le q)
  have hnear := abs_lt.1 h
  have hlt : |((roundHalfEven q - n : ℤ) : ℚ)| < 1 := by
    rw [abs_lt]
    push_cast
    constructor <;> linarith [hround.1, hround.2, hnear.1, hnear.2]
  rw [← Int.cast_abs] at hlt
  have hzero : |roundHalfEven q - n| < 1 := by exact_mod_cast hlt
  exact sub_eq_zero.1 (Int.abs_lt_one_iff.1 hzero)

@[simp] theorem roundHalfEven_intCast (n : ℤ) : roundHalfEven (n : ℚ) = n :=
  roundHalfEven_eq (by norm_num)

/-! ## Multiples of a unit -/

/-- The nearest multiple of the unit. -/
def roundTo (unit q : ℚ) : ℚ := roundHalfEven (q / unit) * unit

section Quantize

variable {unit q : ℚ} (hunit : 0 < unit)
include hunit

theorem abs_roundTo_sub_le (q : ℚ) : |roundTo unit q - q| ≤ unit / 2 := by
  have hq : roundTo unit q - q = (roundHalfEven (q / unit) - q / unit) * unit := by
    rw [roundTo, sub_mul, div_mul_cancel₀ q hunit.ne']
  rw [hq, abs_mul, abs_of_pos hunit]
  calc |(roundHalfEven (q / unit) : ℚ) - q / unit| * unit
      ≤ 1 / 2 * unit := mul_le_mul_of_nonneg_right (abs_roundHalfEven_sub_le _) hunit.le
    _ = unit / 2 := by ring

theorem roundTo_of_near {n : ℤ} (h : |q - n * unit| < unit / 2) : roundTo unit q = n * unit := by
  have hdiv : q / unit - n = (q - n * unit) / unit := by
    rw [sub_div, mul_div_cancel_right₀ _ hunit.ne']
  rw [roundTo, roundHalfEven_eq]
  rw [hdiv, abs_div, abs_of_pos hunit, div_lt_iff₀ hunit]
  linarith

theorem roundTo_mul (n : ℤ) : roundTo unit (n * unit) = n * unit :=
  roundTo_of_near hunit (by simpa using half_pos hunit)

end Quantize

@[simp] theorem roundTo_zero (unit : ℚ) : roundTo unit 0 = 0 := by
  have hzero : roundHalfEven 0 = 0 := by exact_mod_cast roundHalfEven_intCast 0
  rw [roundTo, zero_div, hzero, Int.cast_zero, zero_mul]

/-! ## Significant digits -/

/-- The nearest number with so many significant digits. -/
def toDigits (digits : ℕ) (q : ℚ) : ℚ :=
  if q = 0 then 0 else roundTo (10 ^ (Int.log 10 |q| + 1 - digits)) q

/-- `a` is `b` up to the relative error `ε`. -/
def Near (ε a b : ℚ) : Prop := |a - b| ≤ ε * |b|

/-- Half a unit of the last of so many digits, relative to the first. -/
def halfUnit (digits : ℕ) : ℚ := (10 : ℚ) ^ (1 - digits : ℤ) / 2

theorem halfUnit_pos (digits : ℕ) : 0 < halfUnit digits := by
  unfold halfUnit
  positivity

section Near

variable {ε δ a b c : ℚ}

theorem Near.mono (h : Near ε a b) (hεδ : ε ≤ δ) : Near δ a b :=
  h.trans (mul_le_mul_of_nonneg_right hεδ (abs_nonneg b))

theorem Near.abs_le (h : Near ε a b) : |a| ≤ (1 + ε) * |b| := by
  calc |a| = |a - b + b| := by rw [sub_add_cancel]
    _ ≤ |a - b| + |b| := abs_add_le _ _
    _ ≤ ε * |b| + |b| := add_le_add_left h _
    _ = (1 + ε) * |b| := by ring

theorem Near.trans (hε : 0 ≤ ε) (h : Near ε a b) (h' : Near δ b c) :
    Near (ε * (1 + δ) + δ) a c := by
  calc |a - c| = |a - b + (b - c)| := by rw [sub_add_sub_cancel]
    _ ≤ |a - b| + |b - c| := abs_add_le _ _
    _ ≤ ε * |b| + δ * |c| := add_le_add h h'
    _ ≤ ε * ((1 + δ) * |c|) + δ * |c| :=
      add_le_add_left (mul_le_mul_of_nonneg_left h'.abs_le hε) _
    _ = (ε * (1 + δ) + δ) * |c| := by ring

/-- The error of a quotient is that of the product with the divisor. -/
theorem Near.mul_div (hc : c ≠ 0) (h : Near ε a (b / c)) : Near ε (c * a) b := by
  have hcb : c * a - b = c * (a - b / c) := by rw [mul_sub, mul_div_cancel₀ b hc]
  calc |c * a - b| = |c| * |a - b / c| := by rw [hcb, abs_mul]
    _ ≤ |c| * (ε * |b / c|) := mul_le_mul_of_nonneg_left h (abs_nonneg c)
    _ = ε * |b| := by rw [abs_div, mul_left_comm, mul_div_cancel₀ _ (abs_pos.2 hc).ne']

theorem near_toDigits (digits : ℕ) (q : ℚ) : Near (halfUnit digits) (toDigits digits q) q := by
  by_cases hq : q = 0
  · simp [Near, toDigits, hq]
  have hpos : 0 < |q| := abs_pos.2 hq
  rw [Near, toDigits, if_neg hq]
  refine (abs_roundTo_sub_le (by positivity) q).trans ?_
  -- the first digit of `q` stands for at least this power of ten
  have hfirst : (10 : ℚ) ^ Int.log 10 |q| ≤ |q| := Int.zpow_log_le_self (by norm_num) hpos
  calc (10 : ℚ) ^ (Int.log 10 |q| + 1 - digits) / 2
      = halfUnit digits * 10 ^ Int.log 10 |q| := by
        rw [halfUnit, add_sub_assoc, zpow_add₀ (by norm_num)]
        ring
    _ ≤ halfUnit digits * |q| := mul_le_mul_of_nonneg_left hfirst (halfUnit_pos digits).le

end Near

theorem toDigits_eq_zero {digits : ℕ} (hdigits : 1 ≤ digits) {q : ℚ} :
    toDigits digits q = 0 ↔ q = 0 := by
  constructor
  · intro h
    by_contra hq
    have hnear := near_toDigits digits q
    rw [h, Near, zero_sub, abs_neg] at hnear
    have hunit : halfUnit digits ≤ 1 / 2 := by
      rw [halfUnit, div_le_div_iff_of_pos_right (by norm_num)]
      exact zpow_le_one_of_nonpos₀ (by norm_num) (by omega)
    have hpos : 0 < |q| := abs_pos.2 hq
    nlinarith
  · intro h
    rw [toDigits, if_pos h]

/-- A number is not rounded if it has `k` digits after the point and no more than the others
before it. -/
theorem toDigits_eq_self {digits k : ℕ} {q : ℚ} {n : ℤ} (hq : q * 10 ^ k = n)
    (h : |q| < 10 ^ (digits - k : ℤ)) : toDigits digits q = q := by
  rw [toDigits]
  split_ifs with hzero
  · exact hzero.symm
  have hlog : Int.log 10 |q| < digits - k :=
    (Int.lt_zpow_iff_log_lt (by norm_num) (abs_pos.2 hzero)).1 (by exact_mod_cast h)
  obtain ⟨m, hm⟩ : ∃ m : ℕ, Int.log 10 |q| + 1 - digits = -((k : ℤ) + m) :=
    ⟨(-(Int.log 10 |q| + 1 - digits) - k).toNat, by omega⟩
  have hunit : (0 : ℚ) < 10 ^ (Int.log 10 |q| + 1 - digits) := by positivity
  -- `q` is a whole number of units
  have hwhole : q = ((n * 10 ^ m : ℤ) : ℚ) * 10 ^ (Int.log 10 |q| + 1 - digits) := by
    rw [hm, zpow_neg, zpow_add₀ (by norm_num), zpow_natCast, zpow_natCast]
    push_cast
    rw [← hq]
    field_simp
  have hself := roundTo_mul hunit (n * 10 ^ m)
  rwa [← hwhole] at hself

end Crumbs.Num
