/-
Rounding to double precision.

A non-negative rational number is rounded to the nearest multiple of the unit in its
last place, to the even one of two; the unit is never below 2^-1074.  A result of
2^1024 or more is infinite.  Exactly the numbers up to half the smallest unit become
zero, and exactly those that are half a unit below 2^1024 or larger become infinite.
-/

import Mathlib.Algebra.Order.Floor.Semiring
import Mathlib.Data.Int.Log
import Mathlib.Data.Rat.Floor
import Mathlib.Tactic.Linarith
import Mathlib.Tactic.Positivity

namespace Binary64

inductive Double where
  | finite (value : ℚ)
  | infinite
  deriving DecidableEq, Repr

/-- The nearest natural number, the even one of two. -/
def roundEven (number : ℚ) : Nat :=
  if number - ⌊number⌋₊ < 1 / 2 then ⌊number⌋₊
  else if 1 / 2 < number - ⌊number⌋₊ then ⌊number⌋₊ + 1
  else if ⌊number⌋₊ % 2 = 0 then ⌊number⌋₊
  else ⌊number⌋₊ + 1

def ulpExponent (number : ℚ) : Int := max (Int.log 2 number - 52) (-1074)

def ulp (number : ℚ) : ℚ := 2 ^ ulpExponent number

def rounded (number : ℚ) : ℚ := roundEven (number / ulp number) * ulp number

def round (number : ℚ) : Double :=
  if 2 ^ (1024 : Int) ≤ rounded number then .infinite else .finite (rounded number)

/-! ### Natural numbers -/

theorem le_iff_cast_lt (bound floor : Nat) : bound ≤ floor ↔ (bound : ℚ) < floor + 1 := by
  rw [← Nat.lt_succ_iff, ← Nat.cast_lt (α := ℚ), Nat.cast_succ]

/-- A natural number is reached from half below on, an odd one not from there itself. -/
theorem le_roundEven_iff {number : ℚ} (nonneg : 0 ≤ number) (bound : Nat) :
    bound ≤ roundEven number ↔
      (bound : ℚ) - 1 / 2 < number ∨ (bound : ℚ) - 1 / 2 = number ∧ bound % 2 = 0 := by
  have floorLe := Nat.floor_le nonneg
  have ltFloor := Nat.lt_floor_add_one number
  unfold roundEven
  generalize ⌊number⌋₊ = floor at *
  by_cases below : number - floor < 1 / 2
  · rw [if_pos below]
    constructor
    · intro reached
      have cast : (bound : ℚ) ≤ floor := Nat.cast_le.mpr reached
      left
      linarith
    · rintro (reached | ⟨reached, _⟩)
      · rw [le_iff_cast_lt]
        linarith
      · rw [le_iff_cast_lt]
        linarith
  · rw [if_neg below]
    by_cases above : 1 / 2 < number - floor
    · rw [if_pos above]
      constructor
      · intro reached
        have cast : (bound : ℚ) ≤ (floor + 1 : Nat) := Nat.cast_le.mpr reached
        rw [Nat.cast_succ] at cast
        left
        linarith
      · rintro (reached | ⟨reached, _⟩)
        · rw [le_iff_cast_lt, Nat.cast_succ]
          linarith
        · rw [le_iff_cast_lt, Nat.cast_succ]
          linarith
    · rw [if_neg above]
      have tie : number = floor + 1 / 2 := by linarith
      have strict : (bound : ℚ) - 1 / 2 < number ↔ bound ≤ floor := by
        rw [tie, le_iff_cast_lt, sub_lt_iff_lt_add, add_assoc, add_halves]
      have equal : (bound : ℚ) - 1 / 2 = number ↔ bound = floor + 1 := by
        rw [tie, sub_eq_iff_eq_add, add_assoc, add_halves, ← Nat.cast_succ, Nat.cast_inj]
      rw [strict, equal]
      split <;> omega

theorem le_roundEven_of_le {number : ℚ} {bound : Nat} (reached : (bound : ℚ) ≤ number) :
    bound ≤ roundEven number := by
  have nonneg : 0 ≤ number := le_trans (Nat.cast_nonneg bound) reached
  rw [le_roundEven_iff nonneg]
  left
  linarith

theorem roundEven_le_of_lt {number : ℚ} (nonneg : 0 ≤ number) {bound : Nat}
    (less : number < bound) : roundEven number ≤ bound := by
  by_contra above
  have reached : bound + 1 ≤ roundEven number := Nat.lt_of_not_le above
  rw [le_roundEven_iff nonneg] at reached
  push_cast at reached
  rcases reached with far | ⟨far, _⟩
  · linarith
  · linarith

theorem roundEven_eq_zero_iff {number : ℚ} (nonneg : 0 ≤ number) :
    roundEven number = 0 ↔ number ≤ 1 / 2 := by
  have positive := le_roundEven_iff nonneg 1
  rw [Nat.one_le_iff_ne_zero] at positive
  have half : ((1 : Nat) : ℚ) - 1 / 2 = 1 / 2 := by norm_num
  rw [half] at positive
  constructor
  · intro zero
    by_contra above
    exact positive.mpr (Or.inl (lt_of_not_ge above)) zero
  · intro small
    by_contra nonzero
    rcases positive.mp nonzero with above | ⟨_, even⟩
    · exact absurd above (not_lt_of_ge small)
    · exact absurd even (by decide)

/-! ### The unit in the last place -/

theorem ulp_pos (number : ℚ) : 0 < ulp number := zpow_pos two_pos _

theorem quotient_nonneg {number : ℚ} (nonneg : 0 ≤ number) : 0 ≤ number / ulp number :=
  div_nonneg nonneg (ulp_pos number).le

theorem le_ulpExponent (number : ℚ) : -1074 ≤ ulpExponent number := le_max_right _ _

/-- Above the smallest unit, a number has 53 binary digits before its unit. -/
theorem le_of_ulpExponent {number : ℚ} (positive : 0 < number)
    (normal : -1074 < ulpExponent number) : 2 ^ (ulpExponent number + 52) ≤ number := by
  have exponent : ulpExponent number + 52 = Int.log 2 number := by
    unfold ulpExponent at *
    omega
  rw [exponent]
  exact_mod_cast Int.zpow_log_le_self (by decide : 1 < 2) positive

theorem lt_of_ulpExponent (number : ℚ) : number < 2 ^ (ulpExponent number + 53) := by
  have below : number < 2 ^ (Int.log 2 number + 1) := by
    exact_mod_cast Int.lt_zpow_succ_log_self (by decide : 1 < 2) number
  have exponents : Int.log 2 number + 1 ≤ ulpExponent number + 53 := by
    unfold ulpExponent
    omega
  exact lt_of_lt_of_le below (zpow_le_zpow_right₀ one_le_two exponents)

theorem two_pow_mul_ulp (number : ℚ) (count : Nat) :
    ((2 ^ count : Nat) : ℚ) * ulp number = 2 ^ (ulpExponent number + count) := by
  rw [ulp, zpow_add₀ two_ne_zero, zpow_natCast, mul_comm, Nat.cast_pow, Nat.cast_ofNat]

/-! ### Rounded numbers -/

theorem rounded_eq_zero_iff {number : ℚ} (nonneg : 0 ≤ number) :
    rounded number = 0 ↔ number ≤ 2 ^ (ulpExponent number - 1) := by
  have half : (2 : ℚ) ^ (ulpExponent number - 1) = 1 / 2 * ulp number := by
    rw [ulp, zpow_sub_one₀ two_ne_zero, mul_comm, one_div]
  rw [rounded, mul_eq_zero_iff_right (ulp_pos number).ne', Nat.cast_eq_zero,
    roundEven_eq_zero_iff (quotient_nonneg nonneg), div_le_iff₀ (ulp_pos number), half]

theorem rounded_le {number : ℚ} (nonneg : 0 ≤ number) :
    rounded number ≤ 2 ^ (ulpExponent number + 53) := by
  have mantissa : roundEven (number / ulp number) ≤ 2 ^ 53 := by
    apply roundEven_le_of_lt (quotient_nonneg nonneg)
    rw [div_lt_iff₀ (ulp_pos number), two_pow_mul_ulp]
    exact lt_of_ulpExponent number
  have cast : (roundEven (number / ulp number) : ℚ) ≤ (2 ^ 53 : Nat) := Nat.cast_le.mpr mantissa
  have product := mul_le_mul_of_nonneg_right cast (ulp_pos number).le
  rw [two_pow_mul_ulp] at product
  exact product

theorem le_rounded {number : ℚ} (positive : 0 < number) (normal : -1074 < ulpExponent number) :
    2 ^ (ulpExponent number + 52) ≤ rounded number := by
  have mantissa : 2 ^ 52 ≤ roundEven (number / ulp number) := by
    apply le_roundEven_of_le
    rw [le_div_iff₀ (ulp_pos number), two_pow_mul_ulp]
    exact le_of_ulpExponent positive normal
  have cast : ((2 ^ 52 : Nat) : ℚ) ≤ roundEven (number / ulp number) := Nat.cast_le.mpr mantissa
  have product := mul_le_mul_of_nonneg_right cast (ulp_pos number).le
  rw [two_pow_mul_ulp] at product
  exact product

/-! ### Results that are not the number -/

theorem round_eq_zero_iff_rounded (number : ℚ) :
    round number = .finite 0 ↔ rounded number = 0 := by
  rw [round]
  by_cases large : 2 ^ (1024 : Int) ≤ rounded number
  · rw [if_pos large]
    constructor
    · intro impossible
      cases impossible
    · intro zero
      rw [zero] at large
      exact absurd large (not_le_of_gt (zpow_pos two_pos _))
  · rw [if_neg large, Double.finite.injEq]

theorem round_eq_infinite_iff_rounded (number : ℚ) :
    round number = .infinite ↔ 2 ^ (1024 : Int) ≤ rounded number := by
  rw [round]
  by_cases large : 2 ^ (1024 : Int) ≤ rounded number
  · rw [if_pos large]
    exact iff_of_true rfl large
  · rw [if_neg large]
    exact iff_of_false Double.noConfusion large

theorem round_eq_zero_iff {number : ℚ} (nonneg : 0 ≤ number) :
    round number = .finite 0 ↔ number ≤ 2 ^ (-1075 : Int) := by
  rw [round_eq_zero_iff_rounded, rounded_eq_zero_iff nonneg]
  have smallest := le_ulpExponent number
  constructor
  · intro small
    rcases nonneg.eq_or_lt with rfl | positive
    · exact (zpow_pos two_pos _).le
    · by_cases normal : -1074 < ulpExponent number
      · have large := (le_of_ulpExponent positive normal).trans small
        rw [zpow_le_zpow_iff_right₀ one_lt_two] at large
        omega
      · have exponent : ulpExponent number - 1 = -1075 := by omega
        rw [exponent] at small
        exact small
  · intro small
    have exponents : -1075 ≤ ulpExponent number - 1 := by omega
    exact small.trans (zpow_le_zpow_right₀ one_le_two exponents)

/-- Where the limit is 2^53 units, half a unit below it is enough, as 2^53 is even. -/
theorem limit_le_rounded_iff {number : ℚ} (nonneg : 0 ≤ number)
    (exponent : ulpExponent number = 971) :
    2 ^ (1024 : Int) ≤ rounded number ↔ 2 ^ (1024 : Int) - 2 ^ (970 : Int) ≤ number := by
  have positive := ulp_pos number
  have limit : (2 : ℚ) ^ (1024 : Int) = (2 ^ 53 : Nat) * ulp number := by
    rw [two_pow_mul_ulp, exponent]
    rfl
  have half : (2 : ℚ) ^ (970 : Int) = 1 / 2 * ulp number := by
    rw [ulp, exponent, one_div, mul_comm, ← zpow_sub_one₀ two_ne_zero]
    rfl
  rw [half, limit, ← sub_mul, rounded, mul_le_mul_iff_left₀ positive, Nat.cast_le,
    le_roundEven_iff (quotient_nonneg nonneg), ← le_div_iff₀ positive, le_iff_lt_or_eq]
  have even : 2 ^ 53 % 2 = 0 := by decide
  rw [and_iff_left even]

theorem round_eq_infinite_iff {number : ℚ} (nonneg : 0 ≤ number) :
    round number = .infinite ↔ 2 ^ (1024 : Int) - 2 ^ (970 : Int) ≤ number := by
  rw [round_eq_infinite_iff_rounded]
  rcases lt_trichotomy (ulpExponent number) 971 with below | same | above
  · have exponents : ulpExponent number + 53 ≤ 1023 := by omega
    have bound : (2 : ℚ) ^ (ulpExponent number + 53) ≤ 2 ^ (1023 : Int) :=
      zpow_le_zpow_right₀ one_le_two exponents
    have doubled : (2 : ℚ) ^ (1024 : Int) = 2 ^ (1023 : Int) * 2 :=
      zpow_add_one₀ two_ne_zero 1023
    have margin : (2 : ℚ) ^ (970 : Int) < 2 ^ (1023 : Int) :=
      zpow_lt_zpow_right₀ one_lt_two (by decide)
    have positive : (0 : ℚ) < 2 ^ (970 : Int) := zpow_pos two_pos _
    have small := (lt_of_ulpExponent number).trans_le bound
    have smallRounded := (rounded_le nonneg).trans bound
    rw [doubled]
    generalize (2 : ℚ) ^ (970 : Int) = unit at *
    generalize (2 : ℚ) ^ (1023 : Int) = half at *
    apply iff_of_false
    · intro reached
      linarith only [reached, smallRounded, margin, positive]
    · intro reached
      linarith only [reached, small, margin]
  · exact limit_le_rounded_iff nonneg same
  · have positive : 0 < number := by
      rcases nonneg.eq_or_lt with rfl | positive
      · rw [ulpExponent, Int.log_zero_right] at above
        exact absurd above (by decide)
      · exact positive
    have normal : -1074 < ulpExponent number := by omega
    have exponents : 1024 ≤ ulpExponent number + 52 := by omega
    have limit : (2 : ℚ) ^ (1024 : Int) ≤ 2 ^ (ulpExponent number + 52) :=
      zpow_le_zpow_right₀ one_le_two exponents
    have margin : (0 : ℚ) < 2 ^ (970 : Int) := zpow_pos two_pos _
    apply iff_of_true
    · exact limit.trans (le_rounded positive normal)
    · exact (sub_le_self _ margin.le).trans (limit.trans (le_of_ulpExponent positive normal))

end Binary64
