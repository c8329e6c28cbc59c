import Mathlib.Data.Int.ConditionallyCompleteOrder
import Mathlib.Data.Int.Log
import Mathlib.Tactic.Positivity

/-!
# Rounding to a binary format

A binary format has a precision and a least exponent. The numbers near `q` that it holds are
the multiples of one power of two (`BinaryFormat.unit`), and `q` is rounded to one of them by
rounding to an integer the number of times that the power goes into it. Any rounding to
integers will do that is monotone and leaves the integers as they are (`RoundsToInt`).

No bound on the exponents is part of the format : what is too large is for the caller to
decide, with `abs_round_le`.
-/

/-- A format of binary numbers, with gradual underflow. -/
structure BinaryFormat where
  precision : ℕ
  minExponent : ℤ

variable {K : Type*} [Field K] [LinearOrder K] [IsStrictOrderedRing K]

/-- A rounding to integers. -/
structure RoundsToInt (rnd : K → ℤ) : Prop where
  monotone : Monotone rnd
  intCast : ∀ n : ℤ, rnd n = n

theorem RoundsToInt.abs_le_of_abs_le {rnd : K → ℤ} (h : RoundsToInt rnd) {q : K} {n : ℤ}
    (hq : |q| ≤ n) : |rnd q| ≤ n := by
  obtain ⟨hlow, hhigh⟩ := abs_le.mp hq
  refine abs_le.mpr ⟨?_, ?_⟩
  · have hmono := h.monotone (show ((-n : ℤ) : K) ≤ q by rwa [Int.cast_neg])
    rwa [h.intCast] at hmono
  · have hmono := h.monotone hhigh
    rwa [h.intCast] at hmono

namespace BinaryFormat

variable [FloorSemiring K] (F : BinaryFormat)

/-- The exponent of the unit in the last place of the numbers near `q`. -/
def unit (q : K) : ℤ :=
  max (Int.log 2 |q| + 1 - F.precision) F.minExponent

/-- The number of the format that `q` is rounded to. -/
def round (rnd : K → ℤ) (q : K) : K :=
  rnd (q / 2 ^ F.unit q) * 2 ^ F.unit q

variable {F} {rnd : K → ℤ} {q : K}

omit [IsStrictOrderedRing K] in
theorem round_zero (h : RoundsToInt rnd) : F.round rnd 0 = 0 := by
  have hzero : rnd 0 = 0 := by simpa using h.intCast 0
  rw [round, zero_div, hzero, Int.cast_zero, zero_mul]

/-- Below a power of two, no number of the format takes more than the precision. -/
theorem unit_le (hq : q ≠ 0) {k : ℤ} (hk : F.minExponent + F.precision ≤ k)
    (hqk : |q| < 2 ^ k) : F.unit q ≤ k - F.precision := by
  have hlog : Int.log 2 |q| < k := by
    refine (Int.lt_zpow_iff_log_lt (by norm_num) (abs_pos.mpr hq)).mp ?_
    exact_mod_cast hqk
  unfold unit
  omega

/-- Rounding does not go beyond a power of two. -/
theorem abs_round_le (h : RoundsToInt rnd) {k : ℤ} (hk : F.minExponent + F.precision ≤ k)
    (hqk : |q| < 2 ^ k) : |F.round rnd q| ≤ 2 ^ k := by
  rcases eq_or_ne q 0 with rfl | hq
  · rw [round_zero h, abs_zero]
    exact (zpow_pos two_pos k).le
  have hunit := unit_le hq hk hqk
  obtain ⟨m, hm⟩ : ∃ m : ℕ, k = m + F.unit q := ⟨(k - F.unit q).toNat, by omega⟩
  have hpos : (0 : K) < 2 ^ F.unit q := zpow_pos two_pos _
  have hpow : (2 : K) ^ k = ((2 ^ m : ℤ) : K) * 2 ^ F.unit q := by
    rw [hm, zpow_add₀ two_ne_zero, zpow_natCast, Int.cast_pow, Int.cast_ofNat]
  have hscaled : |q / 2 ^ F.unit q| ≤ ((2 ^ m : ℤ) : K) := by
    rw [abs_div, abs_of_pos hpos, div_le_iff₀ hpos, ← hpow]
    exact hqk.le
  calc |F.round rnd q| = ((|rnd (q / 2 ^ F.unit q)| : ℤ) : K) * 2 ^ F.unit q := by
        rw [round, abs_mul, abs_of_pos hpos, Int.cast_abs]
    _ ≤ ((2 ^ m : ℤ) : K) * 2 ^ F.unit q := by
        refine mul_le_mul_of_nonneg_right ?_ hpos.le
        exact_mod_cast h.abs_le_of_abs_le hscaled
    _ = 2 ^ k := hpow.symm

/-- An integer within the precision is a number of the format. -/
theorem round_intCast (h : RoundsToInt rnd) (hmin : F.minExponent ≤ 0) {n : ℤ}
    (hn : |n| < 2 ^ F.precision) : F.round rnd (n : K) = n := by
  rcases eq_or_ne n 0 with rfl | hne
  · rw [Int.cast_zero, round_zero h]
  have hlog : Int.log 2 |(n : K)| < F.precision := by
    refine (Int.lt_zpow_iff_log_lt (by norm_num) (abs_pos.mpr (Int.cast_ne_zero.mpr hne))).mp ?_
    rw [zpow_natCast]
    exact_mod_cast hn
  obtain ⟨m, hm⟩ : ∃ m : ℕ, F.unit (n : K) = -m := by
    refine ⟨(-F.unit (n : K)).toNat, ?_⟩
    have hunit : F.unit (n : K) ≤ 0 := by
      unfold unit
      omega
    omega
  have hpow : (2 : K) ^ F.unit (n : K) = (((2 ^ m : ℤ) : K))⁻¹ := by
    rw [hm, zpow_neg, zpow_natCast, Int.cast_pow, Int.cast_ofNat]
  have hm0 : ((2 ^ m : ℤ) : K) ≠ 0 := by positivity
  rw [round, hpow, div_inv_eq_mul, ← Int.cast_mul, h.intCast, Int.cast_mul,
    mul_inv_cancel_right₀ hm0]

end BinaryFormat
