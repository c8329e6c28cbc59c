import SuShareApp.Library.BinaryFormat
import Mathlib.Algebra.Order.Round
import Mathlib.Data.Rat.Floor
import Mathlib.Tactic.Linarith

/-!
# Swift numbers

A `Double` is taken by the number it holds, and its arithmetic by the exact result
followed by a rounding `rnd : ℚ → Double` : round-to-nearest with overflow to an
infinity is what the hardware does (`Double.round`), `Double.finite` is exact arithmetic.
Nothing proved for every `rnd` depends on how a result is rounded.

`Int(_:)` of a `Double` truncates toward zero and traps on a value that is not a number,
is infinite, or does not fit in 64 bits; a trap is `none` (`toInt?`).
-/

namespace SuShareApp

/-- Truncation toward zero. -/
def truncate (q : ℚ) : ℤ :=
  if 0 ≤ q then ⌊q⌋ else ⌈q⌉

theorem truncate_of_nonneg {q : ℚ} (hq : 0 ≤ q) : truncate q = ⌊q⌋ :=
  if_pos hq

/-- The nearest integer, halves to the even one, as `String(format: "%0.f", _)` prints. -/
def roundHalfEven (q : ℚ) : ℤ :=
  if Int.fract q < 1 / 2 then ⌊q⌋
  else if 1 / 2 < Int.fract q then ⌊q⌋ + 1
  else if ⌊q⌋ % 2 = 0 then ⌊q⌋ else ⌊q⌋ + 1

theorem roundsToInt_roundHalfEven : RoundsToInt roundHalfEven where
  monotone p q hpq := by
    have hfloor : ⌊p⌋ ≤ ⌊q⌋ := Int.floor_le_floor hpq
    rcases hfloor.lt_or_eq with hlt | heq
    · -- the results differ from the floors by one at most
      have hp : roundHalfEven p ≤ ⌊p⌋ + 1 := by
        unfold roundHalfEven
        split_ifs <;> omega
      have hq : ⌊q⌋ ≤ roundHalfEven q := by
        unfold roundHalfEven
        split_ifs <;> omega
      omega
    · have hfract : Int.fract p ≤ Int.fract q := by
        unfold Int.fract
        rw [heq]
        exact sub_le_sub_right hpq _
      unfold roundHalfEven
      rw [heq]
      split_ifs <;> first | omega | (exfalso; linarith)
  intCast n := by
    unfold roundHalfEven
    rw [Int.fract_intCast, if_pos (by norm_num), Int.floor_intCast]

/-- The nearest integer is the one below : the fraction is less than a half, or a half above an
even number. -/
def RoundsDown (q : ℚ) : Prop :=
  Int.fract q < 1 / 2 ∨ Int.fract q = 1 / 2 ∧ Even ⌊q⌋

theorem roundHalfEven_eq_floor_iff {q : ℚ} : roundHalfEven q = ⌊q⌋ ↔ RoundsDown q := by
  unfold roundHalfEven RoundsDown
  rw [Int.even_iff]
  rcases lt_trichotomy (Int.fract q) (1 / 2) with hlt | heq | hgt
  · rw [if_pos hlt]
    exact iff_of_true rfl (Or.inl hlt)
  · rw [heq, if_neg (lt_irrefl _), if_neg (lt_irrefl _)]
    split_ifs with heven
    · exact iff_of_true rfl (Or.inr ⟨rfl, heven⟩)
    · exact iff_of_false (by omega) (by simp [heven])
  · rw [if_neg hgt.not_gt, if_pos hgt]
    refine iff_of_false (by omega) ?_
    rintro (hlt | ⟨heq, -⟩)
    · exact hgt.not_gt hlt
    · exact hgt.ne' heq

/-- A Swift `Double`, by the number it holds. -/
inductive Double
  | finite (value : ℚ)
  | infinity (negative : Bool)
  | nan
deriving DecidableEq, Repr

/-- The numbers that a finite `Double` holds, but for the bound on their size. -/
def binary64 : BinaryFormat where
  precision := 53
  minExponent := -1074

namespace Double

/-- Round to nearest, ties to even, and to an infinity what is too large. -/
def round (q : ℚ) : Double :=
  if |binary64.round roundHalfEven q| < 2 ^ 1024 then .finite (binary64.round roundHalfEven q)
  else .infinity (q < 0)

/-- `Double(n)` -/
def ofInt (rnd : ℚ → Double) (n : ℤ) : Double :=
  rnd n

/-- `a / b`. An integer operand has no negative zero, so a division by zero is signed by
its numerator. -/
def div (rnd : ℚ → Double) : Double → Double → Double
  | .finite a, .finite b =>
    if b = 0 then if a = 0 then .nan else .infinity (a < 0) else rnd (a / b)
  | .finite _, .infinity _ => .finite 0
  | .infinity s, .finite b => .infinity (s ^^ decide (b < 0))
  | .infinity _, .infinity _ => .nan
  | .nan, _ => .nan
  | _, .nan => .nan

/-- `a * b` -/
def mul (rnd : ℚ → Double) : Double → Double → Double
  | .finite a, .finite b => rnd (a * b)
  | .finite a, .infinity s => if a = 0 then .nan else .infinity (s ^^ decide (a < 0))
  | .infinity s, .finite b => if b = 0 then .nan else .infinity (s ^^ decide (b < 0))
  | .infinity s, .infinity t => .infinity (s ^^ t)
  | .nan, _ => .nan
  | _, .nan => .nan

/-! ## Finite results -/

/-- A number that a `Double` holds is not too large. -/
theorem abs_lt_of_round {q v : ℚ} (h : round q = .finite v) : |v| < 2 ^ 1024 := by
  unfold round at h
  split_ifs at h with hlt
  rwa [← Double.finite.inj h]

theorem exists_round_eq_finite {q : ℚ} (hq : |q| < 2 ^ 1023) : ∃ v, round q = .finite v := by
  have hle : |binary64.round roundHalfEven q| ≤ 2 ^ (1023 : ℤ) := by
    refine BinaryFormat.abs_round_le roundsToInt_roundHalfEven (by decide) ?_
    exact_mod_cast hq
  have hlt : |binary64.round roundHalfEven q| < 2 ^ 1024 := by
    refine hle.trans_lt ?_
    rw [zpow_ofNat]
    exact pow_lt_pow_right₀ one_lt_two (by norm_num)
  exact ⟨_, if_pos hlt⟩

/-- An integer of at most 53 bits is held as it is. -/
theorem round_intCast {n : ℤ} (hn : |n| < 2 ^ 53) : round n = .finite n := by
  have hround : binary64.round roundHalfEven (n : ℚ) = n :=
    BinaryFormat.round_intCast roundsToInt_roundHalfEven (by decide) hn
  have hlt : |(n : ℚ)| < 2 ^ 1024 := by
    have hcast : |(n : ℚ)| < 2 ^ 53 := by exact_mod_cast hn
    exact hcast.trans (pow_lt_pow_right₀ one_lt_two (by norm_num))
  rw [round, hround, if_pos hlt]

/-- A finite `Double` has a finite part for each of two or more. -/
theorem exists_div_ofInt_eq_finite {a : ℚ} (ha : round a = .finite a) {n : ℤ} (hn : 2 ≤ n)
    (hn' : n < 2 ^ 53) : ∃ v, (finite a).div round (ofInt round n) = .finite v := by
  have hpos : (2 : ℚ) ≤ n := by exact_mod_cast hn
  have hint : round n = .finite n := round_intCast (by rwa [abs_of_nonneg (by omega)])
  have hquot : |a / n| < 2 ^ 1023 := by
    rw [abs_div, abs_of_pos (by linarith : (0 : ℚ) < n), div_lt_iff₀ (by linarith)]
    calc |a| < 2 ^ 1023 * 2 := by
          rw [← pow_succ]
          exact abs_lt_of_round ha
      _ ≤ 2 ^ 1023 * n := mul_le_mul_of_nonneg_left hpos (by positivity)
  obtain ⟨v, hv⟩ := exists_round_eq_finite hquot
  refine ⟨v, ?_⟩
  rw [ofInt, hint, div, if_neg (by linarith : (n : ℚ) ≠ 0), hv]

/-- `Int(d)`, or `none` where it traps. -/
def toInt? : Double → Option ℤ
  | .finite q =>
    if -2 ^ 63 ≤ truncate q ∧ truncate q < 2 ^ 63 then some (truncate q) else none
  | _ => none

end Double

end SuShareApp
