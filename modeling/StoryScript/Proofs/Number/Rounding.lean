import StoryScript.Number.Binary64
import Mathlib.Algebra.Order.Field.Power
import Mathlib.Data.Int.Log
import Mathlib.Data.Rat.Floor
import Mathlib.Tactic.GCongr
import Mathlib.Tactic.NormNum
import Mathlib.Tactic.Positivity
import Mathlib.Tactic.Ring

/-!
Rounding a ratio to binary64. The bits depend on the ratio alone, not on the numbers that it is
written with; a ratio that is a value of its own is rounded to that value; and the powers of ten that
are not computed would have given the same bits.
-/

namespace StoryScript.Binary64

variable {num den : Nat}

theorem shifted_le_iff (positive : 0 < den) (exponent : Int) :
    den <<< exponent.toNat ≤ num <<< (-exponent).toNat ↔ (2 : ℚ) ^ exponent ≤ num / den := by
  have denPositive : (0 : ℚ) < den := by exact_mod_cast positive
  rw [le_div_iff₀ denPositive, Nat.shiftLeft_eq, Nat.shiftLeft_eq, ← @Nat.cast_le ℚ]
  obtain ⟨power, rfl | rfl⟩ := exponent.eq_nat_or_neg
  · simp [mul_comm]
  · have powerPositive : (0 : ℚ) < 2 ^ power := by positivity
    simp only [Int.toNat_neg_natCast, neg_neg, Int.toNat_natCast, zpow_neg, zpow_natCast]
    rw [inv_mul_le_iff₀ powerPositive]
    push_cast
    rw [mul_one, mul_comm]

/-- The estimate by the leading bits is too great by one at most. -/
theorem log_bounds (numPositive : 0 < num) (denPositive : 0 < den) :
    let estimate : Int := num.log2 - den.log2
    estimate - 1 ≤ Int.log 2 ((num : ℚ) / den) ∧ Int.log 2 ((num : ℚ) / den) < estimate + 1 := by
  intro estimate
  have ratioPositive : (0 : ℚ) < num / den := by positivity
  have numAbove : (2 : ℚ) ^ num.log2 ≤ num := by
    exact_mod_cast Nat.log2_self_le numPositive.ne'
  have numBelow : (num : ℚ) < 2 ^ (num.log2 + 1) := by exact_mod_cast Nat.lt_log2_self
  have denAbove : (2 : ℚ) ^ den.log2 ≤ den := by
    exact_mod_cast Nat.log2_self_le denPositive.ne'
  have denBelow : (den : ℚ) < 2 ^ (den.log2 + 1) := by exact_mod_cast Nat.lt_log2_self
  constructor
  · rw [← Int.zpow_le_iff_le_log Nat.one_lt_two ratioPositive]
    have split : (2 : ℚ) ^ (estimate - 1) = 2 ^ num.log2 / 2 ^ (den.log2 + 1) := by
      rw [← zpow_natCast, ← zpow_natCast, ← zpow_sub₀ two_ne_zero]
      congr 1
      omega
    rw [Nat.cast_ofNat, split]
    gcongr
  · rw [← Int.lt_zpow_iff_log_lt Nat.one_lt_two ratioPositive]
    have split : (2 : ℚ) ^ (estimate + 1) = 2 ^ (num.log2 + 1) / 2 ^ den.log2 := by
      rw [← zpow_natCast, ← zpow_natCast, ← zpow_sub₀ two_ne_zero]
      congr 1
      omega
    rw [Nat.cast_ofNat, split]
    gcongr

theorem binaryExponent_eq_log (numPositive : 0 < num) (denPositive : 0 < den) :
    binaryExponent num den = Int.log 2 ((num : ℚ) / den) := by
  have ratioPositive : (0 : ℚ) < num / den := by positivity
  obtain ⟨above, below⟩ := log_bounds numPositive denPositive
  have reaches := @shifted_le_iff num den denPositive (num.log2 - den.log2)
  rw [← Nat.cast_ofNat (R := ℚ), Int.zpow_le_iff_le_log Nat.one_lt_two ratioPositive] at reaches
  simp only [binaryExponent, reaches]
  split
  · omega
  · omega

theorem nearestNat_mul {factor : Nat} (positive : 0 < factor) (num den : Nat) :
    nearestNat (num * factor) (den * factor) = nearestNat num den := by
  simp only [nearestNat, Nat.mul_div_mul_right _ _ positive, Nat.mul_mod_mul_right, ← mul_assoc,
    Nat.mul_lt_mul_right positive]

theorem nearestNat_whole (value : Nat) (positive : 0 < den) :
    nearestNat (value * den) den = value := by
  simp only [nearestNat, Nat.mul_div_cancel _ positive, Nat.mul_mod_left, mul_zero, positive,
    if_true]

theorem nearestNat_eq_zero (small : 2 * num < den) : nearestNat num den = 0 := by
  have less : num < den := by omega
  simp only [nearestNat, Nat.div_eq_of_lt less, Nat.mod_eq_of_lt less, small, if_true]

/-- The bits of a ratio, once it is known which power of two is the unit of its mantissa. -/
theorem nearestBits_of_unit (numPositive : 0 < num) (denPositive : 0 < den) {unit : Int}
    (same : max (Int.log 2 ((num : ℚ) / den) - 52) (-1074) = unit) :
    nearestBits num den =
      min ((unit + 1074).toNat * leadingBit +
        nearestNat (num <<< (-unit).toNat) (den <<< unit.toNat)) infinityBits := by
  rw [nearestBits, binaryExponent_eq_log numPositive denPositive, same]

theorem nearestBits_mul {factor : Nat} (positive : 0 < factor) (numPositive : 0 < num)
    (denPositive : 0 < den) : nearestBits (num * factor) (den * factor) = nearestBits num den := by
  have ratio : ((num * factor : Nat) : ℚ) / (den * factor : Nat) = num / den := by
    push_cast
    exact mul_div_mul_right _ _ (by positivity)
  rw [nearestBits_of_unit (Nat.mul_pos numPositive positive) (Nat.mul_pos denPositive positive) rfl,
    nearestBits_of_unit numPositive denPositive rfl, ratio]
  simp only [Nat.shiftLeft_eq, mul_right_comm _ factor, nearestNat_mul positive]

theorem nearestBits_congr {otherNum otherDen : Nat} (numPositive : 0 < num) (denPositive : 0 < den)
    (otherNumPositive : 0 < otherNum) (otherDenPositive : 0 < otherDen)
    (same : num * otherDen = otherNum * den) :
    nearestBits num den = nearestBits otherNum otherDen := by
  rw [← nearestBits_mul otherDenPositive numPositive denPositive, same, mul_comm den otherDen,
    nearestBits_mul denPositive otherNumPositive otherDenPositive]

theorem nearestBits_of_large (numPositive : 0 < num) (denPositive : 0 < den) {steps : Nat}
    (far : 1025 ≤ steps) (large : den <<< steps ≤ num) : nearestBits num den = infinityBits := by
  have ratioPositive : (0 : ℚ) < num / den := by positivity
  have reaches := (shifted_le_iff denPositive steps).mp (by simpa using large)
  rw [← Nat.cast_ofNat, Int.zpow_le_iff_le_log Nat.one_lt_two ratioPositive] at reaches
  rw [nearestBits_of_unit numPositive denPositive rfl]
  refine Nat.min_eq_right (Nat.le_add_right_of_le (Nat.mul_le_mul_right leadingBit ?_))
  omega

theorem nearestBits_of_small (numPositive : 0 < num) (denPositive : 0 < den)
    (small : 2 * (num <<< 1074) < den) : nearestBits num den = 0 := by
  have ratioPositive : (0 : ℚ) < num / den := by positivity
  have short : ¬ den ≤ num <<< 1074 :=
    Nat.not_le.mpr (Nat.lt_of_le_of_lt (Nat.le_mul_of_pos_left _ Nat.two_pos) small)
  have below := mt (shifted_le_iff denPositive (-1074)).mpr short
  rw [← Nat.cast_ofNat, Int.zpow_le_iff_le_log Nat.one_lt_two ratioPositive] at below
  have unit : max (Int.log 2 ((num : ℚ) / den) - 52) (-1074) = -1074 := by omega
  have nothing : nearestNat (num <<< 1074) (den <<< 0) = 0 := nearestNat_eq_zero small
  have least : ((-1074 : Int) + 1074).toNat * leadingBit = 0 := Nat.zero_mul _
  rw [nearestBits_of_unit numPositive denPositive unit, least]
  exact congrArg (fun mantissa => min (0 + mantissa) infinityBits) nothing

/-- The mantissa and the power of two that the bits of a positive finite value stand for. -/
structure IsScaled (bits mantissa : Nat) (power : Int) : Prop where
  positive : 0 < mantissa
  short : mantissa < 2 ^ 53
  /-- All bits of the mantissa are in use, but for the values closest to zero. -/
  full : 2 ^ 52 ≤ mantissa ∨ power = -1074
  least : -1074 ≤ power
  bits : (power + 1074).toNat * leadingBit + mantissa = bits

theorem isScaled_subnormal {mantissa : Nat} (positive : 0 < mantissa)
    (short : mantissa < leadingBit) : IsScaled mantissa mantissa (-1074) := by
  rw [leadingBit] at short
  exact ⟨positive, by omega, .inr rfl, le_rfl, by simp⟩

theorem isScaled_normal {exponent fraction : Nat} (positive : 0 < exponent)
    (short : fraction < leadingBit) :
    IsScaled (exponent * leadingBit + fraction) (leadingBit + fraction) (exponent - 1075) := by
  rw [leadingBit] at short
  refine ⟨?_, ?_, .inl ?_, by omega, ?_⟩
  all_goals
    simp only [leadingBit]
    omega

theorem isScaled_parts {bits : Nat} (positive : 0 < bits) :
    IsScaled bits (parts bits).1 (parts bits).2 := by
  unfold parts
  split
  next small => exact isScaled_subnormal positive small
  next large =>
    have exponent : 0 < bits / leadingBit := Nat.div_pos (Nat.not_lt.mp large) (by decide)
    have scaled := isScaled_normal exponent (Nat.mod_lt bits (by decide))
    rwa [Nat.div_add_mod'] at scaled

theorem IsScaled.unit {bits mantissa : Nat} {power : Int} (scaled : IsScaled bits mantissa power) :
    max (Int.log 2 ((mantissa <<< power.toNat : Nat) / (1 <<< (-power).toNat : Nat) : ℚ) - 52)
      (-1074) = power := by
  have ratio : ((mantissa <<< power.toNat : Nat) / (1 <<< (-power).toNat : Nat) : ℚ) =
      mantissa * 2 ^ power := by
    obtain ⟨steps, rfl | rfl⟩ := power.eq_nat_or_neg
    · simp [Nat.shiftLeft_eq]
    · simp [Nat.shiftLeft_eq, div_eq_mul_inv]
  have mantissaPositive : (0 : ℚ) < mantissa := by exact_mod_cast scaled.positive
  have ratioPositive : (0 : ℚ) < mantissa * 2 ^ power := by positivity
  have below : Int.log 2 ((mantissa : ℚ) * 2 ^ power) < 53 + power := by
    rw [← Int.lt_zpow_iff_log_lt Nat.one_lt_two ratioPositive, Nat.cast_ofNat,
      zpow_add₀ two_ne_zero]
    gcongr
    exact_mod_cast scaled.short
  rw [ratio]
  rcases scaled.full with full | rfl
  · have above : 52 + power ≤ Int.log 2 ((mantissa : ℚ) * 2 ^ power) := by
      rw [← Int.zpow_le_iff_le_log Nat.one_lt_two ratioPositive, Nat.cast_ofNat,
        zpow_add₀ two_ne_zero]
      gcongr
      exact_mod_cast full
    have least := scaled.least
    omega
  · omega

/-- A value is rounded to itself. -/
theorem nearestBits_of_scaled {bits mantissa : Nat} {power : Int}
    (scaled : IsScaled bits mantissa power) (finite : bits < infinityBits) :
    nearestBits (mantissa <<< power.toNat) (1 <<< (-power).toNat) = bits := by
  have numPositive : 0 < mantissa <<< power.toNat := Nat.shiftLeft_pos_iff.mpr scaled.positive
  have denPositive : 0 < 1 <<< (-power).toNat := Nat.shiftLeft_pos_iff.mpr Nat.one_pos
  have whole : nearestNat ((mantissa <<< power.toNat) <<< (-power).toNat)
      ((1 <<< (-power).toNat) <<< power.toNat) = mantissa := by
    rw [← Nat.shiftLeft_add, ← Nat.shiftLeft_add, Nat.add_comm power.toNat, Nat.shiftLeft_eq,
      Nat.one_shiftLeft]
    exact nearestNat_whole mantissa (by positivity)
  rw [nearestBits_of_unit numPositive denPositive scaled.unit, whole, scaled.bits]
  exact Nat.min_eq_left finite.le

theorem bitsOfDecimal_zero (exponent : Int) : bitsOfDecimal 0 exponent = 0 := by
  cases exponent with
  | ofNat | negSucc => rfl

theorem two_pow_le_ten_pow {steps power : Nat} (bound : steps ≤ 3 * power) :
    2 ^ steps ≤ 10 ^ power := by
  calc 2 ^ steps ≤ 2 ^ (3 * power) := Nat.pow_le_pow_right (by decide) bound
    _ = (2 ^ 3) ^ power := Nat.pow_mul ..
    _ ≤ 10 ^ power := Nat.pow_le_pow_left (by decide) power

theorem shifted_lt_ten_pow {digits steps power : Nat} (bound : digits.log2 + steps + 2 ≤ 3 * power) :
    2 * (digits <<< steps) < 10 ^ power := by
  calc 2 * (digits <<< steps) = digits * 2 ^ (steps + 1) := by rw [Nat.shiftLeft_eq]; ring
    _ < 2 ^ (digits.log2 + 1) * 2 ^ (steps + 1) :=
        Nat.mul_lt_mul_of_pos_right Nat.lt_log2_self (by positivity)
    _ = 2 ^ (digits.log2 + steps + 2) := by ring
    _ ≤ 10 ^ power := two_pow_le_ten_pow bound

theorem bitsOfDecimal_eq {digits : Nat} (positive : 0 < digits) (exponent : Int) :
    bitsOfDecimal digits exponent =
      nearestBits (digits * 10 ^ exponent.toNat) (10 ^ (-exponent).toNat) := by
  unfold bitsOfDecimal
  split
  next power =>
    rw [if_neg positive.ne', Int.ofNat_eq_natCast, Int.toNat_neg_natCast, Nat.pow_zero]
    split
    next far =>
      have large : 1 <<< (3 * power) ≤ digits * 10 ^ power := by
        rw [Nat.one_shiftLeft]
        exact (two_pow_le_ten_pow le_rfl).trans (Nat.le_mul_of_pos_left _ positive)
      have whole : 0 < digits * 10 ^ power := by positivity
      exact (nearestBits_of_large whole Nat.one_pos (by omega) large).symm
    next => rfl
  next power =>
    simp only [Bool.or_eq_true, decide_eq_true_eq, or_iff_right positive.ne']
    split
    next far =>
      have small : 2 * (digits <<< 1074) < 10 ^ (power + 1) := shifted_lt_ten_pow (by omega)
      have whole : digits * 10 ^ (Int.negSucc power).toNat = digits := Nat.mul_one digits
      rw [whole]
      exact (nearestBits_of_small positive (by positivity) small).symm
    next => exact congrArg (nearestBits · _) (Nat.mul_one digits).symm

end StoryScript.Binary64
