import StoryScript.Number.Shortest
import StoryScript.Proofs.Number.Rounding

/-!
The shortest decimal of a value reads back as the value: one that has been found was tried before it
was taken, the exact one needs no rounding, and zeros that are moved into the exponent change nothing.
-/

namespace StoryScript.Decimal

open Binary64

def bits (number : Decimal) : Nat :=
  bitsOfDecimal number.digits number.exponent

theorem bits_congr {left right : Decimal} (leftPositive : 0 < left.digits)
    (rightPositive : 0 < right.digits)
    (same : left.digits * 10 ^ left.exponent.toNat * 10 ^ (-right.exponent).toNat =
      right.digits * 10 ^ right.exponent.toNat * 10 ^ (-left.exponent).toNat) :
    left.bits = right.bits := by
  rw [bits, bits, bitsOfDecimal_eq leftPositive, bitsOfDecimal_eq rightPositive]
  exact nearestBits_congr (by positivity) (by positivity) (by positivity) (by positivity) same

theorem bits_shift (digits count : Nat) (exponent : Int) :
    bits ⟨digits * 10 ^ count, exponent⟩ = bits ⟨digits, exponent + count⟩ := by
  rcases Nat.eq_zero_or_pos digits with rfl | positive
  · rw [bits, bits, Nat.zero_mul, bitsOfDecimal_zero, bitsOfDecimal_zero]
  · have balance : count + exponent.toNat + (-(exponent + count)).toNat =
        (exponent + count).toNat + (-exponent).toNat := by omega
    apply bits_congr (Nat.mul_pos positive (by positivity)) positive
    calc digits * 10 ^ count * 10 ^ exponent.toNat * 10 ^ (-(exponent + count)).toNat
        = digits * 10 ^ (count + exponent.toNat + (-(exponent + count)).toNat) := by ring
      _ = digits * 10 ^ ((exponent + count).toNat + (-exponent).toNat) := by rw [balance]
      _ = digits * 10 ^ (exponent + count).toNat * 10 ^ (-exponent).toNat := by ring

theorem bits_normalize (steps : Nat) (number : Decimal) :
    (number.normalize steps).bits = number.bits := by
  induction steps generalizing number with
  | zero => rfl
  | succ steps ih =>
      rw [normalize]
      split
      next ends =>
        have whole : number.digits / 10 * 10 ^ 1 = number.digits := by omega
        have shifted := bits_shift (number.digits / 10) 1 number.exponent
        rw [whole] at shifted
        exact (ih _).trans shifted.symm
      next => rfl

theorem bits_of_neighbour? {tie : Tie} {bits num den : Nat} {exponent : Int} {number : Decimal}
    (found : neighbour? tie bits num den exponent = some number) : number.bits = bits := by
  simp only [neighbour?] at found
  split at found
  next below =>
    split at found
    next above =>
      obtain rfl := Option.some.inj found
      rw [Bool.and_eq_true, decide_eq_true_eq] at above
      exact above.2
    next =>
      obtain rfl := Option.some.inj found
      exact below
  next =>
    obtain ⟨above, same⟩ := Option.ite_none_right_eq_some.mp found
    obtain rfl := Option.some.inj same
    exact above

/-- A value is a whole count of a power of two, and so a decimal. -/
theorem bits_exact {bits mantissa : Nat} {power : Int} (scaled : IsScaled bits mantissa power)
    (finite : bits < infinityBits) :
    Decimal.bits ⟨mantissa <<< power.toNat * 5 ^ (-power).toNat, min power 0⟩ = bits := by
  have numPositive : 0 < mantissa <<< power.toNat := Nat.shiftLeft_pos_iff.mpr scaled.positive
  have denPositive : 0 < 1 <<< (-power).toNat := Nat.shiftLeft_pos_iff.mpr Nat.one_pos
  have digitsPositive : 0 < mantissa <<< power.toNat * 5 ^ (-power).toNat :=
    Nat.mul_pos numPositive (by positivity)
  have whole : (min power 0).toNat = 0 := by omega
  have places : (-min power 0).toNat = (-power).toNat := by omega
  have tens : 10 ^ (-power).toNat = 1 <<< (-power).toNat * 5 ^ (-power).toNat := by
    rw [Nat.one_shiftLeft, ← Nat.mul_pow]
  rw [Decimal.bits, bitsOfDecimal_eq digitsPositive, whole, places, tens, Nat.pow_zero, Nat.mul_one,
    nearestBits_mul (by positivity) numPositive denPositive]
  exact nearestBits_of_scaled scaled finite

/-- The shortest decimal is nearest to the value that it has been made of. -/
theorem bits_shortest (tie : Tie) {bits : Nat} (positive : 0 < bits) (finite : bits < infinityBits) :
    (shortest tie bits).bits = bits := by
  have scaled := isScaled_parts positive
  simp only [shortest, bits_normalize]
  rcases search : List.findSome? _ (List.range 17) with _ | number
  · exact bits_exact scaled finite
  · obtain ⟨count, -, found⟩ := List.exists_of_findSome?_eq_some search
    exact bits_of_neighbour? found

end StoryScript.Decimal
