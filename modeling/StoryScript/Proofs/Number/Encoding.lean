import Mathlib
import StoryScript.Number.Binary64

/-!
Floats and the naturals that their bits are. The fields of a word tell which values have no number,
which are zero, and that a value is made of its magnitude and of its sign.
-/

namespace StoryScript.Binary64

open Float.Model Float.Model.UnpackedFloat

section

variable (bits : BitVec Format.binary64.numBits)

theorem toNat_unpackExponent : (unpackExponent bits).toNat = bits.toNat / leadingBit % 2048 := by
  simp [unpackExponent, BitVec.extractLsb_toNat, Nat.shiftRight_eq_div_pow, leadingBit]

theorem toNat_unpackMantissa : (unpackMantissa bits).toNat = bits.toNat % leadingBit := by
  simp [unpackMantissa, BitVec.extractLsb_toNat, leadingBit]

theorem toNat_unpackSign : (unpackSign bits).toNat = bits.toNat / signBit % 2 := by
  simp [unpackSign, BitVec.extractLsb_toNat, Nat.shiftRight_eq_div_pow, signBit]

theorem isNaNBits_iff : isNaNBits bits = true ↔ infinityBits < bits.toNat % signBit := by
  have full : unpackExponent bits = -1#_ ↔ bits.toNat / leadingBit % 2048 = 2047 := by
    rw [← toNat_unpackExponent, ← BitVec.toNat_inj]
    rfl
  have empty : unpackMantissa bits = 0#_ ↔ bits.toNat % leadingBit = 0 := by
    rw [← toNat_unpackMantissa, ← BitVec.toNat_inj]
    rfl
  rw [isNaNBits, decide_eq_true_eq, full, ne_eq, empty]
  simp only [infinityBits, signBit, leadingBit]
  omega

theorem pack_unpack_of_number (number : bits.toNat % signBit ≤ infinityBits) :
    UnpackedFloat.pack .binary64 (UnpackedFloat.unpack .binary64 bits) = bits := by
  have noNaN : ¬ isNaNBits bits = true := by
    rw [isNaNBits_iff]
    exact Nat.not_lt.mpr number
  rw [pack_unpack, if_neg noNaN]

end

/-- Words that differ in the leading bit alone stand for a number and its negative. -/
theorem unpack_of_leading {plain marked : BitVec Format.binary64.numBits}
    (same : marked.toNat = signBit + plain.toNat) :
    UnpackedFloat.unpack .binary64 marked = (UnpackedFloat.unpack .binary64 plain).neg := by
  have bound : marked.toNat < 2 ^ 64 := marked.isLt
  simp only [signBit] at same
  have exponent : unpackExponent marked = unpackExponent plain := by
    rw [← BitVec.toNat_inj, toNat_unpackExponent, toNat_unpackExponent, leadingBit]
    omega
  have mantissa : unpackMantissa marked = unpackMantissa plain := by
    rw [← BitVec.toNat_inj, toNat_unpackMantissa, toNat_unpackMantissa, leadingBit]
    omega
  have negative : unpackSign marked = 1#1 := by
    rw [← BitVec.toNat_inj, toNat_unpackSign, signBit]
    change _ = 1
    omega
  have positive : unpackSign plain = 0#1 := by
    rw [← BitVec.toNat_inj, toNat_unpackSign, signBit]
    change _ = 0
    omega
  unfold UnpackedFloat.unpack
  simp only [exponent, mantissa, negative, positive]
  split
  · split
    · rfl
    · rfl
  · split
    · split
      · rfl
      · rfl
    · rfl

theorem isNaN_iff (value : Float) : value.isNaN = true ↔ infinityBits < magnitude value := by
  have valid := value.toModel.valid
  let bits : BitVec Format.binary64.numBits := value.toBits.toBitVec
  calc value.isNaN = true
      ↔ bits = packedNaN .binary64 := isNaN_unpack_iff_of_valid valid
    _ ↔ isNaNBits bits = true := by
        constructor
        · intro same
          rw [same]
          exact isNaNBits_packedNaN
        · intro payload
          obtain ⟨full, filled⟩ := of_decide_eq_true payload
          exact valid.eq_packedNaN full filled
    _ ↔ infinityBits < magnitude value := isNaNBits_iff bits

theorem eq_iff_toBits (left right : Float) :
    left = right ↔ left.toBits.toNat = right.toBits.toNat := by
  rw [← Float.toBits_inj, ← UInt64.toNat_inj]

theorem beq_zero_iff (value : Float) : (value == 0) = true ↔ magnitude value = 0 := by
  constructor
  · intro equal
    obtain ⟨-, -, rfl | ⟨rfl, -⟩ | ⟨rfl, -⟩⟩ := Float.beq_iff_ne_nan_and_eq.mp equal
    all_goals decide
  · intro empty
    have bound : value.toBits.toNat < 2 ^ 64 := value.toBits.toNat_lt
    have plain : value = 0 ↔ value.toBits.toNat = 0 := eq_iff_toBits value 0
    have marked : value = -0 ↔ value.toBits.toNat = signBit := eq_iff_toBits value (-0)
    have zero : value = 0 ∨ value = -0 := by
      rw [plain, marked]
      simp only [magnitude, signBit] at empty ⊢
      omega
    obtain rfl | rfl := zero
    all_goals decide

theorem toBits_ofBits {word : UInt64} (number : word.toNat ≤ infinityBits) :
    (Float.ofBits word).toBits.toBitVec = word.toBitVec := by
  have small : word.toNat % signBit ≤ infinityBits := (Nat.mod_le _ _).trans number
  exact pack_unpack_of_number word.toBitVec small

theorem neg_ofBits {value : Float} {word : UInt64} (number : word.toNat ≤ infinityBits)
    (leading : value.toBits.toNat = signBit + word.toNat) : (Float.ofBits word).neg = value := by
  have small : value.toBits.toNat % signBit ≤ infinityBits := by
    rw [leading, Nat.add_mod_left]
    exact (Nat.mod_le _ _).trans number
  rw [← Float.toBits_inj, ← UInt64.toBitVec_inj]
  calc (Float.ofBits word).neg.toBits.toBitVec
      = UnpackedFloat.pack .binary64
          (UnpackedFloat.unpack .binary64 (Float.ofBits word).toBits.toBitVec).neg := rfl
    _ = UnpackedFloat.pack .binary64 (UnpackedFloat.unpack .binary64 word.toBitVec).neg := by
        rw [toBits_ofBits number]
    _ = UnpackedFloat.pack .binary64 (UnpackedFloat.unpack .binary64 value.toBits.toBitVec) := by
        rw [unpack_of_leading leading]
    _ = value.toBits.toBitVec := pack_unpack_of_number _ small

theorem ofBits_magnitude {value : Float} (number : magnitude value ≤ infinityBits) :
    (if isNegative value then (Float.ofBits (UInt64.ofNat (magnitude value))).neg
      else Float.ofBits (UInt64.ofNat (magnitude value))) = value := by
  have bound : value.toBits.toNat < 2 ^ 64 := value.toBits.toNat_lt
  simp only [isNegative, decide_eq_true_eq]
  split
  next negative =>
    have word : (UInt64.ofNat (magnitude value)).toNat = magnitude value :=
      Nat.mod_eq_of_lt (Nat.lt_of_le_of_lt number (by decide))
    apply neg_ofBits
    · rwa [word]
    · rw [word]
      simp only [magnitude, signBit] at negative ⊢
      omega
  next positive =>
    have whole : magnitude value = value.toBits.toNat := Nat.mod_eq_of_lt (Nat.not_le.mp positive)
    rw [whole, UInt64.ofNat_toNat, Float.ofBits_toBits]

end StoryScript.Binary64
