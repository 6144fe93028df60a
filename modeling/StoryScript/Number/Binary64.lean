/-!
Exact arithmetic between decimals and binary64: the value nearest to a ratio of naturals, with ties
to the even mantissa, and the mantissa and exponent that a value stands for. Everything is decided
on naturals; floats are only made from bits and taken apart into them.
-/

namespace StoryScript.Binary64

/-- The weight of the leading bit of a normal mantissa, and the bits of one step of the exponent. -/
def leadingBit : Nat := 0x10000000000000

def infinityBits : Nat := 2047 * leadingBit

def signBit : Nat := 0x8000000000000000

/-- The natural nearest to `num / den`, the even one of two. -/
def nearestNat (num den : Nat) : Nat :=
  let floor := num / den
  let twice := 2 * (num % den)
  if twice < den then floor
  else if den < twice then floor + 1
  else floor + floor % 2

def binaryExponent (num den : Nat) : Int :=
  let estimate : Int := num.log2 - den.log2
  if den <<< estimate.toNat ≤ num <<< (-estimate).toNat then estimate else estimate - 1

/-- The bits of the binary64 value nearest to a positive ratio. Mantissa and biased exponent are
added, so that a mantissa rounded up to the next power of two raises the exponent. -/
def nearestBits (num den : Nat) : Nat :=
  let unit := max (binaryExponent num den - 52) (-1074)
  let mantissa := nearestNat (num <<< (-unit).toNat) (den <<< unit.toNat)
  min ((unit + 1074).toNat * leadingBit + mantissa) infinityBits

/-- The bits of the value nearest to `digits * 10 ^ exponent`. A power of ten beyond all values is
not computed. -/
def bitsOfDecimal (digits : Nat) : Int → Nat
  | .ofNat exponent =>
      if digits = 0 then 0
      else if exponent > 400 then infinityBits
      else nearestBits (digits * Nat.pow 10 exponent) 1
  | .negSucc exponent =>
      if digits = 0 || exponent > digits.log2 + 400 then 0
      else nearestBits digits (Nat.pow 10 (exponent + 1))

def ofDecimal (digits : Nat) (exponent : Int) : Float :=
  Float.ofBits (UInt64.ofNat (bitsOfDecimal digits exponent))

def magnitude (value : Float) : Nat :=
  value.toBits.toNat % signBit

def isNegative (value : Float) : Bool :=
  signBit ≤ value.toBits.toNat

def parts (bits : Nat) : Nat × Int :=
  if bits < leadingBit then (bits, -1074)
  else (leadingBit + bits % leadingBit, (bits / leadingBit : Nat) - 1075)

end StoryScript.Binary64
