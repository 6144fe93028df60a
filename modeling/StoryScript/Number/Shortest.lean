import StoryScript.Number.Binary64

/-!
The fewest decimal digits that read back as a binary64 value.
-/

namespace StoryScript

structure Decimal where
  digits : Nat
  exponent : Int
  deriving DecidableEq, Repr

/-- Which of two decimals that are equally near is taken. -/
inductive Tie
  | up
  | even
  deriving DecidableEq, Repr

namespace Decimal

def normalize (steps : Nat) (number : Decimal) : Decimal :=
  match steps with
  | 0 => number
  | steps + 1 =>
      if number.digits ≠ 0 ∧ number.digits % 10 = 0 then
        normalize steps ⟨number.digits / 10, number.exponent + 1⟩
      else number

/-- The count of digits before the point; for a ratio below one, less the zeros after it. Both
numbers are positive. -/
def scale (num den : Nat) : Int :=
  if den ≤ num then (Nat.toDigits 10 (num / den)).length
  else 1 - (Nat.toDigits 10 ((den - 1) / num)).length

/-- The nearer of the two neighbours of `num / den` among the multiples of `10 ^ exponent`, of
those that read back as the value with the given bits. -/
def neighbour? (tie : Tie) (bits num den : Nat) (exponent : Int) : Option Decimal :=
  let scaledNum := num * Nat.pow 10 (-exponent).toNat
  let scaledDen := den * Nat.pow 10 exponent.toNat
  let below := scaledNum / scaledDen
  let twice := 2 * (scaledNum % scaledDen)
  let readsBack (digits : Nat) := Binary64.bitsOfDecimal digits exponent = bits
  if readsBack below then
    let nearerAbove := scaledDen < twice ||
      (twice = scaledDen && (tie = .up || below % 2 = 1))
    if nearerAbove && readsBack (below + 1) then some ⟨below + 1, exponent⟩
    else some ⟨below, exponent⟩
  else if readsBack (below + 1) then some ⟨below + 1, exponent⟩
  else none

/-- The decimal with the fewest digits that reads back as the value with the given bits, which is
finite and not zero. Where none of seventeen digits does, the exact decimal is taken. -/
def shortest (tie : Tie) (bits : Nat) : Decimal :=
  let (mantissa, power) := Binary64.parts bits
  let num := mantissa <<< power.toNat
  let den := 1 <<< (-power).toNat
  let top := scale num den
  let found := (List.range 17).findSome? fun (count : Nat) =>
    neighbour? tie bits num den (top - (count + 1))
  let exact : Decimal := ⟨num * Nat.pow 5 (-power).toNat, min power 0⟩
  (found.getD exact).normalize 17

end Decimal

end StoryScript
