import StoryScript.Value
import Mathlib.Order.Compare

/-!
The order of values. Equality and order are given apart, by the kinds of both values; they agree, and
values change sides with the order reversed. It is an order of all but numbers that are none.
-/

namespace StoryScript

namespace Binary64

open Float.Model

theorem magnitudes_swap (leftExponent rightExponent : Int) (leftMantissa rightMantissa : Nat) :
    (compare rightExponent leftExponent).then (compare rightMantissa leftMantissa) =
      ((compare leftExponent rightExponent).then (compare leftMantissa rightMantissa)).swap := by
  rw [Ordering.swap_then, ← Std.OrientedCmp.eq_swap, ← Std.OrientedCmp.eq_swap]

theorem compare_swap (left right : UnpackedFloat) :
    right.compare left = (left.compare right).map Ordering.swap := by
  rcases left with (_ | _) | _ | _ | ⟨_ | _, leftMantissa, leftExponent, _⟩ <;>
    rcases right with (_ | _) | _ | _ | ⟨_ | _, rightMantissa, rightExponent, _⟩ <;>
    try rfl
  case finite.positive.finite.positive =>
    exact congrArg some (magnitudes_swap leftExponent rightExponent leftMantissa rightMantissa)
  case finite.negative.finite.negative =>
    -- of numbers below zero the one of greater magnitude is the lesser
    exact congrArg (some ·.swap)
      (magnitudes_swap leftExponent rightExponent leftMantissa rightMantissa)

theorem isSome_compare (left right : UnpackedFloat) :
    (left.compare right).isSome = (!left.isNaN && !right.isNaN) := by
  rcases left with (_ | _) | _ | _ | ⟨_ | _, _, _, _⟩ <;>
    rcases right with (_ | _) | _ | _ | ⟨_ | _, _, _, _⟩ <;> rfl

end Binary64

namespace Value

theorem lt_iff_compare (left right : Float) :
    left < right ↔ left.toModel.compare right.toModel = some .lt := by
  change decide (left.toModel < right.toModel) = true ↔ _
  rw [decide_eq_true_iff]
  exact beq_iff_eq

theorem beq_eq_compare (left right : Float) :
    (left == right) = (left.toModel.compare right.toModel == some .eq) :=
  rfl

theorem compareNumbers_eq (left right : Float) :
    compareNumbers left right = left.toModel.compare right.toModel := by
  have swapped : right.toModel.compare left.toModel =
      (left.toModel.compare right.toModel).map Ordering.swap :=
    Binary64.compare_swap _ _
  simp only [compareNumbers, lt_iff_compare, beq_eq_compare, swapped]
  rcases left.toModel.compare right.toModel with _ | (_ | _ | _) <;> rfl

def BothTexts (left right : Value) : Prop :=
  left.text?.isSome = true ∧ right.text?.isSome = true

variable {left right : Value}

theorem BothTexts.exists_texts (texts : BothTexts left right) :
    ∃ first second, left = text first ∧ right = text second := by
  obtain ⟨leftText, rightText⟩ := texts
  cases left with
  | text first =>
      cases right with
      | text second => exact ⟨first, second, rfl, rfl⟩
      | truth _ => contradiction
      | number _ => contradiction
  | truth _ => contradiction
  | number _ => contradiction

theorem looseOrder_of_numbers (others : ¬ BothTexts left right) :
    left.looseOrder right = left.toNumber.toModel.compare right.toNumber.toModel := by
  rw [← compareNumbers_eq]
  cases left with
  | text first =>
      cases right with
      | text second => exact absurd ⟨rfl, rfl⟩ others
      | truth _ => rfl
      | number _ => rfl
  | truth _ => cases right <;> rfl
  | number _ => cases right <;> rfl

theorem looselyEqual_of_numbers (others : ¬ BothTexts left right) :
    left.looselyEqual right = (left.toNumber == right.toNumber) := by
  cases left with
  | text first =>
      cases right with
      | text second => exact absurd ⟨rfl, rfl⟩ others
      | truth _ => rfl
      | number _ => rfl
  | truth first =>
      cases right with
      -- Truth values are compared as they are, which comes to the same as comparing one and zero.
      | truth second => cases first <;> cases second <;> decide +kernel
      | text _ => rfl
      | number _ => rfl
  | number _ => cases right <;> rfl

theorem looseOrder_swap (left right : Value) :
    right.looseOrder left = (left.looseOrder right).map Ordering.swap := by
  by_cases texts : BothTexts left right
  · obtain ⟨first, second, rfl, rfl⟩ := texts.exists_texts
    exact congrArg some Std.OrientedCmp.eq_swap
  · have swapped : ¬ BothTexts right left := fun both => texts both.symm
    rw [looseOrder_of_numbers texts, looseOrder_of_numbers swapped]
    exact Binary64.compare_swap _ _

theorem looselyEqual_eq (left right : Value) :
    left.looselyEqual right = (left.looseOrder right == some .eq) := by
  by_cases texts : BothTexts left right
  · obtain ⟨first, second, rfl, rfl⟩ := texts.exists_texts
    rw [looselyEqual, looseOrder, Bool.eq_iff_iff, beq_iff_eq, beq_iff_eq, Option.some.injEq,
      Std.compare_eq_iff_eq]
  · rw [looselyEqual_of_numbers texts, looseOrder_of_numbers texts, beq_eq_compare]

/-- Two texts, or two values neither of which counts as the number that is none. -/
def Comparable (left right : Value) : Prop :=
  BothTexts left right ∨ (left.toNumber.isNaN = false ∧ right.toNumber.isNaN = false)

theorem isSome_looseOrder_iff (left right : Value) :
    (left.looseOrder right).isSome = true ↔ Comparable left right := by
  by_cases texts : BothTexts left right
  · obtain ⟨first, second, rfl, rfl⟩ := texts.exists_texts
    simp [looseOrder, Comparable, texts]
  · rw [looseOrder_of_numbers texts, Comparable, or_iff_right texts]
    change (left.toNumber.toModel.unpack.compare right.toNumber.toModel.unpack).isSome = true ↔ _
    rw [Binary64.isSome_compare, Bool.and_eq_true, Bool.not_eq_true', Bool.not_eq_true']
    rfl

end Value

end StoryScript
