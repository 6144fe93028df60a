import StoryScript.Proofs.Number.Encoding
import StoryScript.Proofs.Number.Positional
import StoryScript.Proofs.Value.Order

/-!
Numbers survive being shown. What readers see of a number is read back as the number itself, but for
the sign of zero, so a text that has been put together from a number still counts as it.
-/

namespace StoryScript

open Binary64

namespace Number

theorem read?_signed (value : Float) {text : List Char} (filled : text ≠ [])
    (within : text ⊆ positionals) :
    read? (signed value text) =
      (decimal? text).map fun read => if isNegative value then read.neg else read := by
  unfold signed
  split
  next => exact read?_minus within
  next =>
    rw [Option.map_id']
    exact read?_of_positionals filled within

theorem read?_finite {value : Float} (positive : 0 < magnitude value)
    (finite : magnitude value < infinityBits) :
    read? (signed value (Decimal.shortest .up (magnitude value)).positional) = some value := by
  obtain ⟨filled, within⟩ := (Decimal.shortest .up (magnitude value)).positional_within
  rw [read?_signed value filled within, Decimal.decimal?_positional,
    Decimal.bits_shortest .up positive finite, Option.map_some, ofBits_magnitude finite.le]

theorem read?_infinite {value : Float} (infinite : magnitude value = infinityBits) :
    read? (signed value "Infinity".toList) = some value := by
  have whole := ofBits_magnitude infinite.le
  rw [infinite] at whole
  unfold signed
  split at whole
  next negative =>
    rw [if_pos negative, ← whole]
    rfl
  next positive =>
    rw [if_neg positive, ← whole]
    rfl

theorem read?_display (value : Float) :
    read? (display value) =
      if value.isNaN then none else some (if value == 0 then 0 else value) := by
  simp only [isNaN_iff, beq_zero_iff, display]
  split
  next => decide
  next number =>
    split
    next infinite =>
      have nonzero : magnitude value ≠ 0 := by
        rw [infinite]
        decide
      rw [if_neg nonzero]
      exact read?_infinite infinite
    next finite =>
      split
      next => rfl
      next nonzero =>
        have below := Nat.lt_of_le_of_ne (Nat.not_lt.mp number) finite
        exact read?_finite (Nat.pos_of_ne_zero nonzero) below

end Number

namespace Value

theorem toNumber_shown (value : Float) :
    (text (number value).display).toNumber =
      if value.isNaN then notANumber else if value == 0 then 0 else value := by
  change (Number.read? (String.ofList (Number.display value)).toList).getD notANumber = _
  rw [String.toList_ofList, Number.read?_display]
  split
  next => rfl
  next => rfl

theorem looselyEqual_shown (value : Float) :
    (text (number value).display).looselyEqual (number value) = !value.isNaN := by
  have others : ¬ BothTexts (text (number value).display) (number value) := nofun
  rw [looselyEqual_of_numbers others, toNumber_shown]
  split
  next noNumber =>
    rw [noNumber]
    exact Float.nan_beq_eq_false value
  next isNumber =>
    rw [Bool.not_eq_true] at isNumber
    rw [isNumber]
    split
    -- The sign of zero is lost, but the two zeros are equal.
    next zero => exact PartialEquivBEq.symm zero
    next =>
      rw [Float.isNaN_eq_decide_eq_nan, decide_eq_false_iff_not] at isNumber
      exact Float.beq_self_iff.mpr isNumber

theorem looseOrder_shown (value : Float) :
    (text (number value).display).looseOrder (number value) =
      if value.isNaN then none else some .eq := by
  have equal := looselyEqual_shown value
  rw [looselyEqual_eq] at equal
  split
  next noNumber =>
    have incomparable : ¬ Comparable (text (number value).display) (number value) := by
      rintro (⟨-, other⟩ | ⟨-, number⟩)
      · contradiction
      · exact absurd noNumber (Bool.eq_false_iff.mp number)
    rw [← isSome_looseOrder_iff] at incomparable
    exact Option.not_isSome_iff_eq_none.mp incomparable
  next isNumber =>
    rw [Bool.not_eq_true] at isNumber
    rw [isNumber] at equal
    exact beq_iff_eq.mp equal

/-- Every number that readers see is read back, and the text they see is equal to the number and
comes neither before nor after it. -/
theorem shown_survives (value : Float) :
    let shown := (number value).display
    Number.read? shown.toList =
        (if value.isNaN then none else some (if value == 0 then 0 else value)) ∧
      (text shown).looselyEqual (number value) = !value.isNaN ∧
      (text shown).looseOrder (number value) = if value.isNaN then none else some .eq := by
  refine ⟨?_, looselyEqual_shown value, looseOrder_shown value⟩
  exact (congrArg Number.read? String.toList_ofList).trans (Number.read?_display value)

end Value

end StoryScript
