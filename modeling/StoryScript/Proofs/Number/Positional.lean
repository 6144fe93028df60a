import StoryScript.Number.Writing
import StoryScript.Proofs.Number.Numeral
import StoryScript.Proofs.Number.Shortest
import Mathlib.Tactic.FinCases

/-!
A decimal that is written positionally is read back as itself, wherever its point stands and however
many zeros are needed to reach it.
-/

namespace StoryScript

namespace Number

def positionals : List Char := '.' :: tens

theorem isBlank_of_positional {c : Char} (member : c ∈ '-' :: positionals) :
    Text.isBlank c = false := by
  fin_cases member <;> decide

theorem radix?_of_positional {c : Char} (member : c ∈ positionals) : radix? c = none := by
  fin_cases member <;> decide

theorem ofDigits_append_zeros (digits : List Char) (count : Nat) :
    ofDigits (digits ++ Decimal.zeros count) = ofDigits digits * 10 ^ count := by
  change Nat.ofDigitChars 10 (digits ++ List.replicate count '0') 0 = _
  rw [Nat.ofDigitChars_append, Nat.ofDigitChars_replicate_zero, Nat.mul_comm]
  rfl

theorem ofDigits_zeros_append (count : Nat) (digits : List Char) :
    ofDigits (Decimal.zeros count ++ digits) = ofDigits digits := by
  change Nat.ofDigitChars 10 (List.replicate count '0' ++ digits) 0 = _
  rw [Nat.ofDigitChars_append, Nat.ofDigitChars_replicate_zero, Nat.mul_zero]
  rfl

theorem zeros_subset (count : Nat) : Decimal.zeros count ⊆ tens := by
  intro c member
  rw [List.eq_of_mem_replicate member]
  decide

theorem IsRun.append_zeros {digits : List Char} (run : IsRun tens digits) (count : Nat) :
    IsRun tens (digits ++ Decimal.zeros count) where
  nonempty := List.append_ne_nil_of_left_ne_nil run.nonempty _
  within := List.append_subset.mpr ⟨run.within, zeros_subset count⟩

theorem not_digit_nil : ∀ c ∈ ([] : List Char).head?, c ∉ tens :=
  nofun

theorem decimal?_whole {digits : List Char} (run : IsRun tens digits) :
    decimal? digits = some (Binary64.ofDecimal (ofDigits digits) 0) := by
  obtain ⟨taken, dropped⟩ := span_digits run.within not_digit_nil
  rw [List.append_nil] at taken dropped
  unfold decimal?
  simp [taken, dropped, fraction, run.nonempty]

theorem decimal?_pointed {front back : List Char} (run : IsRun tens (front ++ back)) :
    decimal? (front ++ '.' :: back) =
      some (Binary64.ofDecimal (ofDigits (front ++ back)) (-back.length)) := by
  obtain ⟨frontWithin, backWithin⟩ := List.append_subset.mp run.within
  have point : ∀ c ∈ ('.' :: back).head?, c ∉ tens := by
    rintro c ⟨rfl⟩
    decide
  obtain ⟨taken, dropped⟩ := span_digits frontWithin point
  obtain ⟨decimals, rest⟩ := span_digits backWithin not_digit_nil
  rw [List.append_nil] at decimals rest
  have filled : ¬ (front = [] ∧ back = []) := mt List.append_eq_nil_iff.mpr run.nonempty
  unfold decimal?
  simp [taken, dropped, fraction, decimals, rest, filled]

theorem unsigned?_of_positionals {text : List Char} (within : text ⊆ positionals) :
    unsigned? text = decimal? text := by
  apply if_neg
  rintro rfl
  exact absurd (within (List.mem_cons_self ..)) (by decide)

theorem trim_of_positionals {text : List Char} (within : text ⊆ '-' :: positionals) :
    Text.trim text = text := by
  rw [Text.trim_eq_self_iff]
  constructor
  · exact fun c first => isBlank_of_positional (within (List.mem_of_mem_head? first))
  · exact fun c last => isBlank_of_positional (within (List.mem_of_mem_getLast? last))

/-- Digits with a point are no sign and no mark of another base, so they are read as they stand. -/
theorem read?_of_positionals {text : List Char} (filled : text ≠ []) (within : text ⊆ positionals) :
    read? text = decimal? text := by
  unfold read?
  rw [trim_of_positionals (List.subset_cons_of_subset '-' within)]
  split
  next => contradiction
  next => exact absurd (within (List.mem_cons_self ..)) (by decide)
  next => exact absurd (within (List.mem_cons_self ..)) (by decide)
  next mark digits =>
    rw [radix?_of_positional (within (List.mem_cons_of_mem _ (List.mem_cons_self ..)))]
    exact unsigned?_of_positionals within
  next => exact unsigned?_of_positionals within

theorem read?_minus {text : List Char} (within : text ⊆ positionals) :
    read? ('-' :: text) = (decimal? text).map Float.neg := by
  have same : Text.trim ('-' :: text) = '-' :: text :=
    trim_of_positionals (List.cons_subset_cons '-' within)
  unfold read?
  rw [same]
  exact congrArg (Option.map Float.neg) (unsigned?_of_positionals within)

end Number

namespace Decimal

open Number

theorem isRun_digitText (number : Decimal) : IsRun tens number.digitText where
  nonempty := Nat.toDigits_ne_nil
  within c member := (isDigit_iff c).mp
    (Nat.isDigit_of_mem_toDigits (by decide) (by decide) member)

theorem ofDigits_digitText (number : Decimal) : ofDigits number.digitText = number.digits :=
  Nat.ofDigitChars_toDigits (by decide) (by decide)

theorem positional_cases (number : Decimal) :
    (∃ count : Nat, number.exponent = count ∧
        number.positional = number.digitText ++ zeros count) ∨
      ∃ front back, number.exponent = -(back.length : Int) ∧
        number.positional = front ++ '.' :: back ∧ IsRun tens (front ++ back) ∧
        ofDigits (front ++ back) = number.digits := by
  cases power : number.exponent with
  | ofNat count => exact .inl ⟨count, rfl, by simp only [positional, power]⟩
  | negSucc decimals =>
      right
      have run := number.isRun_digitText
      simp only [positional, power]
      split
      next short =>
        let cut := number.digitText.length - (decimals + 1)
        have joined : number.digitText.take cut ++ number.digitText.drop cut = number.digitText :=
          List.take_append_drop ..
        refine ⟨number.digitText.take cut, number.digitText.drop cut, ?_, rfl, ?_, ?_⟩
        · rw [List.length_drop]
          omega
        · exact joined.symm ▸ run
        · rw [joined, ofDigits_digitText]
      next long =>
        let count := decimals + 1 - number.digitText.length
        have joined : ['0'] ++ (zeros count ++ number.digitText) =
            zeros (count + 1) ++ number.digitText := rfl
        refine ⟨['0'], zeros count ++ number.digitText, ?_, rfl, ?_, ?_⟩
        · rw [List.length_append, zeros, List.length_replicate]
          omega
        · rw [joined]
          exact ⟨List.append_ne_nil_of_right_ne_nil _ run.nonempty,
            List.append_subset.mpr ⟨zeros_subset _, run.within⟩⟩
        · rw [joined, ofDigits_zeros_append, ofDigits_digitText]

theorem positional_within (number : Decimal) :
    number.positional ≠ [] ∧ number.positional ⊆ positionals := by
  rcases number.positional_cases with ⟨count, -, whole⟩ | ⟨front, back, -, pointed, run, -⟩
  · have run := number.isRun_digitText.append_zeros count
    rw [whole]
    exact ⟨run.nonempty, List.subset_cons_of_subset _ run.within⟩
  · obtain ⟨frontWithin, backWithin⟩ := List.append_subset.mp run.within
    rw [pointed]
    refine ⟨List.append_ne_nil_of_right_ne_nil _ (List.cons_ne_nil _ _), ?_⟩
    exact List.append_subset.mpr
      ⟨List.subset_cons_of_subset _ frontWithin, List.cons_subset_cons _ backWithin⟩

theorem decimal?_positional (number : Decimal) :
    decimal? number.positional = some (Float.ofBits (UInt64.ofNat number.bits)) := by
  rcases number.positional_cases with
    ⟨count, exponent, whole⟩ | ⟨front, back, exponent, pointed, run, value⟩
  · have shifted := bits_shift number.digits count 0
    rw [Int.zero_add, ← exponent] at shifted
    rw [whole, decimal?_whole (number.isRun_digitText.append_zeros count), ofDigits_append_zeros,
      ofDigits_digitText]
    exact congrArg (fun bits => some (Float.ofBits (UInt64.ofNat bits))) shifted
  · rw [pointed, decimal?_pointed run, value, ← exponent]
    rfl

end Decimal

end StoryScript
