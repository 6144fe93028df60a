import StoryScript.Number.Reading
import StoryScript.Proofs.Text.Trimming

/-!
The texts that are numbers, as a grammar, and that they are just those of which a number is read.
-/

namespace StoryScript.Number

open Text

def tens : List Char := "0123456789".toList

structure IsRun (kinds digits : List Char) : Prop where
  nonempty : digits ≠ []
  within : digits ⊆ kinds

inductive Signed (unsigned : List Char → Prop) : List Char → Prop
  | plain {text} : unsigned text → Signed unsigned text
  | plus {text} : unsigned text → Signed unsigned ('+' :: text)
  | minus {text} : unsigned text → Signed unsigned ('-' :: text)

/-- Digits with at most one point, before, between or after them. -/
inductive Mantissa : List Char → Prop
  | whole {digits} : IsRun tens digits → Mantissa digits
  | pointed {front back} : IsRun tens (front ++ back) → Mantissa (front ++ '.' :: back)

inductive Exponent : List Char → Prop
  | absent : Exponent []
  | present {mark text} : mark = 'e' ∨ mark = 'E' → Signed (IsRun tens) text →
      Exponent (mark :: text)

inductive Magnitude : List Char → Prop
  | infinity : Magnitude "Infinity".toList
  | decimal {mantissa exponent} : Mantissa mantissa → Exponent exponent →
      Magnitude (mantissa ++ exponent)

inductive Radix : Char → Nat → List Char → Prop
  | hexadecimal {mark} : mark = 'x' ∨ mark = 'X' → Radix mark 16 "0123456789abcdefABCDEF".toList
  | octal {mark} : mark = 'o' ∨ mark = 'O' → Radix mark 8 "01234567".toList
  | binary {mark} : mark = 'b' ∨ mark = 'B' → Radix mark 2 "01".toList

/-- A text, free of blanks around it, that is a number. -/
inductive Numeral : List Char → Prop
  | blank : Numeral []
  | signed {text} : Signed Magnitude text → Numeral text
  | based {mark base kinds digits} : Radix mark base kinds → IsRun kinds digits →
      Numeral ('0' :: mark :: digits)

theorem eq_of_ascii {left right : Char → Bool} (leftAscii : ∀ c, left c = true → c.toNat < 128)
    (rightAscii : ∀ c, right c = true → c.toNat < 128)
    (same : ∀ code < 128, left (Char.ofNat code) = right (Char.ofNat code)) (c : Char) :
    left c = right c := by
  by_cases ascii : c.toNat < 128
  · have agreed := same c.toNat ascii
    rwa [Char.ofNat_toNat] at agreed
  · have leftFails := mt (leftAscii c) ascii
    have rightFails := mt (rightAscii c) ascii
    rw [Bool.not_eq_true] at leftFails rightFails
    rw [leftFails, rightFails]

theorem ascii_of_contains {kinds : List Char} (ascii : kinds.all (·.toNat < 128) = true) (c : Char)
    (member : kinds.contains c = true) : c.toNat < 128 :=
  of_decide_eq_true (List.all_eq_true.mp ascii c (List.contains_iff_mem.mp member))

theorem ascii_of_le {c last : Char} (bound : c ≤ last) (ascii : last.toNat < 128) :
    c.toNat < 128 :=
  Nat.lt_of_le_of_lt (UInt32.le_iff_toNat_le.mp bound) ascii

theorem ascii_of_isDigit (c : Char) (digit : c.isDigit = true) : c.toNat < 128 := by
  rw [Char.isDigit, Bool.and_eq_true, decide_eq_true_eq, decide_eq_true_eq] at digit
  have bound : c ≤ '9' := digit.2
  exact ascii_of_le bound (by decide)

theorem isDigit_iff (c : Char) : c.isDigit = true ↔ c ∈ tens := by
  rw [← List.contains_iff_mem, ← Bool.eq_iff_iff]
  exact eq_of_ascii ascii_of_isDigit (ascii_of_contains rfl) (by decide +kernel) c

theorem ascii_of_digit? {base : Nat} (c : Char) (digit : (digit? base c).isSome = true) :
    c.toNat < 128 := by
  unfold digit? at digit
  split at digit
  next decimal => exact ascii_of_isDigit c decimal
  next =>
    split at digit
    next lower =>
      rw [Bool.and_eq_true, decide_eq_true_eq, decide_eq_true_eq] at lower
      exact ascii_of_le lower.2 (by decide)
    next =>
      split at digit
      next upper =>
        rw [Bool.and_eq_true, decide_eq_true_eq, decide_eq_true_eq] at upper
        exact ascii_of_le upper.2 (by decide)
      next => contradiction

theorem isSome_digit?_iff {mark : Char} {base : Nat} {kinds : List Char}
    (radix : Radix mark base kinds) (c : Char) : (digit? base c).isSome = true ↔ c ∈ kinds := by
  rw [← List.contains_iff_mem, ← Bool.eq_iff_iff]
  cases radix with
  | hexadecimal | octal | binary =>
      exact eq_of_ascii ascii_of_digit? (ascii_of_contains rfl) (by decide +kernel) c

theorem radix?_eq_some_iff (mark : Char) (base : Nat) :
    radix? mark = some base ↔ ∃ kinds, Radix mark base kinds := by
  constructor
  · intro found
    simp only [radix?, Bool.or_eq_true, decide_eq_true_eq] at found
    split at found
    next isMark => exact Option.some.inj found ▸ ⟨_, .hexadecimal isMark⟩
    next =>
      split at found
      next isMark => exact Option.some.inj found ▸ ⟨_, .octal isMark⟩
      next =>
        split at found
        next isMark => exact Option.some.inj found ▸ ⟨_, .binary isMark⟩
        next => contradiction
  · rintro ⟨kinds, radix⟩
    rcases radix with (rfl | rfl) | (rfl | rfl) | (rfl | rfl) <;> rfl

theorem isSome_foldlM {α β : Type} (next : α → β → Option α) (test : β → Bool)
    (passes : ∀ value item, (next value item).isSome = test item) (list : List β) (value : α) :
    (list.foldlM next value).isSome = list.all test := by
  induction list generalizing value with
  | nil => rfl
  | cons item rest ih =>
      rw [List.foldlM_cons, List.all_cons, ← passes value item]
      cases next value item with
      | none => rfl
      | some value => exact ih value

theorem isSome_based?_iff {mark : Char} {base : Nat} {kinds : List Char}
    (radix : Radix mark base kinds) (digits : List Char) :
    (based? base digits).isSome = true ↔ IsRun kinds digits := by
  have accepted : (digits.foldlM (fun value c => (digit? base c).map fun digit =>
      value * Float.ofNat base + Float.ofNat digit) 0).isSome =
        digits.all fun c => (digit? base c).isSome :=
    isSome_foldlM _ (fun c => (digit? base c).isSome) (fun _ _ => Option.isSome_map) digits 0
  rw [based?]
  split
  next empty =>
    simp only [Option.isSome_none, Bool.false_eq_true, false_iff]
    exact fun run => run.nonempty (List.isEmpty_iff.mp empty)
  next nonempty =>
    rw [accepted, List.all_eq_true]
    simp only [isSome_digit?_iff radix]
    constructor
    · intro within
      exact ⟨by simpa using nonempty, within⟩
    · intro run
      exact run.within

theorem all_isDigit_iff (digits : List Char) : digits.all Char.isDigit = true ↔ digits ⊆ tens := by
  simp only [List.all_eq_true, isDigit_iff]
  rfl

theorem isSome_digits_iff (digits : List Char) (value : Int) :
    (if digits.isEmpty || !digits.all Char.isDigit then none else some value).isSome = true ↔
      IsRun tens digits := by
  split
  next fails =>
    simp only [Option.isSome_none, Bool.false_eq_true, false_iff]
    intro run
    rw [(all_isDigit_iff digits).mpr run.within] at fails
    exact run.nonempty (by simpa using fails)
  next passes =>
    simp only [Bool.or_eq_true, Bool.not_eq_true', not_or, Bool.not_eq_false, all_isDigit_iff,
      List.isEmpty_iff] at passes
    simp only [Option.isSome_some, true_iff]
    exact ⟨passes.1, passes.2⟩

theorem signed_iff {unsigned : List Char → Prop} {mark : Char} {text : List Char}
    (sign : mark = '+' ∨ mark = '-') (starts : ¬ unsigned (mark :: text)) :
    Signed unsigned (mark :: text) ↔ unsigned text := by
  constructor
  · intro signed
    cases signed with
    | plain holds => exact absurd holds starts
    | plus holds => exact holds
    | minus holds => exact holds
  · intro holds
    cases sign with
    | inl plus => exact plus ▸ .plus holds
    | inr minus => exact minus ▸ .minus holds

theorem unsigned_iff {unsigned : List Char → Prop} {text : List Char}
    (noPlus : ∀ rest, text ≠ '+' :: rest) (noMinus : ∀ rest, text ≠ '-' :: rest) :
    Signed unsigned text ↔ unsigned text := by
  constructor
  · intro signed
    cases signed with
    | plain holds => exact holds
    | plus => exact absurd rfl (noPlus _)
    | minus => exact absurd rfl (noMinus _)
  · exact .plain

theorem not_isRun_sign {mark : Char} (sign : mark = '+' ∨ mark = '-') (rest : List Char) :
    ¬ IsRun tens (mark :: rest) := by
  intro run
  have member : mark ∈ tens := run.within (List.mem_cons_self ..)
  rcases sign with rfl | rfl
  · exact absurd member (by decide)
  · exact absurd member (by decide)

theorem isSome_exponent?_iff (text : List Char) :
    (exponent? text).isSome = true ↔ Signed (IsRun tens) text := by
  unfold exponent?
  split
  next negative digits signed =>
    rw [isSome_digits_iff]
    split at signed
    next rest =>
      cases signed
      exact (signed_iff (.inr rfl) (not_isRun_sign (.inr rfl) _)).symm
    next rest =>
      cases signed
      exact (signed_iff (.inl rfl) (not_isRun_sign (.inl rfl) _)).symm
    next noMinus noPlus =>
      cases signed
      exact (unsigned_iff noPlus noMinus).symm

theorem isSome_marked_iff (mark : Char) (rest : List Char) (scale : Int → Float) :
    (if mark = 'e' || mark = 'E' then (exponent? rest).map scale else none).isSome = true ↔
      Exponent (mark :: rest) := by
  split
  next marked =>
    rw [Option.isSome_map, isSome_exponent?_iff]
    constructor
    · exact .present (by simpa using marked)
    · intro exponent
      cases exponent with
      | present _ signed => exact signed
  next unmarked =>
    simp only [Option.isSome_none, Bool.false_eq_true, false_iff]
    intro exponent
    cases exponent with
    | present marked _ => exact unmarked (by simpa using marked)

theorem Exponent.head?_not_mem {text : List Char} (exponent : Exponent text) :
    ∀ c ∈ text.head?, c ∉ '.' :: tens := by
  cases exponent with
  | absent => exact fun _ none => absurd none (Option.not_mem_none _)
  | present marked _ =>
      rintro c ⟨rfl⟩
      rcases marked with rfl | rfl
      · decide
      · decide

theorem span_digits {digits rest : List Char} (within : digits ⊆ tens)
    (ends : ∀ c ∈ rest.head?, c ∉ tens) :
    (digits ++ rest).takeWhile Char.isDigit = digits ∧
      (digits ++ rest).dropWhile Char.isDigit = rest := by
  have passes : ∀ c ∈ digits, c.isDigit = true := fun c member => (isDigit_iff c).mpr (within member)
  rw [List.takeWhile_append_of_pos passes, List.dropWhile_append_of_pos passes]
  cases rest with
  | nil => simp
  | cons first rest =>
      have fails : ¬ first.isDigit = true := mt (isDigit_iff first).mp (ends first rfl)
      simp [List.takeWhile_cons_of_neg fails, List.dropWhile_cons_of_neg fails]

theorem takeWhile_isDigit_subset (text : List Char) : text.takeWhile Char.isDigit ⊆ tens :=
  (all_isDigit_iff _).mp List.all_takeWhile

theorem fraction_of_no_point {text : List Char} (noPoint : '.' ∉ text.head?) :
    fraction text = ([], text) := by
  unfold fraction
  split
  next => exact absurd rfl noPoint
  next => rfl

theorem isSome_decimal?_parts (text : List Char) :
    (decimal? text).isSome = true ↔
      IsRun tens (text.takeWhile Char.isDigit ++ (fraction (text.dropWhile Char.isDigit)).1) ∧
        Exponent (fraction (text.dropWhile Char.isDigit)).2 := by
  have within : text.takeWhile Char.isDigit ++ (fraction (text.dropWhile Char.isDigit)).1 ⊆ tens := by
    refine List.append_subset.mpr ⟨takeWhile_isDigit_subset text, ?_⟩
    unfold fraction
    split
    next rest _ => exact takeWhile_isDigit_subset rest
    next => exact List.nil_subset _
  unfold decimal?
  generalize fraction (text.dropWhile Char.isDigit) = point at *
  obtain ⟨decimals, rest⟩ := point
  dsimp only
  split
  next none =>
    simp only [Bool.and_eq_true, List.isEmpty_iff] at none
    simp only [Option.isSome_none, Bool.false_eq_true, false_iff]
    rintro ⟨run, -⟩
    exact run.nonempty (List.append_eq_nil_iff.mpr none)
  next some =>
    simp only [Bool.and_eq_true, List.isEmpty_iff] at some
    have run : IsRun tens (text.takeWhile Char.isDigit ++ decimals) :=
      ⟨mt List.append_eq_nil_iff.mp some, within⟩
    split
    next => exact ⟨fun _ => ⟨run, .absent⟩, fun _ => rfl⟩
    next mark rest =>
      rw [isSome_marked_iff]
      exact ⟨fun exponent => ⟨run, exponent⟩, And.right⟩

theorem isSome_decimal?_iff (text : List Char) :
    (decimal? text).isSome = true ↔
      ∃ mantissa exponent, Mantissa mantissa ∧ Exponent exponent ∧ text = mantissa ++ exponent := by
  rw [isSome_decimal?_parts]
  constructor
  · rintro ⟨run, exponent⟩
    have joined := List.takeWhile_append_dropWhile (p := Char.isDigit) (l := text)
    by_cases point : '.' ∈ (text.dropWhile Char.isDigit).head?
    · obtain ⟨rest, pointed⟩ := List.head?_eq_some_iff.mp point
      rw [pointed] at run exponent joined
      refine ⟨_, _, .pointed run, exponent, ?_⟩
      rw [List.append_assoc, List.cons_append, fraction, List.takeWhile_append_dropWhile, joined]
    · rw [fraction_of_no_point point] at run exponent
      rw [List.append_nil] at run
      exact ⟨_, _, .whole run, exponent, joined.symm⟩
  · rintro ⟨mantissa, exponent, isMantissa, isExponent, rfl⟩
    have ends := isExponent.head?_not_mem
    have noDigit : ∀ c ∈ exponent.head?, c ∉ tens := fun c first =>
      mt (List.mem_cons_of_mem _) (ends c first)
    cases isMantissa with
    | whole run =>
        have noPoint : '.' ∉ exponent.head? := fun first => ends '.' first (List.mem_cons_self ..)
        obtain ⟨taken, dropped⟩ := span_digits run.within noDigit
        rw [taken, dropped, fraction_of_no_point noPoint, List.append_nil]
        exact ⟨run, isExponent⟩
    | @pointed front back run =>
        obtain ⟨frontWithin, backWithin⟩ := List.append_subset.mp run.within
        have pointNoDigit : ∀ c ∈ ('.' :: (back ++ exponent)).head?, c ∉ tens := by
          rintro c ⟨rfl⟩
          decide
        obtain ⟨taken, dropped⟩ := span_digits frontWithin pointNoDigit
        obtain ⟨decimals, rest⟩ := span_digits backWithin noDigit
        rw [List.append_assoc, List.cons_append, taken, dropped, fraction, decimals, rest]
        exact ⟨run, isExponent⟩

theorem isSome_unsigned?_iff (text : List Char) :
    (unsigned? text).isSome = true ↔ Magnitude text := by
  unfold unsigned?
  split
  next word =>
    simp only [Option.isSome_some, true_iff]
    exact word ▸ .infinity
  next noWord =>
    rw [isSome_decimal?_iff]
    constructor
    · rintro ⟨mantissa, exponent, isMantissa, isExponent, rfl⟩
      exact .decimal isMantissa isExponent
    · intro magnitude
      cases magnitude with
      | infinity => exact absurd rfl noWord
      | decimal isMantissa isExponent => exact ⟨_, _, isMantissa, isExponent, rfl⟩

theorem not_magnitude_sign {mark : Char} (sign : mark = '+' ∨ mark = '-') (rest : List Char) :
    ¬ Magnitude (mark :: rest) := by
  have noWord : mark :: rest ≠ "Infinity".toList := by
    rcases sign with rfl | rfl
    · exact fun word => absurd (List.head_eq_of_cons_eq word) (by decide)
    · exact fun word => absurd (List.head_eq_of_cons_eq word) (by decide)
  rw [← isSome_unsigned?_iff, unsigned?, if_neg noWord, isSome_decimal?_parts]
  rintro ⟨run, -⟩
  rcases sign with rfl | rfl
  · exact run.nonempty rfl
  · exact run.nonempty rfl

theorem not_magnitude_radix {mark : Char} {base : Nat} {kinds : List Char}
    (radix : Radix mark base kinds) (rest : List Char) : ¬ Magnitude ('0' :: mark :: rest) := by
  have noWord : '0' :: mark :: rest ≠ "Infinity".toList := fun word =>
    absurd (List.head_eq_of_cons_eq word) (by decide)
  rw [← isSome_unsigned?_iff, unsigned?, if_neg noWord, isSome_decimal?_parts]
  rintro ⟨-, exponent⟩
  rcases radix with (rfl | rfl) | (rfl | rfl) | (rfl | rfl)
  all_goals
    cases exponent with
    | present marked _ => exact absurd marked (by decide)

theorem numeral_iff_magnitude {text : List Char} (some : text ≠ [])
    (noPlus : ∀ rest, text ≠ '+' :: rest) (noMinus : ∀ rest, text ≠ '-' :: rest)
    (noRadix : ∀ mark rest, text = '0' :: mark :: rest → radix? mark = none) :
    Numeral text ↔ Magnitude text := by
  constructor
  · intro numeral
    cases numeral with
    | blank => exact absurd rfl some
    | signed signed => exact (unsigned_iff noPlus noMinus).mp signed
    | based radix _ =>
        have found := (radix?_eq_some_iff ..).mpr ⟨_, radix⟩
        rw [noRadix _ _ rfl] at found
        contradiction
  · exact fun magnitude => .signed (.plain magnitude)

theorem numeral_signed_iff {mark : Char} (sign : mark = '+' ∨ mark = '-') (rest : List Char) :
    Numeral (mark :: rest) ↔ Magnitude rest := by
  rw [← signed_iff sign (not_magnitude_sign sign rest)]
  constructor
  · intro numeral
    cases numeral with
    | signed signed => exact signed
    | based => exact absurd sign (by decide)
  · exact .signed

theorem numeral_based_iff {mark : Char} {base : Nat} (found : radix? mark = some base)
    (digits : List Char) :
    Numeral ('0' :: mark :: digits) ↔ (based? base digits).isSome = true := by
  constructor
  · intro numeral
    cases numeral with
    | signed signed =>
        obtain ⟨kinds, radix⟩ := (radix?_eq_some_iff ..).mp found
        cases signed with
        | plain magnitude => exact absurd magnitude (not_magnitude_radix radix digits)
    | based radix run =>
        have same := (radix?_eq_some_iff ..).mpr ⟨_, radix⟩
        rw [found] at same
        exact (isSome_based?_iff (Option.some.inj same ▸ radix) digits).mpr run
  · intro accepted
    obtain ⟨kinds, radix⟩ := (radix?_eq_some_iff ..).mp found
    exact .based radix ((isSome_based?_iff radix digits).mp accepted)

/-- A number is read of a text just when the text is a numeral, up to the blanks around it. -/
theorem read_iff_numeral (text : List Char) :
    (read? text).isSome = true ↔ Numeral (trim text) := by
  unfold read?
  split
  next blank =>
    rw [blank]
    exact ⟨fun _ => .blank, fun _ => rfl⟩
  next rest minus =>
    rw [minus, Option.isSome_map, isSome_unsigned?_iff, numeral_signed_iff (.inr rfl)]
  next rest plus =>
    rw [plus, isSome_unsigned?_iff, numeral_signed_iff (.inl rfl)]
  next mark digits zero =>
    rw [zero]
    split
    next base found => rw [numeral_based_iff found]
    next noRadix =>
      rw [isSome_unsigned?_iff, numeral_iff_magnitude (by simp) (by simp) (by simp)]
      rintro _ _ ⟨rfl, rfl⟩
      exact noRadix
  next some noMinus noPlus noZero =>
    rw [isSome_unsigned?_iff, numeral_iff_magnitude some noPlus noMinus]
    exact fun mark rest zero => absurd zero (noZero mark rest)

example : (["+-1", "-0x1", "0x", "1e", ".", "1-2"].map String.toList).all
    (fun text => (read? text).isNone) = true := by
  decide

end StoryScript.Number
