import Mathlib.Data.List.Basic
import StoryScript.Line

/-! Trimmed texts, and how they are read back from between blanks and marks. -/

namespace StoryScript.Text

def blankCodes : List Nat :=
  [9, 10, 11, 12, 13, 0x20, 0x85, 0xa0, 0x1680, 0x2000, 0x2001, 0x2002, 0x2003, 0x2004, 0x2005,
    0x2006, 0x2007, 0x2008, 0x2009, 0x200a, 0x2028, 0x2029, 0x202f, 0x205f, 0x3000]

theorem code_of_blank {c : Char} (blank : isBlank c = true) : c.toNat ∈ blankCodes := by
  simp only [isBlank, Bool.or_eq_true, Bool.and_eq_true, decide_eq_true_eq, beq_iff_eq] at blank
  simp only [blankCodes, List.mem_cons, List.not_mem_nil, or_false]
  omega

theorem isBlank_of_isWord {c : Char} (word : isWord c = true) : isBlank c = false := by
  -- Word characters are given by long tables, so the few blanks are looked up in them.
  have noWord : ∀ code ∈ blankCodes, isWord (Char.ofNat code) = false := by decide +kernel
  cases blank : isBlank c with
  | false => rfl
  | true =>
      have other := noWord c.toNat (code_of_blank blank)
      rw [Char.ofNat_toNat, word] at other
      exact Bool.noConfusion other

theorem dropWhile_eq_self_iff (test : Char → Bool) (text : List Char) :
    text.dropWhile test = text ↔ ∀ c ∈ text.head?, test c = false := by
  cases text with
  | nil => simp
  | cons c rest =>
      simp only [List.head?_cons, Option.mem_def, Option.some.injEq, forall_eq']
      constructor
      · intro same
        cases passes : test c with
        | false => rfl
        | true =>
            rw [List.dropWhile_cons_of_pos passes] at same
            have shorter := (List.dropWhile_sublist test (l := rest)).length_le
            rw [same, List.length_cons] at shorter
            omega
      · intro fails
        rw [List.dropWhile_cons_of_neg (by simp [fails])]

theorem trimEnd_eq_self_iff (text : List Char) :
    trimEnd text = text ↔ ∀ c ∈ text.getLast?, isBlank c = false := by
  rw [← List.head?_reverse, ← dropWhile_eq_self_iff isBlank, trimEnd]
  constructor
  · intro same
    rw [← List.reverse_inj, List.reverse_reverse]
    exact same
  · intro same
    rw [same, List.reverse_reverse]

theorem trimEnd_sublist (text : List Char) : (trimEnd text).Sublist text := by
  rw [trimEnd, ← List.reverse_sublist, List.reverse_reverse]
  exact List.dropWhile_sublist isBlank

theorem trim_eq_self_iff (text : List Char) :
    trim text = text ↔
      (∀ c ∈ text.head?, isBlank c = false) ∧ ∀ c ∈ text.getLast?, isBlank c = false := by
  rw [← trimEnd_eq_self_iff, ← dropWhile_eq_self_iff isBlank, ← trimStart, trim]
  constructor
  · intro same
    have short : text.length ≤ (trimStart text).length := by
      have shorter := (trimEnd_sublist (trimStart text)).length_le
      rw [same] at shorter
      exact shorter
    have start : trimStart text = text :=
      (List.dropWhile_sublist isBlank).eq_of_length_le short
    rw [start] at same
    exact ⟨start, same⟩
  · rintro ⟨start, same⟩
    rw [start, same]

theorem trim_eq_trimStart {front rest : List Char} (trimmed : trim (front ++ rest) = front ++ rest) :
    trim rest = trimStart rest := by
  rw [trim, trimEnd_eq_self_iff]
  intro c last
  have split : front ++ rest = front ++ rest.takeWhile isBlank ++ trimStart rest := by
    rw [List.append_assoc, trimStart, List.takeWhile_append_dropWhile]
  apply ((trim_eq_self_iff _).mp trimmed).2 c
  rw [split, List.getLast?_append, last]
  rfl

theorem trimEnd_append (text : List Char) {back : List Char}
    (blanks : ∀ c ∈ back, isBlank c = true) : trimEnd (text ++ back) = trimEnd text := by
  have reversed : ∀ c ∈ back.reverse, isBlank c = true :=
    fun c member => blanks c (List.mem_reverse.mp member)
  rw [trimEnd, List.reverse_append, List.dropWhile_append_of_pos reversed, trimEnd]

theorem trimEnd_solid (front text : List Char) {c : Char} (solid : isBlank c = false) :
    trimEnd (front ++ c :: text) = front ++ c :: trimEnd text := by
  have stops : (c :: front.reverse).dropWhile isBlank = c :: front.reverse :=
    List.dropWhile_cons_of_neg (by simp [solid])
  rw [trimEnd, List.reverse_append, List.reverse_cons, List.append_assoc, List.singleton_append,
    List.dropWhile_append, stops, trimEnd]
  by_cases blank : (text.reverse.dropWhile isBlank).isEmpty
  · simp [List.isEmpty_iff.mp blank]
  · simp [blank]

theorem trim_padded {front back : List Char} (before : ∀ c ∈ front, isBlank c = true)
    (after : ∀ c ∈ back, isBlank c = true) (text : List Char) :
    trim (front ++ (text ++ back)) = trim text := by
  have start : trimStart (front ++ (text ++ back)) = trimStart (text ++ back) :=
    List.dropWhile_append_of_pos before
  rw [trim, start, trim, trimStart, trimStart, List.dropWhile_append]
  by_cases silent : (text.dropWhile isBlank).isEmpty
  · have ending : (back ++ []).dropWhile isBlank = [] := List.dropWhile_append_of_pos after
    rw [List.append_nil] at ending
    rw [if_pos silent, ending, List.isEmpty_iff.mp silent]
  · rw [if_neg silent, trimEnd_append _ after]

theorem exists_padding (text : List Char) :
    ∃ front back, (∀ c ∈ front, isBlank c = true) ∧ (∀ c ∈ back, isBlank c = true) ∧
      text = front ++ (trim text ++ back) := by
  refine ⟨text.takeWhile isBlank, ((trimStart text).reverse.takeWhile isBlank).reverse,
    List.all_eq_true.mp List.all_takeWhile, ?_, ?_⟩
  · intro c member
    exact List.all_eq_true.mp List.all_takeWhile c (List.mem_reverse.mp member)
  · rw [trim, trimEnd, ← List.reverse_append, List.takeWhile_append_dropWhile, List.reverse_reverse,
      trimStart, List.takeWhile_append_dropWhile]

theorem isInfix_trim (text : List Char) : trim text <:+: text := by
  obtain ⟨front, back, _, _, same⟩ := exists_padding text
  exact ⟨front, back, by rw [List.append_assoc, ← same]⟩

theorem trim_trim (text : List Char) : trim (trim text) = trim text := by
  obtain ⟨front, back, before, after, same⟩ := exists_padding text
  have again := trim_padded before after (trim text)
  rw [← same] at again
  exact again.symm

theorem trim_eq_nil_iff (text : List Char) : trim text = [] ↔ ∀ c ∈ text, isBlank c = true := by
  constructor
  · intro empty
    obtain ⟨front, back, before, after, same⟩ := exists_padding text
    rw [empty, List.nil_append] at same
    rw [same]
    exact List.forall_mem_append.mpr ⟨before, after⟩
  · intro blanks
    have whole := trim_padded blanks (List.forall_mem_nil _) []
    rwa [List.append_nil, List.append_nil] at whole

structure IsPhrase (text : List Char) : Prop where
  nonempty : text ≠ []
  trimmed : trim text = text
  oneLine : '\n' ∉ text

structure IsName (text : List Char) : Prop where
  nonempty : text ≠ []
  words : ∀ c ∈ text, isWord c = true

instance (text : List Char) : Decidable (IsPhrase text) :=
  decidable_of_iff (text ≠ [] ∧ trim text = text ∧ '\n' ∉ text)
    ⟨fun ⟨nonempty, trimmed, oneLine⟩ => ⟨nonempty, trimmed, oneLine⟩,
      fun phrase => ⟨phrase.nonempty, phrase.trimmed, phrase.oneLine⟩⟩

instance (name : List Char) : Decidable (IsName name) :=
  decidable_of_iff (name ≠ [] ∧ name.all isWord = true)
    ⟨fun ⟨nonempty, words⟩ => ⟨nonempty, List.all_eq_true.mp words⟩,
      fun named => ⟨named.nonempty, List.all_eq_true.mpr named.words⟩⟩

namespace IsPhrase

variable {text : List Char}

theorem start (phrase : IsPhrase text) :
    ∃ c rest, text = c :: rest ∧ isBlank c = false := by
  cases text with
  | nil => exact absurd rfl phrase.nonempty
  | cons c rest =>
      exact ⟨c, rest, rfl, ((trim_eq_self_iff _).mp phrase.trimmed).1 c rfl⟩

theorem trimStart_append (phrase : IsPhrase text) (after : List Char) :
    trimStart (text ++ after) = text ++ after := by
  obtain ⟨c, rest, rfl, solid⟩ := phrase.start
  rw [trimStart, List.cons_append, List.dropWhile_cons_of_neg (by simp [solid])]

theorem trimEnd_space (phrase : IsPhrase text) : trimEnd (text ++ [' ']) = text := by
  have last := ((trim_eq_self_iff _).mp phrase.trimmed).2
  rw [← List.head?_reverse, ← dropWhile_eq_self_iff isBlank] at last
  have blank : isBlank ' ' = true := by decide
  rw [trimEnd, List.reverse_append, List.reverse_singleton, List.singleton_append,
    List.dropWhile_cons_of_pos blank, last, List.reverse_reverse]

theorem getLast?_append (phrase : IsPhrase text) (front : List Char) :
    (front ++ text).getLast? = text.getLast? := by
  rw [List.getLast?_append, List.getLast?_eq_some_getLast phrase.nonempty, Option.some_or]

theorem append {c : Char} {front : List Char} (solid : isBlank c = false)
    (oneLine : '\n' ∉ front) (phrase : IsPhrase text) : IsPhrase (c :: front ++ text) where
  nonempty := List.cons_ne_nil c _
  trimmed := by
    rw [trim_eq_self_iff, phrase.getLast?_append]
    refine ⟨?_, ((trim_eq_self_iff text).mp phrase.trimmed).2⟩
    rintro d ⟨rfl⟩
    exact solid
  oneLine := by
    have other : '\n' ≠ c := by
      rintro rfl
      exact absurd solid (by decide)
    simp [other, oneLine, phrase.oneLine]

end IsPhrase

theorem isPhrase_singleton {c : Char} (solid : isBlank c = false) : IsPhrase [c] where
  nonempty := List.cons_ne_nil c []
  trimmed := (trim_eq_self_iff [c]).mpr (by simp [solid])
  oneLine := by
    intro member
    rw [← List.mem_singleton.mp member] at solid
    exact absurd solid (by decide)

theorem isPhrase_quotes {text : List Char} (oneLine : '\n' ∉ text) :
    IsPhrase ('"' :: (text ++ ['"'])) :=
  .append (by decide) oneLine (isPhrase_singleton (by decide))

theorem trimStart_space (text : List Char) : trimStart (' ' :: text) = trimStart text :=
  List.dropWhile_cons_of_pos (by decide)

theorem trim_space (text : List Char) : trim (' ' :: text) = trim text := by
  rw [trim, trim, trimStart_space]

theorem trimStart_space_cons {c : Char} (solid : isBlank c = false) (rest : List Char) :
    trimStart (' ' :: c :: rest) = c :: rest := by
  rw [trimStart_space, trimStart, List.dropWhile_cons_of_neg (by simp [solid])]

theorem padded?_spaces {text : List Char} (phrase : IsPhrase text) :
    padded? (' ' :: (text ++ [' '])) = some text := by
  have trimmed : trim (' ' :: (text ++ [' '])) = text := by
    rw [trim, trimStart_space, phrase.trimStart_append, phrase.trimEnd_space]
  have oneLine := phrase.oneLine
  rw [padded?, trimmed]
  obtain ⟨c, rest, rfl, _⟩ := phrase.start
  simp [oneLine]

theorem remainder?_padded {text front : List Char} (blanks : ∀ c ∈ front, isBlank c = true)
    (phrase : IsPhrase text) : remainder? (front ++ text) = some text := by
  have trimmed : trimStart (front ++ text) = text := by
    have start := phrase.trimStart_append []
    rw [List.append_nil] at start
    exact (List.dropWhile_append_of_pos blanks).trans start
  have oneLine := phrase.oneLine
  rw [remainder?, trimmed]
  obtain ⟨c, rest, rfl, _⟩ := phrase.start
  simp [oneLine]

theorem remainder?_space {text : List Char} (phrase : IsPhrase text) :
    remainder? (' ' :: text) = some text :=
  remainder?_padded (List.forall_mem_singleton.mpr (by decide)) phrase

namespace IsName

variable {name : List Char}

theorem phrase (named : IsName name) : IsPhrase name where
  nonempty := named.nonempty
  trimmed := (trim_eq_self_iff name).mpr
    ⟨fun c first => isBlank_of_isWord (named.words c (List.mem_of_mem_head? first)),
      fun c last => isBlank_of_isWord (named.words c (List.mem_of_mem_getLast? last))⟩
  oneLine := fun member => absurd (named.words _ member) (by decide)

theorem start (named : IsName name) :
    ∃ c rest, name = c :: rest ∧ ∀ mark, isWord mark = false → c ≠ mark := by
  cases name with
  | nil => exact absurd rfl named.nonempty
  | cons c rest =>
      refine ⟨c, rest, rfl, ?_⟩
      rintro mark symbol rfl
      rw [named.words c List.mem_cons_self] at symbol
      exact Bool.noConfusion symbol

theorem takeWhile_append (named : IsName name) {c : Char} (other : isWord c = false)
    (rest : List Char) : (name ++ c :: rest).takeWhile isWord = name := by
  rw [List.takeWhile_append_of_pos named.words, List.takeWhile_cons_of_neg (by simp [other]),
    List.append_nil]

theorem dropWhile_append (named : IsName name) {c : Char} (other : isWord c = false)
    (rest : List Char) : (name ++ c :: rest).dropWhile isWord = c :: rest := by
  rw [List.dropWhile_append_of_pos named.words, List.dropWhile_cons_of_neg (by simp [other])]

end IsName

@[simp]
theorem isPrefixOf?_nil (text : List Char) : [].isPrefixOf? text = some text := by
  cases text <;> rfl

@[simp]
theorem isPrefixOf?_cons (c d : Char) (mark text : List Char) :
    (c :: mark).isPrefixOf? (d :: text) = if c = d then mark.isPrefixOf? text else none := by
  by_cases same : c = d
  · rw [if_pos same, same]
    exact if_pos (beq_self_eq_true d)
  · rw [if_neg same]
    exact if_neg (by simpa using same)

theorem isSuffixOf?_append (text mark : List Char) :
    mark.isSuffixOf? (text ++ mark) = some text :=
  List.isSuffixOf?_eq_some_iff_append_eq.mpr rfl

theorem dropLast?_append (text : List Char) (mark : Char) :
    dropLast? mark (text ++ [mark]) = some text := by
  simp [dropLast?]

theorem splitAtArrow_append (passed skipped before : List Char) (noMark : '>' ∉ skipped) :
    splitAtArrow passed (skipped ++ '>' :: '-' :: before) =
      some (before.reverse, skipped.reverse ++ passed) := by
  induction skipped generalizing passed with
  | nil => rfl
  | cons c rest ih =>
      rw [List.mem_cons, not_or] at noMark
      rw [List.cons_append, splitAtArrow, ih _ noMark.2, List.reverse_cons, List.append_assoc,
        List.singleton_append]
      exact fun _ same => absurd same (Ne.symm noMark.1)

theorem splitAtLastArrow?_append (before : List Char) {after : List Char} (noMark : '>' ∉ after) :
    splitAtLastArrow? (before ++ '-' :: '>' :: after) = some (before, after) := by
  have backwards : (before ++ '-' :: '>' :: after).reverse =
      after.reverse ++ '>' :: '-' :: before.reverse := by simp
  have noMark : '>' ∉ after.reverse := fun member => noMark (List.mem_reverse.mp member)
  rw [splitAtLastArrow?, backwards, splitAtArrow_append _ _ _ noMark, List.reverse_reverse,
    List.reverse_reverse, List.append_nil]

end StoryScript.Text
