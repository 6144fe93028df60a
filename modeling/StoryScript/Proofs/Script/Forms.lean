import StoryScript.Proofs.Text.Trimming
import StoryScript.Scan

/-! What each form of a line reads, and which lines it leaves to others. -/

namespace StoryScript

open Text

namespace Line

variable {c : Char} {rest : List Char}

theorem label?_eq_none (other : c ≠ '=') : label? (c :: rest) = none := by
  simp [label?, other.symm]

theorem speech?_eq_none (symbol : isWord c = false) : speech? (c :: rest) = none := by
  rw [speech?, List.takeWhile_cons_of_neg (by simp [symbol])]

theorem jump?_eq_none (other : c ≠ '-') : jump? (c :: rest) = none := by
  simp [jump?, other.symm]

theorem option?_eq_none (other : c ≠ '*') : option? (c :: rest) = none := by
  unfold option?
  split
  next same => exact absurd (List.cons.inj same).1 other
  next => rfl

theorem isName_of_verb {verb : String} (member : verb ∈ verbs) : IsName verb.toList := by
  have words : ∀ verb ∈ verbs, verb.toList ≠ [] ∧ verb.toList.all isWord = true := by decide
  exact ⟨(words verb member).1, List.all_eq_true.mp (words verb member).2⟩

theorem command?_eq_none (symbol : isWord c = false) : command? (c :: rest) = none := by
  rw [command?, List.findSome?_eq_none_iff]
  intro verb member
  obtain ⟨nonempty, words⟩ := isName_of_verb member
  cases same : verb.toList with
  | nil => contradiction
  | cons first more =>
      have word := words first (same ▸ List.mem_cons_self)
      have other : first ≠ c := by
        rintro rfl
        simp [symbol] at word
      simp [other]

theorem assignment?_eq_none (other : c ≠ '~') : assignment? (c :: rest) = none := by
  unfold assignment?
  split
  next same => exact absurd (List.cons.inj same).1 other
  next => rfl

theorem target?_space {name : List Char} (named : IsName name) :
    target? (' ' :: name) = some name := by
  have trimmed : trimStart (' ' :: name) = name := by
    rw [trimStart_space, ← List.append_nil name, named.phrase.trimStart_append]
  have words : name.all isWord = true := List.all_eq_true.mpr named.words
  have nonempty : name.isEmpty = false := by simp [named.nonempty]
  simp only [target?, trimmed, words, nonempty, Bool.not_true, Bool.or_self, Bool.false_eq_true,
    if_false]

theorem label?_marks {name : List Char} (phrase : IsPhrase name) :
    label? ('=' :: '=' :: ' ' :: (name ++ [' ', '=', '='])) = some name := by
  have ending := isSuffixOf?_append (' ' :: (name ++ [' '])) ['=', '=']
  rw [List.cons_append, List.append_assoc, List.singleton_append] at ending
  simp only [label?, isPrefixOf?_cons, isPrefixOf?_nil, if_true, Option.bind_eq_bind,
    Option.bind_some, ending, padded?_spaces phrase]

theorem speech?_quote {speaker : List Char} (named : IsName speaker) (text : List Char) :
    speech? (speaker ++ ' ' :: '"' :: text) = some (speaker, text) := by
  have other : isWord ' ' = false := by decide
  have blank : isBlank ' ' = true := by decide
  have opening := @trimStart_space_cons '"' (by decide) text
  rw [speech?, named.takeWhile_append other, named.dropWhile_append other]
  obtain ⟨c, more, rfl, _⟩ := named.phrase.start
  simp [blank, opening]

theorem closedSpeech?_quotes {speaker text : List Char} (named : IsName speaker)
    (nonempty : text ≠ []) (oneLine : '\n' ∉ text) :
    closedSpeech? (speaker ++ ' ' :: '"' :: (text ++ ['"'])) = some (speaker, text) := by
  simp [closedSpeech?, speech?_quote named, dropLast?_append, nonempty, oneLine]

theorem openSpeech?_closed (text : List Char) : openSpeech? (text ++ ['"']) = none := by
  simp [openSpeech?]

theorem openSpeech?_eq_none {line : List Char} (silent : speech? line = none) :
    openSpeech? line = none := by
  simp [openSpeech?, silent]

theorem closedSpeech?_eq_none {line : List Char} (silent : speech? line = none) :
    closedSpeech? line = none := by
  simp [closedSpeech?, silent]

structure Speaks (line speaker text : List Char) : Prop where
  named : IsName speaker
  quoted : ∃ blanks, blanks ≠ [] ∧ (∀ c ∈ blanks, isBlank c = true) ∧
    line = speaker ++ (blanks ++ '"' :: text)

theorem speech?_eq_some_iff {line speaker text : List Char} :
    speech? line = some (speaker, text) ↔ Speaks line speaker text := by
  constructor
  · intro read
    unfold speech? at read
    split at read
    next => contradiction
    next nonempty =>
      split at read
      next parted =>
        split at read
        next after opened =>
          obtain ⟨rfl, rfl⟩ := Prod.mk.inj (Option.some.inj read)
          refine ⟨⟨nonempty, List.all_eq_true.mp List.all_takeWhile⟩,
            (line.dropWhile isWord).takeWhile isBlank, ?_, List.all_eq_true.mp List.all_takeWhile, ?_⟩
          · cases rest : line.dropWhile isWord with
            | nil => simp [rest] at parted
            | cons c more =>
                have blank : isBlank c = true := by simpa [rest] using parted
                simp [blank]
          · rw [← opened, trimStart, List.takeWhile_append_dropWhile,
              List.takeWhile_append_dropWhile]
        next => contradiction
      next => contradiction
  · rintro ⟨named, blanks, some, blank, rfl⟩
    cases blanks with
    | nil => contradiction
    | cons c more =>
        have first : isBlank c = true := blank c List.mem_cons_self
        have other : isWord c = false := by
          cases word : isWord c with
          | false => rfl
          | true => simp [isBlank_of_isWord word] at first
        have opening : trimStart (c :: more ++ '"' :: text) = '"' :: text := by
          rw [trimStart, List.dropWhile_append_of_pos blank]
          rfl
        rw [List.cons_append] at opening ⊢
        rw [speech?, named.takeWhile_append other, named.dropWhile_append other]
        obtain ⟨d, front, rfl, _⟩ := named.phrase.start
        simp [first, opening]

theorem openSpeech?_eq_some_iff {line speaker text : List Char} :
    openSpeech? line = some (speaker, text) ↔
      Speaks line speaker text ∧ line.getLast? ≠ some '"' ∧ '\n' ∉ text := by
  rw [← speech?_eq_some_iff]
  by_cases closed : line.getLast? = some '"'
  · simp [openSpeech?, closed]
  · cases spoken : speech? line with
    | none => simp [openSpeech?, spoken]
    | some found =>
        obtain ⟨name, content⟩ := found
        by_cases feed : '\n' ∈ content
        · simp only [openSpeech?, closed, if_false, spoken, Option.bind_eq_bind, Option.bind_some,
            List.contains_iff_mem, feed, if_true]
          refine ⟨nofun, ?_⟩
          rintro ⟨⟨rfl, rfl⟩, _, oneLine⟩
          exact absurd feed oneLine
        · simp only [openSpeech?, closed, if_false, spoken, Option.bind_eq_bind, Option.bind_some,
            List.contains_iff_mem, feed]
          constructor
          · rintro ⟨rfl, rfl⟩
            exact ⟨rfl, closed, feed⟩
          · exact fun same => same.1

theorem jump?_arrow {target : List Char} (named : IsName target) :
    jump? ('-' :: '>' :: ' ' :: target) = some target := by
  simp [jump?, target?_space named]

theorem lock?_append {condition text rest : List Char} (reading : List Char)
    (begun : reading ≠ []) (noMark : ']' ∉ condition) (oneLine : '\n' ∉ condition)
    (closed : padded? rest = some text) :
    lock? reading (condition ++ ']' :: rest) = some (reading.reverse ++ condition, text) := by
  induction condition generalizing reading with
  | nil =>
      have begun : reading.isEmpty = false := by simp [begun]
      simp [lock?, begun, closed]
  | cons c more ih =>
      rw [List.mem_cons, not_or] at noMark oneLine
      rw [List.cons_append, lock?, if_neg (Ne.symm oneLine.1), if_neg]
      · rw [ih (c :: reading) (List.cons_ne_nil c reading) noMark.2 oneLine.2, List.reverse_cons,
          List.append_assoc, List.singleton_append]
      · simp [Ne.symm noMark.1]

theorem option?_arrow {target : List Char} (named : IsName target) (before : List Char) :
    option? ('*' :: (before ++ '-' :: '>' :: ' ' :: target)) = some (before, target) := by
  have noMark : '>' ∉ ' ' :: target := by
    rw [List.mem_cons, not_or]
    exact ⟨by decide, fun member => absurd (named.words _ member) (by decide)⟩
  simp [option?, splitAtLastArrow?_append before noMark, target?_space named]

theorem lockedChoice?_lock {condition text target : List Char} (nonempty : condition ≠ [])
    (noMark : ']' ∉ condition.tail) (oneLine : '\n' ∉ condition) (phrase : IsPhrase text)
    (named : IsName target) :
    lockedChoice? ('*' :: ' ' :: '[' :: (condition ++ ']' :: ' ' :: (text ++
      ' ' :: '-' :: '>' :: ' ' :: target))) = some (condition, text, target) := by
  cases condition with
  | nil => contradiction
  | cons c more =>
      rw [List.mem_cons, not_or] at oneLine
      have noMark : ']' ∉ more := noMark
      have opening := @trimStart_space_cons '[' (by decide)
      have first : lock? [] (c :: (more ++ ']' :: ' ' :: (text ++ [' ']))) =
          some (c :: more, text) := by
        rw [lock?, if_neg (Ne.symm oneLine.1), if_neg (by simp),
          lock?_append [c] (List.cons_ne_nil c []) noMark oneLine.2 (padded?_spaces phrase)]
        rfl
      have arrow := option?_arrow named (' ' :: '[' :: (c :: more ++ ']' :: ' ' :: (text ++ [' '])))
      simp only [List.cons_append, List.append_assoc, List.nil_append] at arrow
      simp [lockedChoice?, arrow, opening, first]

section

variable {text target : List Char}

theorem option?_text (named : IsName target) :
    option? ('*' :: ' ' :: (text ++ ' ' :: '-' :: '>' :: ' ' :: target)) =
      some (' ' :: (text ++ [' ']), target) := by
  have arrow := option?_arrow named (' ' :: (text ++ [' ']))
  simpa only [List.cons_append, List.append_assoc, List.nil_append] using arrow

theorem lockedChoice?_eq_none (phrase : IsPhrase text) (named : IsName target)
    (unlocked : text.head? ≠ some '[') :
    lockedChoice? ('*' :: ' ' :: (text ++ ' ' :: '-' :: '>' :: ' ' :: target)) = none := by
  rw [lockedChoice?, option?_text named]
  obtain ⟨c, more, rfl, solid⟩ := phrase.start
  have other : c ≠ '[' := by simpa using unlocked
  simp only [Option.bind_eq_bind, Option.bind_some, List.cons_append, trimStart_space_cons solid]
  split
  next same => exact absurd (List.cons.inj same).1 other
  next => rfl

theorem choice?_text (phrase : IsPhrase text) (named : IsName target) :
    choice? ('*' :: ' ' :: (text ++ ' ' :: '-' :: '>' :: ' ' :: target)) = some (text, target) := by
  simp [choice?, option?_text named, padded?_spaces phrase]

end

theorem command?_verb {verb : String} (member : verb ∈ verbs) {rest : List Char}
    (oneLine : '\n' ∉ trimStart rest) :
    command? (verb.toList ++ rest) = some (verb, trimStart rest) := by
  simp only [verbs, List.mem_cons, List.not_mem_nil, or_false] at member
  rcases member with rfl | rfl | rfl | rfl | rfl | rfl | rfl | rfl | rfl | rfl <;>
    simp [command?, verbs, oneLine]

theorem assignment?_tilde {expression : List Char} (phrase : IsPhrase expression) :
    assignment? ('~' :: ' ' :: expression) = some expression :=
  remainder?_space phrase

theorem condition?_braces {condition : List Char} (phrase : IsPhrase condition) :
    condition? ('{' :: ' ' :: (condition ++ [' ', '}'])) = some condition := by
  have closed := dropLast?_append (' ' :: (condition ++ [' '])) '}'
  rw [List.cons_append, List.append_assoc, List.singleton_append] at closed
  rw [condition?, closed]
  exact padded?_spaces phrase

theorem speech?_silent {name rest : List Char} (named : IsName name)
    (apart : ∀ c ∈ rest.head?, isWord c = false) (unquoted : (trimStart rest).head? ≠ some '"') :
    speech? (name ++ rest) = none := by
  have taken : rest.takeWhile isWord = [] := by
    cases rest with
    | nil => rfl
    | cons c more => exact List.takeWhile_cons_of_neg (by simp [apart c rfl])
  have dropped : rest.dropWhile isWord = rest := (dropWhile_eq_self_iff isWord rest).mpr apart
  rw [speech?, List.takeWhile_append_of_pos named.words, List.dropWhile_append_of_pos named.words,
    taken, dropped, List.append_nil]
  obtain ⟨c, more, rfl, _⟩ := named.phrase.start
  simp only
  split
  · split
    next same => simp [same] at unquoted
    next => rfl
  · rfl

end Line

namespace Scan

theorem closesComment_of_last {line : List Char} (other : line.getLast? ≠ some '/') :
    closesComment line = false := by
  rw [← List.head?_reverse] at other
  rw [closesComment, List.isSuffixOf]
  cases back : line.reverse with
  | nil => rfl
  | cons c rest =>
      rw [back] at other
      have other : '/' ≠ c := by
        rintro rfl
        exact other rfl
      simp [List.isPrefixOf, other]

theorem closesComment_after_space (front back : List Char) :
    closesComment (front ++ ' ' :: back) = closesComment back := by
  -- The space is neither of the two characters that close a comment.
  simp only [closesComment, List.isSuffixOf, List.reverse_append, List.reverse_cons,
    List.reverse_nil, List.nil_append, List.append_assoc, List.singleton_append]
  match back.reverse with
  | [] => simp [List.isPrefixOf]
  | [c] => simp [List.isPrefixOf]
  | c :: d :: rest => simp [List.isPrefixOf]

end Scan

end StoryScript
