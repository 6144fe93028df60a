import StoryScript.Proofs.Script.LongSpeech
import StoryScript.Proofs.Script.Origin

/-!
Commands. A line is one as soon as it begins with a verb, be the verb a word of the line or only the
beginning of one.
-/

namespace StoryScript

open Text

namespace Line

/-- The line is a verb and what follows it, is no dialogue, and closes no comment. -/
structure Commands (line : List Char) (verb : String) (rest : List Char) : Prop where
  member : verb ∈ verbs
  begins : line = verb.toList ++ rest
  oneLine : '\n' ∉ trim rest
  noClosing : ¬ ['*', '/'] <:+ line
  /-- A verb before an empty quote, closed or not, has the quote as its arguments. -/
  unspoken : ∀ speaker text, Speaks line speaker text → text = [] ∨ text = ['"']

theorem verb_eq_of_prefix {verb other : String} (member : verb ∈ verbs)
    (otherMember : other ∈ verbs) (begins : verb.toList <+: other.toList) : verb = other := by
  have apart : ∀ verb ∈ verbs, ∀ other ∈ verbs, verb.toList <+: other.toList → verb = other := by
    decide
  exact apart verb member other otherMember begins

theorem command?_eq_some {line : List Char} {verb : String} {arguments : List Char}
    (read : command? line = some (verb, arguments)) :
    verb ∈ verbs ∧ '\n' ∉ arguments ∧
      ∃ rest, line = verb.toList ++ rest ∧ arguments = trimStart rest := by
  obtain ⟨found, member, read⟩ := List.exists_of_findSome?_eq_some read
  obtain ⟨rest, begins, read⟩ := Option.bind_eq_some_iff.mp read
  dsimp only at read
  split at read
  next => contradiction
  next oneLine =>
    obtain ⟨rfl, rfl⟩ := Prod.mk.inj (Option.some.inj read)
    rw [List.contains_iff_mem] at oneLine
    exact ⟨member, oneLine, rest, (List.isPrefixOf?_eq_some_iff_append_eq.mp begins).symm, rfl⟩

theorem Speaks.after_name {name rest speaker text : List Char} (named : IsName name)
    (speaks : Speaks (name ++ rest) speaker text) : ∃ before, rest = before ++ '"' :: text := by
  obtain ⟨_, blanks, some, blank, same⟩ := speaks
  rw [← List.append_assoc, List.append_eq_append_iff] at same
  rcases same with ⟨before, _, rest⟩ | ⟨after, whole, _⟩
  · exact ⟨before, rest⟩
  · obtain ⟨c, more, rfl⟩ := List.exists_cons_of_ne_nil some
    have word := named.words c (by simp [whole])
    have other := isBlank_of_isWord word
    rw [blank c List.mem_cons_self] at other
    contradiction

theorem mem_trimStart {before text : List Char} {mark c : Char} (solid : isBlank mark = false)
    (member : c ∈ text) : c ∈ trimStart (before ++ mark :: text) := by
  rw [trimStart, List.dropWhile_append]
  split
  · rw [List.dropWhile_cons_of_neg (by simp [solid])]
    exact List.mem_cons_of_mem mark member
  · exact List.mem_append_right _ (List.mem_cons_of_mem mark member)

theorem closedSpeech?_eq_some_iff {line speaker text : List Char} :
    closedSpeech? line = some (speaker, text) ↔
      Speaks line speaker (text ++ ['"']) ∧ text ≠ [] ∧ '\n' ∉ text := by
  rw [← speech?_eq_some_iff]
  cases read : speech? line with
  | none => simp [closedSpeech?_eq_none read]
  | some found =>
      obtain ⟨name, content⟩ := found
      by_cases closed : content.getLast? = some '"'
      · obtain ⟨front, rfl⟩ : ∃ front, content = front ++ ['"'] :=
          ⟨content.dropLast, (List.dropLast_append_getLast? '"' closed).symm⟩
        simp only [closedSpeech?, read, Option.bind_eq_bind, Option.bind_some, dropLast?_append,
          List.isEmpty_iff, Bool.or_eq_true, List.contains_iff_mem, Option.ite_none_left_eq_some,
          not_or, Option.some.injEq, Prod.mk.injEq, List.append_cancel_right_eq]
        constructor
        · rintro ⟨⟨full, oneLine⟩, rfl, rfl⟩
          exact ⟨⟨rfl, rfl⟩, full, oneLine⟩
        · rintro ⟨⟨rfl, rfl⟩, full, oneLine⟩
          exact ⟨⟨full, oneLine⟩, rfl, rfl⟩
      · have refused : closedSpeech? line = none := by
          simp [closedSpeech?, read, dropLast?, closed]
        rw [refused]
        constructor
        · intro read
          contradiction
        · rintro ⟨same, _⟩
          obtain ⟨rfl, rfl⟩ := Prod.mk.inj (Option.some.inj same)
          exact absurd List.getLast?_concat closed

theorem unspoken_iff {line : List Char}
    (oneLine : ∀ speaker text, Speaks line speaker text → '\n' ∉ text) :
    (openSpeech? line = none ∧ closedSpeech? line = none) ↔
      ∀ speaker text, Speaks line speaker text → text = [] ∨ text = ['"'] := by
  have ending {speaker text : List Char} (speaks : Speaks line speaker text) :
      line.getLast? ≠ some '"' ↔ text ≠ [] ∧ text.getLast? ≠ some '"' := by
    obtain ⟨_, blanks, _, _, same⟩ := speaks
    rw [same, ← List.append_assoc]
    exact getLast?_append_mark _ _ _
  constructor
  · rintro ⟨noOpening, noClosed⟩ speaker text speaks
    by_contra quoted
    rw [not_or] at quoted
    obtain ⟨full, other⟩ := quoted
    by_cases closed : text.getLast? = some '"'
    · have shape := List.dropLast_append_getLast? '"' closed
      have read : closedSpeech? line = some (speaker, text.dropLast) := by
        rw [closedSpeech?_eq_some_iff, shape]
        refine ⟨speaks, ?_, fun feed => oneLine speaker text speaks ((List.dropLast_subset text) feed)⟩
        intro empty
        rw [empty] at shape
        exact other shape.symm
      rw [noClosed] at read
      contradiction
    · have isOpen := (ending speaks).mpr ⟨full, closed⟩
      have read := openSpeech?_eq_some_iff.mpr ⟨speaks, isOpen, oneLine speaker text speaks⟩
      rw [noOpening] at read
      contradiction
  · intro bare
    constructor
    · cases read : openSpeech? line with
      | none => rfl
      | some found =>
          obtain ⟨speaks, isOpen, _⟩ := openSpeech?_eq_some_iff.mp read
          obtain ⟨full, other⟩ := (ending speaks).mp isOpen
          rcases bare _ _ speaks with empty | quote
          · exact absurd empty full
          · rw [quote] at other
            contradiction
    · cases read : closedSpeech? line with
      | none => rfl
      | some found =>
          obtain ⟨speaks, full, _⟩ := closedSpeech?_eq_some_iff.mp read
          rcases bare _ _ speaks with empty | quote
          · simp at empty
          · simp [full] at quote

variable {line : List Char} {verb : String} {rest : List Char}

theorem Commands.firstWord (commands : Commands line verb rest) :
    line.takeWhile isWord = verb.toList ++ rest.takeWhile isWord := by
  rw [commands.begins, List.takeWhile_append_of_pos (isName_of_verb commands.member).words]

theorem unspoken_command (begins : line = verb.toList ++ rest) (member : verb ∈ verbs)
    (oneLine : '\n' ∉ trimStart rest) :
    (openSpeech? line = none ∧ closedSpeech? line = none) ↔
      ∀ speaker text, Speaks line speaker text → text = [] ∨ text = ['"'] := by
  apply unspoken_iff
  intro speaker text speaks feed
  rw [begins] at speaks
  obtain ⟨before, rfl⟩ := speaks.after_name (isName_of_verb member)
  exact oneLine (mem_trimStart (by decide) feed)

theorem Reads.commands {arguments : String} {number lineNumber : Nat}
    (reads : Reads line number (.command verb arguments lineNumber)) (trimmed : trim line = line)
    (noClosing : ¬ ['*', '/'] <:+ line) (complete : openSpeech? line = none) :
    lineNumber = number ∧ ∃ rest, Commands line verb rest ∧ arguments.toList = trim rest := by
  generalize same : Token.command verb arguments lineNumber = token at reads
  cases reads with
  | command silent found =>
      cases same
      obtain ⟨member, oneLine, rest, rfl, rfl⟩ := command?_eq_some found
      have content := trim_eq_trimStart trimmed
      have unspoken := (unspoken_command rfl member oneLine).mp ⟨complete, silent⟩
      rw [← content] at oneLine ⊢
      refine ⟨rfl, rest, ⟨member, rfl, oneLine, noClosing, unspoken⟩, ?_⟩
      rw [String.toList_ofList]
  | _ => cases same

theorem statement?_command (commands : Commands line verb rest) (trimmed : trim line = line)
    (number : Nat) :
    statement? line number = some (.command verb (.ofList (trim rest)) number) := by
  obtain ⟨member, rfl, oneLine, _, unspoken⟩ := commands
  have content := trim_eq_trimStart trimmed
  rw [content] at oneLine ⊢
  have silent := ((unspoken_command rfl member oneLine).mpr unspoken).2
  have read := command?_verb member oneLine
  obtain ⟨c, more, same, other⟩ := (isName_of_verb member).start
  rw [same, List.cons_append] at silent read ⊢
  simp [statement?, label?_eq_none (other '=' (by decide)), silent,
    jump?_eq_none (other '-' (by decide)), lockedChoice?, choice?,
    option?_eq_none (other '*' (by decide)), read]

end Line

theorem Scan.scanLine_command {raw : List Char} {verb : String} {rest : List Char}
    (commands : Line.Commands (trim raw) verb rest) (number : Nat) :
    scanLine raw number .normal =
      { token := some (.command verb (.ofList (trim rest)) number), mode := .normal } := by
  have read := Line.statement?_command commands (trim_trim raw) number
  have trimmed := trim_trim raw
  obtain ⟨member, begins, oneLine, noClosing, unspoken⟩ := commands
  rw [begins] at trimmed
  rw [trim_eq_trimStart trimmed] at oneLine
  have complete := ((Line.unspoken_command begins member oneLine).mpr unspoken).1
  obtain ⟨c, more, same, other⟩ := (Line.isName_of_verb member).start
  have noHeader := other '@' (by decide)
  have noSlash := other '/' (by decide)
  rw [← closesComment_iff, Bool.not_eq_true] at noClosing
  rw [begins, same, List.cons_append] at read complete noClosing
  simp [scanLine, scanOutside, begins, same, Line.character?, Ne.symm noHeader, scanContent,
    opensComment, List.isPrefixOf, Ne.symm noSlash, noClosing, scanStatement, complete, read]

/-- A line is a command exactly when it begins with a verb and is no dialogue. It is one although its
first word is no verb exactly when the verb that it begins with is the beginning of a word. -/
theorem commands_read_iff (raw : List Char) (number : Nat) :
    (∀ verb arguments line,
      (scanLine raw number .normal).token = some (.command verb arguments line) ↔
        line = number ∧ ∃ rest, Line.Commands (trim raw) verb rest ∧
          arguments.toList = trim rest) ∧
    ((∃ verb arguments line,
        (scanLine raw number .normal).token = some (.command verb arguments line) ∧
          ∀ other ∈ Line.verbs, (trim raw).takeWhile isWord ≠ other.toList) ↔
      ∃ verb rest, Line.Commands (trim raw) verb rest ∧ ∃ c ∈ rest.head?, isWord c = true) := by
  have reads (verb arguments line) :
      (scanLine raw number .normal).token = some (.command verb arguments line) ↔
        line = number ∧ ∃ rest, Line.Commands (trim raw) verb rest ∧
          arguments.toList = trim rest := by
    constructor
    · intro read
      obtain ⟨reads, noClosing, complete⟩ := states_scanLine rfl read
      exact reads.commands (trim_trim raw) noClosing complete
    · rintro ⟨rfl, rest, commands, same⟩
      rw [Scan.scanLine_command commands, ← same, String.ofList_toList]
  refine ⟨reads, ?_⟩
  constructor
  · rintro ⟨verb, arguments, line, read, noVerb⟩
    obtain ⟨_, rest, commands, _⟩ := (reads verb arguments line).mp read
    refine ⟨verb, rest, commands, ?_⟩
    by_contra apart
    apply noVerb verb commands.member
    have taken : rest.takeWhile isWord = [] := by
      cases rest with
      | nil => rfl
      | cons c more =>
          apply List.takeWhile_cons_of_neg
          intro word
          exact apart ⟨c, rfl, word⟩
    rw [commands.firstWord, taken, List.append_nil]
  · rintro ⟨verb, rest, commands, c, first, word⟩
    refine ⟨verb, .ofList (trim rest), number,
      congrArg LineScan.token (Scan.scanLine_command commands number), ?_⟩
    intro other member same
    have taken : rest.takeWhile isWord ≠ [] := by
      obtain ⟨more, rfl⟩ := List.head?_eq_some_iff.mp first
      simp [word]
    rw [commands.firstWord] at same
    obtain rfl := Line.verb_eq_of_prefix commands.member member ⟨_, same⟩
    exact taken (List.append_right_eq_self.mp same)

theorem glued_verb_commands :
    (scanLine "showcase of art".toList 1 .normal).token =
        some (.command "show" "case of art" 1) ∧
      "showcase of art".toList.takeWhile isWord = "showcase".toList ∧
      "showcase" ∉ Line.verbs := by
  decide +kernel

end StoryScript
