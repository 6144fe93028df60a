import StoryScript.Proofs.Script.Forms
import StoryScript.Story

/-! Printed statements are read back as themselves: no form takes a line of another one. -/

namespace StoryScript

open Text

inductive Statement
  | label (name : String)
  | dialogue (speaker text : String)
  | jump (target : String)
  | option (choice : Choice)
  | command (verb arguments : String)
  | assignment (expression : String)
  | guard (condition : String)

namespace Statement

def printLock : Option String → List Char
  | none => []
  | some condition => ['['] ++ condition.toList ++ [']', ' ']

def printArguments (arguments : String) : List Char :=
  if arguments.isEmpty then [] else ' ' :: arguments.toList

def print : Statement → List Char
  | label name => ['=', '=', ' '] ++ name.toList ++ [' ', '=', '=']
  | dialogue speaker text => speaker.toList ++ [' ', '"'] ++ text.toList ++ ['"']
  | jump target => ['-', '>', ' '] ++ target.toList
  | option choice =>
      ['*', ' '] ++ printLock choice.condition ++ choice.text.toList ++ [' ', '-', '>', ' '] ++
        choice.target.toList
  | command verb arguments => verb.toList ++ printArguments arguments
  | assignment expression => ['~', ' '] ++ expression.toList
  | guard condition => ['{', ' '] ++ condition.toList ++ [' ', '}']

def token (number : Nat) : Statement → Token
  | label name => .label name number
  | dialogue speaker text => .dialogue speaker text number
  | jump target => .jump target number
  | option choice => .choice choice.text choice.target choice.condition number
  | command verb arguments => .command verb arguments number
  | assignment expression => .assignment expression number
  | guard condition => .condition condition number

def kind : Statement → TokenKind
  | label _ => .label
  | dialogue _ _ => .dialogue
  | jump _ => .jump
  | option _ => .choice
  | command _ _ => .command
  | assignment _ => .assignment
  | guard _ => .condition

@[simp]
theorem kind_token (number : Nat) (statement : Statement) :
    (statement.token number).kind = statement.kind := by
  cases statement <;> rfl

@[simp]
theorem line_token (number : Nat) (statement : Statement) :
    (statement.token number).line = number := by
  cases statement <;> rfl

theorem exists_token_of_statement? {line : List Char} {number : Nat} {token : Token}
    (read : Line.statement? line number = some token) :
    ∃ statement : Statement, statement.token number = token := by
  simp only [Line.statement?, Option.orElse_eq_orElse, Option.orElse_eq_or, Option.or_eq_some_iff,
    Option.map_eq_some_iff] at read
  rcases read with ⟨name, _, rfl⟩ | ⟨_, ⟨⟨speaker, text⟩, _, rfl⟩ | ⟨_, ⟨target, _, rfl⟩ |
    ⟨_, ⟨⟨condition, text, target⟩, _, rfl⟩ | ⟨_, ⟨⟨text, target⟩, _, rfl⟩ |
    ⟨_, ⟨⟨verb, arguments⟩, _, rfl⟩ | ⟨_, ⟨expression, _, rfl⟩ | ⟨_, condition, _, rfl⟩⟩⟩⟩⟩⟩⟩
  · exact ⟨.label _, rfl⟩
  · exact ⟨.dialogue _ _, rfl⟩
  · exact ⟨.jump _, rfl⟩
  · exact ⟨.option ⟨_, _, some _⟩, rfl⟩
  · exact ⟨.option ⟨_, _, none⟩, rfl⟩
  · exact ⟨.command _ _, rfl⟩
  · exact ⟨.assignment _, rfl⟩
  · exact ⟨.guard _, rfl⟩

/-- The conditions under which a statement can be told from its print. -/
def Legible : Statement → Prop
  | label name => IsPhrase name.toList
  | dialogue speaker text => IsName speaker.toList ∧ text ≠ "" ∧ '\n' ∉ text.toList
  | jump target => IsName target.toList
  | option choice =>
      IsPhrase choice.text.toList ∧ IsName choice.target.toList ∧
        match choice.condition with
        | none => choice.text.toList.head? ≠ some '['
        | some condition =>
            condition ≠ "" ∧ ']' ∉ condition.toList.tail ∧ '\n' ∉ condition.toList
  | command verb arguments =>
      verb ∈ Line.verbs ∧ trim arguments.toList = arguments.toList ∧ '\n' ∉ arguments.toList ∧
        arguments.toList.head? ≠ some '"' ∧ Scan.closesComment arguments.toList = false
  | assignment expression =>
      IsPhrase expression.toList ∧ Scan.closesComment expression.toList = false
  | guard condition => IsPhrase condition.toList

instance (statement : Statement) : Decidable statement.Legible :=
  match statement with
  | label _ => inferInstanceAs (Decidable (IsPhrase _))
  | dialogue _ _ => inferInstanceAs (Decidable (_ ∧ _ ∧ _))
  | jump _ => inferInstanceAs (Decidable (IsName _))
  | option ⟨_, _, none⟩ => inferInstanceAs (Decidable (_ ∧ _ ∧ _))
  | option ⟨_, _, some _⟩ => inferInstanceAs (Decidable (_ ∧ _ ∧ _ ∧ _ ∧ _))
  | command _ _ => inferInstanceAs (Decidable (_ ∧ _ ∧ _ ∧ _ ∧ _))
  | assignment _ => inferInstanceAs (Decidable (_ ∧ _))
  | guard _ => inferInstanceAs (Decidable (IsPhrase _))

theorem trimStart_printArguments {arguments : String}
    (trimmed : trim arguments.toList = arguments.toList) :
    trimStart (printArguments arguments) = arguments.toList := by
  have start := ((trim_eq_self_iff _).mp trimmed).1
  rw [← dropWhile_eq_self_iff isBlank, ← trimStart] at start
  rw [printArguments]
  split
  next empty =>
    rw [String.isEmpty_iff.mp empty]
    rfl
  next => rw [trimStart_space, start]

theorem oneLine_printLock {choice : Choice} (legible : (option choice).Legible) :
    '\n' ∉ printLock choice.condition := by
  obtain ⟨_, _, lock⟩ := legible
  cases condition : choice.condition with
  | none => simp [printLock]
  | some text =>
      rw [condition] at lock
      simp [printLock, lock.2.2]

theorem isPhrase_print {statement : Statement} (legible : statement.Legible) :
    IsPhrase statement.print := by
  cases statement with
  | label name =>
      have split : print (label name) =
          '=' :: ('=' :: ' ' :: (name.toList ++ [' ', '='])) ++ ['='] := by simp [print]
      rw [split]
      refine .append (by decide) ?_ (isPhrase_singleton (by decide))
      simp [legible.oneLine]
  | dialogue speaker text =>
      obtain ⟨named, _, oneLine⟩ := legible
      obtain ⟨c, rest, same, solid⟩ := named.phrase.start
      have speakerLine := named.phrase.oneLine
      rw [same, List.mem_cons, not_or] at speakerLine
      rw [print, same, List.cons_append, List.cons_append]
      refine .append solid ?_ (isPhrase_singleton (by decide))
      simp [oneLine, speakerLine.2]
  | jump target => exact .append (by decide) (by decide) (IsName.phrase legible)
  | option choice =>
      rw [print, List.cons_append, List.cons_append, List.cons_append]
      refine .append (by decide) ?_ legible.2.1.phrase
      simp [oneLine_printLock legible, legible.1.oneLine]
  | command verb arguments =>
      obtain ⟨member, trimmed, oneLine, _, _⟩ := legible
      have named := Line.isName_of_verb member
      rw [print, printArguments]
      split
      next =>
        rw [List.append_nil]
        exact named.phrase
      next full =>
        have phrase : IsPhrase arguments.toList :=
          ⟨by simpa [String.isEmpty_iff] using full, trimmed, oneLine⟩
        obtain ⟨c, rest, same, solid⟩ := named.phrase.start
        have verbLine := named.phrase.oneLine
        rw [same, List.mem_cons, not_or] at verbLine
        have split : verb.toList ++ ' ' :: arguments.toList =
            c :: (rest ++ [' ']) ++ arguments.toList := by simp [same]
        rw [split]
        refine .append solid ?_ phrase
        simp [verbLine.2]
  | assignment expression => exact .append (by decide) (by decide) legible.1
  | guard condition =>
      have split : print (guard condition) =
          '{' :: (' ' :: (condition.toList ++ [' '])) ++ ['}'] := by simp [print]
      rw [split]
      refine .append (by decide) ?_ (isPhrase_singleton (by decide))
      simp [legible.oneLine]

theorem start_print {statement : Statement} (legible : statement.Legible) :
    ∃ c rest, statement.print = c :: rest ∧ c ≠ '@' ∧ c ≠ '/' := by
  cases statement with
  | dialogue speaker text =>
      obtain ⟨c, rest, same, other⟩ := legible.1.start
      rw [print, same]
      exact ⟨c, _, rfl, other '@' (by decide), other '/' (by decide)⟩
  | command verb arguments =>
      obtain ⟨c, rest, same, other⟩ := (Line.isName_of_verb legible.1).start
      rw [print, same]
      exact ⟨c, _, rfl, other '@' (by decide), other '/' (by decide)⟩
  | _ => exact ⟨_, _, rfl, by decide, by decide⟩

theorem closesComment_print {statement : Statement} (legible : statement.Legible) :
    Scan.closesComment statement.print = false := by
  have named : ∀ {name : List Char}, IsName name → ∀ before,
      Scan.closesComment (before ++ name) = false := by
    intro name named before
    apply Scan.closesComment_of_last
    rw [named.phrase.getLast?_append]
    intro last
    exact absurd (named.words _ (List.mem_of_mem_getLast? last)) (by decide)
  have marked : ∀ {mark : List Char} (before : List Char), mark ≠ [] → mark.getLast? ≠ some '/' →
      Scan.closesComment (before ++ mark) = false := by
    intro mark before full other
    apply Scan.closesComment_of_last
    rwa [List.getLast?_append, List.getLast?_eq_some_getLast full, Option.some_or,
      ← List.getLast?_eq_some_getLast full]
  cases statement with
  | label => exact marked _ (by decide) (by decide)
  | dialogue => exact marked _ (by decide) (by decide)
  | jump => exact named legible _
  | option => exact named legible.2.1 _
  | command verb arguments =>
      obtain ⟨member, _, _, _, closed⟩ := legible
      rw [print, printArguments]
      split
      next =>
        rw [List.append_nil]
        exact named (Line.isName_of_verb member) []
      next =>
        rw [Scan.closesComment_after_space]
        exact closed
  | assignment expression =>
      exact (Scan.closesComment_after_space ['~'] expression.toList).trans legible.2
  | guard => exact marked _ (by decide) (by decide)

theorem silent_command {verb arguments : String} (legible : (command verb arguments).Legible) :
    Line.speech? (print (command verb arguments)) = none := by
  obtain ⟨member, trimmed, _, unquoted, _⟩ := legible
  refine Line.speech?_silent (Line.isName_of_verb member) ?_ ?_
  · rw [printArguments]
    split
    · simp
    · rintro c ⟨rfl⟩
      decide
  · rw [trimStart_printArguments trimmed]
    exact unquoted

theorem openSpeech?_print {statement : Statement} (legible : statement.Legible) :
    Line.openSpeech? statement.print = none := by
  cases statement with
  | dialogue => exact Line.openSpeech?_closed _
  | command => exact Line.openSpeech?_eq_none (silent_command legible)
  | _ => exact Line.openSpeech?_eq_none (Line.speech?_eq_none (by decide))

theorem statement?_print {statement : Statement} (legible : statement.Legible) (number : Nat) :
    Line.statement? statement.print number = some (statement.token number) := by
  cases statement with
  | label name =>
      have read := Line.label?_marks legible
      simp [Line.statement?, print, token, read]
  | dialogue speaker text =>
      obtain ⟨named, full, oneLine⟩ := legible
      have read := Line.closedSpeech?_quotes named (by simpa using full) oneLine
      have noLabel : Line.label? (speaker.toList ++ ' ' :: '"' :: (text.toList ++ ['"'])) = none := by
        obtain ⟨c, rest, same, other⟩ := named.start
        rw [same]
        exact Line.label?_eq_none (other '=' (by decide))
      simp [Line.statement?, print, token, read, noLabel]
  | jump target =>
      have read := Line.jump?_arrow legible
      have symbol : isWord '-' = false := by decide
      simp [Line.statement?, print, token, Line.label?_eq_none, Line.closedSpeech?_eq_none,
        Line.speech?_eq_none symbol, read]
  | option choice =>
      obtain ⟨text, target, condition⟩ := choice
      obtain ⟨phrase, named, lock⟩ := legible
      have symbol : isWord '*' = false := by decide
      cases condition with
      | none =>
          have read := Line.choice?_text phrase named
          have unlocked := Line.lockedChoice?_eq_none phrase named lock
          simp [Line.statement?, print, printLock, token, Line.label?_eq_none,
            Line.closedSpeech?_eq_none, Line.speech?_eq_none symbol, Line.jump?_eq_none, unlocked,
            read]
      | some condition =>
          obtain ⟨full, noMark, oneLine⟩ := lock
          have read := Line.lockedChoice?_lock (by simpa using full) noMark oneLine phrase named
          simp [Line.statement?, print, printLock, token, Line.label?_eq_none,
            Line.closedSpeech?_eq_none, Line.speech?_eq_none symbol, Line.jump?_eq_none, read]
  | command verb arguments =>
      have silent := Line.closedSpeech?_eq_none (silent_command legible)
      obtain ⟨member, trimmed, oneLine, _, _⟩ := legible
      have content := trimStart_printArguments trimmed
      have read := Line.command?_verb member (content.symm ▸ oneLine)
      obtain ⟨c, rest, same, other⟩ := (Line.isName_of_verb member).start
      rw [print, same, List.cons_append] at silent
      rw [content, same, List.cons_append] at read
      simp [Line.statement?, print, token, same, Line.label?_eq_none (other '=' (by decide)), silent,
        Line.jump?_eq_none (other '-' (by decide)), Line.lockedChoice?, Line.choice?,
        Line.option?_eq_none (other '*' (by decide)), read]
  | assignment expression =>
      have read := Line.assignment?_tilde legible.1
      have symbol : isWord '~' = false := by decide
      simp [Line.statement?, print, token, Line.label?_eq_none, Line.closedSpeech?_eq_none,
        Line.speech?_eq_none symbol, Line.jump?_eq_none, Line.lockedChoice?, Line.choice?,
        Line.option?_eq_none, Line.command?_eq_none symbol, read]
  | guard condition =>
      have read := Line.condition?_braces legible
      have symbol : isWord '{' = false := by decide
      simp [Line.statement?, print, token, Line.label?_eq_none, Line.closedSpeech?_eq_none,
        Line.speech?_eq_none symbol, Line.jump?_eq_none, Line.lockedChoice?, Line.choice?,
        Line.option?_eq_none, Line.command?_eq_none symbol, Line.assignment?_eq_none, read]

example : (option ⟨"[Pay] -> quietly", "hall", some "]coins"⟩).print =
    "* []coins] [Pay] -> quietly -> hall".toList := by
  decide

def numbered (number : Nat) : List Statement → List Token
  | [] => []
  | statement :: rest => statement.token number :: numbered (number + 1) rest

theorem numbered_append (number : Nat) (left right : List Statement) :
    numbered number (left ++ right) =
      numbered number left ++ numbered (number + left.length) right := by
  induction left generalizing number with
  | nil => rfl
  | cons statement rest ih =>
      rw [List.cons_append, numbered, numbered, ih, List.cons_append, List.length_cons,
        Nat.add_assoc, Nat.add_comm 1]

theorem exists_of_mem_numbered {number : Nat} {statements : List Statement} {token : Token}
    (member : token ∈ numbered number statements) :
    ∃ statement ∈ statements, ∃ line, token = statement.token line := by
  induction statements generalizing number with
  | nil => contradiction
  | cons statement rest ih =>
      rcases List.mem_cons.mp member with rfl | later
      · exact ⟨statement, List.mem_cons_self, number, rfl⟩
      · obtain ⟨other, inside, line, same⟩ := ih later
        exact ⟨other, List.mem_cons_of_mem statement inside, line, same⟩

end Statement

end StoryScript
