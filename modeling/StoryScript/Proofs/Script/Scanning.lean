import StoryScript.Proofs.Script.Statement

/-! Printed lines are scanned one by one: statements at the margin, and the attributes of a character
in its block. -/

namespace StoryScript

open Text

/-- Outside comments and dialogues, where a line at the margin stands for itself. -/
def Mode.IsClear : Mode → Prop
  | normal => True
  | block _ => True
  | comment _ => False
  | dialogue _ _ _ => False

namespace Scan

theorem isIndented_eq_false {line : List Char} (solid : ∀ c ∈ line.head?, isBlank c = false) :
    isIndented line = false := by
  have blanks : isBlank ' ' = true ∧ isBlank '\t' = true := by decide
  cases line with
  | nil => rfl
  | cons c rest =>
      have solid := solid c rfl
      have noSpace : c ≠ ' ' := by
        rintro rfl
        simp [blanks.1] at solid
      have noTab : c ≠ '\t' := by
        rintro rfl
        simp [blanks.2] at solid
      simp [isIndented, noSpace, noTab]

/-- At the margin a line that is no header is read as it is after no header at all. -/
theorem scanLine_margin {line : List Char} {mode : Mode} (trimmed : trim line = line)
    (noHeader : Line.character? line = none) (clear : mode.IsClear) (number : Nat) :
    scanLine line number mode = scanContent line number .normal := by
  have margin := isIndented_eq_false ((trim_eq_self_iff line).mp trimmed).1
  cases mode with
  | normal => simp [scanLine, scanOutside, trimmed, noHeader]
  | block character => simp [scanLine, scanOutside, trimmed, noHeader, margin]
  | comment | dialogue => exact clear.elim

theorem scanLine_nil {mode : Mode} (clear : mode.IsClear) (number : Nat) :
    scanLine [] number mode = { mode := .normal } := by
  rw [scanLine_margin rfl rfl clear]
  rfl

theorem scanLine_print {statement : Statement} (legible : statement.Legible) {mode : Mode}
    (clear : mode.IsClear) (number : Nat) :
    scanLine statement.print number mode =
      { token := some (statement.token number), mode := .normal } := by
  have closed := Statement.closesComment_print legible
  have unspoken := Statement.openSpeech?_print legible
  have read := Statement.statement?_print legible number
  have trimmed := (Statement.isPhrase_print legible).trimmed
  obtain ⟨c, rest, same, noHeader, noComment⟩ := Statement.start_print legible
  rw [same] at closed unspoken read trimmed ⊢
  have header : Line.character? (c :: rest) = none := by
    simp [Line.character?, Ne.symm noHeader]
  have content : opensComment (c :: rest) = false := by
    simp [opensComment, List.isPrefixOf, Ne.symm noComment]
  rw [scanLine_margin trimmed header clear]
  simp [scanContent, content, closed, scanStatement, unspoken, List.isPrefixOf,
    Ne.symm noComment, read]

def printHeader (name : String) : List Char :=
  ['@', 'c', 'h', 'a', 'r', ' '] ++ name.toList

def printTrait (key value : String) : List Char :=
  [' ', ' ', ' ', ' '] ++ key.toList ++ [':', ' ', '"'] ++ value.toList ++ ['"']

theorem isPhrase_printHeader {name : String} (named : IsName name.toList) :
    IsPhrase (printHeader name) :=
  .append (by decide) (by decide) named.phrase

theorem scanLine_printHeader {name : String} (named : IsName name.toList) {mode : Mode}
    (clear : mode.IsClear) (number : Nat) :
    scanLine (printHeader name) number mode =
      { token := some (.character name number), mode := .block name } := by
  have trimmed := (isPhrase_printHeader named).trimmed
  have read : Line.character? (printHeader name) = some name.toList := by
    have blank : isBlank ' ' = true := by decide
    simp [Line.character?, printHeader, blank, Line.target?_space named]
  cases mode with
  | normal | block => simp [scanLine, scanOutside, trimmed, read, cut]
  | comment | dialogue => exact clear.elim

theorem trim_printTrait {key value : String} (named : IsName key.toList)
    (oneLine : '\n' ∉ value.toList) :
    trim (printTrait key value) = key.toList ++ ':' :: ' ' :: '"' :: (value.toList ++ ['"']) := by
  obtain ⟨c, rest, same, solid⟩ := named.phrase.start
  have keyLine := named.phrase.oneLine
  rw [same, List.mem_cons, not_or] at keyLine
  have phrase : IsPhrase (c :: (rest ++ [':', ' ']) ++ '"' :: (value.toList ++ ['"'])) := by
    refine .append solid ?_ (isPhrase_quotes oneLine)
    simp [keyLine.2]
  have trimmed := phrase.trimmed
  simp only [List.cons_append, List.append_assoc, List.nil_append] at trimmed
  simp [printTrait, same, trim_space, trimmed]

theorem trait?_quotes {key value : List Char} (named : IsName key) (oneLine : '\n' ∉ value) :
    Line.trait? (key ++ ':' :: ' ' :: '"' :: (value ++ ['"'])) =
      some (key, '"' :: (value ++ ['"'])) := by
  have other : isWord ':' = false := by decide
  have phrase := isPhrase_quotes oneLine
  rw [Line.trait?, named.takeWhile_append other, named.dropWhile_append other]
  obtain ⟨c, rest, rfl, _⟩ := named.start
  simp [remainder?_space phrase, phrase.trimmed]

theorem scanLine_printTrait {key value : String} (named : IsName key.toList)
    (oneLine : '\n' ∉ value.toList) (character : String) (number : Nat) :
    scanLine (printTrait key value) number (.block character) =
      { token := some (.trait character key (String.ofList ('"' :: (value.toList ++ ['"']))) number)
        mode := .block character } := by
  have read := trait?_quotes named oneLine
  have trimmed := trim_printTrait named oneLine
  have indented : isIndented (printTrait key value) = true := rfl
  have noHeader : Line.character? (trim (printTrait key value)) = none := by
    obtain ⟨c, rest, same, other⟩ := named.start
    rw [trimmed, same]
    simp [Line.character?, Ne.symm (other '@' (by decide))]
  rw [trimmed] at noHeader
  simp [scanLine, scanOutside, trimmed, noHeader, indented, scanIndented, read]

end Scan

namespace TokenStream

theorem ofLines_cons {raw : List Char} {number : Nat} {mode next : Mode} {token : Token}
    (scanned : scanLine raw number mode = { token := some token, mode := next })
    (rest : List (List Char)) :
    ofLines number mode (raw :: rest) =
      ⟨token :: (ofLines (number + 1) next rest).tokens,
        (ofLines (number + 1) next rest).complaints⟩ := by
  simp [ofLines, scanned]

theorem ofLines_statements {statements : List Statement}
    (legible : ∀ statement ∈ statements, statement.Legible) {mode : Mode} (clear : mode.IsClear)
    (number : Nat) :
    ofLines number mode (statements.map Statement.print ++ [[]]) =
      ⟨Statement.numbered number statements, []⟩ := by
  induction statements generalizing number mode with
  | nil =>
      simp only [List.map_nil, List.nil_append, ofLines, Scan.scanLine_nil clear]
      rfl
  | cons statement rest ih =>
      obtain ⟨first, later⟩ := List.forall_mem_cons.mp legible
      have after := @ih later .normal trivial (number + 1)
      rw [List.map_cons, List.cons_append, ofLines_cons (Scan.scanLine_print first clear number),
        after]
      rfl

end TokenStream

end StoryScript
