/-!
What can be wrong with a pattern, and how it is told: the pattern is shown with carets below the
place in question.
-/

namespace StoryScript.Pattern

inductive Flaw
  | setEscape
  | rangeOrder
  | rangeEnd
  | setUnclosed
  | countTooGreat
  | countMissing
  | countOrder
  | countUnclosed
  | nothingToRepeat
  | hexMissing
  | hexNoCharacter
  | hexDigit
  | escapeUnfinished
  | escapeUnknown
  | flagsEndNegated
  | flagTwice
  | flagsTwiceNegated
  | flagsUnfinished
  | flagUnknown
  | nameTwice
  | nameEmpty
  | nameCharacter
  | nameUnclosed
  | groupUnclosed
  | groupUnopened
  | tooDeep
  | wordEdgeUnclosed
  | wordEdgeUnknown
  | wordEdgeUnfinished
  | propertyLetter
  | propertyUnknown
  | propertyValueUnknown
  | backreference
  | lookAround
  /-- A part for all characters where only those of ASCII are meant. -/
  | noUnicode
  /-- A part that could match a piece of an encoded character. -/
  | noText
  deriving DecidableEq, Repr

/-- How many groups, sets, repetitions and rows of parts stand in one another at most. -/
def greatestDepth : Nat := 250

def Flaw.text : Flaw → String
  | setEscape => "invalid escape sequence found in character class"
  | rangeOrder => "invalid character class range, the start must be <= the end"
  | rangeEnd => "invalid range boundary, must be a literal"
  | setUnclosed => "unclosed character class"
  | countTooGreat => "decimal literal invalid"
  | countMissing => "repetition quantifier expects a valid decimal"
  | countOrder => "invalid repetition count range, the start must be <= the end"
  | countUnclosed => "unclosed counted repetition"
  | nothingToRepeat => "repetition operator missing expression"
  | hexMissing => "hexadecimal literal empty"
  | hexNoCharacter => "hexadecimal literal is not a Unicode scalar value"
  | hexDigit => "invalid hexadecimal digit"
  | escapeUnfinished => "incomplete escape sequence, reached end of pattern prematurely"
  | escapeUnknown => "unrecognized escape sequence"
  | flagsEndNegated => "dangling flag negation operator"
  | flagTwice => "duplicate flag"
  | flagsTwiceNegated => "flag negation operator repeated"
  | flagsUnfinished => "expected flag but got end of regex"
  | flagUnknown => "unrecognized flag"
  | nameTwice => "duplicate capture group name"
  | nameEmpty => "empty capture group name"
  | nameCharacter => "invalid capture group character"
  | nameUnclosed => "unclosed capture group name"
  | groupUnclosed => "unclosed group"
  | groupUnopened => "unopened group"
  | tooDeep => s!"exceed the maximum number of nested parentheses/brackets ({greatestDepth})"
  | wordEdgeUnclosed =>
      "special word boundary assertion is either unclosed or contains an invalid character"
  | wordEdgeUnknown =>
      "unrecognized special word boundary assertion, valid choices are: " ++
        "start, end, start-half or end-half"
  | wordEdgeUnfinished =>
      "found either the beginning of a special word boundary or a bounded repetition on a \\b " ++
        "with an opening brace, but no closing brace"
  | propertyLetter => "invalid Unicode character class"
  | propertyUnknown => "Unicode property not found"
  | propertyValueUnknown => "Unicode property value not found"
  | backreference => "backreferences are not supported"
  | lookAround => "look-around, including look-ahead and look-behind, is not supported"
  | noUnicode => "Unicode not allowed here"
  | noText => "pattern can match invalid UTF-8"

structure Span where
  start : Nat
  stop : Nat
  deriving DecidableEq, Repr

inductive Refusal
  /-- A flaw at a place, and where what it collides with stands. -/
  | flawed (flaw : Flaw) (span : Span) (earlier : Option Span)
  | tooLarge
  deriving DecidableEq, Repr

def greatestSize : Nat := 10485760

def position (pattern : List Char) (place : Nat) : Nat × Nat :=
  let before := pattern.take place
  (before.count '\n' + 1, (before.reverse.takeWhile (· != '\n')).length + 1)

/-- The lines of a pattern. No line follows the last line feed. -/
def shownLines (pattern : List Char) : List (List Char) :=
  let lines := pattern.splitOn '\n'
  let ended := lines.dropLast.map fun line =>
    if line.getLast? = some '\r' then line.dropLast else line
  match lines.getLast? with
  | some (c :: rest) => ended ++ [c :: rest]
  | _ => ended

def carets (written : Nat) : List (Nat × Nat) → List Char
  | [] => []
  | (first, last) :: rest =>
      let blanks := first - 1 - written
      let count := max 1 (last - first)
      List.replicate blanks ' ' ++ List.replicate count '^' ++
        carets (written + blanks + count) rest

def noted (pattern : List Char) (spans : List Span) : String :=
  let count := pattern.count '\n' + 1
  let width := if count ≤ 1 then 0 else (toString count).length
  let line (number : Nat) (content : List Char) : String :=
    let shown := toString number
    let margin :=
      if width = 0 then "    "
      else String.ofList (List.replicate (width - shown.length) ' ') ++ shown ++ ": "
    let columns := spans.filterMap fun span =>
      let (first, column) := position pattern span.start
      let (last, stop) := position pattern span.stop
      if first = number && last = number then some (column, stop) else none
    let below :=
      if columns.isEmpty then ""
      else String.ofList (List.replicate margin.length ' ' ++ carets 0 columns) ++ "\n"
    margin ++ String.ofList content ++ "\n" ++ below
  String.join ((shownLines pattern).zipIdx.map fun (content, index) => line (index + 1) content)

def farNotes (pattern : List Char) (spans : List Span) : String :=
  String.join (spans.map fun span =>
    let (first, column) := position pattern span.start
    let (last, stop) := position pattern span.stop
    if first = last then ""
    else s!"on line {first} (column {column}) through line {last} (column {stop - 1})\n")

def Refusal.message (pattern : String) : Refusal → String
  | tooLarge => s!"Compiled regex exceeds size limit of {greatestSize} bytes."
  | flawed flaw span earlier =>
      let text := pattern.toList
      let spans := earlier.toList ++ [span]
      let rule := String.ofList (List.replicate 79 '~') ++ "\n"
      let shown :=
        if text.contains '\n' then
          rule ++ noted text spans ++ rule ++ farNotes text spans
        else noted text spans
      s!"regex parse error:\n{shown}error: {flaw.text}"

end StoryScript.Pattern
