import StoryScript.Number.Reading
import StoryScript.Pattern.Cursor

/-!
Parts of a pattern that begin with a backslash.
-/

namespace StoryScript.Pattern

def isMark (c : Char) : Bool :=
  "\\.+*?()|[]\x7b\x7d^$#&-~".toList.contains c

def isEscapable (c : Char) : Bool :=
  isMark c || (c.toNat < 128 && !c.isAlphanum && c != '<' && c != '>')

def isHexDigit (c : Char) : Bool :=
  (Number.digit? 16 c).isSome

def charOfHex? (digits : List Char) : Option Char :=
  let value := digits.foldl (fun value c => 16 * value + (Number.digit? 16 c).getD 0) 0
  if value < 0xd800 || (0xdfff < value && value < 0x110000) then some (Char.ofNat value) else none

def hexDigits (count : Nat) (here : Cursor) : Except Refusal (List Char × Cursor) :=
  match count with
  | 0 => .ok ([], here)
  | count + 1 =>
      match here.rest with
      | [] => refuse .escapeUnfinished here.gap
      | c :: _ =>
          if isHexDigit c then do
            let (digits, rest) ← hexDigits count here.step
            return (c :: digits, rest)
          else refuse .hexDigit here.span

def numbered (count : Nat) (start : Cursor) (here : Cursor) : Except Refusal (Form × Cursor) :=
  match here.rest with
  | [] => refuse .escapeUnfinished here.gap
  | '\x7b' :: _ =>
      let (digits, rest) := here.step.collect isHexDigit
      match rest.rest with
      | [] => refuse .escapeUnfinished (here.spanTo rest)
      | '\x7d' :: _ =>
          if digits.isEmpty then refuse .hexMissing (here.spanTo rest.step)
          else
            match charOfHex? digits with
            | some c => .ok (.letter ⟨start.spanTo rest.step, c, false⟩, rest.step)
            | none => refuse .hexNoCharacter (here.next.spanTo rest)
      | _ => refuse .hexDigit rest.span
  | _ => do
      let (digits, rest) ← hexDigits count here
      match charOfHex? digits with
      | some c => return (.letter ⟨start.spanTo rest, c, count = 2⟩, rest)
      | none => refuse .hexNoCharacter (here.spanTo rest)

def cutAt? (mark : List Char) : List Char → Option (List Char × List Char)
  | [] => none
  | c :: rest =>
      match mark.isPrefixOf? (c :: rest) with
      | some after => some ([], after)
      | none => (cutAt? mark rest).map fun (before, after) => (c :: before, after)

def propertyOf (span : Span) (negated : Bool) (content : List Char) : Form :=
  match cutAt? ['!', '='] content with
  | some (name, value) => .oneOf (.property span (!negated) name (some value))
  | none =>
      match (cutAt? [':'] content).or (cutAt? ['='] content) with
      | some (name, value) => .oneOf (.property span negated name (some value))
      | none => .oneOf (.property span negated content none)

def property (negated : Bool) (start here : Cursor) : Except Refusal (Form × Cursor) :=
  match here.rest with
  | [] => refuse .escapeUnfinished here.gap
  | '\x7b' :: _ =>
      let (content, rest) := here.step.collect (· != '\x7d')
      if rest.rest.isEmpty then refuse .escapeUnfinished rest.gap
      else .ok (propertyOf (start.spanTo rest.next) negated content, rest.next)
  | '\\' :: _ => refuse .propertyLetter here.span
  | c :: _ => .ok (.oneOf (.property (start.spanTo here.step) negated [c] none), here.step)

def wordEdges : List (String × WordEdge) :=
  [("start", .begins), ("end", .ends), ("start-half", .noneBefore), ("end-half", .noneAfter)]

/-- The edge of a word, which may be named between braces. Braces that begin in another way are a
repetition. -/
def wordEdge (start here : Cursor) : Except Refusal (Form × Cursor) := do
  let plain := (Form.edge (start.spanTo here) (.word .boundary), here)
  if here.rest.head? ≠ some '\x7b' then return plain
  let isNameChar (c : Char) : Bool := c.isAlpha || c == '-'
  let first := here.step
  match first.rest with
  | [] => refuse .wordEdgeUnfinished (start.spanTo first)
  | c :: _ =>
      if !isNameChar c then return plain
      let (name, rest) := first.collect isNameChar
      if rest.rest.head? ≠ some '\x7d' then refuse .wordEdgeUnclosed (here.spanTo rest)
      else
        match wordEdges.lookup (String.ofList name) with
        | some edge => return (.edge (start.spanTo rest.next) (.word edge), rest.next)
        | none => refuse .wordEdgeUnknown (first.spanTo rest)

def controlLetters : List (Char × Char) :=
  [('a', '\x07'), ('f', '\x0c'), ('t', '\t'), ('n', '\n'), ('r', '\r'), ('v', '\x0b')]

def shortSets : List (Char × ShortSet) :=
  [('d', .digit), ('s', .blank), ('w', .word)]

def edgeMarks : List (Char × EdgeForm) :=
  [('A', .textStart), ('z', .textEnd), ('B', .word .noBoundary), ('<', .word .begins),
    ('>', .word .ends)]

def escape (start : Cursor) : Except Refusal (Form × Cursor) :=
  let here := start.next
  let done := here.next
  let span := start.spanTo done
  match here.rest with
  | [] => refuse .escapeUnfinished (start.spanTo here)
  | 'x' :: _ => numbered 2 start here.step
  | 'u' :: _ => numbered 4 start here.step
  | 'U' :: _ => numbered 8 start here.step
  | 'p' :: _ => property false start here.step
  | 'P' :: _ => property true start here.step
  | 'b' :: _ => wordEdge start done
  | c :: _ =>
      if c.isDigit then refuse .backreference span
      else if isEscapable c then .ok (.letter ⟨span, c, false⟩, done)
      else
        match controlLetters.lookup c, shortSets.lookup c.toLower, edgeMarks.lookup c with
        | some control, _, _ => .ok (.letter ⟨span, control, false⟩, done)
        | none, some set, _ => .ok (.oneOf (.short span c.isUpper set), done)
        | none, none, some edge => .ok (.edge span edge, done)
        | none, none, none => refuse .escapeUnknown span

end StoryScript.Pattern
