import StoryScript.Pattern.Bracket
import StoryScript.Text.Word

/-!
Patterns read from text: branches of parts, groups of them, and repetitions.
-/

namespace StoryScript.Pattern

def flagLetters : List (Char × Flag) :=
  [('i', .anyCase), ('m', .lines), ('s', .dotAll), ('U', .few), ('u', .unicode),
    ('R', .anyLineEnd), ('x', .spaced)]

structure FlagReading where
  seen : List (Char × Span) := []
  changes : FlagChanges := []

def flagChanges (fuel : Nat) (read : FlagReading) (here : Cursor) :
    Except Refusal (FlagReading × Cursor) :=
  match fuel, here.rest with
  | fuel + 1, c :: _ =>
      if c = ':' || c = ')' then
        match read.seen.head? with
        | some ('-', span) => refuse .flagsEndNegated span
        | _ => .ok (read, here)
      else if c = '-' then
        match read.seen.lookup '-' with
        | some span => .error (.flawed .flagsTwiceNegated here.span (some span))
        | none => flagChanges fuel { read with seen := ('-', here.span) :: read.seen } here.next
      else
        match flagLetters.lookup c, read.seen.lookup c with
        | none, _ => refuse .flagUnknown here.span
        | some _, some span => .error (.flawed .flagTwice here.span (some span))
        | some flag, none =>
            let isOn := (read.seen.lookup '-').isNone
            flagChanges fuel
              ⟨(c, here.span) :: read.seen, read.changes ++ [(flag, isOn)]⟩ here.next
  | _, _ => refuse .flagsUnfinished here.gap

def isNameChar (isFirst : Bool) (c : Char) : Bool :=
  c == '_' ||
    if isFirst then Text.isAlphabetic c
    else c == '.' || c == '[' || c == ']' || Text.isAlphabetic c || Text.isNumeric c

def groupName (here : Cursor) : Except Refusal Cursor :=
  let name := here.rest.takeWhile (· != '>')
  let rest := here.skip name.length
  let span := here.spanTo rest
  let wrong? := name.zipIdx.find? fun (c, index) => !isNameChar (index == 0) c
  match wrong?, rest.rest with
  | some (_, index), _ => refuse .nameCharacter (here.skip index).span
  | none, [] => refuse .nameUnclosed rest.gap
  | none, _ =>
      if name.isEmpty then refuse .nameEmpty here.gap
      else
        match here.names.lookup name with
        | some earlier => .error (.flawed .nameTwice span (some earlier))
        | none => .ok { rest.next with names := here.names ++ [(name, span)] }

inductive Opening
  | flags (changes : FlagChanges)
  | group (changes : FlagChanges)

def lookAroundMarks : List (List Char) :=
  [['?', '='], ['?', '!'], ['?', '<', '='], ['?', '<', '!']]

def nameMarks : List (List Char) :=
  [['?', 'P', '<'], ['?', '<']]

def opening (start : Cursor) : Except Refusal (Opening × Cursor) := do
  let here := start.step
  let marked (marks : List (List Char)) : Option Nat :=
    (marks.find? fun mark => mark.isPrefixOf here.rest).map List.length
  match marked lookAroundMarks, marked nameMarks, here.rest with
  | some count, _, _ => refuse .lookAround (start.spanTo (here.skip count))
  | none, some count, _ => return (.group [], ← groupName (here.skip count))
  | none, none, ['?'] => refuse .groupUnclosed start.span
  | none, none, '?' :: flags =>
      let (read, rest) ← flagChanges (flags.length + 1) {} here.next
      if rest.rest.head? = some ':' then return (.group read.changes, rest.next)
      else if read.seen.isEmpty then refuse .nothingToRepeat here.gap
      else return (.flags read.changes, rest.next)
  | none, none, _ => return (.group [], here)

structure Branches where
  start : Nat
  earlier : List Form := []
  here : Nat
  parts : List Form := []

namespace Branches

def begin (here : Cursor) : Branches :=
  { start := here.place, here := here.place }

def add (branches : Branches) (part : Form) : Branches :=
  { branches with parts := part :: branches.parts }

def last (branches : Branches) (place : Nat) : Form :=
  match branches.parts with
  | [] => .empty ⟨branches.here, place⟩
  | [part] => part
  | parts => .sequence ⟨branches.here, place⟩ parts.reverse

def cut (branches : Branches) (bar : Cursor) : Branches :=
  { branches with
    earlier := branches.last bar.place :: branches.earlier
    here := bar.next.place
    parts := [] }

def form (branches : Branches) (stop : Cursor) : Form :=
  match branches.earlier with
  | [] => branches.last stop.place
  | earlier =>
      .choice ⟨branches.start, stop.place⟩ (branches.last stop.place :: earlier).reverse

def popLast (branches : Branches) (here : Cursor) : Except Refusal (Form × Branches) :=
  match branches.parts with
  | [] => refuse .nothingToRepeat here.gap
  | .flags _ _ :: _ => refuse .nothingToRepeat here.gap
  | part :: parts => .ok (part, { branches with parts })

def repeatLast (branches : Branches) (part : Form) (least : Nat) (most : Option Nat)
    (stop : Cursor) : Branches :=
  branches.add (.repeated ⟨part.span.start, stop.place⟩ least most part)

end Branches

def dropQuestion (here : Cursor) : Cursor :=
  if here.rest.head? = some '?' then here.next else here

/-- A count of repetitions between blanks, and what follows it. A missing one is an error that other
ones come before. -/
def countOfRepetitions (here : Cursor) : Except Refusal Nat × Cursor :=
  let start := here.skip (here.rest.takeWhile Text.isBlank).length
  let (digits, stop) := start.collect Char.isDigit
  let (_, rest) := stop.collect Text.isBlank
  let value := Number.ofDigits digits
  let count :=
    if digits.isEmpty then refuse .countMissing (start.spanTo stop)
    else if value < 0x100000000 then .ok value
    else refuse .countTooGreat (start.spanTo stop)
  (count, rest)

def bounds (start : Cursor) : Except Refusal (Nat × Option Nat × Cursor) := do
  let first := start.step
  let (least, here) := countOfRepetitions first
  let unclosed (here : Cursor) : Except Refusal (Nat × Option Nat × Cursor) :=
    refuse .countUnclosed (start.spanTo here)
  match here.rest with
  | [] => unclosed here
  | ',' :: _ =>
      let second := here.step
      match second.rest with
      | [] => unclosed second
      | '\x7d' :: _ => return (← least, none, second)
      | _ =>
          let least ← least
          let (most, here) := countOfRepetitions second
          let most ← most
          if here.rest.head? = some '\x7d' then return (least, some most, here) else unclosed here
  | c :: _ =>
      let count ← least
      if c = '\x7d' then return (count, some count, here) else unclosed here

def counted (branches : Branches) (start : Cursor) : Except Refusal (Branches × Cursor) := do
  let (part, branches) ← branches.popLast start
  let (least, most, here) ← bounds start
  let stop := dropQuestion here.step
  if most.any (· < least) then refuse .countOrder (start.spanTo stop)
  else return (branches.repeatLast part least most stop, stop)

def repetitionSigns : List (Char × Nat × Option Nat) :=
  [('?', 0, some 1), ('*', 0, none), ('+', 1, none)]

def simplePart (here : Cursor) : Except Refusal (Form × Cursor) :=
  match here.rest with
  | '\\' :: _ => escape here
  | '.' :: _ => .ok (.dot here.span, here.next)
  | '^' :: _ => .ok (.edge here.span .lineStart, here.next)
  | '$' :: _ => .ok (.edge here.span .lineEnd, here.next)
  | c :: _ => .ok (.letter ⟨here.span, c, false⟩, here.next)
  | [] => .ok (.empty here.gap, here)

def spacedAfter (changes : FlagChanges) (spaced : Bool) : Bool :=
  (changes.lookup .spaced).getD spaced

/-- Branches up to the end of the text or the parenthesis that closes their group. `fuel` exceeds
the count of characters. -/
def branches (fuel : Nat) (read : Branches) (here : Cursor) : Except Refusal (Form × Cursor) :=
  match fuel with
  | 0 => .ok (read.form here, here)
  | fuel + 1 =>
      let here := here.skipSpace
      match here.rest with
      | [] => .ok (read.form here, here)
      | ')' :: _ => .ok (read.form here, here)
      | '|' :: _ => branches fuel (read.cut here) here.next
      | '(' :: _ => do
          match ← opening here with
          | (.flags changes, rest) =>
              branches fuel (read.add (.flags (here.spanTo rest) changes))
                { rest with spaced := spacedAfter changes rest.spaced }
          | (.group changes, rest) =>
              let start := { rest with spaced := spacedAfter changes rest.spaced }
              let (body, stop) ← branches fuel (.begin start) start
              if stop.rest.isEmpty then refuse .groupUnclosed here.span
              else
                let rest := { stop.next with spaced := here.spaced }
                branches fuel (read.add (.group (here.spanTo rest) changes body)) rest
      | '[' :: _ => do
          let (set, rest) ← bracketed fuel here
          branches fuel (read.add (.oneOf set)) rest
      | '\x7b' :: _ => do
          let (read, rest) ← counted read here
          branches fuel read rest
      | c :: _ =>
          match repetitionSigns.lookup c with
          | some (least, most) => do
              let (part, read) ← read.popLast here
              let stop := dropQuestion here.next
              branches fuel (read.repeatLast part least most stop) stop
          | none => do
              let (part, rest) ← simplePart here
              branches fuel (read.add part) rest

def formOf? (text : List Char) : Except Refusal Form := do
  let start : Cursor := { rest := text }
  let (form, rest) ← branches (text.length + 1) (.begin start) start
  if !rest.rest.isEmpty then refuse .groupUnopened rest.span
  else
    match form.tooDeep? greatestDepth with
    | some span => refuse .tooDeep span
    | none => return form

end StoryScript.Pattern
