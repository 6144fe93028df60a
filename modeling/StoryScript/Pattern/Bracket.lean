import StoryScript.Pattern.Escape

/-!
Sets of characters between brackets.
-/

namespace StoryScript.Pattern

def upperRange : Char × Char := ('A', 'Z')
def lowerRange : Char × Char := ('a', 'z')
def digitRange : Char × Char := ('0', '9')

def namedSets : List (String × List (Char × Char)) :=
  [("alnum", [digitRange, upperRange, lowerRange]),
    ("alpha", [upperRange, lowerRange]),
    ("ascii", [('\x00', '\x7f')]),
    ("blank", [('\t', '\t'), (' ', ' ')]),
    ("cntrl", [('\x00', '\x1f'), ('\x7f', '\x7f')]),
    ("digit", [digitRange]),
    ("graph", [('!', '~')]),
    ("lower", [lowerRange]),
    ("print", [(' ', '~')]),
    ("punct", [('!', '/'), (':', '@'), ('[', '\x60'), ('\x7b', '~')]),
    ("space", [('\t', '\r'), (' ', ' ')]),
    ("upper", [upperRange]),
    ("word", [digitRange, upperRange, ('_', '_'), lowerRange]),
    ("xdigit", [digitRange, ('A', 'F'), ('a', 'f')])]

def namedSet? (here : Cursor) : Option (SetForm × Cursor) := do
  let content ← ['[', ':'].isPrefixOf? here.rest
  let negated := content.head? == some '^'
  let content := if negated then content.drop 1 else content
  let name := content.takeWhile (· != ':')
  let ranges ← namedSets.lookup (String.ofList name)
  let rest ← [':', ']'].isPrefixOf? (content.drop name.length)
  let rest := here.skip (here.rest.length - rest.length)
  return (.named (here.spanTo rest) negated ranges, rest)

structure Members where
  left : Option (SetOperation × SetForm) := none
  span : Span
  items : List SetForm := []

namespace Members

def add (members : Members) (item : SetForm) : Members :=
  let start := if members.items.isEmpty then item.span.start else members.span.start
  { members with span := ⟨start, item.span.stop⟩, items := item :: members.items }

def form (members : Members) : SetForm :=
  let right := match members.items with
    | [] => .empty members.span
    | [item] => item
    | items => .union members.span items.reverse
  match members.left with
  | none => right
  | some (operation, left) => .combined ⟨left.span.start, right.span.stop⟩ operation left right

end Members

def setItem (here : Cursor) : Except Refusal (Form × Cursor) :=
  match here.rest with
  | [] => refuse .setUnclosed here.gap
  | '\\' :: _ => escape here
  | c :: _ => .ok (.letter ⟨here.span, c, false⟩, here.next)

def member : Form → Except Refusal SetForm
  | .letter written => .ok (.letter written)
  | .oneOf set => .ok set
  | form => refuse .setEscape form.span

def rangeLetter : Form → Except Refusal Letter
  | .letter written => .ok written
  | form => refuse .rangeEnd form.span

def setRange (opened : Span) (here : Cursor) : Except Refusal (SetForm × Cursor) := do
  let (first, rest) ← setItem here
  let rest := rest.skipSpace
  match rest.rest with
  | [] => refuse .setUnclosed opened
  | c :: _ =>
      if c ≠ '-' || rest.peek? == some ']' || rest.peek? == some '-' then
        return (← member first, rest)
      let dash := rest.step
      if dash.rest.isEmpty then refuse .setUnclosed opened
      else
        let (last, rest) ← setItem dash
        let span : Span := ⟨first.span.start, last.span.stop⟩
        let low ← rangeLetter first
        let high ← rangeLetter last
        if high.char < low.char then refuse .rangeOrder span
        else return (.range span low high, rest)

/-- Hyphens at the beginning of a set stand for themselves. `count` bounds them. -/
def leadingHyphens (count : Nat) (members : Members) (start here : Cursor) :
    Except Refusal (Members × Cursor) :=
  match count, here.rest with
  | count + 1, '-' :: _ =>
      if here.step.rest.isEmpty then refuse .setUnclosed start.gap
      else leadingHyphens count (members.add (.letter ⟨here.span, '-', false⟩)) start here.step
  | _, _ => .ok (members, here)

/-- The beginning of a set: its bracket, a circumflex that negates it, and hyphens or a closing
bracket that stand for themselves. -/
def openSet (start : Cursor) : Except Refusal (Bool × Members × Cursor) := do
  let first := start.step
  let negated := first.rest.head? == some '^'
  let here := if negated then first.step else first
  if here.rest.isEmpty then refuse .setUnclosed (start.spanTo here)
  else
    let (members, here) ← leadingHyphens here.rest.length ⟨none, here.gap, []⟩ start here
    if members.items.isEmpty && here.rest.head? == some ']' then
      if here.step.rest.isEmpty then refuse .setUnclosed (start.spanTo here.step)
      else return (negated, members.add (.letter ⟨here.span, ']', false⟩), here.step)
    else return (negated, members, here)

mutual

/-- A set from its opening bracket to its closing one. `fuel` exceeds the count of characters. -/
def bracketed (fuel : Nat) (start : Cursor) : Except Refusal (SetForm × Cursor) :=
  match fuel with
  | 0 => refuse .setUnclosed start.span
  | fuel + 1 => do
      let (negated, members, here) ← openSet start
      let (form, rest) ← setMembers fuel (start.spanTo here) members here
      return (.bracketed (start.spanTo rest) negated form, rest)

def setMembers (fuel : Nat) (opened : Span) (members : Members) (here : Cursor) :
    Except Refusal (SetForm × Cursor) :=
  match fuel with
  | 0 => refuse .setUnclosed opened
  | fuel + 1 =>
      let here := here.skipSpace
      let combine (operation : SetOperation) :=
        let rest := here.skip 2
        setMembers fuel opened ⟨some (operation, members.form), rest.gap, []⟩ rest
      match here.rest with
      | [] => refuse .setUnclosed opened
      | ']' :: _ => .ok (members.form, here.next)
      | '[' :: _ => do
          let (form, rest) ← match namedSet? here with
            | some read => .ok read
            | none => bracketed fuel here
          setMembers fuel opened (members.add form) rest
      | '&' :: '&' :: _ => combine .intersection
      | '-' :: '-' :: _ => combine .difference
      | '~' :: '~' :: _ => combine .symmetricDifference
      | _ => do
          let (form, rest) ← setRange opened here
          setMembers fuel opened (members.add form) rest

end

end StoryScript.Pattern
