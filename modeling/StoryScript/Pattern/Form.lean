import StoryScript.Pattern.Flaw

/-!
What a pattern is written as: the forms of its parts, each with its place in the text.
-/

namespace StoryScript.Pattern

structure Letter where
  span : Span
  char : Char
  isByte : Bool
  deriving DecidableEq, Repr

inductive ShortSet
  | digit
  | blank
  | word
  deriving DecidableEq, Repr

inductive SetOperation
  | intersection
  | difference
  | symmetricDifference
  deriving DecidableEq, Repr

inductive SetForm
  | empty (span : Span)
  | letter (letter : Letter)
  | range (span : Span) (first last : Letter)
  | named (span : Span) (negated : Bool) (ranges : List (Char × Char))
  | short (span : Span) (negated : Bool) (set : ShortSet)
  | property (span : Span) (negated : Bool) (name : List Char) (value : Option (List Char))
  | bracketed (span : Span) (negated : Bool) (set : SetForm)
  | union (span : Span) (items : List SetForm)
  | combined (span : Span) (operation : SetOperation) (left right : SetForm)
  deriving Repr

def SetForm.span : SetForm → Span
  | empty span => span
  | letter written => written.span
  | range span _ _ => span
  | named span _ _ => span
  | short span _ _ => span
  | property span _ _ _ => span
  | bracketed span _ _ => span
  | union span _ => span
  | combined span _ _ _ => span

inductive WordEdge
  | boundary
  | noBoundary
  | begins
  | ends
  | noneBefore
  | noneAfter
  deriving DecidableEq, Repr

inductive EdgeForm
  | lineStart
  | lineEnd
  | textStart
  | textEnd
  | word (edge : WordEdge)
  deriving DecidableEq, Repr

inductive Flag
  | anyCase
  | lines
  | dotAll
  /-- That repetitions prefer few, which decides only what of a text is found. -/
  | few
  | unicode
  | anyLineEnd
  | spaced
  deriving DecidableEq, Repr

abbrev FlagChanges := List (Flag × Bool)

inductive Form
  | empty (span : Span)
  | flags (span : Span) (changes : FlagChanges)
  | letter (letter : Letter)
  | dot (span : Span)
  | edge (span : Span) (edge : EdgeForm)
  | oneOf (set : SetForm)
  | repeated (span : Span) (least : Nat) (most : Option Nat) (body : Form)
  | group (span : Span) (changes : FlagChanges) (body : Form)
  | choice (span : Span) (branches : List Form)
  | sequence (span : Span) (parts : List Form)
  deriving Repr

def Form.span : Form → Span
  | empty span => span
  | flags span _ => span
  | letter written => written.span
  | dot span => span
  | edge span _ => span
  | oneOf set => set.span
  | repeated span _ _ _ => span
  | group span _ _ => span
  | choice span _ => span
  | sequence span _ => span

mutual

def SetForm.tooDeep? (depth : Nat) : SetForm → Option Span
  | bracketed span _ inner =>
      match depth with
      | 0 => some span
      | depth + 1 => inner.tooDeep? depth
  | union span items =>
      match depth with
      | 0 => some span
      | depth + 1 => tooDeepOf? depth items
  | combined span _ left right =>
      match depth with
      | 0 => some span
      | depth + 1 => left.tooDeep? depth <|> right.tooDeep? depth
  | _ => none

def SetForm.tooDeepOf? (depth : Nat) : List SetForm → Option Span
  | [] => none
  | item :: rest => item.tooDeep? depth <|> tooDeepOf? depth rest

end

mutual

def Form.tooDeep? (depth : Nat) : Form → Option Span
  | oneOf set => set.tooDeep? depth
  | repeated span _ _ body =>
      match depth with
      | 0 => some span
      | depth + 1 => body.tooDeep? depth
  | group span _ body =>
      match depth with
      | 0 => some span
      | depth + 1 => body.tooDeep? depth
  | choice span branches =>
      match depth with
      | 0 => some span
      | depth + 1 => tooDeepOf? depth branches
  | sequence span parts =>
      match depth with
      | 0 => some span
      | depth + 1 => tooDeepOf? depth parts
  | _ => none

def Form.tooDeepOf? (depth : Nat) : List Form → Option Span
  | [] => none
  | form :: rest => form.tooDeep? depth <|> tooDeepOf? depth rest

end

end StoryScript.Pattern
