import StoryScript.Pattern.Form
import StoryScript.Text.Blank

/-!
How far a pattern has been read. Where a flag allows it, blanks and comments between its parts are
passed over.
-/

namespace StoryScript.Pattern

structure Cursor where
  place : Nat := 0
  rest : List Char
  spaced : Bool := false
  names : List (List Char × Span) := []

def refuse {α : Type} (flaw : Flaw) (span : Span) : Except Refusal α :=
  .error (.flawed flaw span none)

namespace Cursor

def next (here : Cursor) : Cursor :=
  match here.rest with
  | [] => here
  | _ :: rest => { here with place := here.place + 1, rest }

def skip (here : Cursor) (count : Nat) : Cursor :=
  { here with place := here.place + min count here.rest.length, rest := here.rest.drop count }

def spaceLength (inComment : Bool) : List Char → Nat
  | [] => 0
  | c :: rest =>
      if inComment then spaceLength (c != '\n') rest + 1
      else if Text.isBlank c then spaceLength false rest + 1
      else if c = '#' then spaceLength true rest + 1
      else 0

def skipSpace (here : Cursor) : Cursor :=
  if here.spaced then here.skip (spaceLength false here.rest) else here

def step (here : Cursor) : Cursor :=
  here.next.skipSpace

def collect (isKind : Char → Bool) (here : Cursor) : List Char × Cursor :=
  go here.rest.length here
where
  go : Nat → Cursor → List Char × Cursor
    | 0, here => ([], here)
    | count + 1, here =>
        match here.rest with
        | [] => ([], here)
        | c :: _ =>
            if isKind c then
              let (found, rest) := go count here.step
              (c :: found, rest)
            else ([], here)

def spanTo (here there : Cursor) : Span :=
  ⟨here.place, there.place⟩

def span (here : Cursor) : Span :=
  ⟨here.place, here.place + 1⟩

def gap (here : Cursor) : Span :=
  ⟨here.place, here.place⟩

/-- What comes after the next character. Of a comment that follows, only its mark is passed over. -/
def peek? (here : Cursor) : Option Char :=
  let later := here.rest.drop 1
  if here.spaced then
    match later.dropWhile Text.isBlank with
    | '#' :: comment => ((comment.dropWhile Text.isBlank).head?).or later.head?
    | c :: _ => some c
    | [] => later.head?
  else later.head?

end Cursor

end StoryScript.Pattern
