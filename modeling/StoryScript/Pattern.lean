import StoryScript.Pattern.CharSet
import StoryScript.Pattern.Form

/-!
Patterns: what a text is searched for.
-/

namespace StoryScript

namespace Pattern

/-- A condition on the characters before and after a place. -/
inductive Edge
  | textStart
  | textEnd
  | lineStart
  | lineEnd
  /-- Where lines end in a carriage return, a line feed, or both. -/
  | anyLineStart
  | anyLineEnd
  /-- An edge of words, which are made of all word characters or of those of ASCII. -/
  | word (edge : WordEdge) (ascii : Bool)
  deriving DecidableEq, Repr

inductive Part
  | char (c : Char)
  | oneOf (set : CharSet)
  | edge (edge : Edge)

inductive Arrangement (α : Type)
  | empty
  | single (part : α)
  | sequence (first second : Arrangement α)
  | choice (first second : Arrangement α)
  | repeated (least : Nat) (most : Option Nat) (body : Arrangement α)

namespace Arrangement

def map {α β : Type} (change : α → β) : Arrangement α → Arrangement β
  | empty => empty
  | single part => single (change part)
  | sequence first second => sequence (first.map change) (second.map change)
  | choice first second => choice (first.map change) (second.map change)
  | repeated least most body => repeated least most (body.map change)

end Arrangement

end Pattern

abbrev Pattern := Pattern.Arrangement Pattern.Part

end StoryScript
