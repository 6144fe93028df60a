import StoryScript.Text.Blank

/-!
Cutting text apart: into lines, at a doubled character, at its last arrow, and off either end.
-/

namespace StoryScript.Text

/-- The lines of a text, one more than it has line feeds. A carriage return at the end of a line is
not part of it. -/
def lines (text : String) : List (List Char) :=
  (text.toList.splitOn '\n').map fun line =>
    if line.getLast? = some '\r' then line.dropLast else line

/-- Cuts at every doubled `mark`, taking the pairs from the left; `current` is the part read so far,
last character first. -/
def splitAtPair (mark : Char) (current : List Char) : List Char → List (List Char)
  | [] => [current.reverse]
  | [c] => [(c :: current).reverse]
  | c :: d :: rest =>
      if c = mark && d = mark then current.reverse :: splitAtPair mark [] rest
      else splitAtPair mark (c :: current) (d :: rest)

/-- What stands before and after the last `->`. The first argument is the text backwards, the second
what has been passed over. -/
def splitAtArrow (after : List Char) : List Char → Option (List Char × List Char)
  | '>' :: '-' :: before => some (before.reverse, after)
  | c :: before => splitAtArrow (c :: after) before
  | [] => none

def splitAtLastArrow? (text : List Char) : Option (List Char × List Char) :=
  splitAtArrow [] text.reverse

def dropLast? (mark : Char) (text : List Char) : Option (List Char) :=
  if text.getLast? = some mark then some text.dropLast else none

def unquote (text : List Char) : List Char :=
  match text with
  | '"' :: rest => (dropLast? '"' rest).getD text
  | '\'' :: rest => (dropLast? '\'' rest).getD text
  | _ => text

end StoryScript.Text
