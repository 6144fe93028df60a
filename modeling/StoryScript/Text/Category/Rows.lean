/-!
Rows of code points, of which many alternate with others.
-/

namespace StoryScript.Text

/-- Rows of code points: the first and the last one, and the distance from one to the next. -/
abbrev CodeRows := List (Nat × Nat × Nat)

def inRow (code first last step : Nat) : Bool :=
  first ≤ code && code ≤ last && (code - first) % step == 0

def CodeRows.contains (rows : CodeRows) (c : Char) : Bool :=
  rows.any fun (first, last, step) => inRow c.toNat first last step

end StoryScript.Text
