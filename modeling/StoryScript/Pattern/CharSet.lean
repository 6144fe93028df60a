import StoryScript.Text.Blank
import StoryScript.Text.Folding
import StoryScript.Text.Word

/-!
Sets of characters.
-/

namespace StoryScript.Pattern

structure CharSet where
  contains : Char → Bool
  /-- About how many ranges of code points it is made of. -/
  ranges : Nat
  /-- A code point that is above all of its characters. -/
  bound : Nat

namespace CharSet

def codePoints : Nat := 0x110000

def empty : CharSet :=
  ⟨fun _ => false, 0, 0⟩

def range (first last : Char) : CharSet :=
  ⟨fun c => first ≤ c && c ≤ last, 1, last.toNat + 1⟩

def single (c : Char) : CharSet :=
  range c c

def union (left right : CharSet) : CharSet :=
  ⟨fun c => left.contains c || right.contains c, left.ranges + right.ranges,
    max left.bound right.bound⟩

def intersection (left right : CharSet) : CharSet :=
  ⟨fun c => left.contains c && right.contains c, left.ranges + right.ranges,
    min left.bound right.bound⟩

def complement (set : CharSet) : CharSet :=
  ⟨fun c => !set.contains c, set.ranges + 1, codePoints⟩

def difference (left right : CharSet) : CharSet :=
  left.intersection right.complement

def symmetricDifference (left right : CharSet) : CharSet :=
  (left.union right).difference (left.intersection right)

/-- The characters that differ from one of the set at most in case. Of the letters of ASCII, `k` and
`s` have variants beyond it. -/
def anyCase (set : CharSet) : CharSet :=
  let contains (c : Char) : Bool := (Text.caseVariants c).any set.contains
  ⟨contains, 2 * set.ranges,
    if set.bound ≤ 128 && !contains 'k' && !contains 's' then 128 else codePoints⟩

def anyAsciiCase (set : CharSet) : CharSet :=
  ⟨fun c => set.contains c || set.contains c.toLower || set.contains c.toUpper, 2 * set.ranges,
    max 128 set.bound⟩

def ofRanges (ranges : List (Char × Char)) : CharSet :=
  ranges.foldl (fun set (first, last) => set.union (range first last)) empty

def isAscii (set : CharSet) : Bool :=
  (List.range 128).all fun code => !set.contains (Char.ofNat (code + 128))

def kind (holds : Char → Bool) (ranges : Nat) : CharSet :=
  ⟨holds, ranges, codePoints⟩

def categories (categories : List Text.Category) : CharSet :=
  categories.foldl
    (fun set category => set.union (kind category.contains category.rows.length)) empty

def digit : CharSet :=
  categories [.decimal]

def blank : CharSet :=
  kind Text.isBlank 10

def word : CharSet :=
  kind Text.isWord 796

def size (set : CharSet) : Nat :=
  if set.bound ≤ 128 then 64 + 8 * set.ranges else 600 + 64 * set.ranges

end CharSet

end StoryScript.Pattern
