import StoryScript.Text.Category

/-!
Word characters: letters, marks, decimal digits, connectors and the two join controls, the
characters that names of characters, labels and variables are made of.
-/

namespace StoryScript.Text

def isJoinControl (c : Char) : Bool :=
  c.toNat == 0x200c || c.toNat == 0x200d

/-- ASCII letters, digits and the underscore, and beyond ASCII what is alphabetic, a mark, a decimal
digit, a connector or a join control. -/
def isWord (c : Char) : Bool :=
  if c.toNat < 128 then c.isAlphanum || c == '_'
  else
    isAlphabetic c || Category.marks.any (·.contains c) || isDecimal c ||
      Category.connector.contains c || isJoinControl c

def isReference (c : Char) : Bool :=
  isWord c || c == '.'

end StoryScript.Text
