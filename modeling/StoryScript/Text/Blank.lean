/-!
White space, and the three ways text is freed of it: at the start, at both ends, and between two
fixed marks.
-/

namespace StoryScript.Text

def isBlank (c : Char) : Bool :=
  (9 ≤ c.toNat && c.toNat ≤ 13) || c.toNat == 0x20 || c.toNat == 0x85 || c.toNat == 0xa0 ||
    c.toNat == 0x1680 || (0x2000 ≤ c.toNat && c.toNat ≤ 0x200a) || c.toNat == 0x2028 ||
    c.toNat == 0x2029 || c.toNat == 0x202f || c.toNat == 0x205f || c.toNat == 0x3000

def trimStart (text : List Char) : List Char :=
  text.dropWhile isBlank

def trimEnd (text : List Char) : List Char :=
  (text.reverse.dropWhile isBlank).reverse

def trim (text : List Char) : List Char :=
  trimEnd (trimStart text)

/-- The content of a one-line field that may be padded with blanks. A field of nothing but blanks
stands for the last of them that is not a line feed; an empty field and one whose content runs over
a line feed are refused. -/
def padded? (field : List Char) : Option (List Char) :=
  match trim field with
  | [] => (field.reverse.find? (· != '\n')).map ([·])
  | content => if content.contains '\n' then none else some content

def remainder? (text : List Char) : Option (List Char) :=
  match trimStart text with
  | [] => none
  | content => if content.contains '\n' then none else some content

end StoryScript.Text
