import StoryScript.Text.Category.Letter
import StoryScript.Text.Category.Mark
import StoryScript.Text.Category.Number
import StoryScript.Text.Category.Other
import StoryScript.Text.Category.Punctuation
import StoryScript.Text.Category.Symbol

/-!
General categories of characters, and kinds of characters that are made of them.
-/

namespace StoryScript.Text

inductive Category
  | uppercase
  | lowercase
  | titlecase
  | modifierLetter
  | otherLetter
  | nonspacingMark
  | spacingMark
  | enclosingMark
  | decimal
  | letterNumber
  | otherNumber
  | connector
  | dash
  | openingPunctuation
  | closingPunctuation
  | initialQuote
  | finalQuote
  | otherPunctuation
  | mathSymbol
  | currencySymbol
  | modifierSymbol
  | otherSymbol
  | space
  | lineSeparator
  | paragraphSeparator
  | control
  | format
  | privateUse
  deriving DecidableEq, Repr

namespace Category

def rows : Category → CodeRows
  | .uppercase => uppercaseRows
  | .lowercase => lowercaseRows
  | .titlecase => titlecaseRows
  | .modifierLetter => modifierLetterRows
  | .otherLetter => otherLetterRows
  | .nonspacingMark => nonspacingMarkRows
  | .spacingMark => spacingMarkRows
  | .enclosingMark => enclosingMarkRows
  | .decimal => decimalRows
  | .letterNumber => letterNumberRows
  | .otherNumber => otherNumberRows
  | .connector => connectorRows
  | .dash => dashRows
  | .openingPunctuation => openingPunctuationRows
  | .closingPunctuation => closingPunctuationRows
  | .initialQuote => initialQuoteRows
  | .finalQuote => finalQuoteRows
  | .otherPunctuation => otherPunctuationRows
  | .mathSymbol => mathSymbolRows
  | .currencySymbol => currencySymbolRows
  | .modifierSymbol => modifierSymbolRows
  | .otherSymbol => otherSymbolRows
  | .space => spaceRows
  | .lineSeparator => lineSeparatorRows
  | .paragraphSeparator => paragraphSeparatorRows
  | .control => controlRows
  | .format => formatRows
  | .privateUse => privateUseRows

def contains (category : Category) (c : Char) : Bool :=
  category.rows.contains c

def letters : List Category :=
  [uppercase, lowercase, titlecase, modifierLetter, otherLetter]

def marks : List Category :=
  [nonspacingMark, spacingMark, enclosingMark]

def numbers : List Category :=
  [decimal, letterNumber, otherNumber]

def punctuation : List Category :=
  [connector, dash, openingPunctuation, closingPunctuation, initialQuote, finalQuote,
    otherPunctuation]

def symbols : List Category :=
  [mathSymbol, currencySymbol, modifierSymbol, otherSymbol]

def separators : List Category :=
  [space, lineSeparator, paragraphSeparator]

def unseen : List Category :=
  [control, format, privateUse]

def all : List Category :=
  letters ++ marks ++ numbers ++ punctuation ++ symbols ++ separators ++ unseen

end Category

def isDecimal (c : Char) : Bool :=
  Category.decimal.contains c

def isNumeric (c : Char) : Bool :=
  Category.numbers.any (·.contains c)

def isAlphabetic (c : Char) : Bool :=
  (.letterNumber :: Category.letters).any (·.contains c) || otherAlphabeticRows.contains c

/-- Code points that are in lower case without being lowercase letters. -/
def otherLowercaseRows : CodeRows :=
  [(0xaa, 0xaa, 1), (0xba, 0xba, 1), (0x2b0, 0x2b8, 1), (0x2c0, 0x2c1, 1), (0x2e0, 0x2e4, 1),
   (0x345, 0x345, 1), (0x37a, 0x37a, 1), (0x10fc, 0x10fc, 1), (0x1d2c, 0x1d6a, 1),
   (0x1d78, 0x1d78, 1), (0x1d9b, 0x1dbf, 1), (0x2071, 0x2071, 1), (0x207f, 0x207f, 1),
   (0x2090, 0x209c, 1), (0x2170, 0x217f, 1), (0x24d0, 0x24e9, 1), (0x2c7c, 0x2c7d, 1),
   (0xa69c, 0xa69d, 1), (0xa770, 0xa770, 1), (0xa7f2, 0xa7f4, 1), (0xa7f8, 0xa7f9, 1),
   (0xab5c, 0xab5f, 1), (0xab69, 0xab69, 1), (0x10780, 0x10780, 1), (0x10783, 0x10785, 1),
   (0x10787, 0x107b0, 1), (0x107b2, 0x107ba, 1), (0x1e030, 0x1e06d, 1)]

/-- Code points that are in upper case without being uppercase letters. -/
def otherUppercaseRows : CodeRows :=
  [(0x2160, 0x216f, 1), (0x24b6, 0x24cf, 1), (0x1f130, 0x1f149, 1), (0x1f150, 0x1f169, 1),
   (0x1f170, 0x1f189, 1)]

def isLowercase (c : Char) : Bool :=
  Category.lowercase.contains c || otherLowercaseRows.contains c

def isUppercase (c : Char) : Bool :=
  Category.uppercase.contains c || otherUppercaseRows.contains c

end StoryScript.Text
