import StoryScript.Pattern.CharSet
import StoryScript.Pattern.Cursor
import StoryScript.Text.WritingSystem

/-!
Properties of characters by their names: general categories, writing systems and a few others.
-/

namespace StoryScript.Pattern

open Text.Category

def categoryNames : List (List String × List Text.Category) :=
  [(["l", "letter"], letters),
    (["lc", "casedletter"], [uppercase, lowercase, titlecase]),
    (["lu", "uppercaseletter"], [uppercase]),
    (["ll", "lowercaseletter"], [lowercase]),
    (["lt", "titlecaseletter"], [titlecase]),
    (["lm", "modifierletter"], [modifierLetter]),
    (["lo", "otherletter"], [otherLetter]),
    (["m", "mark", "combiningmark"], marks),
    (["mn", "nonspacingmark"], [nonspacingMark]),
    (["mc", "spacingmark"], [spacingMark]),
    (["me", "enclosingmark"], [enclosingMark]),
    (["n", "number"], numbers),
    (["nd", "decimalnumber", "digit"], [decimal]),
    (["nl", "letternumber"], [letterNumber]),
    (["no", "othernumber"], [otherNumber]),
    (["p", "punctuation", "punct"], punctuation),
    (["pc", "connectorpunctuation"], [connector]),
    (["pd", "dashpunctuation"], [dash]),
    (["ps", "openpunctuation"], [openingPunctuation]),
    (["pe", "closepunctuation"], [closingPunctuation]),
    (["pi", "initialpunctuation"], [initialQuote]),
    (["pf", "finalpunctuation"], [finalQuote]),
    (["po", "otherpunctuation"], [otherPunctuation]),
    (["s", "symbol"], symbols),
    (["sm", "mathsymbol"], [mathSymbol]),
    (["sc", "currencysymbol"], [currencySymbol]),
    (["sk", "modifiersymbol"], [modifierSymbol]),
    (["so", "othersymbol"], [otherSymbol]),
    (["z", "separator"], separators),
    (["zs", "spaceseparator"], [space]),
    (["zl", "lineseparator"], [lineSeparator]),
    (["zp", "paragraphseparator"], [paragraphSeparator]),
    (["cc", "control", "cntrl"], [control]),
    (["cf", "format"], [format]),
    (["co", "privateuse"], [privateUse])]

def assigned : CharSet :=
  .categories all

/-- The set that a general category is the name of. The category of unassigned code points, and that
which it is part of, are what others leave. -/
def categoryOf? (name : String) : Option CharSet :=
  match name with
  | "any" => some CharSet.empty.complement
  | "ascii" => some (.range '\x00' '\x7f')
  | "assigned" => some assigned
  | "cn" | "unassigned" => some assigned.complement
  | "c" | "other" => some (assigned.difference (.categories unseen)).complement
  | name =>
      (categoryNames.find? fun (names, _) => names.contains name).map fun (_, found) =>
        .categories found

def writingSystemOf? (name : String) : Option CharSet :=
  (Text.writingSystems.find? fun (names, _) => names.contains name).map fun (_, ranges) =>
    .kind (fun c => ranges.any fun (first, last) => first ≤ c.toNat && c.toNat ≤ last) ranges.length

def propertyOf? (name : String) : Option CharSet :=
  match name with
  | "alpha" | "alphabetic" => some (.kind Text.isAlphabetic 760)
  | "lower" | "lowercase" => some (.kind Text.isLowercase 677)
  | "upper" | "uppercase" => some (.kind Text.isUppercase 656)
  | "wspace" | "whitespace" | "space" => some .blank
  | "joinc" | "joincontrol" => some (.kind Text.isJoinControl 1)
  | _ => none

/-- A name in lower case without blanks, hyphens, underscores and a leading `is`. -/
def plainName (name : List Char) : String :=
  let start := match name.map Char.toLower with
    | 'i' :: 's' :: _ => name.drop 2
    | _ => name
  let kept := start.filter fun c => c.toNat < 128 && c != ' ' && c != '-' && c != '_'
  if start.length < name.length && kept.map Char.toLower = ['c'] then "isc"
  else String.ofList (kept.map Char.toLower)

/-- The set that a property's name stands for. Surrogates are a category without characters. -/
def namedProperty (span : Span) (name : List Char) : Except Refusal CharSet :=
  match plainName name with
  | "cs" | "surrogate" => refuse .propertyValueUnknown span
  | name =>
      match ((propertyOf? name).or (categoryOf? name)).or (writingSystemOf? name) with
      | some set => .ok set
      | none => refuse .propertyUnknown span

def valuedProperty (span : Span) (name value : List Char) : Except Refusal CharSet :=
  let valued (found : Option CharSet) : Except Refusal CharSet :=
    match found with
    | some set => .ok set
    | none => refuse .propertyValueUnknown span
  match plainName name with
  | "gc" | "generalcategory" => valued (categoryOf? (plainName value))
  | "sc" | "script" | "scx" | "scriptextensions" => valued (writingSystemOf? (plainName value))
  | name => if (propertyOf? name).isSome then valued none else refuse .propertyUnknown span

end StoryScript.Pattern
