import StoryScript.Number.Reading

/-!
Quoted texts of TOML: on one line or on several, with escapes or without. Each reader takes a text
after its opening quotes and gives the content and what follows the closing ones.
-/

namespace StoryScript.Toml

def isControl (c : Char) : Bool :=
  (c.toNat < 32 && c != '\t') || c.toNat == 127

def scalarValue? (digits : List Char) : Option Char := do
  let value ← digits.foldlM (fun value c => (Number.digit? 16 c).map (16 * value + ·)) 0
  if value < 0xd800 || (0xdfff < value && value < 0x110000) then some (Char.ofNat value) else none

def escapeLetters : List (Char × Char) :=
  [('b', '\x08'), ('t', '\t'), ('n', '\n'), ('f', '\x0c'), ('r', '\r'), ('e', '\x1b'), ('"', '"'),
    ('\\', '\\')]

def escape? (text : List Char) : Option (Char × List Char) :=
  let numbered (count : Nat) (rest : List Char) :=
    if (rest.take count).length = count then
      (scalarValue? (rest.take count)).map fun c => (c, rest.drop count)
    else none
  match text with
  | 'x' :: rest => numbered 2 rest
  | 'u' :: rest => numbered 4 rest
  | 'U' :: rest => numbered 8 rest
  | letter :: rest => (escapeLetters.lookup letter).map fun c => (c, rest)
  | [] => none

def basic? (fuel : Nat) (content : List Char) (text : List Char) :
    Option (List Char × List Char) :=
  match fuel, text with
  | _ + 1, '"' :: rest => some (content.reverse, rest)
  | fuel + 1, '\\' :: rest => do
      let (c, rest) ← escape? rest
      basic? fuel (c :: content) rest
  | fuel + 1, c :: rest => if isControl c then none else basic? fuel (c :: content) rest
  | _, _ => none

def literal? (content : List Char) : List Char → Option (List Char × List Char)
  | [] => none
  | c :: rest =>
      if c = '\'' then some (content.reverse, rest)
      else if isControl c then none
      else literal? (c :: content) rest

/-- Closing quotes in threes. Up to two more before them belong to the text. -/
def closing? (quote : Char) (text : List Char) : Option (List Char × List Char) :=
  let count := (text.takeWhile (· == quote)).length
  if count < 3 then none
  else some (List.replicate (min (count - 3) 2) quote, text.drop (min count 5))

def skipSpace : List Char → List Char
  | '\r' :: '\n' :: rest => skipSpace rest
  | c :: rest => if c = ' ' || c = '\t' || c = '\n' then skipSpace rest else c :: rest
  | [] => []

def endsLine (text : List Char) : Bool :=
  match text.dropWhile fun c => c == ' ' || c == '\t' with
  | '\n' :: _ => true
  | '\r' :: '\n' :: _ => true
  | _ => false

/-- A text with escapes on several lines. A backslash at the end of a line joins it to the next
text. `fuel` exceeds the count of characters. -/
def longBasic? (fuel : Nat) (content : List Char) (text : List Char) :
    Option (List Char × List Char) :=
  match fuel, text with
  | fuel + 1, '\\' :: rest =>
      if endsLine rest then longBasic? fuel content (skipSpace rest)
      else do
        let (c, rest) ← escape? rest
        longBasic? fuel (c :: content) rest
  | fuel + 1, '\r' :: '\n' :: rest => longBasic? fuel ('\n' :: '\r' :: content) rest
  | fuel + 1, c :: rest =>
      match closing? '"' (c :: rest) with
      | some (quotes, rest) => some (content.reverse ++ quotes, rest)
      | none =>
          if isControl c && c != '\n' then none else longBasic? fuel (c :: content) rest
  | _, _ => none

def longLiteral? (fuel : Nat) (content : List Char) (text : List Char) :
    Option (List Char × List Char) :=
  match fuel, text with
  | fuel + 1, '\r' :: '\n' :: rest => longLiteral? fuel ('\n' :: '\r' :: content) rest
  | fuel + 1, c :: rest =>
      match closing? '\'' (c :: rest) with
      | some (quotes, rest) => some (content.reverse ++ quotes, rest)
      | none =>
          if isControl c && c != '\n' then none else longLiteral? fuel (c :: content) rest
  | _, _ => none

/-- A line break right after the opening quotes is not part of the text. -/
def dropBreak (text : List Char) : List Char :=
  match text with
  | '\n' :: rest => rest
  | '\r' :: '\n' :: rest => rest
  | _ => text

def shortQuoted? (text : List Char) : Option (String × List Char) :=
  match text with
  | '"' :: rest => (basic? (rest.length + 1) [] rest).map fun (c, r) => (String.ofList c, r)
  | '\'' :: rest => (literal? [] rest).map fun (c, r) => (String.ofList c, r)
  | _ => none

def quoted? (text : List Char) : Option (String × List Char) :=
  match text with
  | '"' :: '"' :: '"' :: rest =>
      (longBasic? (rest.length + 1) [] (dropBreak rest)).map fun (c, r) => (String.ofList c, r)
  | '\'' :: '\'' :: '\'' :: rest =>
      (longLiteral? (rest.length + 1) [] (dropBreak rest)).map fun (c, r) => (String.ofList c, r)
  | _ => shortQuoted? text

end StoryScript.Toml
