import StoryScript.Toml.Draft
import StoryScript.Toml.Quoted
import StoryScript.Toml.Scalar

/-!
Documents of TOML: lines that set values or open tables, read from the first to the last.
-/

namespace StoryScript.Toml

def skipBlanks (text : List Char) : List Char :=
  text.dropWhile fun c => c == ' ' || c == '\t'

def skipLines? (inComment : Bool) : List Char → Option (List Char)
  | [] => some []
  | '\r' :: '\n' :: rest => skipLines? false rest
  | c :: rest =>
      if c = '\n' then skipLines? false rest
      else if inComment then if isControl c then none else skipLines? true rest
      else if c = ' ' || c = '\t' then skipLines? false rest
      else if c = '#' then skipLines? true rest
      else some (c :: rest)

def endLine? (text : List Char) : Option (List Char) :=
  match skipBlanks text with
  | [] => some []
  | '\n' :: rest => some rest
  | '\r' :: '\n' :: rest => some rest
  | '#' :: rest => skipLines? true rest
  | _ => none

def isBareKey (c : Char) : Bool :=
  c.isAlphanum || c == '_' || c == '-'

def simpleKey? (text : List Char) : Option (String × List Char) :=
  match text with
  | '"' :: _ => shortQuoted? text
  | '\'' :: _ => shortQuoted? text
  | _ =>
      match text.takeWhile isBareKey with
      | [] => none
      | name => some (String.ofList name, text.dropWhile isBareKey)

/-- How many names a key has at most, and how many values stand in one another. -/
def deepest : Nat := 80

def names? (count : Nat) (text : List Char) : Option (List String × List Char) :=
  match count with
  | 0 => none
  | count + 1 => do
      let (name, rest) ← simpleKey? (skipBlanks text)
      match skipBlanks rest with
      | '.' :: rest =>
          let (names, rest) ← names? count rest
          return (name :: names, rest)
      | rest => return ([name], rest)

def key? (text : List Char) : Option (List String × List Char) :=
  names? deepest text

/-- An unquoted scalar. A date and a time may have one space between them. -/
def unquoted? (text : List Char) : Option (Toml × List Char) :=
  let first := text.takeWhile isScalar
  let rest := text.dropWhile isScalar
  match date? first, rest with
  | some (_, []), ' ' :: time =>
      if time.head?.any Char.isDigit then
        (moment? (first ++ 'T' :: time.takeWhile isScalar)).map fun value =>
          (value, time.dropWhile isScalar)
      else (scalar? first).map fun value => (value, rest)
  | _, _ => (scalar? first).map fun value => (value, rest)

mutual

/-- A value and what follows it. `fuel` exceeds the count of characters, and `depth` says how many
values may still stand in one another. -/
def value? (fuel depth : Nat) (text : List Char) : Option (Toml × List Char) :=
  match fuel, text with
  | 0, _ => none
  | fuel + 1, '[' :: rest =>
      match depth with
      | 0 => none
      | depth + 1 => (items? fuel depth [] rest).map fun (items, rest) => (.array items, rest)
  | fuel + 1, '\x7b' :: rest =>
      match depth with
      | 0 => none
      | depth + 1 =>
          (members? fuel depth [] rest).map fun (entries, rest) =>
            (.table (finishEntries entries), rest)
  | _ + 1, '"' :: _ => (quoted? text).map fun (content, rest) => (.text content, rest)
  | _ + 1, '\'' :: _ => (quoted? text).map fun (content, rest) => (.text content, rest)
  | _ + 1, _ => unquoted? text

def items? (fuel depth : Nat) (items : List Toml) (text : List Char) :
    Option (List Toml × List Char) :=
  match fuel with
  | 0 => none
  | fuel + 1 => do
      match ← skipLines? false text with
      | ']' :: rest => return (items.reverse, rest)
      | start =>
          let (item, rest) ← value? fuel depth start
          match ← skipLines? false rest with
          | ',' :: rest => items? fuel depth (item :: items) rest
          | ']' :: rest => return ((item :: items).reverse, rest)
          | _ => none

def members? (fuel depth : Nat) (entries : Entries) (text : List Char) :
    Option (Entries × List Char) :=
  match fuel with
  | 0 => none
  | fuel + 1 => do
      match ← skipLines? false text with
      | '\x7d' :: rest => return (entries, rest)
      | start =>
          let (key, rest) ← key? start
          let rest ← ['='].isPrefixOf? (← skipLines? false rest)
          let (value, rest) ← value? fuel depth (← skipLines? false rest)
          let entries ← entries.set true (.value value) key
          match ← skipLines? false rest with
          | ',' :: rest => members? fuel depth entries rest
          | '\x7d' :: rest => return (entries, rest)
          | _ => none

end

structure Progress where
  entries : Entries := []
  path : List String := []

namespace Progress

def openAt (progress : Progress) (change : String → Entries → Option Entries)
    (path : List String) : Option Progress := do
  let name ← path.getLast?
  return { entries := ← progress.entries.within path.dropLast (change name), path }

def line? (progress : Progress) (text : List Char) : Option (Progress × List Char) :=
  match text with
  | '[' :: '[' :: rest => do
      let (path, rest) ← key? rest
      let rest ← endLine? (← [']', ']'].isPrefixOf? rest)
      return (← progress.openAt Entries.openElement path, rest)
  | '[' :: rest => do
      let (path, rest) ← key? rest
      let rest ← endLine? (← [']'].isPrefixOf? rest)
      return (← progress.openAt Entries.openTable path, rest)
  | _ => do
      let (key, rest) ← key? text
      let start := skipBlanks (← ['='].isPrefixOf? rest)
      let (value, rest) ← value? (2 * start.length + 2) deepest start
      let entries ← progress.entries.within progress.path (·.set true (.value value) key)
      return ({ progress with entries }, ← endLine? rest)

def lines? (fuel : Nat) (progress : Progress) (text : List Char) : Option Progress :=
  match fuel with
  | 0 => none
  | fuel + 1 => do
      match ← skipLines? false text with
      | [] => return progress
      | start =>
          let (progress, rest) ← progress.line? start
          lines? fuel progress rest

end Progress

/-- A mark of byte order at the beginning is no part of a document. -/
def dropMark (text : List Char) : List Char :=
  match text with
  | '\ufeff' :: rest => rest
  | _ => text

def ofText? (source : String) : Option (List (String × Toml)) :=
  let text := dropMark source.toList
  (Progress.lines? (text.length + 1) {} text).map fun progress => finishEntries progress.entries

end StoryScript.Toml
