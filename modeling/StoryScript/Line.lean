import StoryScript.Text.Word
import StoryScript.Text.Split
import StoryScript.Token

/-!
The forms of a line. A line is read as the first form it has, in the order of `statement?`; what a
form leaves open is read from the outside in, so that marks inside a content belong to the content.
-/

namespace StoryScript.Line

open Text

def target? (text : List Char) : Option (List Char) :=
  let name := trimStart text
  if name.isEmpty || !name.all isWord then none else some name

def speech? (line : List Char) : Option (List Char × List Char) :=
  match line.takeWhile isWord, line.dropWhile isWord with
  | [], _ => none
  | speaker, rest =>
      if rest.head?.any isBlank then
        match trimStart rest with
        | '"' :: text => some (speaker, text)
        | _ => none
      else none

def closedSpeech? (line : List Char) : Option (List Char × List Char) := do
  let (speaker, rest) ← speech? line
  let text ← dropLast? '"' rest
  if text.isEmpty || text.contains '\n' then none else some (speaker, text)

def openSpeech? (line : List Char) : Option (List Char × List Char) := do
  if line.getLast? = some '"' then none
  else
    let (speaker, text) ← speech? line
    if text.contains '\n' then none else some (speaker, text)

def character? (line : List Char) : Option (List Char) := do
  let rest ← "@char".toList.isPrefixOf? line
  if rest.head?.any isBlank then target? rest else none

def trait? (line : List Char) : Option (List Char × List Char) :=
  match line.takeWhile isWord, line.dropWhile isWord with
  | [], _ => none
  | key, ':' :: rest => (remainder? rest).map fun value => (key, trim value)
  | _, _ => none

def label? (line : List Char) : Option (List Char) := do
  let rest ← ['=', '='].isPrefixOf? line
  let name ← ['=', '='].isSuffixOf? rest
  padded? name

def jump? (line : List Char) : Option (List Char) := do
  target? (← ['-', '>'].isPrefixOf? line)

/-- A bracketed condition and the text after it. The bracket closes as early as leaves a text;
`condition` is what has been read of the condition, last character first. -/
def lock? (condition : List Char) : List Char → Option (List Char × List Char)
  | [] => none
  | c :: rest =>
      if c = '\n' then none
      else if c = ']' && !condition.isEmpty then
        match padded? rest with
        | some text => some (condition.reverse, text)
        | none => lock? (c :: condition) rest
      else lock? (c :: condition) rest

/-- A star, and a name after the last arrow; the text between them as well. -/
def option? (line : List Char) : Option (List Char × List Char) :=
  match line with
  | '*' :: rest => do
      let (before, after) ← splitAtLastArrow? rest
      return (before, ← target? after)
  | _ => none

def lockedChoice? (line : List Char) : Option (List Char × List Char × List Char) := do
  let (before, target) ← option? line
  match trimStart before with
  | '[' :: rest => do
      let (condition, text) ← lock? [] rest
      return (condition, text, target)
  | _ => none

def choice? (line : List Char) : Option (List Char × List Char) := do
  let (before, target) ← option? line
  return (← padded? before, target)

def verbs : List String :=
  ["scene", "show", "hide", "play", "stop", "pause", "wait", "clear", "shake", "flash"]

/-- One of the `verbs` and what follows it. No verb is the beginning of another one. -/
def command? (line : List Char) : Option (String × List Char) :=
  verbs.findSome? fun verb => do
    let arguments := trimStart (← verb.toList.isPrefixOf? line)
    if arguments.contains '\n' then none else some (verb, arguments)

def assignment? (line : List Char) : Option (List Char) :=
  match line with
  | '~' :: rest => remainder? rest
  | _ => none

def condition? (line : List Char) : Option (List Char) :=
  match line with
  | '{' :: rest => dropLast? '}' rest >>= padded?
  | _ => none

def statement? (line : List Char) (number : Nat) : Option Token :=
  (label? line).map (fun name => .label (.ofList name) number)
    <|> (closedSpeech? line).map (fun (speaker, text) =>
      .dialogue (.ofList speaker) (.ofList text) number)
    <|> (jump? line).map (fun target => .jump (.ofList target) number)
    <|> (lockedChoice? line).map (fun (condition, text, target) =>
      .choice (.ofList text) (.ofList target) (some (.ofList condition)) number)
    <|> (choice? line).map (fun (text, target) =>
      .choice (.ofList text) (.ofList target) none number)
    <|> (command? line).map (fun (verb, arguments) => .command verb (.ofList arguments) number)
    <|> (assignment? line).map (fun expression => .assignment (.ofList expression) number)
    <|> (condition? line).map (fun condition => .condition (.ofList condition) number)

end StoryScript.Line
