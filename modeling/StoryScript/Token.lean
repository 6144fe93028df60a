/-!
Tokens: what a line of a script is read as.
-/

namespace StoryScript

inductive TokenKind
  | label
  | dialogue
  | jump
  | choice
  | command
  | assignment
  | condition
  | character
  | trait
  | endOfText
  deriving DecidableEq, Repr

def TokenKind.name : TokenKind → String
  | label => "Label"
  | dialogue => "Dialogue"
  | jump => "Jump"
  | choice => "Choice"
  | command => "Command"
  | assignment => "Variable"
  | condition => "Condition"
  | character => "CharDef"
  | trait => "CharAttr"
  | endOfText => "Eof"

inductive Payload
  | dialogue (speaker text : String)
  | choice (text target : String) (condition : Option String)
  | command (verb arguments : String)
  | assignment (expression : String)
  | condition (condition : String)
  | trait (character value : String)
  deriving DecidableEq, Repr

structure Token where
  kind : TokenKind
  value : String
  line : Nat
  payload : Option Payload := none
  deriving DecidableEq, Repr

namespace Token

def label (name : String) (line : Nat) : Token :=
  { kind := .label, value := name, line }

def dialogue (speaker text : String) (line : Nat) : Token :=
  { kind := .dialogue, value := text, line, payload := some (.dialogue speaker text) }

def jump (target : String) (line : Nat) : Token :=
  { kind := .jump, value := target, line }

def choice (text target : String) (condition : Option String) (line : Nat) : Token :=
  { kind := .choice, value := text, line, payload := some (.choice text target condition) }

def command (verb arguments : String) (line : Nat) : Token :=
  { kind := .command, value := verb, line, payload := some (.command verb arguments) }

def assignment (expression : String) (line : Nat) : Token :=
  { kind := .assignment, value := expression, line, payload := some (.assignment expression) }

def condition (text : String) (line : Nat) : Token :=
  { kind := .condition, value := text, line, payload := some (.condition text) }

def character (name : String) (line : Nat) : Token :=
  { kind := .character, value := name, line }

def trait (character key value : String) (line : Nat) : Token :=
  { kind := .trait, value := key, line, payload := some (.trait character value) }

def endOfText (line : Nat) : Token :=
  { kind := .endOfText, value := "", line }

end Token

end StoryScript
