import StoryScript.Diagnostic
import StoryScript.Line

/-!
Reading a text as tokens, line by line. What a line is read as depends on nothing but the line and
the mode, which says whether the line stands in a character's block, in a block comment or in a
dialogue that is still open.
-/

namespace StoryScript

open Text

inductive Mode
  | normal
  /-- After the header of a character, where indented lines may be its attributes. -/
  | block (character : String)
  | comment (resume : Mode)
  | dialogue (speaker text : String) (openedOn : Nat)
  deriving DecidableEq, Repr, Inhabited

structure LineScan where
  token : Option Token := none
  mode : Mode
  note : Option Complaint := none

namespace Scan

def opensComment (line : List Char) : Bool :=
  ['/', '*'].isPrefixOf line

def closesComment (line : List Char) : Bool :=
  ['*', '/'].isSuffixOf line

def cut (character : String) : Mode → Option Complaint
  | .dialogue speaker _ openedOn => some (.dialogueCut speaker openedOn character)
  | _ => none

def scanSpeech (line : List Char) (speaker text : String) (openedOn : Nat) : LineScan :=
  match dropLast? '"' line with
  | some last =>
      let whole := String.ofList (trim (text.toList ++ '\n' :: last))
      { token := some (.dialogue speaker whole openedOn), mode := .normal }
  | none => { mode := .dialogue speaker (text ++ String.ofList ('\n' :: line)) openedOn }

def scanStatement (line : List Char) (number : Nat) (mode : Mode) : LineScan :=
  match Line.openSpeech? line with
  | some (speaker, text) =>
      { mode := .dialogue (String.ofList speaker) (String.ofList text) number }
  | none =>
      if line.isEmpty || ['/', '/'].isPrefixOf line then { mode }
      else
        match Line.statement? line number with
        | some token => { token := some token, mode }
        | none => { mode, note := some (.unknownPattern (String.ofList line)) }

/-- A line that is no header and no attribute. Block comments work on whole lines only. -/
def scanContent (line : List Char) (number : Nat) (mode : Mode) : LineScan :=
  if opensComment line then { mode := .comment mode }
  else if closesComment line then { mode }
  else
    match mode with
    | .dialogue speaker text openedOn => scanSpeech line speaker text openedOn
    | _ => scanStatement line number mode

def scanIndented (line : List Char) (number : Nat) (character : String) : LineScan :=
  if line.isEmpty then { mode := .block character }
  else
    match Line.trait? line with
    | some (key, value) =>
        { token := some (.trait character (String.ofList key) (String.ofList value) number)
          mode := .block character }
    | none => scanContent line number (.block character)

def isIndented (raw : List Char) : Bool :=
  raw.head? == some ' ' || raw.head? == some '\t'

/-- A line outside comments. A character header ends whatever is open. -/
def scanOutside (raw : List Char) (number : Nat) (mode : Mode) : LineScan :=
  let line := trim raw
  match Line.character? line with
  | some name =>
      let name := String.ofList name
      { token := some (.character name number), mode := .block name, note := cut name mode }
  | none =>
      match mode with
      | .block character =>
          if isIndented raw then scanIndented line number character
          else scanContent line number .normal
      | _ => scanContent line number mode

end Scan

def scanLine (raw : List Char) (number : Nat) (mode : Mode) : LineScan :=
  match mode with
  | .comment resume =>
      let line := trim raw
      if !Scan.opensComment line && Scan.closesComment line then { mode := resume }
      else { mode }
  | _ => Scan.scanOutside raw number mode

def scanLines (number : Nat) (mode : Mode) : List (List Char) → List LineScan
  | [] => []
  | raw :: rest =>
      let scan := scanLine raw number mode
      scan :: scanLines (number + 1) scan.mode rest

structure TokenStream where
  tokens : List Token
  complaints : List Diagnostic

namespace TokenStream

def openAtEnd : Mode → List Diagnostic
  | .dialogue speaker _ openedOn => [(Complaint.dialogueOpen speaker).diagnostic openedOn]
  | _ => []

def ofLines (number : Nat) (mode : Mode) : List (List Char) → TokenStream
  | [] => ⟨[], openAtEnd mode⟩
  | raw :: rest =>
      let scan := scanLine raw number mode
      let later := ofLines (number + 1) scan.mode rest
      { tokens := scan.token.toList ++ later.tokens
        complaints := (scan.note.map (·.diagnostic number)).toList ++ later.complaints }

/-- The tokens of a text end with one that carries the number of its lines. -/
def ofText (text : String) : TokenStream :=
  let rows := lines text
  let stream := ofLines 1 .normal rows
  { stream with tokens := stream.tokens ++ [.endOfText rows.length] }

end TokenStream

end StoryScript
