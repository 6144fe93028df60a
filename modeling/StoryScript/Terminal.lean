import StoryScript.Journal

/-!
Playing a story at a terminal. A dialogue waits for a line before the story goes on, a menu for a
line with the number of an option, and a command for nothing.
-/

namespace StoryScript

inductive Output
  | out (text : String)
  | err (text : String)
  | log (entry : LogEntry)
  deriving Repr

inductive Input
  | line (text : String)
  | unreadable
  | endOfInput

namespace Terminal

inductive Status
  | waits (play : Playthrough) (node : Node)
  | ended (play : Playthrough)
  /-- As many nodes as were allowed have been shown without a line being wanted. -/
  | pending (play : Playthrough)

def finishedEntry : LogEntry :=
  ⟨.info, .presentation, "Driver finished"⟩

def gaveUpEntry : LogEntry :=
  ⟨.warn, .presentation, "Choice presented without a selection, stopping"⟩

def askAgainEntry (index : Nat) : LogEntry :=
  ⟨.warn, .presentation, s!"Choice index {index} out of range, asking again"⟩

def unreadableEntry : LogEntry :=
  ⟨.error, .terminal, s!"stdin read failed: {Fault.notText.message}"⟩

def prompt (node : Node) : String :=
  match node with
  | .menu .. => "Select> "
  | _ => "> "

def optionOutput (world : World) (number : Nat) (choice : Choice) : List Output :=
  let verdict := world.judgeChoice choice
  let mark := if verdict.holds then "" else " (locked)"
  verdict.complaints.map (fun complaint => .log complaint.entry) ++
    [.out s!"  [{number}] {world.interpolate choice.text}{mark}\n"]

def showing (world : World) (node : Node) : List Output :=
  match node with
  | .dialogue speaker text _ =>
      let name := (world.attribute? speaker "name").getD speaker
      [.out s!"{name}: {world.interpolate text}\n"]
  | .command verb arguments _ => [.out s!"[{verb}] {arguments}\n"]
  | .menu choices _ =>
      (choices.zipIdx 1).flatMap fun (choice, number) => optionOutput world number choice
  | _ => []

def wantsLine : Node → Bool
  | .dialogue .. => true
  | .menu .. => true
  | _ => false

def present (count : Nat) (made : List Output) (play : Playthrough) : Status × List Output :=
  match count with
  | 0 => (.pending play, made.reverse)
  | count + 1 =>
      let made := (play.stepEntries.map Output.log).reverse ++ made
      match play.step with
      | (none, after) => (.ended after, (.log finishedEntry :: made).reverse)
      | (some node, after) =>
          let made := (showing after.world node).reverse ++ made
          let heard := { after with world := after.world.record (after.world.view node).2 }
          if wantsLine node then (.waits heard node, (.out (prompt node) :: made).reverse)
          else present count made heard

/-- The number that a line is, of sixty-four bits. -/
def number? (line : List Char) : Option Nat :=
  let digits := match line with
    | '+' :: rest => rest
    | _ => line
  let value := Number.ofDigits digits
  if !digits.isEmpty && digits.all Char.isDigit && value < UInt64.size then some value else none

def isExit (line : List Char) : Bool :=
  line.map Char.toLower == "exit".toList

/-- What a line says to a node: an answer, or nothing that could be one. -/
def answer? (node : Node) (input : Input) : Option (Option Answer) :=
  match node, input with
  | .menu .., .endOfInput => some none
  | .menu .., .unreadable => some none
  | .menu choices _, .line text =>
      let line := Text.trim text.toList
      if isExit line then some (some .leave)
      else
        match number? line with
        | some number =>
            if 1 ≤ number && number ≤ choices.length then some (some (.choose (number - 1)))
            else none
        | none => none
  | _, .line text => some (some (if isExit (Text.trim text.toList) then .leave else .proceed))
  | _, _ => some (some .leave)

def inputEntries : Input → List LogEntry
  | .unreadable => [unreadableEntry]
  | _ => []

def choiceEntries (node : Node) (after : Playthrough) : List LogEntry :=
  match node with
  | .menu .. => [Playthrough.selectEntry after.world.position.label]
  | _ => []

/-- Takes a line that was wanted. A line that is no answer is asked for again. -/
def feed (count : Nat) (play : Playthrough) (node : Node) (input : Input) :
    Status × List Output :=
  let heard := (inputEntries input).map Output.log
  match answer? node input with
  | none => (.waits play node, heard ++ [.out "invalid\n", .out (prompt node)])
  | some answer =>
      match play.answer node answer with
      | .goesOn after =>
          present count (((choiceEntries node after).map Output.log).reverse ++ heard.reverse) after
      | .asksAgain index after =>
          let refused := [.log (askAgainEntry index), .log (Playthrough.refuseEntry index)]
          present count (refused ++ heard.reverse) after
      | .leaves after =>
          (.ended after, heard ++ [.log Playthrough.stopEntry, .log finishedEntry])
      | .givesUp after =>
          (.ended after,
            heard ++ [.log gaveUpEntry, .log Playthrough.stopEntry, .log finishedEntry])

def opening (count : Nat) (play : Playthrough) : Status × List Output :=
  present count [.log play.startEntry] play.start

/-- Takes lines as they are wanted, and after them the end of input. -/
def feedAll (count : Nat) (status : Status) : List Input → Status × List Output
  | [] =>
      match status with
      | .waits play node => feed count play node .endOfInput
      | _ => (status, [])
  | input :: rest =>
      match status with
      | .waits play node =>
          let (status, made) := feed count play node input
          let (last, later) := feedAll count status rest
          (last, made ++ later)
      | _ => (status, [])

end Terminal

end StoryScript
