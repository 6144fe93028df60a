import StoryScript.Log
import StoryScript.Pattern.Matching
import StoryScript.Pattern.Meaning

/-!
Filters of the log. A filter is written as levels between commas, each for all sources or, after an
equals sign, for those whose name begins in a certain way; a pattern after a slash has to occur in
every message.
-/

namespace StoryScript

structure Directive where
  start : Option String
  level : Level
  deriving DecidableEq, Repr

structure LogFilter where
  directives : List Directive
  content : Option Pattern := none

namespace LogFilter

def cut (mark : Char) (text : String) : List String :=
  (text.toList.splitOn mark).map String.ofList

def trimmed (text : String) : String :=
  String.ofList (Text.trim text.toList)

/-- Reads one directive, or says what is wrong with it. A name alone wants all entries. -/
def directive? (text : String) : Except String Directive :=
  match cut '=' text with
  | [name] =>
      match Level.ofName? name with
      | some level => .ok ⟨none, level⟩
      | none => .ok ⟨some name, .trace⟩
  | [name, level] =>
      let level := trimmed level
      if level.isEmpty then .ok ⟨some name, .trace⟩
      else
        match Level.ofName? level with
        | some level => .ok ⟨some name, level⟩
        | none => .error s!"invalid logging spec '{level}'"
  | _ => .error s!"invalid logging spec '{text}'"

def put (directive : Directive) : List Directive → List Directive
  | [] => [directive]
  | head :: rest =>
      if head.start = directive.start then directive :: rest else head :: put directive rest

def readAll (parts : List String) : List Directive × List String :=
  parts.foldl (fun (found, errors) part =>
    match directive? part with
    | .ok directive => (put directive found, errors)
    | .error message => (found, errors ++ [message])) ([], [])

/-- Reads a filter, and what is wrong in its text. Without directives only errors are wanted. -/
def ofText (text : String) : LogFilter × List String :=
  let withDefault (found : List Directive) :=
    if found.isEmpty then [⟨none, .error⟩] else found
  match cut '/' text with
  | levels :: rest =>
      if rest.length > 1 then
        (⟨withDefault [], none⟩, [s!"invalid logging spec '{text}' (too many '/'s)"])
      else
        let parts := ((cut ',' levels).map trimmed).filter fun part => !part.isEmpty
        let (found, errors) := readAll parts
        match rest.head?.map fun content => (content, Pattern.ofText? content) with
        | none => (⟨withDefault found, none⟩, errors)
        | some (_, .ok content) => (⟨withDefault found, some content⟩, errors)
        | some (content, .error refusal) =>
            (⟨withDefault found, none⟩,
              errors ++ [s!"invalid regex filter - {refusal.message content}"])
  | [] => (⟨withDefault [], none⟩, [])

/-- The directive that counts for a source is the one that says most of its name. -/
def levelFor (filter : LogFilter) (source : LogSource) : Level :=
  let best := filter.directives.foldl (fun best directive =>
    let start := directive.start.getD ""
    let isBetter := match best with
      | none => true
      | some (other : Directive) => (other.start.getD "").length ≤ start.length
    if source.name.startsWith start && isBetter then some directive else best) none
  match best with
  | some directive => directive.level
  | none => .off

def wants (filter : LogFilter) (entry : LogEntry) : Bool :=
  entry.level.rank ≤ (filter.levelFor entry.source).rank &&
    filter.content.all fun content => content.occursIn entry.message

end LogFilter

end StoryScript
