import StoryScript.Host
import StoryScript.Log
import StoryScript.Presentation

/-!
What the log says of the loading and playing of stories.
-/

namespace StoryScript

/-- The entry about a complaint. What cuts a story short is an error. -/
def Diagnostic.entry (diagnostic : Diagnostic) : LogEntry :=
  let level := match diagnostic.kind with
    | .missingLabel => Level.error
    | .stepLimit => Level.error
    | _ => Level.warn
  ⟨level, .diagnostics, diagnostic.text⟩

def Script.entries (script : Script) : List LogEntry :=
  script.complaints.map Diagnostic.entry ++ script.redefined.map fun label =>
    ⟨.warn, .story, s!"Label '{label}' defined twice, keeping the last one"⟩

namespace World

def resetEntry : LogEntry :=
  ⟨.info, .world, "Runtime reset"⟩

end World

namespace Playthrough

def startEntry (play : Playthrough) : LogEntry :=
  ⟨.info, .playthrough, s!"Story started at label: {play.world.startLabel}"⟩

def selectEntry (target : String) : LogEntry :=
  ⟨.info, .playthrough, s!"Choice selected: {target}"⟩

def stopEntry : LogEntry :=
  ⟨.info, .playthrough, "Story stopped"⟩

def refuseEntry (index : Nat) : LogEntry :=
  ⟨.warn, .playthrough, s!"No pending choice option at index {index}"⟩

def reached? (play : Playthrough) : Option Node :=
  match play.bodies with
  | frame :: _ => frame.body[frame.next]?
  | [] => (play.story.labels.get? play.world.position.label).bind (·[play.world.position.index]?)

def tickComplaints (play : Playthrough) : List Diagnostic :=
  match play.reached? with
  | some (.assignment expression _) => World.assignmentComplaints expression
  | some (.guarded condition _ _) => (play.world.judge condition).complaints
  | _ => []

/-- The entries of up to `count` nodes, after those already made, the last of which comes first. -/
def runEntries (count : Nat) (made : List LogEntry) (play : Playthrough) : List LogEntry :=
  match count with
  | 0 =>
      let complaint := Complaint.silent play.silentBound play.world.position.label
      (complaint.diagnostic.entry :: made).reverse
  | count + 1 =>
      match play.tick with
      | .shows _ _ => made.reverse
      | .goesOn after =>
          runEntries count ((play.tickComplaints.map Diagnostic.entry).reverse ++ made) after
      | .runsOut label _ => (⟨.info, .playthrough, s!"End of label: {label}"⟩ :: made).reverse
      | .isLost label _ => ((Complaint.noLabel label).diagnostic.entry :: made).reverse

def stepEntries (play : Playthrough) : List LogEntry :=
  match play.phase with
  | .notStarted => [Complaint.notStarted.diagnostic.entry]
  | .finished => []
  | .running => runEntries play.silentBound [] play

end Playthrough

namespace Trace

def nodeEntries (node : Node) : List LogEntry :=
  let entry (message : String) : LogEntry := ⟨.info, .trace, message⟩
  match node with
  | .dialogue speaker text _ => [entry s!"[{speaker}] \"{text}\""]
  | .command verb arguments _ => [entry s!"[CMD] {verb} {arguments}"]
  | .menu choices _ =>
      entry "[CHOICE]" :: (choices.zipIdx 1).map fun (choice, number) =>
        entry s!"  {number}. {choice.text} -> {choice.target}"
  | _ => []

def stoppedEntry (count : Nat) : LogEntry :=
  ⟨.warn, .trace, s!"Trace stopped after {count} nodes"⟩

def followEntries : Node → List LogEntry
  | .menu (first :: _) _ => [Playthrough.selectEntry first.target]
  | .menu [] _ => [Playthrough.stopEntry]
  | _ => []

/-- The entries of up to `count + 1` nodes after `shown` ones. `made` holds those before, the last
of which comes first. -/
def runEntries (count shown : Nat) (made : List LogEntry) (play : Playthrough) : List LogEntry :=
  let made := play.stepEntries.reverse ++ made
  match play.step with
  | (none, _) => made.reverse
  | (some node, after) =>
      let made := (nodeEntries node).reverse ++ made
      match count with
      | 0 => (Playthrough.stopEntry :: stoppedEntry (shown + 1) :: made).reverse
      | count + 1 =>
          let made := followEntries node ++ made
          match follow? node after with
          | none => made.reverse
          | some next => runEntries count (shown + 1) made next

def entries (bound : Nat) (play : Playthrough) : List LogEntry :=
  let count := (ofPlaythrough bound play).1.length
  [⟨.info, .trace, "=== INTERPRETER START ==="⟩, play.startEntry] ++
    runEntries (bound - 1) 0 [] play.start ++
    [⟨.info, .trace, s!"=== INTERPRETER END ({count} nodes) ==="⟩]

end Trace

namespace Host

def entry (message : String) : LogEntry :=
  ⟨.info, .host, message⟩

def installEntries (story : Story) : List LogEntry :=
  [entry s!"Story ready: {story.labels.size} labels, {story.cast.size} characters",
    World.resetEntry]

def fileEntries (path : String) (content : Except Fault String) : List LogEntry :=
  match content with
  | .ok source =>
      let script := Script.ofText source
      entry s!"Loaded script file: {Text.quote path}" ::
        script.entries ++ installEntries script.story
  | .error _ => []

def projectEntries (root : String) (found : List FileTree.Found) : List LogEntry :=
  let (project, error) := Project.read root {} found
  let loaded := match error with
    | some _ => []
    | none =>
        entry (s!"Project loaded. Files: {project.scripts.length}, " ++
          s!"Labels: {project.story.labels.size}") :: installEntries project.story
  entry s!"Scanning script project at: {Text.quote root}" ::
    (project.scripts.flatMap fun (_, script) => script.entries) ++ loaded

def traceEntries (host : Host) : List LogEntry :=
  match host.story with
  | none => [⟨.warn, .host, "run() called with no script loaded"⟩]
  | some story =>
      Trace.entries host.settings.maxTraceNodes (Playthrough.new story host.world host.settings)

end Host

end StoryScript
