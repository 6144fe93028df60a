import StoryScript.Files.Access
import StoryScript.Log.Filter
import StoryScript.Settings.Default
import StoryScript.Settings.Store
import StoryScript.Terminal
import StoryScript.World.Dump

/-!
The command line: settings are read or made, a story is loaded, and then it is traced or played at
the terminal.
-/

namespace StoryScript

namespace Console

structure Options where
  trace : Bool
  /-- The script to load in place of that of the settings. -/
  script : Option String
  deriving DecidableEq, Repr

def isOption (argument : String) : Bool :=
  "--".toList.isPrefixOf argument.toList

def options (arguments : List String) : Options :=
  { trace := arguments.contains "--trace"
    script := arguments.find? fun argument => !isOption argument }

inductive Plan
  | fails
  | traces (host : Host)
  | plays (play : Playthrough)

structure Launch where
  made : List Output
  options : Options
  settings : PlaySettings
  filter : LogFilter
  logFile : Option String

def reported (outcome : Except Fault Unit) (failure : String) (success : List Output := []) :
    List Output :=
  match outcome with
  | .ok () => success
  | .error fault => [.err (failure ++ fault.message ++ "\n")]

section

variable {m : Type → Type} [Monad m]

def ensureSettings (files : Files m) : m (List Output) := do
  if ← files.hasEntry Settings.configPath then return []
  let outcome ← files.write Settings.configPath Settings.defaultText
  return .out s!"Creating default configuration at '{Settings.configPath}'...\n" ::
    reported outcome "Failed to write config file: "
      [.out "Config file created successfully.\n"]

def readSettings (files : Files m) : m (SettingsStore × List Output) := do
  let isThere ← files.hasEntry Settings.configPath
  let content ← files.readText Settings.configPath
  match ({} : SettingsStore).fill (SettingsStore.source isThere content) with
  | .ok store => return (store, [])
  | .error error => return ({}, [.err s!"Config load warning: {error.message}\n"])

def logFileName (directory : String) : String :=
  if directory.isEmpty then "inky.log" else FileTree.join directory ["inky.log"]

def openLog (files : Files m) (settings : LogSettings) (filter : Option String) :
    m (LogFilter × Option String × List Output) := do
  let created ← files.createDirectories settings.path
  let path := logFileName settings.path
  let opened ← files.append path ""
  let (filter, errors) := LogFilter.ofText (filter.getD settings.level)
  let made := reported created "Failed to create log dir: " ++
    errors.map (fun error => .err s!"warning: {error}, ignoring it\n") ++
    reported opened s!"Failed to open log file {Text.quote path}: "
  return (filter, if opened.isOk then some path else none, made)

def entry (level : Level) (message : String) : Output :=
  .log ⟨level, .console, message⟩

def mismatchEntry (name : String) (mismatch : Mismatch) : Output :=
  .log ⟨.warn, .settings,
    s!"Config section '[{name}]' mismatch: {mismatch.text}. Using default."⟩

/-- Reads the settings and opens the log. `filter` is the log filter of the environment. -/
def launch (files : Files m) (arguments : List String) (filter : Option String) : m Launch := do
  let options := options arguments
  let ensured ← ensureSettings files
  let (store, warned) ← readSettings files
  let (filter, logFile, opened) ← openLog files (store.logSettings "system").1 filter
  let (settings, mismatch) := store.playSettings "core"
  let settings := { settings with scriptPath := options.script.getD settings.scriptPath }
  let made := ensured ++ warned ++ opened ++
    [entry .info s!">>> Inky Player Started (trace: {options.trace}) <<<"] ++
    (mismatch.map (mismatchEntry "core")).toList ++
    [entry .info s!"Loading script from: {settings.scriptPath}"]
  return { made, options, settings, filter, logFile }

def loadStory (files : Files m) (host : Host) : m (Except LoadError Host × List LogEntry) := do
  let path := host.settings.scriptPath
  if ← files.isDirectory path then
    let found ← files.walk path
    return (host.loadProject path found, Host.projectEntries path found)
  else
    let content ← files.readText path
    return (host.loadFile path content, Host.fileEntries path content)

def plan (options : Options) (loaded : Except LoadError Host) : Plan × List Output :=
  match loaded with
  | .error error =>
      (.fails,
        [entry .error error.message, .err s!"Failed to load story: {error.message}\n"])
  | .ok host =>
      let count := host.diagnostics.size
      let made :=
        if host.diagnostics.isEmpty then []
        else [entry .warn s!"Story loaded with {count} diagnostics"]
      if options.trace then (.traces host, made)
      else
        match host.playthrough? with
        | some play => (.plays play, made)
        | none => (.fails, made)

/-- Loads the story, which may be in the log file as it is by now. -/
def Launch.load (launch : Launch) (files : Files m) : m (Plan × List Output) := do
  let (loaded, entries) ← loadStory files (Host.new launch.settings)
  let (plan, made) := plan launch.options loaded
  return (plan, entries.map .log ++ made)

end

def printed : Node → String
  | .dialogue speaker text _ => s!"{speaker}: {text}\n"
  | .command verb arguments _ => s!"[{verb}] {arguments}\n"
  | .menu choices _ =>
      String.join (choices.map fun choice => s!"  * {choice.text} -> {choice.target}\n")
  | _ => ""

def traceOutput (host : Host) : List Output :=
  host.traceEntries.map .log ++ host.trace.1.map fun node => .out (printed node)

def closing (play : Playthrough) : List Output :=
  play.diagnostics.items.map (fun diagnostic => .err s!"warning: {diagnostic.text}\n") ++
    [entry .info s!"Final state: {play.world.dump}"]

def perform (count : Nat) (plan : Plan) (inputs : List Input) : List Output × Nat :=
  match plan with
  | .fails => ([], 1)
  | .traces host => (traceOutput host, 0)
  | .plays play =>
      let (status, first) := Terminal.opening count play
      let (last, later) := Terminal.feedAll count status inputs
      let final := match last with
        | .ended play => closing play
        | _ => []
      (first ++ later ++ final, 0)

def inputs (bytes : List UInt8) : List Input :=
  let line (bytes : List UInt8) : Input :=
    match decodeText ⟨bytes.toArray⟩ with
    | .ok text => .line text
    | .error _ => .unreadable
  let rec cut (current : List UInt8) : List UInt8 → List Input
    | [] => if current.isEmpty then [] else [line current.reverse]
    | byte :: rest =>
        if byte = 10 then line (byte :: current).reverse :: cut [] rest
        else cut (byte :: current) rest
  cut [] bytes

def toOut (filter : LogFilter) (time : String) : Output → String
  | .out text => text
  | .log entry => if filter.wants entry then entry.line time else ""
  | .err _ => ""

def toErr : Output → String
  | .err text => text
  | _ => ""

def toLog (filter : LogFilter) (time : String) : Output → String
  | .log entry => if filter.wants entry then entry.line time else ""
  | _ => ""

structure Result where
  exitCode : Nat
  out : String
  err : String
  tree : FileTree

def Launch.record (launch : Launch) (time : String) (made : List Output) :
    StateM FileTree Unit := do
  if let some path := launch.logFile then
    let text := String.join (made.map (toLog launch.filter time))
    discard (FileTree.files.append path text)

/-- Runs the program on a tree of files and a whole input. `count` bounds the nodes that are shown
in a row without a line being wanted. -/
def run (count : Nat) (tree : FileTree) (arguments : List String) (filter : Option String)
    (input : List UInt8) (time : String) : Result :=
  let program : StateM FileTree (LogFilter × List Output × Nat) := do
    let launch ← launch FileTree.files arguments filter
    launch.record time launch.made
    let (plan, loaded) ← launch.load FileTree.files
    let (made, exitCode) := perform count plan (inputs input)
    launch.record time (loaded ++ made)
    return (launch.filter, launch.made ++ loaded ++ made, exitCode)
  let ((filter, made, exitCode), tree) := program.run tree
  { exitCode, tree
    out := String.join (made.map (toOut filter time))
    err := String.join (made.map toErr) }

end Console

end StoryScript
