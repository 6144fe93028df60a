import StoryScript.Project
import StoryScript.Trace

/-!
A host holds a loaded story and a world of its own in which the story can be traced, and opens
playthroughs of the story. What cannot be loaded leaves a host as it is.
-/

namespace StoryScript

structure Host where
  settings : PlaySettings := {}
  story : Option Story := none
  world : World
  /-- What was complained about when the story was loaded. -/
  diagnostics : Diagnostics := ∅

namespace Host

def new (settings : PlaySettings := {}) : Host :=
  { settings, world := World.startingAt settings.startLabel }

/-- Takes a story in place of the one before, and rewinds the world. -/
def install (host : Host) (story : Story) (diagnostics : Diagnostics) : Host :=
  { host with story := some story, diagnostics, world := host.world.reset }

def load (host : Host) (source : String) : Host :=
  let script := Script.ofText source
  host.install script.story script.diagnostics

/-- The outcome of a load, and the host after it. -/
def loadFile (host : Host) (path : String) (content : Except Fault String) :
    Except LoadError Unit × Host :=
  match content with
  | .ok source => (.ok (), host.load source)
  | .error fault => (.error (.unreadable path fault), host)

def loadProject (host : Host) (root : String) (found : List FileTree.Found) :
    Except LoadError Unit × Host :=
  match Project.read root {} found with
  | (_, some error) => (.error error, host)
  | (project, none) => (.ok (), host.install project.story project.diagnostics)

/-- For those who have no use for a host that nothing was loaded into. -/
instance : Coe (Except LoadError Unit × Host) (Except LoadError Host) where
  coe load := load.1.map fun () => load.2

def trace (host : Host) : List Node × Host :=
  match host.story with
  | none => ([], host)
  | some story =>
      let play := Playthrough.new story host.world host.settings
      let (nodes, after) := Trace.ofPlaythrough host.settings.maxTraceNodes play
      (nodes, { host with world := after.world })

/-- A playthrough of the story in a world of its own. -/
def playthrough? (host : Host) : Option Playthrough :=
  host.story.map fun story =>
    Playthrough.new story (World.startingAt host.settings.startLabel) host.settings

def reset (host : Host) : Host :=
  { host with world := host.world.reset }

end Host

end StoryScript
