import StoryScript.Files.Tree
import StoryScript.Script
import StoryScript.Text.Quoted

/-!
Projects: all scripts in and below a directory, told as one story. A label has its place in one
script; a character is as the last script has it.
-/

namespace StoryScript

def scriptExtension : String := "inky"

inductive LoadError
  | unreadable (path : String) (fault : Fault)
  | unsearchable (root path : String) (fault : Fault)
  | noScripts (root : String)
  | labelTwice (label first second : String)
  deriving DecidableEq, Repr

def LoadError.message : LoadError → String
  | unreadable path fault => s!"Failed to read script: {Text.quote path}: {fault.message}"
  | unsearchable root path fault =>
      s!"Failed to scan {Text.quote root}: IO error for operation on {path}: " ++
        s!"{fault.message}: {fault.message}"
  | noScripts root => s!"No .{scriptExtension} scripts found under {Text.quote root}"
  | labelTwice label first second =>
      s!"Label collision detected!\n  Label '{label}' is defined in:\n" ++
        s!"    1. {Text.quote first}\n    2. {Text.quote second}"

def fileName (path : String) : List Char :=
  ((path.toList.splitOn '/').filter fun name => !name.isEmpty && name != ['.']).getLast?.getD []

/-- Whether a path is that of a script, with a name before the extension. -/
def isScript (path : String) : Bool :=
  match ('.' :: scriptExtension.toList).isSuffixOf? (fileName path) with
  | some name => !name.isEmpty
  | none => false

structure Project where
  scripts : List (String × Script) := []
  story : Story := ∅
  sources : Table String := ∅
  diagnostics : Diagnostics := ∅

namespace Project

def clash? (project : Project) (path : String) (script : Script) : Option LoadError :=
  script.story.labels.names.findSome? fun label =>
    (project.sources.get? label).map fun first => .labelTwice label first path

def add (project : Project) (path : String) (script : Script) : Project :=
  { scripts := project.scripts ++ [(path, script)]
    story :=
      { labels := project.story.labels.override script.story.labels
        cast := project.story.cast.override script.story.cast }
    sources := project.sources.override (script.story.labels.map fun _ => path)
    diagnostics := project.diagnostics.recordAll script.diagnostics.items }

/-- Reads what a walk has found until something is wrong. A script that clashes is still listed. -/
def read (root : String) (project : Project) :
    List FileTree.Found → Project × Option LoadError
  | [] => (project, if project.scripts.isEmpty then some (.noScripts root) else none)
  | .fault path fault :: _ => (project, some (.unsearchable root path fault))
  | .file path content :: rest =>
      if isScript path then
        match content with
        | .error fault => (project, some (.unreadable path fault))
        | .ok source =>
            let script := Script.ofText source
            match project.clash? path script with
            | some error =>
                ({ project with scripts := project.scripts ++ [(path, script)] }, some error)
            | none => read root (project.add path script) rest
      else read root project rest

end Project

end StoryScript
