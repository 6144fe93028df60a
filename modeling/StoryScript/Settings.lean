import StoryScript.World

/-!
The settings of the player, and their defaults.
-/

namespace StoryScript

structure LogSettings where
  path : String := "logs/"
  level : String := "info"
  deriving DecidableEq, Repr

structure DebugSettings where
  showTokens : Bool := false
  showStory : Bool := false
  deriving DecidableEq, Repr

structure PlaySettings where
  /-- A script, or a directory that is searched for scripts. -/
  scriptPath : String := "game/"
  startLabel : String := defaultStartLabel
  maxSilentSteps : Nat := 10000
  maxTraceNodes : Nat := 10000
  debug : DebugSettings := {}
  deriving DecidableEq, Repr

instance : Inhabited LogSettings := ⟨{}⟩

instance : Inhabited PlaySettings := ⟨{}⟩

end StoryScript
