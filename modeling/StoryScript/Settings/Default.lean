import StoryScript.Settings

/-!
The settings file that is written where there is none: every setting with its default.
-/

namespace StoryScript.Settings

def configPath : String := "config.toml"

def quoted (text : String) : String :=
  "\"" ++ text ++ "\""

def line (name value : String) : String :=
  name ++ " = " ++ value ++ "\n"

def defaultText : String :=
  let log : LogSettings := {}
  let play : PlaySettings := {}
  "[system]\n" ++ line "log_path" (quoted log.path) ++ line "log_level" (quoted log.level) ++
    "\n[core]\n" ++ line "script_path" (quoted play.scriptPath) ++
    line "start_label" (quoted play.startLabel) ++
    line "max_silent_steps" (toString play.maxSilentSteps) ++
    line "max_trace_nodes" (toString play.maxTraceNodes) ++
    "\n[core.debug]\n" ++ line "show_tokens" (toString play.debug.showTokens) ++
    line "show_ast" (toString play.debug.showStory)

end StoryScript.Settings
