/-!
Log entries, how they are written, and which of them are wanted.
-/

namespace StoryScript

inductive Level
  | off
  | error
  | warn
  | info
  | debug
  | trace
  deriving DecidableEq, Repr

namespace Level

def rank : Level → Nat
  | off => 0
  | error => 1
  | warn => 2
  | info => 3
  | debug => 4
  | trace => 5

def all : List Level :=
  [off, error, warn, info, debug, trace]

def name : Level → String
  | off => "OFF"
  | error => "ERROR"
  | warn => "WARN"
  | info => "INFO"
  | debug => "DEBUG"
  | trace => "TRACE"

def ofName? (text : String) : Option Level :=
  all.find? fun level => level.name == text.toUpper

end Level

inductive LogSource
  | console
  | terminal
  | host
  | world
  | playthrough
  | trace
  | presentation
  | settings
  | diagnostics
  | story
  deriving DecidableEq, Repr

def LogSource.name : LogSource → String
  | console => "inky_player"
  | terminal => "inky_player::terminal"
  | host => "inky_core::engine"
  | world => "inky_core::runtime"
  | playthrough => "inky_core::executor"
  | trace => "inky_core::interpreter"
  | presentation => "inky_core::renderer::driver"
  | settings => "inky_shared::config"
  | diagnostics => "inkyscript_core::diagnostic"
  | story => "inkyscript_core::parser"

structure LogEntry where
  level : Level
  source : LogSource
  message : String
  deriving DecidableEq, Repr

namespace LogEntry

def text (entry : LogEntry) : String :=
  let level := entry.level.name ++ String.ofList (List.replicate (5 - entry.level.name.length) ' ')
  let message := entry.message.toList.flatMap fun c => if c = '\n' then "\n    ".toList else [c]
  level ++ " " ++ entry.source.name ++ "] " ++ String.ofList message ++ "\n"

def line (time : String) (entry : LogEntry) : String :=
  "[" ++ time ++ " " ++ entry.text

end LogEntry

end StoryScript
