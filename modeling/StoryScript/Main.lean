import Std.Time.Format
import StoryScript.Console

/-!
The program at a real terminal, on real files.
-/

namespace StoryScript.Main

def fault (error : IO.Error) : Fault :=
  match error with
  | .noFileOrDirectory .. => .notFound
  | .alreadyExists .. => .exists
  | .inappropriateType _ 21 _ => .isDirectory
  | .inappropriateType .. => .notDirectory
  | .invalidArgument _ 36 _ => .nameTooLong
  | error => .other error.toString

def attempt {α : Type} (action : IO α) : IO (Except Fault α) := do
  try return .ok (← action) catch error => return .error (fault error)

def readText (path : String) : IO (Except Fault String) := do
  return (← attempt (IO.FS.readBinFile path)) >>= decodeText

def isDirectory (path : String) : IO Bool := do
  match ← attempt (IO.FS.realPath path) with
  | .ok location => location.isDir
  | .error _ => return false

def append (path text : String) : IO (Except Fault Unit) :=
  attempt do
    let file ← IO.FS.Handle.mk path .append
    file.putStr text

/-- Walks a directory, the entries of each in the order of their names. -/
partial def walk (path : String) : IO (List FileTree.Found) := do
  if ← isDirectory path then
    match ← attempt do (← IO.FS.realPath path).readDir with
    | .error fault => return [.fault path fault]
    | .ok entries =>
        let names := entries.toList.map fun entry => (entry.fileName, ())
        let found ← (Table.ofList names).names.mapM fun name => walk (FileTree.join path [name])
        return found.flatten
  else
    match ← attempt (IO.FS.realPath path) with
    | .error fault => return [.fault path fault]
    | .ok _ => return [.file path (← readText path)]

def files : Files IO where
  hasEntry path := return (← attempt (IO.FS.realPath path)).isOk
  isDirectory := isDirectory
  readText := readText
  write path text := attempt (IO.FS.writeFile path text)
  makeDirectory path := attempt (IO.FS.createDir path)
  append := append
  walk := walk

def now : IO String := do
  let time ← Std.Time.Timestamp.now
  return (Std.Time.DateTime.ofTimestamp time Std.Time.TimeZone.ZoneRules.UTC).toISO8601String

def emit (filter : LogFilter) (logFile : Option String) (output : Output) : IO Unit := do
  let time ← now
  IO.print (Console.toOut filter time output)
  IO.eprint (Console.toErr output)
  let logged := Console.toLog filter time output
  if let some path := logFile then
    if !logged.isEmpty then discard (append path logged)

def readInput (stdin : IO.FS.Stream) : IO Input := do
  match ← attempt stdin.getLine with
  | .ok "" => return .endOfInput
  | .ok line => return .line line
  | .error _ => return .unreadable

/-- How many nodes are shown at a time before the program looks again for what to do. -/
def batch : Nat := 1024

partial def serve (write : Output → IO Unit) (step : Terminal.Status × List Output) :
    IO Unit := do
  let (status, made) := step
  made.forM write
  (← IO.getStdout).flush
  match status with
  | .ended play => (Console.closing play).forM write
  | .pending play => serve write (Terminal.present batch [] play)
  | .waits play node =>
      serve write (Terminal.feed batch play node (← readInput (← IO.getStdin)))

def run (arguments : List String) : IO UInt32 := do
  let launched ← Console.launch files arguments (← IO.getEnv "RUST_LOG")
  let write := emit launched.filter launched.logFile
  launched.made.forM write
  let (plan, loaded) ← launched.load files
  loaded.forM write
  match plan with
  | .fails => return 1
  | .traces host =>
      (Console.traceOutput host).forM write
      return 0
  | .plays play =>
      serve write (Terminal.opening batch play)
      return 0

end StoryScript.Main

def main (arguments : List String) : IO UInt32 :=
  StoryScript.Main.run arguments
