import StoryScript.World
import StoryScript.Text.Quoted

/-!
The dump of a story's state: the place where it stands and its variables, as indented JSON.
-/

namespace StoryScript

def Value.dump : Value → String
  | .truth value => if value then "true" else "false"
  | .number value => String.ofList (Number.dump value)
  | .text value => Text.quoteJson value

namespace World

def members (indent : String) (fields : List (String × String)) : String :=
  String.intercalate ",\n" (fields.map fun (name, value) =>
    indent ++ Text.quoteJson name ++ ": " ++ value)

def object (indent : String) (fields : List (String × String)) : String :=
  match fields with
  | [] => "\x7b\x7d"
  | fields => "\x7b\n" ++ members (indent ++ "  ") fields ++ "\n" ++ indent ++ "\x7d"

def dump (world : World) : String :=
  object ""
    [("label", Text.quoteJson world.position.label),
     ("node_index", toString world.position.index),
     ("variables", object "  " (world.globals.map Value.dump).entries)]

end World

end StoryScript
