import StoryScript.World
import StoryScript.Text.Split
import StoryScript.Text.Word

/-!
Names in a script: of a variable, or of an attribute of a character after a dot; what they stand
for; and their places in a text that is shown to the reader.
-/

namespace StoryScript

inductive Reference
  | global (name : String)
  | attributeOf (character key : String)
  deriving DecidableEq, Repr

namespace Reference

/-- Without a dot the name of a variable, else the attribute between the first dot and the next. -/
def ofText (text : List Char) : Reference :=
  match text.dropWhile (· != '.') with
  | [] => global (String.ofList text)
  | _ :: rest =>
      attributeOf (String.ofList (text.takeWhile (· != '.')))
        (String.ofList (rest.takeWhile (· != '.')))

end Reference

namespace World

def resolve? (world : World) : Reference → Option Value
  | .global name => world.globals.get? name
  | .attributeOf character key => (world.attribute? character key).map .text

/-- The value that a text stands for: one in quotes itself without its first and last character,
then truth values and numbers, then what the text refers to, and else the text itself. -/
def valueOf (world : World) (text : List Char) : Value :=
  let text := Text.trim text
  let name := String.ofList text
  let named := (world.globals.get? name).getD (.text name)
  if text.head? = some '"' || text.head? = some '\'' then .text (String.ofList text.tail.dropLast)
  else if text = "true".toList then .truth true
  else if text = "false".toList then .truth false
  else
    match Number.read? text with
    | some number => .number number
    | none =>
        match Reference.ofText text with
        | .global _ => named
        | .attributeOf character key => ((world.attribute? character key).map .text).getD named

end World

namespace Placeholder

def name? (text : List Char) : Option (List Char) :=
  match text with
  | '{' :: rest =>
      let name := rest.takeWhile Text.isReference
      if name.isEmpty || (rest.dropWhile Text.isReference).head? ≠ some '}' then none else some name
  | _ => none

/-- Puts texts in the places of the names in braces for which there is one. `skip` characters belong
to a place that has been filled; `shown` is what has been written, last character first. -/
def fill (lookup : List Char → Option (List Char)) (skip : Nat) (shown : List Char) :
    List Char → List Char
  | [] => shown.reverse
  | c :: rest =>
      match skip with
      | skip + 1 => fill lookup skip shown rest
      | 0 =>
          match (name? (c :: rest)).bind fun name => (lookup name).map fun text => (name, text) with
          | some (name, text) => fill lookup (name.length + 1) (text.reverse ++ shown) rest
          | none => fill lookup 0 (c :: shown) rest

end Placeholder

def World.interpolate (world : World) (text : String) : String :=
  let lookup (name : List Char) :=
    (world.resolve? (Reference.ofText name)).map fun value => value.display.toList
  String.ofList (Placeholder.fill lookup 0 [] text.toList)

end StoryScript
