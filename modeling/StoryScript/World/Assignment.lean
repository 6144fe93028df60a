import StoryScript.World.Reference

/-!
Assignments such as `gold = 5` and `gold += 1`.
-/

namespace StoryScript

inductive Operator
  | set
  | add
  | sub
  | mul
  | div
  deriving DecidableEq, Repr

structure Assignment where
  name : String
  operator : Operator
  source : List Char
  deriving DecidableEq, Repr

namespace Assignment

def operator? (text : List Char) : Option (Operator × List Char) :=
  match text with
  | '+' :: '=' :: rest => some (.add, rest)
  | '-' :: '=' :: rest => some (.sub, rest)
  | '*' :: '=' :: rest => some (.mul, rest)
  | '/' :: '=' :: rest => some (.div, rest)
  | '=' :: rest => some (.set, rest)
  | _ => none

def ofText? (text : List Char) : Option Assignment := do
  let name := text.takeWhile Text.isWord
  let (operator, rest) ← operator? (Text.trimStart (text.dropWhile Text.isWord))
  let source ← Text.remainder? rest
  if name.isEmpty then none else some ⟨String.ofList name, operator, source⟩

end Assignment

namespace Operator

def apply (operator : Operator) (current source : Value) : Value :=
  match operator with
  | set => source
  | add => current.add source
  | sub => current.sub source
  | mul => current.mul source
  | div => current.div source

end Operator

namespace World

/-- The value that an assignment starts from: zero where there is none that is truthy. -/
def current (world : World) (name : String) : Value :=
  ((world.globals.get? name).filter Value.isTruthy).getD (.number 0)

def assignmentComplaints (text : String) : List Diagnostic :=
  let text := Text.trim text.toList
  match Assignment.ofText? text with
  | some _ => []
  | none => [(Complaint.noAssignment (String.ofList text)).diagnostic]

def assign (world : World) (text : String) : World :=
  match Assignment.ofText? (Text.trim text.toList) with
  | some assignment =>
      world.set assignment.name
        (assignment.operator.apply (world.current assignment.name)
          (world.valueOf assignment.source))
  | none => world.record (assignmentComplaints text)

end World

end StoryScript
