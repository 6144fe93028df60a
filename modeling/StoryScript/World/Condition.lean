import StoryScript.World.Reference

/-!
Conditions: comparisons, joined by `||` and those by `&&`. They are judged from the left, as far as
their outcome depends on it.
-/

namespace StoryScript

inductive Relation
  | atLeast
  | atMost
  | equal
  | unequal
  | above
  | below
  deriving DecidableEq, Repr

structure Comparison where
  left : List Char
  relation : Relation
  right : List Char
  deriving DecidableEq, Repr

namespace Comparison

/-- The relations as they are written, those of two characters first. -/
def relations : List (List Char × Relation) :=
  [(['>', '='], .atLeast), (['<', '='], .atMost), (['=', '='], .equal), (['!', '='], .unequal),
    (['>'], .above), (['<'], .below)]

def ofText? (text : List Char) : Option Comparison :=
  let left := text.takeWhile Text.isReference
  let rest := Text.trimStart (text.dropWhile Text.isReference)
  if left.isEmpty then none
  else relations.findSome? fun (sign, relation) => do
    let right ← Text.remainder? (← sign.isPrefixOf? rest)
    return ⟨left, relation, right⟩

end Comparison

namespace Relation

def holds (relation : Relation) (left right : Value) : Bool :=
  match relation with
  | equal => left.looselyEqual right
  | unequal => !left.looselyEqual right
  | above => left.looseOrder right == some .gt
  | below => left.looseOrder right == some .lt
  | atLeast => (left.looseOrder right).any (·.isGE)
  | atMost => (left.looseOrder right).any (·.isLE)

/-- What stands for nothing is unequal to everything and has no place in an order. -/
def holdsOf (relation : Relation) (left? : Option Value) (right : Value) : Bool :=
  match left? with
  | some left => relation.holds left right
  | none => relation == unequal

end Relation

structure Verdict where
  holds : Bool
  complaints : List Diagnostic := []

namespace World

def judgeComparison (world : World) (text : List Char) : Verdict :=
  let text := Text.trim text
  match Comparison.ofText? text with
  | some comparison =>
      { holds := comparison.relation.holdsOf (world.resolve? (Reference.ofText comparison.left))
          (world.valueOf comparison.right) }
  | none =>
      { holds := false
        complaints := [(Complaint.noComparison (String.ofList text)).diagnostic] }

def judgeAny (world : World) : List (List Char) → Verdict
  | [] => { holds := false }
  | part :: rest =>
      let first := world.judgeComparison part
      if first.holds then first
      else
        let later := world.judgeAny rest
        { later with complaints := first.complaints ++ later.complaints }

def judgeAll (world : World) : List (List Char) → Verdict
  | [] => { holds := true }
  | part :: rest =>
      let first := world.judgeAny (Text.splitAtPair '|' [] part)
      if first.holds then
        let later := world.judgeAll rest
        { later with complaints := first.complaints ++ later.complaints }
      else first

def judge (world : World) (condition : String) : Verdict :=
  world.judgeAll (Text.splitAtPair '&' [] condition.toList)

/-- Whether an option is to be shown as open. It can be chosen in any case. -/
def judgeChoice (world : World) (choice : Choice) : Verdict :=
  match choice.condition with
  | some condition => world.judge condition
  | none => { holds := true }

end World

end StoryScript
