import StoryScript.Number.Reading
import StoryScript.Number.Writing

/-!
Values of story variables, and how values of different kinds meet: a text counts as the number it
is, and a truth value as one or zero.
-/

namespace StoryScript

inductive Value
  | truth (value : Bool)
  | number (value : Float)
  | text (value : String)

namespace Value

instance : Inhabited Value := ⟨truth false⟩

def notANumber : Float := 0 / 0

/-- Zero, a number that is none and the empty text are not truthy. -/
def isTruthy : Value → Bool
  | truth value => value
  | number value => value != 0 && !value.isNaN
  | text value => !value.isEmpty

def toNumber : Value → Float
  | truth value => if value then 1 else 0
  | number value => value
  | text value => (Number.read? value.toList).getD notANumber

def text? : Value → Option String
  | text value => some value
  | _ => none

def display : Value → String
  | truth value => if value then "true" else "false"
  | number value => String.ofList (Number.display value)
  | text value => value

def add : Value → Value → Value
  | text left, right => text (left ++ right.display)
  | left, text right => text (left.display ++ right)
  | left, right => number (left.toNumber + right.toNumber)

def sub (left right : Value) : Value :=
  number (left.toNumber - right.toNumber)

def mul (left right : Value) : Value :=
  number (left.toNumber * right.toNumber)

def div (left right : Value) : Value :=
  number (left.toNumber / right.toNumber)

/-- Values of one kind are compared as they are, others as numbers. -/
def looselyEqual : Value → Value → Bool
  | text left, text right => left == right
  | truth left, truth right => left == right
  | left, right => left.toNumber == right.toNumber

def compareNumbers (left right : Float) : Option Ordering :=
  if left < right then some .lt
  else if left == right then some .eq
  else if right < left then some .gt
  else none

/-- Two texts are ordered by code point, all else as numbers. -/
def looseOrder : Value → Value → Option Ordering
  | text left, text right => some (compare left right)
  | left, right => compareNumbers left.toNumber right.toNumber

end Value

end StoryScript
