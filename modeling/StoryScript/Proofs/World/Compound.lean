import StoryScript.Proofs.World.Assigning
import StoryScript.Proofs.World.Quotation

/-!
What compound assignments start from. The value of the variable counts when it is truthy; where there
is none, and for an empty text, a falsehood, a zero and a number that is none, zero is taken.
-/

namespace StoryScript

open Text

namespace Value

def start : Option Value → Value
  | some (truth true) => truth true
  | some (text value) => if value = "" then number 0 else text value
  | some (number value) => if value == 0 || value.isNaN then number 0 else number value
  | _ => number 0

theorem add_of_text {left right : Value}
    (isText : left.text?.isSome = true ∨ right.text?.isSome = true) :
    left.add right = text (left.display ++ right.display) := by
  cases left with
  | text _ => rfl
  | truth _ =>
      cases right with
      | text _ => rfl
      | truth _ => simp [text?] at isText
      | number _ => simp [text?] at isText
  | number _ =>
      cases right with
      | text _ => rfl
      | truth _ => simp [text?] at isText
      | number _ => simp [text?] at isText

end Value

namespace World

variable (world : World)

theorem current_eq (name : String) : world.current name = Value.start (world.globals.get? name) := by
  rw [current]
  cases world.globals.get? name with
  | none => rfl
  | some value =>
      cases value with
      | truth value => cases value <;> rfl
      | number value =>
          rw [Option.filter_some, Value.isTruthy, Value.start, bne]
          by_cases zero : (value == 0) = true
          · rw [zero]
            rfl
          · rw [Bool.not_eq_true] at zero
            rw [zero]
            cases value.isNaN with
            | true => rfl
            | false => rfl
      | text value =>
          simp only [Option.filter_some, Value.isTruthy, Value.start]
          by_cases empty : value = "" <;> simp [empty]

theorem get?_assign_of_sides {text : String} {operator : Operator} {name source : List Char}
    (sides : Sides isWord operator.sign name source (trim text.toList)) :
    (world.assign text).globals.get? (String.ofList name) =
      some (operator.apply (Value.start (world.globals.get? (String.ofList name)))
        (world.valueOf source)) := by
  rw [world.assign_of_sides sides, current_eq]
  exact (world.changesOnly_set _ _).changed

theorem get?_assign_quoted {name content : String} (named : IsName name.toList)
    (oneLine : '\n' ∉ content.toList) :
    (world.assign (name ++ " += \"" ++ content ++ "\"")).globals.get? name =
      some (.text ((Value.start (world.globals.get? name)).display ++ content)) := by
  have shape : (name ++ " += \"" ++ content ++ "\"").toList =
      spaced name.toList Operator.add.sign ('"' :: (content.toList ++ ['"'])) := by
    simp [spaced, Operator.sign]
  have sides := Comparison.sides_quoted named Operator.add.sign oneLine
  rw [← shape] at sides
  have stored := world.get?_assign_of_sides sides
  rwa [String.ofList_toList, world.valueOf_quote (isPhrase_quotes oneLine),
    List.dropLast_concat, String.ofList_toList, Operator.apply, Value.add_of_text (.inr rfl)] at stored

/-- A compound assignment stores what its operator makes of the value of the variable, or of zero
where that is absent or not truthy, and of its source. A text in quotes is put after what is shown of
the former. -/
theorem compound_assignment_from_truthy :
    (∀ (text : String) (operator : Operator) (name source : List Char), operator ≠ .set →
      Sides isWord operator.sign name source (trim text.toList) →
      (world.assign text).globals.get? (String.ofList name) =
        some (operator.apply (Value.start (world.globals.get? (String.ofList name)))
          (world.valueOf source))) ∧
      ∀ name before content : String, IsName name.toList →
        world.globals.get? name = some (.text before) → '\n' ∉ content.toList →
        (world.assign (name ++ " += \"" ++ content ++ "\"")).globals.get? name =
          some (.text ((if before = "" then "0" else before) ++ content)) := by
  constructor
  · intro text operator name source _ sides
    exact world.get?_assign_of_sides sides
  · intro name before content named stored oneLine
    have zero : (Value.number 0).display = "0" := by decide +kernel
    rw [world.get?_assign_quoted named oneLine, stored, Value.start]
    by_cases empty : before = ""
    · rw [if_pos empty, if_pos empty, zero]
    · rw [if_neg empty, if_neg empty, Value.display]

theorem note_extended :
    let world := (default : World).set "note" (.text "lost ")
    (world.assign "note += name").globals.get? "note" =
        some (Operator.add.apply (.text "lost ") (world.valueOf "name".toList)) ∧
      (world.assign ("note" ++ " += \"" ++ " \"key\" " ++ "\"")).globals.get? "note" =
        some (.text ("lost " ++ " \"key\" ")) := by
  intro world
  have stored : world.globals.get? "note" = some (.text "lost ") := by
    simp [world, set, Table.get?_insert]
  have extended := compound_assignment_from_truthy world
  refine ⟨?_, extended.2 "note" "lost " " \"key\" " (by decide) stored (by decide)⟩
  have assigned := extended.1 "note += name" .add "note".toList "name".toList (by decide)
    (sides_of_sides? (by decide))
  rwa [String.ofList_toList, stored] at assigned

theorem falsy_value_not_kept :
    let world := (((default : World).set "note" (.text "")).set "met" (.truth false)).set "score"
      (.number Value.notANumber)
    let added (name source : String) : Option String :=
      ((world.assign (name ++ " += " ++ source)).globals.get? name).map Value.display
    (added "note" "\"t\"" = some "0t" ∧ "0t" ≠ "" ++ "t") ∧
      (added "met" "\"t\"" = some "0t" ∧ "0t" ≠ "false" ++ "t") ∧
      (added "score" "1" = some "1" ∧ (Value.notANumber + 1).isNaN = true) ∧
      (added "note" "\"\n\"" = some "" ∧ "" ≠ "" ++ "\n") := by
  decide +kernel

end World

end StoryScript
