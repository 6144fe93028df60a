import StoryScript.Proofs.Diagnostic.Overflow
import StoryScript.Proofs.Text.Sides
import StoryScript.Table.Lookup
import StoryScript.World.Assignment

/-!
The forms of assignments, one for each operator. A text is of one form at most, so that it does not
matter in which order they are tried, and an assignment changes the variable that it names alone.
-/

namespace StoryScript

open Text

namespace Operator

def sign : Operator → List Char
  | set => ['=']
  | add => ['+', '=']
  | sub => ['-', '=']
  | mul => ['*', '=']
  | div => ['/', '=']

theorem divides_sign (operator : Operator) : Divides isWord operator.sign where
  solid _ := isBlank_of_isWord
  begins := by cases operator <;> exact ⟨_, _, rfl, by decide, by decide⟩

def Fits (operator : Operator) (text : List Char) : Prop :=
  ∃ name source, Sides isWord operator.sign name source text

end Operator

namespace Assignment

variable {text name source : List Char} {operator : Operator} {assignment : Assignment}

def inForm? (operator : Operator) (text : List Char) : Option Assignment :=
  (sides? isWord operator.sign text).map fun sides => ⟨String.ofList sides.1, operator, sides.2⟩

theorem operator?_eq_some_iff (text : List Char) (operator : Operator) (rest : List Char) :
    operator? text = some (operator, rest) ↔ text = operator.sign ++ rest := by
  constructor
  · intro found
    unfold operator? at found
    split at found
    case h_6 => contradiction
    all_goals
      obtain ⟨rfl, rfl⟩ := Prod.mk.inj (Option.some.inj found)
      rfl
  · rintro rfl
    cases operator <;> rfl

theorem operator_of_inForm? (found : inForm? operator text = some assignment) :
    assignment.operator = operator := by
  obtain ⟨sides, _, rfl⟩ := Option.map_eq_some_iff.mp found
  rfl

theorem ofText?_of_sign {rest : List Char}
    (signed : trimStart (text.dropWhile isWord) = operator.sign ++ rest) :
    ofText? text = inForm? operator text := by
  have found := (operator?_eq_some_iff _ operator rest).mpr signed
  have begins := List.isPrefixOf?_eq_some_iff_append_eq.mpr signed.symm
  simp only [ofText?, inForm?, sides?, found, begins, Option.bind_eq_bind, Option.bind_some]
  cases remainder? rest with
  | none => rfl
  | some source =>
      simp only [Option.bind_some]
      split
      · rfl
      · rfl

/-- The sign of a text is looked at once for all forms. -/
theorem ofText?_eq_some_iff (text : List Char) (assignment : Assignment) :
    ofText? text = some assignment ↔ inForm? assignment.operator text = some assignment := by
  constructor
  · intro found
    have signed := found
    rw [ofText?, Option.bind_eq_bind, Option.bind_eq_some_iff] at signed
    obtain ⟨⟨operator, rest⟩, signed, _⟩ := signed
    rw [ofText?_of_sign ((operator?_eq_some_iff _ _ _).mp signed)] at found
    rwa [operator_of_inForm? found]
  · intro found
    obtain ⟨sides, read, _⟩ := Option.map_eq_some_iff.mp found
    simp only [sides?, Option.bind_eq_bind, Option.bind_eq_some_iff] at read
    obtain ⟨rest, begins, _⟩ := read
    rw [ofText?_of_sign (List.isPrefixOf?_eq_some_iff_append_eq.mp begins).symm, found]

theorem inForm?_exclusive {first second : Operator} {left right : Assignment}
    (firstFound : inForm? first text = some left) (secondFound : inForm? second text = some right) :
    first = second := by
  obtain rfl := operator_of_inForm? firstFound
  obtain rfl := operator_of_inForm? secondFound
  have leftRead := (ofText?_eq_some_iff text left).mpr firstFound
  have rightRead := (ofText?_eq_some_iff text right).mpr secondFound
  rw [leftRead] at rightRead
  rw [Option.some.inj rightRead]

theorem findSome?_inForm? (text : List Char) {order : List Operator}
    (complete : ∀ operator, operator ∈ order) :
    order.findSome? (inForm? · text) = ofText? text := by
  cases tried : order.findSome? (inForm? · text) with
  | some assignment =>
      obtain ⟨operator, _, found⟩ := List.exists_of_findSome?_eq_some tried
      obtain rfl := operator_of_inForm? found
      exact ((ofText?_eq_some_iff text assignment).mpr found).symm
  | none =>
      rw [List.findSome?_eq_none_iff] at tried
      cases read : ofText? text with
      | none => rfl
      | some assignment =>
          have found := (ofText?_eq_some_iff text assignment).mp read
          rw [tried _ (complete assignment.operator)] at found
          contradiction

theorem inForm?_of_sides (sides : Sides isWord operator.sign name source text)
    (trimmed : trim text = text) :
    inForm? operator text = some ⟨String.ofList name, operator, trimStart source⟩ := by
  rw [inForm?, sides.read operator.divides_sign trimmed]
  rfl

theorem fits_iff (operator : Operator) (trimmed : trim text = text) :
    operator.Fits text ↔ (inForm? operator text).isSome = true := by
  rw [inForm?, Option.isSome_map, isSome_sides?_iff operator.divides_sign trimmed]
  rfl

end Assignment

namespace World

structure ChangesOnly (name : String) (value : Value) (before after : World) : Prop where
  changed : after.globals.get? name = some value
  others : ∀ other, other ≠ name → after.globals.get? other = before.globals.get? other
  startLabel : after.startLabel = before.startLabel
  position : after.position = before.position
  cast : after.cast = before.cast
  diagnostics : after.diagnostics = before.diagnostics

theorem changesOnly_set (world : World) (name : String) (value : Value) :
    ChangesOnly name value world (world.set name value) where
  changed := by rw [set, Table.get?_insert, if_pos rfl]
  others other differs := by rw [set, Table.get?_insert, if_neg differs]
  startLabel := rfl
  position := rfl
  cast := rfl
  diagnostics := rfl

theorem valueOf_trimStart (world : World) (text : List Char) :
    world.valueOf (trimStart text) = world.valueOf text := by
  simp only [valueOf, trim_trimStart]

theorem assign_of_sides (world : World) {text : String} {operator : Operator}
    {name source : List Char} (sides : Sides isWord operator.sign name source (trim text.toList)) :
    world.assign text = world.set (String.ofList name)
      (operator.apply (world.current (String.ofList name)) (world.valueOf source)) := by
  have found := Assignment.inForm?_of_sides sides (trim_trim _)
  have read := (Assignment.ofText?_eq_some_iff _ ⟨_, operator, _⟩).mpr found
  rw [assign, read]
  simp only [valueOf_trimStart]

theorem assign_of_noForm (world : World) {text : String}
    (noForm : ∀ operator : Operator, ¬ operator.Fits (trim text.toList)) :
    world.assign text = { world with
      diagnostics := world.diagnostics.record
        (Complaint.noAssignment (String.ofList (trim text.toList))).diagnostic } := by
  have unread : Assignment.ofText? (trim text.toList) = none := by
    cases read : Assignment.ofText? (trim text.toList) with
    | none => rfl
    | some assignment =>
        have found := (Assignment.ofText?_eq_some_iff _ _).mp read
        have fits := (Assignment.fits_iff assignment.operator (trim_trim text.toList)).mpr
          (by rw [found]; rfl)
        exact absurd fits (noForm assignment.operator)
  simp only [assign, unread, assignmentComplaints, record, Diagnostics.recordAll_cons,
    Diagnostics.recordAll_nil]

/-- A text is of at most one form, in whatever order they are tried. Whatever sides it is cut into in
that form, it changes the variable that its first word names and nothing else. A text of no form is
complained about once, and changes nothing. -/
theorem assignment_changes_one_variable (world : World) (text : String) :
    let line := trim text.toList
    (∀ first second : Operator, first.Fits line → second.Fits line → first = second) ∧
      (∀ order : List Operator, (∀ operator, operator ∈ order) →
        order.findSome? (Assignment.inForm? · line) = Assignment.ofText? line) ∧
      (∀ (operator : Operator) (name source : List Char), Sides isWord operator.sign name source line →
        name = line.takeWhile isWord ∧
          ChangesOnly (String.ofList name)
            (operator.apply (world.current (String.ofList name)) (world.valueOf source))
            world (world.assign text)) ∧
      ((∀ operator : Operator, ¬ operator.Fits line) →
        world.assign text = { world with
          diagnostics := world.diagnostics.record
            (Complaint.noAssignment (String.ofList line)).diagnostic }) := by
  intro line
  refine ⟨?_, ?_, ?_, ?_⟩
  · intro first second firstFits secondFits
    rw [Assignment.fits_iff _ (trim_trim text.toList), Option.isSome_iff_exists]
      at firstFits secondFits
    obtain ⟨_, firstFound⟩ := firstFits
    obtain ⟨_, secondFound⟩ := secondFits
    exact Assignment.inForm?_exclusive firstFound secondFound
  · intro order complete
    exact Assignment.findSome?_inForm? line complete
  · intro operator name source sides
    refine ⟨(sides.cut operator.divides_sign).1.symm, ?_⟩
    rw [world.assign_of_sides sides]
    exact world.changesOnly_set _ _
  · intro noForm
    exact world.assign_of_noForm noForm

theorem gold_changes_alone :
    let world := (default : World).set "gold" (.number 3)
    ChangesOnly "gold" (Operator.add.apply (world.current "gold") (world.valueOf ['5'])) world
        (world.assign " gold\t+= 5") ∧
      world.assign "gold ++" = { world with
        diagnostics := world.diagnostics.record (Complaint.noAssignment "gold ++").diagnostic } := by
  intro world
  refine ⟨((assignment_changes_one_variable world " gold\t+= 5").2.2.1 .add "gold".toList ['5']
    (sides_of_sides? (by decide))).2, (assignment_changes_one_variable world "gold ++").2.2.2 ?_⟩
  intro operator fits
  have found := (Assignment.fits_iff operator (by decide)).mp fits
  revert found
  cases operator <;> decide

end World

end StoryScript
