import StoryScript.Table.Lookup
import StoryScript.World.Assignment
import StoryScript.World.Condition

/-!
What an assignment or a condition comes to depends on the variables, and on those attributes of
characters alone to which it refers.
-/

namespace StoryScript

def Reference.ofSource (source : List Char) : Reference :=
  ofText (Text.trim source)

def Assignment.references (text : String) : List Reference :=
  match ofText? (Text.trim text.toList) with
  | some assignment => [.ofSource assignment.source]
  | none => []

def Comparison.references (text : List Char) : List Reference :=
  match ofText? (Text.trim text) with
  | some comparison => [.ofText comparison.left, .ofSource comparison.right]
  | none => []

def Comparison.referencesOf (condition : String) : List Reference :=
  (Text.splitAtPair '&' [] condition.toList).flatMap fun part =>
    (Text.splitAtPair '|' [] part).flatMap references

mutual

def Node.references : Node → List Reference
  | .assignment expression _ => Assignment.references expression
  | .guarded condition body _ => Comparison.referencesOf condition ++ Node.referencesOf body
  | .dialogue .. => []
  | .command .. => []
  | .menu .. => []
  | .jump .. => []
  | .character .. => []

def Node.referencesOf : List Node → List Reference
  | [] => []
  | node :: rest => node.references ++ Node.referencesOf rest

end

theorem Node.references_subset {nodes : List Node} {node : Node} (member : node ∈ nodes) :
    node.references ⊆ referencesOf nodes := by
  induction nodes with
  | nil => contradiction
  | cons head rest ih =>
      rw [referencesOf]
      rcases List.mem_cons.mp member with rfl | later
      · exact List.subset_append_left _ _
      · exact List.Subset.trans (ih later) (List.subset_append_right _ _)

namespace World

/-- Worlds at the same place in which the same is found of what is `known`. Complaints do not count,
as nothing depends on them. -/
structure Agrees (known : Reference → Prop) (left right : World) : Prop where
  startLabel : left.startLabel = right.startLabel
  position : left.position = right.position
  globals : left.globals = right.globals
  attributes : ∀ character key, known (.attributeOf character key) →
    left.attribute? character key = right.attribute? character key

namespace Agrees

variable {known : Reference → Prop} {left right : World} (agrees : Agrees known left right)
include agrees

theorem resolve? {reference : Reference} (isKnown : known reference) :
    left.resolve? reference = right.resolve? reference := by
  cases reference with
  | global name => simp only [World.resolve?, agrees.globals]
  | attributeOf character key =>
      simp only [World.resolve?, agrees.attributes character key isKnown]

theorem valueOf {source : List Char} (isKnown : known (.ofSource source)) :
    left.valueOf source = right.valueOf source := by
  simp only [World.valueOf, agrees.globals]
  cases reference : Reference.ofText (Text.trim source) with
  | global name => rfl
  | attributeOf character key =>
      rw [Reference.ofSource, reference] at isKnown
      simp only [agrees.attributes character key isKnown]

theorem judgeComparison {text : List Char}
    (areKnown : ∀ reference ∈ Comparison.references text, known reference) :
    left.judgeComparison text = right.judgeComparison text := by
  unfold Comparison.references at areKnown
  simp only [World.judgeComparison]
  cases read : Comparison.ofText? (Text.trim text) with
  | none => rfl
  | some comparison =>
      simp only [read, List.forall_mem_cons] at areKnown
      simp only [agrees.resolve? areKnown.1, agrees.valueOf areKnown.2.1]

theorem judgeAny {parts : List (List Char)}
    (areKnown : ∀ reference ∈ parts.flatMap Comparison.references, known reference) :
    left.judgeAny parts = right.judgeAny parts := by
  induction parts with
  | nil => rfl
  | cons part rest ih =>
      rw [List.flatMap_cons, List.forall_mem_append] at areKnown
      simp only [World.judgeAny, agrees.judgeComparison areKnown.1, ih areKnown.2]

theorem judgeAll {parts : List (List Char)}
    (areKnown : ∀ reference ∈ parts.flatMap fun part =>
      (Text.splitAtPair '|' [] part).flatMap Comparison.references, known reference) :
    left.judgeAll parts = right.judgeAll parts := by
  induction parts with
  | nil => rfl
  | cons part rest ih =>
      rw [List.flatMap_cons, List.forall_mem_append] at areKnown
      simp only [World.judgeAll, agrees.judgeAny areKnown.1, ih areKnown.2]

theorem judge {condition : String}
    (areKnown : ∀ reference ∈ Comparison.referencesOf condition, known reference) :
    left.judge condition = right.judge condition :=
  agrees.judgeAll areKnown

theorem set (name : String) (value : Value) :
    Agrees known (left.set name value) (right.set name value) where
  startLabel := agrees.startLabel
  position := agrees.position
  globals := by simp only [World.set, agrees.globals]
  attributes := agrees.attributes

theorem record (complaints others : List Diagnostic) :
    Agrees known (left.record complaints) (right.record others) :=
  ⟨agrees.startLabel, agrees.position, agrees.globals, agrees.attributes⟩

theorem assign {expression : String}
    (areKnown : ∀ reference ∈ Assignment.references expression, known reference) :
    Agrees known (left.assign expression) (right.assign expression) := by
  unfold Assignment.references at areKnown
  unfold World.assign
  cases read : Assignment.ofText? (Text.trim expression.toList) with
  | none => exact agrees.record _ _
  | some assignment =>
      simp only [read, List.forall_mem_cons] at areKnown
      simp only [World.current, agrees.globals, agrees.valueOf areKnown.1]
      exact agrees.set _ _

theorem register (name : String) (attributes : Table String) :
    Agrees known (left.register name attributes) (right.register name attributes) where
  startLabel := agrees.startLabel
  position := agrees.position
  globals := agrees.globals
  attributes character key isKnown := by
    have same := agrees.attributes character key isKnown
    simp only [World.attribute?, World.register, Table.get?_insert] at same ⊢
    split
    · rfl
    · exact same

theorem jump (label : String) : Agrees known (left.jump label) (right.jump label) :=
  ⟨agrees.startLabel, rfl, agrees.globals, agrees.attributes⟩

theorem advance : Agrees known left.advance right.advance where
  startLabel := agrees.startLabel
  position := by simp only [World.advance, agrees.position]
  globals := agrees.globals
  attributes := agrees.attributes

theorem reset : Agrees known left.reset right.reset where
  startLabel := agrees.startLabel
  position := congrArg (Position.mk · 0) agrees.startLabel
  globals := rfl
  attributes := agrees.attributes

end Agrees

theorem agrees_registerAll {known : Reference → Prop} {left right : World} {cast : Table Profile}
    (startLabel : left.startLabel = right.startLabel) (position : left.position = right.position)
    (globals : left.globals = right.globals)
    (attributes : ∀ character key, known (.attributeOf character key) →
      cast.contains character = true ∨
        left.attribute? character key = right.attribute? character key) :
    Agrees known (left.registerAll cast) (right.registerAll cast) where
  startLabel := startLabel
  position := position
  globals := globals
  attributes character key isKnown := by
    have same := attributes character key isKnown
    simp only [attribute?, registerAll, Table.get?_override, Table.get?_map, Table.contains]
      at same ⊢
    cases found : cast.get? character with
    | some profile => rfl
    | none => simpa [found] using same

end World

end StoryScript
