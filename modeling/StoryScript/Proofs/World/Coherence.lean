import StoryScript.Proofs.Value.Order
import StoryScript.Proofs.World.Comparison
import StoryScript.Table.Lookup

/-!
How the six relations of conditions fit together. All of them are decided by the order of the two
sides, and a side that stands for nothing has no place in it.
-/

namespace StoryScript

open Text

namespace Relation

/-- Whether a relation holds of two sides in the given order, or of two sides without one. -/
def admits (relation : Relation) (order : Option Ordering) : Bool :=
  match relation with
  | equal => order == some .eq
  | unequal => order != some .eq
  | above => order == some .gt
  | below => order == some .lt
  | atLeast => order.any (·.isGE)
  | atMost => order.any (·.isLE)

theorem holdsOf_eq_admits (relation : Relation) (left? : Option Value) (right : Value) :
    relation.holdsOf left? right = relation.admits (left?.bind (·.looseOrder right)) := by
  cases left? with
  | none => cases relation <;> rfl
  | some left => cases relation <;> simp [holdsOf, holds, admits, Value.looselyEqual_eq, bne]

def converse : Relation → Relation
  | equal => equal
  | unequal => unequal
  | above => below
  | below => above
  | atLeast => atMost
  | atMost => atLeast

theorem admits_swap (relation : Relation) (order : Option Ordering) :
    relation.converse.admits (order.map Ordering.swap) = relation.admits order := by
  rcases order with _ | (_ | _ | _) <;> cases relation <;> rfl

end Relation

/-- What stands for a truth value or a number, also where a variable has that name. -/
def IsLiteral (text : List Char) : Prop :=
  text = "true".toList ∨ text = "false".toList ∨ (Number.read? text).isSome = true

instance (text : List Char) : Decidable (IsLiteral text) :=
  inferInstanceAs (Decidable (_ ∨ _ ∨ _))

namespace World

variable {left sign right name : String} {relation : Relation} {value : Value}

def compares (world : World) (left sign right : String) : Bool :=
  (world.judge (left ++ " " ++ sign ++ " " ++ right)).holds

theorem compares_eq_admits (world : World) (path : IsPath left.toList)
    (member : (sign.toList, relation) ∈ Comparison.relations) (phrase : IsPhrase right.toList)
    (noAnd : ¬ ['&', '&'] <:+: right.toList) (noOr : ¬ ['|', '|'] <:+: right.toList) :
    world.compares left sign right =
      relation.admits ((world.resolve? (.ofText left.toList)).bind
        (·.looseOrder (world.valueOf right.toList))) := by
  have shape : left ++ " " ++ sign ++ " " ++ right =
      String.ofList (spaced left.toList sign.toList right.toList) := by
    simp [String.ext_iff, spaced]
  rw [compares, shape, world.judge_spaced path member phrase noAnd noOr,
    Relation.holdsOf_eq_admits]

theorem resolve?_name (world : World) (named : IsName name.toList) :
    world.resolve? (.ofText name.toList) = world.globals.get? name := by
  rw [Reference.ofText_name named, resolve?, String.ofList_toList]

/-- A name that is no literal is what it stands for, then what is stored under the whole of it, and
else a text. -/
theorem valueOf_path (world : World) (path : IsPath name.toList) (noLiteral : ¬ IsLiteral name.toList) :
    world.valueOf name.toList =
      (world.resolve? (.ofText name.toList)).getD ((world.globals.get? name).getD (.text name)) := by
  simp only [IsLiteral, not_or, Bool.not_eq_true, Option.isSome_eq_false_iff,
    Option.isNone_iff_eq_none] at noLiteral
  obtain ⟨noTruth, noFalsehood, noNumber⟩ := noLiteral
  have unquoted (quote : Char) (other : isReference quote = false) :
      name.toList.head? ≠ some quote := by
    intro first
    have part := path.ofReference quote (List.mem_of_mem_head? first)
    rw [other] at part
    contradiction
  have double := unquoted '"' (by decide)
  have single := unquoted '\'' (by decide)
  simp only [valueOf, path.phrase.trimmed, double, single, decide_false, Bool.or_self,
    Bool.false_eq_true, if_neg noTruth, if_neg noFalsehood, if_false, noNumber, String.ofList_toList]
  unfold Reference.ofText
  cases name.toList.dropWhile (· != '.') with
  | nil =>
      rw [resolve?, String.ofList_toList]
      cases world.globals.get? name with
      | none => rfl
      | some value => rfl
  | cons => rfl

theorem valueOf_variable (world : World) (named : IsName name.toList)
    (noLiteral : ¬ IsLiteral name.toList) (stored : world.globals.get? name = some value) :
    world.valueOf name.toList = value := by
  rw [world.valueOf_path named.isPath noLiteral, world.resolve?_name named, stored, Option.getD_some]

theorem compares_variables (world : World) {first second : String}
    (firstNamed : IsName first.toList) (secondNamed : IsName second.toList)
    (noLiteral : ¬ IsLiteral second.toList) {firstValue secondValue : Value}
    (firstStored : world.globals.get? first = some firstValue)
    (secondStored : world.globals.get? second = some secondValue)
    (member : (sign.toList, relation) ∈ Comparison.relations) :
    world.compares first sign second = relation.admits (firstValue.looseOrder secondValue) := by
  have noPair (mark : Char) (other : isWord mark = false) : ¬ [mark, mark] <:+: second.toList := by
    intro paired
    have word := secondNamed.words mark (paired.subset (List.mem_cons_self))
    rw [other] at word
    contradiction
  rw [world.compares_eq_admits firstNamed.isPath member secondNamed.phrase
    (noPair '&' (by decide)) (noPair '|' (by decide)), world.resolve?_name firstNamed, firstStored,
    Option.bind_some, world.valueOf_variable secondNamed noLiteral secondStored]

/-- The six relations fit together, whatever the two sides stand for, and stored variables change
sides. -/
theorem comparisons_cohere (world : World) :
    (∀ left right : String, IsPath left.toList → IsPhrase right.toList →
      ¬ ['&', '&'] <:+: right.toList → ¬ ['|', '|'] <:+: right.toList →
      let holds (sign : String) : Bool := world.compares left sign right
      holds "!=" = !holds "==" ∧
        holds ">=" = (holds ">" || holds "==") ∧
        holds "<=" = (holds "<" || holds "==") ∧
        [holds "<", holds "==", holds ">"].count true ≤ 1 ∧
        ([holds "<", holds "==", holds ">"].count true = 1 ↔
          ∃ value, world.resolve? (.ofText left.toList) = some value ∧
            value.Comparable (world.valueOf right.toList))) ∧
    ∀ first second : String, IsName first.toList → IsName second.toList →
      ¬ IsLiteral first.toList → ¬ IsLiteral second.toList →
      (world.globals.get? first).isSome = true → (world.globals.get? second).isSome = true →
      world.compares first "<" second = world.compares second ">" first ∧
        world.compares first "==" second = world.compares second "==" first := by
  constructor
  · intro left right path phrase noAnd noOr holds
    have judged (sign : String) (relation : Relation)
        (member : (sign.toList, relation) ∈ Comparison.relations) :=
      world.compares_eq_admits path member phrase noAnd noOr
    have found : (∃ value, world.resolve? (.ofText left.toList) = some value ∧
        value.Comparable (world.valueOf right.toList)) ↔
        ((world.resolve? (.ofText left.toList)).bind
          (·.looseOrder (world.valueOf right.toList))).isSome = true := by
      simp only [← Value.isSome_looseOrder_iff, Option.isSome_bind, Option.any_eq_true]
    simp only [holds, judged "==" .equal (by decide), judged "!=" .unequal (by decide),
      judged ">=" .atLeast (by decide), judged "<=" .atMost (by decide),
      judged ">" .above (by decide), judged "<" .below (by decide), found]
    rcases (world.resolve? (.ofText left.toList)).bind (·.looseOrder (world.valueOf right.toList))
      with _ | (_ | _ | _) <;> decide
  · intro first second firstNamed secondNamed firstFree secondFree firstStored secondStored
    obtain ⟨firstValue, firstStored⟩ := Option.isSome_iff_exists.mp firstStored
    obtain ⟨secondValue, secondStored⟩ := Option.isSome_iff_exists.mp secondStored
    have forwards (sign : String) (relation : Relation)
        (member : (sign.toList, relation) ∈ Comparison.relations) :=
      world.compares_variables firstNamed secondNamed secondFree firstStored secondStored member
    have backwards (sign : String) (relation : Relation)
        (member : (sign.toList, relation) ∈ Comparison.relations) :=
      world.compares_variables secondNamed firstNamed firstFree secondStored firstStored member
    rw [forwards "<" .below (by decide), backwards ">" .above (by decide),
      forwards "==" .equal (by decide), backwards "==" .equal (by decide),
      Value.looseOrder_swap firstValue secondValue]
    exact ⟨(Relation.admits_swap .below _).symm, (Relation.admits_swap .equal _).symm⟩

theorem scores_cohere :
    let world := ((default : World).set "x" (.text "10")).set "y" (.number 9)
    (world.compares "x" "!=" "\"ten\"" = !world.compares "x" "==" "\"ten\"") ∧
      world.compares "x" "<" "y" = world.compares "y" ">" "x" ∧
      world.compares "x" "==" "y" = world.compares "y" "==" "x" := by
  intro world
  have coherent := comparisons_cohere world
  refine ⟨(coherent.1 "x" "\"ten\"" (by decide) (by decide) (by decide) (by decide)).1, ?_⟩
  exact coherent.2 "x" "y" (by decide) (by decide)
    (by decide +kernel) (by decide +kernel) (by simp [world, set, Table.get?_insert])
    (by simp [world, set, Table.get?_insert])

end World

end StoryScript
