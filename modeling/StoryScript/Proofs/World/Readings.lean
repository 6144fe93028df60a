import StoryScript.Proofs.World.Coherence
import StoryScript.Proofs.World.Judging
import StoryScript.Proofs.World.Placeholders

/-!
A name is read in three places: on the left of a comparison, in the braces of a placeholder, and as
a value of its own. It stands for the same in all of them.
-/

namespace StoryScript

open Text

namespace World

theorem judgeComparison_laidOut (world : World) {comparison : Comparison} {text : List Char}
    (laidOut : comparison.LaidOut text) :
    world.judgeComparison text =
      { holds := comparison.relation.holdsOf (world.resolve? (.ofText comparison.left))
          (world.valueOf comparison.right) } := by
  simp only [judgeComparison, Comparison.laidOut_iff.mp laidOut]

/-- What a name stands for is compared, shown and taken as a value. A name that stands for nothing is
unequal to everything, shown in its braces, and taken as a text, if nothing is stored under the whole
of it. -/
theorem name_read_alike (world : World) {name : String} (path : IsPath name.toList)
    (noLiteral : ¬ IsLiteral name.toList) :
    ∃ value? : Option Value,
      (∀ value, value? = some value ↔ world.StandsFor name.toList value) ∧
      (∀ (comparison : Comparison) text, comparison.left = name.toList → comparison.LaidOut text →
        world.judgeComparison text =
          { holds := comparison.relation.holdsOf value? (world.valueOf comparison.right) } ∧
        (¬ ['&', '&'] <:+: text → ¬ ['|', '|'] <:+: text →
          world.judge (String.ofList text) = world.judgeComparison text)) ∧
      (∀ before after,
        let placeholder := String.ofList (Placeholder.written name.toList)
        world.interpolate (before ++ placeholder ++ after) =
          world.interpolate before ++ (value?.map Value.display).getD placeholder ++
            world.interpolate after) ∧
      (∀ value, value? = some value → world.valueOf name.toList = value) ∧
      (value? = none → world.valueOf name.toList =
        if '.' ∈ name.toList then (world.globals.get? name).getD (.text name) else .text name) := by
  refine ⟨world.resolve? (.ofText name.toList), world.resolve?_eq_some_iff name.toList, ?_, ?_, ?_, ?_⟩
  · rintro comparison text sameName laidOut
    refine ⟨?_, fun noAnd noOr => ?_⟩
    · rw [world.judgeComparison_laidOut laidOut, sameName]
    · rw [judge, String.toList_ofList]
      exact world.judgeText_of_noPair noAnd noOr
  · intro before after placeholder
    rw [world.interpolate_within path, shownFor?]
    cases world.resolve? (.ofText name.toList) with
    | none => rfl
    | some value => simp
  · intro value found
    rw [world.valueOf_path path noLiteral, found, Option.getD_some]
  · intro nothing
    rw [world.valueOf_path path noLiteral, nothing, Option.getD_none]
    split
    next => rfl
    next noDot =>
      rw [Reference.ofText_dotless noDot, resolve?, String.ofList_toList] at nothing
      rw [nothing, Option.getD_none]

theorem name_read_alike_ada :
    let world := ((default : World).set "no.one" (.number 1)).register "mc"
      ((∅ : Table String).insert "name" "Ada")
    world.valueOf "mc.name.first".toList = .text "Ada" ∧
      world.valueOf "no.one".toList = .number 1 := by
  intro world
  have owned : world.resolve? (.ofText "mc.name.first".toList) = some (.text "Ada") := by
    have held : world.attribute? "mc" "name" = some "Ada" := by
      simp [world, attribute?, register, Table.get?_insert]
    exact congrArg (Option.map Value.text) held
  have nobody : world.resolve? (.ofText "no.one".toList) = none := by
    have noCharacter : world.cast.get? "no" = none := Table.get?_insert ..
    have noText : world.attribute? "no" "one" = none := by
      rw [attribute?, noCharacter, Option.bind_eq_bind, Option.bind_none]
    exact congrArg (Option.map Value.text) noText
  have firstPath : IsPath "mc.name.first".toList := by decide
  have nobodyPath : IsPath "no.one".toList := by decide
  obtain ⟨first?, standsFirst, -, -, first, -⟩ :=
    world.name_read_alike firstPath (by decide +kernel)
  obtain ⟨nobody?, standsNobody, -, -, -, stored⟩ :=
    world.name_read_alike nobodyPath (by decide +kernel)
  rw [first _ ((standsFirst _).mpr ((world.resolve?_eq_some_iff _ _).mp owned))]
  have lost : nobody? = none := by
    rw [Option.eq_none_iff_forall_ne_some]
    exact fun value stands =>
      (world.resolve?_eq_none_iff _).mp nobody value ((standsNobody value).mp stands)
  rw [stored lost]
  exact ⟨rfl, by simp [world, set, register, Table.get?_insert]⟩

end World

end StoryScript
