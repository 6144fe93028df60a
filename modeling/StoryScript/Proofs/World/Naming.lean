import StoryScript.Proofs.World.Comparison

/-!
What a name in a script stands for: without a dot a variable, and with dots the attribute of a
character that is named between the first two.
-/

namespace StoryScript

open Text

/-- What follows the second segment of a name begins with another dot, if there is anything. -/
inductive World.StandsFor (world : World) : List Char → Value → Prop
  | stored {name value} : '.' ∉ name → world.globals.get? (String.ofList name) = some value →
      StandsFor world name value
  | owned {character key rest text} : '.' ∉ character → '.' ∉ key → (∀ c ∈ rest.head?, c = '.') →
      world.attribute? (String.ofList character) (String.ofList key) = some text →
      StandsFor world (character ++ '.' :: (key ++ rest)) (.text text)

namespace Reference

theorem ofText_dotted {character key rest : List Char} (noDot : '.' ∉ character)
    (keyNoDot : '.' ∉ key) (ends : ∀ c ∈ rest.head?, c = '.') :
    ofText (character ++ '.' :: (key ++ rest)) =
      .attributeOf (String.ofList character) (String.ofList key) := by
  have starts : ∀ c ∈ ('.' :: (key ++ rest)).head?, c = '.' := by simp
  obtain ⟨owner, dotted⟩ := segment noDot starts
  simp only [ofText, dotted, owner, (segment keyNoDot ends).1]

theorem exists_segments {name : List Char} (dotted : '.' ∈ name) :
    ∃ character key rest, '.' ∉ character ∧ '.' ∉ key ∧ (∀ c ∈ rest.head?, c = '.') ∧
      name = character ++ '.' :: (key ++ rest) := by
  obtain ⟨character, after, rfl, noDot⟩ := List.eq_append_cons_of_mem dotted
  by_cases further : '.' ∈ after
  · obtain ⟨key, rest, rfl, keyNoDot⟩ := List.eq_append_cons_of_mem further
    exact ⟨character, key, '.' :: rest, noDot, keyNoDot, by simp, rfl⟩
  · exact ⟨character, after, [], noDot, further, by simp, by rw [List.append_nil]⟩

end Reference

namespace World

variable (world : World)

theorem resolve?_eq_some_iff (name : List Char) (value : Value) :
    world.resolve? (.ofText name) = some value ↔ world.StandsFor name value := by
  constructor
  · intro found
    by_cases dotted : '.' ∈ name
    · obtain ⟨character, key, rest, noDot, keyNoDot, ends, rfl⟩ := Reference.exists_segments dotted
      rw [Reference.ofText_dotted noDot keyNoDot ends, resolve?, Option.map_eq_some_iff] at found
      obtain ⟨text, held, rfl⟩ := found
      exact .owned noDot keyNoDot ends held
    · rw [Reference.ofText_dotless dotted] at found
      exact .stored dotted found
  · intro stands
    cases stands with
    | stored noDot found =>
        rw [Reference.ofText_dotless noDot]
        exact found
    | owned noDot keyNoDot ends held =>
        rw [Reference.ofText_dotted noDot keyNoDot ends, resolve?, held, Option.map_some]

theorem resolve?_eq_none_iff (name : List Char) :
    world.resolve? (.ofText name) = none ↔ ∀ value, ¬ world.StandsFor name value := by
  simp only [← resolve?_eq_some_iff, Option.eq_none_iff_forall_ne_some, ne_eq]

end World

end StoryScript
