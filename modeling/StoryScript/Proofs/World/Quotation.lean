import StoryScript.Proofs.World.Comparison
import StoryScript.Table.Lookup

/-!
Quoted texts in conditions. What stands in quotes on the right of a comparison is compared as it is,
except that a condition is cut at its doubled marks first, also at those within quotes.
-/

namespace StoryScript

open Text

namespace Comparison

def quoting (name sign text : List Char) : List Char :=
  name ++ ' ' :: (sign ++ ' ' :: '"' :: text)

variable {name sign text : List Char} {relation : Relation}

theorem trim_quoting (named : IsName name) (sign text : List Char) :
    trim (quoting name sign text) = quoting name sign (trimEnd text) := by
  have begins : trimStart (quoting name sign text) = quoting name sign text :=
    named.phrase.trimStart_append _
  have shape (text) : quoting name sign text = (name ++ ' ' :: (sign ++ [' '])) ++ '"' :: text := by
    simp [quoting]
  rw [trim, begins, shape, trimEnd_solid _ _ (by decide), shape]

theorem isPhrase_quote (oneLine : '\n' ∉ text) : IsPhrase ('"' :: trimEnd text) where
  nonempty := List.cons_ne_nil _ _
  trimmed := by
    have trimmed : trim ('"' :: text) = '"' :: trimEnd text := trimEnd_solid [] text (by decide)
    rw [← trimmed, trim_trim]
  oneLine := by
    rintro (_ | ⟨_, member⟩)
    exact oneLine ((trimEnd_sublist text).subset member)

theorem sides_quoted (named : IsName name) (sign : List Char) (oneLine : '\n' ∉ text) :
    Sides isWord sign name ('"' :: (text ++ ['"']))
      (trim (spaced name sign ('"' :: (text ++ ['"'])))) := by
  have phrase := isPhrase_quotes oneLine
  rw [trim_spaced named.phrase sign phrase]
  exact sides_spaced named.nonempty named.words sign phrase

theorem ofText?_quoting (named : IsName name) (member : (sign, relation) ∈ relations)
    (phrase : IsPhrase ('"' :: text)) :
    ofText? (quoting name sign text) = some ⟨name, relation, '"' :: text⟩ :=
  ofText?_spaced named.isPath member phrase

theorem splitAtPair_quoting {mark : Char} (isMark : mark = '&' ∨ mark = '|') (named : IsName name)
    (member : (sign, relation) ∈ relations) {first : List Char} {later : List (List Char)}
    (cut : ∀ current, splitAtPair mark current text = (current.reverse ++ first) :: later) :
    splitAtPair mark [] (quoting name sign text) = quoting name sign first :: later := by
  have noMark : mark ∉ ['"'] := by
    rcases isMark with rfl | rfl
    · decide
    · decide
  have quoted (current) : splitAtPair mark current ('"' :: text) =
      (current.reverse ++ '"' :: first) :: later := by
    rw [← List.singleton_append, splitAtPair_append noMark, cut]
    simp
  exact splitAtPair_spaced isMark named.isPath member quoted

end Comparison

namespace World

variable {name sign text : List Char} {relation : Relation}

theorem valueOf_quote (world : World) (phrase : IsPhrase ('"' :: text)) :
    world.valueOf ('"' :: text) = .text (String.ofList text.dropLast) := by
  simp [valueOf, phrase.trimmed]

theorem judgeComparison_quoting (world : World) (named : IsName name)
    (member : (sign, relation) ∈ Comparison.relations) (oneLine : '\n' ∉ text) :
    world.judgeComparison (Comparison.quoting name sign text) =
      { holds := relation.holdsOf (world.globals.get? (String.ofList name))
          (.text (String.ofList (trimEnd text).dropLast)) } := by
  have phrase := Comparison.isPhrase_quote oneLine
  simp only [judgeComparison, Comparison.trim_quoting named,
    Comparison.ofText?_quoting named member phrase, Reference.ofText_name named, resolve?,
    world.valueOf_quote phrase]

variable {content : List Char}

theorem judge_quoting (world : World) (named : IsName name)
    (member : (sign, relation) ∈ Comparison.relations) (oneLine : '\n' ∉ content)
    (noAnd : ¬ ['&', '&'] <:+: content) (noOr : ¬ ['|', '|'] <:+: content) :
    world.judge (String.ofList (Comparison.quoting name sign (content ++ ['"']))) =
      { holds := relation.holdsOf (world.globals.get? (String.ofList name))
          (.text (String.ofList content)) } := by
  have noPair {mark : Char} (other : mark ≠ '"') (noPair : ¬ [mark, mark] <:+: content) :
      ¬ [mark, mark] <:+: '"' :: (content ++ ['"']) := by
    rw [List.infix_cons_iff, pair_append_iff other, not_or]
    exact ⟨fun begins => other (List.cons_prefix_cons.mp begins).1, noPair⟩
  have phrase := isPhrase_quotes oneLine
  have judged := world.judge_spaced named.isPath member phrase (noPair (by decide) noAnd)
    (noPair (by decide) noOr)
  rwa [Reference.ofText_name named, world.valueOf_quote phrase, List.dropLast_concat] at judged

/-- What a quoted text is compared as ends with its first pair of marks. What is made of the rest of
the condition does not depend on the relation. -/
theorem holds_judge_quoting (world : World) (named : IsName name) (oneLine : '\n' ∉ content) :
    ∃ literal others parts,
      (literal = content → ¬ ['&', '&'] <:+: content ∧ ¬ ['|', '|'] <:+: content) ∧
      ∀ sign relation, (sign, relation) ∈ Comparison.relations →
        (world.judge (String.ofList (Comparison.quoting name sign (content ++ ['"'])))).holds =
          ((relation.holdsOf (world.globals.get? (String.ofList name))
              (.text (String.ofList literal)) || (world.judgeAny others).holds) &&
            (world.judgeAll parts).holds) := by
  obtain ⟨part, parts, isPart, andCut⟩ := exists_firstPart '&' (content ++ ['"'])
  obtain ⟨first, others, isFirst, orCut⟩ := exists_firstPart '|' part
  refine ⟨(trimEnd first).dropLast, others, parts, ?_, ?_⟩
  · intro whole
    have short := (trimEnd_sublist first).length_le
    have within := isFirst.isPrefix.length_le
    have long := congrArg List.length whole
    have closed : (content ++ ['"']).length = content.length + 1 := List.length_append
    rw [List.length_dropLast] at long
    -- A cut takes two characters off and the quote is only one, so that nothing was cut.
    rcases isPart.whole_or_shorter with ⟨rfl, noAnd⟩ | cut
    · rcases isFirst.whole_or_shorter with ⟨rfl, noOr⟩ | cut
      · rw [pair_append_iff (by decide)] at noAnd noOr
        exact ⟨noAnd, noOr⟩
      · omega
    · omega
  · intro sign relation member
    have within := isFirst.isPrefix.trans isPart.isPrefix
    have firstLine : '\n' ∉ first := by
      intro inside
      have member := within.subset inside
      simp [oneLine] at member
    rw [judge, String.toList_ofList, Comparison.splitAtPair_quoting (.inl rfl) named member andCut,
      holds_judgeAll_cons, Comparison.splitAtPair_quoting (.inr rfl) named member orCut,
      holds_judgeAny_cons, world.judgeComparison_quoting named member firstLine]

/-- A text in quotes stands for its content, whatever that is, exactly when the content holds no pair
of marks. -/
theorem quoted_text_compared_iff (world : World) {name content : String}
    (named : IsName name.toList) (stored : world.globals.get? name = some (.text content))
    (oneLine : '\n' ∉ content.toList) :
    (world.judge (name ++ " == \"" ++ content ++ "\"") = { holds := true } ∧
      world.judge (name ++ " != \"" ++ content ++ "\"") = { holds := false }) ↔
      ¬ ['&', '&'] <:+: content.toList ∧ ¬ ['|', '|'] <:+: content.toList := by
  have equal : name ++ " == \"" ++ content ++ "\"" =
      String.ofList (Comparison.quoting name.toList ['=', '='] (content.toList ++ ['"'])) := by
    simp [String.ext_iff, Comparison.quoting]
  have unequal : name ++ " != \"" ++ content ++ "\"" =
      String.ofList (Comparison.quoting name.toList ['!', '='] (content.toList ++ ['"'])) := by
    simp [String.ext_iff, Comparison.quoting]
  rw [equal, unequal]
  constructor
  · rintro ⟨holds, fails⟩
    obtain ⟨literal, others, parts, unpaired, judged⟩ := world.holds_judge_quoting named oneLine
    have holds := (judged _ .equal (by decide)).symm.trans (congrArg Verdict.holds holds)
    have fails := (judged _ .unequal (by decide)).symm.trans (congrArg Verdict.holds fails)
    simp only [String.ofList_toList, stored, Relation.holdsOf, Relation.holds, Value.looselyEqual,
      Bool.and_eq_true, Bool.and_eq_false_iff, Bool.or_eq_false_iff, Bool.not_eq_false',
      beq_iff_eq] at holds fails
    apply unpaired
    -- Where inequality fails, it is not because of the rest, with which equality holds.
    rcases fails with ⟨same, _⟩ | rest
    · rw [same, String.toList_ofList]
    · rw [holds.2] at rest
      contradiction
  · rintro ⟨noAnd, noOr⟩
    have judged (sign relation) (member : (sign, relation) ∈ Comparison.relations) :=
      world.judge_quoting named member oneLine noAnd noOr
    rw [judged _ .equal (by decide), judged _ .unequal (by decide), String.ofList_toList,
      String.ofList_toList, stored]
    simp [Relation.holdsOf, Relation.holds, Value.looselyEqual]

theorem marked_text_compared :
    let content := " \"y\" != 'z.w' & 1 | 2 "
    let world := (default : World).set "x" (.text content)
    world.judge ("x" ++ " == \"" ++ content ++ "\"") = { holds := true } ∧
      world.judge ("x" ++ " != \"" ++ content ++ "\"") = { holds := false } :=
  (quoted_text_compared_iff _ (by decide) (by simp [set, Table.get?_insert])
    (by decide +kernel)).mpr (by decide +kernel)

theorem paired_text_unequal :
    let world := (default : World).set "x" (.text "a&&b")
    world.globals.get? "x" = some (.text "a&&b") ∧
      (world.judge "x == \"a&&b\"").holds = false ∧
      (world.judge "x != \"a&&b\"").complaints.length = 1 := by
  refine ⟨?_, ?_, ?_⟩
  · simp [set, Table.get?_insert]
  · decide +kernel
  · decide +kernel

end World

end StoryScript
