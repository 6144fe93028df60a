import StoryScript.Proofs.Text.Pairs
import StoryScript.Proofs.Text.Sides
import StoryScript.World.Condition

/-!
How comparisons are written: a path, the sign of a relation and a right side. A comparison with a
space on either side of its sign is read back, and a condition without doubled marks is one comparison.
-/

namespace StoryScript

open Text

structure IsPath (text : List Char) : Prop where
  nonempty : text ≠ []
  ofReference : ∀ c ∈ text, isReference c = true

instance (text : List Char) : Decidable (IsPath text) :=
  decidable_of_iff (text ≠ [] ∧ text.all isReference = true)
    ⟨fun ⟨nonempty, all⟩ => ⟨nonempty, List.all_eq_true.mp all⟩,
      fun path => ⟨path.nonempty, List.all_eq_true.mpr path.ofReference⟩⟩

theorem Text.isBlank_of_isReference {c : Char} (isPart : isReference c = true) :
    isBlank c = false := by
  rw [isReference, Bool.or_eq_true, beq_iff_eq] at isPart
  rcases isPart with word | rfl
  · exact isBlank_of_isWord word
  · decide

theorem IsPath.phrase {text : List Char} (path : IsPath text) : IsPhrase text where
  nonempty := path.nonempty
  trimmed := (trim_eq_self_iff text).mpr
    ⟨fun c first => isBlank_of_isReference (path.ofReference c (List.mem_of_mem_head? first)),
      fun c last => isBlank_of_isReference (path.ofReference c (List.mem_of_mem_getLast? last))⟩
  oneLine := fun member => absurd (path.ofReference _ member) (by decide)

theorem Text.IsName.isPath {name : List Char} (named : IsName name) : IsPath name where
  nonempty := named.nonempty
  ofReference c member := by rw [isReference, named.words c member, Bool.true_or]

namespace Comparison

variable {left sign right text : List Char} {relation : Relation}

theorem divides_sign (member : (sign, relation) ∈ relations) : Divides isReference sign where
  solid _ := isBlank_of_isReference
  begins := by
    simp only [relations, List.mem_cons, Prod.mk.injEq, List.not_mem_nil, or_false] at member
    rcases member with ⟨rfl, _⟩ | ⟨rfl, _⟩ | ⟨rfl, _⟩ | ⟨rfl, _⟩ | ⟨rfl, _⟩ | ⟨rfl, _⟩ <;>
      exact ⟨_, _, rfl, by decide, by decide⟩

theorem ofText?_eq (text : List Char) :
    ofText? text = relations.findSome? fun entry =>
      (sides? isReference entry.1 text).map fun sides => ⟨sides.1, entry.2, sides.2⟩ := by
  rw [ofText?]
  by_cases empty : (text.takeWhile isReference).isEmpty
  · simp [sides?, empty, relations]
  · rw [if_neg empty]
    congr
    funext entry
    simp only [sides?, if_neg empty]
    cases entry.1.isPrefixOf? (trimStart (text.dropWhile isReference)) with
    | none => rfl
    | some rest =>
        cases found : remainder? rest with
        | none => simp [found]
        | some right => simp [found]

theorem isSome_ofText?_iff (trimmed : trim text = text) :
    (ofText? text).isSome = true ↔
      ∃ sign relation, (sign, relation) ∈ relations ∧
        ∃ left right, Sides isReference sign left right text := by
  rw [ofText?_eq, List.findSome?_isSome_iff]
  constructor
  · rintro ⟨⟨sign, relation⟩, member, found⟩
    rw [Option.isSome_map, isSome_sides?_iff (divides_sign member) trimmed] at found
    exact ⟨sign, relation, member, found⟩
  · rintro ⟨sign, relation, member, found⟩
    refine ⟨(sign, relation), member, ?_⟩
    rwa [Option.isSome_map, isSome_sides?_iff (divides_sign member) trimmed]

theorem ofText?_padded (path : IsPath left) (member : (sign, relation) ∈ relations)
    (phrase : IsPhrase right) {before after : List Char}
    (beforeBlank : ∀ c ∈ before, isBlank c = true) (afterBlank : ∀ c ∈ after, isBlank c = true)
    (whole : sign.length = 1 → ∀ rest, after ++ right = '=' :: rest → rest = []) :
    ofText? (left ++ (before ++ (sign ++ (after ++ right)))) = some ⟨left, relation, right⟩ := by
  obtain ⟨taken, rest⟩ :=
    cut_before (divides_sign member) path.ofReference beforeBlank (after ++ right)
  have source := remainder?_padded afterBlank phrase
  have full : left.isEmpty = false := List.isEmpty_eq_false_iff.mpr path.nonempty
  simp only [ofText?, taken, rest, full]
  generalize after ++ right = tail at source whole
  have noLonger : sign.length = 1 → (['='].isPrefixOf? tail).bind remainder? = none := by
    intro single
    cases tail with
    | nil => rfl
    | cons c tail =>
        by_cases equals : '=' = c
        · obtain rfl := equals
          rw [whole single tail rfl]
          rfl
        · simp [equals]
  simp only [relations, List.mem_cons, Prod.mk.injEq, List.not_mem_nil, or_false] at member
  rcases member with ⟨rfl, rfl⟩ | ⟨rfl, rfl⟩ | ⟨rfl, rfl⟩ | ⟨rfl, rfl⟩ | ⟨rfl, rfl⟩ | ⟨rfl, rfl⟩
  all_goals simp [relations, source, ← Option.bind_assoc, noLonger]

theorem ofText?_spaced (path : IsPath left) (member : (sign, relation) ∈ relations)
    (phrase : IsPhrase right) :
    ofText? (spaced left sign right) = some ⟨left, relation, right⟩ := by
  have blank : ∀ c ∈ [' '], isBlank c = true := List.forall_mem_singleton.mpr (by decide)
  exact ofText?_padded path member phrase blank blank (by simp)

/-- How a comparison may be laid out in a condition: with blanks around it and around its sign. After
the sign `>` or `<`, a `=` that is followed by anything would belong to the sign. -/
inductive LaidOut : Comparison → List Char → Prop
  | blanks {left sign right : List Char} {relation : Relation} {front before after back : List Char} :
      IsPath left → (sign, relation) ∈ relations → IsPhrase right →
      (∀ c ∈ front ++ back, isBlank c = true) → (∀ c ∈ before ++ after, isBlank c = true) →
      (sign.length = 1 → ∀ rest, after ++ right = '=' :: rest → rest = []) →
      LaidOut ⟨left, relation, right⟩
        (front ++ (left ++ (before ++ (sign ++ (after ++ right))) ++ back))

variable {comparison : Comparison}

theorem LaidOut.read (laidOut : LaidOut comparison text) :
    ofText? (trim text) = some comparison := by
  cases laidOut with
  | @blanks left sign right relation front before after back path member phrase around within whole =>
      obtain ⟨frontBlank, backBlank⟩ := List.forall_mem_append.mp around
      obtain ⟨beforeBlank, afterBlank⟩ := List.forall_mem_append.mp within
      have shape : left ++ (before ++ (sign ++ (after ++ right))) =
          left ++ (before ++ (sign ++ after) ++ right) := by simp
      rw [trim_padded frontBlank backBlank, shape, trim_between path.phrase _ phrase, ← shape]
      exact ofText?_padded path member phrase beforeBlank afterBlank whole

theorem exists_longer (member : (sign, relation) ∈ relations) (single : sign.length = 1) :
    ∃ other, (sign ++ ['='], other) ∈ relations ∧ other ≠ relation := by
  simp only [relations, List.mem_cons, Prod.mk.injEq, List.not_mem_nil, or_false] at member
  rcases member with ⟨rfl, rfl⟩ | ⟨rfl, rfl⟩ | ⟨rfl, rfl⟩ | ⟨rfl, rfl⟩ | ⟨rfl, rfl⟩ | ⟨rfl, rfl⟩
  · contradiction
  · contradiction
  · contradiction
  · contradiction
  · exact ⟨.atLeast, by decide, by decide⟩
  · exact ⟨.atMost, by decide, by decide⟩

theorem ofText?_of_sides (member : (sign, relation) ∈ relations) (long : sign.length ≠ 1)
    (sides : Sides isReference sign left right text) (trimmed : trim text = text) :
    ofText? text = some ⟨left, relation, trimStart right⟩ := by
  have phrase := isPhrase_of_sides? (sides.read (divides_sign member) trimmed)
    (divides_sign member) trimmed
  obtain ⟨before, after, beforeBlank, afterBlank, shape⟩ := sides.apart
  have leading : ∀ c ∈ right.takeWhile isBlank, isBlank c = true :=
    List.all_eq_true.mp List.all_takeWhile
  have apart : text =
      left ++ (before ++ (sign ++ (after ++ right.takeWhile isBlank ++ trimStart right))) := by
    rw [shape, List.append_assoc, trimStart, List.takeWhile_append_dropWhile]
  rw [apart]
  exact ofText?_padded ⟨sides.nonempty, sides.ofKind⟩ member phrase beforeBlank
    (List.forall_mem_append.mpr ⟨afterBlank, leading⟩) (fun single => absurd single long)

theorem laidOut_iff : LaidOut comparison text ↔ ofText? (trim text) = some comparison := by
  refine ⟨LaidOut.read, fun read => ?_⟩
  obtain ⟨front, back, frontBlank, backBlank, padded⟩ := exists_padding text
  have tried := read
  rw [ofText?_eq] at tried
  obtain ⟨⟨sign, relation⟩, member, mapped⟩ := List.exists_of_findSome?_eq_some tried
  obtain ⟨⟨left, right⟩, found, rfl⟩ := Option.map_eq_some_iff.mp mapped
  have phrase := isPhrase_of_sides? found (divides_sign member) (trim_trim text)
  have sides := sides_of_sides? found
  obtain ⟨before, after, beforeBlank, afterBlank, shape⟩ := sides.apart
  rw [padded, shape]
  refine .blanks ⟨sides.nonempty, sides.ofKind⟩ member phrase
    (List.forall_mem_append.mpr ⟨frontBlank, backBlank⟩)
    (List.forall_mem_append.mpr ⟨beforeBlank, afterBlank⟩) ?_
  intro single rest equals
  by_contra filled
  -- What follows would have been read with the longer sign.
  obtain ⟨other, longer, differs⟩ := exists_longer member single
  have oneLine : '\n' ∉ rest := by
    cases after with
    | nil =>
        obtain rfl := equals
        exact fun inside => phrase.oneLine (List.mem_cons_of_mem _ inside)
    | cons c after =>
        obtain rfl := List.head_eq_of_cons_eq equals
        exact absurd (afterBlank '=' List.mem_cons_self) (by decide)
  have whole : trim text = left ++ (before ++ (sign ++ ['='] ++ ([] ++ rest))) := by
    rw [shape, equals]
    simp
  have longerSides : Sides isReference (sign ++ ['=']) left rest (trim text) :=
    ⟨sides.nonempty, sides.ofKind, filled, oneLine, before, [], beforeBlank,
      List.forall_mem_nil _, whole⟩
  have long : (sign ++ ['=']).length ≠ 1 := by
    rw [List.length_append, single]
    decide
  have otherRead := ofText?_of_sides longer long longerSides (trim_trim text)
  rw [read] at otherRead
  exact differs (congrArg Comparison.relation (Option.some.inj otherRead)).symm

theorem splitAtPair_spaced {mark : Char} (isMark : mark = '&' ∨ mark = '|') (path : IsPath left)
    (member : (sign, relation) ∈ relations) {first : List Char} {later : List (List Char)}
    (cut : ∀ current, splitAtPair mark current right = (current.reverse ++ first) :: later) :
    splitAtPair mark [] (spaced left sign right) = spaced left sign first :: later := by
  have shape (right) : spaced left sign right = (left ++ ' ' :: (sign ++ [' '])) ++ right := by
    simp [spaced]
  have noMark : mark ∉ left ++ ' ' :: (sign ++ [' ']) := by
    have noAnd : ∀ entry ∈ relations, '&' ∉ ' ' :: (entry.1 ++ [' ']) := by decide
    have noOr : ∀ entry ∈ relations, '|' ∉ ' ' :: (entry.1 ++ [' ']) := by decide
    rw [List.mem_append, not_or]
    rcases isMark with rfl | rfl
    · exact ⟨fun inside => absurd (path.ofReference _ inside) (by decide), noAnd _ member⟩
    · exact ⟨fun inside => absurd (path.ofReference _ inside) (by decide), noOr _ member⟩
  rw [shape, splitAtPair_append noMark, List.append_nil, cut, List.reverse_reverse, shape]

end Comparison

namespace Reference

theorem segment {front rest : List Char} (noDot : '.' ∉ front) (ends : ∀ c ∈ rest.head?, c = '.') :
    (front ++ rest).takeWhile (· != '.') = front ∧ (front ++ rest).dropWhile (· != '.') = rest := by
  have passes : ∀ c ∈ front, (c != '.') = true := by
    intro c member
    rw [bne_iff_ne]
    rintro rfl
    exact noDot member
  rw [List.takeWhile_append_of_pos passes, List.dropWhile_append_of_pos passes]
  cases rest with
  | nil => simp
  | cons first rest =>
      obtain rfl := ends first rfl
      simp

theorem ofText_dotless {name : List Char} (noDot : '.' ∉ name) :
    ofText name = .global (String.ofList name) := by
  have whole : (name ++ []).dropWhile (· != '.') = [] := (segment noDot (by simp)).2
  rw [List.append_nil] at whole
  rw [ofText, whole]

theorem ofText_name {name : List Char} (named : IsName name) :
    ofText name = .global (String.ofList name) :=
  ofText_dotless fun member => absurd (named.words _ member) (by decide)

end Reference

namespace World

theorem holds_judgeAny_cons (world : World) (part : List Char) (rest : List (List Char)) :
    (world.judgeAny (part :: rest)).holds =
      ((world.judgeComparison part).holds || (world.judgeAny rest).holds) := by
  rw [judgeAny]
  by_cases first : (world.judgeComparison part).holds
  · simp [first]
  · simp [first]

theorem holds_judgeAll_cons (world : World) (part : List Char) (rest : List (List Char)) :
    (world.judgeAll (part :: rest)).holds =
      ((world.judgeAny (splitAtPair '|' [] part)).holds && (world.judgeAll rest).holds) := by
  rw [judgeAll]
  by_cases first : (world.judgeAny (splitAtPair '|' [] part)).holds
  · simp [first]
  · simp [first]

theorem judge_spaced (world : World) {left sign right : List Char} {relation : Relation}
    (path : IsPath left) (member : (sign, relation) ∈ Comparison.relations)
    (phrase : IsPhrase right) (noAnd : ¬ ['&', '&'] <:+: right) (noOr : ¬ ['|', '|'] <:+: right) :
    world.judge (String.ofList (spaced left sign right)) =
      { holds := relation.holdsOf (world.resolve? (Reference.ofText left)) (world.valueOf right) } := by
  have andCut := Comparison.splitAtPair_spaced (.inl rfl) path member (splitAtPair_of_noPair noAnd)
  have orCut := Comparison.splitAtPair_spaced (.inr rfl) path member (splitAtPair_of_noPair noOr)
  rw [judge, String.toList_ofList, andCut, judgeAll, orCut, judgeAny]
  simp only [judgeComparison, trim_spaced path.phrase sign phrase,
    Comparison.ofText?_spaced path member phrase]
  cases relation.holdsOf (world.resolve? (Reference.ofText left)) (world.valueOf right) with
  | true => rfl
  | false => rfl

end World

end StoryScript
