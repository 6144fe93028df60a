import StoryScript.Proofs.Diagnostic.Overflow
import StoryScript.Proofs.World.Comparison

/-!
How conditions are judged. A condition is judged through its parts, and these in the same way, until
comparisons are left; what has settled the matter keeps the rest from being looked at. It is shown
that two cuts are enough for this, and which comparisons are looked at.
-/

namespace StoryScript

open Text

def Comparison.Unread (text : List Char) : Prop :=
  ¬ ∃ sign relation, (sign, relation) ∈ relations ∧
    ∃ left right, Sides isReference sign left right (trim text)

theorem Comparison.unread_iff (text : List Char) :
    Unread text ↔ ofText? (trim text) = none := by
  rw [Unread, ← isSome_ofText?_iff (trim_trim text), Bool.not_eq_true, Option.isSome_eq_false_iff,
    Option.isNone_iff_eq_none]

instance : DecidablePred Comparison.Unread := fun text =>
  decidable_of_iff ((Comparison.ofText? (trim text)).isNone = true) (by
    rw [Comparison.unread_iff, Option.isNone_iff_eq_none])

def lookedAt {α : Type u} (settles : α → Bool) : List α → List α
  | [] => []
  | item :: rest => if settles item then [item] else item :: lookedAt settles rest

mutual

/-- How the text of a condition is judged: where it holds `&&` through the parts between, else where
it holds `||` through the parts between these, and otherwise as a comparison. -/
inductive Judged (world : World) : List Char → Verdict → Prop
  | all {text verdict} : ['&', '&'] <:+: trim text →
      JudgedParts world false (splitAtPair '&' [] (trim text)) verdict → Judged world text verdict
  | any {text verdict} : ¬ ['&', '&'] <:+: trim text → ['|', '|'] <:+: trim text →
      JudgedParts world true (splitAtPair '|' [] (trim text)) verdict → Judged world text verdict
  | comparison {text} : ¬ ['&', '&'] <:+: trim text → ¬ ['|', '|'] <:+: trim text →
      Judged world text (world.judgeComparison text)

/-- How parts are judged from the left, up to the first with the outcome that decides for all. -/
inductive JudgedParts (world : World) : Bool → List (List Char) → Verdict → Prop
  | undecided {deciding} : JudgedParts world deciding [] { holds := !deciding }
  | decided {deciding part rest verdict} : Judged world part verdict → verdict.holds = deciding →
      JudgedParts world deciding (part :: rest) verdict
  | goesOn {deciding part rest first later} : Judged world part first → first.holds = !deciding →
      JudgedParts world deciding rest later →
      JudgedParts world deciding (part :: rest)
        { later with complaints := first.complaints ++ later.complaints }

end

namespace World

def judgeText (world : World) (text : List Char) : Verdict :=
  world.judgeAll (splitAtPair '&' [] text)

def judgeParts (world : World) (deciding : Bool) : List (List Char) → Verdict
  | [] => { holds := !deciding }
  | part :: rest =>
      let first := world.judgeText part
      if first.holds = deciding then first
      else
        let later := world.judgeParts deciding rest
        { later with complaints := first.complaints ++ later.complaints }

variable (world : World)

theorem judgeComparison_trim (text : List Char) :
    world.judgeComparison (trim text) = world.judgeComparison text := by
  simp only [judgeComparison, trim_trim]

theorem judgeAny_map_trim (parts : List (List Char)) :
    world.judgeAny (parts.map trim) = world.judgeAny parts := by
  induction parts with
  | nil => rfl
  | cons part rest ih => simp only [List.map_cons, judgeAny, judgeComparison_trim, ih]

theorem judgeAny_trim (text : List Char) :
    world.judgeAny (splitAtPair '|' [] (trim text)) = world.judgeAny (splitAtPair '|' [] text) := by
  rw [← judgeAny_map_trim, ← map_trim_splitAtPair (by decide), judgeAny_map_trim]

theorem judgeAll_map_trim (parts : List (List Char)) :
    world.judgeAll (parts.map trim) = world.judgeAll parts := by
  induction parts with
  | nil => rfl
  | cons part rest ih => simp only [List.map_cons, judgeAll, judgeAny_trim, ih]

theorem judgeText_trim (text : List Char) : world.judgeText (trim text) = world.judgeText text := by
  rw [judgeText, judgeText, ← judgeAll_map_trim, ← map_trim_splitAtPair (by decide),
    judgeAll_map_trim]

theorem judgeText_of_noAnd {text : List Char} (noAnd : ¬ ['&', '&'] <:+: text) :
    world.judgeText text = world.judgeAny (splitAtPair '|' [] text) := by
  rw [judgeText, splitAtPair_of_noPair noAnd, List.reverse_nil, List.nil_append, judgeAll]
  cases world.judgeAny (splitAtPair '|' [] text) with
  | mk holds complaints => cases holds <;> simp [judgeAll]

theorem judgeText_of_noPair {text : List Char} (noAnd : ¬ ['&', '&'] <:+: text)
    (noOr : ¬ ['|', '|'] <:+: text) : world.judgeText text = world.judgeComparison text := by
  rw [judgeText_of_noAnd world noAnd, splitAtPair_of_noPair noOr, List.reverse_nil,
    List.nil_append, judgeAny]
  cases world.judgeComparison text with
  | mk holds complaints => cases holds <;> simp [judgeAny]

theorem judgeAny_eq_judgeParts {parts : List (List Char)}
    (comparisons : ∀ part ∈ parts, world.judgeText part = world.judgeComparison part) :
    world.judgeAny parts = world.judgeParts true parts := by
  induction parts with
  | nil => rfl
  | cons part rest ih =>
      rw [List.forall_mem_cons] at comparisons
      simp only [judgeAny, judgeParts, comparisons.1, ih comparisons.2]

theorem judgeAll_eq_judgeParts {parts : List (List Char)}
    (alternatives : ∀ part ∈ parts,
      world.judgeText part = world.judgeAny (splitAtPair '|' [] part)) :
    world.judgeAll parts = world.judgeParts false parts := by
  induction parts with
  | nil => rfl
  | cons part rest ih =>
      rw [List.forall_mem_cons] at alternatives
      simp only [judgeAll, judgeParts, alternatives.1, ih alternatives.2]
      cases (world.judgeAny (splitAtPair '|' [] part)).holds with
      | true => simp
      | false => simp

/-- Parts hold no pair of the mark at which they were cut. -/
theorem judgeText_eq_all (text : List Char) :
    world.judgeText text = world.judgeParts false (splitAtPair '&' [] (trim text)) := by
  rw [← judgeText_trim]
  apply judgeAll_eq_judgeParts
  intro part member
  exact world.judgeText_of_noAnd ((parted '&' (trim text)).noPair member)

theorem judgeText_eq_any {text : List Char} (noAnd : ¬ ['&', '&'] <:+: trim text) :
    world.judgeText text = world.judgeParts true (splitAtPair '|' [] (trim text)) := by
  rw [← judgeText_trim, judgeText_of_noAnd world noAnd]
  apply judgeAny_eq_judgeParts
  intro part member
  have within := (parted '|' (trim text)).isInfix member
  exact world.judgeText_of_noPair (fun paired => noAnd (paired.trans within))
    ((parted '|' (trim text)).noPair member)

theorem judgeText_eq_comparison {text : List Char} (noAnd : ¬ ['&', '&'] <:+: trim text)
    (noOr : ¬ ['|', '|'] <:+: trim text) :
    world.judgeText text = world.judgeComparison text := by
  rw [← judgeText_trim, judgeText_of_noPair world noAnd noOr, judgeComparison_trim]

end World

variable {world : World}

mutual

theorem Judged.eq_judgeText {text : List Char} {verdict : Verdict} :
    Judged world text verdict → verdict = world.judgeText text
  | .all _ parts => parts.eq_judgeParts.trans (world.judgeText_eq_all text).symm
  | .any noAnd _ parts => parts.eq_judgeParts.trans (world.judgeText_eq_any noAnd).symm
  | .comparison noAnd noOr => (world.judgeText_eq_comparison noAnd noOr).symm

theorem JudgedParts.eq_judgeParts {deciding : Bool} {parts : List (List Char)} {verdict : Verdict} :
    JudgedParts world deciding parts verdict → verdict = world.judgeParts deciding parts
  | .undecided => rfl
  | .decided first outcome => by
      have same := first.eq_judgeText
      rw [World.judgeParts, ← same, if_pos outcome]
  | .goesOn first outcome later => by
      have same := first.eq_judgeText
      have rest := later.eq_judgeParts
      rw [World.judgeParts, ← same, if_neg (by simp [outcome]), ← rest]

end

theorem judgedParts_judgeParts (deciding : Bool) {parts : List (List Char)}
    (judged : ∀ part ∈ parts, Judged world part (world.judgeText part)) :
    JudgedParts world deciding parts (world.judgeParts deciding parts) := by
  induction parts with
  | nil => exact .undecided
  | cons part rest ih =>
      rw [List.forall_mem_cons] at judged
      rw [World.judgeParts]
      by_cases outcome : (world.judgeText part).holds = deciding
      · rw [if_pos outcome]
        exact .decided judged.1 outcome
      · rw [if_neg outcome]
        exact .goesOn judged.1 (Bool.eq_not.mpr outcome) (ih judged.2)

theorem judged_of_noAnd {text : List Char} (noAnd : ¬ ['&', '&'] <:+: trim text) :
    Judged world text (world.judgeText text) := by
  by_cases paired : ['|', '|'] <:+: trim text
  · rw [world.judgeText_eq_any noAnd]
    refine .any noAnd paired (judgedParts_judgeParts true ?_)
    intro part member
    have within := (isInfix_trim part).trans ((parted '|' (trim text)).isInfix member)
    have noAnd : ¬ ['&', '&'] <:+: trim part := fun paired => noAnd (paired.trans within)
    have noOr : ¬ ['|', '|'] <:+: trim part := fun paired =>
      (parted '|' (trim text)).noPair member (paired.trans (isInfix_trim part))
    rw [world.judgeText_eq_comparison noAnd noOr]
    exact .comparison noAnd noOr
  · rw [world.judgeText_eq_comparison noAnd paired]
    exact .comparison noAnd paired

theorem judged_iff (text : List Char) (verdict : Verdict) :
    Judged world text verdict ↔ verdict = world.judgeText text := by
  constructor
  · exact Judged.eq_judgeText
  · rintro rfl
    by_cases paired : ['&', '&'] <:+: trim text
    · rw [world.judgeText_eq_all]
      refine .all paired (judgedParts_judgeParts false ?_)
      intro part member
      exact judged_of_noAnd fun paired =>
        (parted '&' (trim text)).noPair member (paired.trans (isInfix_trim part))
    · exact judged_of_noAnd paired

namespace World

variable (world : World)

/-- The comparisons that are looked at: a part of which none holds settles the condition, and one
that holds settles the part in which it stands. -/
def reached (text : List Char) : List (List Char) :=
  (lookedAt (fun part => !(world.judgeAny (splitAtPair '|' [] part)).holds)
    (splitAtPair '&' [] text)).flatMap fun part =>
      lookedAt (fun alternative => (world.judgeComparison alternative).holds)
        (splitAtPair '|' [] part)

theorem holds_judgeAny (parts : List (List Char)) :
    (world.judgeAny parts).holds = parts.any fun part => (world.judgeComparison part).holds := by
  induction parts with
  | nil => rfl
  | cons part rest ih => rw [holds_judgeAny_cons, ih, List.any_cons]

theorem holds_judgeAll (parts : List (List Char)) :
    (world.judgeAll parts).holds =
      parts.all fun part => (world.judgeAny (splitAtPair '|' [] part)).holds := by
  induction parts with
  | nil => rfl
  | cons part rest ih => rw [holds_judgeAll_cons, ih, List.all_cons]

theorem complaints_judgeAny (parts : List (List Char)) :
    (world.judgeAny parts).complaints =
      (lookedAt (fun part => (world.judgeComparison part).holds) parts).flatMap fun part =>
        (world.judgeComparison part).complaints := by
  induction parts with
  | nil => rfl
  | cons part rest ih =>
      rw [judgeAny, lookedAt]
      cases (world.judgeComparison part).holds with
      | true => simp
      | false => simp [ih]

theorem complaints_judgeAll (parts : List (List Char)) :
    (world.judgeAll parts).complaints =
      (lookedAt (fun part => !(world.judgeAny (splitAtPair '|' [] part)).holds) parts).flatMap
        fun part => (world.judgeAny (splitAtPair '|' [] part)).complaints := by
  induction parts with
  | nil => rfl
  | cons part rest ih =>
      rw [judgeAll, lookedAt]
      cases (world.judgeAny (splitAtPair '|' [] part)).holds with
      | true => simp [ih]
      | false => simp

theorem complaints_judgeComparison (text : List Char) :
    (world.judgeComparison text).complaints =
      if Comparison.Unread text then [(Complaint.noComparison (String.ofList (trim text))).diagnostic]
      else [] := by
  rw [judgeComparison]
  cases read : Comparison.ofText? (trim text) with
  | none => simp [(Comparison.unread_iff text).mpr read]
  | some comparison => simp [Comparison.unread_iff, read]

theorem complaints_judgeText (text : List Char) :
    (world.judgeText text).complaints =
      ((world.reached text).filter fun comparison => Comparison.Unread comparison).map
        fun comparison =>
          (Complaint.noComparison (String.ofList (trim comparison))).diagnostic := by
  rw [judgeText, complaints_judgeAll]
  simp only [complaints_judgeAny, complaints_judgeComparison, ← List.flatMap_assoc]
  change (world.reached text).flatMap _ = _
  induction world.reached text with
  | nil => rfl
  | cons comparison rest ih =>
      rw [List.flatMap_cons, ih, List.filter_cons]
      by_cases unread : Comparison.Unread comparison
      · simp [unread]
      · simp [unread]

/-- A condition has one verdict, by whatever parts it is judged. It holds when each part of it has a
comparison that holds; of the comparisons that are looked at, those that are none are complained about
one by one, and nothing else of the world changes. -/
theorem judge_through_parts (condition : String) :
    let text := trim condition.toList
    let verdict := world.judge condition
    (∀ other, Judged world condition.toList other ↔ other = verdict) ∧
      (verdict.holds = true ↔ ∀ part ∈ splitAtPair '&' [] text,
        ∃ alternative ∈ splitAtPair '|' [] part,
          (world.judgeComparison (trim alternative)).holds = true) ∧
      verdict.complaints =
        ((world.reached text).filter fun comparison => Comparison.Unread comparison).map
          (fun comparison =>
            (Complaint.noComparison (String.ofList (trim comparison))).diagnostic) ∧
      world.record verdict.complaints =
        { world with diagnostics := verdict.complaints.foldl Diagnostics.record world.diagnostics } := by
  intro text verdict
  have trimmed : verdict = world.judgeText text := (world.judgeText_trim condition.toList).symm
  refine ⟨judged_iff condition.toList, ?_, ?_, ?_⟩
  · rw [trimmed, judgeText, holds_judgeAll, List.all_eq_true]
    simp only [holds_judgeAny, List.any_eq_true, judgeComparison_trim]
  · rw [trimmed, complaints_judgeText]
  · rw [record, Diagnostics.recordAll_eq_foldl]

end World

end StoryScript
