import StoryScript.Proofs.Script.OpenDialogue
import StoryScript.Proofs.Script.Payload
import StoryScript.Proofs.Script.Yield

/-!
The order of the tokens of a text. A dialogue that runs over several lines has the number of the line
that opens it, and while it is open no other token comes, so that the numbers ascend.
-/

namespace StoryScript

open Text

namespace Text

theorem length_lines (text : String) : (lines text).length = text.toList.count '\n' + 1 := by
  rw [lines, List.length_map]
  induction text.toList with
  | nil => rfl
  | cons c rest ih =>
      rw [List.splitOn_cons_eq_if_modifyHead, List.count_cons]
      by_cases feed : c = '\n'
      · rw [if_pos (by simp [feed]), if_pos (by simp [feed]), List.length_cons, ih]
      · rw [if_neg (by simp [feed]), if_neg (by simp [feed]), List.length_modifyHead, ih]

end Text

namespace Mode

/-- The first line that a token may have from the line with the number on. -/
def earliest (number : Nat) (mode : Mode) : Nat :=
  (mode.openDialogue?.map OpenDialogue.openedOn).getD number

theorem earliest_of_closed {mode : Mode} (closed : mode.openDialogue? = none) (number : Nat) :
    mode.earliest number = number := by
  rw [earliest, closed]
  rfl

theorem earliest_le {mode : Mode} {number : Nat}
    (known : ∀ dialogue ∈ mode.openDialogue?, dialogue.OpenedBefore number) :
    mode.earliest number ≤ number := by
  cases isOpen : mode.openDialogue? with
  | none => exact Nat.le_of_eq (earliest_of_closed isOpen number)
  | some dialogue =>
      rw [earliest, isOpen]
      exact Nat.le_of_lt (known dialogue isOpen).earlier

end Mode

namespace LineScan

variable {number : Nat} {mode : Mode} {scan : LineScan}

theorem Yields.closed_of_token (yields : Yields number mode scan) {token : Token}
    (found : token ∈ scan.token) : scan.mode.openDialogue? = none ∧ token.kind ≠ .endOfText := by
  cases yields with
  | nothing | complaint => contradiction
  | statement statement _ closed =>
      obtain rfl := Option.some.inj found
      refine ⟨closed, ?_⟩
      cases statement <;> exact nofun
  | speech | header | trait =>
      obtain rfl := Option.some.inj found
      exact ⟨rfl, nofun⟩

theorem Yields.unmatched (yields : Yields number mode scan) {note : Complaint}
    (noted : note ∈ scan.note) (unmatched : note.kind = .unmatchedLine) :
    scan.token = none ∧ scan.mode.openDialogue? = none := by
  cases yields with
  | complaint _ closed => exact ⟨rfl, closed⟩
  | header cutting => simp [cutting note noted] at unmatched
  | nothing | statement | speech | trait => contradiction

namespace Turn

variable (turn : Turn number mode.openDialogue? scan)
  (known : ∀ dialogue ∈ mode.openDialogue?, dialogue.OpenedBefore number)
include turn known

theorem line_of_token {token : Token} (found : token ∈ scan.token) :
    mode.earliest number ≤ token.line ∧ token.line ≤ number := by
  have past := Mode.earliest_le known
  unfold Mode.earliest at past ⊢
  generalize mode.openDialogue? = before at turn known past
  cases turn with
  | keeps _ tokens =>
      have line := (tokens token found).1
      omega
  | opens => contradiction
  | closes =>
      obtain rfl := Option.some.inj found
      exact ⟨Nat.le_refl _, past⟩
  | cuts =>
      obtain rfl := Option.some.inj found
      exact ⟨past, Nat.le_refl number⟩

theorem earliest_mono : mode.earliest number ≤ scan.mode.earliest (number + 1) := by
  have past := Mode.earliest_le known
  unfold Mode.earliest at past ⊢
  generalize mode.openDialogue? = before at turn known past
  cases turn with
  | keeps same =>
      rw [same]
      cases before with
      | none => exact Nat.le_succ number
      | some dialogue => exact Nat.le_refl _
  | opens => exact Nat.le_refl number
  | closes | cuts => exact Nat.le_succ_of_le past

end Turn

end LineScan

namespace TokenStream

section

variable {number : Nat} {mode : Mode} (rows : List (List Char))
  (known : ∀ dialogue ∈ mode.openDialogue?, dialogue.OpenedBefore number)
include known

theorem line_of_token : ∀ token ∈ (ofLines number mode rows).tokens,
    mode.earliest number ≤ token.line ∧ token.line < number + rows.length := by
  induction rows generalizing number mode with
  | nil => nofun
  | cons raw rest ih =>
      have turn := turn_scanLine raw number mode
      intro token member
      rw [List.length_cons]
      rcases List.mem_append.mp member with first | later
      · have line := turn.line_of_token known (Option.mem_toList.mp first)
        omega
      · have line := ih (turn.openedBefore known) token later
        have mono := turn.earliest_mono known
        omega

theorem pairwise_lines :
    (ofLines number mode rows).tokens.Pairwise (fun left right => left.line < right.line) := by
  induction rows generalizing number mode with
  | nil => exact .nil
  | cons raw rest ih =>
      have turn := turn_scanLine raw number mode
      have later := ih (turn.openedBefore known)
      simp only [ofLines]
      cases found : (scanLine raw number mode).token with
      | none => exact later
      | some token =>
          -- No dialogue is open after a token, so that what comes later starts on a later line.
          have closed := ((yields_scanLine raw number mode).closed_of_token found).1
          have line := turn.line_of_token known found
          refine List.pairwise_cons.mpr ⟨fun other member => ?_, later⟩
          have after := line_of_token rest (turn.openedBefore known) other member
          rw [Mode.earliest_of_closed closed] at after
          omega

omit known in
theorem line_of_unmatched : ∀ entry ∈ (ofLines number mode rows).complaints,
    entry.kind = .unmatchedLine → ∃ line, entry.line = some line ∧ number ≤ line := by
  induction rows generalizing number mode with
  | nil =>
      intro entry member unmatched
      cases mode with
      | dialogue speaker text openedOn =>
          rw [List.mem_singleton.mp member] at unmatched
          contradiction
      | normal | block | comment => contradiction
  | cons raw rest ih =>
      intro entry member unmatched
      rcases List.mem_append.mp member with here | later
      · obtain ⟨note, _, rfl⟩ := Option.map_eq_some_iff.mp (Option.mem_toList.mp here)
        exact ⟨number, rfl, Nat.le_refl number⟩
      · obtain ⟨line, same, after⟩ := ih entry later unmatched
        exact ⟨line, same, Nat.le_of_succ_le after⟩

theorem apart_of_unmatched : ∀ entry ∈ (ofLines number mode rows).complaints,
    entry.kind = .unmatchedLine →
      ∀ token ∈ (ofLines number mode rows).tokens, entry.line ≠ some token.line := by
  induction rows generalizing number mode with
  | nil => nofun
  | cons raw rest ih =>
      have turn := turn_scanLine raw number mode
      have yields := yields_scanLine raw number mode
      have after := turn.openedBefore known
      intro entry complained unmatched token member
      rcases List.mem_append.mp complained with here | laterEntry
      · obtain ⟨note, noted, rfl⟩ := Option.map_eq_some_iff.mp (Option.mem_toList.mp here)
        obtain ⟨silent, closed⟩ := yields.unmatched noted unmatched
        rcases List.mem_append.mp member with first | later
        · simp [silent] at first
        · have line := line_of_token rest after token later
          rw [Mode.earliest_of_closed closed] at line
          simp only [Complaint.diagnostic, ne_eq, Option.some.injEq]
          omega
      · rcases List.mem_append.mp member with first | later
        · obtain ⟨line, same, below⟩ := line_of_unmatched rest entry laterEntry unmatched
          have above := turn.line_of_token known (Option.mem_toList.mp first)
          simp only [same, ne_eq, Option.some.injEq]
          omega
        · exact ih after entry laterEntry unmatched token later

end

theorem kind_of_token (rows : List (List Char)) (number : Nat) (mode : Mode) :
    ∀ token ∈ (ofLines number mode rows).tokens, token.kind ≠ .endOfText := by
  induction rows generalizing number mode with
  | nil => nofun
  | cons raw rest ih =>
      intro token member
      rcases List.mem_append.mp member with first | later
      · exact ((yields_scanLine raw number mode).closed_of_token (Option.mem_toList.mp first)).2
      · exact ih _ _ token later

theorem beforeEnd_ofText (text : String) :
    Token.beforeEnd (ofText text).tokens = (ofLines 1 .normal (lines text)).tokens := by
  have others : ∀ token ∈ (ofLines 1 .normal (lines text)).tokens,
      (token.kind != .endOfText) = true :=
    fun token member => bne_iff_ne.mpr (kind_of_token _ _ _ token member)
  rw [Token.beforeEnd, ofText, List.takeWhile_append_of_pos others]
  exact List.append_nil _

/-- The tokens of a text end with the one end of text, which has the number of the last line. Those
before it ascend line by line, none of them is on a line that is complained about as unknown, be the
complaint kept or only counted, and reading them all as a story gives no cause for complaint. -/
theorem tokens_in_sequence (text : String) :
    let stream := ofText text
    let count := text.toList.count '\n' + 1
    ∃ body, stream.tokens = body ++ [.endOfText count] ∧
      (∀ token ∈ body, token.kind ≠ .endOfText ∧ 1 ≤ token.line ∧ token.line ≤ count) ∧
      body.Pairwise (fun left right => left.line < right.line) ∧
      (∀ entry ∈ stream.complaints, entry.kind = .unmatchedLine →
        ∀ token ∈ body, entry.line ≠ some token.line) ∧
      (Story.ofTokens stream.tokens).complaints = [] := by
  intro stream count
  have closed : ∀ dialogue ∈ Mode.normal.openDialogue?, dialogue.OpenedBefore 1 := nofun
  have length : (lines text).length = count := length_lines text
  refine ⟨(ofLines 1 .normal (lines text)).tokens, ?_, ?_, pairwise_lines _ closed,
    apart_of_unmatched _ closed, Story.complaints_ofTokens (complete_ofText text)⟩
  · rw [← length]
    rfl
  · intro token member
    have line := line_of_token _ closed token member
    rw [Mode.earliest_of_closed rfl] at line
    exact ⟨kind_of_token _ _ _ token member, line.1, by omega⟩

theorem last_line_unknown :
    let stream := ofText "?"
    stream.tokens = [.endOfText 1] ∧
      ¬ ∀ entry ∈ stream.complaints, entry.kind = .unmatchedLine →
        ∀ token ∈ stream.tokens, entry.line ≠ some token.line := by
  decide +kernel

end TokenStream

end StoryScript
