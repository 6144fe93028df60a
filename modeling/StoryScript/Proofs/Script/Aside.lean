import StoryScript.Proofs.Script.Renumbering

/-!
Block comments. A comment of whole lines says nothing, and after it the reading goes on as if the
comment were not there, in an open dialogue as well as in the block of a character. A text with a
comment put into it is read as before, but for the numbers of the lines below the comment.
-/

namespace StoryScript

open Text

/-- The lines of a block comment: one that opens it, those that do not close it, and one that does.
A line that opens a comment closes none, whatever it ends with. -/
structure IsAside (opening : List Char) (inside : List (List Char)) (closing : List Char) :
    Prop where
  opens : ['/', '*'] <+: trim opening
  goesOn : ∀ raw ∈ inside, ['/', '*'] <+: trim raw ∨ ¬ ['*', '/'] <:+ trim raw
  closes : ['*', '/'] <:+ trim closing ∧ ¬ ['/', '*'] <+: trim closing

/-- Whether a comment can open without ending anything: outside comments, and with indentation in
the block of a character. -/
def Mode.Admits (opening : List Char) : Mode → Prop
  | .normal => True
  | .dialogue _ _ _ => True
  | .block _ => Scan.isIndented opening = true
  | .comment _ => False

def pushedDown (above added line : Nat) : Nat :=
  if line ≤ above then line else line + added

theorem moves_above (above added : Nat) : Moves (pushedDown above added) above 1 1 :=
  fun _ _ => if_pos (by omega)

theorem moves_below (above added count : Nat) :
    Moves (pushedDown above added) count (1 + above) (1 + above + added) := by
  intro index _
  rw [pushedDown, if_neg (by omega)]
  omega

def LineScan.IsSilent (scan : LineScan) : Prop :=
  scan.token = none ∧ scan.note = none

namespace Scan

theorem opensComment_iff (line : List Char) : opensComment line = true ↔ ['/', '*'] <+: line :=
  List.isPrefixOf_iff_prefix

theorem closesComment_iff (line : List Char) : closesComment line = true ↔ ['*', '/'] <:+ line :=
  List.isSuffixOf_iff_suffix

theorem scanContent_opening {line : List Char} (opens : ['/', '*'] <+: line) (number : Nat)
    (mode : Mode) : scanContent line number mode = { mode := .comment mode } := by
  simp only [scanContent, (opensComment_iff line).mpr opens, if_true]

theorem scanLine_opening {raw : List Char} (opens : ['/', '*'] <+: trim raw) {mode : Mode}
    (admits : mode.Admits raw) (number : Nat) :
    scanLine raw number mode = { mode := .comment mode } := by
  obtain ⟨rest, same⟩ := opens
  have content := fun mode => scanContent_opening ⟨rest, rfl⟩ number mode
  have noHeader : Line.character? (['/', '*'] ++ rest) = none := by simp [Line.character?]
  cases mode with
  | normal | dialogue => simp only [scanLine, scanOutside, ← same, noHeader, content]
  | block character =>
      have indented : isIndented raw = true := admits
      have noTrait : Line.trait? (['/', '*'] ++ rest) = none := by
        have symbol : isWord '/' = false := by decide
        simp [Line.trait?, symbol]
      have nonempty : (['/', '*'] ++ rest).isEmpty = false := rfl
      simp only [scanLine, scanOutside, ← same, noHeader, indented, if_true, scanIndented, nonempty,
        Bool.false_eq_true, if_false, noTrait, content]
  | comment resume => exact admits.elim

theorem scanLine_inside {raw : List Char}
    (goesOn : ['/', '*'] <+: trim raw ∨ ¬ ['*', '/'] <:+ trim raw) (number : Nat) (resume : Mode) :
    scanLine raw number (.comment resume) = { mode := .comment resume } := by
  rw [← opensComment_iff, ← closesComment_iff] at goesOn
  simp only [scanLine]
  rw [if_neg]
  rcases goesOn with opens | noEnd
  · simp [opens]
  · simp [noEnd]

theorem scanLine_closing {raw : List Char}
    (closes : ['*', '/'] <:+ trim raw ∧ ¬ ['/', '*'] <+: trim raw) (number : Nat) (resume : Mode) :
    scanLine raw number (.comment resume) = { mode := resume } := by
  rw [← opensComment_iff, ← closesComment_iff, Bool.not_eq_true] at closes
  simp only [scanLine, closes, Bool.not_false, Bool.and_true, if_true]

end Scan

theorem LineScan.filterMap_silent {scans : List LineScan} (silent : ∀ scan ∈ scans, scan.IsSilent) :
    scans.filterMap (·.token) = [] :=
  List.filterMap_eq_nil_iff.mpr fun scan member => (silent scan member).1

theorem LineScan.filterMap_renumber (shift : Nat → Nat) (scans : List LineScan) :
    (scans.map (·.renumber shift)).filterMap (·.token) =
      (scans.filterMap (·.token)).map (·.renumber shift) := by
  rw [List.filterMap_map, List.map_filterMap]
  rfl

namespace TokenStream

theorem scan_inside {inside : List (List Char)}
    (goesOn : ∀ raw ∈ inside, ['/', '*'] <+: trim raw ∨ ¬ ['*', '/'] <:+ trim raw) (number : Nat)
    (resume : Mode) :
    (∀ scan ∈ scanLines number (.comment resume) inside, scan.IsSilent) ∧
      modeAfter number (.comment resume) inside = .comment resume := by
  induction inside generalizing number with
  | nil => exact ⟨List.forall_mem_nil _, rfl⟩
  | cons raw rest ih =>
      obtain ⟨here, later⟩ := List.forall_mem_cons.mp goesOn
      obtain ⟨silent, after⟩ := ih later (number + 1)
      have first := Scan.scanLine_inside here number resume
      simp only [scanLines, modeAfter, first]
      exact ⟨List.forall_mem_cons.mpr ⟨⟨rfl, rfl⟩, silent⟩, after⟩

section

variable {opening closing : List Char} {inside : List (List Char)}

theorem scan_aside (aside : IsAside opening inside closing) {mode : Mode}
    (admits : mode.Admits opening) (number : Nat) :
    (∀ scan ∈ scanLines number mode (opening :: (inside ++ [closing])), scan.IsSilent) ∧
      modeAfter number mode (opening :: (inside ++ [closing])) = mode := by
  have first := Scan.scanLine_opening aside.opens admits number
  obtain ⟨silent, after⟩ := scan_inside aside.goesOn (number + 1) mode
  have last := Scan.scanLine_closing aside.closes (number + 1 + inside.length) mode
  simp only [scanLines, modeAfter, first, scanLines_append, modeAfter_append, after, last]
  refine ⟨List.forall_mem_cons.mpr ⟨⟨rfl, rfl⟩, List.forall_mem_append.mpr ⟨silent, ?_⟩⟩, trivial⟩
  exact List.forall_mem_singleton.mpr ⟨rfl, rfl⟩

variable (aside : IsAside opening inside closing) {before : List (List Char)}
  (admits : (modeAfter 1 .normal before).Admits opening) (after : List (List Char))
include aside admits

theorem scan_commented :
    let shift := pushedDown before.length (inside.length + 2)
    let commented := before ++ (opening :: (inside ++ [closing]) ++ after)
    let first := modeAfter 1 .normal before
    (∃ silent : List LineScan, (∀ scan ∈ silent, scan.IsSilent) ∧
        silent.length = inside.length + 2 ∧
        scanLines 1 .normal commented = (scanLines 1 .normal before).map (·.renumber shift) ++
          (silent ++ (scanLines (1 + before.length) first after).map (·.renumber shift))) ∧
      modeAfter 1 .normal commented = (modeAfter 1 .normal (before ++ after)).renumber shift := by
  intro shift commented first
  have length : (opening :: (inside ++ [closing])).length = inside.length + 2 := by simp
  obtain ⟨silent, resumed⟩ := scan_aside aside admits (1 + before.length)
  -- The lines before the comment keep their numbers, also in what they leave open.
  obtain ⟨front, unmoved⟩ := scan_renumber (moves_above before.length (inside.length + 2)) .normal
  obtain ⟨back, last⟩ :=
    scan_renumber (moves_below before.length (inside.length + 2) after.length) first
  change modeAfter 1 .normal before = first.renumber shift at unmoved
  rw [← unmoved] at back last
  refine ⟨⟨_, silent, (length_scanLines _ _ _).trans length, ?_⟩, ?_⟩
  · rw [scanLines_append, scanLines_append, resumed, length, ← front, ← back]
    rfl
  · rw [modeAfter_append, modeAfter_append, modeAfter_append, resumed, length, ← last]

theorem tokens_commented :
    (ofLines 1 .normal (before ++ (opening :: (inside ++ [closing]) ++ after))).tokens =
      (ofLines 1 .normal (before ++ after)).tokens.map
        (·.renumber (pushedDown before.length (inside.length + 2))) := by
  obtain ⟨⟨silent, nothing, _, scans⟩, _⟩ := scan_commented aside admits after
  simp only [tokens_ofLines, scans, scanLines_append, List.filterMap_append, List.map_append,
    LineScan.filterMap_renumber, LineScan.filterMap_silent nothing, List.nil_append]

theorem notices_commented :
    notices 1 .normal (before ++ (opening :: (inside ++ [closing]) ++ after)) =
      (notices 1 .normal (before ++ after)).map
        (·.renumber (pushedDown before.length (inside.length + 2))) := by
  obtain ⟨⟨silent, nothing, length, scans⟩, last⟩ := scan_commented aside admits after
  have above : Moves (pushedDown before.length (inside.length + 2))
      (scanLines 1 .normal before).length 1 1 := by
    rw [length_scanLines]
    exact moves_above _ _
  have below := moves_below before.length (inside.length + 2)
    (scanLines (1 + before.length) (modeAfter 1 .normal before) after).length
  have front := Notice.ofScans_renumber above
  have back := Notice.ofScans_renumber below
  have noNotice := Notice.ofScans_eq_nil fun scan member => (nothing scan member).2
  simp only [notices, scans, last, Notice.ofScans_append, noNotice, Notice.atEnd_renumber, front,
    back, List.map_append, List.length_map, length_scanLines, length, List.nil_append,
    scanLines_append]

end

end TokenStream

/-- A block comment says nothing, and the mode after it is the one before it. Put into a text it
changes neither the tokens nor what is complained about, kept or only counted, but for the numbers
of the lines below it. -/
theorem aside_only_renumbers {opening closing : List Char} {inside : List (List Char)}
    (aside : IsAside opening inside closing) :
    let rows := opening :: (inside ++ [closing])
    (∀ number (mode : Mode), mode.Admits opening →
      (∀ scan ∈ scanLines number mode rows, scan.token = none ∧ scan.note = none) ∧
        TokenStream.modeAfter number mode rows = mode) ∧
    ∀ (text commented : String) (before after : List (List Char)),
      lines text = before ++ after → lines commented = before ++ (rows ++ after) →
      (TokenStream.modeAfter 1 .normal before).Admits opening →
        let shift := pushedDown before.length (inside.length + 2)
        let told := TokenStream.notices 1 .normal (lines text)
        ∃ body, (TokenStream.ofText text).tokens = body ++ [.endOfText (lines text).length] ∧
          (TokenStream.ofText commented).tokens = body.map (·.renumber shift) ++
            [.endOfText ((lines text).length + (inside.length + 2))] ∧
          (TokenStream.ofText text).complaints = told.map Notice.diagnostic ∧
          (TokenStream.ofText commented).complaints =
            (told.map (·.renumber shift)).map Notice.diagnostic := by
  intro rows
  refine ⟨fun number mode admits => TokenStream.scan_aside aside admits number, ?_⟩
  intro text commented before after plain around admits shift told
  have tokens := TokenStream.tokens_commented aside admits after
  have notices := TokenStream.notices_commented aside admits after
  rw [← plain] at tokens notices
  refine ⟨(TokenStream.ofLines 1 .normal (lines text)).tokens, rfl, ?_,
    TokenStream.complaints_ofLines _ 1 .normal, ?_⟩
  · have length : (lines commented).length = (lines text).length + (inside.length + 2) := by
      rw [around, plain]
      simp only [rows, List.length_append, List.length_cons, List.length_nil]
      omega
    rw [TokenStream.ofText, around, ← tokens, ← length, around]
  · rw [← notices, ← TokenStream.complaints_ofLines, TokenStream.ofText, around]

def lanternText : String :=
  "@char A\n\tmood: calm\nA \"one\n\"\nB \"two\n@char C\n?"

theorem lanternText_renumbered :
    let opening := "/* A \"".toList
    let inside := ["@char B".toList, "/* again */".toList]
    let closing := "*/".toList
    let commented :=
      "@char A\n\tmood: calm\nA \"one\n/* A \"\n@char B\n/* again */\n*/\n\"\nB \"two\n@char C\n?"
    IsAside opening inside closing ∧
      (TokenStream.ofText commented).tokens = [.character "A" 1, .trait "A" "mood" "calm" 2,
        .dialogue "A" "one" 3, .character "C" 10, .endOfText 11] ∧
      (TokenStream.ofText commented).complaints =
        [(Complaint.dialogueCut "B" 9 "C").diagnostic (some 10),
          (Complaint.unknownPattern "?").diagnostic (some 11)] := by
  intro opening inside closing commented
  have aside : IsAside opening inside closing := ⟨by decide, by decide, by decide⟩
  have mode : TokenStream.modeAfter 1 .normal ((lines lanternText).take 3) =
      .dialogue "A" "one" 3 := by decide +kernel
  obtain ⟨body, tokens, moved, complaints, told⟩ := (aside_only_renumbers aside).2 lanternText
    commented ((lines lanternText).take 3) ((lines lanternText).drop 3)
    (List.take_append_drop 3 _).symm (by decide +kernel) (by rw [mode]; trivial)
  have notices : TokenStream.notices 1 .normal (lines lanternText) =
      [⟨6, .dialogueCut "B" 5 "C"⟩, ⟨7, .unknownPattern "?"⟩] := by decide +kernel
  have read : (TokenStream.ofText lanternText).tokens = [.character "A" 1,
      .trait "A" "mood" "calm" 2, .dialogue "A" "one" 3, .character "C" 6] ++ [.endOfText 7] := by
    decide +kernel
  have length : (lines lanternText).length = 7 := by decide +kernel
  rw [read, length] at tokens
  rw [← List.append_cancel_right tokens, length] at moved
  rw [notices] at told
  exact ⟨aside, moved, told⟩

end StoryScript
