import StoryScript.Proofs.Script.OpenDialogue

/-!
Line numbers. What a line is read as does not depend on its number, which is only handed on, so that
lines with other numbers are read as the same tokens and notices with other numbers.
-/

namespace StoryScript

open Text

def Token.renumber (shift : Nat → Nat) (token : Token) : Token :=
  { token with line := shift token.line }

/-- The complaint about a dialogue that is cut names the line on which the dialogue was opened. -/
def Complaint.renumber (shift : Nat → Nat) : Complaint → Complaint
  | .dialogueCut speaker openedOn character => .dialogueCut speaker (shift openedOn) character
  | complaint => complaint

def Mode.renumber (shift : Nat → Nat) : Mode → Mode
  | .normal => .normal
  | .block character => .block character
  | .comment resume => .comment (resume.renumber shift)
  | .dialogue speaker text openedOn => .dialogue speaker text (shift openedOn)

def LineScan.renumber (shift : Nat → Nat) (scan : LineScan) : LineScan where
  token := scan.token.map (·.renumber shift)
  mode := scan.mode.renumber shift
  note := scan.note.map (·.renumber shift)

structure Notice where
  line : Nat
  complaint : Complaint
  deriving DecidableEq

namespace Notice

def diagnostic (notice : Notice) : Diagnostic :=
  notice.complaint.diagnostic notice.line

def renumber (shift : Nat → Nat) (notice : Notice) : Notice :=
  ⟨shift notice.line, notice.complaint.renumber shift⟩

def ofScans (number : Nat) : List LineScan → List Notice
  | [] => []
  | scan :: rest => (scan.note.map (Notice.mk number)).toList ++ ofScans (number + 1) rest

def atEnd : Mode → List Notice
  | .dialogue speaker _ openedOn => [⟨openedOn, .dialogueOpen speaker⟩]
  | _ => []

end Notice

namespace TokenStream

def notices (number : Nat) (mode : Mode) (rows : List (List Char)) : List Notice :=
  Notice.ofScans number (scanLines number mode rows) ++ Notice.atEnd (modeAfter number mode rows)

theorem tokens_ofLines (rows : List (List Char)) (number : Nat) (mode : Mode) :
    (ofLines number mode rows).tokens = (scanLines number mode rows).filterMap (·.token) := by
  induction rows generalizing number mode with
  | nil => rfl
  | cons raw rest ih =>
      simp only [ofLines, scanLines, ih]
      cases found : (scanLine raw number mode).token <;> simp [found]

theorem complaints_ofLines (rows : List (List Char)) (number : Nat) (mode : Mode) :
    (ofLines number mode rows).complaints = (notices number mode rows).map Notice.diagnostic := by
  induction rows generalizing number mode with
  | nil => cases mode <;> rfl
  | cons raw rest ih =>
      have later := ih (number + 1) (scanLine raw number mode).mode
      rw [notices] at later ⊢
      simp only [ofLines, scanLines, modeAfter, Notice.ofScans, later, List.append_assoc]
      cases (scanLine raw number mode).note <;> rfl

theorem scanLines_append (front back : List (List Char)) (number : Nat) (mode : Mode) :
    scanLines number mode (front ++ back) = scanLines number mode front ++
      scanLines (number + front.length) (modeAfter number mode front) back := by
  induction front generalizing number mode with
  | nil => rfl
  | cons raw rest ih =>
      have after : number + (rest.length + 1) = number + 1 + rest.length := by omega
      simp only [List.cons_append, List.length_cons, scanLines, modeAfter, ih, after]

theorem modeAfter_append (front back : List (List Char)) (number : Nat) (mode : Mode) :
    modeAfter number mode (front ++ back) =
      modeAfter (number + front.length) (modeAfter number mode front) back := by
  induction front generalizing number mode with
  | nil => rfl
  | cons raw rest ih =>
      have after : number + (rest.length + 1) = number + 1 + rest.length := by omega
      simp only [List.cons_append, List.length_cons, modeAfter, ih, after]

theorem ofLines_append (front back : List (List Char)) (number : Nat) (mode : Mode) :
    let scans := scanLines number mode front
    let later := ofLines (number + front.length) (modeAfter number mode front) back
    ofLines number mode (front ++ back) =
      ⟨scans.filterMap (·.token) ++ later.tokens,
        (Notice.ofScans number scans).map Notice.diagnostic ++ later.complaints⟩ := by
  induction front generalizing number mode with
  | nil => rfl
  | cons raw rest ih =>
      have after : number + (rest.length + 1) = number + 1 + rest.length := by omega
      simp only [List.cons_append, List.length_cons, ofLines, scanLines, modeAfter, ih, after,
        Notice.ofScans, List.map_append, List.append_assoc]
      cases (scanLine raw number mode).note <;> cases found : (scanLine raw number mode).token <;>
        simp [found, Notice.diagnostic]

theorem length_scanLines (rows : List (List Char)) (number : Nat) (mode : Mode) :
    (scanLines number mode rows).length = rows.length := by
  induction rows generalizing number mode with
  | nil => rfl
  | cons raw rest ih => simp only [scanLines, List.length_cons, ih]

end TokenStream

theorem Notice.ofScans_append (front back : List LineScan) (number : Nat) :
    ofScans number (front ++ back) =
      ofScans number front ++ ofScans (number + front.length) back := by
  induction front generalizing number with
  | nil => rfl
  | cons scan rest ih =>
      have after : number + (rest.length + 1) = number + 1 + rest.length := by omega
      simp only [List.cons_append, List.length_cons, ofScans, ih, List.append_assoc, after]

theorem Notice.ofScans_eq_nil {scans : List LineScan} (noNote : ∀ scan ∈ scans, scan.note = none)
    (number : Nat) : ofScans number scans = [] := by
  induction scans generalizing number with
  | nil => rfl
  | cons scan rest ih =>
      obtain ⟨here, later⟩ := List.forall_mem_cons.mp noNote
      simp [ofScans, here, ih later]

section

variable (shift : Nat → Nat)

namespace Line

theorem statement?_renumber (line : List Char) (number : Nat) :
    statement? line (shift number) = (statement? line number).map (·.renumber shift) := by
  simp only [statement?, Option.orElse_eq_orElse, Option.orElse_eq_or, Option.map_or,
    Option.map_map]
  rfl

end Line

namespace Scan

theorem scanSpeech_renumber (line : List Char) (speaker text : String) (openedOn : Nat) :
    scanSpeech line speaker text (shift openedOn) =
      (scanSpeech line speaker text openedOn).renumber shift := by
  unfold scanSpeech
  split
  · rfl
  · rfl

theorem scanStatement_renumber (line : List Char) (number : Nat) (mode : Mode) :
    scanStatement line (shift number) (mode.renumber shift) =
      (scanStatement line number mode).renumber shift := by
  unfold scanStatement
  split
  · rfl
  · split
    · rfl
    · rw [Line.statement?_renumber]
      cases Line.statement? line number <;> rfl

theorem scanContent_renumber (line : List Char) (number : Nat) (mode : Mode) :
    scanContent line (shift number) (mode.renumber shift) =
      (scanContent line number mode).renumber shift := by
  unfold scanContent
  split
  · rfl
  · split
    · rfl
    · cases mode with
      | dialogue speaker text openedOn => exact scanSpeech_renumber shift line speaker text openedOn
      | normal | block | comment => exact scanStatement_renumber shift line number _

theorem scanIndented_renumber (line : List Char) (number : Nat) (character : String) :
    scanIndented line (shift number) character =
      (scanIndented line number character).renumber shift := by
  unfold scanIndented
  split
  · rfl
  · split
    · rfl
    · exact scanContent_renumber shift line number (.block character)

theorem scanOutside_renumber (raw : List Char) (number : Nat) (mode : Mode) :
    scanOutside raw (shift number) (mode.renumber shift) =
      (scanOutside raw number mode).renumber shift := by
  unfold scanOutside
  dsimp only
  split
  · cases mode <;> rfl
  · cases mode with
    | block character =>
        simp only [Mode.renumber]
        split
        · exact scanIndented_renumber shift _ number character
        · exact scanContent_renumber shift _ number .normal
    | normal | dialogue | comment => exact scanContent_renumber shift _ number _

end Scan

theorem scanLine_renumber (raw : List Char) (number : Nat) (mode : Mode) :
    scanLine raw (shift number) (mode.renumber shift) =
      (scanLine raw number mode).renumber shift := by
  cases mode with
  | comment resume =>
      simp only [scanLine, Mode.renumber]
      split
      · rfl
      · rfl
  | normal | block | dialogue => exact Scan.scanOutside_renumber shift raw number _

end

/-! Whole runs of lines, which are moved to other numbers as they stand. -/

section

variable {shift : Nat → Nat} {count number other : Nat}

def Moves (shift : Nat → Nat) (count number other : Nat) : Prop :=
  ∀ index < count, shift (number + index) = other + index

theorem Moves.head (moves : Moves shift (count + 1) number other) : shift number = other :=
  moves 0 (Nat.zero_lt_succ count)

theorem Moves.tail (moves : Moves shift (count + 1) number other) :
    Moves shift count (number + 1) (other + 1) := by
  intro index inside
  have next := moves (index + 1) (Nat.succ_lt_succ inside)
  rw [show number + 1 + index = number + (index + 1) by omega, next]
  omega

theorem Notice.ofScans_renumber {scans : List LineScan}
    (moves : Moves shift scans.length number other) :
    ofScans other (scans.map (·.renumber shift)) =
      (ofScans number scans).map (·.renumber shift) := by
  induction scans generalizing number other with
  | nil => rfl
  | cons scan rest ih =>
      rw [List.map_cons, ofScans, ofScans, ih moves.tail, List.map_append]
      refine congrArg (· ++ _) ?_
      cases note : scan.note <;> simp [LineScan.renumber, note, Notice.renumber, moves.head]

theorem Notice.atEnd_renumber (mode : Mode) :
    atEnd (mode.renumber shift) = (atEnd mode).map (·.renumber shift) := by
  cases mode <;> rfl

namespace TokenStream

theorem scan_renumber {rows : List (List Char)}
    (moves : Moves shift rows.length number other) (mode : Mode) :
    scanLines other (mode.renumber shift) rows =
        (scanLines number mode rows).map (·.renumber shift) ∧
      modeAfter other (mode.renumber shift) rows =
        (modeAfter number mode rows).renumber shift := by
  induction rows generalizing number other mode with
  | nil => exact ⟨rfl, rfl⟩
  | cons raw rest ih =>
      have first := scanLine_renumber shift raw number mode
      rw [moves.head] at first
      obtain ⟨scans, last⟩ := ih moves.tail (scanLine raw number mode).mode
      constructor
      · simp only [scanLines, List.map_cons, first, ← scans]
        rfl
      · simp only [modeAfter, first, ← last]
        rfl

end TokenStream

end

end StoryScript
