import StoryScript.Proofs.Script.Statement
import StoryScript.Proofs.Story.Complete

/-!
What a line can do: it keeps what is open, opens a dialogue, completes the open one with a token, or
cuts it with a complaint.
-/

namespace StoryScript

open Text

structure OpenDialogue where
  speaker : String
  openedOn : Nat
  deriving DecidableEq, Repr

namespace Mode

/-- The dialogue that is open, be it suspended by a comment or not. -/
def openDialogue? : Mode → Option OpenDialogue
  | .dialogue speaker _ openedOn => some ⟨speaker, openedOn⟩
  | .comment resume => resume.openDialogue?
  | .normal => none
  | .block _ => none

end Mode

/-- What a line does to the dialogue that is open before it. -/
inductive LineScan.Turn (number : Nat) : Option OpenDialogue → LineScan → Prop
  | keeps {before scan} : scan.mode.openDialogue? = before →
      (∀ token ∈ scan.token, token.line = number ∧ token.IsComplete) →
      (∀ note ∈ scan.note, note.kind = .unmatchedLine) → Turn number before scan
  | opens {speaker text} : IsName speaker.toList →
      Turn number none { mode := .dialogue speaker text number }
  | closes {dialogue whole} : Turn number (some dialogue)
      { token := some (.dialogue dialogue.speaker whole dialogue.openedOn), mode := .normal }
  | cuts {dialogue name} : Turn number (some dialogue)
      { token := some (.character name number)
        mode := .block name
        note := some (.dialogueCut dialogue.speaker dialogue.openedOn name) }

theorem Statement.complete_token (statement : Statement) (number : Nat) :
    (statement.token number).IsComplete := by
  cases statement <;> trivial

namespace Line

theorem isName_of_openSpeech? {line speaker text : List Char}
    (read : openSpeech? line = some (speaker, text)) : IsName speaker :=
  (openSpeech?_eq_some_iff.mp read).1.named

end Line

namespace Scan

open LineScan (Turn)

theorem turn_scanSpeech (line : List Char) (number : Nat) (speaker text : String)
    (openedOn : Nat) :
    Turn number (some ⟨speaker, openedOn⟩) (scanSpeech line speaker text openedOn) := by
  unfold scanSpeech
  split
  · exact .closes
  · exact .keeps rfl (by simp) (by simp)

theorem turn_scanStatement (line : List Char) (number : Nat) {mode : Mode}
    (quiet : mode.openDialogue? = none) :
    Turn number none (scanStatement line number mode) := by
  unfold scanStatement
  split
  next speaker text read =>
    refine .opens ?_
    rw [String.toList_ofList]
    exact Line.isName_of_openSpeech? read
  next =>
    split
    · exact .keeps quiet (by simp) (by simp)
    · split
      next token read =>
        refine .keeps quiet ?_ (by simp)
        rintro found ⟨rfl⟩
        obtain ⟨statement, rfl⟩ := Statement.exists_token_of_statement? read
        exact ⟨statement.line_token number, statement.complete_token number⟩
      next => exact .keeps quiet (by simp) (by simp [Complaint.kind])

theorem turn_scanContent (line : List Char) (number : Nat) (mode : Mode)
    (outside : ∀ resume, mode ≠ .comment resume) :
    Turn number mode.openDialogue? (scanContent line number mode) := by
  unfold scanContent
  split
  · exact .keeps rfl (by simp) (by simp)
  · split
    · exact .keeps rfl (by simp) (by simp)
    · cases mode with
      | dialogue speaker text openedOn => exact turn_scanSpeech line number speaker text openedOn
      | normal | block => exact turn_scanStatement line number rfl
      | comment resume => exact (outside resume rfl).elim

theorem turn_scanIndented (line : List Char) (number : Nat) (character : String) :
    Turn number none (scanIndented line number character) := by
  unfold scanIndented
  split
  · exact .keeps rfl (by simp) (by simp)
  · split
    · exact .keeps rfl (by simp [Token.trait, Token.IsComplete]) (by simp)
    · exact turn_scanContent line number (.block character) nofun

theorem turn_scanOutside (raw : List Char) (number : Nat) {mode : Mode}
    (outside : ∀ resume, mode ≠ .comment resume) :
    Turn number mode.openDialogue? (scanOutside raw number mode) := by
  cases read : Line.character? (trim raw) with
  | some name =>
      simp only [scanOutside, read]
      cases mode with
      | dialogue speaker text openedOn => exact @Turn.cuts number ⟨speaker, openedOn⟩ _
      | normal | block => exact .keeps rfl (by simp [Token.character, Token.IsComplete]) (by simp [cut])
      | comment resume => exact (outside resume rfl).elim
  | none =>
      simp only [scanOutside, read]
      cases mode with
      | block character =>
          dsimp only
          split
          · exact turn_scanIndented _ number character
          · exact turn_scanContent _ number .normal nofun
      | normal | dialogue => exact turn_scanContent _ number _ outside
      | comment resume => exact (outside resume rfl).elim

end Scan

theorem turn_scanLine (raw : List Char) (number : Nat) (mode : Mode) :
    LineScan.Turn number mode.openDialogue? (scanLine raw number mode) := by
  cases mode with
  | comment resume =>
      simp only [scanLine]
      split
      · exact .keeps rfl (by simp) (by simp)
      · exact .keeps rfl (by simp) (by simp)
  | normal | block | dialogue => exact Scan.turn_scanOutside raw number nofun

theorem LineScan.Turn.complete {number : Nat} {before : Option OpenDialogue} {scan : LineScan}
    (turn : Turn number before scan) : ∀ token ∈ scan.token, token.IsComplete := by
  cases turn with
  | keeps _ tokens => exact fun token member => (tokens token member).2
  | opens => simp
  | closes | cuts =>
      rintro token ⟨rfl⟩
      trivial

end StoryScript
