import StoryScript.Proofs.Script.Turn

/-!
What a line yields: nothing, a complaint, or one token, which is a statement, the end of an open
dialogue, the header of a character or an attribute in the block of one.
-/

namespace StoryScript

open Text

namespace Mode

/-- The character whose block goes on, be it suspended by a comment or not. -/
def owner? : Mode → Option String
  | .block character => some character
  | .comment resume => resume.owner?
  | .normal => none
  | .dialogue _ _ _ => none

/-- No block is entered, whereas one may be left. -/
def StaysIn (before after : Mode) : Prop :=
  ∀ name ∈ after.owner?, before.owner? = some name

theorem StaysIn.refl (mode : Mode) : mode.StaysIn mode :=
  fun _ owner => owner

theorem StaysIn.normal (mode : Mode) : mode.StaysIn .normal := by
  simp [StaysIn, owner?]

end Mode

inductive LineScan.Yields (number : Nat) (before : Mode) : LineScan → Prop
  | nothing {after} : before.StaysIn after → Yields number before { mode := after }
  | complaint {after line} : before.StaysIn after → after.openDialogue? = none →
      Yields number before { mode := after, note := some (.unknownPattern line) }
  | statement {after} (statement : Statement) : before.StaysIn after →
      after.openDialogue? = none →
      Yields number before { token := some (statement.token number), mode := after }
  | speech {speaker text openedOn} :
      Yields number before { token := some (.dialogue speaker text openedOn), mode := .normal }
  | header {name note} : (∀ complaint ∈ note, complaint.kind = .unterminatedDialogue) →
      Yields number before { token := some (.character name number), mode := .block name, note }
  | trait {character key value} : before.owner? = some character →
      Yields number before
        { token := some (.trait character key value number), mode := .block character }

namespace Scan

open LineScan (Yields)

variable {before mode : Mode}

theorem yields_scanSpeech (line : List Char) (number : Nat) (speaker text : String)
    (openedOn : Nat) : Yields number before (scanSpeech line speaker text openedOn) := by
  unfold scanSpeech
  split
  · exact .speech
  · exact .nothing (.normal _)

theorem yields_scanStatement (line : List Char) (number : Nat) (stays : before.StaysIn mode)
    (quiet : mode.openDialogue? = none) :
    Yields number before (scanStatement line number mode) := by
  unfold scanStatement
  split
  · exact .nothing (.normal _)
  · split
    · exact .nothing stays
    · split
      next token read =>
        obtain ⟨statement, rfl⟩ := Statement.exists_token_of_statement? read
        exact .statement statement stays quiet
      next => exact .complaint stays quiet

theorem yields_scanContent (line : List Char) (number : Nat) (stays : before.StaysIn mode)
    (outside : ∀ resume, mode ≠ .comment resume) :
    Yields number before (scanContent line number mode) := by
  unfold scanContent
  split
  · exact .nothing stays
  · split
    · exact .nothing stays
    · cases mode with
      | dialogue speaker text openedOn => exact yields_scanSpeech line number speaker text openedOn
      | normal | block => exact yields_scanStatement line number stays rfl
      | comment resume => exact (outside resume rfl).elim

theorem yields_scanIndented (line : List Char) (number : Nat) (character : String) :
    Yields number (.block character) (scanIndented line number character) := by
  unfold scanIndented
  split
  · exact .nothing (.refl _)
  · split
    · exact .trait rfl
    · exact yields_scanContent line number (.refl _) nofun

theorem yields_scanOutside (raw : List Char) (number : Nat)
    (outside : ∀ resume, mode ≠ .comment resume) :
    Yields number mode (scanOutside raw number mode) := by
  cases read : Line.character? (trim raw) with
  | some name =>
      simp only [scanOutside, read]
      refine .header fun complaint cutting => ?_
      cases mode with
      | dialogue speaker text openedOn =>
          obtain rfl := Option.some.inj cutting
          rfl
      | normal | block | comment => contradiction
  | none =>
      simp only [scanOutside, read]
      cases mode with
      | block character =>
          dsimp only
          split
          · exact yields_scanIndented _ number character
          · exact yields_scanContent _ number (.normal _) (by simp)
      | normal | dialogue => exact yields_scanContent _ number (.refl _) outside
      | comment resume => exact (outside resume rfl).elim

end Scan

theorem yields_scanLine (raw : List Char) (number : Nat) (mode : Mode) :
    LineScan.Yields number mode (scanLine raw number mode) := by
  cases mode with
  | comment resume =>
      simp only [scanLine]
      split
      · exact .nothing (.refl resume)
      · exact .nothing (.refl _)
  | normal | block | dialogue => exact Scan.yields_scanOutside raw number (by simp)

end StoryScript
