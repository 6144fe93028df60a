import StoryScript.Proofs.Script.Aside

/-!
Where tokens come from. Labels, jumps, options, commands, assignments and conditions are read off one
line, which has the form of the token whatever the mode is.
-/

namespace StoryScript

open Text

def TokenKind.standsAlone : TokenKind → Bool
  | label | jump | choice | command | assignment | condition => true
  | dialogue | character | trait | endOfText => false

namespace Line

inductive Reads (line : List Char) (number : Nat) : Token → Prop
  | label {name} : label? line = some name → Reads line number (.label (.ofList name) number)
  | dialogue {speaker text} : closedSpeech? line = some (speaker, text) →
      Reads line number (.dialogue (.ofList speaker) (.ofList text) number)
  | jump {target} : jump? line = some target → Reads line number (.jump (.ofList target) number)
  | lockedChoice {condition text target} : lockedChoice? line = some (condition, text, target) →
      Reads line number
        (.choice (.ofList text) (.ofList target) (some (.ofList condition)) number)
  | choice {text target} : choice? line = some (text, target) →
      Reads line number (.choice (.ofList text) (.ofList target) none number)
  | command {verb arguments} : closedSpeech? line = none →
      command? line = some (verb, arguments) →
      Reads line number (.command verb (.ofList arguments) number)
  | assignment {expression} : assignment? line = some expression →
      Reads line number (.assignment (.ofList expression) number)
  | condition {text} : condition? line = some text →
      Reads line number (.condition (.ofList text) number)

theorem reads_of_statement? {line : List Char} {number : Nat} {token : Token}
    (read : statement? line number = some token) : Reads line number token := by
  simp only [statement?, Option.orElse_eq_orElse, Option.orElse_eq_or, Option.or_eq_some_iff,
    Option.map_eq_some_iff, Option.map_eq_none_iff] at read
  rcases read with ⟨name, found, rfl⟩ | ⟨_, ⟨⟨speaker, text⟩, found, rfl⟩ | ⟨silent,
    ⟨target, found, rfl⟩ | ⟨_, ⟨⟨condition, text, target⟩, found, rfl⟩ |
    ⟨_, ⟨⟨text, target⟩, found, rfl⟩ | ⟨_, ⟨⟨verb, arguments⟩, found, rfl⟩ |
    ⟨_, ⟨expression, found, rfl⟩ | ⟨_, text, found, rfl⟩⟩⟩⟩⟩⟩⟩
  · exact .label found
  · exact .dialogue found
  · exact .jump found
  · exact .lockedChoice found
  · exact .choice found
  · exact .command silent found
  · exact .assignment found
  · exact .condition found

structure States (line : List Char) (number : Nat) (token : Token) : Prop where
  reads : Reads line number token
  noClosing : ¬ ['*', '/'] <:+ line
  complete : openSpeech? line = none

end Line

namespace Scan

open Line (States)

variable {number : Nat} {mode : Mode} {token : Token}

theorem states_scanStatement {line : List Char}
    (read : (scanStatement line number mode).token = some token)
    (noClosing : ¬ ['*', '/'] <:+ line) : States line number token := by
  unfold scanStatement at read
  split at read
  next => contradiction
  next complete =>
    split at read
    next => contradiction
    next =>
      split at read
      next found =>
        obtain rfl := Option.some.inj read
        exact ⟨Line.reads_of_statement? found, noClosing, complete⟩
      next => contradiction

theorem states_scanContent {line : List Char} (alone : token.kind.standsAlone = true)
    (read : (scanContent line number mode).token = some token) : States line number token := by
  unfold scanContent at read
  split at read
  next => contradiction
  next =>
    split at read
    next => contradiction
    next noClosing =>
      rw [closesComment_iff] at noClosing
      cases mode with
      | dialogue speaker text openedOn =>
          simp only [scanSpeech] at read
          split at read
          next =>
            obtain rfl := Option.some.inj read
            contradiction
          next => contradiction
      | normal | block | comment => exact states_scanStatement read noClosing

theorem states_scanOutside {raw : List Char} (alone : token.kind.standsAlone = true)
    (read : (scanOutside raw number mode).token = some token) :
    States (trim raw) number token := by
  unfold scanOutside at read
  dsimp only at read
  split at read
  next =>
    obtain rfl := Option.some.inj read
    contradiction
  next =>
    cases mode with
    | block character =>
        dsimp only at read
        split at read
        next =>
          unfold scanIndented at read
          split at read
          next => contradiction
          next =>
            split at read
            next =>
              obtain rfl := Option.some.inj read
              contradiction
            next => exact states_scanContent alone read
        next => exact states_scanContent alone read
    | normal | dialogue | comment => exact states_scanContent alone read

end Scan

theorem states_scanLine {raw : List Char} {number : Nat} {mode : Mode} {token : Token}
    (alone : token.kind.standsAlone = true)
    (read : (scanLine raw number mode).token = some token) :
    Line.States (trim raw) number token := by
  cases mode with
  | comment resume =>
      simp only [scanLine] at read
      split at read
      · contradiction
      · contradiction
  | normal | block | dialogue => exact Scan.states_scanOutside alone read

end StoryScript
