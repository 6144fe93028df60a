import StoryScript.Proofs.Script.Origin
import StoryScript.Proofs.Script.Scanning

/-!
Labels as targets. Between its marks a label may have any phrase as its name, whereas jumps and
options lead to single words, so that a label of two words cannot be reached from a script.
-/

namespace StoryScript

open Text

inductive Token.LeadsTo (name : String) : Token → Prop
  | jump {line} : LeadsTo name (.jump name line)
  | option {text condition line} : LeadsTo name (.choice text name condition line)

namespace Text

/-- What a padded field can stand for: a phrase, or one of its blanks where it has nothing else. -/
inductive Fills : List Char → Prop
  | phrase {content} : IsPhrase content → Fills content
  | blank {c} : isBlank c = true → c ≠ '\n' → Fills [c]

theorem fills_of_padded? {field content : List Char} (read : padded? field = some content) :
    Fills content := by
  unfold padded? at read
  split at read
  next empty =>
    obtain ⟨c, found, rfl⟩ := Option.map_eq_some_iff.mp read
    have member := List.mem_reverse.mp (List.mem_of_find?_eq_some found)
    have other := List.find?_some found
    exact .blank ((trim_eq_nil_iff field).mp empty c member) (by simpa using other)
  next full =>
    split at read
    next => contradiction
    next oneLine =>
      obtain rfl := Option.some.inj read
      exact .phrase ⟨full, trim_trim field, by simpa using oneLine⟩

theorem padded?_of_fills {content : List Char} (fills : Fills content) :
    padded? content = some content := by
  cases fills with
  | phrase phrase =>
      have oneLine := phrase.oneLine
      rw [padded?, phrase.trimmed]
      obtain ⟨c, rest, rfl, _⟩ := phrase.start
      simp [oneLine]
  | @blank c blank other =>
      have empty : trim [c] = [] := (trim_eq_nil_iff [c]).mpr (by simpa using blank)
      simp [padded?, empty, other]

end Text

namespace Line

variable {line name : List Char}

theorem isName_of_target? {text : List Char} (read : target? text = some name) : IsName name := by
  unfold target? at read
  dsimp only at read
  split at read
  next => contradiction
  next solid =>
    obtain rfl := Option.some.inj read
    rw [Bool.or_eq_true, not_or] at solid
    obtain ⟨full, words⟩ := solid
    constructor
    · simpa using full
    · simpa using words

theorem isName_of_jump? (read : jump? line = some name) : IsName name := by
  obtain ⟨rest, _, target⟩ := Option.bind_eq_some_iff.mp read
  exact isName_of_target? target

theorem isName_of_option? {before : List Char} (read : option? line = some (before, name)) :
    IsName name := by
  unfold option? at read
  split at read
  next =>
    obtain ⟨⟨front, after⟩, _, rest⟩ := Option.bind_eq_some_iff.mp read
    obtain ⟨target, found, same⟩ := Option.bind_eq_some_iff.mp rest
    obtain ⟨rfl, rfl⟩ := Prod.mk.inj (Option.some.inj same)
    exact isName_of_target? found
  next => contradiction

theorem isName_of_choice? {text : List Char} (read : choice? line = some (text, name)) :
    IsName name := by
  obtain ⟨⟨before, target⟩, found, rest⟩ := Option.bind_eq_some_iff.mp read
  obtain ⟨content, _, same⟩ := Option.bind_eq_some_iff.mp rest
  obtain ⟨rfl, rfl⟩ := Prod.mk.inj (Option.some.inj same)
  exact isName_of_option? found

theorem isName_of_lockedChoice? {condition text : List Char}
    (read : lockedChoice? line = some (condition, text, name)) : IsName name := by
  obtain ⟨⟨before, target⟩, found, rest⟩ := Option.bind_eq_some_iff.mp read
  dsimp only at rest
  split at rest
  next =>
    obtain ⟨⟨lock, content⟩, _, same⟩ := Option.bind_eq_some_iff.mp rest
    obtain ⟨rfl, rfl, rfl⟩ := by simpa using same
    exact isName_of_option? found
  next => contradiction

theorem fills_of_label? (read : label? line = some name) : Fills name := by
  obtain ⟨rest, _, later⟩ := Option.bind_eq_some_iff.mp read
  obtain ⟨field, _, padded⟩ := Option.bind_eq_some_iff.mp later
  exact fills_of_padded? padded

variable {number : Nat} {token : Token}

theorem Reads.isName_of_leadsTo (reads : Reads line number token) {name : String}
    (leads : token.LeadsTo name) : IsName name.toList := by
  cases reads with
  | jump read =>
      cases leads
      rw [String.toList_ofList]
      exact isName_of_jump? read
  | lockedChoice read =>
      cases leads
      rw [String.toList_ofList]
      exact isName_of_lockedChoice? read
  | choice read =>
      cases leads
      rw [String.toList_ofList]
      exact isName_of_choice? read
  | _ => cases leads

theorem Reads.fills_of_label {name : String} (reads : Reads line number (.label name number)) :
    Fills name.toList := by
  generalize same : Token.label name number = token at reads
  cases reads with
  | label read =>
      cases same
      rw [String.toList_ofList]
      exact fills_of_label? read
  | _ => cases same

theorem label?_of_fills (fills : Fills name) :
    label? ('=' :: '=' :: (name ++ ['=', '='])) = some name := by
  simp only [label?, isPrefixOf?_cons, isPrefixOf?_nil, if_true, Option.bind_eq_bind,
    Option.bind_some, isSuffixOf?_append, padded?_of_fills fills]

end Line

theorem Token.LeadsTo.standsAlone {token : Token} {name : String} (leads : token.LeadsTo name) :
    token.kind.standsAlone = true := by
  cases leads with
  | jump => rfl
  | option => rfl

namespace Scan

theorem scanLine_label {name : List Char} (fills : Fills name) (number : Nat) :
    scanLine ('=' :: '=' :: (name ++ ['=', '='])) number .normal =
      { token := some (.label (.ofList name) number), mode := .normal } := by
  have solid : isBlank '=' = false := by decide
  have clear : Mode.normal.IsClear := trivial
  have read := Line.label?_of_fills fills
  generalize whole : '=' :: '=' :: (name ++ ['=', '=']) = line at read ⊢
  have first : line.head? = some '=' := by simp [← whole]
  have last : line.getLast? = some '=' := by
    rw [← whole, show name ++ ['=', '='] = name ++ ['='] ++ ['='] by simp, ← List.cons_append,
      ← List.cons_append, List.getLast?_concat]
  have trimmed : trim line = line := by
    rw [trim_eq_self_iff, first, last]
    constructor
    · rintro c ⟨rfl⟩
      exact solid
    · rintro c ⟨rfl⟩
      exact solid
  have noClosing : closesComment line = false := by
    apply closesComment_of_last
    rw [last]
    decide
  obtain ⟨rest, rfl⟩ : ∃ rest, line = '=' :: rest := ⟨_, whole.symm⟩
  have silent : Line.openSpeech? ('=' :: rest) = none :=
    Line.openSpeech?_eq_none (Line.speech?_eq_none (by decide))
  rw [scanLine_margin trimmed (by simp [Line.character?]) clear]
  simp [scanContent, opensComment, List.isPrefixOf, noClosing, scanStatement, silent,
    Line.statement?, read]

end Scan

/-- A label can be given any phrase as its name, or the blank that padding alone stands for, but it
can be the target of a line exactly when its name is a single word. -/
theorem labels_and_targets (name : String) (number : Nat) :
    ((∃ raw, (scanLine raw number .normal).token = some (.label name number)) ↔
        Fills name.toList) ∧
      (scanLine ("-> " ++ name).toList number .normal =
          { token := some (.jump name number), mode := .normal } ↔ IsName name.toList) ∧
      (scanLine ("* go -> " ++ name).toList number .normal =
          { token := some (.choice "go" name none number), mode := .normal } ↔
        IsName name.toList) ∧
      ((∃ raw mode token, (scanLine raw number mode).token = some token ∧ token.LeadsTo name) ↔
        IsName name.toList) := by
  have clear : Mode.normal.IsClear := trivial
  have reached {raw mode token} (read : (scanLine raw number mode).token = some token)
      (leads : token.LeadsTo name) : IsName name.toList :=
    (states_scanLine leads.standsAlone read).reads.isName_of_leadsTo leads
  have jumps (named : IsName name.toList) : scanLine ("-> " ++ name).toList number .normal =
      { token := some (.jump name number), mode := .normal } := by
    have legible : (Statement.jump name).Legible := named
    have printed : (Statement.jump name).print = ("-> " ++ name).toList := by
      simp [Statement.print]
    rw [← printed]
    exact Scan.scanLine_print legible clear number
  have offers (named : IsName name.toList) : scanLine ("* go -> " ++ name).toList number .normal =
      { token := some (.choice "go" name none number), mode := .normal } := by
    have phrase : IsPhrase "go".toList := by decide
    have unlocked : "go".toList.head? ≠ some '[' := by decide
    have legible : (Statement.option ⟨"go", name, none⟩).Legible := ⟨phrase, named, unlocked⟩
    have printed : (Statement.option ⟨"go", name, none⟩).print = ("* go -> " ++ name).toList := by
      simp [Statement.print, Statement.printLock]
    rw [← printed]
    exact Scan.scanLine_print legible clear number
  refine ⟨⟨?_, ?_⟩, ⟨?_, jumps⟩, ⟨?_, offers⟩, ⟨?_, ?_⟩⟩
  · rintro ⟨raw, read⟩
    exact (states_scanLine rfl read).reads.fills_of_label
  · intro fills
    refine ⟨'=' :: '=' :: (name.toList ++ ['=', '=']), ?_⟩
    rw [Scan.scanLine_label fills, String.ofList_toList]
  · intro jumped
    exact reached (congrArg LineScan.token jumped) .jump
  · intro offered
    exact reached (congrArg LineScan.token offered) .option
  · rintro ⟨raw, mode, token, read, leads⟩
    exact reached read leads
  · intro named
    exact ⟨_, .normal, _, congrArg LineScan.token (jumps named), .jump⟩

theorem two_words_unreached :
    (scanLine "== The End ==".toList 1 .normal).token = some (.label "The End" 1) ∧
      (scanLine "-> The End".toList 2 .normal).token = none ∧
      (scanLine "* go -> The End".toList 3 .normal).token = none := by
  decide +kernel

end StoryScript
