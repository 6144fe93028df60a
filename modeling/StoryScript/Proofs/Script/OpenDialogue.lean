import StoryScript.Proofs.Diagnostic.Overflow
import StoryScript.Proofs.Script.Turn

/-!
Dialogues that run over several lines. A line keeps what is open, opens a dialogue, or ends the open
one, with a token or with a complaint, so that each opened dialogue is answered for once. The one
exception is a dialogue that is suspended by a comment when the text ends: nothing tells of it.
-/

namespace StoryScript

open Text

namespace Mode

def suspended? : Mode → Option OpenDialogue
  | .comment resume => resume.openDialogue?
  | _ => none

end Mode

namespace OpenDialogue

/-- How the complaint about a dialogue that is cut begins, up to the name of the character. -/
def cutMark (dialogue : OpenDialogue) : List Char :=
  s!"dialogue of {dialogue.speaker} opened on line {dialogue.openedOn} cut by @char ".toList

end OpenDialogue

def Token.completes (token : Token) (dialogue : OpenDialogue) : Bool :=
  token.kind == .dialogue && token.line == dialogue.openedOn

def Diagnostic.reports (entry : Diagnostic) (dialogue : OpenDialogue) : Bool :=
  entry.kind == .unterminatedDialogue &&
    (entry == (Complaint.dialogueOpen dialogue.speaker).diagnostic dialogue.openedOn ||
      dialogue.cutMark.isPrefixOf entry.message.toList)

namespace TokenStream

def modeAfter (number : Nat) (mode : Mode) : List (List Char) → Mode
  | [] => mode
  | raw :: rest => modeAfter (number + 1) (scanLine raw number mode).mode rest

/-- The dialogues that lines open: none is open before the line, and one after it. -/
def opened (number : Nat) (mode : Mode) : List (List Char) → List OpenDialogue
  | [] => []
  | raw :: rest =>
      let after := (scanLine raw number mode).mode
      let later := opened (number + 1) after rest
      match mode.openDialogue?, after with
      | none, .dialogue speaker _ _ => ⟨speaker, number⟩ :: later
      | _, _ => later

def answers (stream : TokenStream) (dialogue : OpenDialogue) : Nat :=
  stream.tokens.countP (·.completes dialogue) + stream.complaints.countP (·.reports dialogue)

end TokenStream

/-! The texts of complaints tell dialogues apart. -/

namespace Text

theorem IsName.append_inj {left right : List Char} (leftNamed : IsName left)
    (rightNamed : IsName right) {c : Char} (other : isWord c = false) {front back : List Char}
    (same : left ++ c :: front = right ++ c :: back) : left = right ∧ front = back := by
  have names : left = right := by
    have taken := congrArg (List.takeWhile isWord) same
    rwa [leftNamed.takeWhile_append other, rightNamed.takeWhile_append other] at taken
  subst names
  exact ⟨rfl, (List.cons.inj (List.append_cancel_left same)).2⟩

theorem isWord_of_isDigit {c : Char} (digit : c.isDigit = true) : isWord c = true := by
  have small : c.toNat < 128 := Nat.lt_of_le_of_lt (Char.isDigit_iff_toNat.mp digit).2 (by decide)
  simp [isWord, small, Char.isAlphanum, digit]

theorem isName_toDigits (number : Nat) : IsName (Nat.toDigits 10 number) where
  nonempty := Nat.toDigits_ne_nil
  words c member :=
    isWord_of_isDigit (Nat.isDigit_of_mem_toDigits (by decide) (by decide) member)

end Text

namespace OpenDialogue

variable {dialogue other : OpenDialogue}

theorem cutMark_eq (dialogue : OpenDialogue) :
    dialogue.cutMark = "dialogue of ".toList ++ (dialogue.speaker.toList ++ ' ' ::
      ("opened on line ".toList ++ (Nat.toDigits 10 dialogue.openedOn ++ ' ' ::
        "cut by @char ".toList))) := by
  simp only [cutMark, toString]
  simp

/-- The texts of two complaints begin alike only where they are about one line. -/
theorem openedOn_of_cutMark (named : IsName dialogue.speaker.toList)
    (otherNamed : IsName other.speaker.toList) {front back : List Char}
    (same : dialogue.cutMark ++ front = other.cutMark ++ back) :
    dialogue.openedOn = other.openedOn := by
  have blank : isWord ' ' = false := by decide
  rw [cutMark_eq, cutMark_eq] at same
  simp only [List.append_assoc, List.cons_append] at same
  obtain ⟨_, later⟩ := named.append_inj otherNamed blank (List.append_cancel_left same)
  obtain ⟨digits, _⟩ := (isName_toDigits _).append_inj (isName_toDigits _) blank
    (List.append_cancel_left later)
  have read := congrArg (fun digits => Nat.ofDigitChars 10 digits 0) digits
  simpa [Nat.ofDigitChars_toDigits] using read

theorem message_dialogueCut (dialogue : OpenDialogue) (character : String) :
    (Complaint.dialogueCut dialogue.speaker dialogue.openedOn character).message.toList =
      dialogue.cutMark ++ character.toList := by
  rw [cutMark, ← String.toList_append]
  rfl

theorem message_dialogueOpen (dialogue : OpenDialogue) :
    (Complaint.dialogueOpen dialogue.speaker).message.toList =
      "dialogue of ".toList ++ (dialogue.speaker.toList ++ ' ' :: "never closed".toList) := by
  have message : (Complaint.dialogueOpen dialogue.speaker).message =
      "dialogue of " ++ dialogue.speaker ++ " never closed" := rfl
  simp [message]

theorem reports_iff (entry : Diagnostic) (dialogue : OpenDialogue) :
    entry.reports dialogue = true ↔ entry.kind = .unterminatedDialogue ∧
      (entry = (Complaint.dialogueOpen dialogue.speaker).diagnostic dialogue.openedOn ∨
        dialogue.cutMark <+: entry.message.toList) := by
  simp [Diagnostic.reports, ← List.isPrefixOf_iff_prefix]

theorem reports_dialogueCut (dialogue : OpenDialogue) (character : String) (line : Option Nat) :
    ((Complaint.dialogueCut dialogue.speaker dialogue.openedOn character).diagnostic line).reports
      dialogue = true :=
  (reports_iff _ _).mpr ⟨rfl, .inr ⟨character.toList, (message_dialogueCut _ _).symm⟩⟩

theorem reports_dialogueOpen (dialogue : OpenDialogue) :
    ((Complaint.dialogueOpen dialogue.speaker).diagnostic dialogue.openedOn).reports dialogue =
      true :=
  (reports_iff _ _).mpr ⟨rfl, .inl rfl⟩

variable (named : IsName dialogue.speaker.toList) (otherNamed : IsName other.speaker.toList)
  (differs : other.openedOn ≠ dialogue.openedOn)
include named otherNamed differs

theorem not_reports_dialogueCut (character : String) (line : Option Nat) :
    ((Complaint.dialogueCut other.speaker other.openedOn character).diagnostic line).reports
      dialogue = false := by
  rw [Bool.eq_false_iff, Ne, reports_iff]
  rintro ⟨_, same | ⟨rest, same⟩⟩
  · have same := congrArg (fun entry => entry.message.toList) same
    change (Complaint.message _).toList = (Complaint.message _).toList at same
    rw [message_dialogueCut, message_dialogueOpen, cutMark_eq] at same
    simp only [List.append_assoc, List.cons_append] at same
    obtain ⟨_, later⟩ := otherNamed.append_inj named (by decide) (List.append_cancel_left same)
    exact absurd (congrArg List.head? later) (by simp)
  · change _ = (Complaint.message _).toList at same
    rw [message_dialogueCut] at same
    exact differs (openedOn_of_cutMark named otherNamed same).symm

theorem not_reports_dialogueOpen :
    ((Complaint.dialogueOpen other.speaker).diagnostic other.openedOn).reports dialogue =
      false := by
  rw [Bool.eq_false_iff, Ne, reports_iff]
  rintro ⟨_, same | ⟨rest, same⟩⟩
  · exact differs (Option.some.inj (congrArg Diagnostic.line same))
  · change _ = (Complaint.message _).toList at same
    rw [message_dialogueOpen, cutMark_eq] at same
    simp only [List.append_assoc, List.cons_append] at same
    obtain ⟨_, later⟩ := named.append_inj otherNamed (by decide) (List.append_cancel_left same)
    exact absurd (congrArg List.head? later) (by simp)

end OpenDialogue

/-! What is told of a dialogue is counted line by line. -/

structure OpenDialogue.OpenedBefore (number : Nat) (dialogue : OpenDialogue) : Prop where
  named : IsName dialogue.speaker.toList
  earlier : dialogue.openedOn < number

namespace LineScan

def answers (scan : LineScan) (number : Nat) (dialogue : OpenDialogue) : Nat :=
  scan.token.toList.countP (·.completes dialogue) +
    (scan.note.map (·.diagnostic number)).toList.countP (·.reports dialogue)

namespace Turn

variable {number : Nat} {before : Option OpenDialogue} {scan : LineScan} {dialogue : OpenDialogue}

theorem openedBefore (turn : Turn number before scan)
    (known : ∀ other ∈ before, other.OpenedBefore number) :
    ∀ other ∈ scan.mode.openDialogue?, other.OpenedBefore (number + 1) := by
  cases turn with
  | keeps same =>
      intro other isOpen
      obtain ⟨named, earlier⟩ := known other (same ▸ isOpen)
      exact ⟨named, Nat.lt_succ_of_lt earlier⟩
  | opens named =>
      rintro other ⟨rfl⟩
      exact ⟨named, Nat.lt_succ_self number⟩
  | closes | cuts => nofun

theorem answers_of_keeps {scan : LineScan} (tokens : ∀ token ∈ scan.token, token.line = number)
    (notes : ∀ note ∈ scan.note, note.kind = .unmatchedLine)
    (elsewhere : dialogue.openedOn ≠ number) : scan.answers number dialogue = 0 := by
  have silent : scan.token.toList.countP (·.completes dialogue) = 0 := by
    rw [List.countP_eq_zero]
    intro token member
    simp [Token.completes, tokens token (Option.mem_toList.mp member), elsewhere.symm]
  rw [answers, silent, Nat.zero_add, List.countP_eq_zero]
  intro entry member
  obtain ⟨note, found, rfl⟩ := Option.map_eq_some_iff.mp (Option.mem_toList.mp member)
  simp [Diagnostic.reports, Complaint.diagnostic, notes note found]

theorem answers_of_other (turn : Turn number before scan)
    (known : ∀ other ∈ before, other.OpenedBefore number) (named : IsName dialogue.speaker.toList)
    (elsewhere : dialogue.openedOn ≠ number)
    (differs : ∀ other ∈ before, other.openedOn ≠ dialogue.openedOn) :
    scan.answers number dialogue = 0 := by
  cases turn with
  | keeps _ tokens notes =>
      exact answers_of_keeps (fun token member => (tokens token member).1) notes elsewhere
  | opens => rfl
  | @closes other whole =>
      simp [answers, Token.completes, Token.dialogue, differs other rfl]
  | @cuts other name =>
      have unreported := OpenDialogue.not_reports_dialogueCut named (known other rfl).named
        (differs other rfl) name (some number)
      simp [answers, Token.completes, Token.character, unreported]

theorem differs_after (turn : Turn number before scan) (elsewhere : dialogue.openedOn ≠ number)
    (differs : ∀ other ∈ before, other.openedOn ≠ dialogue.openedOn) :
    ∀ other ∈ scan.mode.openDialogue?, other.openedOn ≠ dialogue.openedOn := by
  cases turn with
  | keeps same => rwa [same]
  | opens =>
      rintro other ⟨rfl⟩
      exact elsewhere.symm
  | closes | cuts => nofun

/-- An open dialogue stays open, or it is told once what has become of it. -/
theorem answers_of_open (turn : Turn number (some dialogue) scan)
    (elsewhere : dialogue.openedOn ≠ number) :
    (scan.answers number dialogue = 0 ∧ scan.mode.openDialogue? = some dialogue) ∨
      (scan.answers number dialogue = 1 ∧ scan.mode.openDialogue? = none) := by
  cases turn with
  | keeps same tokens notes =>
      have silent := answers_of_keeps (fun token member => (tokens token member).1) notes elsewhere
      exact .inl ⟨silent, same⟩
  | closes => exact .inr ⟨by simp [answers, Token.completes, Token.dialogue], rfl⟩
  | @cuts _ name =>
      have reported := dialogue.reports_dialogueCut name (some number)
      exact .inr ⟨by simp [answers, Token.completes, Token.character, reported], rfl⟩

end Turn

end LineScan

namespace TokenStream

variable {dialogue : OpenDialogue}

theorem answers_ofLines_cons (raw : List Char) (rest : List (List Char)) (number : Nat)
    (mode : Mode) (dialogue : OpenDialogue) :
    (ofLines number mode (raw :: rest)).answers dialogue =
      (scanLine raw number mode).answers number dialogue +
        (ofLines (number + 1) (scanLine raw number mode).mode rest).answers dialogue := by
  simp only [answers, LineScan.answers, ofLines, List.countP_append]
  omega

theorem answers_of_over (rows : List (List Char)) {number : Nat} (mode : Mode)
    (known : ∀ other ∈ mode.openDialogue?, other.OpenedBefore number)
    (past : dialogue.OpenedBefore number)
    (differs : ∀ other ∈ mode.openDialogue?, other.openedOn ≠ dialogue.openedOn) :
    (ofLines number mode rows).answers dialogue = 0 ∧
      (modeAfter number mode rows).suspended? ≠ some dialogue := by
  induction rows generalizing number mode with
  | nil =>
      rw [ofLines, modeAfter]
      cases mode with
      | dialogue speaker text openedOn =>
          have unreported := OpenDialogue.not_reports_dialogueOpen past.named
            (known ⟨speaker, openedOn⟩ rfl).named (differs ⟨speaker, openedOn⟩ rfl)
          simp [answers, openAtEnd, unreported, Mode.suspended?]
      | comment resume => exact ⟨rfl, fun isOpen => differs dialogue isOpen rfl⟩
      | normal | block => exact ⟨rfl, nofun⟩
  | cons raw rest ih =>
      have turn := turn_scanLine raw number mode
      have elsewhere : dialogue.openedOn ≠ number := Nat.ne_of_lt past.earlier
      obtain ⟨silent, closed⟩ := ih _ (turn.openedBefore known)
        ⟨past.named, Nat.lt_succ_of_lt past.earlier⟩ (turn.differs_after elsewhere differs)
      rw [answers_ofLines_cons, turn.answers_of_other known past.named elsewhere differs, silent]
      exact ⟨rfl, closed⟩

theorem answers_of_isOpen (rows : List (List Char)) {number : Nat} {mode : Mode}
    (isOpen : mode.openDialogue? = some dialogue) (past : dialogue.OpenedBefore number) :
    (ofLines number mode rows).answers dialogue =
      if (modeAfter number mode rows).suspended? = some dialogue then 0 else 1 := by
  induction rows generalizing number mode with
  | nil =>
      rw [ofLines, modeAfter]
      cases mode with
      | dialogue speaker text openedOn =>
          obtain rfl := Option.some.inj isOpen
          have reported := OpenDialogue.reports_dialogueOpen ⟨speaker, openedOn⟩
          simp [answers, openAtEnd, reported, Mode.suspended?]
      | comment resume =>
          have suspended : (Mode.comment resume).suspended? = some dialogue := isOpen
          rw [if_pos suspended]
          rfl
      | normal | block => contradiction
  | cons raw rest ih =>
      have turn := turn_scanLine raw number mode
      rw [isOpen] at turn
      have later : dialogue.OpenedBefore (number + 1) :=
        ⟨past.named, Nat.lt_succ_of_lt past.earlier⟩
      rw [answers_ofLines_cons, modeAfter]
      rcases turn.answers_of_open (Nat.ne_of_lt past.earlier) with ⟨silent, still⟩ | ⟨told, closed⟩
      · rw [silent, Nat.zero_add, ih still later]
      · obtain ⟨silent, done⟩ := answers_of_over rest (scanLine raw number mode).mode
          (by simp [closed]) later (by simp [closed])
        rw [told, silent, if_neg done]

theorem opened_cons {raw : List Char} {rest : List (List Char)} {number : Nat} {mode : Mode}
    (opens : dialogue ∈ opened number mode (raw :: rest)) :
    (dialogue.openedOn = number ∧ IsName dialogue.speaker.toList ∧
        (scanLine raw number mode).mode.openDialogue? = some dialogue ∧
        (scanLine raw number mode).answers number dialogue = 0) ∨
      dialogue ∈ opened (number + 1) (scanLine raw number mode).mode rest := by
  have turn := turn_scanLine raw number mode
  rw [opened] at opens
  generalize scanLine raw number mode = scan at turn opens
  split at opens
  next speaker text openedOn before after =>
    rcases List.mem_cons.mp opens with rfl | later
    · rw [before] at turn
      cases turn with
      | keeps same => simp [after, Mode.openDialogue?] at same
      | opens named =>
          obtain ⟨rfl, _, _⟩ := Mode.dialogue.inj after
          exact .inl ⟨rfl, named, rfl, rfl⟩
    · exact .inr later
  next => exact .inr opens

theorem le_openedOn {rows : List (List Char)} {number : Nat} {mode : Mode}
    (opens : dialogue ∈ opened number mode rows) :
    number ≤ dialogue.openedOn ∧ IsName dialogue.speaker.toList := by
  induction rows generalizing number mode with
  | nil => contradiction
  | cons raw rest ih =>
      rcases opened_cons opens with ⟨here, named, _⟩ | later
      · exact ⟨Nat.le_of_eq here.symm, named⟩
      · obtain ⟨after, named⟩ := ih later
        exact ⟨Nat.le_of_succ_le after, named⟩

theorem answers_of_opened {rows : List (List Char)} {number : Nat} {mode : Mode}
    (known : ∀ other ∈ mode.openDialogue?, other.OpenedBefore number)
    (opens : dialogue ∈ opened number mode rows) :
    (ofLines number mode rows).answers dialogue =
      if (modeAfter number mode rows).suspended? = some dialogue then 0 else 1 := by
  induction rows generalizing number mode with
  | nil => contradiction
  | cons raw rest ih =>
      have turn := turn_scanLine raw number mode
      rw [answers_ofLines_cons, modeAfter]
      rcases opened_cons opens with ⟨here, named, isOpen, silent⟩ | later
      · have past : dialogue.OpenedBefore (number + 1) := ⟨named, by omega⟩
        rw [silent, Nat.zero_add, answers_of_isOpen rest isOpen past]
      · obtain ⟨after, named⟩ := le_openedOn later
        have elsewhere : dialogue.openedOn ≠ number := by omega
        have differs : ∀ other ∈ mode.openDialogue?, other.openedOn ≠ dialogue.openedOn := by
          intro other isOpen
          have earlier := (known other isOpen).earlier
          omega
        rw [turn.answers_of_other known named elsewhere differs, Nat.zero_add,
          ih (turn.openedBefore known) later]

end TokenStream

/-- A dialogue that a line opens is told of once: one token completes it, or one complaint, kept or
only counted, reports it. Nothing tells of a dialogue that is suspended by a comment when the text
ends. -/
theorem opened_dialogue_answered (text : String) (dialogue : OpenDialogue)
    (opens : dialogue ∈ TokenStream.opened 1 .normal (lines text)) :
    let stream := TokenStream.ofText text
    let buffer := Diagnostics.ofList stream.complaints
    let counted := stream.complaints.drop Diagnostics.capacity
    let last := TokenStream.modeAfter 1 .normal (lines text)
    buffer.items ++ counted = stream.complaints ∧ counted.length = buffer.dropped ∧
      stream.tokens.countP (·.completes dialogue) +
          (buffer.items.countP (·.reports dialogue) + counted.countP (·.reports dialogue)) =
        if last.suspended? = some dialogue then 0 else 1 := by
  intro stream buffer counted last
  have kept : buffer.items ++ counted = stream.complaints := Diagnostics.items_append_drop _
  refine ⟨kept, Diagnostics.length_drop_capacity _, ?_⟩
  have answered := TokenStream.answers_of_opened (by simp [Mode.openDialogue?]) opens
  rw [← answered, ← List.countP_append, kept, TokenStream.answers]
  simp [stream, TokenStream.ofText, Token.completes, Token.endOfText]

def asideText : String :=
  "A \"one\n/* aside\n*/\n@char B\nA \"two\""

theorem asideText_answered :
    let dialogue : OpenDialogue := ⟨"A", 1⟩
    let stream := TokenStream.ofText asideText
    dialogue ∈ TokenStream.opened 1 .normal (lines asideText) ∧
      stream.tokens.countP (·.completes dialogue) +
          ((Diagnostics.ofList stream.complaints).items.countP (·.reports dialogue) +
            (stream.complaints.drop Diagnostics.capacity).countP (·.reports dialogue)) = 1 := by
  intro dialogue stream
  have opens : dialogue ∈ TokenStream.opened 1 .normal (lines asideText) := by decide +kernel
  have resumed :
      (TokenStream.modeAfter 1 .normal (lines asideText)).suspended? ≠ some dialogue := by
    decide +kernel
  obtain ⟨_, _, answered⟩ := opened_dialogue_answered asideText dialogue opens
  rw [if_neg resumed] at answered
  exact ⟨opens, answered⟩

theorem suspended_dialogue_unanswered :
    let text := "A \"one\n/* aside"
    TokenStream.opened 1 .normal (lines text) = [⟨"A", 1⟩] ∧
      (TokenStream.ofText text).tokens = [.endOfText 2] ∧
      (TokenStream.ofText text).complaints = [] := by
  decide +kernel

end StoryScript
