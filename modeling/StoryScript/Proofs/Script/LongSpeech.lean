import StoryScript.Proofs.Script.Aside

/-!
Dialogues of several lines. A line opens one when it has an opening quote and does not end in a
quote, wherever else quotes stand in it. The lines after it are its text, up to the first one that
ends in a quote.
-/

namespace StoryScript

open Text

namespace Line

/-- A line that is text where a dialogue is open: no header, and no mark of a comment. -/
structure IsText (line : List Char) : Prop where
  noHeader : character? line = none
  noOpening : ¬ ['/', '*'] <+: line
  noClosing : ¬ ['*', '/'] <:+ line

theorem Speaks.start {line speaker text : List Char} (speaks : Speaks line speaker text) :
    character? line = none ∧ Scan.opensComment line = false := by
  obtain ⟨named, blanks, _, _, rfl⟩ := speaks
  obtain ⟨c, rest, rfl, other⟩ := named.start
  have noMark := other '@' (by decide)
  have noSlash := other '/' (by decide)
  simp [character?, Scan.opensComment, List.isPrefixOf, Ne.symm noMark, Ne.symm noSlash]

end Line

structure IsLongSpeech (speaker text opening : List Char) (middle : List (List Char))
    (closing : List Char) : Prop where
  speaks : Line.Speaks (trim opening) speaker text
  oneLine : '\n' ∉ text
  isOpen : (trim opening).getLast? ≠ some '"'
  noClosing : ¬ ['*', '/'] <:+ trim opening
  areText : ∀ raw ∈ middle ++ [closing], Line.IsText (trim raw)
  areOpen : ∀ raw ∈ middle, (trim raw).getLast? ≠ some '"'
  closes : (trim closing).getLast? = some '"'

namespace Scan

theorem scanLine_speaks {raw speaker text : List Char}
    (speaks : Line.Speaks (trim raw) speaker text)
    (isOpen : (trim raw).getLast? ≠ some '"') (oneLine : '\n' ∉ text)
    (noClosing : ¬ ['*', '/'] <:+ trim raw) (number : Nat) :
    scanLine raw number .normal =
      { mode := .dialogue (String.ofList speaker) (String.ofList text) number } := by
  obtain ⟨noHeader, noOpening⟩ := speaks.start
  have opens := Line.openSpeech?_eq_some_iff.mpr ⟨speaks, isOpen, oneLine⟩
  rw [← closesComment_iff, Bool.not_eq_true] at noClosing
  simp [scanLine, scanOutside, noHeader, scanContent, noOpening, noClosing, scanStatement, opens]

theorem mode_scanStatement {line : List Char} {number : Nat} {mode : Mode}
    (closed : Line.openSpeech? line = none) : (scanStatement line number mode).mode = mode := by
  simp only [scanStatement, closed]
  split
  · rfl
  · split <;> rfl

theorem opens_iff (raw : List Char) (number : Nat) (speaker text : String) (openedOn : Nat) :
    (scanLine raw number .normal).mode = .dialogue speaker text openedOn ↔
      openedOn = number ∧ Line.openSpeech? (trim raw) = some (speaker.toList, text.toList) ∧
        ¬ ['*', '/'] <:+ trim raw := by
  constructor
  · intro opened
    cases header : Line.character? (trim raw) with
    | some name => simp [scanLine, scanOutside, header] at opened
    | none =>
        simp only [scanLine, scanOutside, header, scanContent] at opened
        split at opened
        · contradiction
        · split at opened
          · contradiction
          · next noClosing =>
              rw [closesComment_iff] at noClosing
              cases read : Line.openSpeech? (trim raw) with
              | none => simp [mode_scanStatement read] at opened
              | some found =>
                  simp only [scanStatement, read, Mode.dialogue.injEq] at opened
                  obtain ⟨rfl, rfl, rfl⟩ := opened
                  simp [noClosing]
  · rintro ⟨rfl, read, noClosing⟩
    obtain ⟨speaks, isOpen, oneLine⟩ := Line.openSpeech?_eq_some_iff.mp read
    rw [scanLine_speaks speaks isOpen oneLine noClosing, String.ofList_toList, String.ofList_toList]

theorem scanLine_text {raw : List Char} (isText : Line.IsText (trim raw))
    (isOpen : (trim raw).getLast? ≠ some '"') (number : Nat) (speaker text : String)
    (openedOn : Nat) :
    scanLine raw number (.dialogue speaker text openedOn) =
      { mode := .dialogue speaker (text ++ String.ofList ('\n' :: trim raw)) openedOn } := by
  obtain ⟨noHeader, noOpening, noClosing⟩ := isText
  rw [← opensComment_iff, Bool.not_eq_true] at noOpening
  rw [← closesComment_iff, Bool.not_eq_true] at noClosing
  simp [scanLine, scanOutside, noHeader, scanContent, noOpening, noClosing, scanSpeech, dropLast?,
    isOpen]

theorem scanLine_lastText {raw : List Char} (isText : Line.IsText (trim raw))
    (closes : (trim raw).getLast? = some '"') (number : Nat) (speaker text : String)
    (openedOn : Nat) :
    scanLine raw number (.dialogue speaker text openedOn) =
      { token := some (.dialogue speaker
          (String.ofList (trim (text.toList ++ '\n' :: (trim raw).dropLast))) openedOn)
        mode := .normal } := by
  obtain ⟨noHeader, noOpening, noClosing⟩ := isText
  rw [← opensComment_iff, Bool.not_eq_true] at noOpening
  rw [← closesComment_iff, Bool.not_eq_true] at noClosing
  simp [scanLine, scanOutside, noHeader, scanContent, noOpening, noClosing, scanSpeech, dropLast?,
    closes]

end Scan

theorem Text.intercalate_cons (mark first : List Char) (rest : List (List Char)) :
    mark.intercalate (first :: rest) = first ++ rest.flatMap (mark ++ ·) := by
  induction rest generalizing first with
  | nil => simp [List.intercalate]
  | cons second more ih =>
      have later := ih second
      simp only [List.intercalate, List.intersperse_cons_cons, List.flatten_cons] at later ⊢
      rw [later, List.flatMap_cons, List.append_assoc]

namespace TokenStream

theorem scan_text {middle : List (List Char)}
    (areText : ∀ raw ∈ middle, Line.IsText (trim raw))
    (areOpen : ∀ raw ∈ middle, (trim raw).getLast? ≠ some '"') (number : Nat) (speaker : String)
    (text : List Char) (openedOn : Nat) :
    (∀ scan ∈ scanLines number (.dialogue speaker (String.ofList text) openedOn) middle,
        scan.IsSilent) ∧
      modeAfter number (.dialogue speaker (String.ofList text) openedOn) middle =
        .dialogue speaker (String.ofList (['\n'].intercalate (text :: middle.map trim))) openedOn := by
  induction middle generalizing number text with
  | nil => exact ⟨List.forall_mem_nil _, by simp [modeAfter]⟩
  | cons raw rest ih =>
      obtain ⟨isText, others⟩ := List.forall_mem_cons.mp areText
      obtain ⟨isOpen, stillOpen⟩ := List.forall_mem_cons.mp areOpen
      have first := Scan.scanLine_text isText isOpen number speaker (String.ofList text) openedOn
      rw [← String.ofList_append] at first
      obtain ⟨silent, after⟩ := ih others stillOpen (number + 1) (text ++ '\n' :: trim raw)
      simp only [scanLines, modeAfter, first]
      refine ⟨List.forall_mem_cons.mpr ⟨⟨rfl, rfl⟩, silent⟩, ?_⟩
      rw [after, List.map_cons, intercalate_cons, intercalate_cons, List.flatMap_cons,
        List.append_assoc]
      rfl

theorem scan_longSpeech {speaker text opening closing : List Char} {middle : List (List Char)}
    (speech : IsLongSpeech speaker text opening middle closing) (number : Nat) :
    let whole := trim (['\n'].intercalate (text :: (middle.map trim ++ [(trim closing).dropLast])))
    let token := Token.dialogue (String.ofList speaker) (String.ofList whole) number
    ∃ silent : List LineScan, (∀ scan ∈ silent, scan.IsSilent) ∧
      scanLines number .normal (opening :: (middle ++ [closing])) =
        silent ++ [{ token := some token, mode := .normal }] ∧
      modeAfter number .normal (opening :: (middle ++ [closing])) = .normal := by
  intro whole token
  obtain ⟨speaks, oneLine, isOpen, noClosing, areText, areOpen, closes⟩ := speech
  obtain ⟨inside, last⟩ := List.forall_mem_append.mp areText
  have first := Scan.scanLine_speaks speaks isOpen oneLine noClosing number
  obtain ⟨silent, collected⟩ :=
    scan_text inside areOpen (number + 1) (String.ofList speaker) text number
  have final := Scan.scanLine_lastText (last closing List.mem_cons_self) closes
    (number + 1 + middle.length) (String.ofList speaker)
    (String.ofList (['\n'].intercalate (text :: middle.map trim))) number
  have joined : ['\n'].intercalate (text :: middle.map trim) ++ '\n' :: (trim closing).dropLast =
      ['\n'].intercalate (text :: (middle.map trim ++ [(trim closing).dropLast])) := by
    simp [intercalate_cons]
  rw [String.toList_ofList, joined] at final
  simp only [scanLines, modeAfter, first, scanLines_append, modeAfter_append, collected, final]
  exact ⟨_, List.forall_mem_cons.mpr ⟨⟨rfl, rfl⟩, silent⟩, (List.cons_append).symm, trivial⟩

end TokenStream

theorem Text.getLast?_append_mark (front rest : List Char) (mark : Char) :
    (front ++ mark :: rest).getLast? ≠ some mark ↔ rest ≠ [] ∧ rest.getLast? ≠ some mark := by
  cases rest with
  | nil => simp
  | cons c more => simp [List.getLast?_append, List.getLast?_cons_cons]

/-- A line opens a dialogue exactly when it has a speaker and an opening quote and does not end in a
quote. It does so although its quote is closed exactly when something that does not end in a quote
follows a complete quoted text. -/
theorem dialogue_opened_iff (raw : List Char) (number : Nat) :
    (∀ speaker text openedOn,
      (scanLine raw number .normal).mode = .dialogue speaker text openedOn ↔
        openedOn = number ∧ Line.Speaks (trim raw) speaker.toList text.toList ∧
          (trim raw).getLast? ≠ some '"' ∧ '\n' ∉ text.toList ∧ ¬ ['*', '/'] <:+ trim raw) ∧
    ((∃ speaker text openedOn,
        (scanLine raw number .normal).mode = .dialogue speaker text openedOn ∧
          '"' ∈ text.toList) ↔
      ∃ speaker quoted rest, Line.Speaks (trim raw) speaker (quoted ++ '"' :: rest) ∧
        '"' ∉ quoted ∧ rest ≠ [] ∧ rest.getLast? ≠ some '"' ∧ '\n' ∉ quoted ++ rest ∧
          ¬ ['*', '/'] <:+ trim raw) := by
  have opens := Scan.opens_iff raw number
  simp only [Line.openSpeech?_eq_some_iff, and_assoc] at opens
  refine ⟨opens, ?_⟩
  have ending {speaker quoted rest : List Char}
      (speaks : Line.Speaks (trim raw) speaker (quoted ++ '"' :: rest)) :
      (trim raw).getLast? ≠ some '"' ↔ rest ≠ [] ∧ rest.getLast? ≠ some '"' := by
    obtain ⟨_, blanks, _, _, same⟩ := speaks
    rw [same, ← getLast?_append_mark (speaker ++ (blanks ++ '"' :: quoted))]
    simp
  constructor
  · rintro ⟨speaker, text, openedOn, opened, closed⟩
    obtain ⟨_, speaks, isOpen, oneLine, noClosing⟩ := (opens speaker text openedOn).mp opened
    obtain ⟨quoted, rest, same, first⟩ := List.eq_append_cons_of_mem closed
    rw [same] at speaks oneLine
    obtain ⟨nonempty, last⟩ := (ending speaks).mp isOpen
    have oneLine : '\n' ∉ quoted ++ rest := by simpa using oneLine
    exact ⟨speaker.toList, quoted, rest, speaks, first, nonempty, last, oneLine, noClosing⟩
  · rintro ⟨speaker, quoted, rest, speaks, _, nonempty, last, oneLine, noClosing⟩
    have isOpen := (ending speaks).mpr ⟨nonempty, last⟩
    refine ⟨String.ofList speaker, String.ofList (quoted ++ '"' :: rest), number,
      (opens _ _ number).mpr ?_, by simp⟩
    simp only [String.toList_ofList]
    exact ⟨trivial, speaks, isOpen, by simpa using oneLine, noClosing⟩

theorem closed_quote_opens_dialogue :
    (scanLine "A \"Hi\" bye".toList 1 .normal).mode = .dialogue "A" "Hi\" bye" 1 ∧
      (TokenStream.ofText "A \"Hi\" bye\n== Next ==").tokens = [.endOfText 2] := by
  decide +kernel

/-- The lines of a dialogue that one line opens and a later one closes give one token and nothing to
complain about, whatever else they look like. The token has the number of the first line and the
lines as its text, and what follows is read as if nothing were open. -/
theorem long_speech_assembled {speaker text opening closing : List Char}
    {middle : List (List Char)} (speech : IsLongSpeech speaker text opening middle closing)
    (number : Nat) :
    let rows := opening :: (middle ++ [closing])
    let whole := trim (['\n'].intercalate (text :: (middle.map trim ++ [(trim closing).dropLast])))
    let token := Token.dialogue (String.ofList speaker) (String.ofList whole) number
    (scanLines number .normal rows).filterMap (·.token) = [token] ∧
      (∀ scan ∈ scanLines number .normal rows, scan.note = none) ∧
      TokenStream.modeAfter number .normal rows = .normal ∧
      ∀ after, let later := TokenStream.ofLines (number + rows.length) .normal after
        TokenStream.ofLines number .normal (rows ++ after) =
          ⟨token :: later.tokens, later.complaints⟩ := by
  intro rows whole token
  obtain ⟨silent, nothing, scans, closed⟩ := TokenStream.scan_longSpeech speech number
  have tokens : (scanLines number .normal rows).filterMap (·.token) = [token] := by
    rw [scans, List.filterMap_append, LineScan.filterMap_silent nothing]
    rfl
  have noNote : ∀ scan ∈ scanLines number .normal rows, scan.note = none := by
    rw [scans]
    exact List.forall_mem_append.mpr
      ⟨fun scan member => (nothing scan member).2, List.forall_mem_singleton.mpr rfl⟩
  refine ⟨tokens, noNote, closed, fun after => ?_⟩
  rw [TokenStream.ofLines_append, tokens, closed, Notice.ofScans_eq_nil noNote]
  rfl

theorem watchSpeech_assembled :
    let text := "So \"that\" is it".toList
    let opening := "  Mara \t\"So \"that\" is it ".toList
    let middle := ["", "// hm", "== Gate ==", "-> Away  ", "* go -> On"].map String.toList
    let closing := "\tdone.  \" ".toList
    let rows := opening :: (middle ++ [closing])
    IsLongSpeech "Mara".toList text opening middle closing ∧
      (scanLines 4 .normal rows).filterMap (·.token) =
        [.dialogue "Mara" "So \"that\" is it\n\n// hm\n== Gate ==\n-> Away\n* go -> On\ndone." 4] ∧
      (∀ scan ∈ scanLines 4 .normal rows, scan.note = none) ∧
      TokenStream.modeAfter 4 .normal rows = .normal := by
  intro text opening middle closing rows
  have speaks : Line.Speaks (trim opening) "Mara".toList text :=
    Line.speech?_eq_some_iff.mp (by decide +kernel)
  have areText : ∀ raw ∈ middle ++ [closing], Line.character? (trim raw) = none ∧
      ¬ ['/', '*'] <+: trim raw ∧ ¬ ['*', '/'] <:+ trim raw := by decide +kernel
  have speech : IsLongSpeech "Mara".toList text opening middle closing :=
    { speaks
      oneLine := by decide +kernel
      isOpen := by decide +kernel
      noClosing := by decide +kernel
      areText := fun raw member =>
        ⟨(areText raw member).1, (areText raw member).2.1, (areText raw member).2.2⟩
      areOpen := by decide +kernel
      closes := by decide +kernel }
  obtain ⟨tokens, noNote, closed, _⟩ := long_speech_assembled speech 4
  have whole : String.ofList (trim (['\n'].intercalate
        (text :: (middle.map trim ++ [(trim closing).dropLast])))) =
      "So \"that\" is it\n\n// hm\n== Gate ==\n-> Away\n* go -> On\ndone." := by decide +kernel
  rw [whole] at tokens
  exact ⟨speech, tokens, noNote, closed⟩

end StoryScript
