import Mathlib.Data.List.Forall2
import StoryScript.Proofs.Text.Trimming
import StoryScript.Scan

/-!
The layout of a text. Carriage returns at the ends of lines, blanks after what a line says and, but
for the block of a character, blanks before it have no part in what is read.
-/

namespace StoryScript

open Text

namespace Text

def withoutReturn (row : List Char) : List Char :=
  if row.getLast? = some '\r' then row.dropLast else row

def rows (text : String) : List (List Char) :=
  text.toList.splitOn '\n'

def withReturns (text : String) : String :=
  String.ofList (text.toList.flatMap fun c => if c = '\n' then ['\r', '\n'] else [c])

theorem lines_eq_map (text : String) : lines text = (rows text).map withoutReturn :=
  rfl

theorem withoutReturn_append (row : List Char) : withoutReturn (row ++ ['\r']) = row := by
  simp [withoutReturn]

theorem eq_withoutReturn (row : List Char) :
    row = withoutReturn row ∨ row = withoutReturn row ++ ['\r'] := by
  unfold withoutReturn
  by_cases ending : row.getLast? = some '\r'
  · rw [if_pos ending]
    exact Or.inr (List.dropLast_append_getLast? '\r' ending).symm
  · rw [if_neg ending]
    exact Or.inl rfl

def IsReturned (row other : List Char) : Prop :=
  other = row ∨ other = row ++ ['\r']

theorem returned_modifyHead (c : Char) {rows others : List (List Char)}
    (returned : List.Forall₂ IsReturned rows others) :
    List.Forall₂ IsReturned (rows.modifyHead (c :: ·)) (others.modifyHead (c :: ·)) := by
  cases returned with
  | nil => exact .nil
  | cons first later =>
      refine .cons ?_ later
      rcases first with rfl | rfl
      · exact Or.inl rfl
      · exact Or.inr rfl

theorem rows_withReturns (text : String) :
    List.Forall₂ IsReturned (rows text) (rows (withReturns text)) := by
  rw [rows, rows, withReturns, String.toList_ofList]
  induction text.toList with
  | nil => exact .cons (Or.inl rfl) .nil
  | cons c rest ih =>
      rw [List.flatMap_cons, List.splitOn_cons_eq_if_modifyHead]
      by_cases feed : c = '\n'
      · subst feed
        exact .cons (Or.inr rfl) ih
      · rw [if_neg (by simp [feed]), if_neg feed, List.singleton_append,
          List.splitOn_cons_eq_if_modifyHead, if_neg (by simp [feed])]
        exact returned_modifyHead c ih

end Text

/-- Other blanks before what a line says, and more of them after it. In a block the blanks before a
line tell its attributes from other lines, so that they stay and an empty line stays empty. -/
def Mode.Respaces (mode : Mode) (row other : List Char) : Prop :=
  ∃ front body indent more, row = front ++ body ∧ other = indent ++ (body ++ more) ∧
    (∀ c ∈ front ++ (indent ++ more), isBlank c = true) ∧
    ∀ character, mode = .block character → indent = front ∧ (row = [] → other = [])

inductive Relaid : Nat → Mode → List (List Char) → List (List Char) → Prop
  | nil {number mode} : Relaid number mode [] []
  | cons {number mode row other rest others} (next : Mode) :
      mode.Respaces row other →
      (scanLine (withoutReturn row) number mode).mode = next →
      Relaid (number + 1) next rest others →
      Relaid number mode (row :: rest) (other :: others)

namespace Scan

/-- A line is read by what it says and, in a block, by whether it is indented. -/
theorem scanLine_congr {raw other : List Char} {mode : Mode} (same : trim raw = trim other)
    (indented : ∀ character, mode = .block character → isIndented raw = isIndented other)
    (number : Nat) : scanLine raw number mode = scanLine other number mode := by
  cases mode with
  | normal => simp only [scanLine, scanOutside, same]
  | block character => simp only [scanLine, scanOutside, same, indented character rfl]
  | comment resume => simp only [scanLine, same]
  | dialogue speaker text openedOn => simp only [scanLine, scanOutside, same]

theorem trim_withoutReturn (row : List Char) : trim (withoutReturn row) = trim row := by
  rcases eq_withoutReturn row with same | same
  · rw [← same]
  · have blank : ∀ c ∈ ['\r'], isBlank c = true := List.all_eq_true.mp (by decide)
    have padded := trim_padded (List.forall_mem_nil _) blank (withoutReturn row)
    rw [List.nil_append, ← same] at padded
    exact padded.symm

theorem isIndented_withoutReturn (row : List Char) :
    isIndented (withoutReturn row) = isIndented row := by
  rcases eq_withoutReturn row with same | same
  · rw [← same]
  · cases rest : withoutReturn row with
    | nil =>
        rw [rest] at same
        rw [same]
        rfl
    | cons c more =>
        rw [rest] at same
        rw [same]
        rfl

theorem scanLine_withoutReturn (row : List Char) (number : Nat) (mode : Mode) :
    scanLine (withoutReturn row) number mode = scanLine row number mode :=
  scanLine_congr (trim_withoutReturn row) (fun _ _ => isIndented_withoutReturn row) number

theorem scanLine_respaced {row other : List Char} {mode : Mode}
    (respaces : mode.Respaces row other) (number : Nat) :
    scanLine (withoutReturn row) number mode = scanLine (withoutReturn other) number mode := by
  rw [scanLine_withoutReturn, scanLine_withoutReturn]
  obtain ⟨front, body, indent, more, rfl, rfl, blanks, kept⟩ := respaces
  rw [List.forall_mem_append, List.forall_mem_append] at blanks
  obtain ⟨before, instead, after⟩ := blanks
  have old := trim_padded before (List.forall_mem_nil _) body
  rw [List.append_nil] at old
  apply scanLine_congr
  · rw [old, trim_padded instead after body]
  · intro character inside
    obtain ⟨unmoved, empty⟩ := kept character inside
    rw [unmoved, ← List.append_assoc] at empty ⊢
    cases whole : front ++ body with
    | nil => rw [← whole, empty whole, whole]
    | cons c rest => rfl

end Scan

namespace TokenStream

theorem ofLines_congr {rows others : List (List Char)}
    (alike : List.Forall₂ (fun raw other =>
      ∀ number mode, scanLine raw number mode = scanLine other number mode) rows others)
    (number : Nat) (mode : Mode) : ofLines number mode rows = ofLines number mode others := by
  induction alike generalizing number mode with
  | nil => rfl
  | cons first _ ih => simp only [ofLines, first, ih]

theorem ofLines_relaid {number : Nat} {mode : Mode} {rows others : List (List Char)}
    (relaid : Relaid number mode rows others) :
    ofLines number mode (rows.map withoutReturn) =
        ofLines number mode (others.map withoutReturn) ∧
      rows.length = others.length := by
  -- Both texts are in the same mode before each line, since the lines before it are scanned alike.
  induction relaid with
  | nil => exact ⟨rfl, rfl⟩
  | cons _ respaces next _ ih =>
      obtain ⟨later, length⟩ := ih
      have first := Scan.scanLine_respaced respaces
      constructor
      · simp only [List.map_cons, ofLines, ← first, next, later]
      · rw [List.length_cons, List.length_cons, length]

theorem ofText_eq {text other : String}
    (stream : ofLines 1 .normal (lines text) = ofLines 1 .normal (lines other))
    (length : (rows text).length = (rows other).length) : ofText text = ofText other := by
  have count : (lines text).length = (lines other).length := by
    rw [lines_eq_map, lines_eq_map, List.length_map, List.length_map, length]
  rw [ofText, ofText, stream, count]

theorem ofText_withReturns (text : String) : ofText (withReturns text) = ofText text := by
  have ends := rows_withReturns text
  symm
  apply ofText_eq
  · rw [lines_eq_map, lines_eq_map]
    apply ofLines_congr
    rw [List.forall₂_map_left_iff, List.forall₂_map_right_iff]
    refine ends.imp ?_
    rintro row other (rfl | rfl) number mode
    · rfl
    · rw [withoutReturn_append, Scan.scanLine_withoutReturn]
  · exact ends.length_eq

end TokenStream

/-- The layout of a text says nothing. Neither carriage returns before the line feeds nor other
blanks around what the lines say change its tokens or what is complained about. -/
theorem layout_unread (text : String) :
    TokenStream.ofText (withReturns text) = TokenStream.ofText text ∧
      ∀ other, Relaid 1 .normal (rows text) (rows other) →
        TokenStream.ofText other = TokenStream.ofText text := by
  refine ⟨TokenStream.ofText_withReturns text, ?_⟩
  intro other relaid
  obtain ⟨stream, length⟩ := TokenStream.ofLines_relaid relaid
  exact (TokenStream.ofText_eq stream length).symm

def pathText : String :=
  "@char A\n  mood: calm\n  /* a\n*/\n== Gate ==\n?"

/-- The comment suspends the block, so that the blanks before its last line count for nothing. -/
theorem pathText_relaid :
    let other := "\t@char A\n  mood: calm \r\n  /* a\t\n \t*/\n== Gate ==  \n  ? "
    Relaid 1 .normal (rows pathText) (rows other) ∧
      TokenStream.ofText (withReturns pathText) = TokenStream.ofText pathText ∧
      (TokenStream.ofText other).tokens = [.character "A" 1, .trait "A" "mood" "calm" 2,
        .label "Gate" 5, .endOfText 6] ∧
      (TokenStream.ofText other).complaints =
        [(Complaint.unknownPattern "?").diagnostic (some 6)] := by
  intro other
  have old : rows pathText = ["@char A", "  mood: calm", "  /* a", "*/", "== Gate ==", "?"].map
      String.toList := by decide +kernel
  have new : rows other = ["\t@char A", "  mood: calm \r", "  /* a\t", " \t*/", "== Gate ==  ",
      "  ? "].map String.toList := by decide +kernel
  have relaid : Relaid 1 .normal (rows pathText) (rows other) := by
    rw [old, new]
    refine .cons (.block "A") ⟨[], "@char A".toList, ['\t'], [], ?_⟩ ?_ ?_
    · exact ⟨by decide, by decide, List.all_eq_true.mp (by decide), nofun⟩
    · decide +kernel
    refine .cons (.block "A") ⟨[' ', ' '], "mood: calm".toList, [' ', ' '], [' ', '\r'], ?_⟩ ?_ ?_
    · exact ⟨by decide, by decide, List.all_eq_true.mp (by decide),
        fun _ _ => ⟨rfl, by decide⟩⟩
    · decide +kernel
    refine .cons (.comment (.block "A")) ⟨[' ', ' '], "/* a".toList, [' ', ' '], ['\t'], ?_⟩ ?_ ?_
    · exact ⟨by decide, by decide, List.all_eq_true.mp (by decide),
        fun _ _ => ⟨rfl, by decide⟩⟩
    · decide +kernel
    refine .cons (.block "A") ⟨[], ['*', '/'], [' ', '\t'], [], ?_⟩ ?_ ?_
    · exact ⟨by decide, by decide, List.all_eq_true.mp (by decide), nofun⟩
    · decide +kernel
    refine .cons .normal ⟨[], "== Gate ==".toList, [], [' ', ' '], ?_⟩ ?_ ?_
    · exact ⟨by decide, by decide, List.all_eq_true.mp (by decide),
        fun _ _ => ⟨rfl, by decide⟩⟩
    · decide +kernel
    refine .cons .normal ⟨[], ['?'], [' ', ' '], [' '], ?_⟩ ?_ .nil
    · exact ⟨by decide, by decide, List.all_eq_true.mp (by decide), nofun⟩
    · decide +kernel
  obtain ⟨returned, respaced⟩ := layout_unread pathText
  rw [respaced other relaid]
  refine ⟨relaid, returned, ?_, ?_⟩
  · decide +kernel
  · decide +kernel

end StoryScript
