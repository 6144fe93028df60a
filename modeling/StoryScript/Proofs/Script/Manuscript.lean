import StoryScript.Proofs.Script.Payload
import StoryScript.Proofs.Script.Scanning
import StoryScript.Proofs.Story.Placement

/-! Printing a story and reading the text back. -/

namespace StoryScript

open Text

/-- A story in the order in which it is written down: the characters with their attributes, and the
labels with their nodes. -/
structure Manuscript where
  cast : List (String × Table String)
  labels : List (String × List Node)

namespace Manuscript

def castLines (cast : List (String × Table String)) : List (List Char) :=
  cast.flatMap fun entry =>
    Scan.printHeader entry.1 ::
      entry.2.entries.map fun trait => Scan.printTrait trait.1 trait.2

def labelStatements (labels : List (String × List Node)) : List Statement :=
  labels.flatMap fun entry => .label entry.1 :: Node.statementsOf entry.2

def lines (manuscript : Manuscript) : List (List Char) :=
  castLines manuscript.cast ++ (labelStatements manuscript.labels).map Statement.print

def text (manuscript : Manuscript) : String :=
  String.ofList (manuscript.lines.flatMap (· ++ ['\n']))

def placedCast (number : Nat) : List (String × Table String) → List (String × Profile)
  | [] => []
  | (name, attributes) :: rest =>
      (name, ⟨attributes, number⟩) :: placedCast (number + 1 + attributes.size) rest

def placedLabels (number : Nat) : List (String × List Node) → List (String × List Node)
  | [] => []
  | (name, nodes) :: rest =>
      (name, Node.placedAll (number + 1) nodes) ::
        placedLabels (number + 1 + (Node.statementsOf nodes).length) rest

/-- The tokens of a character's attributes, whose values are still in quotes. -/
def traitTokens (character : String) (number : Nat) : List (String × String) → List Token
  | [] => []
  | (key, value) :: rest =>
      .trait character key (String.ofList ('"' :: (value.toList ++ ['"']))) number ::
        traitTokens character (number + 1) rest

def castTokens (number : Nat) : List (String × Table String) → List Token
  | [] => []
  | (name, attributes) :: rest =>
      .character name number :: traitTokens name (number + 1) attributes.entries ++
        castTokens (number + 1 + attributes.size) rest

def tokens (manuscript : Manuscript) : List Token :=
  castTokens 1 manuscript.cast ++
    Statement.numbered (1 + (castLines manuscript.cast).length) (labelStatements manuscript.labels)

structure Printable (manuscript : Manuscript) : Prop where
  castDistinct : (manuscript.cast.map (·.1)).Nodup
  castNamed : ∀ entry ∈ manuscript.cast, IsName entry.1.toList
  traits : ∀ entry ∈ manuscript.cast, ∀ trait ∈ entry.2.entries,
    IsName trait.1.toList ∧ '\n' ∉ trait.2.toList
  labelsDistinct : (manuscript.labels.map (·.1)).Nodup
  legible : ∀ statement ∈ labelStatements manuscript.labels, statement.Legible
  regular : ∀ entry ∈ manuscript.labels, Node.AreRegular entry.2

instance (manuscript : Manuscript) : Decidable manuscript.Printable :=
  decidable_of_iff ((manuscript.cast.map (·.1)).Nodup ∧
      (∀ entry ∈ manuscript.cast, IsName entry.1.toList) ∧
      (∀ entry ∈ manuscript.cast, ∀ trait ∈ entry.2.entries,
        IsName trait.1.toList ∧ '\n' ∉ trait.2.toList) ∧
      (manuscript.labels.map (·.1)).Nodup ∧
      (∀ statement ∈ labelStatements manuscript.labels, statement.Legible) ∧
      ∀ entry ∈ manuscript.labels, Node.AreRegular entry.2)
    ⟨fun ⟨first, second, third, fourth, fifth, sixth⟩ =>
        ⟨first, second, third, fourth, fifth, sixth⟩,
      fun printable => ⟨printable.castDistinct, printable.castNamed, printable.traits,
        printable.labelsDistinct, printable.legible, printable.regular⟩⟩

end Manuscript

namespace Text

theorem lines_ofList {rows : List (List Char)}
    (solid : ∀ row ∈ rows, '\n' ∉ row ∧ row.getLast? ≠ some '\r') :
    lines (String.ofList (rows.flatMap (· ++ ['\n']))) = rows ++ [[]] := by
  rw [lines, String.toList_ofList]
  induction rows with
  | nil => rfl
  | cons row rest ih =>
      obtain ⟨⟨oneLine, ending⟩, later⟩ := List.forall_mem_cons.mp solid
      rw [List.flatMap_cons, List.append_assoc, List.singleton_append,
        List.splitOn_append_cons_self_of_not_mem oneLine, List.map_cons, ih later, if_neg ending,
        List.cons_append]

theorem IsPhrase.row {text : List Char} (phrase : IsPhrase text) :
    '\n' ∉ text ∧ text.getLast? ≠ some '\r' := by
  refine ⟨phrase.oneLine, fun last => ?_⟩
  exact absurd (((trim_eq_self_iff text).mp phrase.trimmed).2 '\r' last) (by decide)

end Text

namespace Manuscript

variable {manuscript : Manuscript} (printable : manuscript.Printable)
include printable

theorem row_of_line : ∀ row ∈ manuscript.lines, '\n' ∉ row ∧ row.getLast? ≠ some '\r' := by
  intro row member
  rcases List.mem_append.mp member with ofCast | ofLabels
  · obtain ⟨entry, inside, found⟩ := List.mem_flatMap.mp ofCast
    rcases List.mem_cons.mp found with rfl | found
    · exact (Scan.isPhrase_printHeader (printable.castNamed entry inside)).row
    · obtain ⟨trait, known, rfl⟩ := List.mem_map.mp found
      obtain ⟨named, oneLine⟩ := printable.traits entry inside trait known
      refine ⟨?_, ?_⟩
      · simp [Scan.printTrait, named.phrase.oneLine, oneLine]
      · rw [Scan.printTrait, List.getLast?_append]
        simp
  · obtain ⟨statement, inside, rfl⟩ := List.mem_map.mp ofLabels
    exact (Statement.isPhrase_print (printable.legible statement inside)).row

omit printable in
theorem ofLines_traits {entries : List (String × String)}
    (solid : ∀ trait ∈ entries, IsName trait.1.toList ∧ '\n' ∉ trait.2.toList)
    (character : String) (number : Nat) (after : List (List Char)) :
    TokenStream.ofLines number (.block character)
        (entries.map (fun trait => Scan.printTrait trait.1 trait.2) ++ after) =
      let later := TokenStream.ofLines (number + entries.length) (.block character) after
      ⟨traitTokens character number entries ++ later.tokens, later.complaints⟩ := by
  induction entries generalizing number with
  | nil => rfl
  | cons trait rest ih =>
      obtain ⟨⟨named, oneLine⟩, others⟩ := List.forall_mem_cons.mp solid
      have scanned := Scan.scanLine_printTrait named oneLine character number
      rw [List.map_cons, List.cons_append, TokenStream.ofLines_cons scanned, ih others,
        List.length_cons, Nat.add_assoc, Nat.add_comm 1]
      rfl

theorem ofLines_castLines {cast : List (String × Table String)} (known : cast ⊆ manuscript.cast)
    {mode : Mode} (clear : mode.IsClear) (number : Nat) (after : List (List Char)) :
    ∃ last : Mode, last.IsClear ∧
      TokenStream.ofLines number mode (castLines cast ++ after) =
        let later := TokenStream.ofLines (number + (castLines cast).length) last after
        ⟨castTokens number cast ++ later.tokens, later.complaints⟩ := by
  induction cast generalizing number mode with
  | nil => exact ⟨mode, clear, rfl⟩
  | cons entry rest ih =>
      obtain ⟨name, attributes⟩ := entry
      have inside := known List.mem_cons_self
      have later : rest ⊆ manuscript.cast := fun _ member => known (List.mem_cons_of_mem _ member)
      obtain ⟨last, lastClear, read⟩ := @ih later (.block name) trivial
        (number + 1 + attributes.entries.length)
      refine ⟨last, lastClear, ?_⟩
      have scanned := Scan.scanLine_printHeader (printable.castNamed _ inside) clear number
      have split : castLines ((name, attributes) :: rest) ++ after = Scan.printHeader name ::
          (attributes.entries.map (fun trait => Scan.printTrait trait.1 trait.2) ++
            (castLines rest ++ after)) := by
        simp [castLines]
      have length : (castLines ((name, attributes) :: rest)).length =
          1 + attributes.entries.length + (castLines rest).length := by
        simp [castLines]
        omega
      rw [split, TokenStream.ofLines_cons scanned, ofLines_traits (printable.traits _ inside), read,
        length, castTokens, Table.size, ← Nat.add_assoc, ← Nat.add_assoc]
      simp

theorem lines_text : Text.lines manuscript.text = manuscript.lines ++ [[]] :=
  Text.lines_ofList (row_of_line printable)

theorem ofText_text :
    TokenStream.ofText manuscript.text =
      ⟨manuscript.tokens ++ [.endOfText (manuscript.lines.length + 1)], []⟩ := by
  obtain ⟨last, clear, read⟩ := @ofLines_castLines _ printable manuscript.cast (fun _ => id) .normal
    trivial 1 ((labelStatements manuscript.labels).map Statement.print ++ [[]])
  rw [TokenStream.ofText, lines_text printable, lines, List.append_assoc, read,
    TokenStream.ofLines_statements printable.legible clear, tokens]
  simp [Nat.add_assoc]

omit printable

theorem kind_of_traitTokens (character : String) (number : Nat) (entries : List (String × String)) :
    ∀ token ∈ traitTokens character number entries, token.kind = .trait ∧ token.IsComplete := by
  induction entries generalizing number with
  | nil => simp [traitTokens]
  | cons trait rest ih =>
      rw [traitTokens, List.forall_mem_cons]
      exact ⟨⟨rfl, trivial⟩, ih (number + 1)⟩

theorem kind_of_castTokens (number : Nat) (cast : List (String × Table String)) :
    ∀ token ∈ castTokens number cast,
      (token.kind = .character ∨ token.kind = .trait) ∧ token.IsComplete := by
  induction cast generalizing number with
  | nil => simp [castTokens]
  | cons entry rest ih =>
      intro token member
      rw [castTokens, List.cons_append, List.mem_cons, List.mem_append] at member
      rcases member with rfl | inside | later
      · exact ⟨.inl rfl, trivial⟩
      · obtain ⟨kind, complete⟩ := kind_of_traitTokens _ _ _ token inside
        exact ⟨.inr kind, complete⟩
      · exact ih _ token later

theorem kind_of_statement (statement : Statement) :
    statement.kind ≠ .character ∧ statement.kind ≠ .trait ∧ statement.kind ≠ .endOfText := by
  cases statement <;> simp [Statement.kind]

theorem character?_traitTokens (name : String) (line number : Nat) (attributes : Table String) :
    Cluster.character?
        (.character (.character name line) (traitTokens name number attributes.entries)) =
      some (name, ⟨attributes, line⟩) := by
  refine congrArg (fun table => some (name, Profile.mk table line)) ?_
  refine (congrArg Table.ofList ?_).trans (Table.ofList_entries attributes)
  induction attributes.entries generalizing number with
  | nil => rfl
  | cons trait rest ih =>
      obtain ⟨key, value⟩ := trait
      rw [traitTokens, List.filterMap_cons, ih]
      simp [Token.trait, unquote, dropLast?_append]

theorem characters_castTokens (number : Nat) (cast : List (String × Table String))
    {rest : List Token} (others : ∀ token ∈ rest, token.kind ≠ .character ∧ token.kind ≠ .trait) :
    (Cluster.ofTokens (castTokens number cast ++ rest)).filterMap Cluster.character? =
      placedCast number cast := by
  induction cast generalizing number with
  | nil => exact Cluster.characters_eq_nil fun token member => (others token member).1
  | cons entry more ih =>
      obtain ⟨name, attributes⟩ := entry
      have apart : ∀ number, ∀ next ∈ (castTokens number more ++ rest).head?,
          next.kind ≠ .trait := by
        intro number next first
        cases more with
        | nil => exact (others next (List.mem_of_mem_head? first)).2
        | cons entry later =>
            obtain ⟨rfl⟩ := first
            simp [Token.character]
      have header : (Token.character name number).kind = .character := rfl
      rw [castTokens, List.cons_append, List.cons_append, List.append_assoc,
        Cluster.ofTokens_character header (fun trait member =>
          (kind_of_traitTokens _ _ _ trait member).1) (apart _), List.filterMap_cons, ih,
        character?_traitTokens]
      rfl

def parts (number : Nat) : List (String × List Node) → List (Token × List Token)
  | [] => []
  | (name, nodes) :: rest =>
      (.label name number, Statement.numbered (number + 1) (Node.statementsOf nodes)) ::
        parts (number + 1 + (Node.statementsOf nodes).length) rest

theorem cutAtLabels_numbered (number : Nat) (labels : List (String × List Node)) :
    Token.cutAtLabels (Statement.numbered number (labelStatements labels)) =
      ([], parts number labels) := by
  induction labels generalizing number with
  | nil => rfl
  | cons entry rest ih =>
      have others : ∀ token ∈ Statement.numbered (number + 1) (Node.statementsOf entry.2),
          token.kind ≠ .label := by
        intro token member
        obtain ⟨statement, inside, line, rfl⟩ := Statement.exists_of_mem_numbered member
        rw [Statement.kind_token]
        exact Node.kind_of_statementsOf entry.2 statement inside
      have label : (Statement.token number (.label entry.1)).kind = .label := rfl
      rw [labelStatements, List.flatMap_cons, ← labelStatements, List.cons_append,
        Statement.numbered, Token.cutAtLabels_label label, Statement.numbered_append,
        Token.cutAtLabels_append others, ih, List.append_nil]
      rfl

theorem beforeEnd_tokens (number : Nat) :
    Token.beforeEnd (manuscript.tokens ++ [.endOfText number]) = manuscript.tokens := by
  have others : ∀ token ∈ manuscript.tokens, (token.kind != .endOfText) = true := by
    intro token member
    rw [bne_iff_ne]
    rcases List.mem_append.mp member with ofCast | ofLabels
    · rcases (kind_of_castTokens _ _ token ofCast).1 with kind | kind <;> simp [kind]
    · obtain ⟨statement, _, line, rfl⟩ := Statement.exists_of_mem_numbered ofLabels
      rw [Statement.kind_token]
      exact (kind_of_statement statement).2.2
  rw [Token.beforeEnd, List.takeWhile_append_of_pos others]
  simp [Token.endOfText]

theorem cutAtLabels_tokens :
    Token.cutAtLabels manuscript.tokens =
      (castTokens 1 manuscript.cast,
        parts (1 + (castLines manuscript.cast).length) manuscript.labels) := by
  have others : ∀ token ∈ castTokens 1 manuscript.cast, token.kind ≠ .label := by
    intro token member
    rcases (kind_of_castTokens _ _ token member).1 with kind | kind <;> simp [kind]
  rw [tokens, Token.cutAtLabels_append others, cutAtLabels_numbered, List.append_nil]

theorem complete_tokens (number : Nat) :
    ∀ token ∈ manuscript.tokens ++ [.endOfText number], token.IsComplete := by
  intro token member
  rcases List.mem_append.mp member with inside | last
  · rcases List.mem_append.mp inside with ofCast | ofLabels
    · exact (kind_of_castTokens _ _ token ofCast).2
    · obtain ⟨statement, _, line, rfl⟩ := Statement.exists_of_mem_numbered ofLabels
      exact statement.complete_token line
  · obtain rfl := List.mem_singleton.mp last
    trivial

theorem characters_tokens :
    (Cluster.ofTokens manuscript.tokens).filterMap Cluster.character? =
      placedCast 1 manuscript.cast := by
  refine characters_castTokens 1 manuscript.cast fun token member => ?_
  obtain ⟨statement, _, line, rfl⟩ := Statement.exists_of_mem_numbered member
  rw [Statement.kind_token]
  exact ⟨(kind_of_statement statement).1, (kind_of_statement statement).2.1⟩

theorem parts_names (number : Nat) (labels : List (String × List Node)) :
    (parts number labels).map (·.1.value) = labels.map (·.1) := by
  induction labels generalizing number with
  | nil => rfl
  | cons entry rest ih =>
      rw [parts, List.map_cons, ih]
      rfl

theorem parts_nodes {labels : List (String × List Node)}
    (regular : ∀ entry ∈ labels, Node.AreRegular entry.2) (number : Nat) :
    (parts number labels).map (fun part => (part.1.value, Node.ofTokens part.2)) =
      placedLabels number labels := by
  induction labels generalizing number with
  | nil => rfl
  | cons entry rest ih =>
      obtain ⟨first, later⟩ := List.forall_mem_cons.mp regular
      rw [parts, List.map_cons, ih later, Node.ofTokens_statementsOf first]
      rfl

theorem placedLabels_names (number : Nat) (labels : List (String × List Node)) :
    (placedLabels number labels).map (·.1) = labels.map (·.1) := by
  induction labels generalizing number with
  | nil => rfl
  | cons entry rest ih => rw [placedLabels, List.map_cons, ih, List.map_cons]

theorem placedCast_names (number : Nat) (cast : List (String × Table String)) :
    (placedCast number cast).map (·.1) = cast.map (·.1) := by
  induction cast generalizing number with
  | nil => rfl
  | cons entry rest ih => rw [placedCast, List.map_cons, ih, List.map_cons]

end Manuscript

/-- Reading undoes printing: the text of a printable story is scanned and read without complaint,
and what is read are its characters and labels with the numbers of their lines. -/
theorem reading_undoes_printing {manuscript : Manuscript} (printable : manuscript.Printable) :
    let stream := TokenStream.ofText manuscript.text
    let reading := Story.ofTokens stream.tokens
    stream.complaints = [] ∧ reading.complaints = [] ∧ reading.redefined = [] ∧
      reading.story.cast.entries.Perm (Manuscript.placedCast 1 manuscript.cast) ∧
      reading.story.labels.entries.Perm (Manuscript.placedLabels
        (1 + (Manuscript.castLines manuscript.cast).length) manuscript.labels) := by
  intro stream reading
  have tokens : stream.tokens = manuscript.tokens ++ [.endOfText (manuscript.lines.length + 1)] :=
    congrArg TokenStream.tokens (Manuscript.ofText_text printable)
  have before : Token.beforeEnd stream.tokens = manuscript.tokens := by
    rw [tokens, Manuscript.beforeEnd_tokens]
  have cut := @Manuscript.cutAtLabels_tokens manuscript
  refine ⟨congrArg TokenStream.complaints (Manuscript.ofText_text printable), ?_, ?_, ?_, ?_⟩
  · exact Story.complaints_ofTokens (tokens ▸ Manuscript.complete_tokens _)
  · apply Story.redefined_ofTokens
    rw [before, cut, Manuscript.parts_names]
    exact printable.labelsDistinct
  · rw [Story.cast_ofTokens, before, Manuscript.characters_tokens]
    apply Table.entries_ofList_perm
    rw [Manuscript.placedCast_names]
    exact printable.castDistinct
  · rw [Story.labels_ofTokens, before, cut, Manuscript.parts_nodes printable.regular]
    apply Table.entries_ofList_perm
    rw [Manuscript.placedLabels_names]
    exact printable.labelsDistinct

def gatePage : Manuscript where
  cast := [("guard", .ofList [("mood", "it's \"stern\""), ("age", "")])]
  labels := [
    ("== gate", [
      .dialogue "guard" "\"Halt!\" -> \"Who goes there?\"" 0,
      .guarded "coins >= 10 \x7d" [
        .command "show" "guard // smiling" 0,
        .menu [⟨"[Pay] -> quietly", "hall", some "]coins"⟩, ⟨"Leave ->", "road", none⟩] 0] 0,
      .assignment "angry = \"*/\"" 0,
      .guarded "angry" [.command "shake" "" 0] 0]),
    ("hall", [.jump "road" 0]),
    ("road", [])]

theorem gatePage_read :
    gatePage.Printable ∧ (TokenStream.ofText gatePage.text).complaints = [] ∧
      (Story.ofTokens (TokenStream.ofText gatePage.text).tokens).story.labels.entries.Perm
        (Manuscript.placedLabels (1 + (Manuscript.castLines gatePage.cast).length)
          gatePage.labels) := by
  have printable : gatePage.Printable := by decide +kernel
  obtain ⟨scanned, _, _, _, labels⟩ := reading_undoes_printing printable
  exact ⟨printable, scanned, labels⟩

end StoryScript
