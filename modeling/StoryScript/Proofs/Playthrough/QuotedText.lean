import StoryScript.Proofs.Playthrough.Operation
import StoryScript.Proofs.Script.Payload
import StoryScript.Proofs.Script.Renumbering
import StoryScript.Proofs.Script.Scanning
import StoryScript.Proofs.Script.Sequence
import StoryScript.Proofs.Story.Items
import StoryScript.Proofs.Story.Parts
import StoryScript.Proofs.World.Assigning
import StoryScript.Proofs.World.Quotation

/-!
Quoted texts that are assigned to a variable, from the line of the script to the world. Whatever
such a text holds, the line is an assignment, and carrying it out stores the text as it was written.
-/

namespace StoryScript

open Text

namespace TokenStream

theorem ofText_statement {statement : Statement} (legible : statement.Legible) {text : String}
    {before after : List (List Char)} (shape : lines text = before ++ statement.print :: after)
    (clear : (modeAfter 1 .normal before).IsClear) :
    let number := 1 + before.length
    let scans := scanLines 1 .normal before
    let later := ofLines (number + 1) .normal after
    ofText text =
      ⟨scans.filterMap (·.token) ++ statement.token number :: later.tokens ++
          [.endOfText (lines text).length],
        (Notice.ofScans 1 scans).map Notice.diagnostic ++ later.complaints⟩ := by
  intro number scans later
  have read := ofLines_cons (Scan.scanLine_print legible clear number) after
  simp only [ofText]
  rw [shape, ofLines_append, read]

end TokenStream

mutual

theorem Node.assignment_mem_parts {expression : String} {line : Nat} : ∀ {node : Node},
    .assignment expression line ∈ node.items → .assignment expression line ∈ node.parts
  | .assignment .., told => by
      obtain ⟨rfl, rfl⟩ := Item.assignment.inj (List.mem_singleton.mp told)
      exact Node.mem_parts _
  | .guarded condition body guardLine, told => by
      rw [items] at told
      rcases List.mem_cons.mp told with same | inside
      · contradiction
      · exact body_parts_subset condition body guardLine (assignment_mem_partsOf inside)
  | .menu choices _, told => by
      rw [items] at told
      obtain ⟨choice, _, same⟩ := List.mem_map.mp told
      contradiction
  | .dialogue .., told => by simp [items] at told
  | .command .., told => by simp [items] at told
  | .jump .., told => by simp [items] at told
  | .character .., told => by simp [items] at told

theorem Node.assignment_mem_partsOf {expression : String} {line : Nat} : ∀ {nodes : List Node},
    .assignment expression line ∈ Node.itemsOf nodes →
      .assignment expression line ∈ Node.partsOf nodes
  | [], told => by simp [itemsOf] at told
  | node :: rest, told => by
      rw [itemsOf] at told
      rw [partsOf]
      rcases List.mem_append.mp told with first | later
      · exact List.mem_append_left _ (assignment_mem_parts first)
      · exact List.mem_append_right _ (assignment_mem_partsOf later)

end

theorem toList_quoted (name content : String) :
    (name ++ " = \"" ++ content ++ "\"").toList =
      spaced name.toList Operator.set.sign ('"' :: (content.toList ++ ['"'])) := by
  simp [spaced, Operator.sign]

section

variable {name content : String} (named : IsName name.toList) (oneLine : '\n' ∉ content.toList)
include named oneLine

theorem Statement.legible_quoted :
    (Statement.assignment (name ++ " = \"" ++ content ++ "\"")).Legible := by
  have phrase := isPhrase_quotes oneLine
  rw [Legible, toList_quoted]
  refine ⟨⟨?_, trim_spaced named.phrase _ phrase, ?_⟩, ?_⟩
  · simp [spaced]
  · rw [spaced, List.mem_append, not_or]
    exact ⟨named.phrase.oneLine, by simpa [Operator.sign] using oneLine⟩
  · apply Scan.closesComment_of_last
    have last : (spaced name.toList Operator.set.sign ('"' :: (content.toList ++ ['"']))).getLast? =
        some '"' := by
      simp [spaced, List.getLast?_append, List.getLast?_cons]
    rw [last]
    decide

theorem World.assign_quoted (world : World) :
    world.assign (name ++ " = \"" ++ content ++ "\"") = world.set name (.text content) := by
  have sides := Comparison.sides_quoted named Operator.set.sign oneLine
  rw [← toList_quoted] at sides
  rw [world.assign_of_sides sides, world.valueOf_quote (isPhrase_quotes oneLine),
    List.dropLast_concat, String.ofList_toList, String.ofList_toList, Operator.apply]

end

/-- A quoted text survives from its line to the world. The line gives one assignment and nothing to
complain about; the assignment is a node of the label under which the line stands; and when that node
is reached, the variable is given the text between the quotes. -/
theorem quoted_text_survives {name content : String} (named : IsName name.toList)
    (oneLine : '\n' ∉ content.toList) :
    let expression := name ++ " = \"" ++ content ++ "\""
    (∀ (text : String) (before after : List (List Char)),
      lines text = before ++ ("~ ".toList ++ expression.toList) :: after →
      (TokenStream.modeAfter 1 .normal before).IsClear →
        let number := 1 + before.length
        let scans := scanLines 1 .normal before
        let later := TokenStream.ofLines (number + 1) .normal after
        let tokens := scans.filterMap (·.token) ++ .assignment expression number :: later.tokens
        let script := Script.ofText text
        (TokenStream.ofText text).tokens = tokens ++ [.endOfText (lines text).length] ∧
          script.complaints = (Notice.ofScans 1 scans).map Notice.diagnostic ++ later.complaints ∧
          ∀ label above below,
            Token.UnderLast tokens label (above ++ .assignment expression number :: below) →
              ∃ nodes, script.story.labels.get? label = some nodes ∧
                .assignment expression number ∈ Node.partsOf nodes ∧
                Node.itemsOf nodes = above.filterMap Token.item? ++
                  .assignment expression number :: below.filterMap Token.item?) ∧
      ∀ (play : Playthrough) (line : Nat), play.node? = some (.assignment expression line) →
        let after := { play with world := play.world.set name (.text content) }.advance
        play.tick = .goesOn after ∧ after.world.globals.get? name = some (.text content) ∧
          ∀ count, play.phase = .running → play.silentBound = count + 1 →
            play.step = after.run count := by
  intro expression
  constructor
  · intro text before after shape clear number scans later tokens script
    have read := TokenStream.ofText_statement (Statement.legible_quoted named oneLine) shape clear
    have streamed : (TokenStream.ofText text).tokens =
        tokens ++ [.endOfText (lines text).length] := congrArg TokenStream.tokens read
    refine ⟨streamed, ?_, ?_⟩
    · rw [Script.complaints_ofText]
      exact congrArg TokenStream.complaints read
    · intro label above below under
      have body : Token.beforeEnd (TokenStream.ofText text).tokens = tokens := by
        rw [TokenStream.beforeEnd_ofText]
        exact List.append_cancel_right streamed
      rw [← body] at under
      have told : Node.itemsOf (Node.ofTokens (above ++ .assignment expression number :: below)) =
          above.filterMap Token.item? ++
            .assignment expression number :: below.filterMap Token.item? := by
        rw [Node.itemsOf_ofTokens, List.filterMap_append]
        rfl
      have found := Story.get?_of_underLast under
      rw [← Script.story_ofText] at found
      refine ⟨_, found, Node.assignment_mem_partsOf ?_, told⟩
      rw [told]
      exact List.mem_append_right _ List.mem_cons_self
  · intro play line reached after
    have ticked : play.tick = .goesOn after := by
      rw [Playthrough.tick_of_node reached, Playthrough.execute, World.assign_quoted named oneLine]
    refine ⟨ticked, ?_, ?_⟩
    · have stored := (play.world.changesOnly_set name (.text content)).changed
      have kept := Playthrough.scene_advance
        { play with world := play.world.set name (.text content) }
      rw [← stored]
      exact congrArg (fun scene => scene.globals.get? name) kept
    · intro count running bound
      simp only [Playthrough.step, running, bound, Playthrough.run, ticked]

theorem markedText_survives :
    let content := " \"// \x7bx\x7d += 'y' -> && */ "
    let expression := "x" ++ " = \"" ++ content ++ "\""
    let script := Script.ofText ("== Start ==\n~ " ++ expression)
    let play := (Playthrough.new script.story default).start
    script.complaints = [] ∧
      (∃ nodes, script.story.labels.get? "Start" = some nodes ∧
        Node.itemsOf nodes = [.assignment expression 2]) ∧
      play.tick.after.world.globals.get? "x" = some (.text content) := by
  intro content expression script play
  have named : IsName "x".toList := by decide
  have oneLine : '\n' ∉ content.toList := by decide +kernel
  have shape : lines ("== Start ==\n~ " ++ expression) =
      [(Statement.label "Start").print] ++ ("~ ".toList ++ expression.toList) :: [] := by
    decide +kernel
  -- Nothing else depends on what the text is.
  clear_value content
  have label : (Statement.label "Start").Legible := by decide
  have scanned := @Scan.scanLine_print _ label .normal trivial 1
  obtain ⟨read, played⟩ := quoted_text_survives named oneLine
  have clear : (TokenStream.modeAfter 1 .normal [(Statement.label "Start").print]).IsClear := by
    rw [TokenStream.modeAfter, scanned]
    trivial
  obtain ⟨tokens, complaints, told⟩ := read _ _ _ shape clear
  simp only [scanLines, scanned] at tokens complaints told
  have under : Token.UnderLast [.label "Start" 1, .assignment expression 2] "Start"
      [.assignment expression 2] := by
    have other : (Token.assignment expression 2).kind ≠ .label := by simp [Token.assignment]
    exact ⟨[], .label "Start" 1, [], rfl, rfl, rfl, List.forall_mem_singleton.mpr other,
      by simp, List.forall_mem_nil _⟩
  obtain ⟨nodes, found, _, items⟩ := told "Start" [] [] under
  have body : Token.beforeEnd (TokenStream.ofText ("== Start ==\n~ " ++ expression)).tokens =
      [.label "Start" 1, .assignment expression 2] := by
    rw [tokens]
    rfl
  rw [← body] at under
  have only := Story.get?_of_underLast under
  rw [← Script.story_ofText] at only
  change script.complaints = [] at complaints
  change script.story.labels.get? "Start" = _ at only found
  clear_value script
  have reached : play.node? = some (.assignment expression 2) :=
    congrArg (Option.bind · (·[0]?)) only
  obtain ⟨ticked, stored, _⟩ := played play 2 reached
  rw [ticked]
  exact ⟨complaints, ⟨nodes, found, items⟩, stored⟩

end StoryScript
