import StoryScript.Proofs.Diagnostic.Overflow
import StoryScript.Proofs.Playthrough.Bodies
import StoryScript.Proofs.Presentation.Noting
import StoryScript.Trace

/-!
A trace is what a reader is shown who always takes the first option, cut where the bound of the
trace is reached.
-/

namespace StoryScript

def Node.HasOption : Node → Prop
  | menu choices _ => choices ≠ []
  | _ => True

instance (node : Node) : Decidable node.HasOption :=
  match node with
  | .menu choices _ => inferInstanceAs (Decidable (choices ≠ []))
  | .dialogue .. | .assignment .. | .command .. | .guarded .. | .jump .. | .character .. =>
      .isTrue trivial

def Reader.takingFirst : Reader Unit := fun _ node _ =>
  { answer := some (match node with
      | .menu .. => .choose 0
      | _ => .proceed)
    reader := () }

structure Playthrough.Answerable (play : Playthrough) : Prop where
  running : play.phase = .running
  story : ∀ part ∈ play.story.parts, part.HasOption
  bodies : Playthrough.Throughout Node.HasOption play.opened

namespace Playthrough.Answerable

variable {play after : Playthrough} {node : Node}

theorem select (answerable : play.Answerable) (target : String) :
    (play.select target).Answerable :=
  ⟨answerable.running, answerable.story, nofun⟩

theorem last (answerable : play.Answerable) (stepped : play.step = (some node, after)) :
    ∃ last : Playthrough, last.standing = play.standing ∧ node.HasOption ∧
      last.execute node = .shows node after := by
  have keeps := Story.keeps_throughout answerable.story
  simp only [Playthrough.step, answerable.running] at stepped
  obtain ⟨last, ⟨same, bodies⟩, ticked⟩ := @Playthrough.last_of_run
    (fun during => during.standing = play.standing ∧
      Playthrough.Throughout Node.HasOption during.opened) (by
    rintro during next ⟨same, bodies⟩ ticked
    exact ⟨(standing_of_goesOn ticked).trans same,
      (keeps.goesOn (congrArg Standing.story same) bodies ticked).2⟩)
    _ play after node ⟨rfl, answerable.bodies⟩ stepped
  obtain ⟨reached, executed⟩ := node?_of_shows ticked
  have parts := Story.parts_of_node? answerable.story (congrArg Standing.story same) bodies reached
  exact ⟨last, same, parts node (Node.mem_parts node), executed⟩

theorem shown (answerable : play.Answerable) (stepped : play.step = (some node, after)) :
    after.Answerable ∧ ∀ choices line, node = .menu choices line →
      choices ≠ [] ∧ after.menu = some choices := by
  obtain ⟨last, _, hasOption, executed⟩ := answerable.last stepped
  have running := (running_of_step answerable.running stepped).2
  have setting := play.setting_step
  have bodies := (Story.keeps_throughout answerable.story).step rfl answerable.bodies
  rw [stepped] at setting bodies
  have story : after.story = play.story := congrArg Setting.story setting
  refine ⟨⟨running, story ▸ answerable.story, bodies⟩, ?_⟩
  rintro choices line rfl
  obtain ⟨_, rfl⟩ := Tick.shows.inj executed
  exact ⟨hasOption, rfl⟩

theorem ended (answerable : play.Answerable) (stepped : play.step = (none, after)) :
    after.phase = .finished :=
  finished_of_step answerable.running stepped

end Playthrough.Answerable

namespace Presentation

open Playthrough (Answerable)

variable {play after next : Playthrough} {node : Node}

theorem follow?_takingFirst (answerable : play.Answerable)
    (stepped : play.step = (some node, after)) :
    ∃ next, Trace.follow? node after = some next ∧ next.Answerable ∧
      ∀ count notes, run Reader.takingFirst.noting (count + 1) ((), notes) play =
        run Reader.takingFirst.noting count ((), node :: notes) next := by
  obtain ⟨later, asked⟩ := answerable.shown stepped
  cases node with
  | menu choices line =>
      obtain ⟨filled, menu⟩ := asked choices line rfl
      cases choices with
      | nil => contradiction
      | cons first more =>
          refine ⟨after.select first.target, rfl, later.select first.target, ?_⟩
          intro count notes
          have chosen : after.choose? 0 = some (after.select first.target) := by
            simp [Playthrough.choose?, menu]
          simp only [run, stepped, Reader.noting, Reader.takingFirst, Playthrough.hear_complaints,
            World.record_nil, Playthrough.answer, chosen]
  | dialogue | assignment | command | guarded | jump | character =>
      refine ⟨after, rfl, later, ?_⟩
      intro count notes
      simp only [run, stepped, Reader.noting, Reader.takingFirst, Playthrough.hear_complaints,
        World.record_nil, Playthrough.answer]

/-- Whether a trace is what has been noted in a presentation, up to a limit, and both have ended in
the same way where less than that was shown. -/
structure Accords (limit : Nat) (traced : List Node × Playthrough)
    (presented : Outcome (Unit × List Node)) : Prop where
  nodes : traced.1 = presented.reader.2.reverse.take limit
  ending : presented.reader.2.length < limit →
    presented.isFinished = true ∧ presented.play = traced.2 ∧ traced.2.phase = .finished

theorem accords_of_ended {limit : Nat} {notes : List Node} (below : notes.length < limit)
    (finished : after.phase = .finished) :
    Accords limit (notes.reverse, after) ⟨after, ((), notes), true⟩ where
  nodes := by
    rw [List.take_of_length_le]
    rw [List.length_reverse]
    exact Nat.le_of_lt below
  ending _ := ⟨rfl, rfl, finished⟩

theorem run_takingFirst {bound count : Nat} (enough : bound < count) (notes : List Node)
    (answerable : play.Answerable) :
    Accords (notes.length + bound + 1) (Trace.run bound notes play)
      (run Reader.takingFirst.noting count ((), notes) play) := by
  -- The notes grow as the bound shrinks, so that the limit on both together stays.
  induction bound generalizing play count notes with
  | zero =>
      obtain ⟨count, rfl⟩ := Nat.exists_eq_succ_of_ne_zero (Nat.ne_zero_of_lt enough)
      match stepped : play.step with
      | (none, after) =>
          rw [Trace.run_ended notes 0 stepped, run, stepped]
          exact accords_of_ended (by omega) (answerable.ended stepped)
      | (some node, after) =>
          obtain ⟨next, _, _, goesOn⟩ := follow?_takingFirst answerable stepped
          obtain ⟨more, noted⟩ := suffix_notes Reader.takingFirst count () (node :: notes) next
          rw [Trace.run_full notes stepped, goesOn]
          constructor
          · rw [← noted, List.reverse_append, List.take_left' (by simp)]
          · intro below
            have length := congrArg List.length noted
            rw [List.length_append, List.length_cons] at length
            omega
  | succ bound ih =>
      obtain ⟨count, rfl⟩ := Nat.exists_eq_succ_of_ne_zero (Nat.ne_zero_of_lt enough)
      match stepped : play.step with
      | (none, after) =>
          rw [Trace.run_ended notes (bound + 1) stepped, run, stepped]
          exact accords_of_ended (by omega) (answerable.ended stepped)
      | (some node, after) =>
          obtain ⟨next, followed, later, goesOn⟩ := follow?_takingFirst answerable stepped
          have rest := ih (Nat.lt_of_succ_lt_succ enough) (node :: notes) later
          have limit : (node :: notes).length + bound + 1 = notes.length + (bound + 1) + 1 := by
            rw [List.length_cons]
            omega
          rw [Trace.run_followed notes bound stepped followed, goesOn, ← limit]
          exact rest

/-- Up to its bound a trace is what is shown to a reader who takes the first option of every menu,
however long the story goes on. Where less is shown both end, and in the same way. -/
theorem trace_eq_take_shown (story : Story) (world : World) (settings : PlaySettings)
    (options : ∀ node ∈ story.parts, node.HasOption) (bound : 1 ≤ settings.maxTraceNodes)
    (count : Nat) (enough : settings.maxTraceNodes ≤ count) :
    let play := Playthrough.new story world settings
    let traced := Trace.ofPlaythrough settings.maxTraceNodes play
    let shown := Presentation.shown Reader.takingFirst count () play
    let presented := Presentation.ofPlaythrough Reader.takingFirst count () play
    traced.1 = shown.take settings.maxTraceNodes ∧
      (shown.length < settings.maxTraceNodes →
        presented.isFinished = true ∧ presented.play = traced.2 ∧
          traced.2.phase = .finished) := by
  intro play traced shown presented
  have answerable : play.start.Answerable := ⟨rfl, options, nofun⟩
  have accords := run_takingFirst (Nat.sub_one_lt_of_le bound enough) [] answerable
  have limit : ([] : List Node).length + (settings.maxTraceNodes - 1) + 1 =
      settings.maxTraceNodes := by
    rw [List.length_nil]
    omega
  obtain ⟨samePlay, _, sameEnd⟩ := run_noting Reader.takingFirst count () [] play.start
  rw [limit] at accords
  refine ⟨accords.nodes, fun short => ?_⟩
  obtain ⟨finished, same, phase⟩ := accords.ending (by rwa [← List.length_reverse])
  exact ⟨sameEnd.symm.trans finished, samePlay.symm.trans same, phase⟩

end Presentation

def fairStory : Story where
  labels := Table.ofList [
    ("Start", [
      .assignment "turns = 1" 2,
      .guarded "turns == 1" [
        .dialogue "Crier" "Step up!" 4,
        .menu [⟨"Ride", "Wheel", none⟩, ⟨"Leave", "Gate", none⟩] 5] 3]),
    ("Wheel", [.command "sound" "organ" 8, .jump "Start" 9]),
    ("Gate", [.dialogue "Crier" "Come back soon." 11])]
  cast := ∅

theorem fairStory_traced :
    let settings : PlaySettings := { maxTraceNodes := 5 }
    let rounds := Playthrough.new fairStory {} settings
    let leaving := Playthrough.new fairStory (World.startingAt "Gate") settings
    (∀ node ∈ fairStory.parts, node.HasOption) ∧
      (Presentation.shown Reader.takingFirst 8 () rounds).length = 8 ∧
      (Trace.ofPlaythrough 5 rounds).1 =
        (Presentation.shown Reader.takingFirst 8 () rounds).take 5 ∧
      (Presentation.shown Reader.takingFirst 8 () leaving).length = 1 ∧
      (Presentation.ofPlaythrough Reader.takingFirst 8 () leaving).play =
        (Trace.ofPlaythrough 5 leaving).2 := by
  intro settings rounds leaving
  have options : ∀ node ∈ fairStory.parts, node.HasOption := by decide +kernel
  have left : (Presentation.shown Reader.takingFirst 8 () leaving).length = 1 := by decide +kernel
  have circled := Presentation.trace_eq_take_shown fairStory {} settings options (by decide) 8
    (by decide)
  have ended := Presentation.trace_eq_take_shown fairStory (World.startingAt "Gate") settings options
    (by decide) 8 (by decide)
  refine ⟨options, by decide +kernel, circled.1, left, (ended.2 ?_).2.1⟩
  exact left ▸ (by decide : 1 < 5)

end StoryScript
