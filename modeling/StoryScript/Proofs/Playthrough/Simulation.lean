import StoryScript.Proofs.Playthrough.Bound
import StoryScript.Proofs.Playthrough.Outline

/-!
A playthrough with its open bodies and its place tells the same as the outline of its story, as long
as the bound on silent nodes is not reached.
-/

namespace StoryScript

/-! What is done to a scene does not depend on the place of its world. -/

namespace World

theorem judgeAny_scene (world : World) (parts : List (List Char)) :
    world.scene.world.judgeAny parts = world.judgeAny parts := by
  induction parts with
  | nil => rfl
  | cons part rest ih =>
      have first : world.scene.world.judgeComparison part = world.judgeComparison part := rfl
      simp only [judgeAny, first, ih]

theorem judgeAll_scene (world : World) (parts : List (List Char)) :
    world.scene.world.judgeAll parts = world.judgeAll parts := by
  induction parts with
  | nil => rfl
  | cons part rest ih => simp only [judgeAll, judgeAny_scene, ih]

theorem judge_scene (world : World) (condition : String) :
    world.scene.judge condition = world.judge condition :=
  judgeAll_scene world _

theorem assign_scene (world : World) (expression : String) :
    (world.assign expression).scene = world.scene.assign expression := by
  unfold Scene.assign assign
  split <;> rfl

theorem assign_places (world : World) (expression : String) :
    (world.assign expression).startLabel = world.startLabel ∧
      (world.assign expression).position = world.position := by
  unfold assign
  split <;> exact ⟨rfl, rfl⟩

end World

def Story.rest (story : Story) (position : Position) : List Node :=
  ((story.labels.get? position.label).getD []).drop position.index

/-- What is left to be told in open bodies, the innermost first, with `rest` after them. A body that
ends in a transfer has not been left yet, so what stands after it does not matter. -/
inductive Remains (rest : List Node) : List Frame → List Node → Prop
  | label : Remains rest [] rest
  | returning {frame outer later} : Remains rest outer later →
      Remains rest (frame :: outer) (frame.body.drop frame.next ++ later)
  | leaving {frame outer} (later : List Node) : Node.endsInTransfer frame.body = true →
      frame.next < frame.body.length →
      Remains rest (frame :: outer) (frame.body.drop frame.next ++ later)

namespace Playthrough

def Remains (play : Playthrough) (work : List Node) : Prop :=
  StoryScript.Remains (play.story.rest play.world.position) play.bodies work

theorem endsInTransfer_last {nodes : List Node} {node : Node} {index : Nat}
    (transfers : Node.endsInTransfer nodes = true) (reached : nodes[index]? = some node)
    (passing : node.isTransfer = false) : index + 1 < nodes.length := by
  obtain ⟨bound, same⟩ := List.getElem?_eq_some_iff.mp reached
  rcases Nat.lt_or_ge (index + 1) nodes.length with more | last
  · exact more
  · have atEnd : nodes.getLast? = some node := by
      rw [List.getLast?_eq_getElem?, ← reached]
      congr 1
      omega
    simp [Node.endsInTransfer, atEnd, passing] at transfers

theorem node?_of_place (play after : Playthrough) (story : after.story = play.story)
    (position : after.world.position = play.world.position) (bodies : after.bodies = play.bodies) :
    after.node? = play.node? := by
  unfold node?
  rw [story, position, bodies]

theorem remains_of_place {play after : Playthrough} {work : List Node}
    (remains : play.Remains work) (story : after.story = play.story)
    (position : after.world.position = play.world.position)
    (bodies : after.bodies = play.bodies) : after.Remains work := by
  unfold Remains
  rw [story, position, bodies]
  exact remains

theorem drop_reached {nodes : List Node} {node : Node} {index : Nat}
    (reached : nodes[index]? = some node) :
    nodes.drop index = node :: nodes.drop (index + 1) := by
  obtain ⟨bound, rfl⟩ := List.getElem?_eq_some_iff.mp reached
  exact List.drop_eq_getElem_cons bound

theorem remains_head {play : Playthrough} {work : List Node} {node : Node}
    (remains : play.Remains work) (reached : play.node? = some node) :
    ∃ later, work = node :: later := by
  unfold Remains at remains
  unfold node? at reached
  cases bodies : play.bodies with
  | nil =>
      rw [bodies] at remains
      simp only [bodies] at reached
      cases remains
      obtain ⟨nodes, found, atIndex⟩ := Option.bind_eq_some_iff.mp reached
      simp only [Story.rest, found, Option.getD_some, drop_reached atIndex]
      exact ⟨_, rfl⟩
  | cons frame outer =>
      rw [bodies] at remains
      simp only [bodies] at reached
      cases remains with
      | returning | leaving => exact ⟨_, by rw [drop_reached reached, List.cons_append]⟩

theorem remains_advance {play : Playthrough} {work : List Node} {node : Node}
    (remains : play.Remains work) (reached : play.node? = some node)
    (passing : node.isTransfer = false) : play.advance.Remains work.tail := by
  unfold Remains at remains ⊢
  unfold node? at reached
  unfold advance
  cases bodies : play.bodies with
  | nil =>
      rw [bodies] at remains
      simp only [bodies] at reached ⊢
      cases remains
      obtain ⟨nodes, found, atIndex⟩ := Option.bind_eq_some_iff.mp reached
      have tail : (play.story.rest play.world.position).tail =
          play.story.rest play.world.advance.position := by
        simp only [Story.rest, World.advance, found, Option.getD_some, List.tail_drop]
      rw [tail]
      exact .label
  | cons frame outer =>
      rw [bodies] at remains
      simp only [bodies] at reached ⊢
      cases remains with
      | returning later =>
          rw [drop_reached reached, List.cons_append, List.tail_cons]
          exact .returning later
      | leaving later transfers bound =>
          rw [drop_reached reached, List.cons_append, List.tail_cons]
          exact .leaving later transfers (endsInTransfer_last transfers reached passing)

theorem remains_enter {play : Playthrough} {work body : List Node} {node : Node}
    (remains : play.Remains work) (reached : play.node? = some node)
    (passing : node.isTransfer = false) (filled : body ≠ []) :
    (play.enter body).Remains (body ++ work.tail) := by
  unfold enter
  by_cases transfers : Node.endsInTransfer body = true
  · simp only [transfers, if_true]
    exact .leaving work.tail transfers (List.length_pos_iff.mpr filled)
  · simp only [transfers]
    exact .returning (remains_advance remains reached passing)

theorem remains_exhausted {play : Playthrough} {work : List Node} {frame : Frame}
    {outer : List Frame} (remains : play.Remains work) (bodies : play.bodies = frame :: outer)
    (exhausted : play.node? = none) :
    ({ play with bodies := outer } : Playthrough).Remains work := by
  unfold Remains at remains ⊢
  unfold node? at exhausted
  rw [bodies] at remains
  simp only [bodies] at exhausted
  have passed : frame.body.length ≤ frame.next := List.getElem?_eq_none_iff.mp exhausted
  cases remains with
  | returning later =>
      rw [List.drop_eq_nil_of_le passed, List.nil_append]
      exact later
  | leaving later transfers bound => omega

theorem remains_ended {play : Playthrough} {work : List Node} (remains : play.Remains work)
    (bodies : play.bodies = []) (ended : play.node? = none) : work = [] := by
  unfold Remains at remains
  unfold node? at ended
  rw [bodies] at remains
  simp only [bodies] at ended
  cases remains
  cases found : play.story.labels.get? play.world.position.label with
  | none => simp [Story.rest, found]
  | some nodes =>
      simp only [found, Option.bind_some] at ended
      simp only [Story.rest, found, Option.getD_some]
      exact List.drop_eq_nil_of_le (List.getElem?_eq_none_iff.mp ended)

end Playthrough

/-- A playthrough and an outline that tell the same. -/
structure Mirrors (play : Playthrough) (outline : Outline) : Prop where
  story : outline.story = play.story
  startLabel : outline.startLabel = play.world.startLabel
  scene : outline.scene = play.world.scene
  phase : outline.phase = play.phase
  work : play.phase = .running → play.Remains outline.work
  asked : outline.asked = true → ∃ choices line later,
    outline.work = .menu choices line :: later ∧ play.menu = some choices
  unasked : outline.asked = false → play.menu = none

namespace Mirrors

variable {play after : Playthrough} {outline : Outline}

theorem new (story : Story) (world : World) (settings : PlaySettings) :
    Mirrors (.new story world settings) (.new story world) where
  story := rfl
  startLabel := rfl
  scene := rfl
  phase := rfl
  work running := by contradiction
  asked asked := by contradiction
  unasked _ := rfl

theorem finish (mirrors : Mirrors play outline) : Mirrors play.finish outline.finish where
  story := mirrors.story
  startLabel := mirrors.startLabel
  scene := mirrors.scene
  phase := rfl
  work running := by contradiction
  asked asked := by contradiction
  unasked _ := rfl

theorem complain (mirrors : Mirrors play outline) (complaint : Complaint) :
    Mirrors (play.complain complaint) outline :=
  ⟨mirrors.story, mirrors.startLabel, mirrors.scene, mirrors.phase, mirrors.work, mirrors.asked,
    mirrors.unasked⟩

theorem under (mirrors : Mirrors play outline) (target : String) :
    outline.under target = play.story.rest { label := target } := by
  rw [Outline.under, mirrors.story, Story.rest, List.drop_zero]

theorem unasked_of_reached (mirrors : Mirrors play outline) (running : play.phase = .running)
    {node : Node} (reached : play.node? = some node)
    (other : ∀ choices line, node ≠ .menu choices line) : outline.asked = false := by
  cases asked : outline.asked with
  | false => rfl
  | true =>
      obtain ⟨choices, line, _, menu, _⟩ := mirrors.asked asked
      obtain ⟨later, head⟩ := Playthrough.remains_head (mirrors.work running) reached
      rw [head] at menu
      exact (other choices line (List.cons.inj menu).1).elim

theorem unasked_of_passing (mirrors : Mirrors play outline) (running : play.phase = .running)
    {node : Node} (reached : play.node? = some node) (passing : node.isTransfer = false) :
    outline.asked = false :=
  mirrors.unasked_of_reached running reached fun choices line same => by
    simp [same, Node.isTransfer] at passing

theorem world (mirrors : Mirrors play outline) (world : World)
    (startLabel : world.startLabel = play.world.startLabel)
    (position : world.position = play.world.position) :
    Mirrors { play with world } { outline with scene := world.scene } where
  story := mirrors.story
  startLabel := mirrors.startLabel.trans startLabel.symm
  scene := rfl
  phase := mirrors.phase
  work running := Playthrough.remains_of_place (mirrors.work running) rfl position rfl
  asked := mirrors.asked
  unasked := mirrors.unasked

theorem place (mirrors : Mirrors play outline) (unasked : outline.asked = false)
    (after : Playthrough) (same : after.standing = play.standing)
    (scene : after.world.scene = play.world.scene)
    {work : List Node} (remains : after.Remains work) : Mirrors after { outline with work } := by
  injection same with story startLabel phase menu _ _
  exact {
    story := mirrors.story.trans story.symm
    startLabel := mirrors.startLabel.trans startLabel.symm
    scene := mirrors.scene.trans scene.symm
    phase := mirrors.phase.trans phase.symm
    work := fun _ => remains
    asked := fun asked => by simp [unasked] at asked
    unasked := fun _ => menu.trans (mirrors.unasked unasked) }

theorem advance (mirrors : Mirrors play outline) (running : play.phase = .running) {node : Node}
    (reached : play.node? = some node) (passing : node.isTransfer = false) :
    Mirrors play.advance { outline with work := outline.work.tail } :=
  mirrors.place (mirrors.unasked_of_passing running reached passing) _
    (Playthrough.standing_advance play) (Playthrough.scene_advance play)
    (Playthrough.remains_advance (mirrors.work running) reached passing)

theorem enter (mirrors : Mirrors play outline) (running : play.phase = .running) {node : Node}
    (reached : play.node? = some node) (passing : node.isTransfer = false) {body : List Node}
    (filled : body ≠ []) :
    Mirrors (play.enter body) { outline with work := body ++ outline.work.tail } :=
  mirrors.place (mirrors.unasked_of_passing running reached passing) _
    (Playthrough.standing_enter play body) (Playthrough.scene_enter play body)
    (Playthrough.remains_enter (mirrors.work running) reached passing filled)

theorem jump (mirrors : Mirrors play outline) (unasked : outline.asked = false)
    (target : String) :
    Mirrors { play with world := play.world.jump target, bodies := [] }
      { outline with work := outline.under target } := by
  rw [mirrors.under target]
  exact mirrors.place unasked { play with world := play.world.jump target, bodies := [] } rfl rfl
    .label

theorem judgeGuard (mirrors : Mirrors play outline) (running : play.phase = .running)
    {condition : String} {body : List Node} {line : Nat}
    (reached : play.node? = some (.guarded condition body line)) :
    Mirrors (play.judgeGuard condition body)
      { outline with
        scene := outline.scene.record (outline.scene.judge condition).complaints
        work :=
          if (outline.scene.judge condition).holds then body ++ outline.work.tail
          else outline.work.tail } := by
  have judged := mirrors.world (play.world.record (play.world.judge condition).complaints) rfl rfl
  rw [mirrors.scene, World.judge_scene]
  simp only [Playthrough.judgeGuard]
  cases holds : (play.world.judge condition).holds with
  | false => exact judged.advance running reached rfl
  | true =>
      by_cases filled : body = []
      · subst filled
        exact judged.advance running reached rfl
      · simp only [Bool.true_and, List.isEmpty_eq_false_iff.mpr filled, Bool.not_false, if_true]
        exact judged.enter running reached rfl filled

/-- A tick that goes on leaves a body, which an outline does not know, or is one of the outline. -/
theorem goesOn (mirrors : Mirrors play outline) (running : play.phase = .running)
    (ticked : play.tick = .goesOn after) :
    Mirrors after outline ∨ ∃ next, outline.tick = .goesOn next ∧ Mirrors after next := by
  cases reached : play.node? with
  | none =>
      left
      cases bodies : play.bodies with
      | cons frame outer =>
          rw [Playthrough.tick_of_exhausted bodies reached] at ticked
          obtain rfl := Tick.goesOn.inj ticked
          have remains := Playthrough.remains_exhausted (mirrors.work running) bodies reached
          exact ⟨mirrors.story, mirrors.startLabel, mirrors.scene, mirrors.phase, fun _ => remains,
            mirrors.asked, mirrors.unasked⟩
      | nil =>
          obtain ⟨label, out | lost⟩ := Playthrough.tick_of_ended bodies reached
          · rw [out] at ticked
            contradiction
          · rw [lost] at ticked
            contradiction
  | some node =>
      right
      obtain ⟨later, head⟩ := Playthrough.remains_head (mirrors.work running) reached
      have tail : outline.work.tail = later := by rw [head, List.tail_cons]
      rw [Playthrough.tick_of_node reached] at ticked
      unfold Outline.tick
      simp only [head]
      cases node with
      | dialogue | command | menu => simp [Playthrough.execute] at ticked
      | assignment expression line =>
          obtain rfl := Tick.goesOn.inj ticked
          have places := World.assign_places play.world expression
          have changed := mirrors.world (play.world.assign expression) places.1 places.2
          have again : ({ play with world := play.world.assign expression } : Playthrough).node? =
              some (.assignment expression line) :=
            (Playthrough.node?_of_place play { play with world := play.world.assign expression }
              rfl places.2 rfl).trans reached
          have past := changed.advance running again rfl
          rw [World.assign_scene, ← mirrors.scene] at past
          exact ⟨_, rfl, by rw [← tail]; exact past⟩
      | character name profile =>
          obtain rfl := Tick.goesOn.inj ticked
          have changed := mirrors.world (play.world.register name profile.attributes) rfl rfl
          have past := changed.advance running reached rfl
          rw [← tail]
          refine ⟨_, rfl, ?_⟩
          rw [mirrors.scene]
          exact past
      | guarded condition body line =>
          obtain rfl := Tick.goesOn.inj ticked
          have judged := mirrors.judgeGuard running reached
          rw [tail] at judged
          exact ⟨_, rfl, judged⟩
      | jump target line =>
          obtain rfl := Tick.goesOn.inj ticked
          have unasked := mirrors.unasked_of_reached running reached fun _ _ same => by contradiction
          exact ⟨_, rfl, mirrors.jump unasked target⟩

theorem shows (mirrors : Mirrors play outline) (running : play.phase = .running) {node : Node}
    (ticked : play.tick = .shows node after) :
    ∃ next, outline.tick = .returns (some node) next ∧ Mirrors after next := by
  obtain ⟨reached, executed⟩ := Playthrough.node?_of_shows ticked
  obtain ⟨later, head⟩ := Playthrough.remains_head (mirrors.work running) reached
  have tail : outline.work.tail = later := by rw [head, List.tail_cons]
  unfold Outline.tick
  simp only [head]
  cases node with
  | assignment | character | guarded | jump => simp [Playthrough.execute] at executed
  | dialogue | command =>
      obtain ⟨_, rfl⟩ := Tick.shows.inj executed
      have past := mirrors.advance running reached rfl
      rw [tail] at past
      exact ⟨_, rfl, past⟩
  | menu choices line =>
      obtain ⟨_, rfl⟩ := Tick.shows.inj executed
      exact ⟨_, rfl, {
        story := mirrors.story
        startLabel := mirrors.startLabel
        scene := mirrors.scene
        phase := mirrors.phase
        work := fun running => head ▸ mirrors.work running
        asked := fun _ => ⟨choices, line, later, rfl, rfl⟩
        unasked := fun unasked => by contradiction }⟩

theorem ends (mirrors : Mirrors play outline) (running : play.phase = .running)
    (bodies : play.bodies = []) (ended : play.node? = none) :
    outline.tick = .returns none outline.finish ∧ Mirrors play.tick.after outline.finish := by
  have nothing := Playthrough.remains_ended (mirrors.work running) bodies ended
  refine ⟨by simp only [Outline.tick, nothing], ?_⟩
  obtain ⟨label, out | lost⟩ := Playthrough.tick_of_ended bodies ended
  · rw [out]
    exact mirrors.finish
  · rw [lost]
    exact (mirrors.complain _).finish

theorem run {count : Nat} (mirrors : Mirrors play outline) (running : play.phase = .running)
    (whole : play.isCut count = false) :
    ∃ next, outline.Steps (play.run count).1 next ∧ Mirrors (play.run count).2 next := by
  induction count generalizing play outline with
  | zero => simp [Playthrough.isCut] at whole
  | succ count ih =>
      rw [Playthrough.isCut] at whole
      rw [Playthrough.run]
      cases ticked : play.tick with
      | shows node after =>
          obtain ⟨next, returned, same⟩ := mirrors.shows running ticked
          exact ⟨next, .returns returned, same⟩
      | goesOn after =>
          simp only [ticked] at whole
          have phase : after.phase = .running := by
            rw [← running]
            exact congrArg Playthrough.Standing.phase (Playthrough.standing_of_goesOn ticked)
          rcases mirrors.goesOn running ticked with same | ⟨next, wentOn, same⟩
          · exact ih same phase whole
          · obtain ⟨last, steps, later⟩ := ih same phase whole
            exact ⟨last, .goesOn wentOn steps, later⟩
      | runsOut label after | isLost label after =>
          obtain ⟨bodies, ended⟩ := Playthrough.ended_of_tick play (by simp [ticked]) (by simp [ticked])
          obtain ⟨returned, same⟩ := mirrors.ends running bodies ended
          rw [ticked] at same
          exact ⟨outline.finish, .returns returned, same⟩

theorem step (mirrors : Mirrors play outline) (whole : play.cutsStep = false) :
    ∃ next, outline.Performs .step (play.perform .step).1 next ∧
      Mirrors (play.perform .step).2 next := by
  simp only [Playthrough.perform, Playthrough.step]
  cases phase : play.phase with
  | running =>
      simp only [Playthrough.cutsStep, Playthrough.isRunning, phase, beq_self_eq_true,
        Bool.true_and] at whole
      obtain ⟨next, steps, same⟩ := mirrors.run phase whole
      exact ⟨next, .step (mirrors.phase.trans phase) steps, same⟩
  | notStarted =>
      have halted : outline.phase ≠ .running := by simp [mirrors.phase, phase]
      exact ⟨outline, .idle halted, mirrors.complain _⟩
  | finished =>
      have halted : outline.phase ≠ .running := by simp [mirrors.phase, phase]
      exact ⟨outline, .idle halted, mirrors⟩

theorem start (mirrors : Mirrors play outline) : Mirrors play.start outline.start where
  story := mirrors.story
  startLabel := mirrors.startLabel
  scene := by
    rw [Outline.start, mirrors.story, mirrors.scene]
    rfl
  phase := rfl
  work _ := by
    rw [Outline.start, mirrors.startLabel, mirrors.under]
    exact .label
  asked asked := by contradiction
  unasked _ := rfl

theorem select (mirrors : Mirrors play outline) (target : String) :
    Mirrors (play.select target) (outline.select target) where
  story := mirrors.story
  startLabel := mirrors.startLabel
  scene := mirrors.scene
  phase := mirrors.phase
  work _ := by
    rw [Outline.select, mirrors.under]
    exact .label
  asked asked := by contradiction
  unasked _ := rfl

theorem stop (mirrors : Mirrors play outline) : Mirrors play.stop outline.stop := by
  unfold Playthrough.stop Outline.stop Playthrough.isRunning
  rw [mirrors.phase]
  by_cases running : play.phase = .running
  · simp only [running, beq_self_eq_true, if_true]
    exact mirrors.finish
  · simp only [running, beq_iff_eq, if_false]
    exact mirrors

theorem reset (mirrors : Mirrors play outline) : Mirrors play.reset outline.reset where
  story := mirrors.story
  startLabel := mirrors.startLabel
  scene := by
    rw [Outline.reset, mirrors.scene]
    rfl
  phase := rfl
  work running := by contradiction
  asked asked := by contradiction
  unasked _ := rfl

theorem choose (mirrors : Mirrors play outline) (index : Nat) :
    ∃ next, outline.Performs (.choose index) (play.perform (.choose index)).1 next ∧
      Mirrors (play.perform (.choose index)).2 next := by
  cases asked : outline.asked with
  | false =>
      have refused : play.choose? index = none :=
        (Playthrough.choose?_eq_none_iff play index).mpr (Or.inl (mirrors.unasked asked))
      simp only [Playthrough.perform, refused]
      exact ⟨outline, .refuse (by simp only [Outline.choose?, asked]), mirrors⟩
  | true =>
      obtain ⟨choices, line, later, head, menu⟩ := mirrors.asked asked
      rcases Nat.lt_or_ge index choices.length with bound | beyond
      · simp only [Playthrough.perform, Playthrough.choose?_of_offered menu bound]
        refine ⟨outline.select choices[index].target, .choose ?_, mirrors.select _⟩
        simp only [Outline.choose?, asked, head, List.getElem?_eq_getElem bound, Option.map_some]
      · have refused : play.choose? index = none :=
          (Playthrough.choose?_eq_none_iff play index).mpr (Or.inr ⟨choices, menu, beyond⟩)
        simp only [Playthrough.perform, refused]
        refine ⟨outline, .refuse ?_, mirrors⟩
        simp only [Outline.choose?, asked, head, List.getElem?_eq_none beyond, Option.map_none]

theorem perform (mirrors : Mirrors play outline) (operation : Operation)
    (whole : operation = .step → play.cutsStep = false) :
    ∃ next, outline.Performs operation (play.perform operation).1 next ∧
      Mirrors (play.perform operation).2 next := by
  cases operation with
  | start => exact ⟨_, .start, mirrors.start⟩
  | step => exact mirrors.step (whole rfl)
  | select target => exact ⟨_, .select, mirrors.select target⟩
  | choose index => exact mirrors.choose index
  | stop => exact ⟨_, .stop, mirrors.stop⟩
  | reset => exact ⟨_, .reset, mirrors.reset⟩
  | amend scene => exact ⟨_, .amend, mirrors.world (play.world.amend scene) rfl rfl⟩

theorem observe (mirrors : Mirrors play outline) (operations : List Operation)
    (whole : play.neverCut operations = true) :
    outline.Plays operations (play.observe operations) := by
  induction operations generalizing play outline with
  | nil => exact .nil
  | cons operation rest ih =>
      simp only [Playthrough.neverCut, Bool.and_eq_true] at whole
      have first : operation = .step → play.cutsStep = false := by
        rintro rfl
        simpa using whole.1
      obtain ⟨next, performed, same⟩ := mirrors.perform operation first
      simp only [Playthrough.observe, ← same.scene, ← same.phase]
      exact .cons performed (ih same whole.2)

end Mirrors

/-- As long as no step is cut, all that can be observed of a playthrough is what its outline says,
and the outline says nothing else. -/
theorem plays_iff_observed (story : Story) (world : World) (settings : PlaySettings)
    (operations : List Operation) (observations : List Observation)
    (whole : (Playthrough.new story world settings).neverCut operations = true) :
    (Outline.new story world).Plays operations observations ↔
      observations = (Playthrough.new story world settings).observe operations := by
  have plays := (Mirrors.new story world settings).observe operations whole
  constructor
  · intro told
    exact told.deterministic plays
  · intro same
    rw [same]
    exact plays

def gateStory : Story where
  labels := Table.ofList [
    ("Start", [
      .assignment "gate = \"open\"" 2,
      .guarded "gate == \"open\"" [
        .guarded "gate != \"shut\"" [.dialogue "Guard" "Halt!" 5] 4,
        .menu [⟨"Go in", "Hall", none⟩] 6] 3,
      .dialogue "Guard" "Closed." 7]),
    ("Hall", [.guarded "gate == \"open\"" [.jump "Nowhere" 10] 9])]
  cast := ∅

def gateVisit : List Operation :=
  [.start, .step, .step, .step, .choose 0, .step]

theorem gateVisit_plays :
    (Playthrough.new gateStory {}).neverCut gateVisit = true ∧
      ((Playthrough.new gateStory {}).observe gateVisit).map (·.reply) =
        [.done, .shown (some (.dialogue "Guard" "Halt!" 5)),
          .shown (some (.menu [⟨"Go in", "Hall", none⟩] 6)),
          .shown (some (.menu [⟨"Go in", "Hall", none⟩] 6)), .chosen true, .shown none] ∧
      (Outline.new gateStory {}).Plays gateVisit
        ((Playthrough.new gateStory {}).observe gateVisit) :=
  ⟨by decide +kernel, rfl,
    (plays_iff_observed gateStory {} {} gateVisit _ (by decide +kernel)).mpr rfl⟩

end StoryScript
