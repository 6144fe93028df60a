import StoryScript.Proofs.Playthrough.Simulation
import StoryScript.Proofs.Story.Parts

/-!
How long a step can take. Between two jumps no node is taken twice and no body is left twice, so
that the jumps of a step and the heaviest label of its story bound its ticks.
-/

namespace StoryScript

namespace Node

def isJump : Node → Bool
  | jump .. => true
  | _ => false

/-- All nodes in a list, those in bodies included, and the guards among them a second time, as a
body that has been entered has to be left. -/
def weigh (nodes : List Node) : Nat :=
  (partsOf nodes).length + (partsOf nodes).countP isGuarded

theorem partsOf_append (first later : List Node) :
    partsOf (first ++ later) = partsOf first ++ partsOf later := by
  induction first with
  | nil => rfl
  | cons node rest ih => rw [List.cons_append, partsOf, partsOf, ih, List.append_assoc]

theorem weigh_append (first later : List Node) :
    weigh (first ++ later) = weigh first + weigh later := by
  simp only [weigh, partsOf_append, List.length_append, List.countP_append]
  omega

theorem weigh_lt_cons (node : Node) (rest : List Node) : weigh rest < weigh (node :: rest) := by
  have filled : 0 < node.parts.length := List.length_pos_of_mem (mem_parts node)
  simp only [weigh, partsOf, List.length_append, List.countP_append]
  omega

theorem weigh_guarded (condition : String) (body : List Node) (line : Nat) (rest : List Node) :
    weigh (.guarded condition body line :: rest) = weigh body + weigh rest + 2 := by
  simp only [weigh, partsOf, parts, List.length_append, List.countP_append, List.length_cons,
    List.countP_cons, isGuarded, if_true]
  omega

theorem weigh_drop_le (count : Nat) (nodes : List Node) : weigh (nodes.drop count) ≤ weigh nodes := by
  have whole := weigh_append (nodes.take count) (nodes.drop count)
  rw [List.take_append_drop] at whole
  omega

end Node

namespace Story

def heaviest (story : Story) : Nat :=
  (story.labels.entries.map fun entry => Node.weigh entry.2 + 1).max?.getD 1

theorem weigh_lt_heaviest {story : Story} {label : String} {nodes : List Node}
    (found : story.labels.get? label = some nodes) : Node.weigh nodes < story.heaviest :=
  List.le_max?_getD_of_mem
    (List.mem_map.mpr ⟨(label, nodes), (Table.mem_entries_iff ..).mpr found, rfl⟩)

theorem heaviest_pos (story : Story) : 0 < story.heaviest := by
  unfold heaviest
  cases entries : story.labels.entries with
  | nil => exact Nat.one_pos
  | cons entry rest =>
      exact Nat.lt_of_lt_of_le (Nat.succ_pos _) (List.le_max?_getD_of_mem List.mem_cons_self)

theorem weigh_rest_lt (story : Story) (position : Position) :
    Node.weigh (story.rest position) < story.heaviest := by
  unfold rest
  cases found : story.labels.get? position.label with
  | none =>
      rw [Option.getD_none, List.drop_nil]
      exact story.heaviest_pos
  | some nodes =>
      exact Nat.lt_of_le_of_lt (Node.weigh_drop_le _ nodes) (weigh_lt_heaviest found)

end Story

namespace Playthrough

def leaps (play : Playthrough) : Bool :=
  play.node?.any Node.isJump

def jumps (play : Playthrough) : Nat :=
  play.course.countP leaps

/-- Less than `due` is left to be told, the open bodies that are to be left included. -/
def Owes (play : Playthrough) (due : Nat) : Prop :=
  ∃ work, play.Remains work ∧ Node.weigh work + play.depth < due

variable {play after : Playthrough} {due : Nat}

theorem Owes.mono {more : Nat} (owes : play.Owes due) (le : due ≤ more) : play.Owes more := by
  obtain ⟨work, remains, bound⟩ := owes
  exact ⟨work, remains, Nat.lt_of_lt_of_le bound le⟩

theorem Owes.of_place (owes : play.Owes due) (story : after.story = play.story)
    (position : after.world.position = play.world.position) (bodies : after.bodies = play.bodies) :
    after.Owes due := by
  obtain ⟨work, remains, bound⟩ := owes
  refine ⟨work, remains_of_place remains story position bodies, ?_⟩
  rw [depth, bodies]
  exact bound

theorem owes_outside (outside : play.bodies = []) : play.Owes play.story.heaviest := by
  refine ⟨play.story.rest play.world.position, ?_, ?_⟩
  · unfold Remains
    rw [outside]
    exact .label
  · rw [depth, outside]
    exact play.story.weigh_rest_lt play.world.position

theorem depth_advance (play : Playthrough) : play.advance.depth = play.depth := by
  unfold advance depth
  cases play.bodies with
  | nil => rfl
  | cons frame outer => rfl

theorem depth_enter (play : Playthrough) (body : List Node) :
    (play.enter body).depth = play.depth + 1 := by
  unfold enter
  split
  · rfl
  · exact congrArg (· + 1) play.depth_advance

/-! Every tick but a jump pays for what it takes. -/

theorem Owes.advance {node : Node} (owes : play.Owes (due + 1)) (reached : play.node? = some node)
    (passing : node.isTransfer = false) : play.advance.Owes due := by
  obtain ⟨work, remains, bound⟩ := owes
  obtain ⟨later, rfl⟩ := remains_head remains reached
  have lighter := Node.weigh_lt_cons node later
  refine ⟨later, remains_advance remains reached passing, ?_⟩
  rw [depth_advance]
  omega

theorem Owes.enter {condition : String} {body : List Node} {line : Nat}
    (owes : play.Owes (due + 1)) (reached : play.node? = some (.guarded condition body line))
    (filled : body ≠ []) : (play.enter body).Owes due := by
  obtain ⟨work, remains, bound⟩ := owes
  obtain ⟨later, rfl⟩ := remains_head remains reached
  -- The guard counts twice: for the tick that enters its body, and for the one that leaves it.
  rw [Node.weigh_guarded] at bound
  refine ⟨body ++ later, remains_enter remains reached rfl filled, ?_⟩
  rw [depth_enter, Node.weigh_append]
  omega

theorem Owes.judgeGuard {condition : String} {body : List Node} {line : Nat}
    (owes : play.Owes (due + 1)) (reached : play.node? = some (.guarded condition body line)) :
    (play.judgeGuard condition body).Owes due := by
  let verdict := play.world.judge condition
  let judged : Playthrough := { play with world := play.world.record verdict.complaints }
  have owed : judged.Owes (due + 1) := owes.of_place rfl rfl rfl
  simp only [Playthrough.judgeGuard]
  split
  next entered =>
    have filled : body ≠ [] := by
      rintro rfl
      simp at entered
    exact owed.enter reached filled
  next => exact owed.advance reached rfl

theorem Owes.execute {node : Node} (owes : play.Owes (due + 1)) (reached : play.node? = some node)
    (passing : node.isTransfer = false) : (play.execute node).after.Owes due := by
  cases node with
  | menu | jump => contradiction
  | dialogue | command => exact owes.advance reached passing
  | assignment expression line =>
      have position := (World.assign_places play.world expression).2
      have changed : ({ play with world := play.world.assign expression } : Playthrough).Owes
          (due + 1) := owes.of_place rfl position rfl
      have again := node?_of_place play { play with world := play.world.assign expression } rfl
        position rfl
      exact changed.advance (again.trans reached) passing
  | character name profile =>
      have changed : ({ play with world := play.world.register name profile.attributes } :
          Playthrough).Owes (due + 1) := owes.of_place rfl rfl rfl
      exact changed.advance reached passing
  | guarded condition body line => exact owes.judgeGuard reached

theorem Owes.leave {frame : Frame} {outer : List Frame} (owes : play.Owes (due + 1))
    (bodies : play.bodies = frame :: outer) (exhausted : play.node? = none) :
    ({ play with bodies := outer } : Playthrough).Owes due := by
  obtain ⟨work, remains, bound⟩ := owes
  rw [depth, bodies, List.length_cons] at bound
  exact ⟨work, remains_exhausted remains bodies exhausted, Nat.lt_of_succ_lt_succ bound⟩

theorem Owes.goesOn (owes : play.Owes (due + 1)) (ticked : play.tick = .goesOn after) :
    (play.leaps = false ∧ after.Owes due) ∨ (play.leaps = true ∧ after.bodies = []) := by
  revert ticked
  refine tick_cases (motive := fun tick => tick = .goesOn after →
    (play.leaps = false ∧ after.Owes due) ∨ (play.leaps = true ∧ after.bodies = [])) play
    ?takes ?leaves ?runsOut ?isLost
  case takes =>
    intro node reached executed
    have leaps : play.leaps = node.isJump := by rw [leaps, reached, Option.any_some]
    cases node with
    | dialogue | command | menu => simp [Playthrough.execute] at executed
    | jump target line =>
        obtain rfl := Tick.goesOn.inj executed
        exact .inr ⟨leaps, rfl⟩
    | assignment | character | guarded =>
        have paid := owes.execute reached rfl
        rw [executed] at paid
        exact .inl ⟨leaps, paid⟩
  case leaves =>
    intro frame outer bodies exhausted left
    obtain rfl := Tick.goesOn.inj left
    exact .inl ⟨by rw [leaps, exhausted, Option.any_none], owes.leave bodies exhausted⟩
  case runsOut | isLost =>
    intro label ended
    contradiction

/-- The ticks of a run pay for what they take, and each jump among them runs up as much as the
heaviest label. A run that is cut still owes something. -/
theorem length_trail_le (owes : play.Owes due) (count : Nat) :
    (play.trail count).length + (play.isCut count).toNat ≤
      due + (play.trail count).countP leaps * play.story.heaviest := by
  induction count generalizing play due with
  | zero =>
      obtain ⟨work, _, bound⟩ := owes
      simp only [trail, isCut, List.length_nil, List.countP_nil, Bool.toNat_true]
      omega
  | succ count ih =>
      obtain ⟨less, rfl⟩ : ∃ less, due = less + 1 := by
        obtain ⟨work, _, bound⟩ := owes
        exact ⟨due - 1, by omega⟩
      rw [trail, isCut]
      cases ticked : play.tick with
      | goesOn after =>
          have story : after.story = play.story :=
            congrArg Standing.story (standing_of_goesOn ticked)
          simp only [List.length_cons, List.countP_cons]
          rcases owes.goesOn ticked with ⟨stays, later⟩ | ⟨leaps, outside⟩
          · have rest := ih later
            rw [story] at rest
            simp only [stays, Bool.false_eq_true, if_false, Nat.add_zero]
            omega
          · have rest := ih (owes_outside outside)
            rw [story] at rest
            simp only [leaps, if_true, Nat.succ_mul]
            omega
      | shows | runsOut | isLost =>
          simp only [List.length_singleton, Bool.toNat_false]
          omega

/-! Whatever is asked of a playthrough, it never owes more than the heaviest label. -/

theorem owes_tick (owes : play.Owes play.story.heaviest) :
    play.tick.after.Owes play.story.heaviest := by
  have spare := owes.mono (Nat.le_succ _)
  refine tick_cases (motive := fun tick => tick.after.Owes play.story.heaviest) play
    ?takes ?leaves ?runsOut ?isLost
  case takes =>
    intro node reached
    cases node with
    | menu choices line => exact owes.of_place rfl rfl rfl
    | jump target line => exact owes_outside rfl
    | dialogue | assignment | command | character | guarded => exact spare.execute reached rfl
  case leaves =>
    intro frame outer bodies exhausted
    exact spare.leave bodies exhausted
  case runsOut | isLost =>
    intro label
    exact owes_outside rfl

theorem owes_step (owes : play.Owes play.story.heaviest) :
    play.step.2.Owes play.story.heaviest := by
  unfold step
  split
  · exact owes.of_place rfl rfl rfl
  · exact owes
  · apply @run_ended
      (fun during => during.story = play.story ∧ during.Owes during.story.heaviest)
      (fun ended => ended.Owes play.story.heaviest) _ _ _ _ play ⟨rfl, owes⟩
    · rintro during next ⟨story, owed⟩ ticked
      have same : next.story = during.story := congrArg Standing.story (standing_of_goesOn ticked)
      have later := owes_tick owed
      rw [ticked] at later
      exact ⟨same.trans story, same ▸ later⟩
    · rintro during ⟨story, owed⟩ _
      exact story ▸ owes_tick owed
    · rintro during complaint ⟨story, _⟩
      exact story ▸ owes_outside rfl

theorem owes_perform (owes : play.Owes play.story.heaviest) (operation : Operation) :
    (play.perform operation).2.Owes play.story.heaviest := by
  cases operation with
  | start | select | reset => exact owes_outside rfl
  | step => exact owes_step owes
  | choose index =>
      simp only [perform]
      split
      next after chosen =>
        obtain ⟨choices, choice, _, _, rfl⟩ := choose?_eq_some chosen
        exact owes_outside rfl
      next => exact owes
  | stop =>
      simp only [perform, stop]
      split
      · exact owes_outside rfl
      · exact owes
  | amend scene => exact owes.of_place rfl rfl rfl

theorem owes_after (outside : play.bodies = []) (operations : List Operation) :
    (play.after operations).Owes play.story.heaviest := by
  suffices (play.after operations).story = play.story ∧
      (play.after operations).Owes (play.after operations).story.heaviest from this.1 ▸ this.2
  refine after_keeps
    (fun after => after.story = play.story ∧ after.Owes after.story.heaviest)
    ?_ ⟨rfl, owes_outside outside⟩ operations
  rintro during operation ⟨story, owes⟩
  have same : (during.perform operation).2.story = during.story :=
    congrArg Setting.story (during.setting_perform operation)
  exact ⟨same.trans story, same ▸ owes_perform owes operation⟩

/-- After any operations the next step makes at most as many ticks as the heaviest label is worth,
once, and once more for each jump that it takes. Where the bound on silent nodes is no less than
that, a step without a jump is not cut, and does not complain about them. -/
theorem length_course_le (story : Story) (world : World) (settings : PlaySettings)
    (operations : List Operation) :
    let play := (new story world settings).after operations
    play.course.length ≤ (play.jumps + 1) * story.heaviest ∧
      (story.heaviest ≤ settings.maxSilentSteps → play.jumps = 0 →
        play.cutsStep = false ∧ ∃ complaints : List Complaint,
          play.step.2.diagnostics =
              play.diagnostics.recordAll (complaints.map fun complaint => complaint.diagnostic) ∧
            ∀ complaint ∈ complaints, complaint.kind ≠ .stepLimit) := by
  intro play
  have setting : play.setting = (new story world settings).setting := setting_after _ operations
  have sameStory : play.story = story := congrArg Setting.story setting
  have bound : play.silentBound = max settings.maxSilentSteps 1 :=
    congrArg Setting.silentBound setting
  have owes : play.Owes story.heaviest := owes_after rfl operations
  have paid := length_trail_le owes play.silentBound
  rw [sameStory] at paid
  constructor
  · rw [jumps, course, Nat.succ_mul]
    split
    · omega
    · exact Nat.zero_le _
  · intro enough noJump
    have whole : play.cutsStep = false := by
      rw [Bool.eq_false_iff]
      intro cutsStep
      obtain ⟨running, cut⟩ := cutsStep_iff.mp cutsStep
      simp only [jumps, course, isRunning, running, beq_self_eq_true, if_true] at noJump
      simp only [noJump, length_trail_of_isCut cut, cut, Bool.toNat_true] at paid
      omega
    obtain ⟨complaints, recorded, silent⟩ := play.complaints_of_step
    refine ⟨whole, complaints, recorded, ?_⟩
    intro complaint member kind
    have cutsStep := silent.mpr ⟨complaint, member, kind⟩
    rw [whole] at cutsStep
    contradiction

end Playthrough

def strollStory : Story where
  labels := Table.ofList [
    ("Start", [
      .assignment "steps = 1" 2,
      .guarded "steps == 1" [
        .guarded "steps != 0" [.assignment "steps += 1" 5] 4,
        .assignment "steps += 1" 6] 3])]
  cast := ∅

theorem strollStory_ends :
    let play (bound : Nat) :=
      (Playthrough.new strollStory {} { maxSilentSteps := bound }).after [.start]
    strollStory.heaviest = 8 ∧ (play 7).cutsStep = true ∧ (play 8).jumps = 0 ∧
      (play 8).course.length ≤ ((play 8).jumps + 1) * strollStory.heaviest ∧
      (play 8).course.length = 8 ∧ (play 8).cutsStep = false := by
  intro play
  have heaviest : strollStory.heaviest = 8 := by decide +kernel
  have noJump : (play 8).jumps = 0 := by decide +kernel
  obtain ⟨length, uncut⟩ :=
    Playthrough.length_course_le strollStory {} { maxSilentSteps := 8 } [.start]
  exact ⟨heaviest, by decide +kernel, noJump, length, by decide +kernel,
    (uncut (Nat.le_of_eq heaviest) noJump).1⟩

end StoryScript
