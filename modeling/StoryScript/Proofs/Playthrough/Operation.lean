import StoryScript.Playthrough
import StoryScript.Proofs.Diagnostic.Overflow

/-!
What can be asked of a playthrough from outside, and the playthroughs that a sequence of such
operations leads to.
-/

namespace StoryScript

/-- What a world holds apart from the places of its story. -/
structure Scene where
  globals : Table Value
  cast : Table (Table String)
  diagnostics : Diagnostics

namespace World

def scene (world : World) : Scene :=
  ⟨world.globals, world.cast, world.diagnostics⟩

def amend (world : World) (scene : Scene) : World :=
  { world with
    globals := scene.globals
    cast := scene.cast
    diagnostics := scene.diagnostics }

theorem record_nil (world : World) : world.record [] = world := by
  rw [record, Diagnostics.recordAll_nil]

end World

inductive Operation
  | start
  | step
  | select (target : String)
  | choose (index : Nat)
  | stop
  | reset
  | amend (scene : Scene)

inductive Reply
  | done
  | shown (node : Option Node)
  | chosen (accepted : Bool)

def Tick.after : Tick → Playthrough
  | .shows _ after => after
  | .goesOn after => after
  | .runsOut _ after => after
  | .isLost _ after => after

namespace Playthrough

def perform (play : Playthrough) : Operation → Reply × Playthrough
  | .start => (.done, play.start)
  | .step => (.shown play.step.1, play.step.2)
  | .select target => (.done, play.select target)
  | .choose index =>
      match play.choose? index with
      | some after => (.chosen true, after)
      | none => (.chosen false, play)
  | .stop => (.done, play.stop)
  | .reset => (.done, play.reset)
  | .amend scene => (.done, { play with world := play.world.amend scene })

def after (play : Playthrough) (operations : List Operation) : Playthrough :=
  operations.foldl (fun play operation => (play.perform operation).2) play

def node? (play : Playthrough) : Option Node :=
  match play.bodies with
  | frame :: _ => frame.body[frame.next]?
  | [] => (play.story.labels.get? play.world.position.label).bind (·[play.world.position.index]?)

/-! Nodes that show nothing change the place and the scene, and leave all else as it stands. -/

structure Standing where
  story : Story
  startLabel : String
  phase : Phase
  menu : Option (List Choice)
  silentBound : Nat
  diagnostics : Diagnostics

def standing (play : Playthrough) : Standing :=
  ⟨play.story, play.world.startLabel, play.phase, play.menu, play.silentBound, play.diagnostics⟩

@[simp] theorem standing_advance (play : Playthrough) : play.advance.standing = play.standing := by
  unfold advance
  split <;> rfl

@[simp] theorem scene_advance (play : Playthrough) :
    play.advance.world.scene = play.world.scene := by
  unfold advance
  split <;> rfl

@[simp] theorem standing_enter (play : Playthrough) (body : List Node) :
    (play.enter body).standing = play.standing := by
  unfold enter
  split
  · rfl
  · exact standing_advance play

@[simp] theorem scene_enter (play : Playthrough) (body : List Node) :
    (play.enter body).world.scene = play.world.scene := by
  unfold enter
  split
  · rfl
  · exact scene_advance play

@[simp] theorem standing_judgeGuard (play : Playthrough) (condition : String)
    (body : List Node) : (play.judgeGuard condition body).standing = play.standing := by
  simp only [judgeGuard]
  split
  · exact standing_enter _ body
  · exact standing_advance _

theorem standing_assign (play : Playthrough) (expression : String) :
    ({ play with world := play.world.assign expression } : Playthrough).standing =
      play.standing := by
  unfold standing World.assign
  split <;> rfl

/-! What one tick does: it takes the reached node, leaves a body or ends the story. -/

theorem tick_of_node {play : Playthrough} {node : Node} (reached : play.node? = some node) :
    play.tick = play.execute node := by
  unfold node? at reached
  unfold tick
  cases bodies : play.bodies with
  | cons frame outer =>
      simp only [bodies] at reached
      simp only [reached]
  | nil =>
      simp only [bodies] at reached
      obtain ⟨nodes, found, atIndex⟩ := Option.bind_eq_some_iff.mp reached
      simp only [found, atIndex]

theorem tick_of_exhausted {play : Playthrough} {frame : Frame} {outer : List Frame}
    (bodies : play.bodies = frame :: outer) (exhausted : play.node? = none) :
    play.tick = .goesOn { play with bodies := outer } := by
  unfold node? at exhausted
  unfold tick
  simp only [bodies] at exhausted ⊢
  simp only [exhausted]

theorem tick_of_ended {play : Playthrough} (bodies : play.bodies = [])
    (ended : play.node? = none) :
    ∃ label, play.tick = .runsOut label play.finish ∨
      play.tick = .isLost label (play.complain (.noLabel label)).finish := by
  unfold node? at ended
  unfold tick
  simp only [bodies] at ended ⊢
  refine ⟨play.world.position.label, ?_⟩
  cases found : play.story.labels.get? play.world.position.label with
  | none => exact Or.inr (by simp)
  | some nodes =>
      simp only [found, Option.bind_some] at ended
      exact Or.inl (by simp [ended])

/-- One tick takes the reached node, leaves an exhausted body, or ends the story in its label. -/
theorem tick_cases {motive : Tick → Prop} (play : Playthrough)
    (takes : ∀ node, play.node? = some node → motive (play.execute node))
    (leaves : ∀ frame outer, play.bodies = frame :: outer → play.node? = none →
      motive (.goesOn { play with bodies := outer }))
    (runsOut : ∀ label, motive (.runsOut label play.finish))
    (isLost : ∀ label, motive (.isLost label (play.complain (.noLabel label)).finish)) :
    motive play.tick := by
  cases reached : play.node? with
  | some node => exact tick_of_node reached ▸ takes node reached
  | none =>
      cases bodies : play.bodies with
      | cons frame outer => exact tick_of_exhausted bodies reached ▸ leaves frame outer bodies reached
      | nil =>
          obtain ⟨label, out | lost⟩ := tick_of_ended bodies reached
          · exact out ▸ runsOut label
          · exact lost ▸ isLost label

theorem ended_of_tick (play : Playthrough) (shows : ∀ node after, play.tick ≠ .shows node after)
    (goesOn : ∀ after, play.tick ≠ .goesOn after) : play.bodies = [] ∧ play.node? = none := by
  cases reached : play.node? with
  | some node =>
      rw [tick_of_node reached] at shows goesOn
      cases node with
      | dialogue | command | menu => exact (shows _ _ rfl).elim
      | assignment | character | guarded | jump => exact (goesOn _ rfl).elim
  | none =>
      cases bodies : play.bodies with
      | nil => exact ⟨rfl, rfl⟩
      | cons frame outer => exact (goesOn _ (tick_of_exhausted bodies reached)).elim

structure Over (play : Playthrough) : Prop where
  phase : play.phase = .finished
  bodies : play.bodies = []
  menu : play.menu = none

theorem over_finish (play : Playthrough) : play.finish.Over :=
  ⟨rfl, rfl, rfl⟩

theorem Over.depth {play : Playthrough} (isOver : play.Over) : play.depth = 0 := by
  rw [Playthrough.depth, isOver.bodies, List.length_nil]

theorem over_of_tick (play : Playthrough) (shows : ∀ node after, play.tick ≠ .shows node after)
    (goesOn : ∀ after, play.tick ≠ .goesOn after) : play.tick.after.Over := by
  obtain ⟨bodies, ended⟩ := ended_of_tick play shows goesOn
  obtain ⟨label, out | lost⟩ := tick_of_ended bodies ended
  · rw [out]
    exact over_finish play
  · rw [lost]
    exact over_finish _

theorem standing_of_goesOn {play after : Playthrough} (ticked : play.tick = .goesOn after) :
    after.standing = play.standing := by
  cases reached : play.node? with
  | some node =>
      rw [tick_of_node reached] at ticked
      cases node with
      | dialogue | command | menu => simp [execute] at ticked
      | assignment expression line =>
          obtain rfl := Tick.goesOn.inj ticked
          rw [standing_advance, standing_assign]
      | character name profile =>
          obtain rfl := Tick.goesOn.inj ticked
          rw [standing_advance]
          rfl
      | guarded condition body line =>
          obtain rfl := Tick.goesOn.inj ticked
          exact standing_judgeGuard play condition body
      | jump target line =>
          obtain rfl := Tick.goesOn.inj ticked
          rfl
  | none =>
      cases bodies : play.bodies with
      | cons frame outer =>
          rw [tick_of_exhausted bodies reached] at ticked
          obtain rfl := Tick.goesOn.inj ticked
          rfl
      | nil =>
          obtain ⟨label, out | lost⟩ := tick_of_ended bodies reached
          · rw [out] at ticked
            contradiction
          · rw [lost] at ticked
            contradiction

theorem node?_of_shows {play after : Playthrough} {node : Node}
    (ticked : play.tick = .shows node after) :
    play.node? = some node ∧ play.execute node = .shows node after := by
  cases reached : play.node? with
  | some other =>
      rw [tick_of_node reached] at ticked
      cases other with
      | dialogue | command | menu =>
          obtain ⟨rfl, rfl⟩ := Tick.shows.inj ticked
          exact ⟨rfl, rfl⟩
      | assignment | character | guarded | jump => simp [execute] at ticked
  | none =>
      cases bodies : play.bodies with
      | cons frame outer =>
          rw [tick_of_exhausted bodies reached] at ticked
          contradiction
      | nil =>
          obtain ⟨label, out | lost⟩ := tick_of_ended bodies reached
          · rw [out] at ticked
            contradiction
          · rw [lost] at ticked
            contradiction

structure Setting where
  story : Story
  startLabel : String
  silentBound : Nat

def setting (play : Playthrough) : Setting :=
  ⟨play.story, play.world.startLabel, play.silentBound⟩

theorem setting_of_standing {play after : Playthrough} (same : after.standing = play.standing) :
    after.setting = play.setting := by
  injection same with story startLabel _ _ silentBound _
  simp only [setting, story, startLabel, silentBound]

theorem setting_tick (play : Playthrough) : play.tick.after.setting = play.setting := by
  refine tick_cases (motive := fun tick => tick.after.setting = play.setting) play
    ?takes ?leaves ?runsOut ?isLost
  case takes =>
    intro node reached
    cases node with
    | dialogue | command => exact setting_of_standing (standing_advance play)
    | menu => rfl
    | assignment | character | guarded | jump =>
        exact setting_of_standing (standing_of_goesOn (tick_of_node reached))
  case leaves | runsOut | isLost =>
    intros
    rfl

/-! An option can be chosen exactly when the menu has it. -/

theorem choose?_of_offered {play : Playthrough} {choices : List Choice} {index : Nat}
    (asked : play.menu = some choices) (bound : index < choices.length) :
    play.choose? index = some (play.select choices[index].target) := by
  simp [choose?, asked, bound]

theorem choose?_eq_none_iff (play : Playthrough) (index : Nat) :
    play.choose? index = none ↔
      play.menu = none ∨ ∃ choices, play.menu = some choices ∧ choices.length ≤ index := by
  cases asked : play.menu with
  | none => simp [choose?, asked]
  | some choices =>
      cases offered : choices[index]? with
      | none => simp [choose?, asked, List.getElem?_eq_none_iff.mp offered]
      | some choice =>
          obtain ⟨bound, _⟩ := List.getElem?_eq_some_iff.mp offered
          simp [choose?, asked, bound]

theorem choose?_eq_some {play after : Playthrough} {index : Nat}
    (chosen : play.choose? index = some after) :
    ∃ choices choice, play.menu = some choices ∧ choices[index]? = some choice ∧
      after = play.select choice.target := by
  simp only [choose?, Option.bind_eq_bind, Option.bind_eq_some_iff, Option.pure_def,
    Option.some.injEq] at chosen
  obtain ⟨choices, asked, choice, offered, same⟩ := chosen
  exact ⟨choices, choice, asked, offered, same.symm⟩

/-! A run is one tick after another, so what the ticks keep holds when the run ends. -/

/-- `during` is kept by the ticks that go on, and `ended` follows from it where a run ends: at a tick
that does not go on, or when the bound is reached. -/
theorem run_ended {during ended : Playthrough → Prop}
    (goesOn : ∀ play after, during play → play.tick = .goesOn after → during after)
    (ends : ∀ play, during play → (∀ after, play.tick ≠ .goesOn after) → ended play.tick.after)
    (bounded : ∀ play complaint, during play → ended (play.complain complaint).finish)
    (count : Nat) (play : Playthrough) (holds : during play) : ended (play.run count).2 := by
  induction count generalizing play with
  | zero => exact bounded play _ holds
  | succ count ih =>
      rw [run]
      cases ticked : play.tick with
      | goesOn after => exact ih after (goesOn play after holds ticked)
      | shows node after =>
          have last := ends play holds (by simp [ticked])
          rwa [ticked] at last
      | runsOut label after =>
          have last := ends play holds (by simp [ticked])
          rwa [ticked] at last
      | isLost label after =>
          have last := ends play holds (by simp [ticked])
          rwa [ticked] at last

/-- A node that a run shows is shown by its last tick, before which only nodes have been taken that
go on. -/
theorem last_of_run {during : Playthrough → Prop}
    (goesOn : ∀ play after, during play → play.tick = .goesOn after → during after)
    {count : Nat} {play after : Playthrough} {node : Node} (holds : during play)
    (ran : play.run count = (some node, after)) :
    ∃ last, during last ∧ last.tick = .shows node after := by
  induction count generalizing play with
  | zero => exact absurd (congrArg Prod.fst ran) nofun
  | succ count ih =>
      rw [run] at ran
      cases ticked : play.tick with
      | goesOn next =>
          rw [ticked] at ran
          exact ih (goesOn play next holds ticked) ran
      | shows shown next =>
          rw [ticked] at ran
          obtain ⟨same, rfl⟩ := Prod.mk.inj ran
          obtain rfl := Option.some.inj same
          exact ⟨play, holds, ticked⟩
      | runsOut | isLost =>
          rw [ticked] at ran
          exact absurd (congrArg Prod.fst ran) nofun

theorem over_of_run {count : Nat} {play : Playthrough} (nothing : (play.run count).1 = none) :
    (play.run count).2.Over := by
  induction count generalizing play with
  | zero => exact over_finish _
  | succ count ih =>
      rw [run] at nothing ⊢
      cases ticked : play.tick with
      | goesOn next =>
          rw [ticked] at nothing
          exact ih nothing
      | shows shown next =>
          rw [ticked] at nothing
          contradiction
      | runsOut label next | isLost label next =>
          have last := over_of_tick play (by simp [ticked]) (by simp [ticked])
          rwa [ticked] at last

theorem over_of_step {play after : Playthrough} (running : play.phase = .running)
    (stepped : play.step = (none, after)) : after.Over := by
  simp only [step, running] at stepped
  have ended := @over_of_run play.silentBound play (by rw [stepped])
  rwa [stepped] at ended

theorem finished_of_step {play after : Playthrough} (running : play.phase = .running)
    (stepped : play.step = (none, after)) : after.phase = .finished :=
  (over_of_step running stepped).phase

theorem running_of_step {play after : Playthrough} {node : Node} (running : play.phase = .running)
    (stepped : play.step = (some node, after)) :
    node.isShown = true ∧ after.phase = .running := by
  simp only [step, running] at stepped
  obtain ⟨last, phase, ticked⟩ := @last_of_run (fun during => during.phase = .running) (by
    intro during next before ticked
    exact (congrArg Standing.phase (standing_of_goesOn ticked)).trans before)
    _ play after node running stepped
  have executed := (node?_of_shows ticked).2
  cases node with
  | dialogue | command =>
      obtain ⟨_, rfl⟩ := Tick.shows.inj executed
      exact ⟨rfl, (congrArg Standing.phase (standing_advance last)).trans phase⟩
  | menu choices line =>
      obtain ⟨_, rfl⟩ := Tick.shows.inj executed
      exact ⟨rfl, phase⟩
  | assignment | character | guarded | jump => simp [execute] at executed

theorem waits_of_step {play after : Playthrough} {choices : List Choice} {line : Nat}
    (running : play.phase = .running)
    (stepped : play.step = (some (.menu choices line), after)) :
    after.menu = some choices ∧ after.node? = some (.menu choices line) := by
  simp only [step, running] at stepped
  obtain ⟨last, _, ticked⟩ :=
    @last_of_run (fun _ => True) (fun _ _ _ _ => trivial) _ _ _ _ trivial stepped
  obtain ⟨reached, executed⟩ := node?_of_shows ticked
  obtain ⟨_, rfl⟩ := Tick.shows.inj executed
  exact ⟨rfl, reached⟩

theorem step_of_waiting {play : Playthrough} {choices : List Choice} {line : Nat}
    (bounded : 0 < play.silentBound) (running : play.phase = .running)
    (asked : play.menu = some choices) (reached : play.node? = some (.menu choices line)) :
    play.step = (some (.menu choices line), play) := by
  have ticked : play.tick = .shows (.menu choices line) play := by
    rw [tick_of_node reached, execute, ← asked]
  obtain ⟨count, bound⟩ := Nat.exists_eq_add_of_lt bounded
  simp only [step, running, bound, Nat.zero_add, run, ticked]

theorem over_of_stop {play : Playthrough} (running : play.phase = .running) : play.stop.Over := by
  simp only [stop, isRunning, running, beq_self_eq_true, if_true]
  exact over_finish play

theorem finished_of_stop {play : Playthrough} (running : play.phase = .running) :
    play.stop.phase = .finished :=
  (over_of_stop running).phase

theorem setting_step (play : Playthrough) : play.step.2.setting = play.setting := by
  unfold step
  split
  · rfl
  · rfl
  · apply @run_ended (fun during => during.setting = play.setting)
      (fun ended => ended.setting = play.setting) _ _ _ _ play rfl
    · intro during after same ticked
      exact (setting_of_standing (standing_of_goesOn ticked)).trans same
    · intro during same last
      exact (setting_tick during).trans same
    · intro during complaint same
      exact same

theorem setting_stop (play : Playthrough) : play.stop.setting = play.setting := by
  unfold stop
  split
  · rfl
  · rfl

theorem setting_perform (play : Playthrough) (operation : Operation) :
    (play.perform operation).2.setting = play.setting := by
  cases operation with
  | step => exact setting_step play
  | choose index =>
      simp only [perform]
      split
      next after chosen =>
        obtain ⟨choices, choice, _, _, rfl⟩ := choose?_eq_some chosen
        rfl
      next => rfl
  | stop => exact setting_stop play
  | start | select | reset | amend => rfl

theorem after_keeps (holds : Playthrough → Prop)
    (keeps : ∀ play operation, holds play → holds (play.perform operation).2) {play : Playthrough}
    (before : holds play) (operations : List Operation) : holds (play.after operations) := by
  induction operations generalizing play with
  | nil => exact before
  | cons operation rest ih => exact ih (keeps play operation before)

theorem setting_after (play : Playthrough) (operations : List Operation) :
    (play.after operations).setting = play.setting :=
  after_keeps (fun after => after.setting = play.setting)
    (fun after operation same => (after.setting_perform operation).trans same) rfl operations

end Playthrough

end StoryScript
