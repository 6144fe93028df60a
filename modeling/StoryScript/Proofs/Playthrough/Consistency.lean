import StoryScript.Proofs.Playthrough.Operation

/-!
Bodies are open and a menu is put to the reader only while the story is running, and the menu is
always that of the node that has been reached.
-/

namespace StoryScript.Playthrough

structure Consistent (play : Playthrough) : Prop where
  bounded : 0 < play.silentBound
  bodiesRunning : play.bodies ≠ [] → play.phase = .running
  menuRunning : play.menu ≠ none → play.phase = .running
  menuReached : ∀ choices, play.menu = some choices →
    ∃ line, play.node? = some (.menu choices line)

theorem consistent_of_closed {play : Playthrough} (bounded : 0 < play.silentBound)
    (bodies : play.bodies = []) (menu : play.menu = none) : play.Consistent where
  bounded := bounded
  bodiesRunning opened := (opened bodies).elim
  menuRunning asked := (asked menu).elim
  menuReached choices asked := by simp [menu] at asked

theorem consistent_of_running {play : Playthrough} (bounded : 0 < play.silentBound)
    (running : play.phase = .running) (menu : play.menu = none) : play.Consistent where
  bounded := bounded
  bodiesRunning _ := running
  menuRunning _ := running
  menuReached choices asked := by simp [menu] at asked

theorem consistent_new (story : Story) (world : World) (settings : PlaySettings) :
    (new story world settings).Consistent :=
  consistent_of_closed (Nat.le_max_right _ _) rfl rfl

theorem step_of_menu {play : Playthrough} (consistent : play.Consistent) {choices : List Choice}
    (asked : play.menu = some choices) :
    ∃ line, play.node? = some (.menu choices line) ∧
      play.step = (some (.menu choices line), play) := by
  obtain ⟨line, reached⟩ := consistent.menuReached choices asked
  have running : play.phase = .running := consistent.menuRunning (by simp [asked])
  exact ⟨line, reached, step_of_waiting consistent.bounded running asked reached⟩

theorem consistent_finish {play : Playthrough} (bounded : 0 < play.silentBound) :
    play.finish.Consistent :=
  consistent_of_closed bounded rfl rfl

/-- What holds between the nodes of a step: the story is running, and nothing has been asked. -/
structure Silent (play : Playthrough) : Prop where
  bounded : 0 < play.silentBound
  running : play.phase = .running
  menu : play.menu = none

theorem silent_of_standing {play after : Playthrough} (silent : play.Silent)
    (same : after.standing = play.standing) : after.Silent := by
  injection same with _ _ phase menu bound _
  exact ⟨bound ▸ silent.bounded, phase.trans silent.running, menu.trans silent.menu⟩

theorem Silent.consistent {play : Playthrough} (silent : play.Silent) : play.Consistent :=
  consistent_of_running silent.bounded silent.running silent.menu

theorem consistent_of_last {play : Playthrough} (silent : play.Silent)
    (last : ∀ after, play.tick ≠ .goesOn after) : play.tick.after.Consistent := by
  cases reached : play.node? with
  | some node =>
      rw [tick_of_node reached] at last ⊢
      cases node with
      | dialogue | command =>
          exact (silent_of_standing silent (standing_advance play)).consistent
      | menu choices line =>
          refine ⟨silent.bounded, fun _ => silent.running, fun _ => silent.running, ?_⟩
          intro asked same
          obtain rfl := Option.some.inj same
          exact ⟨line, reached⟩
      | assignment | character | guarded | jump => exact (last _ rfl).elim
  | none =>
      cases bodies : play.bodies with
      | cons frame outer => exact (last _ (tick_of_exhausted bodies reached)).elim
      | nil =>
          obtain ⟨label, out | lost⟩ := tick_of_ended bodies reached
          · rw [out]
            exact consistent_finish silent.bounded
          · rw [lost]
            exact consistent_finish silent.bounded

theorem consistent_run {play : Playthrough} (silent : play.Silent) (count : Nat) :
    (play.run count).2.Consistent := by
  apply @run_ended Silent Consistent _ _ _ count play silent
  · intro play after silent ticked
    exact silent_of_standing silent (standing_of_goesOn ticked)
  · intro play silent last
    exact consistent_of_last silent last
  · intro play complaint silent
    exact consistent_finish silent.bounded

theorem consistent_step {play : Playthrough} (consistent : play.Consistent) :
    play.step.2.Consistent := by
  cases asked : play.menu with
  | some choices =>
      obtain ⟨line, _, stepped⟩ := step_of_menu consistent asked
      rw [stepped]
      exact consistent
  | none =>
      unfold step
      split
      · exact ⟨consistent.bounded, consistent.bodiesRunning, consistent.menuRunning,
          consistent.menuReached⟩
      · exact consistent
      next running => exact consistent_run ⟨consistent.bounded, running, asked⟩ _

theorem consistent_select {play : Playthrough} (consistent : play.Consistent) (target : String) :
    (play.select target).Consistent :=
  consistent_of_closed consistent.bounded rfl rfl

theorem consistent_stop {play : Playthrough} (consistent : play.Consistent) :
    play.stop.Consistent := by
  unfold stop
  split
  · exact consistent_finish consistent.bounded
  · exact consistent

theorem consistent_amend {play : Playthrough} (consistent : play.Consistent) (scene : Scene) :
    ({ play with world := play.world.amend scene } : Playthrough).Consistent :=
  ⟨consistent.bounded, consistent.bodiesRunning, consistent.menuRunning, consistent.menuReached⟩

theorem consistent_perform {play : Playthrough} (consistent : play.Consistent)
    (operation : Operation) : (play.perform operation).2.Consistent := by
  cases operation with
  | start => exact consistent_of_running consistent.bounded rfl rfl
  | step => exact consistent_step consistent
  | select target => exact consistent_select consistent target
  | choose index =>
      simp only [perform]
      split
      next after chosen =>
        obtain ⟨choices, choice, _, _, rfl⟩ := choose?_eq_some chosen
        exact consistent_select consistent choice.target
      next => exact consistent
  | stop => exact consistent_stop consistent
  | reset => exact consistent_of_closed consistent.bounded rfl rfl
  | amend scene => exact consistent_amend consistent scene

theorem consistent_after {play : Playthrough} (consistent : play.Consistent)
    (operations : List Operation) : (play.after operations).Consistent :=
  after_keeps Consistent (fun _ operation before => consistent_perform before operation) consistent
    operations

theorem perform_choose_refused_iff (play : Playthrough) (index : Nat) :
    (play.perform (.choose index)).1 = .chosen false ↔
      play.menu = none ∨ ∃ choices, play.menu = some choices ∧ choices.length ≤ index := by
  rw [← choose?_eq_none_iff]
  simp only [perform]
  split
  next after chosen => simp [chosen]
  next refused => simp [refused]

theorem finished_perform {play : Playthrough} (finished : play.phase = .finished)
    {operation : Operation} (notStart : operation ≠ .start) (notReset : operation ≠ .reset) :
    (play.perform operation).2.phase = .finished := by
  cases operation with
  | start => contradiction
  | reset => contradiction
  | step => simp [perform, step, finished]
  | select target => exact finished
  | choose index =>
      simp only [perform]
      split
      next after chosen =>
        obtain ⟨choices, choice, _, _, rfl⟩ := choose?_eq_some chosen
        exact finished
      next => exact finished
  | stop => simp [perform, stop, isRunning, finished]
  | amend scene => exact finished

/-- After any operations: something is open only while the story is running; the menu is that of the
reached node, and steps only show it again; an option is refused, which changes nothing, exactly when
the menu does not have it, and leads to its target otherwise; and a finished story shows nothing and
stays finished until it is started or reset. -/
theorem operations_consistent (story : Story) (world : World) (settings : PlaySettings)
    (operations : List Operation) :
    let play := (new story world settings).after operations
    (play.bodies ≠ [] ∨ play.menu ≠ none → play.phase = .running) ∧
      (∀ choices, play.menu = some choices → ∃ line,
        play.node? = some (.menu choices line) ∧
          play.step = (some (.menu choices line), play)) ∧
      (∀ index,
        ((play.perform (.choose index)).1 = .chosen false ↔
          play.menu = none ∨ ∃ choices, play.menu = some choices ∧ choices.length ≤ index) ∧
        ((play.perform (.choose index)).1 = .chosen false →
          (play.perform (.choose index)).2 = play) ∧
        (∀ choices, play.menu = some choices → ∀ bound : index < choices.length,
          play.perform (.choose index) = (.chosen true, play.select choices[index].target))) ∧
      (play.phase = .finished →
        play.step = (none, play) ∧
          ∀ operation, operation ≠ .start → operation ≠ .reset →
            (play.perform operation).2.phase = .finished) := by
  intro play
  have consistent : play.Consistent := consistent_after (consistent_new story world settings) _
  refine ⟨?_, ?_, ?_, ?_⟩
  · rintro (opened | asked)
    · exact consistent.bodiesRunning opened
    · exact consistent.menuRunning asked
  · intro choices asked
    exact step_of_menu consistent asked
  · intro index
    refine ⟨perform_choose_refused_iff play index, ?_, ?_⟩
    · intro refused
      have none := (choose?_eq_none_iff play index).mpr
        ((perform_choose_refused_iff play index).mp refused)
      simp only [perform, none]
    · intro choices asked bound
      simp only [perform, choose?_of_offered asked bound]
  · intro finished
    refine ⟨by simp only [step, finished], ?_⟩
    intro operation notStart notReset
    exact finished_perform finished notStart notReset

end StoryScript.Playthrough
