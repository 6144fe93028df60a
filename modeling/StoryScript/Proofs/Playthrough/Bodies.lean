import StoryScript.Proofs.Playthrough.Operation
import StoryScript.Proofs.Story.Parts

/-!
What becomes of the open bodies while a story is played, whatever is done to its world from outside,
and what therefore holds of all nodes that can be reached.
-/

namespace StoryScript

namespace Playthrough

def opened (play : Playthrough) : List (List Node) :=
  play.bodies.map (·.body)

inductive Shift (play : Playthrough) : List (List Node) → Prop
  | stays : Shift play play.opened
  | leaves {body outer} : play.opened = body :: outer → Shift play outer
  | closes : Shift play []
  | enters {condition body line} : play.node? = some (.guarded condition body line) →
      Shift play (body :: play.opened)

theorem opened_advance (play : Playthrough) : play.advance.opened = play.opened := by
  unfold advance opened
  cases play.bodies with
  | nil => simp
  | cons frame outer => simp

theorem opened_enter (play : Playthrough) (body : List Node) :
    (play.enter body).opened = body :: play.opened := by
  unfold enter
  split
  · rfl
  · exact congrArg (body :: ·) (opened_advance play)

theorem shift_judgeGuard {play : Playthrough} {condition : String} {body : List Node} {line : Nat}
    (reached : play.node? = some (.guarded condition body line)) :
    play.Shift (play.judgeGuard condition body).opened := by
  simp only [judgeGuard]
  split
  · rw [opened_enter]
    exact .enters reached
  · rw [opened_advance]
    exact .stays

theorem shift_execute {play : Playthrough} {node : Node} (reached : play.node? = some node) :
    play.Shift (play.execute node).after.opened := by
  cases node with
  | dialogue | command =>
      have same := opened_advance play
      exact same ▸ .stays
  | menu choices line => exact .stays
  | assignment expression line =>
      have same := opened_advance { play with world := play.world.assign expression }
      exact same ▸ .stays
  | character name profile =>
      have same := opened_advance
        { play with world := play.world.register name profile.attributes }
      exact same ▸ .stays
  | guarded condition body line => exact shift_judgeGuard reached
  | jump target line => exact .closes

theorem shift_tick (play : Playthrough) : play.Shift play.tick.after.opened := by
  refine tick_cases (motive := fun tick => play.Shift tick.after.opened) play
    ?takes ?leaves ?runsOut ?isLost
  case takes =>
    intro node reached
    exact shift_execute reached
  case leaves =>
    intro frame outer bodies _
    apply Shift.leaves
    rw [opened, bodies]
    rfl
  case runsOut | isLost =>
    intro label
    exact .closes

theorem place_of_node? {play : Playthrough} {node : Node} (reached : play.node? = some node) :
    (∃ body outer, play.opened = body :: outer ∧ node ∈ body) ∨
      play.opened = [] ∧ ∃ label nodes, play.story.labels.get? label = some nodes ∧
        node ∈ nodes := by
  unfold node? at reached
  unfold opened
  cases bodies : play.bodies with
  | cons frame outer =>
      simp only [bodies] at reached
      exact Or.inl ⟨frame.body, _, rfl, List.mem_of_getElem? reached⟩
  | nil =>
      simp only [bodies] at reached
      obtain ⟨nodes, found, atIndex⟩ := Option.bind_eq_some_iff.mp reached
      exact Or.inr ⟨rfl, _, nodes, found, List.mem_of_getElem? atIndex⟩

end Playthrough

/-- A property that the open bodies of a story keep, tick by tick. -/
structure Story.Keeps (story : Story) (holds : List (List Node) → Prop) : Prop where
  closed : holds []
  shift : ∀ (play : Playthrough) bodies, play.story = story → holds play.opened →
    play.Shift bodies → holds bodies

namespace Story.Keeps

variable {story : Story} {holds : List (List Node) → Prop} (keeps : story.Keeps holds)
include keeps

theorem goesOn {play after : Playthrough} (same : play.story = story) (before : holds play.opened)
    (ticked : play.tick = .goesOn after) : after.story = story ∧ holds after.opened := by
  have standing := Playthrough.standing_of_goesOn ticked
  have shift := play.shift_tick
  rw [ticked] at shift
  exact ⟨(congrArg Playthrough.Standing.story standing).trans same,
    keeps.shift play _ same before shift⟩

theorem step {play : Playthrough} (same : play.story = story) (before : holds play.opened) :
    holds play.step.2.opened := by
  unfold Playthrough.step
  split
  · exact before
  · exact before
  · apply @Playthrough.run_ended (fun during => during.story = story ∧ holds during.opened)
      (fun ended => holds ended.opened) _ _ _ _ play ⟨same, before⟩
    · rintro during after ⟨same, before⟩ ticked
      exact keeps.goesOn same before ticked
    · rintro during ⟨same, before⟩ _
      exact keeps.shift during _ same before during.shift_tick
    · intro _ _ _
      exact keeps.closed

theorem perform {play : Playthrough} (same : play.story = story) (before : holds play.opened)
    (operation : Operation) : holds (play.perform operation).2.opened := by
  cases operation with
  | start | select | reset => exact keeps.closed
  | step => exact keeps.step same before
  | choose index =>
      simp only [Playthrough.perform]
      split
      next after chosen =>
        obtain ⟨choices, choice, _, _, rfl⟩ := Playthrough.choose?_eq_some chosen
        exact keeps.closed
      next => exact before
  | stop =>
      simp only [Playthrough.perform, Playthrough.stop]
      split
      · exact keeps.closed
      · exact before
  | amend scene => exact before

end Story.Keeps

def Playthrough.Throughout (holds : Node → Prop) (opened : List (List Node)) : Prop :=
  ∀ body ∈ opened, ∀ part ∈ Node.partsOf body, holds part

section

variable {story : Story} {holds : Node → Prop} (each : ∀ part ∈ story.parts, holds part)
include each

theorem Story.parts_of_node? {play : Playthrough} {node : Node} (same : play.story = story)
    (throughout : Playthrough.Throughout holds play.opened) (reached : play.node? = some node) :
    ∀ part ∈ node.parts, holds part := by
  intro part member
  rcases Playthrough.place_of_node? reached with
    ⟨body, outer, opened, inside⟩ | ⟨_, label, nodes, found, inside⟩
  · exact throughout body (by simp [opened]) part (Node.parts_subset inside member)
  · rw [same] at found
    exact each part (Story.partsOf_subset found (Node.parts_subset inside member))

theorem Story.keeps_throughout : story.Keeps (Playthrough.Throughout holds) where
  closed := nofun
  shift play bodies same throughout shift := by
    cases shift with
    | stays => exact throughout
    | closes => exact nofun
    | leaves opened =>
        rw [opened] at throughout
        exact fun body member => throughout body (List.mem_cons_of_mem _ member)
    | @enters condition body line reached =>
        have parts := Story.parts_of_node? each same throughout reached
        refine List.forall_mem_cons.mpr ⟨?_, throughout⟩
        intro part member
        exact parts part (Node.body_parts_subset condition body line member)

end

/-- What happens to a playthrough: an operation, or any change of its world from outside. -/
inductive Happening
  | asked (operation : Operation)
  | changed (change : World → World)
  | heard

namespace Playthrough

def undergo (play : Playthrough) : Happening → Playthrough
  | .asked operation => (play.perform operation).2
  | .changed change => { play with world := change play.world }
  | .heard => { play with diagnostics := play.diagnostics.take.2 }

def following (play : Playthrough) (happenings : List Happening) : Playthrough :=
  happenings.foldl undergo play

theorem story_undergo (play : Playthrough) (happening : Happening) :
    (play.undergo happening).story = play.story := by
  cases happening with
  | asked operation => exact congrArg Setting.story (setting_perform play operation)
  | changed | heard => rfl

theorem silentBound_undergo (play : Playthrough) (happening : Happening) :
    (play.undergo happening).silentBound = play.silentBound := by
  cases happening with
  | asked operation => exact congrArg Setting.silentBound (setting_perform play operation)
  | changed | heard => rfl

theorem silentBound_following (play : Playthrough) (happenings : List Happening) :
    (play.following happenings).silentBound = play.silentBound := by
  induction happenings generalizing play with
  | nil => rfl
  | cons happening rest ih =>
      exact (ih (play.undergo happening)).trans (silentBound_undergo play happening)

end Playthrough

theorem Story.Keeps.following {story : Story} {holds : List (List Node) → Prop}
    (keeps : story.Keeps holds) (play : Playthrough) (same : play.story = story)
    (before : holds play.opened) (happenings : List Happening) :
    holds (play.following happenings).opened := by
  induction happenings generalizing play with
  | nil => exact before
  | cons happening rest ih =>
      apply ih (play.undergo happening) ((play.story_undergo happening).trans same)
      cases happening with
      | asked operation => exact keeps.perform same before operation
      | changed | heard => exact before

end StoryScript
