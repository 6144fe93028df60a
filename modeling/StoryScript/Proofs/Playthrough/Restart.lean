import StoryScript.Proofs.Playthrough.Agreement
import StoryScript.Proofs.Playthrough.Bodies
import StoryScript.Proofs.Story.Shape
import StoryScript.Script

/-!
A playthrough that is reset and started again is played as a new one, whatever has happened to it
before.
-/

namespace StoryScript

theorem World.cast_assign (world : World) (expression : String) :
    (world.assign expression).cast = world.cast := by
  unfold assign
  split
  · rfl
  · rfl

theorem World.contains_registerAll (world : World) (cast : Table Profile) (name : String) :
    (world.registerAll cast).cast.contains name = true ↔
      cast.contains name = true ∨ world.cast.contains name = true := by
  simp only [registerAll, Table.contains, Table.get?_override, Table.get?_map, Option.isSome_or,
    Option.isSome_map, Bool.or_eq_true]

namespace Playthrough

/-- Playthroughs that differ in their own complaints alone, which nothing depends on. -/
inductive SameTale : Playthrough → Playthrough → Prop
  | intro {play : Playthrough} {diagnostics : Diagnostics} :
      SameTale play { play with diagnostics }

namespace SameTale

variable {left right : Playthrough} (same : SameTale left right)
include same

theorem advance : SameTale left.advance right.advance := by
  cases same with
  | intro =>
      unfold Playthrough.advance
      cases left.bodies with
      | nil => exact .intro
      | cons frame outer => exact .intro

theorem enter (body : List Node) : SameTale (left.enter body) (right.enter body) := by
  have advanced := same.advance
  unfold Playthrough.enter
  split
  · cases same with
    | intro => exact .intro
  · generalize left.advance = one at advanced
    generalize right.advance = other at advanced
    cases advanced with
    | intro => exact .intro

theorem judgeGuard (condition : String) (body : List Node) :
    SameTale (left.judgeGuard condition body) (right.judgeGuard condition body) := by
  cases same with
  | intro =>
      simp only [Playthrough.judgeGuard]
      split
      · exact SameTale.intro.enter body
      · exact SameTale.intro.advance

theorem execute (node : Node) : Tick.Lifts SameTale (left.execute node) (right.execute node) := by
  cases node with
  | dialogue | command => exact .shows same.advance
  | menu choices line =>
      cases same with
      | intro => exact .shows .intro
  | assignment | character =>
      cases same with
      | intro => exact .goesOn SameTale.intro.advance
  | guarded condition body line => exact .goesOn (same.judgeGuard condition body)
  | jump target line =>
      cases same with
      | intro => exact .goesOn .intro

theorem tick : Tick.Lifts SameTale left.tick right.tick := by
  have executed := same.execute
  cases same with
  | intro =>
      obtain ⟨story, world, bodies, phase, menu, bound, complaints⟩ := left
      unfold Playthrough.tick
      cases bodies with
      | cons frame outer =>
          dsimp only
          cases frame.body[frame.next]? with
          | some node => exact executed node
          | none => exact .goesOn .intro
      | nil =>
          dsimp only
          cases story.labels.get? world.position.label with
          | none => exact .isLost .intro
          | some nodes =>
              dsimp only
              cases nodes[world.position.index]? with
              | some node => exact executed node
              | none => exact .runsOut .intro

end SameTale

theorem alike_sameTale : Alike SameTale where
  tick := SameTale.tick
  appearance same := by cases same; rfl
  silentBound same := by cases same; rfl
  complain complaint same := by cases same; exact .intro
  finish same := by cases same; exact .intro
  start same := by cases same; exact .intro
  select target same := by cases same; exact .intro
  reset same := by cases same; exact .intro
  amend scene same := by cases same; exact .intro

theorem cast_judgeGuard (play : Playthrough) (condition : String) (body : List Node) :
    (play.judgeGuard condition body).world.cast = play.world.cast := by
  simp only [judgeGuard]
  split
  · exact congrArg Scene.cast (scene_enter _ body)
  · exact congrArg Scene.cast (scene_advance _)

theorem cast_tick {play : Playthrough}
    (other : ∀ name profile, play.node? ≠ some (.character name profile)) :
    play.tick.after.world.cast = play.world.cast := by
  refine tick_cases (motive := fun tick => tick.after.world.cast = play.world.cast) play
    ?takes ?leaves ?runsOut ?isLost
  case takes =>
    intro node reached
    cases node with
    | dialogue | command => exact congrArg Scene.cast (scene_advance play)
    | menu | jump => rfl
    | assignment expression line =>
        exact (congrArg Scene.cast (scene_advance _)).trans (play.world.cast_assign expression)
    | guarded condition body line => exact cast_judgeGuard play condition body
    | character name profile => exact absurd reached (other name profile)
  case leaves | runsOut | isLost =>
    intros
    rfl

structure IsHome (origin : Setting) (play : Playthrough) : Prop where
  setting : play.setting = origin
  bodies : Throughout Node.IsRegular play.opened
  cast : ∀ name, play.world.cast.contains name = true → origin.story.cast.contains name = true

end Playthrough

/-- Whether a happening registers nobody from outside, and leaves the start where it is. -/
def Happening.IsOwn : Happening → Prop
  | .asked (.amend _) => False
  | .asked _ => True
  | .changed change => ∀ world : World,
      (change world).startLabel = world.startLabel ∧ (change world).cast = world.cast
  | .heard => True

namespace Playthrough.IsHome

variable {origin : Setting} (regular : ∀ part ∈ origin.story.parts, part.IsRegular)
  {play : Playthrough} (home : play.IsHome origin)
include regular home

theorem cast_step : play.step.2.world.cast = play.world.cast := by
  have keeps := Story.keeps_throughout regular
  unfold step
  split
  · rfl
  · rfl
  · have noCharacter : ∀ during : Playthrough, during.story = origin.story →
        Throughout Node.IsRegular during.opened →
        during.tick.after.world.cast = during.world.cast := by
      intro during story bodies
      apply cast_tick
      intro name profile reached
      exact Story.parts_of_node? regular story bodies reached _ (Node.mem_parts _)
    -- The story and the bodies are carried along, as they say which nodes a tick can take.
    apply @run_ended
      (fun during => during.story = origin.story ∧ Throughout Node.IsRegular during.opened ∧
        during.world.cast = play.world.cast)
      (fun ended => ended.world.cast = play.world.cast) _ _ _ _ play
      ⟨congrArg Setting.story home.setting, home.bodies, rfl⟩
    · rintro during after ⟨story, bodies, cast⟩ ticked
      have same := noCharacter during story bodies
      rw [ticked] at same
      obtain ⟨sameStory, shifted⟩ := keeps.goesOn story bodies ticked
      exact ⟨sameStory, shifted, same.trans cast⟩
    · rintro during ⟨story, bodies, cast⟩ _
      exact (noCharacter during story bodies).trans cast
    · rintro during complaint ⟨_, _, cast⟩
      exact cast

theorem perform {operation : Operation} (own : (Happening.asked operation).IsOwn) :
    (play.perform operation).2.IsHome origin where
  setting := (play.setting_perform operation).trans home.setting
  bodies := (Story.keeps_throughout regular).perform (congrArg Setting.story home.setting)
    home.bodies operation
  cast := by
    intro name found
    have known := home.cast name
    cases operation with
    | step =>
        apply known
        rwa [← home.cast_step regular]
    | start =>
        have found : (play.world.registerAll play.story.cast).cast.contains name = true := found
        rw [← home.setting]
        rcases (World.contains_registerAll ..).mp found with late | early
        · exact late
        · exact home.setting ▸ known early
    | select | reset => exact known found
    | stop =>
        simp only [Playthrough.perform, Playthrough.stop] at found
        split at found
        · exact known found
        · exact known found
    | choose index =>
        simp only [Playthrough.perform] at found
        split at found
        next after chosen =>
          obtain ⟨choices, choice, _, _, rfl⟩ := choose?_eq_some chosen
          exact known found
        next => exact known found
    | amend scene => exact own.elim

theorem undergo {happening : Happening} (own : happening.IsOwn) :
    (play.undergo happening).IsHome origin := by
  cases happening with
  | asked operation => exact home.perform regular own
  | changed change =>
      obtain ⟨startLabel, cast⟩ := own play.world
      have setting := congrArg (Setting.mk play.story · play.silentBound) startLabel
      refine ⟨setting.trans home.setting, home.bodies, ?_⟩
      intro name found
      exact home.cast name (cast ▸ found)
  | heard => exact ⟨home.setting, home.bodies, home.cast⟩

theorem following {history : List Happening} (own : ∀ happening ∈ history, happening.IsOwn) :
    (play.following history).IsHome origin := by
  induction history generalizing play with
  | nil => exact home
  | cons happening rest ih =>
      obtain ⟨first, later⟩ := List.forall_mem_cons.mp own
      exact ih (home.undergo regular first) later

end Playthrough.IsHome

namespace Playthrough

variable {story : Story} {label : String} {settings : PlaySettings} {play : Playthrough}

theorem agrees_restarted {world : World} (startLabel : world.startLabel = label)
    (known : ∀ name, world.cast.contains name = true → story.cast.contains name = true) :
    ((world.reset.jump world.startLabel).registerAll story.cast).Agrees (fun _ => True)
      (((World.startingAt label).jump label).registerAll story.cast) := by
  refine World.agrees_registerAll startLabel (congrArg (Position.mk · 0) startLabel) rfl ?_
  intro character key _
  cases own : story.cast.contains character with
  | true => exact .inl rfl
  | false =>
      right
      cases met : world.cast.get? character with
      | none =>
          have unmet : world.attribute? character key = none := by simp [World.attribute?, met]
          exact unmet
      | some attributes =>
          have isKnown := known character (by simp [Table.contains, met])
          rw [own] at isKnown
          contradiction

theorem exists_restarted (home : play.IsHome (new story (World.startingAt label) settings).setting) :
    ∃ middle, SameTale play.reset.start middle ∧
      Agrees (fun _ => True) middle (new story (World.startingAt label) settings).start := by
  obtain ⟨playStory, world, bodies, phase, menu, bound, diagnostics⟩ := play
  obtain ⟨setting, _, known⟩ := home
  simp only [Playthrough.setting, new, Setting.mk.injEq] at setting
  obtain ⟨rfl, startLabel, rfl⟩ := setting
  -- In the middle stands the old playthrough without its complaints.
  refine ⟨_, .intro, .intro (agrees_restarted startLabel known) ⟨?_, ?_⟩⟩
  · exact fun _ _ => trivial
  · exact fun _ _ _ _ => trivial

theorem restarted_as_new (regular : ∀ part ∈ story.parts, part.IsRegular)
    {history : List Happening} (own : ∀ happening ∈ history, happening.IsOwn)
    (operations : List Operation) :
    let fresh := new story (World.startingAt label) settings
    let restarted := (fresh.following history).reset.start.after operations
    let started := fresh.start.after operations
    restarted.appearance = started.appearance ∧
      ∀ operation, (restarted.perform operation).1 = (started.perform operation).1 := by
  intro fresh restarted started
  have newHome : fresh.IsHome fresh.setting := ⟨rfl, nofun, nofun⟩
  obtain ⟨middle, tale, agrees⟩ := exists_restarted (newHome.following regular own)
  have first := alike_sameTale.after operations tale
  have alike := alike_agrees fun _ => True
  have second := alike.after operations agrees
  constructor
  · exact (alike_sameTale.appearance first).trans (alike.appearance second)
  · intro operation
    exact (alike_sameTale.perform operation first).1.trans (alike.perform operation second).1

end Playthrough

/-- A playthrough of a text that is reset and started is played on as a new one, whatever it has been
through, as long as nobody has been registered in its world from outside. -/
theorem Story.played_anew (source label : String) (settings : PlaySettings)
    (history : List Happening) (own : ∀ happening ∈ history, happening.IsOwn)
    (operations : List Operation) :
    let fresh := Playthrough.new (Script.ofText source).story (World.startingAt label) settings
    let restarted := (fresh.following history).reset.start.after operations
    let started := fresh.start.after operations
    restarted.appearance = started.appearance ∧
      ∀ operation, (restarted.perform operation).1 = (started.perform operation).1 :=
  Playthrough.restarted_as_new (isRegular_ofTokens (TokenStream.ofText source).tokens) own operations

def tollScript : String :=
  "@char Ferryman\n  mood: grim\n== Start ==\n~ mood = Ferryman.mood\n{ mood == grim }\n" ++
    "Ferryman \"Your coin.\"\n* Pay -> Shore\n* Swim -> Start\n" ++
    "== Shore ==\nFerryman \"Mind the step.\""

theorem tollScript_anew :
    let fresh := Playthrough.new (Script.ofText tollScript).story (World.startingAt "Start") {}
    let history := [.changed (·.set "coins" (.text "three")), .asked .start, .asked .step,
      .changed (·.set "mood" (.text "merry")), .heard, .asked .step]
    let left := fresh.following history
    let restarted := left.reset.start.after [.step, .step, .choose 0]
    let started := fresh.start.after [.step, .step, .choose 0]
    (∀ happening ∈ history, happening.IsOwn) ∧ left.depth = 1 ∧ left.menu.isSome = true ∧
      restarted.appearance = started.appearance ∧
      (restarted.perform .step).1 = (started.perform .step).1 := by
  intro fresh history left restarted started
  have own : ∀ happening ∈ history, happening.IsOwn := by
    simp [history, Happening.IsOwn, World.set]
  have place : left.depth = 1 ∧ left.menu.isSome = true := by decide +kernel
  obtain ⟨appearance, replies⟩ :=
    Story.played_anew tollScript "Start" {} history own [.step, .step, .choose 0]
  exact ⟨own, place.1, place.2, appearance, replies .step⟩

end StoryScript
