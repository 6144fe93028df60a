import StoryScript.Proofs.Playthrough.Operation

/-!
Relations of playthroughs that look the same and go on looking the same, whatever is asked of both.
-/

namespace StoryScript

inductive Tick.Lifts (related : Playthrough → Playthrough → Prop) : Tick → Tick → Prop
  | shows {node left right} : related left right →
      Lifts related (.shows node left) (.shows node right)
  | goesOn {left right} : related left right → Lifts related (.goesOn left) (.goesOn right)
  | runsOut {label left right} : related left right →
      Lifts related (.runsOut label left) (.runsOut label right)
  | isLost {label left right} : related left right →
      Lifts related (.isLost label left) (.isLost label right)

namespace Playthrough

structure Appearance where
  phase : Phase
  position : Position
  depth : Nat
  menu : Option (List Choice)
  globals : Table Value

def appearance (play : Playthrough) : Appearance :=
  ⟨play.phase, play.world.position, play.depth, play.menu, play.world.globals⟩

/-- A relation that is kept by all that can be done to two playthroughs alike. -/
structure Alike (related : Playthrough → Playthrough → Prop) : Prop where
  appearance : ∀ {left right}, related left right → left.appearance = right.appearance
  silentBound : ∀ {left right}, related left right → left.silentBound = right.silentBound
  tick : ∀ {left right}, related left right → Tick.Lifts related left.tick right.tick
  complain : ∀ {left right} complaint, related left right →
    related (left.complain complaint) (right.complain complaint)
  finish : ∀ {left right}, related left right → related left.finish right.finish
  start : ∀ {left right}, related left right → related left.start right.start
  select : ∀ {left right} target, related left right →
    related (left.select target) (right.select target)
  reset : ∀ {left right}, related left right → related left.reset right.reset
  amend : ∀ {left right} scene, related left right →
    related { left with world := left.world.amend scene }
      { right with world := right.world.amend scene }

namespace Alike

variable {related : Playthrough → Playthrough → Prop} (alike : Alike related)
  {left right : Playthrough}
include alike

theorem run (count : Nat) (relation : related left right) :
    (left.run count).1 = (right.run count).1 ∧ related (left.run count).2 (right.run count).2 := by
  induction count generalizing left right with
  | zero =>
      have position : left.world.position = right.world.position :=
        congrArg Appearance.position (alike.appearance relation)
      rw [Playthrough.run, Playthrough.run, alike.silentBound relation, position]
      exact ⟨rfl, alike.finish (alike.complain _ relation)⟩
  | succ count ih =>
      -- The outcome of the tick on one side is that on the other.
      have ticked := alike.tick relation
      rw [Playthrough.run, Playthrough.run]
      generalize left.tick = one at ticked
      generalize right.tick = other at ticked
      cases ticked with
      | shows after => exact ⟨rfl, after⟩
      | goesOn after => exact ih after
      | runsOut after => exact ⟨rfl, after⟩
      | isLost after => exact ⟨rfl, after⟩

theorem step (relation : related left right) :
    left.step.1 = right.step.1 ∧ related left.step.2 right.step.2 := by
  have phase : left.phase = right.phase := congrArg Appearance.phase (alike.appearance relation)
  simp only [Playthrough.step, phase, alike.silentBound relation]
  split
  · exact ⟨rfl, alike.complain .notStarted relation⟩
  · exact ⟨rfl, relation⟩
  · exact alike.run right.silentBound relation

theorem stop (relation : related left right) : related left.stop right.stop := by
  have phase : left.phase = right.phase := congrArg Appearance.phase (alike.appearance relation)
  unfold Playthrough.stop Playthrough.isRunning
  rw [phase]
  split
  · exact alike.finish relation
  · exact relation

theorem perform (operation : Operation) (relation : related left right) :
    (left.perform operation).1 = (right.perform operation).1 ∧
      related (left.perform operation).2 (right.perform operation).2 := by
  cases operation with
  | start => exact ⟨rfl, alike.start relation⟩
  | step =>
      obtain ⟨shown, after⟩ := alike.step relation
      exact ⟨congrArg Reply.shown shown, after⟩
  | select target => exact ⟨rfl, alike.select target relation⟩
  | choose index =>
      have menu : left.menu = right.menu := congrArg Appearance.menu (alike.appearance relation)
      simp only [Playthrough.perform, choose?, menu]
      cases right.menu with
      | none => exact ⟨rfl, relation⟩
      | some choices =>
          simp only [Option.bind_eq_bind, Option.bind_some]
          cases choices[index]? with
          | none => exact ⟨rfl, relation⟩
          | some choice => exact ⟨rfl, alike.select choice.target relation⟩
  | stop => exact ⟨rfl, alike.stop relation⟩
  | reset => exact ⟨rfl, alike.reset relation⟩
  | amend scene => exact ⟨rfl, alike.amend scene relation⟩

theorem after (operations : List Operation) (relation : related left right) :
    related (left.after operations) (right.after operations) := by
  induction operations generalizing left right with
  | nil => exact relation
  | cons operation rest ih => exact ih (alike.perform operation relation).2

end Alike

end Playthrough

end StoryScript
