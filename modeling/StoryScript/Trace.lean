import StoryScript.Playthrough

/-!
Tracing a story: playing it to its end, or up to a bound on the shown nodes, with the first option
of every menu.
-/

namespace StoryScript.Trace

/-- What follows a shown node in a trace: the playthrough after its menu, or none where the menu is
empty. -/
def follow? (node : Node) (play : Playthrough) : Option Playthrough :=
  match node with
  | .menu (first :: _) _ => some (play.select first.target)
  | .menu [] _ => none
  | _ => some play

/-- Up to `count + 1` further nodes after those already shown, the last of which comes first, and
the playthrough after them. -/
def run (count : Nat) (shown : List Node) (play : Playthrough) : List Node × Playthrough :=
  match play.step with
  | (none, after) => (shown.reverse, after)
  | (some node, after) =>
      match count with
      | 0 => ((node :: shown).reverse, after.stop)
      | count + 1 =>
          match follow? node after with
          | none => ((node :: shown).reverse, after.stop)
          | some next => run count (node :: shown) next

section

variable {play after next : Playthrough} {node : Node} (shown : List Node)

theorem run_ended (count : Nat) (stepped : play.step = (none, after)) :
    run count shown play = (shown.reverse, after) := by
  unfold run
  rw [stepped]

theorem run_full (stepped : play.step = (some node, after)) :
    run 0 shown play = ((node :: shown).reverse, after.stop) := by
  unfold run
  rw [stepped]

theorem run_stuck (count : Nat) (stepped : play.step = (some node, after))
    (stuck : follow? node after = none) :
    run (count + 1) shown play = ((node :: shown).reverse, after.stop) := by
  rw [run, stepped]
  simp only [stuck]

theorem run_followed (count : Nat) (stepped : play.step = (some node, after))
    (followed : follow? node after = some next) :
    run (count + 1) shown play = run count (node :: shown) next := by
  rw [run, stepped]
  simp only [followed]

theorem follow?_eq_some (followed : follow? node play = some next) :
    next = play ∨ ∃ target, next = play.select target := by
  unfold follow? at followed
  split at followed
  next first more line => exact .inr ⟨first.target, (Option.some.inj followed).symm⟩
  next => contradiction
  next => exact .inl (Option.some.inj followed).symm

end

theorem run_keeps {holds : Playthrough → Prop} (step : ∀ play, holds play → holds play.step.2)
    (select : ∀ play target, holds play → holds (play.select target))
    (stop : ∀ play, holds play → holds play.stop) (count : Nat) (shown : List Node)
    (play : Playthrough) (before : holds play) : holds (run count shown play).2 := by
  fun_induction run count shown play with
  | case1 count shown play after stepped =>
      have last := step play before
      rwa [stepped] at last
  | case2 shown play node after stepped =>
      have last := step play before
      rw [stepped] at last
      exact stop after last
  | case3 shown play node after stepped count ended =>
      have last := step play before
      rw [stepped] at last
      exact stop after last
  | case4 shown play node after stepped count next followed ih =>
      have later := step play before
      rw [stepped] at later
      apply ih
      rcases follow?_eq_some followed with rfl | ⟨target, rfl⟩
      · exact later
      · exact select after target later

/-- Starts the story and plays it. A bound of no nodes counts as one. -/
def ofPlaythrough (bound : Nat) (play : Playthrough) : List Node × Playthrough :=
  run (bound - 1) [] play.start

end StoryScript.Trace
