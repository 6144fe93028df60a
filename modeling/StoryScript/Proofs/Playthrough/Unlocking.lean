import StoryScript.Proofs.Playthrough.Operation
import StoryScript.Table.Lookup

/-!
The conditions of options are locks that a playthrough never tries. Taking them all off changes
nothing in what it does, but for what the options that are shown look like.
-/

namespace StoryScript

def Choice.unlock (choice : Choice) : Choice :=
  { choice with condition := none }

mutual

def Node.unlock : Node → Node
  | .menu choices line => .menu (choices.map Choice.unlock) line
  | .guarded condition body line => .guarded condition (Node.unlockAll body) line
  | node => node

def Node.unlockAll : List Node → List Node
  | [] => []
  | node :: rest => node.unlock :: Node.unlockAll rest

end

def Story.unlock (story : Story) : Story :=
  { story with labels := story.labels.map Node.unlockAll }

def Frame.unlock (frame : Frame) : Frame :=
  { frame with body := Node.unlockAll frame.body }

def Playthrough.unlock (play : Playthrough) : Playthrough :=
  { play with
    story := play.story.unlock
    bodies := play.bodies.map Frame.unlock
    menu := play.menu.map (·.map Choice.unlock) }

def Tick.unlock : Tick → Tick
  | .shows node after => .shows node.unlock after.unlock
  | .goesOn after => .goesOn after.unlock
  | .runsOut label after => .runsOut label after.unlock
  | .isLost label after => .isLost label after.unlock

def Reply.unlock : Reply → Reply
  | .shown node => .shown (node.map Node.unlock)
  | reply => reply

namespace Node

theorem unlockAll_eq_map (nodes : List Node) : unlockAll nodes = nodes.map unlock := by
  induction nodes with
  | nil => rfl
  | cons node rest ih => rw [unlockAll, ih, List.map_cons]

theorem getElem?_unlockAll (nodes : List Node) (index : Nat) :
    (unlockAll nodes)[index]? = nodes[index]?.map unlock := by
  rw [unlockAll_eq_map, List.getElem?_map]

theorem isTransfer_unlock (node : Node) : node.unlock.isTransfer = node.isTransfer := by
  cases node <;> simp [unlock, isTransfer]

theorem endsInTransfer_unlockAll (body : List Node) :
    endsInTransfer (unlockAll body) = endsInTransfer body := by
  rw [endsInTransfer, endsInTransfer, unlockAll_eq_map, List.getLast?_map]
  cases body.getLast? with
  | none => rfl
  | some last => exact isTransfer_unlock last

theorem isEmpty_unlockAll (body : List Node) : (unlockAll body).isEmpty = body.isEmpty := by
  cases body <;> rfl

end Node

namespace Playthrough

/-! Whatever is done to a playthrough without locks is what is done to it with them. -/

@[simp] theorem world_unlock (play : Playthrough) : play.unlock.world = play.world := rfl

theorem advance_unlock (play : Playthrough) : play.unlock.advance = play.advance.unlock := by
  obtain ⟨story, world, bodies, phase, menu, bound, diagnostics⟩ := play
  cases bodies with
  | nil => rfl
  | cons frame outer => rfl

theorem enter_unlock (play : Playthrough) (body : List Node) :
    play.unlock.enter (Node.unlockAll body) = (play.enter body).unlock := by
  simp only [enter, Node.endsInTransfer_unlockAll, advance_unlock]
  split
  · rfl
  · rfl

theorem judgeGuard_unlock (play : Playthrough) (condition : String) (body : List Node) :
    play.unlock.judgeGuard condition (Node.unlockAll body) =
      (play.judgeGuard condition body).unlock := by
  let verdict := play.world.judge condition
  let judged := { play with world := play.world.record verdict.complaints }
  simp only [judgeGuard, world_unlock, Node.isEmpty_unlockAll]
  split
  · exact enter_unlock judged body
  · exact advance_unlock judged

theorem execute_unlock (play : Playthrough) (node : Node) :
    play.unlock.execute node.unlock = (play.execute node).unlock := by
  cases node with
  | dialogue | command => exact congrArg _ (advance_unlock play)
  | menu choices line => rfl
  | assignment expression line =>
      exact congrArg _ (advance_unlock { play with world := play.world.assign expression })
  | character name profile =>
      exact congrArg _ (advance_unlock
        { play with world := play.world.register name profile.attributes })
  | guarded condition body line => exact congrArg _ (judgeGuard_unlock play condition body)
  | jump target line => rfl

theorem tick_unlock (play : Playthrough) : play.unlock.tick = play.tick.unlock := by
  have executed := execute_unlock play
  obtain ⟨story, world, bodies, phase, menu, bound, diagnostics⟩ := play
  unfold tick
  cases bodies with
  | cons frame outer =>
      simp only [unlock, List.map_cons, Frame.unlock, Node.getElem?_unlockAll]
      cases frame.body[frame.next]? with
      | none => rfl
      | some node => exact executed node
  | nil =>
      simp only [unlock, Story.unlock, Table.get?_map, List.map_nil]
      cases story.labels.get? world.position.label with
      | none => rfl
      | some nodes =>
          simp only [Option.map_some, Node.getElem?_unlockAll]
          cases nodes[world.position.index]? with
          | none => rfl
          | some node => exact executed node

theorem run_unlock (count : Nat) (play : Playthrough) :
    play.unlock.run count = ((play.run count).1.map Node.unlock, (play.run count).2.unlock) := by
  induction count generalizing play with
  | zero => rfl
  | succ count ih =>
      rw [run, run, tick_unlock]
      cases play.tick with
      | goesOn after => exact ih after
      | shows | runsOut | isLost => rfl

theorem step_unlock (play : Playthrough) :
    play.unlock.step = (play.step.1.map Node.unlock, play.step.2.unlock) := by
  have phase : play.unlock.phase = play.phase := rfl
  unfold step
  rw [phase]
  split
  · rfl
  · rfl
  · exact run_unlock play.silentBound play

theorem stepped_unlock {play after : Playthrough} {node : Option Node}
    (stepped : play.step = (node, after)) :
    play.unlock.step = (node.map Node.unlock, after.unlock) := by
  rw [step_unlock, stepped]

theorem choose?_unlock (play : Playthrough) (index : Nat) :
    play.unlock.choose? index = (play.choose? index).map unlock := by
  obtain ⟨story, world, bodies, phase, menu, bound, diagnostics⟩ := play
  cases menu with
  | none => rfl
  | some choices =>
      simp only [choose?, unlock, Option.map_some, Option.bind_eq_bind, Option.bind_some,
        List.getElem?_map]
      cases choices[index]? with
      | none => rfl
      | some choice => rfl

theorem stop_unlock (play : Playthrough) : play.unlock.stop = play.stop.unlock := by
  have running : play.unlock.isRunning = play.isRunning := rfl
  unfold stop
  rw [running]
  split
  · rfl
  · rfl

theorem perform_unlock (play : Playthrough) (operation : Operation) :
    play.unlock.perform operation =
      ((play.perform operation).1.unlock, (play.perform operation).2.unlock) := by
  cases operation with
  | start | select | reset | amend => rfl
  | step =>
      simp only [perform, step_unlock]
      rfl
  | stop =>
      simp only [perform, stop_unlock]
      rfl
  | choose index =>
      simp only [perform, choose?_unlock]
      cases play.choose? index with
      | none => rfl
      | some after => rfl

theorem after_unlock (play : Playthrough) (operations : List Operation) :
    play.unlock.after operations = (play.after operations).unlock := by
  induction operations generalizing play with
  | nil => rfl
  | cons operation rest ih =>
      rw [after, List.foldl_cons, perform_unlock]
      exact ih (play.perform operation).2

end Playthrough

end StoryScript
