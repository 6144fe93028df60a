import StoryScript.Settings
import StoryScript.World.Assignment
import StoryScript.World.Condition

/-!
Playing a story. A playthrough stands in a label and in the bodies of the guards that it has
entered, the innermost first; each step goes on to the next node that is shown.
-/

namespace StoryScript

inductive Phase
  | notStarted
  | running
  | finished
  deriving DecidableEq, Repr

structure Frame where
  body : List Node
  next : Nat := 0

structure Playthrough where
  story : Story
  world : World
  bodies : List Frame := []
  phase : Phase := .notStarted
  menu : Option (List Choice) := none
  silentBound : Nat
  diagnostics : Diagnostics := ∅

inductive Tick
  | shows (node : Node) (after : Playthrough)
  | goesOn (after : Playthrough)
  | runsOut (label : String) (after : Playthrough)
  | isLost (label : String) (after : Playthrough)

namespace Playthrough

/-- A playthrough has a bound of at least one on nodes that show nothing. -/
def new (story : Story) (world : World) (settings : PlaySettings := {}) : Playthrough :=
  { story, world, silentBound := max settings.maxSilentSteps 1 }

def isRunning (play : Playthrough) : Bool :=
  play.phase == .running

def depth (play : Playthrough) : Nat :=
  play.bodies.length

def start (play : Playthrough) : Playthrough :=
  { play with
    phase := .running
    bodies := []
    menu := none
    world := (play.world.jump play.world.startLabel).registerAll play.story.cast }

def finish (play : Playthrough) : Playthrough :=
  { play with phase := .finished, bodies := [], menu := none }

def complain (play : Playthrough) (complaint : Complaint) : Playthrough :=
  { play with diagnostics := play.diagnostics.record complaint.diagnostic }

def advance (play : Playthrough) : Playthrough :=
  match play.bodies with
  | frame :: outer => { play with bodies := { frame with next := frame.next + 1 } :: outer }
  | [] => { play with world := play.world.advance }

/-- Enters a body. One that ends in a transfer is not returned from, so the place stays at its
guard. -/
def enter (play : Playthrough) (body : List Node) : Playthrough :=
  let play := if Node.endsInTransfer body then play else play.advance
  { play with bodies := { body } :: play.bodies }

def judgeGuard (play : Playthrough) (condition : String) (body : List Node) : Playthrough :=
  let verdict := play.world.judge condition
  let play := { play with world := play.world.record verdict.complaints }
  if verdict.holds && !body.isEmpty then play.enter body else play.advance

/-- The effect of a node. A menu stays reached until one of its options is chosen. -/
def execute (play : Playthrough) (node : Node) : Tick :=
  match node with
  | .dialogue .. => .shows node play.advance
  | .command .. => .shows node play.advance
  | .menu choices _ => .shows node { play with menu := some choices }
  | .assignment expression _ =>
      .goesOn { play with world := play.world.assign expression }.advance
  | .character name profile =>
      .goesOn { play with world := play.world.register name profile.attributes }.advance
  | .guarded condition body _ => .goesOn (play.judgeGuard condition body)
  | .jump target _ => .goesOn { play with world := play.world.jump target, bodies := [] }

/-- Takes the next node, or leaves the innermost body when it has none. -/
def tick (play : Playthrough) : Tick :=
  match play.bodies with
  | frame :: outer =>
      match frame.body[frame.next]? with
      | some node => play.execute node
      | none => .goesOn { play with bodies := outer }
  | [] =>
      let position := play.world.position
      match play.story.labels.get? position.label with
      | none => .isLost position.label (play.complain (.noLabel position.label)).finish
      | some nodes =>
          match nodes[position.index]? with
          | some node => play.execute node
          | none => .runsOut position.label play.finish

def run (count : Nat) (play : Playthrough) : Option Node × Playthrough :=
  match count with
  | 0 =>
      (none, (play.complain (.silent play.silentBound play.world.position.label)).finish)
  | count + 1 =>
      match play.tick with
      | .shows node after => (some node, after)
      | .goesOn after => run count after
      | .runsOut _ after => (none, after)
      | .isLost _ after => (none, after)

def step (play : Playthrough) : Option Node × Playthrough :=
  match play.phase with
  | .notStarted => (none, play.complain .notStarted)
  | .finished => (none, play)
  | .running => run play.silentBound play

def select (play : Playthrough) (target : String) : Playthrough :=
  { play with bodies := [], menu := none, world := play.world.jump target }

def choose? (play : Playthrough) (index : Nat) : Option Playthrough := do
  let choice ← (← play.menu)[index]?
  return play.select choice.target

def stop (play : Playthrough) : Playthrough :=
  if play.isRunning then play.finish else play

def reset (play : Playthrough) : Playthrough :=
  { play with bodies := [], menu := none, phase := .notStarted, world := play.world.reset }

end Playthrough

end StoryScript
