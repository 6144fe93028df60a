import StoryScript.Playthrough
import StoryScript.World.Reference

/-!
Presenting a story to a reader, node by node, as the reader answers.
-/

namespace StoryScript

inductive Answer
  | proceed
  | choose (index : Nat)
  | leave
  deriving DecidableEq, Repr

inductive Turn
  | goesOn (after : Playthrough)
  | asksAgain (index : Nat) (after : Playthrough)
  | leaves (after : Playthrough)
  | givesUp (after : Playthrough)

namespace Playthrough

def answer (play : Playthrough) (node : Node) (answer : Option Answer) : Turn :=
  match answer, node with
  | some .leave, _ => .leaves play.stop
  | some (.choose index), .menu .. =>
      match play.choose? index with
      | some after => .goesOn after
      | none => .asksAgain index play
  | _, .menu .. => .givesUp play.stop
  | _, _ => .goesOn play

end Playthrough

/-- What a reader says to a node. The reader may take the complaints that are there, and may judge
conditions, which gives rise to others. -/
structure Remark where
  answer : Option Answer
  takes : Bool := false
  complaints : List Diagnostic := []
  deriving DecidableEq

def World.hear (world : World) (remark : Remark) : World :=
  let kept := if remark.takes then world.diagnostics.take.2 else world.diagnostics
  { world with diagnostics := kept.recordAll remark.complaints }

def Playthrough.hear (play : Playthrough) (remark : Remark) : Playthrough :=
  { play with world := play.world.hear remark }

theorem Playthrough.hear_complaints (play : Playthrough) (answer : Option Answer)
    (complaints : List Diagnostic) :
    play.hear { answer, complaints } = { play with world := play.world.record complaints } :=
  rfl

structure Response (σ : Type) extends Remark where
  reader : σ

abbrev Reader (σ : Type) := σ → Node → World → Response σ

/-- How a presentation has come out. It is unfinished when its bound has been reached. -/
structure Outcome (σ : Type) where
  play : Playthrough
  reader : σ
  isFinished : Bool

namespace Presentation

def run {σ : Type} (respond : Reader σ) (count : Nat) (reader : σ) (play : Playthrough) :
    Outcome σ :=
  match count with
  | 0 => ⟨play, reader, false⟩
  | count + 1 =>
      match play.step with
      | (none, after) => ⟨after, reader, true⟩
      | (some node, after) =>
          let response := respond reader node after.world
          match (after.hear response.toRemark).answer node response.answer with
          | .goesOn next => run respond count response.reader next
          | .asksAgain _ next => run respond count response.reader next
          | .leaves last => ⟨last, response.reader, true⟩
          | .givesUp last => ⟨last, response.reader, true⟩

/-- A story that is not running is started first. -/
def ofPlaythrough {σ : Type} (respond : Reader σ) (count : Nat) (reader : σ)
    (play : Playthrough) : Outcome σ :=
  run respond count reader (if play.isRunning then play else play.start)

end Presentation

inductive View
  | text (text : String)
  | options (options : List (String × Bool))
  | nothing
  deriving Repr

/-- What is seen of a node, and the complaints about the conditions of its options. -/
def World.view (world : World) (node : Node) : View × List Diagnostic :=
  match node with
  | .dialogue _ text _ => (.text (world.interpolate text), [])
  | .menu choices _ =>
      let verdicts := choices.map fun choice => (choice, world.judgeChoice choice)
      (.options (verdicts.map fun (choice, verdict) =>
          (world.interpolate choice.text, verdict.holds)),
        verdicts.flatMap fun (_, verdict) => verdict.complaints)
  | _ => (.nothing, [])

/-- A reader with prepared answers, who leaves at the last of `left` presentations. -/
structure ScriptedReader where
  answers : List (Option Answer)
  left : Nat
  /-- What has been presented, the last first. -/
  seen : List (Node × View) := []

namespace ScriptedReader

def respond : Reader ScriptedReader := fun reader node world =>
  let (view, complaints) := world.view node
  let seen := (node, view) :: reader.seen
  if reader.left ≤ 1 then
    { answer := some .leave, complaints, reader := { reader with seen } }
  else
    { answer := reader.answers.head?.join, complaints
      reader := { seen, answers := reader.answers.tail, left := reader.left - 1 } }

def play (reader : ScriptedReader) (play : Playthrough) : Outcome ScriptedReader :=
  Presentation.ofPlaythrough respond (reader.left + 1) reader play

end ScriptedReader

end StoryScript
