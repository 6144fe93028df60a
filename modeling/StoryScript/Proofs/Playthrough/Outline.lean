import StoryScript.Proofs.Playthrough.Operation

/-!
Outlines tell what playing a story means without bodies and without a place: what is left to be
told is one list of nodes, and only its head is ever looked at.
-/

namespace StoryScript

namespace Scene

/-- A world with the scene. Its places are never looked at. -/
def world (scene : Scene) : World :=
  { globals := scene.globals, cast := scene.cast, diagnostics := scene.diagnostics }

def assign (scene : Scene) (expression : String) : Scene :=
  (scene.world.assign expression).scene

def register (scene : Scene) (name : String) (attributes : Table String) : Scene :=
  (scene.world.register name attributes).scene

def registerAll (scene : Scene) (cast : Table Profile) : Scene :=
  (scene.world.registerAll cast).scene

def judge (scene : Scene) (condition : String) : Verdict :=
  scene.world.judge condition

def record (scene : Scene) (complaints : List Diagnostic) : Scene :=
  (scene.world.record complaints).scene

def clear (scene : Scene) : Scene :=
  { scene with globals := ∅ }

end Scene

structure Outline where
  story : Story
  startLabel : String
  scene : Scene
  work : List Node := []
  phase : Phase := .notStarted
  /-- Whether the menu at the head has been put to the reader. -/
  asked : Bool := false

inductive Beat
  | returns (node : Option Node) (after : Outline)
  | goesOn (after : Outline)

namespace Outline

def new (story : Story) (world : World) : Outline :=
  { story, startLabel := world.startLabel, scene := world.scene }

def under (outline : Outline) (label : String) : List Node :=
  (outline.story.labels.get? label).getD []

def finish (outline : Outline) : Outline :=
  { outline with phase := .finished, work := [], asked := false }

def tick (outline : Outline) : Beat :=
  match outline.work with
  | [] => .returns none outline.finish
  | node :: rest =>
      match node with
      | .dialogue .. => .returns (some node) { outline with work := rest }
      | .command .. => .returns (some node) { outline with work := rest }
      | .menu .. => .returns (some node) { outline with asked := true }
      | .assignment expression _ =>
          .goesOn { outline with scene := outline.scene.assign expression, work := rest }
      | .character name profile =>
          .goesOn { outline with
            scene := outline.scene.register name profile.attributes
            work := rest }
      | .guarded condition body _ =>
          let verdict := outline.scene.judge condition
          .goesOn { outline with
            scene := outline.scene.record verdict.complaints
            work := if verdict.holds then body ++ rest else rest }
      | .jump target _ => .goesOn { outline with work := outline.under target }

/-- A step takes one head after another until something is returned, however many it takes. -/
inductive Steps : Outline → Option Node → Outline → Prop
  | returns {outline node after} : outline.tick = .returns node after → Steps outline node after
  | goesOn {outline next node after} : outline.tick = .goesOn next → Steps next node after →
      Steps outline node after

def start (outline : Outline) : Outline :=
  { outline with
    scene := outline.scene.registerAll outline.story.cast
    work := outline.under outline.startLabel
    phase := .running
    asked := false }

def select (outline : Outline) (target : String) : Outline :=
  { outline with work := outline.under target, asked := false }

def choose? (outline : Outline) (index : Nat) : Option Outline :=
  match outline.asked, outline.work with
  | true, .menu choices _ :: _ => choices[index]?.map fun choice => outline.select choice.target
  | _, _ => none

def stop (outline : Outline) : Outline :=
  if outline.phase = .running then outline.finish else outline

def reset (outline : Outline) : Outline :=
  { outline with
    scene := outline.scene.clear
    work := []
    phase := .notStarted
    asked := false }

inductive Performs : Outline → Operation → Reply → Outline → Prop
  | start {outline} : Performs outline .start .done outline.start
  | step {outline node after} : outline.phase = .running → Steps outline node after →
      Performs outline .step (.shown node) after
  | idle {outline} : outline.phase ≠ .running → Performs outline .step (.shown none) outline
  | select {outline target} : Performs outline (.select target) .done (outline.select target)
  | choose {outline index after} : outline.choose? index = some after →
      Performs outline (.choose index) (.chosen true) after
  | refuse {outline index} : outline.choose? index = none →
      Performs outline (.choose index) (.chosen false) outline
  | stop {outline} : Performs outline .stop .done outline.stop
  | reset {outline} : Performs outline .reset .done outline.reset
  | amend {outline scene} : Performs outline (.amend scene) .done { outline with scene }

end Outline

/-- What can be observed of an operation: its answer, and the scene and the phase after it. -/
structure Observation where
  reply : Reply
  scene : Scene
  phase : Phase

inductive Outline.Plays : Outline → List Operation → List Observation → Prop
  | nil {outline} : Plays outline [] []
  | cons {outline operation reply after rest later} : Performs outline operation reply after →
      Plays after rest later →
      Plays outline (operation :: rest) (⟨reply, after.scene, after.phase⟩ :: later)

def Playthrough.observe (play : Playthrough) : List Operation → List Observation
  | [] => []
  | operation :: rest =>
      let performed := play.perform operation
      ⟨performed.1, performed.2.world.scene, performed.2.phase⟩ :: performed.2.observe rest

/-! An outline leaves nothing open. -/

namespace Outline

theorem Steps.deterministic {outline first second : Outline} {left right : Option Node}
    (one : outline.Steps left first) (other : outline.Steps right second) :
    left = right ∧ first = second := by
  induction one with
  | returns ticked =>
      cases other with
      | returns again =>
          rw [ticked] at again
          exact ⟨(Beat.returns.inj again).1, (Beat.returns.inj again).2⟩
      | goesOn again =>
          rw [ticked] at again
          contradiction
  | goesOn ticked _ ih =>
      cases other with
      | returns again =>
          rw [ticked] at again
          contradiction
      | goesOn again later =>
          rw [ticked] at again
          obtain rfl := Beat.goesOn.inj again
          exact ih later

theorem Performs.deterministic {outline first second : Outline} {operation : Operation}
    {left right : Reply} (one : outline.Performs operation left first)
    (other : outline.Performs operation right second) : left = right ∧ first = second := by
  cases one with
  | step running steps =>
      cases other with
      | step _ again =>
          obtain ⟨same, after⟩ := steps.deterministic again
          exact ⟨congrArg Reply.shown same, after⟩
      | idle halted => contradiction
  | idle halted =>
      cases other with
      | step running _ => contradiction
      | idle => exact ⟨rfl, rfl⟩
  | choose chosen =>
      cases other with
      | choose again =>
          rw [chosen] at again
          exact ⟨rfl, Option.some.inj again⟩
      | refuse refused =>
          rw [chosen] at refused
          contradiction
  | refuse refused =>
      cases other with
      | choose chosen =>
          rw [refused] at chosen
          contradiction
      | refuse => exact ⟨rfl, rfl⟩
  | start | select | stop | reset | amend =>
      cases other
      exact ⟨rfl, rfl⟩

theorem Plays.deterministic {outline : Outline} {operations : List Operation}
    {left right : List Observation} (one : outline.Plays operations left)
    (other : outline.Plays operations right) : left = right := by
  induction one generalizing right with
  | nil =>
      cases other
      rfl
  | cons performed _ ih =>
      cases other with
      | cons again later =>
          obtain ⟨rfl, rfl⟩ := performed.deterministic again
          rw [ih later]

end Outline

end StoryScript
