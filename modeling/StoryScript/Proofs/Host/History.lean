import StoryScript.Proofs.Host.Request
import StoryScript.Proofs.Playthrough.Agreement

/-!
What a host has been asked before does not matter to the story that it loads next, but for the
characters that it has met: they stay, and a story can refer to them.
-/

namespace StoryScript

/-- Whether a story that does not have the character itself finds the attribute in the world. -/
def Reference.findsLeftover (story : Story) (world : World) : Reference → Bool
  | .global _ => false
  | .attributeOf character key =>
      !story.cast.contains character && (world.attribute? character key).isSome

namespace Host

def traceOutcome (host : Host) : List Node × Position × Table Value :=
  let (nodes, after) := host.trace
  (nodes, after.world.position, after.world.globals)

def acquainted (settings : PlaySettings) (cast : Table (Table String)) : Host :=
  { new settings with world := { (new settings).world with cast } }

theorem traceOutcome_load {left right : Host} {source : String}
    (settings : left.settings = right.settings)
    (startLabel : left.world.startLabel = right.world.startLabel)
    (attributes : ∀ character key,
      .attributeOf character key ∈ (Script.ofText source).story.references →
        (Script.ofText source).story.cast.contains character = true ∨
          left.world.attribute? character key = right.world.attribute? character key) :
    (left.load source).traceOutcome = (right.load source).traceOutcome := by
  let story := (Script.ofText source).story
  have world : ((left.world.reset.jump left.world.startLabel).registerAll story.cast).Agrees
      (· ∈ story.references)
      ((right.world.reset.jump right.world.startLabel).registerAll story.cast) :=
    World.agrees_registerAll startLabel (congrArg (Position.mk · 0) startLabel) rfl attributes
  have started : Playthrough.Agrees (· ∈ story.references)
      (Playthrough.new story left.world.reset left.settings).start
      (Playthrough.new story right.world.reset left.settings).start :=
    .intro world ⟨fun _ member => member, nofun⟩
  obtain ⟨shown, after⟩ :=
    Trace.run_agrees started (left.settings.maxTraceNodes - 1) []
  have outcome : ∀ host : Host, (host.load source).traceOutcome =
      let traced := Trace.ofPlaythrough host.settings.maxTraceNodes
        (Playthrough.new story host.world.reset host.settings)
      (traced.1, traced.2.world.position, traced.2.world.globals) := fun _ => rfl
  rw [outcome, outcome, ← settings]
  simp only [Trace.ofPlaythrough, shown, after.world.position, after.world.globals]

/-- A story that is loaded after any history is traced as by a new host that knows the characters
met before, and as by any new host where it refers to none of them that it does not have itself. -/
theorem trace_after_history (settings : PlaySettings) (history : List Request) (source : String) :
    let host := (new settings).after history
    let story := (Script.ofText source).story
    (host.load source).traceOutcome =
        ((acquainted settings host.world.cast).load source).traceOutcome ∧
      ((∀ reference ∈ story.references, reference.findsLeftover story host.world = false) →
        (host.load source).traceOutcome = ((new settings).load source).traceOutcome) := by
  intro host story
  obtain ⟨sameSettings, sameLabel⟩ := settings_after (new settings) history
  constructor
  · have acquaintance := @traceOutcome_load host (acquainted settings host.world.cast) source
    exact acquaintance sameSettings sameLabel fun _ _ _ => .inr rfl
  · intro independent
    apply traceOutcome_load sameSettings sameLabel
    intro character key member
    have nothing := independent _ member
    simp only [Reference.findsLeftover, Bool.and_eq_false_iff, Bool.not_eq_false',
      Option.isSome_eq_false_iff, Option.isNone_iff_eq_none] at nothing
    exact nothing

/-- A script with a character, and two that refer to one: the first to the same, without having it,
and the second to one of its own. -/
def heroScript : String :=
  "@char Hero\n  mood: grim\n== Start ==\nHero \"Hi\""

def strangerScript : String :=
  "== Start ==\n{ Hero.mood == grim }\nHero \"You again?\""

def guardScript : String :=
  "@char Guard\n  mood: stern\n== Start ==\n~ mood = Guard.mood\n{ mood == stern }\nGuard \"Halt!\""

theorem guardScript_independent :
    let history := [Request.load heroScript, .trace]
    let host := (new {}).after history
    let story := (Script.ofText guardScript).story
    host.world.cast.names = ["Hero"] ∧
      (∀ reference ∈ story.references, reference.findsLeftover story host.world = false) ∧
      (host.load guardScript).traceOutcome = ((new {}).load guardScript).traceOutcome := by
  intro history host story
  have independent :
      ∀ reference ∈ story.references, reference.findsLeftover story host.world = false := by
    decide +kernel
  exact ⟨by decide +kernel, independent,
    (trace_after_history {} history guardScript).2 independent⟩

theorem strangerScript_recognized :
    (((new {}).after [.load heroScript, .trace]).load strangerScript).traceOutcome ≠
      ((new {}).load strangerScript).traceOutcome := by
  intro same
  have shown := congrArg (fun outcome => outcome.1.length) same
  revert shown
  decide +kernel

end Host

end StoryScript
