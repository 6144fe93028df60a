import StoryScript.Proofs.Playthrough.Operation
import StoryScript.Terminal

/-!
How a story at a terminal ends. Every dialogue and every menu takes a line of the input or ends the
story, so that only commands, which want no line, can go on without end.
-/

namespace StoryScript

namespace Playthrough

def afterCommands? (play : Playthrough) : Nat → Option Playthrough
  | 0 => some play
  | count + 1 =>
      match play.step with
      | (some (.command ..), after) => after.afterCommands? count
      | _ => none

theorem step_cases {play : Playthrough} (running : play.phase = .running) :
    (∃ after, play.step = (none, after) ∧ after.phase = .finished) ∨
      (∃ verb arguments line after, play.step = (some (.command verb arguments line), after) ∧
        after.phase = .running) ∨
      ∃ node after, play.step = (some node, after) ∧ Terminal.wantsLine node = true ∧
        after.phase = .running := by
  cases stepped : play.step with
  | mk shown after =>
      cases shown with
      | none => exact .inl ⟨after, rfl, finished_of_step running stepped⟩
      | some node =>
          obtain ⟨isShown, still⟩ := running_of_step running stepped
          cases node with
          | command verb arguments line =>
              exact .inr (.inl ⟨verb, arguments, line, after, rfl, still⟩)
          | dialogue | menu => exact .inr (.inr ⟨_, after, rfl, rfl, still⟩)
          | assignment | guarded | jump | character => contradiction

theorem answer_cases {play : Playthrough} (running : play.phase = .running) (node : Node)
    (given : Option Answer) :
    (∃ after, play.answer node given = .goesOn after ∧ after.phase = .running) ∨
      (∃ index, play.answer node given = .asksAgain index play) ∨
      ∃ last, (play.answer node given = .leaves last ∨ play.answer node given = .givesUp last) ∧
        last.phase = .finished := by
  unfold answer
  split
  next => exact .inr (.inr ⟨play.stop, .inl rfl, finished_of_stop running⟩)
  next index choices line =>
    split
    next after chosen =>
      obtain ⟨_, choice, _, _, rfl⟩ := choose?_eq_some chosen
      exact .inl ⟨play.select choice.target, rfl, running⟩
    next => exact .inr (.inl ⟨index, rfl⟩)
  next => exact .inr (.inr ⟨play.stop, .inr rfl, finished_of_stop running⟩)
  next => exact .inl ⟨play, rfl, running⟩

end Playthrough

namespace Terminal

open Playthrough

def Status.IsOver : Status → Prop
  | .ended play => play.phase = .finished
  | _ => False

def Status.IsSettled : Status → Prop
  | .waits play _ => play.phase = .running
  | .ended play => play.phase = .finished
  | .pending _ => False

/-- What becomes of a status as the bound on nodes grows: it comes to rest, or it is that of a story
that shows commands without end. -/
inductive Resolves (rests : Status → Prop) (outcome : Nat → Status) : Prop
  | settles (bound : Nat) (status : Status) : rests status →
      (∀ count, bound ≤ count → outcome count = status) → Resolves rests outcome
  | goesOn (bound : Nat) (start : Playthrough) :
      (∀ count, ∃ last, start.afterCommands? count = some last ∧
        (bound ≤ count → outcome count = .pending last)) → Resolves rests outcome

theorem Resolves.congr {rests : Status → Prop} {outcome other : Nat → Status}
    (resolves : Resolves rests outcome) (bound : Nat)
    (same : ∀ count, bound ≤ count → other count = outcome count) : Resolves rests other := by
  cases resolves with
  | settles least status holds eventually =>
      refine .settles (max bound least) status holds fun count enough => ?_
      rw [same count (by omega)]
      exact eventually count (by omega)
  | goesOn least start commands =>
      refine .goesOn (max bound least) start fun count => ?_
      obtain ⟨last, shown, pending⟩ := commands count
      refine ⟨last, shown, fun enough => ?_⟩
      rw [same count (by omega)]
      exact pending (by omega)

section

variable {play after : Playthrough} {node : Node}

theorem present_ended (count : Nat) (made : List Output) (stepped : play.step = (none, after)) :
    (present (count + 1) made play).1 = .ended after := by
  simp only [present, stepped]

theorem present_command {verb arguments : String} {line : Nat} (count : Nat) (made : List Output)
    (stepped : play.step = (some (.command verb arguments line), after)) :
    ∃ more, (present (count + 1) made play).1 = (present count more after).1 := by
  simp only [present, stepped, wantsLine, World.view, World.record_nil]
  exact ⟨_, rfl⟩

theorem present_waits (wants : wantsLine node = true) (count : Nat) (made : List Output)
    (stepped : play.step = (some node, after)) :
    (present (count + 1) made play).1 =
      .waits { after with world := after.world.record (after.world.view node).2 } node := by
  simp only [present, stepped, wants, if_true]

theorem present_pending {last : Playthrough} {count : Nat}
    (commands : play.afterCommands? count = some last) (made : List Output) :
    (present count made play).1 = .pending last := by
  induction count generalizing play made with
  | zero => exact congrArg Status.pending (Option.some.inj commands)
  | succ count ih =>
      rw [afterCommands?] at commands
      split at commands
      next verb arguments line after stepped =>
        obtain ⟨more, same⟩ := present_command count made stepped
        rw [same]
        exact ih commands more
      next => contradiction

/-- After finitely many commands a presentation settles, whatever more it might show. -/
theorem present_settles (running : play.phase = .running) {bound : Nat}
    (few : play.afterCommands? bound = none) :
    ∃ status : Status, status.IsSettled ∧
      ∀ count made, bound ≤ count → (present count made play).1 = status := by
  induction bound generalizing play with
  | zero => contradiction
  | succ bound ih =>
      -- A count above `bound` has one node to take, and `bound` left after it.
      suffices ∃ status : Status, status.IsSettled ∧
          ∀ count made, bound ≤ count → (present (count + 1) made play).1 = status by
        obtain ⟨status, settled, same⟩ := this
        refine ⟨status, settled, fun count made enough => ?_⟩
        obtain ⟨count, rfl⟩ : ∃ less, count = less + 1 := ⟨count - 1, by omega⟩
        exact same count made (by omega)
      rcases step_cases running with ⟨after, stepped, finished⟩ |
        ⟨verb, arguments, line, after, stepped, still⟩ | ⟨node, after, stepped, wants, still⟩
      · exact ⟨.ended after, finished, fun count made _ => present_ended count made stepped⟩
      · simp only [afterCommands?, stepped] at few
        obtain ⟨status, settled, same⟩ := ih still few
        refine ⟨status, settled, fun count made enough => ?_⟩
        obtain ⟨more, next⟩ := present_command count made stepped
        rw [next]
        exact same count more enough
      · exact ⟨.waits { after with world := after.world.record (after.world.view node).2 } node,
          still, fun count made _ => present_waits wants count made stepped⟩

theorem present_resolves (running : play.phase = .running) (made : List Output) :
    Resolves Status.IsSettled fun count => (present count made play).1 := by
  by_cases few : ∃ bound, play.afterCommands? bound = none
  · obtain ⟨bound, few⟩ := few
    obtain ⟨status, settled, same⟩ := present_settles running few
    exact .settles bound status settled fun count enough => same count made enough
  · refine .goesOn 0 play fun count => ?_
    obtain ⟨last, shown⟩ := Option.ne_none_iff_exists'.mp (not_exists.mp few count)
    exact ⟨last, shown, fun _ => present_pending shown made⟩

theorem feed_resolves (running : play.phase = .running) (node : Node) (input : Input) :
    Resolves Status.IsSettled fun count => (feed count play node input).1 := by
  cases answered : answer? node input with
  | none => exact .settles 0 (.waits play node) running fun count _ => by simp only [feed, answered]
  | some given =>
      rcases answer_cases running node given with ⟨after, turn, still⟩ | ⟨index, turn⟩ |
        ⟨last, turn | turn, finished⟩
      · simp only [feed, answered, turn]
        exact present_resolves still _
      · simp only [feed, answered, turn]
        exact present_resolves running _
      all_goals
        exact .settles 0 (.ended last) finished fun count _ => by simp only [feed, answered, turn]

theorem feed_endOfInput (running : play.phase = .running) (node : Node) :
    ∃ last : Playthrough, last.phase = .finished ∧
      ∀ count, (feed count play node .endOfInput).1 = .ended last := by
  refine ⟨play.stop, finished_of_stop running, fun count => ?_⟩
  cases node <;> rfl

end

theorem feedAll_ended (count : Nat) (last : Playthrough) (inputs : List Input) :
    feedAll count (.ended last) inputs = (.ended last, []) := by
  cases inputs <;> rfl

theorem feedAll_pending (count : Nat) (last : Playthrough) (inputs : List Input) :
    feedAll count (.pending last) inputs = (.pending last, []) := by
  cases inputs <;> rfl

theorem Resolves.feedAll {outcome : Nat → Status} {inputs : List Input}
    (resolves : Resolves Status.IsSettled outcome)
    (waits : ∀ (play : Playthrough) (node : Node), play.phase = .running →
      Resolves Status.IsOver fun count => (feedAll count (.waits play node) inputs).1) :
    Resolves Status.IsOver fun count => (feedAll count (outcome count) inputs).1 := by
  cases resolves with
  | settles bound status settled eventually =>
      -- Below the bound the status may be another one, with other lines taken.
      cases status with
      | waits play node =>
          refine (waits play node settled).congr bound fun count enough => ?_
          rw [eventually count enough]
      | ended last =>
          refine .settles bound (.ended last) settled fun count enough => ?_
          rw [eventually count enough, feedAll_ended]
      | pending last => contradiction
  | goesOn bound start commands =>
      refine .goesOn bound start fun count => ?_
      obtain ⟨last, shown, pending⟩ := commands count
      refine ⟨last, shown, fun enough => ?_⟩
      rw [pending enough, feedAll_pending]

theorem feedAll_resolves (inputs : List Input) (play : Playthrough) (node : Node)
    (running : play.phase = .running) :
    Resolves Status.IsOver fun count => (feedAll count (.waits play node) inputs).1 := by
  induction inputs generalizing play node with
  | nil =>
      obtain ⟨last, finished, ends⟩ := feed_endOfInput running node
      exact .settles 0 (.ended last) finished fun count _ => ends count
  | cons input rest ih => exact (feed_resolves running node input).feedAll ih

/-- A story that is played until its input is used up ends, unless from some point on it shows
nothing but commands, without end. -/
theorem ends_or_shows_commands (play : Playthrough) (inputs : List Input) :
    let outcome (count : Nat) := (feedAll count (opening count play).1 inputs).1
    (∃ bound last, last.phase = .finished ∧ ∀ count, bound ≤ count → outcome count = .ended last) ∨
      ∃ (bound : Nat) (start : Playthrough), ∀ count, ∃ last,
        start.afterCommands? count = some last ∧
          (bound ≤ count → outcome count = .pending last) := by
  intro outcome
  have started : play.start.phase = .running := rfl
  cases (present_resolves started [.log play.startEntry]).feedAll (feedAll_resolves inputs) with
  | settles bound status isOver eventually =>
      cases status with
      | ended last => exact .inl ⟨bound, last, isOver, eventually⟩
      | waits | pending => contradiction
  | goesOn bound start commands => exact .inr ⟨bound, start, commands⟩

structure Circles (label : String) (play : Playthrough) : Prop where
  running : play.phase = .running
  outside : play.bodies = []
  inside : play.world.position.label = label ∧ play.world.position.index ≤ 1
  nodes : ∃ verb arguments first second, play.story.labels.get? label =
    some [.command verb arguments first, .jump label second]
  bound : 2 ≤ play.silentBound

section

variable {label : String} {play : Playthrough}

theorem Circles.shows (circles : Circles label play) (first : play.world.position.index = 0) :
    ∃ verb arguments line after, play.tick = .shows (.command verb arguments line) after ∧
      Circles label after := by
  obtain ⟨verb, arguments, line, next, nodes⟩ := circles.nodes
  have reached : play.node? = some (.command verb arguments line) := by
    simp only [node?, circles.outside, circles.inside.1, nodes, Option.bind_some, first]
    rfl
  refine ⟨verb, arguments, line, play.advance, tick_of_node reached, ?_⟩
  simp only [advance, circles.outside]
  exact ⟨circles.running, rfl, ⟨circles.inside.1, by simp [World.advance, first]⟩,
    circles.nodes, circles.bound⟩

theorem Circles.returns (circles : Circles label play) (second : play.world.position.index = 1) :
    ∃ after, play.tick = .goesOn after ∧ Circles label after ∧
      after.world.position.index = 0 := by
  obtain ⟨verb, arguments, line, next, nodes⟩ := circles.nodes
  have reached : play.node? = some (.jump label next) := by
    simp only [node?, circles.outside, circles.inside.1, nodes, Option.bind_some, second]
    rfl
  exact ⟨_, tick_of_node reached,
    ⟨circles.running, rfl, ⟨rfl, Nat.zero_le 1⟩, circles.nodes, circles.bound⟩, rfl⟩

theorem Circles.step (circles : Circles label play) :
    ∃ verb arguments line after, play.step = (some (.command verb arguments line), after) ∧
      Circles label after := by
  obtain ⟨rest, bound⟩ : ∃ rest, play.silentBound = rest + 2 :=
    ⟨play.silentBound - 2, by have := circles.bound; omega⟩
  simp only [Playthrough.step, circles.running, bound, run]
  rcases Nat.le_one_iff_eq_zero_or_eq_one.mp circles.inside.2 with first | second
  · obtain ⟨verb, arguments, line, after, ticked, still⟩ := circles.shows first
    exact ⟨verb, arguments, line, after, by simp only [ticked], still⟩
  · obtain ⟨back, ticked, there, first⟩ := circles.returns second
    obtain ⟨verb, arguments, line, after, again, still⟩ := there.shows first
    exact ⟨verb, arguments, line, after, by simp only [ticked, again], still⟩

theorem Circles.commands (circles : Circles label play) (count : Nat) :
    ∃ last, play.afterCommands? count = some last := by
  induction count generalizing play with
  | zero => exact ⟨play, rfl⟩
  | succ count ih =>
      obtain ⟨verb, arguments, line, after, stepped, still⟩ := circles.step
      simp only [afterCommands?, stepped]
      exact ih still

end

theorem commands_without_end :
    let play := Playthrough.new (Script.ofText "== Start ==\nshow x\n-> Start").story {}
    ¬ ∃ count last, (feedAll count (opening count play).1 []).1 = .ended last := by
  rintro play ⟨count, last, ends⟩
  have tokens : (TokenStream.ofText "== Start ==\nshow x\n-> Start").tokens =
      [.label "Start" 1, .command "show" "x" 2, .jump "Start" 3, .endOfText 3] := by
    decide +kernel
  have nodes : play.story.labels.get? "Start" =
      some [.command "show" "x" 2, .jump "Start" 3] := by
    simp only [play, Playthrough.new, Script.ofText, tokens]
    rfl
  have circles : Circles "Start" play.start :=
    ⟨rfl, rfl, ⟨rfl, Nat.zero_le 1⟩, ⟨"show", "x", 2, 3, nodes⟩, by decide⟩
  obtain ⟨other, shown⟩ := circles.commands count
  rw [opening, present_pending shown, feedAll_pending] at ends
  contradiction

end Terminal

end StoryScript
