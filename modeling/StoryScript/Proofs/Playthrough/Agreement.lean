import StoryScript.Proofs.Playthrough.Alike
import StoryScript.Proofs.World.Agreement
import StoryScript.Trace

/-!
Playthroughs of one story, in worlds that agree on all to which the story refers, show the same and
stay in agreement.
-/

namespace StoryScript

def Story.references (story : Story) : List Reference :=
  story.labels.entries.flatMap fun entry => Node.referencesOf entry.2

theorem Story.referencesOf_subset {story : Story} {label : String} {nodes : List Node}
    (found : story.labels.get? label = some nodes) :
    Node.referencesOf nodes ⊆ story.references :=
  fun _ member => List.mem_flatMap.mpr ⟨(label, nodes), (Table.mem_entries_iff ..).mpr found, member⟩

namespace Playthrough

/-- Whether all that is yet to come refers to what is `known` alone. -/
structure Covered (known : Reference → Prop) (play : Playthrough) : Prop where
  story : ∀ reference ∈ play.story.references, known reference
  bodies : ∀ frame ∈ play.bodies, ∀ reference ∈ Node.referencesOf frame.body, known reference

/-- Playthroughs that differ in their worlds alone, and there in nothing that matters to them. -/
inductive Agrees (known : Reference → Prop) : Playthrough → Playthrough → Prop
  | intro {play : Playthrough} {world : World} : play.world.Agrees known world →
      play.Covered known → Agrees known play { play with world }

end Playthrough

namespace Playthrough

variable {known : Reference → Prop} {left right : Playthrough}

theorem Covered.node {play : Playthrough} {node : Node} (covered : play.Covered known)
    (reached : play.node? = some node) : ∀ reference ∈ node.references, known reference := by
  unfold node? at reached
  split at reached
  next frame outer bodies =>
    intro reference member
    refine covered.bodies frame (bodies ▸ List.mem_cons_self) reference ?_
    exact Node.references_subset (List.mem_of_getElem? reached) member
  next =>
    obtain ⟨nodes, found, atIndex⟩ := Option.bind_eq_some_iff.mp reached
    intro reference member
    refine covered.story reference (Story.referencesOf_subset found ?_)
    exact Node.references_subset (List.mem_of_getElem? atIndex) member

namespace Agrees

variable (agrees : Agrees known left right)
include agrees

theorem world : left.world.Agrees known right.world := by
  cases agrees with
  | intro world _ => exact world

theorem silentBound : right.silentBound = left.silentBound := by
  cases agrees with
  | intro => rfl

theorem node? : right.node? = left.node? := by
  cases agrees with
  | intro world _ => simp only [Playthrough.node?, world.position]

theorem advance : Agrees known left.advance right.advance := by
  cases agrees with
  | intro same covered =>
      unfold Playthrough.advance
      cases bodies : left.bodies with
      | nil => exact .intro same.advance ⟨covered.story, by simp⟩
      | cons frame outer =>
          have inner := covered.bodies
          rw [bodies, List.forall_mem_cons] at inner
          exact .intro same ⟨covered.story, List.forall_mem_cons.mpr inner⟩

theorem enter {body : List Node}
    (areKnown : ∀ reference ∈ Node.referencesOf body, known reference) :
    Agrees known (left.enter body) (right.enter body) := by
  have entered : ∀ {first second : Playthrough}, Agrees known first second →
      Agrees known { first with bodies := { body } :: first.bodies }
        { second with bodies := { body } :: second.bodies } := by
    intro first second agrees
    cases agrees with
    | intro same covered =>
        exact .intro same ⟨covered.story, List.forall_mem_cons.mpr ⟨areKnown, covered.bodies⟩⟩
  unfold Playthrough.enter
  split
  · exact entered agrees
  · exact entered agrees.advance

theorem withWorld {first second : World} (same : first.Agrees known second) :
    Agrees known { left with world := first } { right with world := second } := by
  cases agrees with
  | intro _ covered => exact .intro same ⟨covered.story, covered.bodies⟩

theorem judgeGuard {condition : String} {body : List Node}
    (judged : ∀ reference ∈ Comparison.referencesOf condition, known reference)
    (areKnown : ∀ reference ∈ Node.referencesOf body, known reference) :
    Agrees known (left.judgeGuard condition body) (right.judgeGuard condition body) := by
  have recorded := agrees.withWorld (agrees.world.record
    (right.world.judge condition).complaints (right.world.judge condition).complaints)
  simp only [Playthrough.judgeGuard, agrees.world.judge judged]
  split
  · exact recorded.enter areKnown
  · exact recorded.advance

theorem finish : Agrees known left.finish right.finish := by
  cases agrees with
  | intro same covered => exact .intro same ⟨covered.story, by simp [Playthrough.finish]⟩

theorem complain (complaint : Complaint) :
    Agrees known (left.complain complaint) (right.complain complaint) := by
  cases agrees with
  | intro same covered => exact .intro same ⟨covered.story, covered.bodies⟩

theorem select (target : String) : Agrees known (left.select target) (right.select target) := by
  cases agrees with
  | intro same covered =>
      exact .intro (same.jump target) ⟨covered.story, by simp [Playthrough.select]⟩

theorem execute {node : Node} (areKnown : ∀ reference ∈ node.references, known reference) :
    Tick.Lifts (Agrees known) (left.execute node) (right.execute node) := by
  cases node with
  | dialogue | command => exact .shows agrees.advance
  | menu choices line =>
      cases agrees with
      | intro same covered => exact .shows (.intro same ⟨covered.story, covered.bodies⟩)
  | assignment expression line =>
      rw [Node.references] at areKnown
      exact .goesOn (agrees.withWorld (agrees.world.assign areKnown)).advance
  | character name profile =>
      exact .goesOn (agrees.withWorld (agrees.world.register name profile.attributes)).advance
  | guarded condition body line =>
      rw [Node.references, List.forall_mem_append] at areKnown
      exact .goesOn (agrees.judgeGuard areKnown.1 areKnown.2)
  | jump target line =>
      cases agrees with
      | intro same covered => exact .goesOn (.intro (same.jump target) ⟨covered.story, nofun⟩)

theorem tick : Tick.Lifts (Agrees known) left.tick right.tick := by
  cases reached : left.node? with
  | some node =>
      have covered : left.Covered known := by
        cases agrees with
        | intro _ covered => exact covered
      rw [tick_of_node reached, tick_of_node (agrees.node?.trans reached)]
      exact agrees.execute (covered.node reached)
  | none =>
      have ended := agrees.finish
      have lost := fun label => (agrees.complain (.noLabel label)).finish
      cases agrees with
      | @intro world same covered =>
          unfold Playthrough.tick
          unfold Playthrough.node? at reached
          cases bodies : left.bodies with
          | cons frame outer =>
              have inner := covered.bodies
              rw [bodies, List.forall_mem_cons] at inner
              simp only [bodies] at reached
              simp only [reached]
              exact .goesOn (.intro same ⟨covered.story, inner.2⟩)
          | nil =>
              simp only [bodies, same.position] at reached
              simp only [same.position]
              cases found : left.story.labels.get? world.position.label with
              | none => exact .isLost (lost world.position.label)
              | some nodes =>
                  simp only [found, Option.bind_some] at reached
                  simp only [reached]
                  exact .runsOut ended

theorem appearance : left.appearance = right.appearance := by
  cases agrees with
  | intro same covered =>
      simp only [Playthrough.appearance, same.position, same.globals]
      rfl

theorem start : Agrees known left.start right.start := by
  cases agrees with
  | @intro world same covered =>
      refine .intro (World.agrees_registerAll same.startLabel ?_ same.globals ?_)
        ⟨covered.story, nofun⟩
      · exact congrArg (Position.mk · 0) same.startLabel
      · intro character key isKnown
        exact .inr (same.attributes character key isKnown)

theorem reset : Agrees known left.reset right.reset := by
  cases agrees with
  | intro same covered => exact .intro same.reset ⟨covered.story, nofun⟩

theorem amend (scene : Scene) :
    Agrees known { left with world := left.world.amend scene }
      { right with world := right.world.amend scene } :=
  agrees.withWorld ⟨agrees.world.startLabel, agrees.world.position, rfl, fun _ _ _ => rfl⟩

end Agrees

theorem alike_agrees (known : Reference → Prop) : Alike (Agrees known) where
  appearance := Agrees.appearance
  silentBound agrees := agrees.silentBound.symm
  tick := Agrees.tick
  complain complaint agrees := agrees.complain complaint
  finish := Agrees.finish
  start := Agrees.start
  select target agrees := agrees.select target
  reset := Agrees.reset
  amend scene agrees := agrees.amend scene

namespace Agrees

theorem exists_step (agrees : Agrees known left right) {node : Option Node} {first : Playthrough}
    (stepped : left.step = (node, first)) :
    ∃ second, right.step = (node, second) ∧ Agrees known first second := by
  obtain ⟨shown, after⟩ := (alike_agrees known).step agrees
  rw [stepped] at shown after
  exact ⟨right.step.2, Prod.ext shown.symm rfl, after⟩

end Agrees

end Playthrough

namespace Trace

open Playthrough (Agrees alike_agrees)

variable {known : Reference → Prop} {left right : Playthrough}

theorem follow?_agrees (agrees : Agrees known left right) (node : Node) :
    (follow? node left = none ∧ follow? node right = none) ∨
      ∃ first second, follow? node left = some first ∧ follow? node right = some second ∧
        Agrees known first second := by
  cases node with
  | menu choices line =>
      cases choices with
      | nil => exact .inl ⟨rfl, rfl⟩
      | cons first more => exact .inr ⟨_, _, rfl, rfl, agrees.select first.target⟩
  | dialogue | assignment | command | guarded | jump | character =>
      exact .inr ⟨_, _, rfl, rfl, agrees⟩

theorem run_agrees (agrees : Agrees known left right) (count : Nat) (shown : List Node) :
    (run count shown left).1 = (run count shown right).1 ∧
      Agrees known (run count shown left).2 (run count shown right).2 := by
  fun_induction run count shown left generalizing right with
  | case1 count shown left first stepped =>
      obtain ⟨second, same, after⟩ := agrees.exists_step stepped
      rw [run_ended shown count same]
      exact ⟨rfl, after⟩
  | case2 shown left node first stepped =>
      obtain ⟨second, same, after⟩ := agrees.exists_step stepped
      rw [run_full shown same]
      exact ⟨rfl, (alike_agrees known).stop after⟩
  | case3 shown left node first stepped count ended =>
      obtain ⟨second, same, after⟩ := agrees.exists_step stepped
      rcases follow?_agrees after node with ⟨_, last⟩ | ⟨_, _, goesOn, _⟩
      · rw [run_stuck shown count same last]
        exact ⟨rfl, (alike_agrees known).stop after⟩
      · rw [ended] at goesOn
        contradiction
  | case4 shown left node first stepped count next goesOn ih =>
      obtain ⟨second, same, after⟩ := agrees.exists_step stepped
      rcases follow?_agrees after node with ⟨last, _⟩ | ⟨_, other, also, followed, related⟩
      · rw [last] at goesOn
        contradiction
      · rw [goesOn] at also
        obtain rfl := Option.some.inj also
        rw [run_followed shown count same followed]
        exact ih related

end Trace

end StoryScript
