import StoryScript.Proofs.Playthrough.Simulation
import Mathlib.Data.List.Chain

/-!
How open bodies are nested. Each of them has been entered at a guard of the nodes around it, which
are those of the next body or of the label, and the place in these tells which guard it was. A body
that ends in a transfer is never read to its end.
-/

namespace StoryScript

/-- The guard of the inner body comes next in the outer nodes when that body ends in a transfer, and
stands just before what comes next otherwise. -/
def Frame.Encloses (outer inner : Frame) : Prop :=
  ∃ index condition line, outer.body[index]? = some (.guarded condition inner.body line) ∧
    outer.next = if Node.endsInTransfer inner.body then index else index + 1

/-- The next index is one of the body, or the one after its last, which is only reached in a body
that is to be returned from. -/
structure Frame.IsWithin (frame : Frame) : Prop where
  bounded : frame.next ≤ frame.body.length
  pending : Node.endsInTransfer frame.body = true → frame.next < frame.body.length

def Story.frameAt (story : Story) (position : Position) : Frame :=
  ⟨(story.labels.get? position.label).getD [], position.index⟩

namespace Playthrough

def cursors (play : Playthrough) : List Frame :=
  play.bodies ++ [play.story.frameAt play.world.position]

structure Nested (play : Playthrough) : Prop where
  chain : play.cursors.IsChain fun inner outer => outer.Encloses inner
  within : ∀ frame ∈ play.bodies, frame.IsWithin

variable {play after : Playthrough}

theorem exists_cursors (play : Playthrough) : ∃ cursor around, play.cursors = cursor :: around :=
  List.exists_cons_of_ne_nil (List.append_ne_nil_of_right_ne_nil _ (List.cons_ne_nil _ _))

theorem node?_eq_next {cursor : Frame} {around : List Frame}
    (cursors : play.cursors = cursor :: around) : play.node? = cursor.body[cursor.next]? := by
  unfold Playthrough.cursors at cursors
  unfold node?
  cases bodies : play.bodies with
  | cons frame outer =>
      rw [bodies, List.cons_append] at cursors
      obtain ⟨rfl, -⟩ := List.cons.inj cursors
      rfl
  | nil =>
      rw [bodies, List.nil_append] at cursors
      obtain ⟨rfl, -⟩ := List.cons.inj cursors
      simp only [Story.frameAt]
      cases play.story.labels.get? play.world.position.label with
      | none => rfl
      | some nodes => rfl

theorem cursors_advance {cursor : Frame} {around : List Frame}
    (cursors : play.cursors = cursor :: around) :
    play.advance.cursors = { cursor with next := cursor.next + 1 } :: around := by
  unfold Playthrough.cursors at cursors ⊢
  unfold advance
  cases bodies : play.bodies with
  | cons frame outer =>
      rw [bodies, List.cons_append] at cursors
      obtain ⟨rfl, rfl⟩ := List.cons.inj cursors
      rfl
  | nil =>
      rw [bodies, List.nil_append] at cursors
      obtain ⟨rfl, rfl⟩ := List.cons.inj cursors
      rfl

theorem nested_of_closed (closed : play.bodies = []) : play.Nested where
  chain := by
    rw [cursors, closed]
    exact List.isChain_singleton _
  within := by
    rw [closed]
    exact nofun

theorem Nested.of_place (nested : play.Nested) (story : after.story = play.story)
    (position : after.world.position = play.world.position)
    (bodies : after.bodies = play.bodies) : after.Nested where
  chain := by
    rw [cursors, story, position, bodies]
    exact nested.chain
  within := by
    rw [bodies]
    exact nested.within

theorem Nested.leave (nested : play.Nested) {frame : Frame} {outer : List Frame}
    (bodies : play.bodies = frame :: outer) :
    ({ play with bodies := outer } : Playthrough).Nested where
  chain := by
    have chain := nested.chain
    rw [cursors, bodies] at chain
    exact chain.tail
  within := by
    have within := nested.within
    rw [bodies] at within
    exact fun frame member => within frame (List.mem_cons_of_mem _ member)

theorem Nested.advance (nested : play.Nested) {node : Node} (reached : play.node? = some node)
    (passing : node.isTransfer = false) : play.advance.Nested where
  chain := by
    obtain ⟨cursor, around, cursors⟩ := play.exists_cursors
    have chain := nested.chain
    rw [cursors] at chain
    rw [cursors_advance cursors]
    -- What encloses a body does not depend on the place in it.
    have moved : ∀ outer : Frame, outer.Encloses cursor →
        outer.Encloses { cursor with next := cursor.next + 1 } := fun _ encloses => encloses
    exact chain.imp_head (moved _)
  within := by
    have within := nested.within
    unfold node? at reached
    unfold Playthrough.advance
    cases bodies : play.bodies with
    | nil => exact nofun
    | cons frame outer =>
        rw [bodies] at within
        simp only [bodies] at reached
        obtain ⟨bound, -⟩ := List.getElem?_eq_some_iff.mp reached
        obtain ⟨-, others⟩ := List.forall_mem_cons.mp within
        refine List.forall_mem_cons.mpr ⟨⟨bound, ?_⟩, others⟩
        exact fun transfers => endsInTransfer_last transfers reached passing

theorem Nested.opened (nested : play.Nested) {cursor : Frame} {around : List Frame}
    (cursors : play.cursors = cursor :: around) {body : List Node}
    (encloses : cursor.Encloses { body }) (filled : body ≠ []) :
    ({ play with bodies := { body } :: play.bodies } : Playthrough).Nested where
  chain := by
    have chain := nested.chain
    rw [cursors] at chain
    have grown : ({ body } :: play.cursors).IsChain fun inner outer => outer.Encloses inner := by
      rw [cursors]
      exact .cons_cons encloses chain
    exact grown
  within := by
    have start : ({ body } : Frame).IsWithin :=
      ⟨Nat.zero_le _, fun _ => List.length_pos_iff.mpr filled⟩
    exact List.forall_mem_cons.mpr ⟨start, nested.within⟩

theorem Nested.enter (nested : play.Nested) {condition : String} {body : List Node} {line : Nat}
    (reached : play.node? = some (.guarded condition body line)) (filled : body ≠ []) :
    (play.enter body).Nested := by
  obtain ⟨cursor, around, cursors⟩ := play.exists_cursors
  have guard : cursor.body[cursor.next]? = some (.guarded condition body line) :=
    (node?_eq_next cursors).symm.trans reached
  unfold Playthrough.enter
  by_cases transfers : Node.endsInTransfer body = true
  · have encloses : cursor.Encloses { body } :=
      ⟨cursor.next, condition, line, guard, (if_pos transfers).symm⟩
    simp only [transfers, if_true]
    exact nested.opened cursors encloses filled
  · have encloses : ({ cursor with next := cursor.next + 1 } : Frame).Encloses { body } :=
      ⟨cursor.next, condition, line, guard, (if_neg transfers).symm⟩
    simp only [transfers]
    exact (nested.advance reached rfl).opened (cursors_advance cursors) encloses filled

theorem Nested.judgeGuard (nested : play.Nested) {condition : String} {body : List Node}
    {line : Nat} (reached : play.node? = some (.guarded condition body line)) :
    (play.judgeGuard condition body).Nested := by
  let verdict := play.world.judge condition
  let judged : Playthrough := { play with world := play.world.record verdict.complaints }
  have same : judged.Nested := nested.of_place rfl rfl rfl
  simp only [Playthrough.judgeGuard]
  split
  next entered =>
    have filled : body ≠ [] := by
      rintro rfl
      simp at entered
    exact same.enter reached filled
  next => exact same.advance reached rfl

theorem Nested.execute (nested : play.Nested) {node : Node} (reached : play.node? = some node) :
    (play.execute node).after.Nested := by
  cases node with
  | dialogue | command => exact nested.advance reached rfl
  | menu choices line => exact nested.of_place rfl rfl rfl
  | assignment expression line =>
      have position := (World.assign_places play.world expression).2
      have assigned : ({ play with world := play.world.assign expression } : Playthrough).Nested :=
        nested.of_place rfl position rfl
      have again := node?_of_place play { play with world := play.world.assign expression } rfl
        position rfl
      exact assigned.advance (again.trans reached) rfl
  | character name profile =>
      have registered : ({ play with world := play.world.register name profile.attributes } :
          Playthrough).Nested := nested.of_place rfl rfl rfl
      exact registered.advance reached rfl
  | guarded condition body line => exact nested.judgeGuard reached
  | jump target line => exact nested_of_closed rfl

theorem Nested.tick (nested : play.Nested) : play.tick.after.Nested := by
  refine tick_cases (motive := fun tick => tick.after.Nested) play ?takes ?leaves ?runsOut ?isLost
  case takes => exact fun node reached => nested.execute reached
  case leaves => exact fun frame outer bodies _ => nested.leave bodies
  case runsOut | isLost => exact fun _ => nested_of_closed rfl

theorem Nested.goesOn (nested : play.Nested) (ticked : play.tick = .goesOn after) :
    after.Nested := by
  have ticks := nested.tick
  rwa [ticked] at ticks

theorem Nested.step (nested : play.Nested) : play.step.2.Nested := by
  unfold Playthrough.step
  split
  · exact nested.of_place rfl rfl rfl
  · exact nested
  · apply @run_ended Nested Nested _ _ _ _ play nested
    · exact fun _ _ before ticked => before.goesOn ticked
    · exact fun _ before _ => before.tick
    · exact fun _ _ _ => nested_of_closed rfl

theorem Nested.perform (nested : play.Nested) (operation : Operation) :
    (play.perform operation).2.Nested := by
  cases operation with
  | start | select | reset => exact nested_of_closed rfl
  | step => exact nested.step
  | choose index =>
      simp only [Playthrough.perform]
      split
      next after chosen =>
        obtain ⟨choices, choice, _, _, rfl⟩ := choose?_eq_some chosen
        exact nested_of_closed rfl
      next => exact nested
  | stop =>
      simp only [Playthrough.perform, Playthrough.stop]
      split
      · exact nested_of_closed rfl
      · exact nested
  | amend scene => exact nested.of_place rfl rfl rfl

theorem Nested.returns (nested : play.Nested) {frame : Frame} {outer : List Frame}
    (bodies : play.bodies = frame :: outer) (exhausted : play.node? = none) :
    play.tick = .goesOn { play with bodies := outer } ∧
      Node.endsInTransfer frame.body = false := by
  refine ⟨tick_of_exhausted bodies exhausted, ?_⟩
  unfold node? at exhausted
  simp only [bodies] at exhausted
  have passed : frame.body.length ≤ frame.next := List.getElem?_eq_none_iff.mp exhausted
  have within : frame.IsWithin := nested.within frame (by simp [bodies])
  rw [Bool.eq_false_iff]
  exact fun transfers => Nat.not_lt.mpr passed (within.pending transfers)

/-- After any operations, and before each tick of the step that may follow: every open body belongs
to a guard of the nodes around it, at their place or just before, as the body ends in a transfer or
not; the place in a body is not beyond its end; and the bodies that are left at their end are such
as do not end in a transfer. -/
theorem bodies_nested (story : Story) (world : World) (settings : PlaySettings)
    (operations : List Operation) :
    let play := (new story world settings).after operations
    ∀ during ∈ play :: play.course,
      (during.cursors.IsChain fun inner outer => outer.Encloses inner) ∧
        (∀ frame ∈ during.bodies, frame.next ≤ frame.body.length) ∧
        ∀ frame outer, during.bodies = frame :: outer → during.node? = none →
          during.tick = .goesOn { during with bodies := outer } ∧
            Node.endsInTransfer frame.body = false := by
  intro play
  have nested : play.Nested :=
    after_keeps Nested (fun _ operation before => before.perform operation)
      (nested_of_closed rfl) operations
  have throughout : ∀ during ∈ play :: play.course, during.Nested :=
    List.forall_mem_cons.mpr
      ⟨nested, course_keeps (fun _ _ before ticked => before.goesOn ticked) nested⟩
  intro during member
  have holds := throughout during member
  exact ⟨holds.chain, fun frame inside => (holds.within frame inside).bounded,
    fun _ _ bodies exhausted => holds.returns bodies exhausted⟩

end Playthrough

end StoryScript
