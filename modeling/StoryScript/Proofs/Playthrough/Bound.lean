import StoryScript.Proofs.Playthrough.Operation

/-!
The bound on silent nodes: a step is cut when it has taken as many nodes as the bound allows without
one to show, and only then complains about them.
-/

namespace StoryScript.Playthrough

/-- Whether `count` ticks lead neither to a node that is shown nor to the end of the story. -/
def isCut (count : Nat) (play : Playthrough) : Bool :=
  match count with
  | 0 => true
  | count + 1 =>
      match play.tick with
      | .goesOn after => isCut count after
      | _ => false

def cutsStep (play : Playthrough) : Bool :=
  play.isRunning && play.isCut play.silentBound

def neverCut (play : Playthrough) : List Operation → Bool
  | [] => true
  | operation :: rest =>
      let isWhole := match operation with
        | .step => !play.cutsStep
        | _ => true
      isWhole && (play.perform operation).2.neverCut rest

/-- The playthroughs that up to `count` ticks start from, one after another. -/
def trail (count : Nat) (play : Playthrough) : List Playthrough :=
  match count with
  | 0 => []
  | count + 1 =>
      play :: match play.tick with
        | .goesOn after => trail count after
        | _ => []

def course (play : Playthrough) : List Playthrough :=
  if play.isRunning then play.trail play.silentBound else []

theorem course_keeps {holds : Playthrough → Prop}
    (goesOn : ∀ play after, holds play → play.tick = .goesOn after → holds after)
    {play : Playthrough} (before : holds play) : ∀ during ∈ play.course, holds during := by
  have along : ∀ count, ∀ play : Playthrough, holds play → ∀ during ∈ play.trail count,
      holds during := by
    intro count
    induction count with
    | zero => exact fun _ _ => nofun
    | succ count ih =>
        intro play before
        refine List.forall_mem_cons.mpr ⟨before, ?_⟩
        cases ticked : play.tick with
        | goesOn after => exact ih after (goesOn play after before ticked)
        | shows | runsOut | isLost => exact nofun
  unfold course
  split
  · exact along _ play before
  · exact nofun

theorem run_of_isCut {play : Playthrough} {count : Nat} (cut : play.isCut count = true) :
    ∃ label, (play.run count).1 = none ∧ (play.run count).2.diagnostics =
      play.diagnostics.record (Complaint.silent play.silentBound label).diagnostic := by
  induction count generalizing play with
  | zero => exact ⟨play.world.position.label, rfl, rfl⟩
  | succ count ih =>
      rw [isCut] at cut
      rw [run]
      cases ticked : play.tick with
      | goesOn after =>
          simp only [ticked] at cut
          have same := standing_of_goesOn ticked
          have bound : after.silentBound = play.silentBound := congrArg Standing.silentBound same
          have diagnostics : after.diagnostics = play.diagnostics :=
            congrArg Standing.diagnostics same
          obtain ⟨label, nothing, recorded⟩ := ih cut
          exact ⟨label, nothing, by rw [recorded, bound, diagnostics]⟩
      | shows | runsOut | isLost => simp [ticked] at cut

theorem cutsStep_iff {play : Playthrough} :
    play.cutsStep = true ↔ play.phase = .running ∧ play.isCut play.silentBound = true := by
  rw [cutsStep, isRunning, Bool.and_eq_true, beq_iff_eq]

theorem step_of_cutsStep {play : Playthrough} (cutsStep : play.cutsStep = true) :
    ∃ label, play.step.1 = none ∧ play.step.2.diagnostics =
      play.diagnostics.record (Complaint.silent play.silentBound label).diagnostic := by
  obtain ⟨running, cut⟩ := cutsStep_iff.mp cutsStep
  simp only [step, running]
  exact run_of_isCut cut

theorem length_trail_of_isCut {play : Playthrough} {count : Nat}
    (cut : play.isCut count = true) : (play.trail count).length = count := by
  induction count generalizing play with
  | zero => rfl
  | succ count ih =>
      rw [isCut] at cut
      rw [trail]
      cases ticked : play.tick with
      | goesOn after =>
          simp only [ticked] at cut
          exact congrArg (· + 1) (ih cut)
      | shows | runsOut | isLost => simp [ticked] at cut

theorem tick_diagnostics (play : Playthrough) :
    play.tick.after.diagnostics = play.diagnostics ∨
      ∃ label, play.tick.after.diagnostics =
        play.diagnostics.record (Complaint.noLabel label).diagnostic := by
  refine tick_cases (motive := fun tick => tick.after.diagnostics = play.diagnostics ∨
    ∃ label, tick.after.diagnostics = play.diagnostics.record (Complaint.noLabel label).diagnostic)
    play ?takes ?leaves ?runsOut ?isLost
  case takes =>
    intro node reached
    left
    cases node with
    | dialogue | command => exact congrArg Standing.diagnostics (standing_advance play)
    | menu => rfl
    | assignment | character | guarded | jump =>
        exact congrArg Standing.diagnostics (standing_of_goesOn (tick_of_node reached))
  case leaves | runsOut =>
    intros
    exact Or.inl rfl
  case isLost =>
    intro label
    exact Or.inr ⟨label, rfl⟩

theorem run_of_not_isCut {play : Playthrough} {count : Nat} (whole : play.isCut count = false) :
    (play.run count).2.diagnostics = play.diagnostics ∨
      ∃ label, (play.run count).2.diagnostics =
        play.diagnostics.record (Complaint.noLabel label).diagnostic := by
  induction count generalizing play with
  | zero => simp [isCut] at whole
  | succ count ih =>
      have last := tick_diagnostics play
      rw [isCut] at whole
      rw [run]
      cases ticked : play.tick with
      | goesOn after =>
          simp only [ticked] at whole
          have same : after.diagnostics = play.diagnostics :=
            congrArg Standing.diagnostics (standing_of_goesOn ticked)
          rw [← same]
          exact ih whole
      | shows | runsOut | isLost =>
          rw [ticked] at last
          exact last

/-- A step complains about silent nodes exactly when it is cut. -/
theorem complaints_of_step (play : Playthrough) :
    ∃ complaints : List Complaint,
      play.step.2.diagnostics =
          play.diagnostics.recordAll (complaints.map fun complaint => complaint.diagnostic) ∧
        (play.cutsStep = true ↔ ∃ complaint ∈ complaints, complaint.kind = .stepLimit) := by
  have single : ∀ complaint : Complaint, play.diagnostics.record complaint.diagnostic =
      play.diagnostics.recordAll ([complaint].map fun complaint => complaint.diagnostic) := by
    intro complaint
    rw [List.map_singleton, Diagnostics.recordAll_cons, Diagnostics.recordAll_nil]
  cases phase : play.phase with
  | notStarted =>
      refine ⟨[.notStarted], ?_, by simp [cutsStep, isRunning, phase, Complaint.kind]⟩
      simp only [step, phase, complain, single]
  | finished =>
      refine ⟨[], ?_, by simp [cutsStep, isRunning, phase]⟩
      simp only [step, phase, List.map_nil, Diagnostics.recordAll_nil]
  | running =>
      have cutsStep : play.cutsStep = play.isCut play.silentBound := by
        simp [cutsStep, isRunning, phase]
      simp only [step, phase, cutsStep]
      cases cut : play.isCut play.silentBound with
      | true =>
          obtain ⟨label, _, recorded⟩ := run_of_isCut cut
          exact ⟨[.silent play.silentBound label], by rw [recorded, single],
            by simp [Complaint.kind]⟩
      | false =>
          rcases run_of_not_isCut cut with same | ⟨label, recorded⟩
          · exact ⟨[], by rw [same, List.map_nil, Diagnostics.recordAll_nil], by simp⟩
          · exact ⟨[.noLabel label], by rw [recorded, single], by simp [Complaint.kind]⟩

end StoryScript.Playthrough
