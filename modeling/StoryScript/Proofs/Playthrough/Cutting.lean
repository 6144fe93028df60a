import StoryScript.Proofs.Playthrough.Bodies
import StoryScript.Proofs.Playthrough.Bound

/-!
The bound on silent nodes cuts a story and does nothing else to it. A greater bound makes no
difference before the first step that is cut, and that step is cut at a place which the longer one
comes through.
-/

namespace StoryScript

def Tick.map (change : Playthrough → Playthrough) : Tick → Tick
  | .shows node after => .shows node (change after)
  | .goesOn after => .goesOn (change after)
  | .runsOut label after => .runsOut label (change after)
  | .isLost label after => .isLost label (change after)

namespace Playthrough

def withBound (bound : Nat) (play : Playthrough) : Playthrough :=
  { play with silentBound := bound }

variable {play : Playthrough} {bound : Nat}

/-! No tick looks at the bound. -/

theorem world_withBound (bound : Nat) (play : Playthrough) :
    (play.withBound bound).world = play.world := rfl

theorem advance_withBound (bound : Nat) (play : Playthrough) :
    (play.withBound bound).advance = play.advance.withBound bound := by
  obtain ⟨story, world, bodies, phase, menu, silentBound, diagnostics⟩ := play
  cases bodies with
  | nil => rfl
  | cons frame outer => rfl

theorem enter_withBound (bound : Nat) (play : Playthrough) (body : List Node) :
    (play.withBound bound).enter body = (play.enter body).withBound bound := by
  simp only [enter, advance_withBound]
  split
  · rfl
  · rfl

theorem judgeGuard_withBound (bound : Nat) (play : Playthrough) (condition : String)
    (body : List Node) :
    (play.withBound bound).judgeGuard condition body =
      (play.judgeGuard condition body).withBound bound := by
  let verdict := play.world.judge condition
  let judged := { play with world := play.world.record verdict.complaints }
  simp only [judgeGuard, world_withBound]
  by_cases entered : ((play.world.judge condition).holds && !body.isEmpty) = true
  · simp only [entered, if_true]
    exact enter_withBound bound judged body
  · simp only [entered]
    exact advance_withBound bound judged

theorem execute_withBound (bound : Nat) (play : Playthrough) (node : Node) :
    (play.withBound bound).execute node = (play.execute node).map (withBound bound) := by
  cases node with
  | dialogue | command => exact congrArg _ (advance_withBound bound play)
  | menu choices line => rfl
  | assignment expression line =>
      exact congrArg _
        (advance_withBound bound { play with world := play.world.assign expression })
  | character name profile =>
      exact congrArg _ (advance_withBound bound
        { play with world := play.world.register name profile.attributes })
  | guarded condition body line =>
      exact congrArg _ (judgeGuard_withBound bound play condition body)
  | jump target line => rfl

theorem tick_withBound (bound : Nat) (play : Playthrough) :
    (play.withBound bound).tick = play.tick.map (withBound bound) := by
  have executed := execute_withBound bound play
  obtain ⟨story, world, bodies, phase, menu, silentBound, diagnostics⟩ := play
  unfold tick
  cases bodies with
  | cons frame outer =>
      simp only [withBound]
      cases frame.body[frame.next]? with
      | none => rfl
      | some node => exact executed node
  | nil =>
      simp only [withBound]
      cases story.labels.get? world.position.label with
      | none => rfl
      | some nodes =>
          simp only
          cases nodes[world.position.index]? with
          | none => rfl
          | some node => exact executed node

/-! A run that is not cut is the same with more ticks to spare, and one that is cut stops on the
way of a longer one. -/

theorem run_withBound {count larger : Nat} (whole : play.isCut count = false)
    (le : count ≤ larger) :
    (play.withBound bound).run larger =
      ((play.run count).1, (play.run count).2.withBound bound) := by
  induction count generalizing play larger with
  | zero => simp [isCut] at whole
  | succ count ih =>
      obtain ⟨more, rfl⟩ := Nat.exists_eq_add_of_le' le
      rw [isCut] at whole
      rw [← Nat.add_assoc, run, run, tick_withBound]
      cases ticked : play.tick with
      | goesOn after =>
          simp only [ticked] at whole
          exact ih whole (Nat.le_add_left count more)
      | shows | runsOut | isLost => rfl

theorem passes_of_isCut {count larger : Nat} (cut : play.isCut count = true)
    (le : count ≤ larger) :
    ∃ passed ∈ (play.withBound bound).trail larger ++ [((play.withBound bound).run larger).2],
      passed.world = (play.run count).2.world := by
  induction count generalizing play larger with
  | zero =>
      cases larger with
      | zero => exact ⟨_, List.mem_singleton_self _, rfl⟩
      | succ larger => exact ⟨play.withBound bound, List.mem_cons_self, rfl⟩
  | succ count ih =>
      obtain ⟨more, rfl⟩ := Nat.exists_eq_add_of_le' le
      rw [isCut] at cut
      rw [← Nat.add_assoc, trail, run, run, tick_withBound]
      cases ticked : play.tick with
      | goesOn after =>
          simp only [ticked] at cut
          obtain ⟨passed, member, same⟩ := ih cut (Nat.le_add_left count more)
          exact ⟨passed, List.mem_cons_of_mem _ member, same⟩
      | shows | runsOut | isLost => simp [ticked] at cut

theorem step_withBound (le : play.silentBound ≤ bound) (whole : play.cutsStep = false) :
    (play.withBound bound).step = (play.step.1, play.step.2.withBound bound) := by
  have phase : (play.withBound bound).phase = play.phase := rfl
  unfold step
  rw [phase]
  split
  · rfl
  · rfl
  next running =>
    simp only [cutsStep, isRunning, running, beq_self_eq_true, Bool.true_and] at whole
    exact run_withBound whole le

theorem passes_of_cutsStep (le : play.silentBound ≤ bound) (cutsStep : play.cutsStep = true) :
    ∃ passed ∈ (play.withBound bound).course ++ [(play.withBound bound).step.2],
      passed.world = play.step.2.world := by
  obtain ⟨running, cut⟩ := cutsStep_iff.mp cutsStep
  have still : (play.withBound bound).phase = .running := running
  simp only [course, isRunning, still, beq_self_eq_true, if_true, step, running]
  exact passes_of_isCut cut le

theorem choose?_withBound (bound : Nat) (play : Playthrough) (index : Nat) :
    (play.withBound bound).choose? index = (play.choose? index).map (withBound bound) := by
  obtain ⟨story, world, bodies, phase, menu, silentBound, diagnostics⟩ := play
  cases menu with
  | none => rfl
  | some choices =>
      simp only [choose?, withBound, Option.bind_eq_bind, Option.bind_some]
      cases choices[index]? with
      | none => rfl
      | some choice => rfl

theorem stop_withBound (bound : Nat) (play : Playthrough) :
    (play.withBound bound).stop = play.stop.withBound bound := by
  have running : (play.withBound bound).isRunning = play.isRunning := rfl
  unfold stop
  rw [running]
  split
  · rfl
  · rfl

theorem perform_withBound {operation : Operation} (le : play.silentBound ≤ bound)
    (whole : operation = .step → play.cutsStep = false) :
    (play.withBound bound).perform operation =
      ((play.perform operation).1, (play.perform operation).2.withBound bound) := by
  cases operation with
  | start | select | reset | amend => rfl
  | step => simp only [perform, step_withBound le (whole rfl)]
  | stop => simp only [perform, stop_withBound]
  | choose index =>
      simp only [perform, choose?_withBound]
      cases play.choose? index with
      | none => rfl
      | some after => rfl

def staysWhole (play : Playthrough) : List Happening → Bool
  | [] => true
  | happening :: rest =>
      let isWhole := match happening with
        | .asked .step => !play.cutsStep
        | _ => true
      isWhole && (play.undergo happening).staysWhole rest

theorem undergo_withBound {happening : Happening} (le : play.silentBound ≤ bound)
    (whole : happening = .asked .step → play.cutsStep = false) :
    (play.withBound bound).undergo happening = (play.undergo happening).withBound bound := by
  cases happening with
  | changed | heard => rfl
  | asked operation =>
      have first : operation = .step → play.cutsStep = false :=
        fun stepped => whole (congrArg Happening.asked stepped)
      exact congrArg Prod.snd (perform_withBound le first)

theorem following_withBound {happenings : List Happening} (le : play.silentBound ≤ bound)
    (whole : play.staysWhole happenings = true) :
    (play.withBound bound).following happenings =
      (play.following happenings).withBound bound := by
  induction happenings generalizing play with
  | nil => rfl
  | cons happening rest ih =>
      simp only [staysWhole, Bool.and_eq_true] at whole
      have first : happening = .asked .step → play.cutsStep = false := by
        rintro rfl
        simpa using whole.1
      have later := ih (play.silentBound_undergo happening ▸ le) whole.2
      rw [← undergo_withBound le first] at later
      exact later

/-- As long as no step of the playthrough with the smaller bound is cut, the larger bound makes no
difference to it, nor to its next reply. The first step that is cut leaves the story in a world that
the step with the larger bound comes through. -/
theorem bound_only_cuts (story : Story) (world : World) {smaller larger : PlaySettings}
    (le : smaller.maxSilentSteps ≤ larger.maxSilentSteps) {happenings : List Happening}
    (whole : (new story world smaller).staysWhole happenings = true) :
    let small := (new story world smaller).following happenings
    let large := (new story world larger).following happenings
    large = { small with silentBound := large.silentBound } ∧
      (∀ operation, (operation = .step → small.cutsStep = false) →
        (large.perform operation).1 = (small.perform operation).1) ∧
      (small.cutsStep = true →
        (∃ label, small.step.2.diagnostics =
          small.diagnostics.record (Complaint.silent small.silentBound label).diagnostic) ∧
        ∃ passed ∈ large.course ++ [large.step.2], passed.world = small.step.2.world) := by
  intro small large
  have bounds : max smaller.maxSilentSteps 1 ≤ max larger.maxSilentSteps 1 := by omega
  have same : large = small.withBound (max larger.maxSilentSteps 1) :=
    following_withBound bounds whole
  have kept : small.silentBound = max smaller.maxSilentSteps 1 :=
    silentBound_following _ happenings
  rw [← kept] at bounds
  refine ⟨by rw [same]; rfl, fun operation uncut => ?_, fun cutsStep => ⟨?_, ?_⟩⟩
  · rw [same, perform_withBound bounds uncut]
  · obtain ⟨label, _, recorded⟩ := step_of_cutsStep cutsStep
    exact ⟨label, recorded⟩
  · rw [same]
    exact passes_of_cutsStep bounds cutsStep

end Playthrough

def wheelStory : Story where
  labels := Table.ofList [
    ("Start", [.dialogue "Miller" "Round it goes." 2, .assignment "turns = 0" 3,
      .jump "Wheel" 4]),
    ("Wheel", [.assignment "turns += 1" 6, .jump "Wheel" 7])]
  cast := ∅

theorem wheelStory_cut :
    let smaller : PlaySettings := { maxSilentSteps := 4 }
    let larger : PlaySettings := { maxSilentSteps := 9 }
    let happenings : List Happening := [.asked .start, .asked .step]
    let small := (Playthrough.new wheelStory {} smaller).following happenings
    let large := (Playthrough.new wheelStory {} larger).following happenings
    smaller.maxSilentSteps ≤ larger.maxSilentSteps ∧
      (Playthrough.new wheelStory {} smaller).staysWhole happenings = true ∧
      large = { small with silentBound := large.silentBound } ∧ small.cutsStep = true ∧
      large.step.2.world.position ≠ small.step.2.world.position ∧
      ∃ passed ∈ large.course ++ [large.step.2], passed.world = small.step.2.world := by
  intro smaller larger happenings small large
  have le : smaller.maxSilentSteps ≤ larger.maxSilentSteps := by decide
  have whole : (Playthrough.new wheelStory {} smaller).staysWhole happenings = true := by
    decide +kernel
  have cut : small.cutsStep = true := by decide +kernel
  obtain ⟨same, _, stopped⟩ := Playthrough.bound_only_cuts wheelStory {} le whole
  exact ⟨le, whole, same, cut, by decide +kernel, (stopped cut).2⟩

end StoryScript
