import StoryScript.Proofs.Playthrough.Operation
import StoryScript.Script
import StoryScript.Trace

/-!
How a trace ends: after finitely many nodes, and with the story over. A trace looks at its bound
when it has taken a node, so that it exceeds a bound of no nodes by one.
-/

namespace StoryScript.Trace

/-- A trace as it unrolls, node after node. It is ended by nothing but what it looks at: the story,
the count of what has been shown, and the options of a menu. -/
inductive Unrolls (bound : Nat) : List Node → Playthrough → List Node × Playthrough → Prop
  | ended {shown play after} : play.step = (none, after) → Unrolls bound shown play (shown, after)
  | full {shown play node after} : play.step = (some node, after) →
      bound ≤ (shown ++ [node]).length → Unrolls bound shown play (shown ++ [node], after.stop)
  | stuck {shown play node after} : play.step = (some node, after) →
      (shown ++ [node]).length < bound → follow? node after = none →
      Unrolls bound shown play (shown ++ [node], after.stop)
  | follows {shown play node after next result} : play.step = (some node, after) →
      (shown ++ [node]).length < bound → follow? node after = some next →
      Unrolls bound (shown ++ [node]) next result → Unrolls bound shown play result

theorem Unrolls.eq_run {bound : Nat} {shown : List Node} {play : Playthrough}
    {result : List Node × Playthrough} (unrolls : Unrolls bound shown play result) :
    result = run (bound - (shown.length + 1)) shown.reverse play := by
  induction unrolls with
  | ended stepped => rw [run_ended _ _ stepped, List.reverse_reverse]
  | @full shown play node after stepped full =>
      rw [List.length_append, List.length_singleton] at full
      rw [Nat.sub_eq_zero_of_le full, run_full _ stepped, List.reverse_cons, List.reverse_reverse]
  | @stuck shown play node after stepped below stuck =>
      rw [List.length_append, List.length_singleton] at below
      obtain ⟨count, left⟩ := Nat.exists_eq_succ_of_ne_zero (Nat.sub_ne_zero_of_lt below)
      rw [left, run_stuck _ count stepped stuck, List.reverse_cons, List.reverse_reverse]
  | @follows shown play node after next result stepped below followed _ ih =>
      rw [List.length_append, List.length_singleton] at below ih
      obtain ⟨count, left⟩ := Nat.exists_eq_succ_of_ne_zero (Nat.sub_ne_zero_of_lt below)
      have less : bound - (shown.length + 1 + 1) = count := by omega
      rw [left, run_followed _ count stepped followed, ih, less, List.reverse_append]
      rfl

theorem unrolls_run {bound count : Nat} {shown : List Node} {play : Playthrough}
    (limit : count = bound - (shown.length + 1)) :
    Unrolls bound shown.reverse play (run count shown play) := by
  fun_induction run count shown play with
  | case1 count shown play after stepped => exact .ended stepped
  | case2 shown play node after stepped =>
      rw [List.reverse_cons]
      refine .full stepped ?_
      rw [List.length_append, List.length_reverse, List.length_singleton]
      omega
  | case3 shown play node after stepped count stuck =>
      rw [List.reverse_cons]
      refine .stuck stepped ?_ stuck
      rw [List.length_append, List.length_reverse, List.length_singleton]
      omega
  | case4 shown play node after stepped count next followed ih =>
      rw [List.length_cons, List.reverse_cons] at ih
      refine .follows stepped ?_ followed (ih (by omega))
      rw [List.length_append, List.length_reverse, List.length_singleton]
      omega

theorem length_run_le (count : Nat) (shown : List Node) (play : Playthrough) :
    (run count shown play).1.length ≤ shown.length + (count + 1) := by
  fun_induction run count shown play with
  | case1 count shown play after stepped =>
      rw [List.length_reverse]
      exact Nat.le_add_right _ _
  | case2 shown play node after stepped =>
      rw [List.length_reverse]
      exact Nat.le_refl _
  | case3 shown play node after stepped count stuck =>
      rw [List.length_reverse, List.length_cons]
      omega
  | case4 shown play node after stepped count next followed ih =>
      rw [List.length_cons] at ih
      omega

theorem running_of_followed {play after next : Playthrough} {node : Node}
    (running : play.phase = .running) (stepped : play.step = (some node, after))
    (followed : follow? node after = some next) : next.phase = .running := by
  have still := (Playthrough.running_of_step running stepped).2
  rcases follow?_eq_some followed with rfl | ⟨target, rfl⟩
  · exact still
  · exact still

theorem over_run (count : Nat) (shown : List Node) {play : Playthrough}
    (running : play.phase = .running) : (run count shown play).2.Over := by
  fun_induction run count shown play with
  | case1 count shown play after stepped => exact Playthrough.over_of_step running stepped
  | case2 shown play node after stepped =>
      exact Playthrough.over_of_stop (Playthrough.running_of_step running stepped).2
  | case3 shown play node after stepped count stuck =>
      exact Playthrough.over_of_stop (Playthrough.running_of_step running stepped).2
  | case4 shown play node after stepped count next followed ih =>
      exact ih (running_of_followed running stepped followed)

theorem areShown_cons {shown : List Node} {play after : Playthrough} {node : Node}
    (running : play.phase = .running) (stepped : play.step = (some node, after))
    (areShown : ∀ node ∈ shown, node.isShown = true) :
    ∀ other ∈ node :: shown, other.isShown = true :=
  List.forall_mem_cons.mpr ⟨(Playthrough.running_of_step running stepped).1, areShown⟩

theorem areShown_run (count : Nat) {shown : List Node} {play : Playthrough}
    (running : play.phase = .running) (areShown : ∀ node ∈ shown, node.isShown = true) :
    ∀ node ∈ (run count shown play).1, node.isShown = true := by
  fun_induction run count shown play with
  | case1 count shown play after stepped =>
      intro node member
      exact areShown node (List.mem_reverse.mp member)
  | case2 shown play node after stepped =>
      intro other member
      exact areShown_cons running stepped areShown other (List.mem_reverse.mp member)
  | case3 shown play node after stepped count stuck =>
      intro other member
      exact areShown_cons running stepped areShown other (List.mem_reverse.mp member)
  | case4 shown play node after stepped count next followed ih =>
      exact ih (running_of_followed running stepped followed) (areShown_cons running stepped areShown)

/-- In whatever state a playthrough is traced, its trace comes to one end: with nodes that are to be
shown, no more of them than its bound, and with the story over and nothing left open in it. A bound
of no nodes is kept only by a story that shows none, and exceeded by a single node. -/
theorem ofPlaythrough_ends (bound : Nat) (play : Playthrough) :
    let traced := ofPlaythrough bound play
    (∀ result, Unrolls bound [] play.start result ↔ result = traced) ∧
      (traced.1.length ≤ bound ↔ bound ≠ 0 ∨ play.start.step.1 = none) ∧
      traced.1.length ≤ max bound 1 ∧ (∀ node ∈ traced.1, node.isShown = true) ∧
      traced.2.phase = .finished ∧ traced.2.depth = 0 ∧ traced.2.menu = none := by
  intro traced
  have started : play.start.phase = .running := rfl
  have ended : traced.2.Over := over_run (bound - 1) [] started
  have length : traced.1.length ≤ [].length + (bound - 1 + 1) :=
    length_run_le (bound - 1) [] play.start
  rw [List.length_nil, Nat.zero_add] at length
  refine ⟨fun result => ⟨Unrolls.eq_run, ?_⟩, ?_, by omega,
    areShown_run (bound - 1) started nofun, ended.phase, ended.depth, ended.menu⟩
  · rintro rfl
    exact @unrolls_run bound (bound - 1) [] play.start rfl
  · cases bound with
    | succ less =>
        have kept : traced.1.length ≤ less + 1 := length
        exact iff_of_true kept (.inl (Nat.succ_ne_zero less))
    | zero =>
        rcases stepped : play.start.step with ⟨_ | node, after⟩
        · have nothing : traced = ([], after) := run_ended [] 0 stepped
          simp [nothing]
        · have one : traced = ([node], after.stop) := run_full [] stepped
          simp [one]

theorem empty_bound_exceeded :
    let play := Playthrough.new (Script.ofText "== Start ==\nName \"Hi\"").story {}
      { maxTraceNodes := 0 }
    ¬ (ofPlaythrough 0 play).1.length ≤ 0 := by
  decide +kernel

end StoryScript.Trace
