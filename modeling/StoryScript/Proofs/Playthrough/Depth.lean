import StoryScript.Proofs.Playthrough.Bodies
import StoryScript.Proofs.Story.Shape

/-! In a story that is read from tokens a body holds no guard, so no more than one body is open. -/

namespace StoryScript

/-- At most one body is open, and there is no guard in it. -/
structure Playthrough.IsShallow (opened : List (List Node)) : Prop where
  depth : opened.length ≤ 1
  unguarded : ∀ body ∈ opened, ∀ node ∈ body, node.isGuarded = false

namespace Story

theorem keeps_isShallow {story : Story} (regular : ∀ part ∈ story.parts, part.IsRegular) :
    story.Keeps Playthrough.IsShallow where
  closed := ⟨Nat.zero_le 1, nofun⟩
  shift play bodies same shallow shift := by
    cases shift with
    | stays => exact shallow
    | closes => exact ⟨Nat.zero_le 1, nofun⟩
    | leaves opened =>
        rw [opened] at shallow
        refine ⟨Nat.le_of_succ_le shallow.depth, ?_⟩
        intro body member
        exact shallow.unguarded body (List.mem_cons_of_mem _ member)
    | @enters condition body line reached =>
        rcases Playthrough.place_of_node? reached with
          ⟨inner, outer, opened, member⟩ | ⟨opened, label, nodes, found, member⟩
        · have unguarded := shallow.unguarded inner (by simp [opened]) _ member
          contradiction
        · rw [same] at found
          have isRegular : (Node.guarded condition body line).IsRegular :=
            regular _ (partsOf_subset found (Node.parts_subset member (Node.mem_parts _)))
          rw [opened]
          refine ⟨Nat.le_refl 1, List.forall_mem_singleton.mpr ?_⟩
          intro node inside
          exact Node.isGuarded_of_isPlain (isRegular.plain node inside)

/-- Whatever the tokens are, all labels are settled. Whatever happens to a playthrough of the story,
also to its place, it is never in more than one body. -/
theorem settled_and_shallow (tokens : List Token) :
    let story := (ofTokens tokens).story
    (∀ label nodes, story.labels.get? label = some nodes → Node.AreSettled nodes) ∧
      ∀ (world : World) (settings : PlaySettings) (happenings : List Happening),
        ((Playthrough.new story world settings).following happenings).depth ≤ 1 := by
  intro story
  constructor
  · intro label nodes found
    exact areSettled_ofTokens found
  · intro world settings happenings
    have keeps := keeps_isShallow (isRegular_ofTokens tokens)
    have shallow := keeps.following (.new story world settings) rfl keeps.closed happenings
    have depth := shallow.depth
    rwa [Playthrough.opened, List.length_map] at depth

end Story

end StoryScript
