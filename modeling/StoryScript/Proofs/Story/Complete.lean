import StoryScript.Proofs.Story.Items

/-! Tokens with their payloads are read without complaint. -/

namespace StoryScript

def Token.IsComplete (token : Token) : Prop :=
  match token.kind, token.payload with
  | .dialogue, some (.dialogue ..) => True
  | .choice, some (.choice ..) => True
  | .trait, some (.trait ..) => True
  | .dialogue, _ | .choice, _ | .trait, _ => False
  | _, _ => True

theorem Cluster.complaints_eq_nil {cluster : Cluster} (orderly : cluster.Orderly)
    (complete : ∀ token ∈ cluster.tokens, token.IsComplete) : cluster.complaints = [] := by
  have wellFormed : cluster.malformed = [] := by
    cases cluster with
    | single token =>
        have complete := complete token List.mem_cons_self
        unfold Token.IsComplete at complete
        simp only [malformed]
        split <;> simp_all
    | menu first more =>
        rw [malformed, List.filter_eq_nil_iff]
        intro token member
        have complete := complete token member
        have kind := orderly token member
        unfold Token.IsComplete at complete
        split at complete <;> simp_all
    | character header traits =>
        rw [malformed, List.filter_eq_nil_iff]
        intro token member
        have complete := complete token (List.mem_cons_of_mem header member)
        have kind := orderly.2 token member
        unfold Token.IsComplete at complete
        split at complete <;> simp_all
    | stray first more => rfl
  rw [complaints, wellFormed]
  rfl

theorem Cluster.complaints_ofTokens {tokens : List Token}
    (complete : ∀ token ∈ tokens, token.IsComplete) :
    ∀ cluster ∈ Cluster.ofTokens tokens, cluster.complaints = [] := by
  intro cluster member
  refine complaints_eq_nil (orderly_ofTokens tokens cluster member) fun token inside => ?_
  apply complete
  rw [← flatMap_tokens_ofTokens tokens]
  exact List.mem_flatMap.mpr ⟨cluster, member, inside⟩

theorem Story.complaints_ofTokens {tokens : List Token}
    (complete : ∀ token ∈ tokens, token.IsComplete) : (Story.ofTokens tokens).complaints = [] := by
  have all : ∀ token ∈ Token.beforeEnd tokens, token.IsComplete :=
    fun token member => complete token (List.takeWhile_subset _ member)
  have joined := Token.cutAtLabels_joined (Token.beforeEnd tokens)
  generalize same : Token.cutAtLabels (Token.beforeEnd tokens) = cut at joined
  rw [← joined] at all
  have prologue := Cluster.complaints_ofTokens fun token member =>
    all token (List.mem_append_left _ member)
  have sections : ∀ part ∈ cut.2, ∀ cluster ∈ Cluster.ofTokens part.2,
      cluster.complaints = [] := by
    intro part member
    refine Cluster.complaints_ofTokens fun token inside => ?_
    apply all token
    exact List.mem_append_right _
      (List.mem_flatMap.mpr ⟨part, member, List.mem_cons_of_mem _ inside⟩)
  simp only [Token.beforeEnd] at same
  simp only [Story.ofTokens, Section.ofClusters_ofTokens, same, List.flatMap_map,
    List.append_eq_nil_iff, List.flatMap_eq_nil_iff]
  exact ⟨fun cluster member => prologue cluster (List.mem_of_mem_filter member), sections⟩

end StoryScript
