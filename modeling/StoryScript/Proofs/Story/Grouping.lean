import StoryScript.Proofs.Story.Items

/-! How runs of tokens are grouped: options to menus, attributes to their header. -/

namespace StoryScript

namespace Cluster

theorem ofTokens_cons (token : Token) (rest : List Token) :
    ofTokens (token :: rest) = attach token (ofTokens rest) :=
  rfl

theorem first_of_grouped {tokens : List Token} {cluster : Cluster} {rest : List Cluster}
    (grouped : ofTokens tokens = cluster :: rest) :
    cluster.Orderly ∧ tokens.head? = cluster.tokens.head? := by
  have orderly := orderly_ofTokens tokens cluster (by simp [grouped])
  have joined := flatMap_tokens_ofTokens tokens
  rw [grouped, List.flatMap_cons] at joined
  rw [← joined]
  refine ⟨orderly, ?_⟩
  cases cluster <;> rfl

/-- The kinds of tokens of which a run is one cluster. -/
inductive IsRun : TokenKind → (Token → List Token → Cluster) → Prop
  | options : IsRun .choice menu
  | traits : IsRun .trait stray

namespace IsRun

variable {kind : TokenKind} {group : Token → List Token → Cluster} (run : IsRun kind group)
include run

theorem ofTokens_ne {tokens : List Token} (apart : ∀ next ∈ tokens.head?, next.kind ≠ kind)
    (first : Token) (more : List Token) (rest : List Cluster) :
    ofTokens tokens ≠ group first more :: rest := by
  intro grouped
  obtain ⟨orderly, same⟩ := first_of_grouped grouped
  cases run with
  | options => exact absurd (orderly first List.mem_cons_self) (apart first same)
  | traits => exact absurd (orderly first List.mem_cons_self) (apart first same)

theorem attach_last {token : Token} (own : token.kind = kind) {tokens : List Token}
    (apart : ∀ next ∈ tokens.head?, next.kind ≠ kind) :
    attach token (ofTokens tokens) = group token [] :: ofTokens tokens := by
  have fresh := run.ofTokens_ne apart
  unfold attach
  cases run with
  | options => split <;> simp_all
  | traits => split <;> simp_all

theorem attach_group {token : Token} (own : token.kind = kind) (first : Token)
    (more : List Token) (rest : List Cluster) :
    attach token (group first more :: rest) = group token (first :: more) :: rest := by
  cases run with
  | options => simp [attach, own]
  | traits => simp [attach, own]

theorem ofTokens_run {token : Token} {more rest : List Token}
    (each : ∀ member ∈ token :: more, member.kind = kind)
    (apart : ∀ next ∈ rest.head?, next.kind ≠ kind) :
    ofTokens (token :: more ++ rest) = group token more :: ofTokens rest := by
  have own := each token List.mem_cons_self
  induction more generalizing token with
  | nil => exact run.attach_last own apart
  | cons second later ih =>
      have others : ∀ member ∈ second :: later, member.kind = kind :=
        fun member inside => each member (List.mem_cons_of_mem token inside)
      rw [List.cons_append, ofTokens_cons, ih others (others second List.mem_cons_self),
        run.attach_group own]

end IsRun

theorem ofTokens_single {token : Token} (rest : List Token) (single : token.kind ≠ .choice ∧
    token.kind ≠ .character ∧ token.kind ≠ .trait) :
    ofTokens (token :: rest) = .single token :: ofTokens rest := by
  rw [ofTokens_cons]
  unfold attach
  split <;> simp_all

theorem ofTokens_character {header : Token} (character : header.kind = .character)
    {traits rest : List Token} (each : ∀ trait ∈ traits, trait.kind = .trait)
    (apart : ∀ next ∈ rest.head?, next.kind ≠ .trait) :
    ofTokens (header :: (traits ++ rest)) = .character header traits :: ofTokens rest := by
  cases traits with
  | nil =>
      have fresh := IsRun.traits.ofTokens_ne apart
      rw [List.nil_append, ofTokens_cons]
      unfold attach
      split <;> simp_all
  | cons first more =>
      rw [ofTokens_cons, IsRun.traits.ofTokens_run each apart]
      simp [attach, character]

theorem characters_eq_nil {tokens : List Token} (none : ∀ token ∈ tokens, token.kind ≠ .character) :
    (ofTokens tokens).filterMap character? = [] := by
  rw [List.filterMap_eq_nil_iff]
  intro cluster member
  cases cluster with
  | character header traits =>
      have inside : header ∈ tokens := by
        rw [← flatMap_tokens_ofTokens tokens]
        exact List.mem_flatMap.mpr ⟨_, member, List.mem_cons_self⟩
      exact absurd (orderly_ofTokens tokens _ member).1 (none header inside)
  | single | menu | stray => rfl

end Cluster

end StoryScript
