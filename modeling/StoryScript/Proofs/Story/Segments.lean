import StoryScript.Story.Reading

/-! Tokens can be cut at their labels before they are read: the clusters of a section are those of
the tokens between its label and the next. -/

namespace StoryScript

def Token.cutAtLabels : List Token → List Token × List (Token × List Token)
  | [] => ([], [])
  | token :: rest =>
      let (before, parts) := cutAtLabels rest
      if token.kind = .label then ([], (token, before) :: parts) else (token :: before, parts)

namespace Token

theorem cutAtLabels_label {token : Token} (label : token.kind = .label) (rest : List Token) :
    cutAtLabels (token :: rest) =
      ([], (token, (cutAtLabels rest).1) :: (cutAtLabels rest).2) := by
  simp only [cutAtLabels, label, if_true]

theorem cutAtLabels_other {token : Token} (other : token.kind ≠ .label) (rest : List Token) :
    cutAtLabels (token :: rest) = (token :: (cutAtLabels rest).1, (cutAtLabels rest).2) := by
  simp only [cutAtLabels, other, if_false]

theorem cutAtLabels_append {front : List Token} (others : ∀ token ∈ front, token.kind ≠ .label)
    (rest : List Token) :
    cutAtLabels (front ++ rest) =
      (front ++ (cutAtLabels rest).1, (cutAtLabels rest).2) := by
  induction front with
  | nil => rfl
  | cons token more ih =>
      obtain ⟨first, later⟩ := List.forall_mem_cons.mp others
      rw [List.cons_append, cutAtLabels_other first, ih later]
      rfl

theorem cutAtLabels_append_label {header : Token} (label : header.kind = .label)
    (front rest : List Token) :
    cutAtLabels (front ++ header :: rest) =
      ((cutAtLabels front).1, (cutAtLabels front).2 ++ (cutAtLabels (header :: rest)).2) := by
  induction front with
  | nil =>
      rw [List.nil_append, cutAtLabels_label label]
      rfl
  | cons token more ih =>
      by_cases other : token.kind = .label
      · rw [List.cons_append, cutAtLabels_label other, cutAtLabels_label other, ih, List.cons_append]
      · rw [List.cons_append, cutAtLabels_other other, cutAtLabels_other other, ih]

theorem cutAtLabels_joined (tokens : List Token) :
    (cutAtLabels tokens).1 ++ (cutAtLabels tokens).2.flatMap (fun part => part.1 :: part.2) =
      tokens := by
  induction tokens with
  | nil => rfl
  | cons token rest ih =>
      by_cases label : token.kind = .label
      · rw [cutAtLabels_label label, List.flatMap_cons, List.nil_append, List.cons_append, ih]
      · rw [cutAtLabels_other label, List.cons_append, ih]

theorem cutAtLabels_before (tokens : List Token) :
    ∀ token ∈ (cutAtLabels tokens).1, token.kind ≠ .label := by
  induction tokens with
  | nil => simp [cutAtLabels]
  | cons token rest ih =>
      by_cases label : token.kind = .label
      · simp [cutAtLabels_label label]
      · rw [cutAtLabels_other label]
        exact List.forall_mem_cons.mpr ⟨label, ih⟩

theorem cutAtLabels_parts (tokens : List Token) :
    ∀ part ∈ (cutAtLabels tokens).2,
      part.1.kind = .label ∧ ∀ token ∈ part.2, token.kind ≠ .label := by
  induction tokens with
  | nil => simp [cutAtLabels]
  | cons token rest ih =>
      by_cases label : token.kind = .label
      · rw [cutAtLabels_label label]
        exact List.forall_mem_cons.mpr ⟨⟨label, cutAtLabels_before rest⟩, ih⟩
      · rw [cutAtLabels_other label]
        exact ih

end Token

namespace Section

theorem ofClusters_attach_label {token : Token} (label : token.kind = .label)
    (clusters : List Cluster) :
    ofClusters (Cluster.attach token clusters) =
      ([], ⟨token, (ofClusters clusters).1⟩ :: (ofClusters clusters).2) := by
  have single : Cluster.attach token clusters = .single token :: clusters := by
    simp [Cluster.attach, label]
  rw [single]
  simp [ofClusters, attach, label]

theorem ofClusters_attach_other {token : Token} (other : token.kind ≠ .label)
    (clusters : List Cluster) :
    ofClusters (Cluster.attach token clusters) =
      (Cluster.attach token (ofClusters clusters).1, (ofClusters clusters).2) := by
  unfold Cluster.attach
  cases clusters with
  | nil => split <;> simp_all [ofClusters, attach]
  | cons head rest =>
      cases head with
      | single first =>
          by_cases label : first.kind = .label
          · split <;> simp_all [ofClusters, attach]
          · split <;> simp_all [ofClusters, attach]
      | menu | character | stray => split <;> simp_all [ofClusters, attach]

theorem ofClusters_ofTokens (tokens : List Token) :
    ofClusters (Cluster.ofTokens tokens) =
      (Cluster.ofTokens (Token.cutAtLabels tokens).1,
        (Token.cutAtLabels tokens).2.map fun part => ⟨part.1, Cluster.ofTokens part.2⟩) := by
  induction tokens with
  | nil => rfl
  | cons token rest ih =>
      rw [Cluster.ofTokens, List.foldr_cons, ← Cluster.ofTokens]
      by_cases label : token.kind = .label
      · rw [ofClusters_attach_label label, ih, Token.cutAtLabels_label label]
        rfl
      · rw [ofClusters_attach_other label, ih, Token.cutAtLabels_other label]
        rfl

end Section

def Token.beforeEnd (tokens : List Token) : List Token :=
  tokens.takeWhile (·.kind != .endOfText)

def Node.ofTokens (tokens : List Token) : List Node :=
  Node.ofClusters (Cluster.ofTokens tokens)

theorem Story.labels_ofTokens (tokens : List Token) :
    (Story.ofTokens tokens).story.labels =
      Table.ofList ((Token.cutAtLabels (Token.beforeEnd tokens)).2.map fun part =>
        (part.1.value, Node.ofTokens part.2)) := by
  simp only [Story.ofTokens, Section.ofClusters_ofTokens, List.map_map]
  rfl

theorem Story.cast_ofTokens (tokens : List Token) :
    (Story.ofTokens tokens).story.cast =
      Table.ofList ((Cluster.ofTokens (Token.beforeEnd tokens)).filterMap Cluster.character?) :=
  rfl

theorem Section.redefined_eq_nil {seen : List String} {sections : List Section}
    (distinct : (sections.map (·.header.value)).Nodup)
    (fresh : ∀ part ∈ sections, part.header.value ∉ seen) : redefined seen sections = [] := by
  induction sections generalizing seen with
  | nil => rfl
  | cons part rest ih =>
      obtain ⟨first, later⟩ := List.forall_mem_cons.mp fresh
      rw [List.map_cons, List.nodup_cons] at distinct
      rw [redefined, ih distinct.2]
      · simp [first]
      · intro other member found
        rcases List.mem_cons.mp found with same | found
        · exact distinct.1 (List.mem_map.mpr ⟨other, member, same⟩)
        · exact later other member found

theorem Story.redefined_ofTokens {tokens : List Token}
    (distinct : ((Token.cutAtLabels (Token.beforeEnd tokens)).2.map (·.1.value)).Nodup) :
    (Story.ofTokens tokens).redefined = [] := by
  simp only [Story.ofTokens, Section.ofClusters_ofTokens]
  refine Section.redefined_eq_nil ?_ fun _ _ => List.not_mem_nil
  rw [List.map_map]
  exact distinct

end StoryScript
