import StoryScript.Proofs.Story.Parts
import StoryScript.Proofs.Story.Placement

/-! The shape of the nodes that tokens are read as, whatever the tokens are: a guard takes the plain
nodes after it, up to the next guard or the first transfer. -/

namespace StoryScript

namespace Node

/-- Nodes as they stand under a label. A guard whose body could go on is the last of them, or another
guard follows it. -/
structure AreSettled (nodes : List Node) : Prop where
  each : ∀ node ∈ nodes, node.IsRegular
  closed : nodes.IsChain fun node next => node.isOpen = true → next.isGuarded = true

theorem isRegular_of_isPlain {node : Node} (plain : node.IsPlain) : node.IsRegular := by
  cases node with
  | guarded => exact plain.elim
  | dialogue | assignment | command | menu | jump | character => exact plain

theorem isPlain_of_isRegular {node : Node} (regular : node.IsRegular)
    (unguarded : node.isGuarded = false) : node.IsPlain := by
  cases node with
  | guarded => contradiction
  | dialogue | assignment | command | menu | jump | character => exact regular

theorem isOpen_eq_false {node : Node} (unguarded : node.isGuarded = false) :
    node.isOpen = false := by
  cases node with
  | guarded => contradiction
  | dialogue | assignment | command | menu | jump | character => rfl

theorem isBody_splitBody {nodes : List Node} (regular : ∀ node ∈ nodes, node.IsRegular) :
    IsBody (splitBody nodes).1 := by
  induction nodes with
  | nil => exact ⟨List.forall_mem_nil _, .nil⟩
  | cons node rest ih =>
      obtain ⟨first, later⟩ := List.forall_mem_cons.mp regular
      rw [splitBody]
      split
      next guarded => exact ⟨List.forall_mem_nil _, .nil⟩
      next unguarded =>
        have plain := isPlain_of_isRegular first (Bool.eq_false_iff.mpr unguarded)
        split
        next transfer => exact ⟨List.forall_mem_singleton.mpr plain, .singleton node⟩
        next stays =>
          obtain ⟨others, ending⟩ := ih later
          refine ⟨List.forall_mem_cons.mpr ⟨plain, others⟩, List.isChain_cons.mpr ⟨?_, ending⟩⟩
          intro _ _
          exact Bool.eq_false_iff.mpr stays

theorem head_after_splitBody {nodes : List Node}
    (returns : endsInTransfer (splitBody nodes).1 = false) :
    ∀ next ∈ (splitBody nodes).2.head?, next.isGuarded = true := by
  induction nodes with
  | nil => nofun
  | cons node rest ih =>
      rw [splitBody] at returns ⊢
      split
      next guarded => simpa using guarded
      next unguarded =>
        rw [if_neg unguarded] at returns
        split
        next transfer =>
          rw [if_pos transfer] at returns
          simp [endsInTransfer, transfer] at returns
        next stays =>
          rw [if_neg stays] at returns
          apply ih
          cases body : (splitBody rest).1 with
          | nil => rfl
          | cons first more =>
              simp only [body, endsInTransfer, List.getLast?_cons_cons] at returns ⊢
              exact returns

theorem areSettled_nil : AreSettled [] :=
  ⟨nofun, .nil⟩

theorem AreSettled.plain_cons {rest : List Node} (settled : AreSettled rest) {node : Node}
    (plain : node.IsPlain) : AreSettled (node :: rest) where
  each := List.forall_mem_cons.mpr ⟨isRegular_of_isPlain plain, settled.each⟩
  closed := by
    refine List.isChain_cons.mpr ⟨?_, settled.closed⟩
    intro next _ isOpen
    rw [isOpen_eq_false (isGuarded_of_isPlain plain)] at isOpen
    contradiction

theorem AreSettled.guard {rest : List Node} (settled : AreSettled rest) (condition : String)
    (line : Nat) : AreSettled (Node.guard condition line rest) where
  each := by
    have after : ∀ node ∈ (splitBody rest).2, node.IsRegular := by
      intro node member
      apply settled.each
      rw [← splitBody_joined rest]
      exact List.mem_append_right _ member
    exact List.forall_mem_cons.mpr ⟨isBody_splitBody settled.each, after⟩
  closed := by
    have chain := settled.closed
    rw [← splitBody_joined rest] at chain
    refine List.isChain_cons.mpr ⟨?_, chain.right_of_append⟩
    intro next first goesOn
    rw [isOpen, Bool.not_eq_true'] at goesOn
    exact head_after_splitBody goesOn next first

theorem AreSettled.attach {rest : List Node} (settled : AreSettled rest) (cluster : Cluster) :
    AreSettled (Node.attach cluster rest) := by
  cases cluster with
  | menu first more =>
      simp only [Node.attach]
      split
      next none => exact settled
      next choices some => exact settled.plain_cons some
  | single token =>
      simp only [Node.attach]
      split
      · exact settled.plain_cons trivial
      · exact settled.plain_cons trivial
      · exact settled.plain_cons trivial
      · exact settled.plain_cons trivial
      · exact settled.plain_cons trivial
      · exact settled.plain_cons trivial
      · exact settled.guard _ _
      · exact settled.guard _ _
      · exact settled
  | character | stray => exact settled

theorem areSettled_ofTokens (tokens : List Token) : AreSettled (ofTokens tokens) := by
  rw [ofTokens, ofClusters]
  induction Cluster.ofTokens tokens with
  | nil => exact areSettled_nil
  | cons cluster rest ih => exact ih.attach cluster

theorem isRegular_of_mem_partsOf {nodes : List Node} (regular : ∀ node ∈ nodes, node.IsRegular)
    {part : Node} (member : part ∈ partsOf nodes) : part.IsRegular := by
  obtain ⟨node, inside, found⟩ := exists_of_mem_partsOf member
  have own := regular node inside
  cases node with
  | guarded condition body line =>
      rw [parts] at found
      rcases List.mem_cons.mp found with rfl | under
      · exact own
      · obtain ⟨inner, within, same⟩ := exists_of_mem_partsOf under
        have plain := own.plain inner within
        rw [parts_eq_singleton (isGuarded_of_isPlain plain)] at same
        rw [List.mem_singleton.mp same]
        exact isRegular_of_isPlain plain
  | dialogue | assignment | command | menu | jump | character =>
      rw [parts_eq_singleton rfl] at found
      rw [List.mem_singleton.mp found]
      exact own

end Node

namespace Story

theorem areSettled_ofTokens {tokens : List Token} {label : String} {nodes : List Node}
    (found : (ofTokens tokens).story.labels.get? label = some nodes) : Node.AreSettled nodes := by
  rw [labels_ofTokens] at found
  obtain ⟨earlier, later, same, _⟩ := Table.last_of_get?_ofList found
  have member : (label, nodes) ∈ earlier ++ (label, nodes) :: later := by simp
  rw [← same] at member
  obtain ⟨part, _, read⟩ := List.mem_map.mp member
  rw [← (Prod.mk.inj read).2]
  exact Node.areSettled_ofTokens part.2

theorem isRegular_ofTokens (tokens : List Token) :
    ∀ part ∈ (ofTokens tokens).story.parts, part.IsRegular := by
  intro part member
  obtain ⟨⟨label, nodes⟩, entry, under⟩ := List.mem_flatMap.mp member
  have found := (Table.mem_entries_iff ..).mp entry
  exact Node.isRegular_of_mem_partsOf (areSettled_ofTokens found).each under

end Story

end StoryScript
