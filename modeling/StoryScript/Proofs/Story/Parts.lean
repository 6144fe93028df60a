import StoryScript.Story
import StoryScript.Table.Lookup

/-! The nodes of a story, those in the bodies of guards included. -/

namespace StoryScript

mutual

def Node.parts : Node → List Node
  | .guarded condition body line => .guarded condition body line :: Node.partsOf body
  | node => [node]

def Node.partsOf : List Node → List Node
  | [] => []
  | node :: rest => node.parts ++ Node.partsOf rest

end

def Story.parts (story : Story) : List Node :=
  story.labels.entries.flatMap fun entry => Node.partsOf entry.2

namespace Node

theorem mem_parts (node : Node) : node ∈ node.parts := by
  cases node <;> simp [parts]

theorem parts_eq_singleton {node : Node} (unguarded : node.isGuarded = false) :
    node.parts = [node] := by
  cases node with
  | guarded => contradiction
  | dialogue | assignment | command | menu | jump | character => simp [parts]

theorem parts_subset {nodes : List Node} {node : Node} (member : node ∈ nodes) :
    node.parts ⊆ partsOf nodes := by
  induction nodes with
  | nil => contradiction
  | cons head rest ih =>
      rw [partsOf]
      rcases List.mem_cons.mp member with rfl | later
      · exact List.subset_append_left _ _
      · exact List.Subset.trans (ih later) (List.subset_append_right _ _)

theorem exists_of_mem_partsOf {nodes : List Node} {part : Node} (member : part ∈ partsOf nodes) :
    ∃ node ∈ nodes, part ∈ node.parts := by
  induction nodes with
  | nil => contradiction
  | cons head rest ih =>
      rw [partsOf] at member
      rcases List.mem_append.mp member with first | later
      · exact ⟨head, List.mem_cons_self, first⟩
      · obtain ⟨node, inside, found⟩ := ih later
        exact ⟨node, List.mem_cons_of_mem head inside, found⟩

theorem body_parts_subset (condition : String) (body : List Node) (line : Nat) :
    partsOf body ⊆ (guarded condition body line).parts := by
  rw [parts]
  exact List.subset_cons_self _ _

end Node

theorem Story.partsOf_subset {story : Story} {label : String} {nodes : List Node}
    (found : story.labels.get? label = some nodes) : Node.partsOf nodes ⊆ story.parts :=
  fun _ member => List.mem_flatMap.mpr ⟨(label, nodes), (Table.mem_entries_iff ..).mpr found, member⟩

end StoryScript
