import Mathlib.Data.List.Basic
import StoryScript.Proofs.Story.Segments
import StoryScript.Table.Lookup

/-! Reading keeps every token that has something to tell, once and in its order. -/

namespace StoryScript

/-- What is told at one place, apart from the way in which nodes are grouped. -/
inductive Item
  | dialogue (speaker text : String) (line : Nat)
  | assignment (expression : String) (line : Nat)
  | command (verb arguments : String) (line : Nat)
  | option (choice : Choice)
  | guard (condition : String) (line : Nat)
  | jump (target : String) (line : Nat)
  | character (name : String) (line : Nat)
  deriving DecidableEq, Repr

mutual

def Node.items : Node → List Item
  | .dialogue speaker text line => [.dialogue speaker text line]
  | .assignment expression line => [.assignment expression line]
  | .command verb arguments line => [.command verb arguments line]
  | .menu choices _ => choices.map .option
  | .guarded condition body line => .guard condition line :: Node.itemsOf body
  | .jump target line => [.jump target line]
  | .character name profile => [.character name profile.line]

def Node.itemsOf : List Node → List Item
  | [] => []
  | node :: rest => node.items ++ Node.itemsOf rest

end

/-- What a token tells. Dialogues and options need their payload, and the value of an assignment, a
command or a condition stands for one that is missing. -/
def Token.item? (token : Token) : Option Item :=
  match token.kind, token.payload with
  | .dialogue, some (.dialogue speaker text) => some (.dialogue speaker text token.line)
  | .choice, some (.choice text target condition) => some (.option ⟨text, target, condition⟩)
  | .assignment, some (.assignment expression) => some (.assignment expression token.line)
  | .assignment, _ => some (.assignment token.value token.line)
  | .command, some (.command verb arguments) => some (.command verb arguments token.line)
  | .command, _ => some (.command token.value "" token.line)
  | .condition, some (.condition condition) => some (.guard condition token.line)
  | .condition, _ => some (.guard token.value token.line)
  | .jump, _ => some (.jump token.value token.line)
  | _, _ => none

namespace Node

theorem itemsOf_append (left right : List Node) :
    itemsOf (left ++ right) = itemsOf left ++ itemsOf right := by
  induction left with
  | nil => rfl
  | cons node rest ih => rw [List.cons_append, itemsOf, itemsOf, ih, List.append_assoc]

theorem splitBody_joined (nodes : List Node) :
    (splitBody nodes).1 ++ (splitBody nodes).2 = nodes := by
  induction nodes with
  | nil => rfl
  | cons node rest ih =>
      rw [splitBody]
      split
      · rfl
      · split
        · rfl
        · rw [List.cons_append, ih]

theorem itemsOf_guard (condition : String) (line : Nat) (rest : List Node) :
    itemsOf (guard condition line rest) = .guard condition line :: itemsOf rest := by
  rw [guard, itemsOf, items, List.cons_append, ← itemsOf_append, splitBody_joined]

end Node

namespace Cluster

def Orderly : Cluster → Prop
  | single token => token.kind ≠ .choice
  | menu first more => ∀ token ∈ first :: more, token.kind = .choice
  | character header traits => header.kind = .character ∧ ∀ token ∈ traits, token.kind = .trait
  | stray first more => ∀ token ∈ first :: more, token.kind = .trait

theorem orderly_attach (token : Token) {clusters : List Cluster}
    (orderly : ∀ cluster ∈ clusters, cluster.Orderly) :
    ∀ cluster ∈ attach token clusters, cluster.Orderly := by
  unfold attach
  split <;> simp_all [Orderly]

theorem orderly_ofTokens (tokens : List Token) :
    ∀ cluster ∈ ofTokens tokens, cluster.Orderly := by
  induction tokens with
  | nil => simp [ofTokens]
  | cons token rest ih => exact orderly_attach token ih

theorem choices_eq {tokens : List Token} (options : ∀ token ∈ tokens, token.kind = .choice) :
    (tokens.filterMap choice?).map Item.option = tokens.filterMap Token.item? := by
  rw [List.map_filterMap]
  apply List.filterMap_congr
  intro token member
  have kind := options token member
  unfold choice? Token.item?
  cases token.payload with
  | none => simp [kind]
  | some content => cases content <;> simp [kind]

theorem items_of_traits {tokens : List Token} (traits : ∀ token ∈ tokens, token.kind = .trait) :
    tokens.filterMap Token.item? = [] := by
  rw [List.filterMap_eq_nil_iff]
  intro token member
  simp [Token.item?, traits token member]

end Cluster

namespace Node

theorem itemsOf_attach {cluster : Cluster} (orderly : cluster.Orderly) (rest : List Node) :
    itemsOf (attach cluster rest) = cluster.tokens.filterMap Token.item? ++ itemsOf rest := by
  cases cluster with
  | menu first more =>
      have options := Cluster.choices_eq orderly
      rw [Cluster.tokens, ← options]
      simp only [attach]
      split
      next none =>
        rw [none]
        rfl
      next choices _ =>
        rw [itemsOf, items]
  | single token =>
      have notChoice : token.kind ≠ .choice := orderly
      simp only [attach, Cluster.tokens, List.filterMap_cons, List.filterMap_nil, Token.item?]
      split <;> simp_all [itemsOf, items, itemsOf_guard]
  | character header traits =>
      have none := Cluster.items_of_traits orderly.2
      simp [attach, Cluster.tokens, Token.item?, orderly.1, none]
  | stray first more =>
      have none := Cluster.items_of_traits orderly
      rw [Cluster.tokens, none]
      rfl

theorem itemsOf_ofClusters {clusters : List Cluster}
    (orderly : ∀ cluster ∈ clusters, cluster.Orderly) :
    itemsOf (ofClusters clusters) = (clusters.flatMap Cluster.tokens).filterMap Token.item? := by
  induction clusters with
  | nil => rfl
  | cons cluster rest ih =>
      obtain ⟨first, later⟩ := List.forall_mem_cons.mp orderly
      rw [ofClusters, List.foldr_cons, itemsOf_attach first, ← ofClusters, ih later,
        List.flatMap_cons, List.filterMap_append]

theorem itemsOf_ofTokens (tokens : List Token) :
    itemsOf (ofTokens tokens) = tokens.filterMap Token.item? := by
  rw [ofTokens, itemsOf_ofClusters (Cluster.orderly_ofTokens tokens),
    Cluster.flatMap_tokens_ofTokens]

end Node

namespace Token

def UnderLast (tokens : List Token) (name : String) (segment : List Token) : Prop :=
  ∃ before header after, tokens = before ++ header :: (segment ++ after) ∧
    header.kind = .label ∧ header.value = name ∧
    (∀ token ∈ segment, token.kind ≠ .label) ∧
    (∀ token ∈ after.head?, token.kind = .label) ∧
    ∀ token ∈ after, token.kind = .label → token.value ≠ name

def joined (parts : List (Token × List Token)) : List Token :=
  parts.flatMap fun part => part.1 :: part.2

theorem joined_head {parts : List (Token × List Token)}
    (headers : ∀ part ∈ parts, part.1.kind = .label) :
    ∀ token ∈ (joined parts).head?, token.kind = .label := by
  cases parts with
  | nil => simp [joined]
  | cons part rest =>
      intro token first
      obtain rfl : part.1 = token := by simpa [joined] using first
      exact headers part List.mem_cons_self

theorem label_mem_joined {parts : List (Token × List Token)}
    (labelled : ∀ part ∈ parts, part.1.kind = .label ∧ ∀ token ∈ part.2, token.kind ≠ .label)
    {token : Token} (label : token.kind = .label) :
    token ∈ joined parts ↔ ∃ part ∈ parts, part.1 = token := by
  rw [joined, List.mem_flatMap]
  constructor
  · rintro ⟨part, member, inside⟩
    rcases List.mem_cons.mp inside with same | later
    · exact ⟨part, member, same.symm⟩
    · exact ((labelled part member).2 token later label).elim
  · rintro ⟨part, member, rfl⟩
    exact ⟨part, member, List.mem_cons_self⟩

theorem label_mem_iff {tokens : List Token} {token : Token} (label : token.kind = .label) :
    token ∈ tokens ↔ ∃ part ∈ (cutAtLabels tokens).2, part.1 = token := by
  rw [← label_mem_joined (cutAtLabels_parts tokens) label]
  constructor
  · intro member
    rw [← cutAtLabels_joined tokens] at member
    rcases List.mem_append.mp member with before | after
    · exact (cutAtLabels_before tokens token before label).elim
    · exact after
  · intro member
    rw [← cutAtLabels_joined tokens]
    exact List.mem_append_right _ member

theorem underLast_of_parts {tokens : List Token} {earlier later : List (Token × List Token)}
    {part : Token × List Token} (cut : (cutAtLabels tokens).2 = earlier ++ part :: later)
    (last : ∀ other ∈ later, other.1.value ≠ part.1.value) :
    UnderLast tokens part.1.value part.2 := by
  have labelled := cutAtLabels_parts tokens
  rw [cut] at labelled
  have own := labelled part (by simp)
  have after : ∀ other ∈ later,
      other.1.kind = .label ∧ ∀ token ∈ other.2, token.kind ≠ .label := by
    intro other member
    exact labelled other (by simp [member])
  refine ⟨(cutAtLabels tokens).1 ++ joined earlier, part.1, joined later, ?_, own.1, rfl, own.2,
    joined_head fun other member => (after other member).1, ?_⟩
  · have whole := cutAtLabels_joined tokens
    rw [cut] at whole
    simpa [joined] using whole.symm
  · intro token member label
    obtain ⟨other, found, rfl⟩ := (label_mem_joined after label).mp member
    exact last other found

end Token

theorem Story.get?_of_underLast {tokens segment : List Token} {name : String}
    (under : Token.UnderLast (Token.beforeEnd tokens) name segment) :
    (Story.ofTokens tokens).story.labels.get? name = some (Node.ofTokens segment) := by
  obtain ⟨before, header, after, shape, label, rfl, within, apart, last⟩ := under
  have nothing : (Token.cutAtLabels after).1 = [] := by
    cases after with
    | nil => rfl
    | cons next rest => rw [Token.cutAtLabels_label (apart next rfl)]
  have cut : (Token.cutAtLabels (Token.beforeEnd tokens)).2 =
      (Token.cutAtLabels before).2 ++ (header, segment) :: (Token.cutAtLabels after).2 := by
    rw [shape, Token.cutAtLabels_append_label label, Token.cutAtLabels_label label,
      Token.cutAtLabels_append within, nothing, List.append_nil]
  rw [Story.labels_ofTokens, cut, List.map_append, List.map_cons]
  apply Table.get?_ofList_of_last
  intro entry member
  obtain ⟨part, found, rfl⟩ := List.mem_map.mp member
  have later := (Token.cutAtLabels_parts after part found).1
  exact last part.1 ((Token.label_mem_iff later).mpr ⟨part, found, rfl⟩) later

/-- The labels of a story are those among the tokens, and the nodes under each of them tell just what
the tokens under its last definition tell. -/
theorem story_keeps_items (tokens : List Token) :
    let labels := (Story.ofTokens tokens).story.labels
    labels.names.Nodup ∧
      (∀ name, name ∈ labels.names ↔
        ∃ token ∈ Token.beforeEnd tokens, token.kind = .label ∧ token.value = name) ∧
      ∀ name nodes, labels.get? name = some nodes →
        ∃ segment, Token.UnderLast (Token.beforeEnd tokens) name segment ∧
          Node.itemsOf nodes = segment.filterMap Token.item? := by
  intro labels
  refine ⟨labels.names_nodup, ?_, ?_⟩
  · intro name
    rw [show labels = _ from Story.labels_ofTokens tokens, Table.mem_names_ofList, List.map_map,
      List.mem_map]
    constructor
    · rintro ⟨part, member, rfl⟩
      have label := (Token.cutAtLabels_parts _ part member).1
      exact ⟨part.1, (Token.label_mem_iff label).mpr ⟨part, member, rfl⟩, label, rfl⟩
    · rintro ⟨token, member, label, rfl⟩
      obtain ⟨part, found, rfl⟩ := (Token.label_mem_iff label).mp member
      exact ⟨part, found, rfl⟩
  · intro name nodes found
    rw [show labels = _ from Story.labels_ofTokens tokens] at found
    obtain ⟨earlier, later, same, last⟩ := Table.last_of_get?_ofList found
    obtain ⟨front, back, cut, frontMap, backMap⟩ := List.map_eq_append_iff.mp same
    obtain ⟨part, rest, rfl, entry, restMap⟩ := List.map_eq_cons_iff.mp backMap
    obtain ⟨rfl, rfl⟩ := Prod.mk.inj entry
    refine ⟨part.2, Token.underLast_of_parts cut ?_, Node.itemsOf_ofTokens part.2⟩
    intro other member
    exact last _ (restMap ▸ List.mem_map_of_mem member)

end StoryScript
