import Mathlib.Data.List.Chain
import StoryScript.Proofs.Script.Statement
import StoryScript.Proofs.Story.Grouping

/-! Nodes written as statements, one under the other, are grouped into the same nodes again. -/

namespace StoryScript

namespace Node

mutual

def statements : Node → List Statement
  | dialogue speaker text _ => [.dialogue speaker text]
  | assignment expression _ => [.assignment expression]
  | command verb arguments _ => [.command verb arguments]
  | menu choices _ => choices.map .option
  | guarded condition body _ => .guard condition :: statementsOf body
  | jump target _ => [.jump target]
  | character _ _ => []

def statementsOf : List Node → List Statement
  | [] => []
  | node :: rest => node.statements ++ statementsOf rest

end

mutual

def placed (number : Nat) : Node → Node
  | dialogue speaker text _ => dialogue speaker text number
  | assignment expression _ => assignment expression number
  | command verb arguments _ => command verb arguments number
  | menu choices _ => menu choices number
  | guarded condition body _ => guarded condition (placedAll (number + 1) body) number
  | jump target _ => jump target number
  | character name profile => character name profile

def placedAll (number : Nat) : List Node → List Node
  | [] => []
  | node :: rest => node.placed number :: placedAll (number + node.statements.length) rest

end

def isMenu : Node → Bool
  | menu .. => true
  | _ => false

def IsPlain : Node → Prop
  | menu choices _ => choices ≠ []
  | guarded .. => False
  | character .. => False
  | _ => True

/-- What can stand under a guard: plain nodes, of which only the last transfers. -/
structure IsBody (body : List Node) : Prop where
  plain : ∀ node ∈ body, node.IsPlain
  ending : body.IsChain fun node _ => node.isTransfer = false

instance (node : Node) : Decidable node.IsPlain :=
  match node with
  | menu choices _ => inferInstanceAs (Decidable (choices ≠ []))
  | guarded .. => .isFalse id
  | character .. => .isFalse id
  | dialogue .. | assignment .. | command .. | jump .. => .isTrue trivial

instance (body : List Node) : Decidable (IsBody body) :=
  decidable_of_iff ((∀ node ∈ body, node.IsPlain) ∧
      body.IsChain fun node _ => node.isTransfer = false)
    ⟨fun ⟨plain, ending⟩ => ⟨plain, ending⟩, fun body => ⟨body.plain, body.ending⟩⟩

/-- Whether the next option would be one of the node's last menu. -/
def endsInMenu : Node → Bool
  | menu .. => true
  | guarded _ body _ => body.getLast?.any isMenu
  | _ => false

/-- Whether the next node would be one of its body, unless it is a guard. -/
def isOpen : Node → Bool
  | guarded _ body _ => !endsInTransfer body
  | _ => false

def IsRegular : Node → Prop
  | guarded _ body _ => IsBody body
  | node => node.IsPlain

instance (node : Node) : Decidable node.IsRegular :=
  match node with
  | guarded _ body _ => inferInstanceAs (Decidable (IsBody body))
  | character .. => .isFalse id
  | menu choices _ => inferInstanceAs (Decidable (choices ≠ []))
  | dialogue .. | assignment .. | command .. | jump .. => .isTrue trivial

def Parted (node next : Node) : Prop :=
  (node.endsInMenu = true → next.isMenu = false) ∧ (node.isOpen = true → next.isGuarded = true)

instance (node next : Node) : Decidable (Parted node next) :=
  inferInstanceAs (Decidable (_ ∧ _))

/-- Nodes that can be told from the lines they are written on. -/
structure AreRegular (nodes : List Node) : Prop where
  each : ∀ node ∈ nodes, node.IsRegular
  parted : nodes.IsChain Parted

instance (nodes : List Node) : Decidable (AreRegular nodes) :=
  decidable_of_iff ((∀ node ∈ nodes, node.IsRegular) ∧ nodes.IsChain Parted)
    ⟨fun ⟨each, parted⟩ => ⟨each, parted⟩, fun regular => ⟨regular.each, regular.parted⟩⟩

theorem ofTokens_single {token : Token} (rest : List Token) (single : token.kind ≠ .choice ∧
    token.kind ≠ .character ∧ token.kind ≠ .trait) :
    ofTokens (token :: rest) = attach (.single token) (ofTokens rest) := by
  rw [ofTokens, Cluster.ofTokens_single rest single]
  rfl

theorem ofTokens_guard (condition : String) (number : Nat) (rest : List Token) :
    ofTokens (Statement.token number (.guard condition) :: rest) =
      guard condition number (ofTokens rest) :=
  ofTokens_single rest (by simp [Statement.kind])

theorem filterMap_choice?_numbered (number : Nat) (choices : List Choice) :
    (Statement.numbered number (choices.map .option)).filterMap Cluster.choice? = choices := by
  induction choices generalizing number with
  | nil => rfl
  | cons choice rest ih =>
      rw [List.map_cons, Statement.numbered, List.filterMap_cons, ih]
      rfl

theorem kind_of_numbered_options {number : Nat} {choices : List Choice} :
    ∀ token ∈ Statement.numbered number (choices.map .option), token.kind = .choice := by
  induction choices generalizing number with
  | nil => simp [Statement.numbered]
  | cons choice rest ih =>
      rw [List.map_cons, Statement.numbered, List.forall_mem_cons]
      exact ⟨rfl, ih⟩

theorem ofTokens_options {choices : List Choice} (full : choices ≠ []) (number : Nat)
    {tokens : List Token} (apart : ∀ next ∈ tokens.head?, next.kind ≠ .choice) :
    ofTokens (Statement.numbered number (choices.map .option) ++ tokens) =
      menu choices number :: ofTokens tokens := by
  have kinds := @kind_of_numbered_options number choices
  have kept := filterMap_choice?_numbered number choices
  cases choices with
  | nil => contradiction
  | cons choice rest =>
      rw [List.map_cons, Statement.numbered] at kinds kept ⊢
      rw [ofTokens, Cluster.IsRun.options.ofTokens_run kinds apart, ofClusters, List.foldr_cons, attach, kept]
      rfl

theorem ofTokens_plain {node : Node} (plain : node.IsPlain) (number : Nat) {tokens : List Token}
    (apart : node.isMenu = true → ∀ next ∈ tokens.head?, next.kind ≠ .choice) :
    ofTokens (Statement.numbered number node.statements ++ tokens) =
      node.placed number :: ofTokens tokens := by
  cases node with
  | menu choices line =>
      rw [statements, placed]
      exact ofTokens_options plain number (apart rfl)
  | dialogue | assignment | command | jump =>
      exact ofTokens_single tokens (by simp [Statement.kind])
  | guarded | character => exact plain.elim

theorem IsBody.tail {node : Node} {rest : List Node} (body : IsBody (node :: rest)) :
    IsBody rest where
  plain other member := body.plain other (List.mem_cons_of_mem node member)
  ending := body.ending.tail

theorem IsBody.last_of_transfer {node : Node} {rest : List Node} (body : IsBody (node :: rest))
    (transfer : node.isTransfer = true) : rest = [] := by
  cases rest with
  | nil => rfl
  | cons second later =>
      have stays := (List.isChain_cons_cons.mp body.ending).1
      rw [transfer] at stays
      contradiction

theorem isTransfer_of_isMenu {node : Node} (menu : node.isMenu = true) :
    node.isTransfer = true := by
  cases node <;> first | rfl | contradiction

@[simp]
theorem isTransfer_placed (number : Nat) (node : Node) :
    (node.placed number).isTransfer = node.isTransfer := by
  cases node <;> simp [placed, isTransfer]

@[simp]
theorem isGuarded_placed (number : Nat) (node : Node) :
    (node.placed number).isGuarded = node.isGuarded := by
  cases node <;> simp [placed, isGuarded]

theorem isGuarded_of_isPlain {node : Node} (plain : node.IsPlain) : node.isGuarded = false := by
  cases node <;> first | rfl | exact plain.elim

theorem ofTokens_body {body : List Node} (isBody : IsBody body) (number : Nat)
    {tokens : List Token} (apart : body.getLast?.any isMenu = true →
      ∀ next ∈ tokens.head?, next.kind ≠ .choice) :
    ofTokens (Statement.numbered number (statementsOf body) ++ tokens) =
      placedAll number body ++ ofTokens tokens := by
  induction body generalizing number with
  | nil => rfl
  | cons node rest ih =>
      have later : rest.getLast?.any isMenu = true →
          ∀ next ∈ tokens.head?, next.kind ≠ .choice := by
        intro menu
        apply apart
        cases rest with
        | nil => contradiction
        | cons second more => rwa [List.getLast?_cons_cons]
      rw [statementsOf, Statement.numbered_append, List.append_assoc, placedAll, List.cons_append,
        ← ih isBody.tail (number + node.statements.length) later]
      refine ofTokens_plain (isBody.plain node List.mem_cons_self) number ?_
      intro menu
      obtain rfl := isBody.last_of_transfer (isTransfer_of_isMenu menu)
      exact apart (by simp [menu])

theorem splitBody_placedAll {body : List Node} (isBody : IsBody body) (number : Nat)
    {rest : List Node}
    (closed : endsInTransfer body = true ∨ ∀ next ∈ rest.head?, next.isGuarded = true) :
    splitBody (placedAll number body ++ rest) = (placedAll number body, rest) := by
  induction body generalizing number with
  | nil =>
      have closed := closed.resolve_left (by simp [endsInTransfer])
      cases rest with
      | nil => rfl
      | cons next later => simp [placedAll, splitBody, closed next rfl]
  | cons node more ih =>
      have unguarded := isGuarded_of_isPlain (isBody.plain node List.mem_cons_self)
      rw [placedAll, List.cons_append, splitBody]
      by_cases transfer : node.isTransfer = true
      · obtain rfl := isBody.last_of_transfer transfer
        simp [unguarded, transfer, placedAll]
      · have later : endsInTransfer more = true ∨ ∀ next ∈ rest.head?, next.isGuarded = true := by
          refine closed.imp_left fun ending => ?_
          cases more with
          | nil => simp [endsInTransfer, transfer] at ending
          | cons second last => rwa [endsInTransfer, List.getLast?_cons_cons] at ending
        simp [unguarded, transfer, ih isBody.tail _ later]

theorem AreRegular.tail {node : Node} {rest : List Node} (regular : AreRegular (node :: rest)) :
    AreRegular rest where
  each other member := regular.each other (List.mem_cons_of_mem node member)
  parted := regular.parted.tail

theorem kind_of_first {nodes : List Node} (regular : AreRegular nodes) (number : Nat)
    (other : ∀ node ∈ nodes.head?, node.isMenu = false) :
    ∀ token ∈ (Statement.numbered number (statementsOf nodes)).head?, token.kind ≠ .choice := by
  cases nodes with
  | nil => simp [statementsOf, Statement.numbered]
  | cons node rest =>
      have each := regular.each node List.mem_cons_self
      have other := other node rfl
      cases node with
      | menu => contradiction
      | character => exact each.elim
      | dialogue | assignment | command | jump | guarded =>
          rintro token ⟨rfl⟩
          simp [Statement.kind]

theorem head?_placedAll (number : Nat) (nodes : List Node) :
    (placedAll number nodes).head? = nodes.head?.map (placed number) := by
  cases nodes <;> rfl

/-- Regular nodes are read back from their statements, with the numbers of their lines. -/
theorem ofTokens_statementsOf {nodes : List Node} (regular : AreRegular nodes) (number : Nat) :
    ofTokens (Statement.numbered number (statementsOf nodes)) = placedAll number nodes := by
  induction nodes generalizing number with
  | nil => rfl
  | cons node rest ih =>
      have each := regular.each node List.mem_cons_self
      have parted : ∀ next ∈ rest.head?, Parted node next := by
        cases rest with
        | nil => simp
        | cons next later =>
            rintro other ⟨rfl⟩
            exact (List.isChain_cons_cons.mp regular.parted).1
      rw [statementsOf, Statement.numbered_append, placedAll]
      generalize number + node.statements.length = below
      have after := ih regular.tail below
      have apart : node.endsInMenu = true →
          ∀ token ∈ (Statement.numbered below (statementsOf rest)).head?, token.kind ≠ .choice := by
        intro menu
        exact kind_of_first regular.tail below fun next first => (parted next first).1 menu
      cases node with
      | guarded condition body line =>
          have isBody : IsBody body := each
          -- The body ends with its last node, or because the next node is a guard.
          have closed : endsInTransfer body = true ∨
              ∀ next ∈ (placedAll below rest).head?, next.isGuarded = true := by
            cases ending : endsInTransfer body with
            | true => exact .inl rfl
            | false =>
                right
                intro next first
                rw [head?_placedAll] at first
                obtain ⟨original, found, rfl⟩ := Option.map_eq_some_iff.mp first
                rw [isGuarded_placed]
                exact (parted original found).2 (by simp [isOpen, ending])
          rw [statements, Statement.numbered, List.cons_append, ofTokens_guard,
            ofTokens_body isBody (number + 1) apart, after, guard,
            splitBody_placedAll isBody (number + 1) closed, placed]
      | menu | dialogue | assignment | command | jump =>
          rw [← after]
          apply ofTokens_plain
          · exact each
          · exact fun menu => apart menu
      | character => exact each.elim

mutual

theorem kind_of_statements (node : Node) :
    ∀ statement ∈ node.statements, statement.kind ≠ .label := by
  cases node with
  | menu choices line =>
      rw [statements]
      intro statement member
      obtain ⟨choice, _, rfl⟩ := List.mem_map.mp member
      simp [Statement.kind]
  | guarded condition body line =>
      rw [statements, List.forall_mem_cons]
      exact ⟨by simp [Statement.kind], kind_of_statementsOf body⟩
  | dialogue | assignment | command | jump => simp [statements, Statement.kind]
  | character => simp [statements]

theorem kind_of_statementsOf (nodes : List Node) :
    ∀ statement ∈ statementsOf nodes, statement.kind ≠ .label := by
  cases nodes with
  | nil => simp [statementsOf]
  | cons node rest =>
      rw [statementsOf]
      intro statement member
      rcases List.mem_append.mp member with first | later
      · exact kind_of_statements node statement first
      · exact kind_of_statementsOf rest statement later

end

end Node

end StoryScript
