import StoryScript.Table

/-!
Stories: named lists of nodes, and the characters that take part. The nodes under a guard form a
list of their own.
-/

namespace StoryScript

/-- An entry of a menu. Its condition is shown to the reader and never enforced. -/
structure Choice where
  text : String
  target : String
  condition : Option String
  deriving DecidableEq, Repr

structure Profile where
  attributes : Table String
  line : Nat

inductive Node
  | dialogue (speaker text : String) (line : Nat)
  | assignment (expression : String) (line : Nat)
  | command (verb arguments : String) (line : Nat)
  | menu (choices : List Choice) (line : Nat)
  | guarded (condition : String) (body : List Node) (line : Nat)
  | jump (target : String) (line : Nat)
  | character (name : String) (profile : Profile)

namespace Node

def line : Node → Nat
  | dialogue _ _ line => line
  | assignment _ line => line
  | command _ _ line => line
  | menu _ line => line
  | guarded _ _ line => line
  | jump _ line => line
  | character _ profile => profile.line

/-- Whether the node is shown to the reader. All others take effect in silence. -/
def isShown : Node → Bool
  | dialogue .. => true
  | command .. => true
  | menu .. => true
  | _ => false

def isTransfer : Node → Bool
  | jump .. => true
  | menu .. => true
  | _ => false

def isGuarded : Node → Bool
  | guarded .. => true
  | _ => false

def endsInTransfer (nodes : List Node) : Bool :=
  nodes.getLast?.any isTransfer

end Node

structure Story where
  labels : Table (List Node)
  cast : Table Profile

instance : EmptyCollection Story := ⟨⟨∅, ∅⟩⟩

instance : Inhabited Story := ⟨∅⟩

end StoryScript
