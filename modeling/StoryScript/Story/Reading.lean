import StoryScript.Story
import StoryScript.Story.Cluster
import StoryScript.Text.Split

/-!
Reading tokens as a story. Nothing is refused: tokens that have no place are passed over, and those
that lack their payload are complained about.
-/

namespace StoryScript

structure Section where
  header : Token
  clusters : List Cluster

namespace Cluster

def malformed : Cluster → List Token
  | single token =>
      match token.kind, token.payload with
      | .dialogue, some (.dialogue ..) => []
      | .dialogue, _ => [token]
      | _, _ => []
  | menu first more => (first :: more).filter fun token =>
      match token.payload with
      | some (.choice ..) => false
      | _ => true
  | character _ traits => traits.filter fun token =>
      match token.payload with
      | some (.trait ..) => false
      | _ => true
  | stray .. => []

def complaints (cluster : Cluster) : List Diagnostic :=
  cluster.malformed.map fun token => (Complaint.payloadMissing token.kind).diagnostic token.line

def isCharacter : Cluster → Bool
  | character .. => true
  | _ => false

/-- The character that a cluster defines. The last of several values of an attribute counts, without
one layer of quotes. -/
def character? : Cluster → Option (String × Profile)
  | character header traits =>
      let attributes := traits.filterMap fun token =>
        match token.payload with
        | some (.trait _ value) =>
            some (token.value, String.ofList (Text.unquote value.toList))
        | _ => none
      some (header.value, ⟨Table.ofList attributes, header.line⟩)
  | _ => none

def choice? (token : Token) : Option Choice :=
  match token.payload with
  | some (.choice text target condition) => some ⟨text, target, condition⟩
  | _ => none

end Cluster

namespace Node

/-- Cuts nodes after the body of a guard: the nodes up to the next guard, and none after one that
transfers. -/
def splitBody : List Node → List Node × List Node
  | [] => ([], [])
  | node :: rest =>
      if node.isGuarded then ([], node :: rest)
      else if node.isTransfer then ([node], rest)
      else
        let (body, after) := splitBody rest
        (node :: body, after)

def guard (condition : String) (line : Nat) (rest : List Node) : List Node :=
  let (body, after) := splitBody rest
  guarded condition body line :: after

def attach (cluster : Cluster) (rest : List Node) : List Node :=
  match cluster with
  | .menu first more =>
      match (first :: more).filterMap Cluster.choice? with
      | [] => rest
      | choices => menu choices first.line :: rest
  | .single token =>
      match token.kind, token.payload with
      | .dialogue, some (.dialogue speaker text) => dialogue speaker text token.line :: rest
      | .assignment, some (.assignment expression) => assignment expression token.line :: rest
      | .assignment, _ => assignment token.value token.line :: rest
      | .command, some (.command verb arguments) => command verb arguments token.line :: rest
      | .command, _ => command token.value "" token.line :: rest
      | .jump, _ => jump token.value token.line :: rest
      | .condition, some (.condition condition) => guard condition token.line rest
      | .condition, _ => guard token.value token.line rest
      | _, _ => rest
  | _ => rest

def ofClusters (clusters : List Cluster) : List Node :=
  clusters.foldr attach []

end Node

namespace Section

def attach (cluster : Cluster) (rest : List Cluster × List Section) : List Cluster × List Section :=
  match cluster with
  | .single token =>
      if token.kind = .label then ([], ⟨token, rest.1⟩ :: rest.2) else (cluster :: rest.1, rest.2)
  | _ => (cluster :: rest.1, rest.2)

def ofClusters (clusters : List Cluster) : List Cluster × List Section :=
  clusters.foldr attach ([], [])

def redefined (seen : List String) : List Section → List String
  | [] => []
  | part :: rest =>
      let name := part.header.value
      (if seen.contains name then [name] else []) ++ redefined (name :: seen) rest

end Section

structure StoryReading where
  story : Story
  complaints : List Diagnostic
  redefined : List String

/-- Reads the tokens before the end of text. The last definition of a label or character counts;
characters count wherever they are defined. -/
def Story.ofTokens (tokens : List Token) : StoryReading :=
  let clusters := Cluster.ofTokens (tokens.takeWhile (·.kind != .endOfText))
  let (prologue, sections) := Section.ofClusters clusters
  { story :=
      { labels := Table.ofList (sections.map fun part =>
          (part.header.value, Node.ofClusters part.clusters))
        cast := Table.ofList (clusters.filterMap Cluster.character?) }
    complaints := (prologue.filter Cluster.isCharacter).flatMap Cluster.complaints ++
      sections.flatMap fun part => part.clusters.flatMap Cluster.complaints
    redefined := Section.redefined [] sections }

end StoryScript
