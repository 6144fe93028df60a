import StoryScript.Diagnostic

/-!
Tokens that belong together: a run of options is one menu, and the attributes after the header of a
character are its own. Every token is in one cluster, in its place.
-/

namespace StoryScript

inductive Cluster
  | single (token : Token)
  | menu (first : Token) (more : List Token)
  | character (header : Token) (traits : List Token)
  | stray (first : Token) (more : List Token)
  deriving Repr

namespace Cluster

def tokens : Cluster → List Token
  | single token => [token]
  | menu first more => first :: more
  | character header traits => header :: traits
  | stray first more => first :: more

def attach (token : Token) (clusters : List Cluster) : List Cluster :=
  match token.kind, clusters with
  | .choice, menu first more :: rest => menu token (first :: more) :: rest
  | .choice, rest => menu token [] :: rest
  | .character, stray first more :: rest => character token (first :: more) :: rest
  | .character, rest => character token [] :: rest
  | .trait, stray first more :: rest => stray token (first :: more) :: rest
  | .trait, rest => stray token [] :: rest
  | _, rest => single token :: rest

def ofTokens (tokens : List Token) : List Cluster :=
  tokens.foldr attach []

theorem flatMap_tokens_ofTokens (list : List Token) : (ofTokens list).flatMap tokens = list := by
  induction list with
  | nil => rfl
  | cons token rest ih =>
      have attached : ∀ clusters : List Cluster,
          (attach token clusters).flatMap tokens = token :: clusters.flatMap tokens := by
        intro clusters
        unfold attach
        split <;> simp [tokens]
      simpa [ofTokens, attached] using ih

end Cluster

end StoryScript
