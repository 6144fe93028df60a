import StoryScript.Proofs.Story.Grouping

/-! The characters of a story are those of the headers among its tokens, each with the attributes that
follow its last header without another token between them. -/

namespace StoryScript

namespace Token

def headers : List Token → List (Token × List Token)
  | [] => []
  | token :: rest =>
      if token.kind = .character then (token, rest) :: headers rest else headers rest

def attribute? (token : Token) : Option (String × String) :=
  match token.payload with
  | some (.trait _ value) => some (token.value, String.ofList (Text.unquote value.toList))
  | _ => none

def profile (header : Token) (rest : List Token) : Profile :=
  ⟨Table.ofList ((rest.takeWhile (·.kind == .trait)).filterMap attribute?), header.line⟩

theorem headers_cut {tokens rest : List Token} {header : Token}
    {earlier later : List (Token × List Token)}
    (cut : headers tokens = earlier ++ (header, rest) :: later) :
    (∃ before, tokens = before ++ header :: rest) ∧ header.kind = .character ∧
      headers rest = later := by
  induction tokens generalizing earlier with
  | nil => simp [headers] at cut
  | cons token more ih =>
      rw [headers] at cut
      split at cut
      next character =>
        cases earlier with
        | nil =>
            obtain ⟨first, last⟩ := List.cons.inj cut
            obtain ⟨rfl, rfl⟩ := Prod.mk.inj first
            exact ⟨⟨[], rfl⟩, character, last⟩
        | cons entry others =>
            obtain ⟨⟨before, same⟩, found⟩ := ih (List.cons.inj cut).2
            exact ⟨⟨token :: before, by rw [same, List.cons_append]⟩, found⟩
      next =>
        obtain ⟨⟨before, same⟩, found⟩ := ih cut
        exact ⟨⟨token :: before, by rw [same, List.cons_append]⟩, found⟩

theorem mem_headers_iff {header : Token} (character : header.kind = .character)
    (tokens : List Token) : header ∈ tokens ↔ header ∈ (headers tokens).map (·.1) := by
  induction tokens with
  | nil => rfl
  | cons token rest ih =>
      rw [headers, List.mem_cons, ih]
      split
      next => rw [List.map_cons, List.mem_cons]
      next other =>
        constructor
        · rintro (rfl | later)
          · exact absurd character other
          · exact later
        · exact Or.inr

theorem stops_dropWhile (within : Token → Bool) (tokens : List Token) :
    ∀ token ∈ (tokens.dropWhile within).head?, within token = false := by
  intro token first
  have stopped := List.head?_dropWhile_not within tokens
  rwa [Option.mem_def.mp first] at stopped

theorem kind_of_header {tokens : List Token} :
    ∀ entry ∈ headers tokens, entry.1.kind = .character := by
  intro entry member
  obtain ⟨earlier, later, cut⟩ := List.append_of_mem member
  exact (headers_cut cut).2.1

end Token

namespace Cluster

theorem characters_attach {token : Token} (other : token.kind ≠ .character)
    (clusters : List Cluster) :
    (attach token clusters).filterMap character? = clusters.filterMap character? := by
  unfold attach
  split <;> simp_all [List.filterMap_cons, character?]

theorem characters_dropWhile (tokens : List Token) :
    (ofTokens (tokens.dropWhile (·.kind == .trait))).filterMap character? =
      (ofTokens tokens).filterMap character? := by
  induction tokens with
  | nil => rfl
  | cons token rest ih =>
      rw [List.dropWhile_cons]
      split
      next trait =>
        have other : token.kind ≠ .character := by simp [eq_of_beq trait]
        rw [ih, ofTokens_cons, characters_attach other]
      next => rfl

/-- A header has the attributes right after it, and no token changes what those after it define. -/
theorem characters_ofTokens (tokens : List Token) :
    (ofTokens tokens).filterMap character? =
      (Token.headers tokens).map fun entry => (entry.1.value, entry.1.profile entry.2) := by
  induction tokens with
  | nil => rfl
  | cons token rest ih =>
      rw [Token.headers]
      split
      next character =>
        have traits : ∀ trait ∈ rest.takeWhile (·.kind == .trait), trait.kind = .trait :=
          fun trait member => eq_of_beq (List.all_eq_true.mp List.all_takeWhile trait member)
        have apart : ∀ next ∈ (rest.dropWhile (·.kind == .trait)).head?, next.kind ≠ .trait := by
          intro next first
          exact ne_of_beq_false (Token.stops_dropWhile (·.kind == .trait) rest next first)
        -- The header makes one cluster with its attributes, which define no character themselves.
        have grouped := ofTokens_character character traits apart
        rw [List.takeWhile_append_dropWhile] at grouped
        rw [grouped, List.filterMap_cons, characters_dropWhile, ih, List.map_cons]
        rfl
      next other => rw [ofTokens_cons, characters_attach other, ih]

end Cluster

end StoryScript
