import StoryScript.Proofs.Script.Sequence
import StoryScript.Proofs.Story.Headers

/-!
The attributes of characters. A line is read as an attribute of the character in whose block it
stands, which is that of the last header before it, so that no attribute is filed under another
character. A character has those of them that follow its header without another token between.
-/

namespace StoryScript

open Text

namespace Token

/-- Every attribute names the character of the last header before it. `owner` is the one of the last
header before all tokens. -/
def AreFiled (owner : Option String) : List Token → Prop
  | [] => True
  | token :: rest =>
      match token.kind with
      | .character => AreFiled (some token.value) rest
      | .trait =>
          (∃ name value, owner = some name ∧ token.payload = some (.trait name value)) ∧
            AreFiled owner rest
      | _ => AreFiled owner rest

theorem areFiled_header {token : Token} (character : token.kind = .character)
    (owner : Option String) (rest : List Token) :
    AreFiled owner (token :: rest) ↔ AreFiled (some token.value) rest := by
  simp only [AreFiled, character]

theorem areFiled_trait {token : Token} (trait : token.kind = .trait) (owner : Option String)
    (rest : List Token) :
    AreFiled owner (token :: rest) ↔
      (∃ name value, owner = some name ∧ token.payload = some (.trait name value)) ∧
        AreFiled owner rest := by
  simp only [AreFiled, trait]

theorem areFiled_other {token : Token} (noHeader : token.kind ≠ .character)
    (noTrait : token.kind ≠ .trait) (owner : Option String) (rest : List Token) :
    AreFiled owner (token :: rest) ↔ AreFiled owner rest := by
  rw [AreFiled]
  split
  next character => exact absurd character noHeader
  next trait => exact absurd trait noTrait
  next => rfl

theorem AreFiled.after_header {before rest : List Token} {header : Token} {owner : Option String}
    (filed : AreFiled owner (before ++ header :: rest)) (character : header.kind = .character) :
    AreFiled (some header.value) rest := by
  induction before generalizing owner with
  | nil => exact (areFiled_header character owner rest).mp filed
  | cons token more ih =>
      rw [List.cons_append] at filed
      by_cases isHeader : token.kind = .character
      · exact ih ((areFiled_header isHeader owner _).mp filed)
      · by_cases isTrait : token.kind = .trait
        · exact ih ((areFiled_trait isTrait owner _).mp filed).2
        · exact ih ((areFiled_other isHeader isTrait owner _).mp filed)

theorem AreFiled.own {name : String} {block rest : List Token}
    (filed : AreFiled (some name) (block ++ rest))
    (noHeader : ∀ token ∈ block, token.kind ≠ .character) :
    ∀ token ∈ block, token.kind = .trait →
      ∃ value, token.payload = some (.trait name value) := by
  induction block with
  | nil => nofun
  | cons first more ih =>
      obtain ⟨other, others⟩ := List.forall_mem_cons.mp noHeader
      rw [List.cons_append] at filed
      by_cases isTrait : first.kind = .trait
      · obtain ⟨⟨_, value, same, payload⟩, later⟩ := (areFiled_trait isTrait _ _).mp filed
        obtain rfl := Option.some.inj same
        exact List.forall_mem_cons.mpr ⟨fun _ => ⟨value, payload⟩, ih later others⟩
      · have later := (areFiled_other other isTrait _ _).mp filed
        exact List.forall_mem_cons.mpr ⟨fun trait => absurd trait isTrait, ih later others⟩

end Token

namespace TokenStream

theorem areFiled_of_yields {number : Nat} {before : Mode} {scan : LineScan}
    (yields : scan.Yields number before) {owner : Option String}
    (known : ∀ name ∈ before.owner?, owner = some name) {rest : List Token}
    (later : ∀ owner, (∀ name ∈ scan.mode.owner?, owner = some name) → Token.AreFiled owner rest) :
    Token.AreFiled owner (scan.token.toList ++ rest) := by
  have kept {after : Mode} (stays : before.StaysIn after) :
      ∀ name ∈ after.owner?, owner = some name :=
    fun name own => known name (stays name own)
  cases yields with
  | nothing stays => exact later owner (kept stays)
  | complaint stays => exact later owner (kept stays)
  | statement statement stays =>
      have noHeader : (statement.token number).kind ≠ .character := by
        cases statement <;> exact nofun
      have noTrait : (statement.token number).kind ≠ .trait := by
        cases statement <;> exact nofun
      exact (Token.areFiled_other noHeader noTrait owner rest).mpr (later owner (kept stays))
  | speech =>
      refine (Token.areFiled_other ?_ ?_ owner rest).mpr (later owner nofun) <;> exact nofun
  | @header name note =>
      refine (Token.areFiled_header rfl owner rest).mpr (later (some name) ?_)
      exact fun own same => same
  | @trait character key value own =>
      have owned := known character own
      refine (Token.areFiled_trait rfl owner rest).mpr ⟨⟨character, value, owned, rfl⟩, later owner ?_⟩
      rintro _ ⟨rfl⟩
      exact owned

theorem areFiled_ofLines (rows : List (List Char)) (number : Nat) {mode : Mode}
    {owner : Option String} (known : ∀ name ∈ mode.owner?, owner = some name) :
    Token.AreFiled owner (ofLines number mode rows).tokens := by
  induction rows generalizing number mode owner with
  | nil => trivial
  | cons raw rest ih =>
      exact areFiled_of_yields (yields_scanLine raw number mode) known fun _ after =>
        ih (number + 1) after

end TokenStream

/-- The last header of a character among tokens, and what comes between it and the next header. -/
def Token.UnderHeader (tokens : List Token) (name : String) (header : Token)
    (block : List Token) : Prop :=
  ∃ before after, tokens = before ++ header :: (block ++ after) ∧
    header.kind = .character ∧ header.value = name ∧
    (∀ token ∈ block, token.kind ≠ .character) ∧
    (∀ token ∈ after.head?, token.kind = .character) ∧
    ∀ token ∈ after, token.kind = .character → token.value ≠ name

theorem Token.takeWhile_trait_block (rest : List Token) :
    (rest.takeWhile (·.kind != .character)).takeWhile (·.kind == .trait) =
      rest.takeWhile (·.kind == .trait) := by
  induction rest with
  | nil => rfl
  | cons token more ih =>
      cases kind : token.kind <;> simp [kind, ih]

theorem Story.cast_of_headers {tokens : List Token} {name : String} {profile : Profile}
    (found : (Story.ofTokens tokens).story.cast.get? name = some profile) :
    ∃ header block, Token.UnderHeader (Token.beforeEnd tokens) name header block ∧
      profile = header.profile block := by
  rw [Story.cast_ofTokens, Cluster.characters_ofTokens] at found
  obtain ⟨earlier, later, same, last⟩ := Table.last_of_get?_ofList found
  obtain ⟨front, back, cut, _, backMap⟩ := List.map_eq_append_iff.mp same
  obtain ⟨⟨header, rest⟩, others, rfl, entry, restMap⟩ := List.map_eq_cons_iff.mp backMap
  obtain ⟨rfl, rfl⟩ := Prod.mk.inj entry
  obtain ⟨⟨before, split⟩, character, remaining⟩ := Token.headers_cut cut
  refine ⟨header, rest.takeWhile (·.kind != .character), ⟨before,
    rest.dropWhile (·.kind != .character), ?_, character, rfl, ?_, ?_, ?_⟩, ?_⟩
  · rw [List.takeWhile_append_dropWhile, split]
  · intro token member
    exact bne_iff_ne.mp (List.all_eq_true.mp List.all_takeWhile token member)
  · intro token first
    simpa using Token.stops_dropWhile (·.kind != .character) rest token first
  · intro token member isHeader
    have inside := (Token.mem_headers_iff isHeader rest).mp (List.dropWhile_subset _ member)
    obtain ⟨other, listed, rfl⟩ := List.mem_map.mp inside
    exact last _ (restMap ▸ List.mem_map_of_mem (remaining ▸ listed))
  · rw [Token.profile, Token.profile, Token.takeWhile_trait_block]

/-- The characters of a text are those of its headers, and each has the attributes that follow its
last header without another token between. All attributes from there to the next header are read as
its own, so that none of them is filed under another character. -/
theorem Script.attributes_follow_header (source : String) :
    let tokens := Token.beforeEnd (TokenStream.ofText source).tokens
    let cast := (ofText source).story.cast
    (∀ name, name ∈ cast.names ↔
        ∃ header ∈ tokens, header.kind = .character ∧ header.value = name) ∧
      ∀ name profile, cast.get? name = some profile →
        ∃ header block, Token.UnderHeader tokens name header block ∧
          (∀ token ∈ block, token.kind = .trait →
            ∃ value, token.payload = some (.trait name value)) ∧
          profile.line = header.line ∧
          profile.attributes = Table.ofList
            ((block.takeWhile (·.kind == .trait)).filterMap Token.attribute?) := by
  intro tokens cast
  refine ⟨fun name => ?_, fun name profile found => ?_⟩
  · rw [show cast = _ from Story.cast_ofTokens _, Cluster.characters_ofTokens,
      Table.mem_names_ofList, List.map_map, List.mem_map]
    constructor
    · rintro ⟨entry, member, rfl⟩
      have character := Token.kind_of_header entry member
      exact ⟨entry.1, (Token.mem_headers_iff character _).mpr (List.mem_map_of_mem member),
        character, rfl⟩
    · rintro ⟨header, member, character, rfl⟩
      obtain ⟨entry, listed, rfl⟩ :=
        List.mem_map.mp ((Token.mem_headers_iff character _).mp member)
      exact ⟨entry, listed, rfl⟩
  · obtain ⟨header, block, under, rfl⟩ := Story.cast_of_headers found
    refine ⟨header, block, under, ?_, rfl, rfl⟩
    obtain ⟨before, after, split, character, rfl, noHeader, _⟩ := under
    have filed : Token.AreFiled none tokens := by
      rw [show tokens = _ from TokenStream.beforeEnd_ofText source]
      exact TokenStream.areFiled_ofLines _ 1 nofun
    rw [show tokens = _ from split] at filed
    exact (filed.after_header character).own noHeader

theorem Script.attribute_after_jump_lost :
    let source := "@char A\n  color: red\n  -> Start\n  mood: grim"
    (TokenStream.ofText source).tokens =
        [.character "A" 1, .trait "A" "color" "red" 2, .jump "Start" 3,
          .trait "A" "mood" "grim" 4, .endOfText 4] ∧
      ((ofText source).story.cast.get? "A").map (·.attributes.entries) =
        some [("color", "red")] := by
  decide +kernel

end StoryScript
