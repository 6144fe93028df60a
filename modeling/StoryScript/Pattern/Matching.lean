import StoryScript.Pattern

/-!
Where patterns occur in a text. The places of a text, before its first character, between two and
after its last one, are the bits of a natural. A pattern leads from places to places, and it occurs
in a text when it leads anywhere from any of them.
-/

namespace StoryScript.Pattern

def WordEdge.holds (edge : WordEdge) (before after : Bool) : Bool :=
  match edge with
  | boundary => before != after
  | noBoundary => before == after
  | begins => !before && after
  | ends => before && !after
  | noneBefore => !before
  | noneAfter => !after

def isAsciiWord (c : Char) : Bool :=
  c.isAlphanum || c == '_'

def Edge.holds (edge : Edge) (before after : Option Char) : Bool :=
  match edge with
  | textStart => before.isNone
  | textEnd => after.isNone
  | lineStart => before.all (· == '\n')
  | lineEnd => after.all (· == '\n')
  | anyLineStart => before.all fun c => c == '\n' || (c == '\r' && after != some '\n')
  | anyLineEnd => after.all fun c => c == '\r' || (c == '\n' && before != some '\r')
  | word edge ascii =>
      let isWord := if ascii then isAsciiWord else Text.isWord
      edge.holds (before.any isWord) (after.any isWord)

structure Move where
  places : Nat
  advances : Bool

def ofBits (bits : List Bool) : Nat :=
  bits.foldr (fun bit places => 2 * places + bit.toNat) 0

def Part.moveIn (text : List Char) : Part → Move
  | char c => ⟨ofBits (text.map (· == c)), true⟩
  | oneOf set => ⟨ofBits (text.map set.contains), true⟩
  | edge condition =>
      let characters := text.map some
      ⟨ofBits (List.zipWith condition.holds (none :: characters) (characters ++ [none])), false⟩

def Move.lead (move : Move) (places : Nat) : Nat :=
  let taken := places &&& move.places
  if move.advances then taken <<< 1 else taken

/-- The places after exactly so many steps. Once they stay, all further steps keep them. -/
def exactly (step : Nat → Nat) : Nat → Nat → Nat
  | 0, places => places
  | count + 1, places =>
      let next := step places
      if next = places then places else exactly step count next

def atMost (step : Nat → Nat) : Nat → Nat → Nat
  | 0, places => places
  | count + 1, places =>
      let more := places ||| step places
      if more = places then places else atMost step count more

/-- The places that moves lead to. Steps without a greatest count are as many as there are places,
after which there is none to add. -/
def Arrangement.lead (count : Nat) : Arrangement Move → Nat → Nat
  | empty, places => places
  | single move, places => move.lead places
  | sequence first second, places => second.lead count (first.lead count places)
  | choice first second, places => first.lead count places ||| second.lead count places
  | repeated least most body, places =>
      let further := match most with
        | some most => most - least
        | none => count
      atMost (body.lead count) further (exactly (body.lead count) least places)

def occursIn (pattern : Pattern) (text : String) : Bool :=
  let text := text.toList
  let count := text.length + 1
  (pattern.map (Part.moveIn text)).lead count ((1 <<< count) - 1) != 0

end StoryScript.Pattern
