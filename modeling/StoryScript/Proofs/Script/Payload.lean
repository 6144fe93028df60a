import StoryScript.Proofs.Diagnostic.Overflow
import StoryScript.Proofs.Script.Turn
import StoryScript.Script

/-!
Every token that a line is read as has its payload, so that reading the tokens of a text as a story
gives no cause for complaint.
-/

namespace StoryScript

namespace TokenStream

theorem complete_ofLines (rows : List (List Char)) (number : Nat) (mode : Mode) :
    ∀ token ∈ (ofLines number mode rows).tokens, token.IsComplete := by
  induction rows generalizing number mode with
  | nil => simp [ofLines]
  | cons raw rest ih =>
      intro token member
      rcases List.mem_append.mp member with first | later
      · exact (turn_scanLine raw number mode).complete token (Option.mem_toList.mp first)
      · exact ih _ _ token later

theorem complete_ofText (text : String) :
    ∀ token ∈ (ofText text).tokens, token.IsComplete := by
  intro token member
  rcases List.mem_append.mp member with inside | last
  · exact complete_ofLines _ _ _ token inside
  · rw [List.mem_singleton.mp last]
    trivial

end TokenStream

namespace Script

theorem story_ofText (source : String) :
    (ofText source).story = (Story.ofTokens (TokenStream.ofText source).tokens).story := rfl

theorem complaints_ofText (source : String) :
    (ofText source).complaints = (TokenStream.ofText source).complaints := by
  have quiet := Story.complaints_ofTokens (TokenStream.complete_ofText source)
  rw [ofText, quiet, List.append_nil]

/-- The complaints about lines and those about tokens may go through buffers of their own. -/
theorem diagnostics_staged (source : String) :
    let stream := TokenStream.ofText source
    let reading := Story.ofTokens stream.tokens
    (ofText source).diagnostics =
      (Diagnostics.ofList stream.complaints).recordAll
        (Diagnostics.ofList reading.complaints).items := by
  intro stream reading
  have quiet : reading.complaints = [] :=
    Story.complaints_ofTokens (TokenStream.complete_ofText source)
  change Diagnostics.ofList (stream.complaints ++ reading.complaints) = _
  rw [Diagnostics.ofList, Diagnostics.recordAll_append, quiet]
  rfl

end Script

end StoryScript
