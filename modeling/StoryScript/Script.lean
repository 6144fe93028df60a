import StoryScript.Scan
import StoryScript.Story.Reading

/-!
A script: the story that a text tells, and all that was complained about in it.
-/

namespace StoryScript

structure Script where
  story : Story
  /-- What was complained about, of which a buffer may keep only a part. -/
  complaints : List Diagnostic
  /-- The labels that are defined more than once, at each repetition. -/
  redefined : List String

namespace Script

def ofText (source : String) : Script :=
  let stream := TokenStream.ofText source
  let reading := Story.ofTokens stream.tokens
  { story := reading.story
    complaints := stream.complaints ++ reading.complaints
    redefined := reading.redefined }

def diagnostics (script : Script) : Diagnostics :=
  Diagnostics.ofList script.complaints

end Script

end StoryScript
