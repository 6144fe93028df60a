import StoryScript.Diagnostic
import StoryScript.Story
import StoryScript.Value

/-!
The world of a story as it is told: its variables, the characters met so far, the place where the
story stands, and the complaints about its assignments and conditions.
-/

namespace StoryScript

structure Position where
  label : String
  index : Nat := 0
  deriving DecidableEq, Repr

def defaultStartLabel : String := "Start"

structure World where
  startLabel : String := defaultStartLabel
  position : Position := { label := startLabel }
  globals : Table Value := ∅
  cast : Table (Table String) := ∅
  diagnostics : Diagnostics := ∅

namespace World

def startingAt (label : String) : World :=
  { startLabel := label }

instance : Inhabited World := ⟨startingAt defaultStartLabel⟩

def set (world : World) (name : String) (value : Value) : World :=
  { world with globals := world.globals.insert name value }

def register (world : World) (name : String) (attributes : Table String) : World :=
  { world with cast := world.cast.insert name attributes }

def registerAll (world : World) (cast : Table Profile) : World :=
  { world with cast := world.cast.override (cast.map (·.attributes)) }

def attribute? (world : World) (character key : String) : Option String := do
  (← world.cast.get? character).get? key

/-- Goes to the first node of a label, whether or not there is such a label. -/
def jump (world : World) (label : String) : World :=
  { world with position := { label } }

def advance (world : World) : World :=
  { world with position := { world.position with index := world.position.index + 1 } }

/-- Forgets the variables and goes back to the start. The characters stay. -/
def reset (world : World) : World :=
  { world with globals := ∅, position := { label := world.startLabel } }

def record (world : World) (complaints : List Diagnostic) : World :=
  { world with diagnostics := world.diagnostics.recordAll complaints }

end World

end StoryScript
