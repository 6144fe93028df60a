import StoryScript.Token

/-!
What is recorded about story content that cannot be used. Malformed content stops nothing: it is
complained about, and at most `Diagnostics.capacity` complaints of a buffer are kept.
-/

namespace StoryScript

inductive DiagnosticKind
  | unmatchedLine
  | unterminatedDialogue
  | malformedToken
  | unknownExpression
  | unknownCondition
  | missingLabel
  | notRunning
  | stepLimit
  deriving DecidableEq, Repr

structure Diagnostic where
  kind : DiagnosticKind
  line : Option Nat
  message : String
  deriving DecidableEq, Repr

def Diagnostic.text (diagnostic : Diagnostic) : String :=
  match diagnostic.line with
  | some line => s!"line {line}: {diagnostic.message}"
  | none => diagnostic.message

inductive Complaint
  | unknownPattern (line : String)
  /-- A character header came before the closing quote of a dialogue. -/
  | dialogueCut (speaker : String) (openedOn : Nat) (character : String)
  | dialogueOpen (speaker : String)
  | payloadMissing (kind : TokenKind)
  | noAssignment (text : String)
  | noComparison (text : String)
  | noLabel (name : String)
  | notStarted
  /-- Too many nodes in a row had nothing to show. -/
  | silent (bound : Nat) (label : String)
  deriving DecidableEq, Repr

namespace Complaint

def kind : Complaint → DiagnosticKind
  | unknownPattern _ => .unmatchedLine
  | dialogueCut .. => .unterminatedDialogue
  | dialogueOpen _ => .unterminatedDialogue
  | payloadMissing _ => .malformedToken
  | noAssignment _ => .unknownExpression
  | noComparison _ => .unknownCondition
  | noLabel _ => .missingLabel
  | notStarted => .notRunning
  | silent .. => .stepLimit

def message : Complaint → String
  | unknownPattern line => s!"unknown pattern: \"{line}\""
  | dialogueCut speaker openedOn character =>
      s!"dialogue of {speaker} opened on line {openedOn} cut by @char {character}"
  | dialogueOpen speaker => s!"dialogue of {speaker} never closed"
  | payloadMissing kind => s!"{kind.name} token without payload dropped"
  | noAssignment text => s!"unknown expression: {text}"
  | noComparison text => s!"unknown condition: {text}"
  | noLabel name => s!"label not found: {name}"
  | notStarted => "step() called before start()"
  | silent bound label => s!"no observable node within {bound} silent nodes (label {label})"

def diagnostic (complaint : Complaint) (line : Option Nat := none) : Diagnostic :=
  ⟨complaint.kind, line, complaint.message⟩

end Complaint

def Diagnostics.capacity : Nat := 1024

/-- A buffer that keeps its first entries and counts those for which it had no room. -/
structure Diagnostics where
  items : List Diagnostic := []
  dropped : Nat := 0
  bounded : items.length ≤ Diagnostics.capacity := by decide

namespace Diagnostics

instance : EmptyCollection Diagnostics := ⟨{}⟩

instance : Inhabited Diagnostics := ⟨∅⟩

def size (buffer : Diagnostics) : Nat :=
  buffer.items.length

def isEmpty (buffer : Diagnostics) : Bool :=
  buffer.items.isEmpty

def count (buffer : Diagnostics) (kind : DiagnosticKind) : Nat :=
  buffer.items.countP (·.kind == kind)

def record (buffer : Diagnostics) (entry : Diagnostic) : Diagnostics :=
  if free : buffer.size < capacity then
    { items := buffer.items ++ [entry]
      dropped := buffer.dropped
      bounded := by
        simp only [List.length_append, List.length_cons, List.length_nil]
        exact free }
  else { buffer with dropped := buffer.dropped + 1 }

def recordAll (buffer : Diagnostics) (entries : List Diagnostic) : Diagnostics where
  items := buffer.items ++ entries.take (capacity - buffer.size)
  dropped := buffer.dropped + (entries.length - (capacity - buffer.size))
  bounded := by
    have bounded := buffer.bounded
    simp only [List.length_append, List.length_take, size]
    omega

def ofList (entries : List Diagnostic) : Diagnostics :=
  recordAll ∅ entries

def take (buffer : Diagnostics) : List Diagnostic × Diagnostics :=
  (buffer.items, ∅)

theorem recordAll_cons (buffer : Diagnostics) (entry : Diagnostic) (entries : List Diagnostic) :
    buffer.recordAll (entry :: entries) = (buffer.record entry).recordAll entries := by
  have bounded := buffer.bounded
  unfold record
  split
  next free =>
    have room : capacity - buffer.size = (capacity - (buffer.size + 1)) + 1 := by omega
    simp only [recordAll, size, List.length_append, List.length_cons, List.length_nil] at room ⊢
    simp [room]
  next full =>
    have room : capacity - buffer.size = 0 := by omega
    simp only [recordAll, size] at room ⊢
    simp [room]
    omega

end Diagnostics

end StoryScript
