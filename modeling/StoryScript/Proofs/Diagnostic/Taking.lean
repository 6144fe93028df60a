import StoryScript.Proofs.Diagnostic.Overflow
import Mathlib.Data.List.DropRight

/-!
The life of a buffer. Entries come one by one, in lists and out of other buffers, and from time to
time all that is kept is taken; what counts at any time is what has come since.
-/

namespace StoryScript.Diagnostics

inductive Use
  | record (entry : Diagnostic)
  | recordAll (entries : List Diagnostic)
  | join (other : Diagnostics)
  | take

namespace Use

def isTake : Use → Bool
  | take => true
  | _ => false

def entries : Use → List Diagnostic
  | record entry => [entry]
  | recordAll entries => entries
  | join other => other.items
  | take => []

end Use

def perform (buffer : Diagnostics) : Use → List Diagnostic × Diagnostics
  | .record entry => ([], buffer.record entry)
  | .recordAll entries => ([], buffer.recordAll entries)
  | .join other => ([], buffer.recordAll other.items)
  | .take => buffer.take

def after (uses : List Use) : Diagnostics :=
  uses.foldl (fun buffer use => (buffer.perform use).2) ∅

/-- The entries that have come since the last time that a buffer was emptied. -/
def sinceTake (uses : List Use) : List Diagnostic :=
  (uses.rtakeWhile fun use => !use.isTake).flatMap Use.entries

theorem record_eq_recordAll (buffer : Diagnostics) (entry : Diagnostic) :
    buffer.record entry = buffer.recordAll [entry] := by
  rw [recordAll_cons, recordAll_nil]

theorem perform_of_records (buffer : Diagnostics) {use : Use} (records : use.isTake = false) :
    (buffer.perform use).2 = buffer.recordAll use.entries := by
  cases use with
  | record entry => exact record_eq_recordAll buffer entry
  | recordAll | join => rfl
  | take => contradiction

theorem after_concat (uses : List Use) (use : Use) :
    after (uses ++ [use]) = ((after uses).perform use).2 := by
  rw [after, List.foldl_concat, ← after]

theorem sinceTake_of_records (uses : List Use) {use : Use} (records : use.isTake = false) :
    sinceTake (uses ++ [use]) = sinceTake uses ++ use.entries := by
  rw [sinceTake, List.rtakeWhile_concat_pos _ _ _ (by simp [records]), List.flatMap_append,
    List.flatMap_singleton, ← sinceTake]

theorem sinceTake_take (uses : List Use) : sinceTake (uses ++ [.take]) = [] := by
  rw [sinceTake, List.rtakeWhile_concat_neg _ _ _ (by simp [Use.isTake]), List.flatMap_nil]

theorem after_eq_ofList (uses : List Use) : after uses = ofList (sinceTake uses) := by
  -- A use changes the end of the history, so the history grows at its end.
  induction uses using List.reverseRecOn with
  | nil => rfl
  | append_singleton uses use ih =>
      rw [after_concat, ih]
      cases records : use.isTake with
      | false =>
          rw [perform_of_records _ records, sinceTake_of_records uses records]
          exact (recordAll_append ∅ _ _).symm
      | true =>
          cases use with
          | take => exact (congrArg ofList (sinceTake_take uses)).symm
          | record | recordAll | join => contradiction

/-- Whatever has been done with a buffer, it keeps the first entries since it was last emptied, in
their order, and counts all others; and what is taken is what it keeps, and leaves it empty. -/
theorem first_since_take (uses : List Use) :
    let buffer := after uses
    let recorded := sinceTake uses
    buffer.items = recorded.take 1024 ∧
      buffer.dropped = (recorded.drop 1024).length ∧
      buffer.perform .take = (recorded.take 1024, ∅) := by
  intro buffer recorded
  have same : buffer = ofList recorded := after_eq_ofList uses
  have kept : buffer.items = recorded.take 1024 :=
    (congrArg Diagnostics.items same).trans (items_ofList recorded)
  have counted : buffer.dropped = (recorded.drop 1024).length :=
    (congrArg Diagnostics.dropped same).trans (length_drop_capacity recorded).symm
  exact ⟨kept, counted, congrArg (·, ∅) kept⟩

end StoryScript.Diagnostics
