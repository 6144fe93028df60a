import StoryScript.Diagnostic

/-! What a buffer keeps of the entries that are recorded in it, and what it only counts. -/

namespace StoryScript.Diagnostics

theorem ext {left right : Diagnostics} (items : left.items = right.items)
    (dropped : left.dropped = right.dropped) : left = right := by
  cases left
  cases right
  cases items
  cases dropped
  rfl

theorem recordAll_nil (buffer : Diagnostics) : buffer.recordAll [] = buffer :=
  ext (by simp [recordAll]) (by simp [recordAll])

theorem recordAll_append (buffer : Diagnostics) (first later : List Diagnostic) :
    buffer.recordAll (first ++ later) = (buffer.recordAll first).recordAll later := by
  induction first generalizing buffer with
  | nil => rw [List.nil_append, recordAll_nil]
  | cons entry rest ih => rw [List.cons_append, recordAll_cons, recordAll_cons, ih]

theorem recordAll_eq_foldl (buffer : Diagnostics) (entries : List Diagnostic) :
    buffer.recordAll entries = entries.foldl record buffer := by
  induction entries generalizing buffer with
  | nil => exact recordAll_nil buffer
  | cons entry rest ih => rw [recordAll_cons, ih, List.foldl_cons]

theorem items_ofList (entries : List Diagnostic) :
    (ofList entries).items = entries.take capacity :=
  List.nil_append _

theorem dropped_ofList (entries : List Diagnostic) :
    (ofList entries).dropped = entries.length - capacity :=
  Nat.zero_add _

theorem ofList_items (buffer : Diagnostics) :
    ofList buffer.items = { items := buffer.items, bounded := buffer.bounded } :=
  ext ((items_ofList _).trans (List.take_of_length_le buffer.bounded))
    ((dropped_ofList _).trans (Nat.sub_eq_zero_of_le buffer.bounded))

theorem items_append_drop (entries : List Diagnostic) :
    (ofList entries).items ++ entries.drop capacity = entries := by
  rw [items_ofList, List.take_append_drop]

theorem length_drop_capacity (entries : List Diagnostic) :
    (entries.drop capacity).length = (ofList entries).dropped := by
  rw [dropped_ofList, List.length_drop]

theorem take_append_take {front back kept : List Diagnostic}
    (same : kept.take capacity = back.take capacity) :
    (front.take capacity ++ kept).take capacity = (front ++ back).take capacity := by
  have room : capacity - min capacity front.length = capacity - front.length := by omega
  have cut := congrArg (List.take (capacity - front.length)) same
  rw [List.take_take, List.take_take, Nat.min_eq_left (Nat.sub_le _ _)] at cut
  rw [List.take_append, List.take_append, List.take_take, Nat.min_self, List.length_take, room, cut]

/-- Buffers keep together what one buffer would have kept of all their entries. -/
theorem items_ofList_flatMap (lists : List (List Diagnostic)) :
    (ofList (lists.flatMap fun entries => (ofList entries).items)).items =
      (ofList lists.flatten).items := by
  simp only [items_ofList]
  induction lists with
  | nil => rfl
  | cons entries rest ih =>
      rw [List.flatMap_cons, List.flatten_cons]
      exact take_append_take ih

theorem length_flatMap_items (lists : List (List Diagnostic)) :
    let kept := lists.flatMap fun entries => (ofList entries).items
    let lost := lists.flatMap (·.drop capacity)
    kept.length + lost.length = lists.flatten.length ∧ (lost = [] ∨ capacity ≤ kept.length) := by
  simp only [items_ofList, ← List.length_eq_zero_iff]
  induction lists with
  | nil => exact ⟨rfl, .inl rfl⟩
  | cons entries rest ih =>
      simp only [List.flatMap_cons, List.flatten_cons, List.length_append, List.length_take,
        List.length_drop]
      omega

/-- What a buffer drops is not counted by the buffer in which several are joined. -/
theorem dropped_ofList_flatMap (lists : List (List Diagnostic)) :
    (ofList (lists.flatMap fun entries => (ofList entries).items)).dropped +
        (lists.flatMap (·.drop capacity)).length =
      (ofList lists.flatten).dropped := by
  obtain ⟨total, lost⟩ := length_flatMap_items lists
  rw [← List.length_eq_zero_iff] at lost
  rw [dropped_ofList, dropped_ofList]
  omega

/-- Joined buffers are one buffer of all entries exactly when none of them has overflowed. -/
theorem ofList_flatMap_eq_iff (lists : List (List Diagnostic)) :
    ofList (lists.flatMap fun entries => (ofList entries).items) = ofList lists.flatten ↔
      ∀ entries ∈ lists, entries.length ≤ capacity := by
  have counted := dropped_ofList_flatMap lists
  have nothing : (lists.flatMap (·.drop capacity)).length = 0 ↔
      ∀ entries ∈ lists, entries.length ≤ capacity := by
    rw [List.length_eq_zero_iff, List.flatMap_eq_nil_iff]
    simp only [List.drop_eq_nil_iff]
  rw [← nothing]
  constructor
  · intro same
    rw [same] at counted
    omega
  · intro zero
    exact ext (items_ofList_flatMap lists) (by omega)

end StoryScript.Diagnostics
