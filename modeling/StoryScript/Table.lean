/-!
Finite maps from names, kept as lists of entries in ascending order of name, which is the order in
which a table is shown.
-/

namespace StoryScript

structure Table (α : Type u) where
  entries : List (String × α)
  ordered : entries.Pairwise (fun left right => left.1 < right.1)

namespace Table

variable {α : Type u} {β : Type v}

instance : EmptyCollection (Table α) := ⟨⟨[], .nil⟩⟩

instance : Inhabited (Table α) := ⟨∅⟩

def place (name : String) (value : α) : List (String × α) → List (String × α)
  | [] => [(name, value)]
  | entry :: rest =>
      if name < entry.1 then (name, value) :: entry :: rest
      else if entry.1 < name then entry :: place name value rest
      else (name, value) :: rest

theorem mem_place {name : String} {value : α} {list : List (String × α)} {entry : String × α}
    (found : entry ∈ place name value list) : entry = (name, value) ∨ entry ∈ list := by
  induction list with
  | nil => simpa [place] using found
  | cons head rest ih =>
      rw [place] at found
      split at found
      · simpa using found
      · split at found
        · rcases List.mem_cons.mp found with same | later
          · exact Or.inr (by simp [same])
          · exact (ih later).imp_right (by simp +contextual)
        · rcases List.mem_cons.mp found with same | later
          · exact Or.inl same
          · exact Or.inr (by simp [later])

theorem pairwise_place (name : String) (value : α) {list : List (String × α)}
    (ordered : list.Pairwise (fun left right => left.1 < right.1)) :
    (place name value list).Pairwise (fun left right => left.1 < right.1) := by
  induction list with
  | nil => simp [place]
  | cons head rest ih =>
      obtain ⟨first, later⟩ := List.pairwise_cons.mp ordered
      rw [place]
      split
      next below =>
        refine List.pairwise_cons.mpr ⟨fun entry found => ?_, ordered⟩
        rcases List.mem_cons.mp found with same | found
        · exact same ▸ below
        · exact String.lt_trans below (first entry found)
      next notBelow =>
        split
        next above =>
          refine List.pairwise_cons.mpr ⟨fun entry found => ?_, ih later⟩
          rcases mem_place found with same | found
          · exact same ▸ above
          · exact first entry found
        next notAbove =>
          have same : name = head.1 :=
            String.le_antisymm (String.not_lt.mp notAbove) (String.not_lt.mp notBelow)
          exact List.pairwise_cons.mpr ⟨fun entry found => same ▸ first entry found, later⟩

def insert (table : Table α) (name : String) (value : α) : Table α :=
  ⟨place name value table.entries, pairwise_place name value table.ordered⟩

def get? (table : Table α) (name : String) : Option α :=
  table.entries.lookup name

def contains (table : Table α) (name : String) : Bool :=
  (table.get? name).isSome

def size (table : Table α) : Nat :=
  table.entries.length

def names (table : Table α) : List String :=
  table.entries.map (·.1)

/-- Of several entries with one name the last counts. -/
def ofList (list : List (String × α)) : Table α :=
  list.foldl (fun table entry => table.insert entry.1 entry.2) ∅

/-- All entries of both, those of `later` where both have the name. -/
def override (table later : Table α) : Table α :=
  later.entries.foldl (fun table entry => table.insert entry.1 entry.2) table

def map (f : α → β) (table : Table α) : Table β :=
  ⟨table.entries.map fun entry => (entry.1, f entry.2),
    List.pairwise_map.mpr table.ordered⟩

end Table

end StoryScript
