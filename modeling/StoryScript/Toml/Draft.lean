import StoryScript.Toml

/-!
Tables in the making. A table can be opened by a header once, and extended by dotted keys only where
dotted keys have made it; a value cannot be set twice.
-/

namespace StoryScript.Toml

inductive Origin
  | passing
  | dotted
  | header
  deriving DecidableEq, Repr

inductive Draft
  | value (value : Toml)
  | table (origin : Origin) (entries : List (String × Draft))
  /-- The tables of an array, the last first. -/
  | tables (last : List (String × Draft)) (earlier : List (List (String × Draft)))

abbrev Entries := List (String × Draft)

namespace Entries

def put (name : String) (draft : Draft) : Entries → Entries
  | [] => [(name, draft)]
  | entry :: rest =>
      if entry.1 = name then (name, draft) :: rest else entry :: put name draft rest

def within (path : List String) (change : Entries → Option Entries) (entries : Entries) :
    Option Entries :=
  match path with
  | [] => change entries
  | name :: path =>
      match entries.lookup name with
      | none => (within path change []).map fun inner => entries.put name (.table .passing inner)
      | some (.table origin inner) =>
          (within path change inner).map fun inner => entries.put name (.table origin inner)
      | some (.tables last earlier) =>
          (within path change last).map fun last => entries.put name (.tables last earlier)
      | some (.value _) => none

def openTable (name : String) (entries : Entries) : Option Entries :=
  match entries.lookup name with
  | none => some (entries.put name (.table .header []))
  | some (.table .passing inner) => some (entries.put name (.table .header inner))
  | some _ => none

def openElement (name : String) (entries : Entries) : Option Entries :=
  match entries.lookup name with
  | none => some (entries.put name (.tables [] []))
  | some (.tables last earlier) => some (entries.put name (.tables [] (last :: earlier)))
  | some _ => none

/-- Sets a value under a dotted key. `extensible` says whether the table may take a value. -/
def set (extensible : Bool) (value : Draft) (key : List String) (entries : Entries) :
    Option Entries :=
  match key with
  | [] => none
  | [name] =>
      if extensible && (entries.lookup name).isNone then some (entries.put name value) else none
  | name :: rest =>
      match entries.lookup name with
      | none => (set true value rest []).map fun inner => entries.put name (.table .dotted inner)
      | some (.table .dotted inner) =>
          (set true value rest inner).map fun inner => entries.put name (.table .dotted inner)
      | some (.table .passing inner) =>
          (set false value rest inner).map fun inner => entries.put name (.table .passing inner)
      | some (.tables last earlier) =>
          (set false value rest last).map fun last => entries.put name (.tables last earlier)
      | some _ => none

end Entries

mutual

def Draft.finish : Draft → Toml
  | .value value => value
  | .table _ entries => .table (finishEntries entries)
  | .tables last earlier => .array (finishTables earlier [.table (finishEntries last)])

def finishEntries : List (String × Draft) → List (String × Toml)
  | [] => []
  | (name, draft) :: rest => (name, draft.finish) :: finishEntries rest

def finishTables (earlier : List (List (String × Draft))) (later : List Toml) : List Toml :=
  match earlier with
  | [] => later
  | entries :: rest => finishTables rest (.table (finishEntries entries) :: later)

end

end StoryScript.Toml
