import StoryScript.Table

/-!
Looking names up in tables: what is found after an insertion, and that two tables in which the same
is found are equal.
-/

namespace StoryScript.Table

variable {α : Type u} {β : Type v}

theorem lookup_cons_eq (query : String) (entry : String × α) (rest : List (String × α)) :
    (entry :: rest).lookup query =
      if query = entry.1 then some entry.2 else rest.lookup query := by
  rw [List.lookup_cons]
  by_cases same : query = entry.1
  · simp [same]
  · rw [beq_eq_false_iff_ne.mpr same, if_neg same]

theorem lookup_place (name query : String) (value : α) (list : List (String × α)) :
    (place name value list).lookup query =
      if query = name then some value else list.lookup query := by
  induction list with
  | nil => simp only [place, lookup_cons_eq]
  | cons head rest ih =>
      rw [place]
      split
      next below => rw [lookup_cons_eq]
      next notBelow =>
        split
        next above =>
          rw [lookup_cons_eq, lookup_cons_eq, ih]
          by_cases first : query = head.1
          · have different : query ≠ name := by
              intro same
              exact String.lt_irrefl head.1 ((same.symm.trans first) ▸ above)
            rw [if_pos first, if_neg different, if_pos first]
          · rw [if_neg first, if_neg first]
        next notAbove =>
          have same : name = head.1 :=
            String.le_antisymm (String.not_lt.mp notAbove) (String.not_lt.mp notBelow)
          rw [lookup_cons_eq, lookup_cons_eq, ← same]
          by_cases first : query = name
          · rw [if_pos first, if_pos first]
          · simp only [if_neg first]

theorem get?_insert (table : Table α) (name query : String) (value : α) :
    (table.insert name value).get? query =
      if query = name then some value else table.get? query :=
  lookup_place name query value table.entries

theorem get?_foldl_insert (table : Table α) (list : List (String × α)) (name : String) :
    (list.foldl (fun table entry => table.insert entry.1 entry.2) table).get? name =
      (list.reverse.lookup name).or (table.get? name) := by
  induction list generalizing table with
  | nil => rfl
  | cons entry rest ih =>
      rw [List.foldl_cons, ih, get?_insert, List.reverse_cons, List.lookup_append, lookup_cons_eq,
        Option.or_assoc]
      split <;> rfl

theorem get?_ofList (list : List (String × α)) (name : String) :
    (ofList list).get? name = list.reverse.lookup name := by
  rw [ofList, get?_foldl_insert]
  exact Option.or_none

theorem last_of_get?_ofList {list : List (String × α)} {name : String} {value : α}
    (found : (ofList list).get? name = some value) :
    ∃ earlier later, list = earlier ++ (name, value) :: later ∧
      ∀ entry ∈ later, entry.1 ≠ name := by
  rw [get?_ofList] at found
  induction list with
  | nil => contradiction
  | cons entry rest ih =>
      rw [List.reverse_cons, List.lookup_append, lookup_cons_eq] at found
      cases later : rest.reverse.lookup name with
      | some other =>
          rw [later, Option.some_or] at found
          obtain ⟨before, after, same, last⟩ := ih (later.trans found)
          exact ⟨entry :: before, after, by rw [same, List.cons_append], last⟩
      | none =>
          rw [later, Option.none_or] at found
          split at found
          next same =>
            obtain rfl := Option.some.inj found
            refine ⟨[], rest, by rw [same, List.nil_append], ?_⟩
            intro other member
            have absent := List.lookup_eq_none_iff.mp later other (List.mem_reverse.mpr member)
            intro equal
            simp [equal] at absent
          next => contradiction

theorem get?_ofList_of_last {earlier later : List (String × α)} {name : String} {value : α}
    (last : ∀ entry ∈ later, entry.1 ≠ name) :
    (ofList (earlier ++ (name, value) :: later)).get? name = some value := by
  have absent : later.reverse.lookup name = none := by
    rw [List.lookup_eq_none_iff]
    intro entry member
    exact bne_iff_ne.mpr (Ne.symm (last entry (List.mem_reverse.mp member)))
  rw [get?_ofList, List.reverse_append, List.reverse_cons, List.lookup_append, List.lookup_append,
    absent, lookup_cons_eq, if_pos rfl]
  rfl

theorem mem_names_iff (table : Table α) (name : String) :
    name ∈ table.names ↔ (table.get? name).isSome = true := by
  simp only [names, get?]
  induction table.entries with
  | nil => simp
  | cons entry rest ih =>
      rw [List.map_cons, List.mem_cons, ih, lookup_cons_eq]
      split
      next same => simp [same]
      next different => simp [different]

theorem mem_names_ofList (list : List (String × α)) (name : String) :
    name ∈ (ofList list).names ↔ name ∈ list.map (·.1) := by
  rw [mem_names_iff]
  constructor
  · intro found
    obtain ⟨value, found⟩ := Option.isSome_iff_exists.mp found
    obtain ⟨earlier, later, same, _⟩ := last_of_get?_ofList found
    simp [same]
  · intro member
    obtain ⟨entry, inside, rfl⟩ := List.mem_map.mp member
    rw [get?_ofList, Option.isSome_iff_ne_none, Ne, List.lookup_eq_none_iff]
    intro absent
    have different := absent entry (List.mem_reverse.mpr inside)
    simp at different

theorem names_nodup (table : Table α) : table.names.Nodup := by
  rw [names, List.nodup_iff_pairwise_ne, List.pairwise_map]
  refine table.ordered.imp fun below same => ?_
  rw [same] at below
  exact String.lt_irrefl _ below

theorem mem_iff_lookup {list : List (String × α)} (distinct : (list.map (·.1)).Nodup)
    (name : String) (value : α) : (name, value) ∈ list ↔ list.lookup name = some value := by
  induction list with
  | nil => simp
  | cons entry rest ih =>
      rw [List.map_cons, List.nodup_cons] at distinct
      rw [List.mem_cons, ih distinct.2, lookup_cons_eq]
      split
      next same =>
        subst same
        have absent : rest.lookup entry.1 ≠ some value := by
          intro found
          exact distinct.1 (List.mem_map.mpr ⟨_, (ih distinct.2).mpr found, rfl⟩)
        constructor
        · rintro (first | later)
          · exact congrArg some (congrArg Prod.snd first).symm
          · exact absurd later absent
        · intro found
          exact Or.inl (Prod.ext rfl (Option.some.inj found).symm)
      next different =>
        constructor
        · rintro (first | later)
          · exact absurd (congrArg Prod.fst first) different
          · exact later
        · exact Or.inr

theorem mem_entries_iff (table : Table α) (name : String) (value : α) :
    (name, value) ∈ table.entries ↔ table.get? name = some value :=
  mem_iff_lookup table.names_nodup name value

theorem place_perm {name : String} {value : α} {list : List (String × α)}
    (fresh : name ∉ list.map (·.1)) : (place name value list).Perm ((name, value) :: list) := by
  induction list with
  | nil => exact .refl _
  | cons entry rest ih =>
      simp only [List.map_cons, List.mem_cons, not_or] at fresh
      rw [place]
      split
      next below => exact .refl _
      next notBelow =>
        split
        next above => exact ((ih fresh.2).cons entry).trans (.swap _ _ rest)
        next notAbove =>
          exact absurd (String.le_antisymm (String.not_lt.mp notAbove) (String.not_lt.mp notBelow))
            fresh.1

theorem foldl_insert_perm (table : Table α) {list : List (String × α)}
    (distinct : (list.map (·.1)).Nodup) (fresh : ∀ name ∈ list.map (·.1), name ∉ table.names) :
    (list.foldl (fun table entry => table.insert entry.1 entry.2) table).entries.Perm
      (list ++ table.entries) := by
  induction list generalizing table with
  | nil => exact .refl _
  | cons entry rest ih =>
      rw [List.map_cons, List.nodup_cons] at distinct
      rw [List.map_cons, List.forall_mem_cons] at fresh
      have placed : (table.insert entry.1 entry.2).entries.Perm (entry :: table.entries) :=
        place_perm fresh.1
      have later : ∀ name ∈ rest.map (·.1), name ∉ (table.insert entry.1 entry.2).names := by
        intro name member found
        rw [names, (placed.map (·.1)).mem_iff, List.map_cons, List.mem_cons] at found
        rcases found with rfl | found
        · exact distinct.1 member
        · exact fresh.2 name member found
      exact (ih _ distinct.2 later).trans ((placed.append_left rest).trans List.perm_middle)

theorem entries_ofList_perm {list : List (String × α)} (distinct : (list.map (·.1)).Nodup) :
    (ofList list).entries.Perm list := by
  have kept := foldl_insert_perm ∅ distinct fun _ _ => List.not_mem_nil
  rwa [show (∅ : Table α).entries = [] from rfl, List.append_nil] at kept

theorem ofList_entries (table : Table α) : ofList table.entries = table := by
  have kept := entries_ofList_perm table.names_nodup
  have ordered := (ofList table.entries).ordered
  have same : (ofList table.entries).entries = table.entries := by
    refine kept.eq_of_pairwise ?_ ordered table.ordered
    intro left right _ _ below above
    exact absurd (String.lt_trans below above) (String.lt_irrefl _)
  generalize ofList table.entries = read at same
  cases read
  cases table
  cases same
  rfl

theorem get?_override (table later : Table α) (name : String) :
    (table.override later).get? name = (later.get? name).or (table.get? name) := by
  rw [override, get?_foldl_insert, ← get?_ofList, ofList_entries]

theorem get?_foldl_override (table : Table α) (tables : List (Table α)) (name : String) :
    (tables.foldl override table).get? name =
      (tables.reverse.findSome? (·.get? name)).or (table.get? name) := by
  induction tables generalizing table with
  | nil => rfl
  | cons later rest ih =>
      rw [List.foldl_cons, ih, get?_override, List.reverse_cons, List.findSome?_append,
        Option.or_assoc]
      simp

theorem get?_map (f : α → β) (table : Table α) (name : String) :
    (table.map f).get? name = (table.get? name).map f := by
  simp only [map, get?]
  induction table.entries with
  | nil => rfl
  | cons head rest ih =>
      rw [List.map_cons, lookup_cons_eq, lookup_cons_eq, ih]
      split <;> rfl

end StoryScript.Table
