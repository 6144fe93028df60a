import Mathlib.Data.List.Pairwise
import StoryScript.Proofs.Diagnostic.Overflow
import StoryScript.Proofs.Host.Request
import StoryScript.Proofs.Story.Segments
import StoryScript.Table.Lookup

/-!
A project is what its scripts are merged to, in the order of the walk. Reading it succeeds exactly
when nothing that is found stands in the way and no two scripts have a label in common.
-/

namespace StoryScript

def Script.definitions (source : String) : List (String × List Node) :=
  (Token.cutAtLabels (Token.beforeEnd (TokenStream.ofText source).tokens)).2.map fun part =>
    (part.1.value, Node.ofTokens part.2)

theorem Script.labels_ofText (source : String) :
    (Script.ofText source).story.labels = Table.ofList (definitions source) :=
  Story.labels_ofTokens _

def Script.AreDisjoint (texts : List (String × String)) : Prop :=
  texts.Pairwise fun one other => ∀ label ∈ (definitions one.2).map (·.1),
    label ∉ (definitions other.2).map (·.1)

instance (texts : List (String × String)) : Decidable (Script.AreDisjoint texts) :=
  inferInstanceAs (Decidable (List.Pairwise _ texts))

namespace FileTree.Found

def IsReadable : Found → Prop
  | .file path content => isScript path = true → ∃ source, content = .ok source
  | .fault _ _ => False

def text? : Found → Option (String × String)
  | .file path (.ok source) => if isScript path then some (path, source) else none
  | _ => none

theorem eq_file_of_text? {entry : Found} {text : String × String}
    (its : entry.text? = some text) :
    ∃ path source, entry = .file path (.ok source) ∧ isScript path = true := by
  unfold text? at its
  split at its
  next path source =>
    split at its
    next script => exact ⟨path, source, rfl, script⟩
    next => contradiction
  next => contradiction

def script? (entry : Found) : Option (String × Script) :=
  entry.text?.map fun text => (text.1, Script.ofText text.2)

theorem script?_of_isScript {path : String} (script : isScript path = true) (source : String) :
    script? (.file path (.ok source)) = some (path, Script.ofText source) := by
  simp [script?, text?, script]

theorem script?_of_other {path : String} (other : ¬ isScript path = true)
    (content : Except Fault String) : script? (.file path content) = none := by
  cases content with
  | ok source => simp [script?, text?, other]
  | error fault => rfl

theorem readable_of_other {path : String} (other : ¬ isScript path = true)
    (content : Except Fault String) : IsReadable (.file path content) :=
  fun script => (other script).elim

end FileTree.Found

namespace Project

def Apart (one other : String × Script) : Prop :=
  ∀ label ∈ one.2.story.labels.names, label ∉ other.2.story.labels.names

def ofScripts (scripts : List (String × Script)) : Project where
  scripts := scripts
  story :=
    { labels := (scripts.map (·.2.story.labels)).foldl Table.override ∅
      cast := (scripts.map (·.2.story.cast)).foldl Table.override ∅ }
  sources := (scripts.map fun script => script.2.story.labels.map fun _ => script.1).foldl
    Table.override ∅
  diagnostics := Diagnostics.ofList (scripts.flatMap (·.2.diagnostics.items))

theorem add_ofScripts (scripts : List (String × Script)) (path : String) (script : Script) :
    (ofScripts scripts).add path script = ofScripts (scripts ++ [(path, script)]) := by
  simp only [add, ofScripts, List.map_append, List.foldl_append, List.flatMap_append,
    Diagnostics.ofList, Diagnostics.recordAll_append]
  simp

theorem get?_sources_eq_none (scripts : List (String × Script)) (label : String) :
    (ofScripts scripts).sources.get? label = none ↔
      ∀ script ∈ scripts, label ∉ script.2.story.labels.names := by
  have empty : (∅ : Table String).get? label = none := rfl
  simp only [ofScripts, Table.get?_foldl_override, empty, Option.or_none,
    List.findSome?_eq_none_iff, List.mem_reverse, List.forall_mem_map, Table.get?_map,
    Option.map_eq_none_iff, Table.mem_names_iff, Option.not_isSome_iff_eq_none]

theorem clash?_eq_none (scripts : List (String × Script)) (path : String) (script : Script) :
    (ofScripts scripts).clash? path script = none ↔
      ∀ earlier ∈ scripts, Apart earlier (path, script) := by
  simp only [clash?, List.findSome?_eq_none_iff, Option.map_eq_none_iff, get?_sources_eq_none]
  constructor
  · intro free earlier member label inside also
    exact free label also earlier member inside
  · intro apart label also earlier member inside
    exact apart earlier member label inside also

theorem pairwise_add_iff (scripts : List (String × Script)) (path : String) (script : Script) :
    (scripts ++ [(path, script)]).Pairwise Apart ↔
      scripts.Pairwise Apart ∧ (ofScripts scripts).clash? path script = none := by
  rw [clash?_eq_none, List.pairwise_append]
  simp

theorem read_other (root : String) (project : Project) {path : String}
    (other : ¬ isScript path = true) (content : Except Fault String)
    (rest : List FileTree.Found) :
    read root project (.file path content :: rest) = read root project rest := by
  simp only [read, other]
  rfl

theorem read_script (root : String) (project : Project) {path source : String}
    (script : isScript path = true) (free : project.clash? path (Script.ofText source) = none)
    (rest : List FileTree.Found) :
    read root project (.file path (.ok source) :: rest) =
      read root (project.add path (Script.ofText source)) rest := by
  simp only [read, script, if_true, free]

theorem read_clash (root : String) (project : Project) {path source : String} {error : LoadError}
    (script : isScript path = true)
    (clash : project.clash? path (Script.ofText source) = some error)
    (rest : List FileTree.Found) :
    (read root project (.file path (.ok source) :: rest)).2 = some error := by
  simp only [read, script, if_true, clash]

/-- A project is read to its end exactly when nothing is in the way, and it is then what its scripts
are merged to. -/
theorem read_eq_none_iff (root : String) {earlier : List (String × Script)}
    (apart : earlier.Pairwise Apart) (found : List FileTree.Found) (after : Project) :
    read root (ofScripts earlier) found = (after, none) ↔
      (∀ entry ∈ found, entry.IsReadable) ∧
        earlier ++ found.filterMap FileTree.Found.script? ≠ [] ∧
        (earlier ++ found.filterMap FileTree.Found.script?).Pairwise Apart ∧
        after = ofScripts (earlier ++ found.filterMap FileTree.Found.script?) := by
  -- The scripts read so far stay apart, so that a clash is one with the scripts as a whole.
  induction found generalizing earlier with
  | nil =>
      simp only [read, List.filterMap_nil, List.append_nil, Prod.mk.injEq, List.not_mem_nil,
        false_implies, implies_true, true_and, apart]
      cases earlier with
      | nil => simp [ofScripts]
      | cons script rest => simp [ofScripts, eq_comm]
  | cons entry rest ih =>
      rw [List.forall_mem_cons]
      cases entry with
      | fault path fault => simp [read, FileTree.Found.IsReadable]
      | file path content =>
          by_cases script : isScript path = true
          · cases content with
            | error fault => simp [read, script, FileTree.Found.IsReadable]
            | ok source =>
                rw [List.filterMap_cons_some (FileTree.Found.script?_of_isScript script source),
                  List.append_cons]
                cases clash : (ofScripts earlier).clash? path (Script.ofText source) with
                | none =>
                    rw [read_script root _ script clash, add_ofScripts,
                      ih ((pairwise_add_iff _ _ _).mpr ⟨apart, clash⟩)]
                    simp [FileTree.Found.IsReadable]
                | some error =>
                    have failed := read_clash root _ script clash rest
                    constructor
                    · intro done
                      rw [done] at failed
                      exact nomatch failed
                    · rintro ⟨_, _, together, _⟩
                      have front := (List.pairwise_append.mp together).1
                      have free := ((pairwise_add_iff _ _ _).mp front).2
                      rw [free] at clash
                      exact nomatch clash
          · rw [List.filterMap_cons_none (FileTree.Found.script?_of_other script content),
              read_other root _ script content, ih apart]
            simp [FileTree.Found.readable_of_other script content]

/-- Whether what is found can be merged: nothing is in the way, there is a script, and no two
scripts have a label in common. -/
def Mergeable (found : List FileTree.Found) : Prop :=
  (∀ entry ∈ found, entry.IsReadable) ∧ found.filterMap FileTree.Found.script? ≠ [] ∧
    (found.filterMap FileTree.Found.script?).Pairwise Apart

instance : Std.Symm Apart where
  symm _ _ apart label inside also := apart label also inside

theorem get?_labels_ofScripts {scripts : List (String × Script)} (apart : scripts.Pairwise Apart)
    (label : String) (nodes : List Node) :
    (ofScripts scripts).story.labels.get? label = some nodes ↔
      ∃ script ∈ scripts, script.2.story.labels.get? label = some nodes := by
  have empty : (∅ : Table (List Node)).get? label = none := rfl
  simp only [ofScripts, Table.get?_foldl_override, empty, Option.or_none]
  rw [← List.map_reverse, List.findSome?_map]
  constructor
  · intro found
    obtain ⟨script, member, same⟩ := List.exists_of_findSome?_eq_some found
    exact ⟨script, List.mem_reverse.mp member, same⟩
  · rintro ⟨script, member, same⟩
    cases found : scripts.reverse.findSome? ((·.get? label) ∘ (·.2.story.labels)) with
    | none =>
        have absent := List.findSome?_eq_none_iff.mp found script (List.mem_reverse.mpr member)
        exact absurd (absent.symm.trans same) (by simp)
    | some other =>
        obtain ⟨last, inside, its⟩ := List.exists_of_findSome?_eq_some found
        have one : last = script := by
          by_contra different
          have disjoint := apart.forall (List.mem_reverse.mp inside) member different
          refine disjoint label ?_ ?_
          · exact (Table.mem_names_iff _ _).mpr (Option.isSome_iff_exists.mpr ⟨other, its⟩)
          · exact (Table.mem_names_iff _ _).mpr (Option.isSome_iff_exists.mpr ⟨nodes, same⟩)
        rw [← same, ← one]
        exact its.symm

theorem get?_cast_ofScripts (scripts : List (String × Script)) (name : String) :
    (ofScripts scripts).story.cast.get? name =
      scripts.reverse.findSome? (·.2.story.cast.get? name) := by
  have empty : (∅ : Table Profile).get? name = none := rfl
  simp only [ofScripts, Table.get?_foldl_override, empty, Option.or_none]
  rw [← List.map_reverse, List.findSome?_map]
  rfl

theorem scripts_eq_map (found : List FileTree.Found) :
    found.filterMap FileTree.Found.script? =
      (found.filterMap FileTree.Found.text?).map fun text => (text.1, Script.ofText text.2) :=
  List.map_filterMap.symm

theorem apart_iff (texts : List (String × String)) :
    (texts.map fun text => (text.1, Script.ofText text.2)).Pairwise Apart ↔
      Script.AreDisjoint texts := by
  simp only [List.pairwise_map, Apart, Script.labels_ofText, Table.mem_names_ofList,
    Script.AreDisjoint]

theorem mergeable_iff (found : List FileTree.Found) :
    Mergeable found ↔
      (∀ path fault, .fault path fault ∉ found) ∧
        (∃ path content, .file path content ∈ found ∧ isScript path = true) ∧
        (∀ path content, .file path content ∈ found → isScript path = true →
          ∃ source, content = .ok source) ∧
        Script.AreDisjoint (found.filterMap FileTree.Found.text?) := by
  rw [Mergeable, scripts_eq_map, apart_iff, Ne, List.map_eq_nil_iff]
  constructor
  · rintro ⟨readable, full, disjoint⟩
    refine ⟨fun path fault member => readable _ member, ?_,
      fun path content member => readable _ member, disjoint⟩
    obtain ⟨text, inside⟩ := List.exists_mem_of_ne_nil _ full
    obtain ⟨entry, member, its⟩ := List.mem_filterMap.mp inside
    obtain ⟨path, source, rfl, script⟩ := FileTree.Found.eq_file_of_text? its
    exact ⟨path, _, member, script⟩
  · rintro ⟨searched, ⟨path, content, member, script⟩, read, disjoint⟩
    refine ⟨?_, ?_, disjoint⟩
    · rintro (⟨path, content⟩ | ⟨path, fault⟩) member
      · exact read path content member
      · exact searched path fault member
    · obtain ⟨source, rfl⟩ := read path content member script
      intro none
      have absent := List.filterMap_eq_nil_iff.mp none _ member
      simp [FileTree.Found.text?, script] at absent

end Project

namespace Host

theorem loadProject_eq_ok_iff (host after : Host) (root : String) (found : List FileTree.Found) :
    host.loadProject root found = (.ok (), after) ↔
      Project.Mergeable found ∧
        let project := Project.ofScripts (found.filterMap FileTree.Found.script?)
        after = host.install project.story project.diagnostics := by
  have merged := Project.read_eq_none_iff root (List.Pairwise.nil (R := Project.Apart)) found
  simp only [List.nil_append] at merged
  have start : ({} : Project) = Project.ofScripts [] := rfl
  unfold loadProject
  rw [start]
  constructor
  · intro loaded
    split at loaded
    next => exact nomatch (Prod.mk.inj loaded).1
    next project reads =>
      obtain ⟨readable, full, apart, rfl⟩ := (merged project).mp reads
      exact ⟨⟨readable, full, apart⟩, (Prod.mk.inj loaded).2.symm⟩
  · rintro ⟨⟨readable, full, apart⟩, rfl⟩
    rw [(merged _).mpr ⟨readable, full, apart, rfl⟩]

theorem loadProject_succeeds_iff (host : Host) (root : String) (found : List FileTree.Found) :
    (host.loadProject root found).1 = .ok () ↔ Project.Mergeable found := by
  constructor
  · intro succeeds
    exact ((loadProject_eq_ok_iff host _ root found).mp (Prod.ext succeeds rfl)).1
  · intro mergeable
    exact congrArg Prod.fst ((loadProject_eq_ok_iff host _ root found).mpr ⟨mergeable, rfl⟩)

theorem loadProject_of_error {host : Host} {root : String} {found : List FileTree.Found}
    {error : LoadError} (failed : (host.loadProject root found).1 = .error error) :
    (host.loadProject root found).2 = host := by
  unfold loadProject at failed ⊢
  split
  next => rfl
  next reads =>
    rw [reads] at failed
    contradiction

/-- A project is loaded exactly when its walk is without fault, comes to a script, can read all
scripts and finds no label in two of them. It is then the union of the scripts, in which the last
definition of a character counts, and the world is rewound; otherwise the host stays as it is. -/
theorem loadProject_merges (host : Host) (root : String) (found : List FileTree.Found) :
    let texts := found.filterMap FileTree.Found.text?
    let outcome := (host.loadProject root found).1
    let after := (host.loadProject root found).2
    (outcome = .ok () ↔
      (∀ path fault, .fault path fault ∉ found) ∧
        (∃ path content, .file path content ∈ found ∧ isScript path = true) ∧
        (∀ path content, .file path content ∈ found → isScript path = true →
          ∃ source, content = .ok source) ∧
        Script.AreDisjoint texts) ∧
    (outcome = .ok () →
      ∃ story, after.story = some story ∧
        (∀ label nodes, story.labels.get? label = some nodes ↔
          ∃ text ∈ texts, (Script.definitions text.2).reverse.lookup label = some nodes) ∧
        (∀ name, story.cast.get? name =
          texts.reverse.findSome? fun text => (Script.ofText text.2).story.cast.get? name) ∧
        after.world.globals = ∅ ∧
        after.world.position = { label := host.world.startLabel, index := 0 }) ∧
    ∀ error, outcome = .error error → after = host := by
  intro texts outcome after
  refine ⟨?_, ?_, fun error failed => loadProject_of_error failed⟩
  · exact (loadProject_succeeds_iff host root found).trans (Project.mergeable_iff found)
  · intro succeeds
    obtain ⟨⟨_, _, apart⟩, same⟩ :=
      (loadProject_eq_ok_iff host after root found).mp (Prod.ext succeeds rfl)
    rw [same]
    refine ⟨_, rfl, ?_, ?_, rfl, rfl⟩
    · intro label nodes
      rw [Project.get?_labels_ofScripts apart, Project.scripts_eq_map]
      simp only [List.mem_map, exists_exists_and_eq_and, Script.labels_ofText, Table.get?_ofList]
      rfl
    · intro name
      rw [Project.get?_cast_ofScripts, Project.scripts_eq_map, ← List.map_reverse,
        List.findSome?_map]
      rfl

end Host

end StoryScript
