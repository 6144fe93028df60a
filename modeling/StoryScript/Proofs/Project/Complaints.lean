import StoryScript.Proofs.Project.Merging
import StoryScript.Proofs.Script.Manuscript

/-!
What a loaded project tells of the complaints about its scripts. The first of them are kept, in the
order of the walk; but the buffer of a script is emptied into that of the project without its count,
so that what did not fit into the former is not counted by the latter.
-/

namespace StoryScript

open Text

namespace Project

theorem diagnostics_ofScripts (scripts : List (String × Script)) :
    (ofScripts scripts).diagnostics =
      Diagnostics.ofList ((scripts.map (·.2.complaints)).flatMap fun entries =>
        (Diagnostics.ofList entries).items) := by
  rw [ofScripts, List.flatMap_map]
  rfl

end Project

namespace Host

/-- A project keeps the first complaints about all its scripts, and counts all others but those that
the buffer of a script has dropped. Nothing is lost exactly when no script has more complaints than
a buffer keeps; a project of one script then tells what the script alone does. -/
theorem loadProject_complaints {host after : Host} {root : String} {found : List FileTree.Found}
    (loaded : host.loadProject root found = (.ok (), after)) :
    let texts := found.filterMap FileTree.Found.text?
    let complaints := texts.map fun text => (Script.ofText text.2).complaints
    after.diagnostics.items = complaints.flatten.take Diagnostics.capacity ∧
      after.diagnostics.dropped +
          (complaints.flatMap (·.drop Diagnostics.capacity)).length =
        complaints.flatten.length - Diagnostics.capacity ∧
      (after.diagnostics = Diagnostics.ofList complaints.flatten ↔
        ∀ entries ∈ complaints, entries.length ≤ Diagnostics.capacity) ∧
      (∀ text ∈ texts, let stream := TokenStream.ofText text.2
        (host.load text.2).diagnostics =
          (Diagnostics.ofList stream.complaints).recordAll
            (Diagnostics.ofList (Story.ofTokens stream.tokens).complaints).items) ∧
      ∀ path source, texts = [(path, source)] →
        (after.diagnostics = (host.load source).diagnostics ↔
          (Script.ofText source).complaints.length ≤ Diagnostics.capacity) := by
  intro texts complaints
  obtain ⟨_, rfl⟩ := (loadProject_eq_ok_iff host after root found).mp loaded
  have joined : (Project.ofScripts (found.filterMap FileTree.Found.script?)).diagnostics =
      Diagnostics.ofList
        (complaints.flatMap fun entries => (Diagnostics.ofList entries).items) := by
    rw [Project.diagnostics_ofScripts, Project.scripts_eq_map, List.map_map]
    rfl
  have lossless := Diagnostics.ofList_flatMap_eq_iff complaints
  have counted := Diagnostics.dropped_ofList_flatMap complaints
  rw [Diagnostics.dropped_ofList complaints.flatten] at counted
  dsimp only [install]
  rw [joined]
  refine ⟨?_, counted, lossless, fun text _ => Script.diagnostics_staged text.2, ?_⟩
  · rw [Diagnostics.items_ofList_flatMap, Diagnostics.items_ofList]
  · intro path source single
    have one : complaints = [(Script.ofText source).complaints] := by
      simp only [complaints, single, List.map_cons, List.map_nil]
    have alone : (host.load source).diagnostics =
        Diagnostics.ofList (Script.ofText source).complaints := rfl
    rw [one] at lossless ⊢
    rw [alone]
    simpa using lossless

def riddleFiles : List FileTree.Found :=
  [.file "tale/a.inky" (.ok "== Gate ==\n?"), .file "tale/b.inky" (.ok "!\n== Hall ==\n?"),
    .file "tale/notes.txt" (.ok "?")]

theorem riddleFiles_told :
    ∃ after, Host.new.loadProject "tale" riddleFiles = (.ok (), after) ∧
      after.diagnostics = Diagnostics.ofList
        [(Complaint.unknownPattern "?").diagnostic (some 2),
          (Complaint.unknownPattern "!").diagnostic (some 1),
          (Complaint.unknownPattern "?").diagnostic (some 3)] := by
  have mergeable : Project.Mergeable riddleFiles := by
    refine (Project.mergeable_iff _).mpr ⟨?_, ?_, ?_, by decide +kernel⟩
    · simp [riddleFiles]
    · exact ⟨_, _, List.mem_cons_self, by decide⟩
    · intro path content member _
      simp only [riddleFiles, List.mem_cons, FileTree.Found.file.injEq] at member
      rcases member with ⟨_, rfl⟩ | ⟨_, rfl⟩ | ⟨_, rfl⟩ | none
      · exact ⟨_, rfl⟩
      · exact ⟨_, rfl⟩
      · exact ⟨_, rfl⟩
      · contradiction
  have loaded := (loadProject_eq_ok_iff Host.new _ "tale" _).mpr ⟨mergeable, rfl⟩
  refine ⟨_, loaded, ?_⟩
  obtain ⟨_, _, lossless, _⟩ := loadProject_complaints loaded
  have told : ((riddleFiles.filterMap FileTree.Found.text?).map fun text =>
      (Script.ofText text.2).complaints) =
        [[(Complaint.unknownPattern "?").diagnostic (some 2)],
          [(Complaint.unknownPattern "!").diagnostic (some 1),
            (Complaint.unknownPattern "?").diagnostic (some 3)]] := by
    decide +kernel
  rw [told] at lossless
  exact lossless.mpr (by decide)

theorem loadProject_single (host : Host) (root : String) {path : String}
    (script : isScript path = true) (source : String) :
    ∃ after, host.loadProject root [.file path (.ok source)] = (.ok (), after) ∧
      after.diagnostics.items = (Script.ofText source).diagnostics.items ∧
        after.diagnostics.dropped = 0 := by
  have scripts : [FileTree.Found.file path (.ok source)].filterMap FileTree.Found.script? =
      [(path, Script.ofText source)] := by
    rw [List.filterMap_cons_some (FileTree.Found.script?_of_isScript script source),
      List.filterMap_nil]
  have mergeable : Project.Mergeable [.file path (.ok source)] := by
    rw [Project.Mergeable, scripts]
    simp [FileTree.Found.IsReadable]
  have told : (Project.ofScripts [(path, Script.ofText source)]).diagnostics =
      Diagnostics.ofList (Script.ofText source).diagnostics.items :=
    congrArg Diagnostics.ofList (List.append_nil _)
  refine ⟨_, (loadProject_eq_ok_iff host _ root _).mpr ⟨mergeable, rfl⟩, ?_⟩
  dsimp only [install]
  rw [scripts, told, Diagnostics.ofList_items]
  exact ⟨rfl, rfl⟩

end Host

def riddles (count : Nat) : String :=
  String.ofList ((List.replicate count ['?']).flatMap (· ++ ['\n']))

theorem complaints_ofLines_riddles (count number : Nat) :
    (TokenStream.ofLines number .normal (List.replicate count ['?'] ++ [[]])).complaints.length =
      count := by
  induction count generalizing number with
  | zero => rfl
  | succ count ih =>
      have read : scanLine ['?'] number .normal =
          { mode := .normal, note := some (.unknownPattern "?") } := rfl
      rw [List.replicate_succ, List.cons_append, TokenStream.ofLines, read]
      simp [ih]

theorem complaints_riddles (count : Nat) :
    (Script.ofText (riddles count)).complaints.length = count := by
  have rows : lines (riddles count) = List.replicate count ['?'] ++ [[]] := by
    refine lines_ofList fun row member => ?_
    rw [List.eq_of_mem_replicate member]
    decide
  rw [Script.complaints_ofText, TokenStream.ofText, rows]
  exact complaints_ofLines_riddles count 1

/-- With one complaint more than a buffer keeps, a script is told of in full where it is loaded
alone, and not where it is the one script of a project. -/
theorem overflow_of_script_lost :
    let text := riddles 1025
    let host := Host.new
    (∃ after, host.loadProject "tale" [.file "tale/a.inky" (.ok text)] = (.ok (), after) ∧
      after.diagnostics.size = 1024 ∧ after.diagnostics.dropped = 0) ∧
    (host.load text).diagnostics.size = 1024 ∧ (host.load text).diagnostics.dropped = 1 := by
  intro text host
  have many : (Script.ofText text).complaints.length = 1025 := complaints_riddles 1025
  have kept : (Script.ofText text).diagnostics.size = 1024 := by
    rw [Script.diagnostics, Diagnostics.size, Diagnostics.items_ofList, List.length_take, many]
    rfl
  have dropped : (Script.ofText text).diagnostics.dropped = 1 := by
    rw [Script.diagnostics, Diagnostics.dropped_ofList, many]
    rfl
  have script : isScript "tale/a.inky" = true := by decide
  obtain ⟨after, loaded, items, uncounted⟩ := host.loadProject_single "tale" script text
  refine ⟨⟨after, loaded, ?_, uncounted⟩, kept, dropped⟩
  rw [Diagnostics.size, items]
  exact kept

end StoryScript
