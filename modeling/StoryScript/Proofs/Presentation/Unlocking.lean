import StoryScript.Proofs.Playthrough.Unlocking
import StoryScript.Proofs.Presentation.Noting
import StoryScript.Trace

/-!
Stories that differ in the conditions of their options alone are played alike: by a sequence of
operations, in a trace, and before a reader whose answers are the same.
-/

namespace StoryScript

/-- Playthroughs with the same to be seen in them, up to the conditions of options. -/
structure Playthrough.SameButLocks (left right : Playthrough) : Prop where
  phase : left.phase = right.phase
  world : left.world = right.world
  depth : left.depth = right.depth
  menu : left.menu.map (·.map Choice.unlock) = right.menu.map (·.map Choice.unlock)
  diagnostics : left.diagnostics = right.diagnostics

theorem Playthrough.sameButLocks_of_unlock {left right : Playthrough}
    (same : left.unlock = right.unlock) : SameButLocks left right where
  phase := congrArg (·.phase) same
  world := congrArg (·.world) same
  depth := by
    have depth := congrArg Playthrough.depth same
    simpa only [Playthrough.depth, unlock, List.length_map] using depth
  menu := congrArg (·.menu) same
  diagnostics := congrArg (·.diagnostics) same

namespace Trace

theorem follow?_unlock (node : Node) (play : Playthrough) :
    follow? node.unlock play.unlock = (follow? node play).map Playthrough.unlock := by
  cases node with
  | menu choices line =>
      cases choices with
      | nil => simp only [Node.unlock, List.map_nil, follow?, Option.map_none]
      | cons first more =>
          simp only [Node.unlock, List.map_cons, follow?, Option.map_some]
          rfl
  | dialogue | assignment | command | guarded | jump | character =>
      simp only [Node.unlock, follow?, Option.map_some]

theorem run_unlock (count : Nat) (shown : List Node) (play : Playthrough) :
    run count (shown.map Node.unlock) play.unlock =
      ((run count shown play).1.map Node.unlock, (run count shown play).2.unlock) := by
  fun_induction run count shown play with
  | case1 count shown play after stepped =>
      rw [run_ended _ count (Playthrough.stepped_unlock stepped), List.map_reverse]
  | case2 shown play node after stepped =>
      rw [run_full _ (Playthrough.stepped_unlock stepped), Playthrough.stop_unlock,
        List.map_reverse, List.map_cons]
  | case3 shown play node after stepped count ended =>
      have stuck : follow? node.unlock after.unlock = none := by
        rw [follow?_unlock, ended, Option.map_none]
      rw [run_stuck _ count (Playthrough.stepped_unlock stepped) stuck, Playthrough.stop_unlock,
        List.map_reverse, List.map_cons]
  | case4 shown play node after stepped count next goesOn ih =>
      have followed : follow? node.unlock after.unlock = some next.unlock := by
        rw [follow?_unlock, goesOn, Option.map_some]
      rw [run_followed _ count (Playthrough.stepped_unlock stepped) followed, ← List.map_cons, ih]

end Trace

/-- A reader who has prepared all remarks, and minds nothing that is shown. -/
def Reader.reciting : Reader (List Remark)
  | [], _, _ => { answer := none, reader := [] }
  | remark :: rest, _, _ => { toRemark := remark, reader := rest }

theorem Reader.reciting_eq (remarks : List Remark) (node other : Node) (world : World) :
    reciting remarks node world = reciting remarks other world := by
  cases remarks with
  | nil => rfl
  | cons remark rest => rfl

def Turn.unlock : Turn → Turn
  | .goesOn after => .goesOn after.unlock
  | .asksAgain index after => .asksAgain index after.unlock
  | .leaves after => .leaves after.unlock
  | .givesUp after => .givesUp after.unlock

def Outcome.unlock {σ : Type} (outcome : Outcome (σ × List Node)) : Outcome (σ × List Node) where
  play := outcome.play.unlock
  reader := (outcome.reader.1, outcome.reader.2.map Node.unlock)
  isFinished := outcome.isFinished

theorem Playthrough.hear_unlock (play : Playthrough) (remark : Remark) :
    play.unlock.hear remark = (play.hear remark).unlock :=
  rfl

theorem Playthrough.answer_unlock (play : Playthrough) (node : Node) (answer : Option Answer) :
    play.unlock.answer node.unlock answer = (play.answer node answer).unlock := by
  have stopped := play.stop_unlock
  cases node with
  | menu choices line =>
      rw [Node.unlock]
      rcases answer with _ | (_ | index | _)
      · exact congrArg Turn.givesUp stopped
      · exact congrArg Turn.givesUp stopped
      · simp only [Playthrough.answer, choose?_unlock]
        cases play.choose? index with
        | none => rfl
        | some after => rfl
      · exact congrArg Turn.leaves stopped
  | dialogue | assignment | command | guarded | jump | character =>
      simp only [Node.unlock]
      rcases answer with _ | (_ | index | _)
      · rfl
      · rfl
      · rfl
      · exact congrArg Turn.leaves stopped

namespace Presentation

def saidFrom {σ : Type} (respond : Reader σ) : Nat → σ → Playthrough → List Remark
  | 0, _, _ => []
  | count + 1, reader, play =>
      match play.step with
      | (none, _) => []
      | (some node, after) =>
          let response := respond reader node after.world
          response.toRemark ::
            match (after.hear response.toRemark).answer node response.answer with
            | .goesOn next => saidFrom respond count response.reader next
            | .asksAgain _ next => saidFrom respond count response.reader next
            | .leaves _ => []
            | .givesUp _ => []

theorem run_reciting {σ : Type} (respond : Reader σ) (count : Nat) (reader : σ)
    (notes : List Node) (play : Playthrough) :
    let recited := run Reader.reciting.noting count (saidFrom respond count reader play, notes) play
    let noted := run respond.noting count (reader, notes) play
    recited.play = noted.play ∧ recited.reader.2 = noted.reader.2 ∧
      recited.isFinished = noted.isFinished := by
  induction count generalizing reader notes play with
  | zero => exact ⟨rfl, rfl, rfl⟩
  | succ count ih =>
      simp only [run, saidFrom]
      rcases play.step with ⟨_ | node, after⟩
      · exact ⟨rfl, rfl, rfl⟩
      · simp only [Reader.noting, Reader.reciting]
        let response := respond reader node after.world
        cases (after.hear response.toRemark).answer node response.answer with
        | goesOn next => exact ih _ _ next
        | asksAgain index next => exact ih _ _ next
        | leaves last => exact ⟨rfl, rfl, rfl⟩
        | givesUp last => exact ⟨rfl, rfl, rfl⟩

theorem run_unlock (count : Nat) (remarks : List Remark) (notes : List Node) (play : Playthrough) :
    run Reader.reciting.noting count (remarks, notes.map Node.unlock) play.unlock =
      (run Reader.reciting.noting count (remarks, notes) play).unlock := by
  induction count generalizing remarks notes play with
  | zero => rfl
  | succ count ih =>
      rw [run, run]
      rcases stepped : play.step with ⟨_ | node, after⟩
      · rw [Playthrough.stepped_unlock stepped]
        rfl
      · rw [Playthrough.stepped_unlock stepped]
        -- One who recites says the same to both nodes, so the playthroughs stay alike.
        simp only [Reader.noting, Option.map_some, Playthrough.world_unlock,
          Reader.reciting_eq remarks node.unlock node]
        generalize Reader.reciting remarks node after.world = response
        rw [Playthrough.hear_unlock, Playthrough.answer_unlock]
        cases (after.hear response.toRemark).answer node response.answer with
        | goesOn next => exact ih _ (node :: notes) next
        | asksAgain index next => exact ih _ (node :: notes) next
        | leaves last => rfl
        | givesUp last => rfl

section

variable {σ τ : Type} {respond : Reader σ} {other : Reader τ} {count : Nat} {reader : σ}
  {another : τ} {left right : Playthrough}

theorem run_noting_unlock (same : left.unlock = right.unlock)
    (said : saidFrom respond count reader left = saidFrom other count another right) :
    let first := run respond.noting count (reader, []) left
    let second := run other.noting count (another, []) right
    first.play.unlock = second.play.unlock ∧
      first.reader.2.map Node.unlock = second.reader.2.map Node.unlock ∧
      first.isFinished = second.isFinished := by
  -- Both readers are those who recite what has been said, and these see no locks.
  have recited := run_unlock count (saidFrom respond count reader left) []
  have alike := (recited left).symm.trans ((congrArg _ same).trans (recited right))
  obtain ⟨play, notes, finished⟩ := run_reciting respond count reader [] left
  obtain ⟨otherPlay, otherNotes, otherFinished⟩ := run_reciting other count another [] right
  rw [← said] at otherPlay otherNotes otherFinished
  intro first second
  rw [← play, ← notes, ← finished, ← otherPlay, ← otherNotes, ← otherFinished]
  exact ⟨congrArg (·.play) alike, congrArg (·.reader.2) alike, congrArg (·.isFinished) alike⟩

def begun (play : Playthrough) : Playthrough :=
  if play.isRunning then play else play.start

theorem begun_unlock (play : Playthrough) : begun play.unlock = (begun play).unlock := by
  have running : play.unlock.isRunning = play.isRunning := rfl
  unfold begun
  rw [running]
  split
  · rfl
  · rfl

def said {σ : Type} (respond : Reader σ) (count : Nat) (reader : σ) (play : Playthrough) :
    List Remark :=
  saidFrom respond count reader (begun play)

structure SameButLocks (respond : Reader σ) (other : Reader τ) (count : Nat) (reader : σ)
    (another : τ) (left right : Playthrough) : Prop where
  shown : (shown respond count reader left).map Node.unlock =
    (shown other count another right).map Node.unlock
  play : (ofPlaythrough respond count reader left).play.SameButLocks
    (ofPlaythrough other count another right).play
  isFinished : (ofPlaythrough respond count reader left).isFinished =
    (ofPlaythrough other count another right).isFinished

theorem sameButLocks_of_said (same : left.unlock = right.unlock)
    (remarks : said respond count reader left = said other count another right) :
    SameButLocks respond other count reader another left right := by
  have sameBegun : (begun left).unlock = (begun right).unlock := by
    rw [← begun_unlock, ← begun_unlock, same]
  obtain ⟨play, notes, finished⟩ := run_noting_unlock sameBegun remarks
  obtain ⟨first, _, ending⟩ := run_noting respond count reader [] (begun left)
  obtain ⟨second, _, otherEnding⟩ := run_noting other count another [] (begun right)
  constructor
  · rw [shown, shown, List.map_reverse, List.map_reverse]
    exact congrArg List.reverse notes
  · rw [first, second] at play
    exact Playthrough.sameButLocks_of_unlock play
  · rwa [ending, otherEnding] at finished

/-- Whether the conditions of options make no difference to a reader. -/
def IsBlind (respond : Reader σ) : Prop :=
  ∀ reader node world, respond reader node.unlock world = respond reader node world

theorem saidFrom_unlock (blind : IsBlind respond) (count : Nat) (reader : σ)
    (play : Playthrough) :
    saidFrom respond count reader play.unlock = saidFrom respond count reader play := by
  induction count generalizing reader play with
  | zero => rfl
  | succ count ih =>
      rw [saidFrom, saidFrom]
      rcases stepped : play.step with ⟨_ | node, after⟩
      · rw [Playthrough.stepped_unlock stepped]
        rfl
      · rw [Playthrough.stepped_unlock stepped]
        simp only [Option.map_some, Playthrough.world_unlock, blind reader node after.world]
        generalize respond reader node after.world = response
        rw [Playthrough.hear_unlock, Playthrough.answer_unlock]
        cases (after.hear response.toRemark).answer node response.answer with
        | goesOn next => exact congrArg _ (ih response.reader next)
        | asksAgain index next => exact congrArg _ (ih response.reader next)
        | leaves last => rfl
        | givesUp last => rfl

theorem said_of_isBlind (blind : IsBlind respond) (same : left.unlock = right.unlock) :
    said respond count reader left = said respond count reader right := by
  have begunSame : (begun left).unlock = (begun right).unlock := by
    rw [← begun_unlock, ← begun_unlock, same]
  rw [said, said, ← saidFrom_unlock blind count reader (begun left), begunSame,
    saidFrom_unlock blind]

end

end Presentation

theorem Trace.sameButLocks_of_unlock {left right : Playthrough} (same : left.unlock = right.unlock)
    (bound : Nat) :
    let first := ofPlaythrough bound left
    let second := ofPlaythrough bound right
    first.1.map Node.unlock = second.1.map Node.unlock ∧ first.2.SameButLocks second.2 := by
  have started : left.start.unlock = right.start.unlock := congrArg Playthrough.start same
  have traced := run_unlock (bound - 1) []
  have alike := (traced left.start).symm.trans
    ((congrArg _ started).trans (traced right.start))
  exact ⟨congrArg Prod.fst alike, Playthrough.sameButLocks_of_unlock (congrArg Prod.snd alike)⟩

/-- Stories that differ in the conditions of options alone are played alike: after any operations,
in what a further one replies, in their traces, and before readers who say the same, as those do to
whom the conditions make no difference. -/
theorem Story.played_alike_of_unlock {left right : Story} (same : left.unlock = right.unlock)
    (world : World) (settings : PlaySettings) (operations : List Operation) :
    let first := (Playthrough.new left world settings).after operations
    let second := (Playthrough.new right world settings).after operations
    first.SameButLocks second ∧
      (∀ operation, (first.perform operation).1.unlock = (second.perform operation).1.unlock) ∧
      (∀ bound,
        let traced := Trace.ofPlaythrough bound first
        let other := Trace.ofPlaythrough bound second
        traced.1.map Node.unlock = other.1.map Node.unlock ∧ traced.2.SameButLocks other.2) ∧
      ∀ {σ τ : Type} (respond : Reader σ) (other : Reader τ) (count : Nat) (reader : σ)
        (another : τ),
        (Presentation.said respond count reader first =
            Presentation.said other count another second →
          Presentation.SameButLocks respond other count reader another first second) ∧
        (Presentation.IsBlind respond →
          Presentation.SameButLocks respond respond count reader reader first second) := by
  intro first second
  have created : (Playthrough.new left world settings).unlock =
      (Playthrough.new right world settings).unlock :=
    congrArg (Playthrough.new · world settings) same
  have alike : first.unlock = second.unlock := by
    rw [← Playthrough.after_unlock, ← Playthrough.after_unlock, created]
  refine ⟨Playthrough.sameButLocks_of_unlock alike, ?_, Trace.sameButLocks_of_unlock alike, ?_⟩
  · intro operation
    have replied := first.perform_unlock operation
    rw [alike, second.perform_unlock operation] at replied
    exact congrArg Prod.fst replied.symm
  · intro σ τ respond other count reader another
    refine ⟨Presentation.sameButLocks_of_said alike, fun blind => ?_⟩
    exact Presentation.sameButLocks_of_said alike (Presentation.said_of_isBlind blind alike)

def houseStory (door seat : Option String) : Story where
  labels := Table.ofList [
    ("Start", [
      .assignment "gold = 3" 2,
      .menu [⟨"Knock", "Hall", none⟩, ⟨"Enter", "Hall", door⟩] 3]),
    ("Hall", [
      .guarded "gold > 0" [.menu [⟨"Sit", "Hall", seat⟩, ⟨"Leave", "End", none⟩] 8] 7]),
    ("End", [.dialogue "Host" "Farewell." 11])]
  cast := ∅

def Reader.takingLast : Reader Nat := fun menus node _ =>
  match node with
  | .menu choices _ => { answer := some (.choose (choices.length - 1)), reader := menus + 1 }
  | _ => { answer := some .proceed, reader := menus }

theorem houseStory_played :
    let barred := houseStory (some "gold > 5") (some "tired == true")
    let free := houseStory none (some "what?")
    let operations := [.start, .step, .choose 1, .step]
    let first := (Playthrough.new barred {}).after operations
    let second := (Playthrough.new free {}).after operations
    barred.unlock = free.unlock ∧ first.menu ≠ second.menu ∧ first.depth = 1 ∧
      first.SameButLocks second ∧
      (first.perform (.choose 0)).1.unlock = (second.perform (.choose 0)).1.unlock ∧
      Presentation.SameButLocks Reader.takingLast Reader.takingLast 4 0 0 first second := by
  intro barred free operations first second
  have same : barred.unlock = free.unlock := rfl
  obtain ⟨alike, replies, _, presented⟩ := Story.played_alike_of_unlock same {} {} operations
  refine ⟨same, by decide +kernel, by decide +kernel, alike, replies (.choose 0), ?_⟩
  exact (presented _ _ 4 0 0).1 (by decide +kernel)

end StoryScript
