import Mathlib.Data.List.Chain
import StoryScript.Proofs.Playthrough.Bodies
import StoryScript.Proofs.Presentation.Unlocking

/-!
The exchanges of a presentation. Each is a node that is shown and the answer to it, which alone
decides what is shown next.
-/

namespace StoryScript

structure Exchange (σ : Type) where
  reader : σ
  node : Node
  play : Playthrough

namespace Exchange

section

variable {σ : Type} (respond : Reader σ)

def response (exchange : Exchange σ) : Response σ :=
  respond exchange.reader exchange.node exchange.play.world

def heard (exchange : Exchange σ) : Playthrough :=
  exchange.play.hear (exchange.response respond).toRemark

def turn (exchange : Exchange σ) : Turn :=
  (exchange.heard respond).answer exchange.node (exchange.response respond).answer

def Closes (exchange : Exchange σ) : Prop :=
  (exchange.response respond).answer = some .leave ∨
    (∃ choices line, exchange.node = .menu choices line) ∧
      ((exchange.response respond).answer = none ∨
        (exchange.response respond).answer = some .proceed)

inductive Leads (exchange : Exchange σ) : Option Node × Playthrough → Prop
  | chosen {choices line index choice} : exchange.node = .menu choices line →
      (exchange.response respond).answer = some (.choose index) →
      choices[index]? = some choice →
      Leads exchange ((exchange.heard respond).select choice.target).step
  | refused {choices line index} : exchange.node = .menu choices line →
      (exchange.response respond).answer = some (.choose index) → choices.length ≤ index →
      Leads exchange (some exchange.node, exchange.heard respond)
  | goesOn : (∀ choices line, exchange.node ≠ .menu choices line) →
      (exchange.response respond).answer ≠ some .leave →
      Leads exchange (exchange.heard respond).step
  | closes : exchange.Closes respond → Leads exchange (none, (exchange.heard respond).stop)

structure Follows (earlier later : Exchange σ) : Prop where
  reader : later.reader = (earlier.response respond).reader
  leads : earlier.Leads respond (some later.node, later.play)

end

section

variable {σ : Type} {respond : Reader σ} {exchange : Exchange σ}

theorem turn_of_closes (closes : exchange.Closes respond) :
    exchange.turn respond = .leaves (exchange.heard respond).stop ∨
      exchange.turn respond = .givesUp (exchange.heard respond).stop := by
  unfold turn
  rcases closes with leaves | ⟨⟨choices, line, asked⟩, silent | proceeds⟩
  · rw [leaves]
    exact .inl rfl
  · rw [asked, silent]
    exact .inr rfl
  · rw [asked, proceeds]
    exact .inr rfl

theorem turn_of_not_menu (tells : ∀ choices line, exchange.node ≠ .menu choices line)
    (stays : (exchange.response respond).answer ≠ some .leave) :
    exchange.turn respond = .goesOn (exchange.heard respond) := by
  unfold turn Playthrough.answer
  split
  next leaves => exact absurd leaves stays
  next asked => exact absurd asked (tells _ _)
  next asked _ _ => exact absurd asked (tells _ _)
  next => rfl

structure GoesOn (respond : Reader σ) (exchange : Exchange σ) (next : Playthrough) : Prop where
  turn : exchange.turn respond = .goesOn next ∨
    ∃ index, exchange.turn respond = .asksAgain index next
  isOpen : ¬ exchange.Closes respond
  leads : exchange.Leads respond next.step
  running : next.phase = .running
  bounded : 0 < next.silentBound

variable {play : Playthrough}

theorem running_heard (running : play.phase = .running)
    (stepped : play.step = (some exchange.node, exchange.play)) :
    (exchange.heard respond).phase = .running :=
  (Playthrough.running_of_step running stepped).2

theorem bounded_heard (bounded : 0 < play.silentBound)
    (stepped : play.step = (some exchange.node, exchange.play)) :
    0 < (exchange.heard respond).silentBound := by
  have same := congrArg Playthrough.Setting.silentBound play.setting_step
  rw [stepped] at same
  exact Nat.lt_of_lt_of_eq bounded same.symm

/-- The story waits at a menu, so that a choice is one among the options that have been shown, and
the menu is what comes next if there is no such option. -/
theorem goesOn_of_choose (bounded : 0 < play.silentBound) (running : play.phase = .running)
    (stepped : play.step = (some exchange.node, exchange.play)) {choices : List Choice}
    {line index : Nat} (asked : exchange.node = .menu choices line)
    (chosen : (exchange.response respond).answer = some (.choose index)) :
    ∃ next, exchange.GoesOn respond next := by
  have still : (exchange.heard respond).phase = .running := running_heard running stepped
  have bound : 0 < (exchange.heard respond).silentBound := bounded_heard bounded stepped
  rw [asked] at stepped
  have waits := Playthrough.waits_of_step running stepped
  have menu : (exchange.heard respond).menu = some choices := waits.1
  have reached : (exchange.heard respond).node? = some (.menu choices line) := waits.2
  have isOpen : ¬ exchange.Closes respond := by
    simp [Closes, chosen]
  by_cases offered : index < choices.length
  · refine ⟨(exchange.heard respond).select choices[index].target, .inl ?_, isOpen,
      .chosen asked chosen (List.getElem?_eq_getElem offered), still, bound⟩
    rw [Exchange.turn, asked, chosen]
    simp only [Playthrough.answer, Playthrough.choose?_of_offered menu offered]
  · have missing := Nat.le_of_not_lt offered
    have refuses := ((exchange.heard respond).choose?_eq_none_iff index).mpr
      (.inr ⟨choices, menu, missing⟩)
    refine ⟨exchange.heard respond, .inr ⟨index, ?_⟩, isOpen, ?_, still, bound⟩
    · rw [Exchange.turn, asked, chosen]
      simp only [Playthrough.answer, refuses]
    · -- The step that is taken then finds the same menu and leaves all as it is.
      rw [Playthrough.step_of_waiting bound still menu reached, ← asked]
      exact .refused asked chosen missing

theorem goesOn_or_closes (bounded : 0 < play.silentBound) (running : play.phase = .running)
    (stepped : play.step = (some exchange.node, exchange.play)) :
    (∃ next, exchange.GoesOn respond next) ∨ exchange.Closes respond := by
  by_cases leaves : (exchange.response respond).answer = some .leave
  · exact .inr (.inl leaves)
  by_cases asks : ∃ choices line, exchange.node = .menu choices line
  · obtain ⟨choices, line, asked⟩ := asks
    rcases given : (exchange.response respond).answer with _ | (_ | index | _)
    · exact .inr (.inr ⟨⟨choices, line, asked⟩, .inl given⟩)
    · exact .inr (.inr ⟨⟨choices, line, asked⟩, .inr given⟩)
    · exact .inl (goesOn_of_choose bounded running stepped asked given)
    · exact absurd given leaves
  · refine .inl ⟨exchange.heard respond, ?_⟩
    have tells : ∀ choices line, exchange.node ≠ .menu choices line :=
      fun choices line asked => asks ⟨choices, line, asked⟩
    exact ⟨.inl (turn_of_not_menu tells leaves), not_or.mpr ⟨leaves, fun closes => asks closes.1⟩,
      .goesOn tells leaves, running_heard running stepped, bounded_heard bounded stepped⟩

end

end Exchange

namespace Presentation

section

variable {σ : Type} (respond : Reader σ)

def exchangesFrom : Nat → σ → Playthrough → List (Exchange σ)
  | 0, _, _ => []
  | count + 1, reader, play =>
      match play.step with
      | (none, _) => []
      | (some node, after) =>
          let exchange : Exchange σ := ⟨reader, node, after⟩
          exchange ::
            match exchange.turn respond with
            | .goesOn next => exchangesFrom count (exchange.response respond).reader next
            | .asksAgain _ next => exchangesFrom count (exchange.response respond).reader next
            | .leaves _ => []
            | .givesUp _ => []

def exchanges (count : Nat) (reader : σ) (play : Playthrough) : List (Exchange σ) :=
  exchangesFrom respond count reader (begun play)

end

section

variable {σ : Type} {respond : Reader σ} {exchange : Exchange σ} {play next : Playthrough}

theorem run_of_exchange (count : Nat) (stepped : play.step = (some exchange.node, exchange.play)) :
    run respond (count + 1) exchange.reader play =
      match exchange.turn respond with
      | .goesOn next => run respond count (exchange.response respond).reader next
      | .asksAgain _ next => run respond count (exchange.response respond).reader next
      | .leaves last => ⟨last, (exchange.response respond).reader, true⟩
      | .givesUp last => ⟨last, (exchange.response respond).reader, true⟩ := by
  simp only [run, stepped]
  rfl

theorem exchangesFrom_of_exchange (count : Nat)
    (stepped : play.step = (some exchange.node, exchange.play)) :
    exchangesFrom respond (count + 1) exchange.reader play = exchange ::
      match exchange.turn respond with
      | .goesOn next => exchangesFrom respond count (exchange.response respond).reader next
      | .asksAgain _ next => exchangesFrom respond count (exchange.response respond).reader next
      | .leaves _ => []
      | .givesUp _ => [] := by
  simp only [exchangesFrom, stepped]

theorem run_of_next (count : Nat) (stepped : play.step = (some exchange.node, exchange.play))
    (turn : exchange.turn respond = .goesOn next ∨
      ∃ index, exchange.turn respond = .asksAgain index next) :
    run respond (count + 1) exchange.reader play =
        run respond count (exchange.response respond).reader next ∧
      exchangesFrom respond (count + 1) exchange.reader play =
        exchange :: exchangesFrom respond count (exchange.response respond).reader next := by
  rw [run_of_exchange count stepped, exchangesFrom_of_exchange count stepped]
  rcases turn with turn | ⟨index, turn⟩
  · simp only [turn, and_self]
  · simp only [turn, and_self]

theorem run_of_last (count : Nat) (stepped : play.step = (some exchange.node, exchange.play))
    {last : Playthrough}
    (turn : exchange.turn respond = .leaves last ∨ exchange.turn respond = .givesUp last) :
    run respond (count + 1) exchange.reader play =
        ⟨last, (exchange.response respond).reader, true⟩ ∧
      exchangesFrom respond (count + 1) exchange.reader play = [exchange] := by
  rw [run_of_exchange count stepped, exchangesFrom_of_exchange count stepped]
  rcases turn with turn | turn
  · simp only [turn, and_self]
  · simp only [turn, and_self]

end

/-- The exchanges are those of a presentation that opens with a step and comes out so. -/
structure Recounts {σ : Type} (respond : Reader σ) (count : Nat) (reader : σ)
    (opening : Option Node × Playthrough) (exchanges : List (Exchange σ)) (outcome : Outcome σ) :
    Prop where
  opens : ∀ first ∈ exchanges.head?,
    first.reader = reader ∧ opening = (some first.node, first.play)
  follows : exchanges.IsChain (Exchange.Follows respond)
  areShown : ∀ exchange ∈ exchanges, exchange.node.isShown = true
  closes : ∀ exchange ∈ exchanges, exchange.Closes respond →
    exchanges.getLast? = some exchange ∧ outcome.isFinished = true
  isCut : outcome.isFinished = false → exchanges.length = count
  ends : outcome.isFinished = true →
    match exchanges.getLast? with
    | some last => outcome.reader = (last.response respond).reader ∧
        last.Leads respond (none, outcome.play)
    | none => outcome.reader = reader ∧ opening = (none, outcome.play)
  isOver : outcome.isFinished = true → outcome.play.Over

section

variable {σ : Type} {respond : Reader σ} {exchange : Exchange σ} {play next : Playthrough}

theorem Recounts.cons {count : Nat} {rest : List (Exchange σ)} {outcome : Outcome σ}
    (isShown : exchange.node.isShown = true) (goesOn : exchange.GoesOn respond next)
    (recounts : Recounts respond count (exchange.response respond).reader next.step rest outcome) :
    Recounts respond (count + 1) exchange.reader (some exchange.node, exchange.play)
      (exchange :: rest) outcome where
  opens first isFirst := by
    obtain rfl := Option.some.inj isFirst
    exact ⟨rfl, rfl⟩
  follows := by
    refine List.isChain_cons.mpr ⟨fun later first => ?_, recounts.follows⟩
    obtain ⟨reader, opening⟩ := recounts.opens later first
    exact ⟨reader, opening ▸ goesOn.leads⟩
  areShown := List.forall_mem_cons.mpr ⟨isShown, recounts.areShown⟩
  closes := by
    refine List.forall_mem_cons.mpr ⟨fun closes => absurd closes goesOn.isOpen, ?_⟩
    intro other member closes
    obtain ⟨isLast, finished⟩ := recounts.closes other member closes
    rw [List.getLast?_cons, isLast]
    exact ⟨rfl, finished⟩
  isCut unfinished := congrArg Nat.succ (recounts.isCut unfinished)
  ends finished := by
    have ends := recounts.ends finished
    cases rest with
    | nil => exact ⟨ends.1, ends.2 ▸ goesOn.leads⟩
    | cons second more => exact ends
  isOver := recounts.isOver

theorem recounts_nil {count : Nat} {reader : σ} {opening : Option Node × Playthrough}
    {outcome : Outcome σ} (isCut : outcome.isFinished = false → 0 = count)
    (ends : outcome.isFinished = true →
      outcome.reader = reader ∧ opening = (none, outcome.play) ∧ outcome.play.Over) :
    Recounts respond count reader opening [] outcome where
  opens first isFirst := absurd isFirst (Option.not_mem_none first)
  follows := .nil
  areShown := List.forall_mem_nil _
  closes := List.forall_mem_nil _
  isCut := isCut
  ends finished := ⟨(ends finished).1, (ends finished).2.1⟩
  isOver finished := (ends finished).2.2

theorem Recounts.closing (count : Nat) (running : play.phase = .running)
    (stepped : play.step = (some exchange.node, exchange.play))
    (closes : exchange.Closes respond) :
    Recounts respond (count + 1) exchange.reader (some exchange.node, exchange.play) [exchange]
      ⟨(exchange.heard respond).stop, (exchange.response respond).reader, true⟩ where
  opens first isFirst := by
    obtain rfl := Option.some.inj isFirst
    exact ⟨rfl, rfl⟩
  follows := .singleton exchange
  areShown := List.forall_mem_singleton.mpr (Playthrough.running_of_step running stepped).1
  closes := List.forall_mem_singleton.mpr fun _ => ⟨rfl, rfl⟩
  isCut unfinished := absurd unfinished Bool.false_ne_true.symm
  ends _ := ⟨rfl, .closes closes⟩
  isOver _ := Playthrough.over_of_stop (Exchange.running_heard running stepped)

theorem recounts_run (respond : Reader σ) (count : Nat) (reader : σ)
    (bounded : 0 < play.silentBound) (running : play.phase = .running) :
    Recounts respond count reader play.step (exchangesFrom respond count reader play)
      (run respond count reader play) := by
  induction count generalizing reader play with
  | zero =>
      exact recounts_nil (fun _ => rfl) (absurd · Bool.false_ne_true)
  | succ count ih =>
      rcases stepped : play.step with ⟨_ | node, after⟩
      · have ended := Playthrough.over_of_step running stepped
        simp only [run, exchangesFrom, stepped]
        exact recounts_nil (absurd · Bool.false_ne_true.symm) fun _ => ⟨rfl, rfl, ended⟩
      · let exchange : Exchange σ := ⟨reader, node, after⟩
        have isShown := (Playthrough.running_of_step running stepped).1
        have turns : (∃ next, exchange.GoesOn respond next) ∨ exchange.Closes respond :=
          Exchange.goesOn_or_closes bounded running stepped
        rcases turns with ⟨next, goesOn⟩ | closes
        · -- What is left of the presentation opens with the step that this exchange leads to.
          obtain ⟨sameRun, sameExchanges⟩ := run_of_next count stepped goesOn.turn
          rw [sameRun, sameExchanges]
          exact (ih _ goesOn.bounded goesOn.running).cons isShown goesOn
        · obtain ⟨sameRun, sameExchanges⟩ :=
            run_of_last count stepped (Exchange.turn_of_closes closes)
          rw [sameRun, sameExchanges]
          exact .closing count running stepped closes

end

section

variable {σ : Type} (respond : Reader σ)

theorem notes_run (count : Nat) (reader : σ) (notes : List Node) (play : Playthrough) :
    (run respond.noting count (reader, notes) play).reader.2 =
      ((exchangesFrom respond count reader play).map (·.node)).reverse ++ notes := by
  induction count generalizing reader notes play with
  | zero => rfl
  | succ count ih =>
      simp only [run, exchangesFrom, Reader.noting, Exchange.turn, Exchange.heard,
        Exchange.response]
      rcases play.step with ⟨_ | node, after⟩
      · rfl
      · simp only [List.map_cons, List.reverse_cons, List.append_assoc, List.singleton_append]
        let response := respond reader node after.world
        cases (after.hear response.toRemark).answer node response.answer with
        | goesOn next => exact ih response.reader (node :: notes) next
        | asksAgain index next => exact ih response.reader (node :: notes) next
        | leaves last => rfl
        | givesUp last => rfl

theorem nodes_exchanges (count : Nat) (reader : σ) (play : Playthrough) :
    (exchanges respond count reader play).map (·.node) = shown respond count reader play := by
  have notes := notes_run respond count reader [] (begun play)
  rw [List.append_nil] at notes
  rw [exchanges, ← List.reverse_reverse (List.map _ _), ← notes]
  rfl

theorem exchangesFrom_take (count more : Nat) (reader : σ) (play : Playthrough) :
    (exchangesFrom respond (count + more) reader play).take count =
      exchangesFrom respond count reader play := by
  induction count generalizing reader play with
  | zero => exact List.take_zero
  | succ count ih =>
      rw [Nat.succ_add]
      simp only [exchangesFrom]
      rcases play.step with ⟨_ | node, after⟩
      · rfl
      · let exchange : Exchange σ := ⟨reader, node, after⟩
        simp only [List.take_succ_cons]
        refine congrArg (exchange :: ·) ?_
        cases exchange.turn respond with
        | goesOn next => exact ih _ next
        | asksAgain index next => exact ih _ next
        | leaves last => exact List.take_nil
        | givesUp last => exact List.take_nil

theorem run_of_isFinished {count : Nat} {reader : σ} {play : Playthrough}
    (finished : (run respond count reader play).isFinished = true) (more : Nat) :
    run respond (count + more) reader play = run respond count reader play := by
  induction count generalizing reader play with
  | zero => contradiction
  | succ count ih =>
      rw [Nat.succ_add]
      simp only [run] at finished ⊢
      split
      next after _ => rfl
      next node after stepped =>
        rw [stepped] at finished
        simp only at finished ⊢
        split
        next next turn =>
          rw [turn] at finished
          exact ih finished
        next index next turn =>
          rw [turn] at finished
          exact ih finished
        next last _ => rfl
        next last _ => rfl

end

theorem running_begun (play : Playthrough) : (begun play).phase = .running := by
  unfold begun
  split
  next running => exact beq_iff_eq.mp running
  next => rfl

theorem silentBound_begun (play : Playthrough) : (begun play).silentBound = play.silentBound := by
  unfold begun
  split
  · rfl
  · rfl

/-- A presentation, of whatever session, is what its exchanges tell: they are opened by the first
step, each leads to the next one, and the last one to the end of the story. The bound on their number
only cuts them, and a presentation that is not cut leaves nothing open. -/
theorem recounts_ofPlaythrough {σ : Type} (respond : Reader σ) (reader : σ) (story : Story)
    (world : World) (settings : PlaySettings) (happenings : List Happening) (count : Nat) :
    let play := (Playthrough.new story world settings).following happenings
    let made := exchanges respond count reader play
    let outcome := ofPlaythrough respond count reader play
    made.map (·.node) = shown respond count reader play ∧
      Recounts respond count reader (begun play).step made outcome ∧
      (∀ more, made = (exchanges respond (count + more) reader play).take count) ∧
      (outcome.isFinished = true →
        outcome.play.phase = .finished ∧ outcome.play.depth = 0 ∧ outcome.play.menu = none ∧
        ∀ more, ofPlaythrough respond (count + more) reader play = outcome) := by
  intro play made outcome
  have bounded : 0 < (begun play).silentBound := by
    rw [silentBound_begun, Playthrough.silentBound_following]
    exact Nat.le_max_right settings.maxSilentSteps 1
  have recounts : Recounts respond count reader (begun play).step made outcome :=
    recounts_run respond count reader bounded (running_begun play)
  refine ⟨nodes_exchanges respond count reader play, recounts, fun more => ?_, fun finished => ?_⟩
  · exact (exchangesFrom_take respond count more reader (begun play)).symm
  · have ended := recounts.isOver finished
    exact ⟨ended.phase, ended.depth, ended.menu, run_of_isFinished respond finished⟩

end Presentation

end StoryScript
