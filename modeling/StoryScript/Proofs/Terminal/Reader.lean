import StoryScript.Proofs.Presentation.Exchange
import StoryScript.Proofs.Terminal.Ending

/-!
A terminal as a presentation. Its reader is the input: a dialogue takes a line of it, a menu all
lines up to the first one that answers it, and a command none.
-/

namespace StoryScript

def Output.text? : Output → Option String
  | .out text => some text
  | _ => none

def Outcome.status {σ : Type} (outcome : Outcome σ) : Terminal.Status :=
  if outcome.isFinished then .ended outcome.play else .pending outcome.play

namespace Terminal

open Presentation

def printed (outputs : List Output) : List String :=
  outputs.filterMap Output.text?

def refuses (node : Node) (input : Input) : Bool :=
  (answer? node input).isNone

def hear (node : Node) : List Input → Option Answer × List Input
  | [] => ((answer? node .endOfInput).join, [])
  | input :: rest =>
      match answer? node input with
      | some answer => (answer, rest)
      | none => hear node rest

def reader : Reader (List Input) := fun lines node world =>
  let (answer, rest) := if wantsLine node then hear node lines else (none, lines)
  { answer, complaints := (world.view node).2, reader := rest }

def asking (node : Node) (refused : Nat) : List String :=
  if wantsLine node then
    prompt node :: (List.replicate refused ["invalid\n", prompt node]).flatten
  else []

def display (exchange : Exchange (List Input)) : List String :=
  printed (showing exchange.play.world exchange.node) ++
    asking exchange.node (exchange.reader.takeWhile (refuses exchange.node)).length

def serve (count : Nat) (shown : Status × List Output) (inputs : List Input) :
    Status × List Output :=
  let (last, later) := feedAll count shown.1 inputs
  (last, shown.2 ++ later)

def session (count : Nat) (play : Playthrough) (inputs : List Input) : Status × List Output :=
  serve count (opening count play) inputs

@[simp]
theorem printed_nil : printed [] = [] := rfl

@[simp]
theorem printed_append (front back : List Output) :
    printed (front ++ back) = printed front ++ printed back :=
  List.filterMap_append

@[simp]
theorem printed_log (entry : LogEntry) (outputs : List Output) :
    printed (.log entry :: outputs) = printed outputs := rfl

@[simp]
theorem printed_out (text : String) (outputs : List Output) :
    printed (.out text :: outputs) = text :: printed outputs := rfl

@[simp]
theorem printed_logs (entries : List LogEntry) : printed (entries.map .log) = [] := by
  induction entries with
  | nil => rfl
  | cons entry rest ih => exact ih

section

variable {play after : Playthrough}

theorem present_of_end (count : Nat) (made : List Output) (stepped : play.step = (none, after)) :
    present (count + 1) made play =
      (.ended after, made.reverse ++ (play.stepEntries.map .log ++ [.log finishedEntry])) := by
  simp [present, stepped]

variable {exchange : Exchange (List Input)}

theorem present_of_wait (count : Nat) (made : List Output)
    (stepped : play.step = (some exchange.node, exchange.play))
    (wants : wantsLine exchange.node = true) :
    present (count + 1) made play =
      (.waits (exchange.heard reader) exchange.node,
        made.reverse ++ (play.stepEntries.map .log ++ showing exchange.play.world exchange.node ++
          [.out (prompt exchange.node)])) := by
  simp [present, stepped, wants, Exchange.heard, Exchange.response, reader,
    Playthrough.hear_complaints]

theorem present_of_silence (count : Nat) (made : List Output)
    (stepped : play.step = (some exchange.node, exchange.play))
    (silent : ¬ wantsLine exchange.node = true) :
    present (count + 1) made play =
      present count ((showing exchange.play.world exchange.node).reverse ++
        ((play.stepEntries.map .log).reverse ++ made)) (exchange.heard reader) := by
  simp [present, stepped, silent, Exchange.heard, Exchange.response, reader,
    Playthrough.hear_complaints]

end

/-- What has been put out before only comes first. -/
theorem present_made (count : Nat) (made : List Output) (play : Playthrough) :
    present count made play =
      ((present count [] play).1, made.reverse ++ (present count [] play).2) := by
  induction count generalizing made play with
  | zero => simp [present]
  | succ count ih =>
      rcases stepped : play.step with ⟨_ | node, after⟩
      · simp [present_of_end count _ stepped]
      let exchange : Exchange (List Input) := ⟨[], node, after⟩
      have shown : play.step = (some exchange.node, exchange.play) := stepped
      by_cases wants : wantsLine exchange.node = true
      · simp [present_of_wait count _ shown wants]
      · rw [present_of_silence count made shown wants, present_of_silence count [] shown wants, ih,
          ih (_ ++ (_ ++ []))]
        simp

theorem serve_present (count more : Nat) (made : List Output) (play : Playthrough)
    (inputs : List Input) :
    (serve count (present more made play) inputs).1 =
        (serve count (present more [] play) inputs).1 ∧
      printed (serve count (present more made play) inputs).2 =
        printed made.reverse ++ printed (serve count (present more [] play) inputs).2 := by
  rw [present_made]
  simp [serve]

def resume (count : Nat) (rest : List Input) : Turn → Status × List Output
  | .goesOn after => serve count (present count [] after) rest
  | .asksAgain _ after => serve count (present count [] after) rest
  | .leaves last => (.ended last, [])
  | .givesUp last => (.ended last, [])

theorem resume_cases (count : Nat) (rest : List Input) (turn : Turn) :
    (∃ next, (turn = .goesOn next ∨ ∃ index, turn = .asksAgain index next) ∧
        resume count rest turn = serve count (present count [] next) rest) ∨
      ∃ last, (turn = .leaves last ∨ turn = .givesUp last) ∧
        resume count rest turn = (.ended last, []) := by
  cases turn with
  | goesOn next => exact .inl ⟨next, .inl rfl, rfl⟩
  | asksAgain index next => exact .inl ⟨next, .inr ⟨index, rfl⟩, rfl⟩
  | leaves last => exact .inr ⟨last, .inl rfl, rfl⟩
  | givesUp last => exact .inr ⟨last, .inr rfl, rfl⟩

def refusal (node : Node) (input : Input) : List Output :=
  (inputEntries input).map .log ++ [.out "invalid\n", .out (prompt node)]

@[simp]
theorem printed_refusal (node : Node) (input : Input) :
    printed (refusal node input) = ["invalid\n", prompt node] := by
  simp [refusal]

section

variable {count : Nat} {play : Playthrough} {node : Node}

theorem serve_of_refused {input : Input} (refused : answer? node input = none)
    (made : List Output) (rest : List Input) :
    serve count (.waits play node, made) (input :: rest) =
      serve count (.waits play node, made ++ refusal node input) rest := by
  simp [serve, feedAll, feed, refused, refusal]

theorem serve_of_answered {input : Input} {answer : Option Answer}
    (answered : answer? node input = some answer) (made : List Output) (rest : List Input) :
    let later := resume count rest (play.answer node answer)
    (serve count (.waits play node, made) (input :: rest)).1 = later.1 ∧
      printed (serve count (.waits play node, made) (input :: rest)).2 =
        printed made ++ printed later.2 := by
  simp only [serve, feedAll, feed, answered]
  cases play.answer node answer with
  | goesOn after =>
      simp only
      rw [present_made]
      simp [resume, serve]
  | asksAgain index after =>
      simp only
      rw [present_made]
      simp [resume, serve]
  | leaves last => simp [resume, feedAll_ended]
  | givesUp last => simp [resume, feedAll_ended]

theorem serve_of_waits (count : Nat) (play : Playthrough) (node : Node) (made : List Output)
    (inputs : List Input) :
    let later := resume count (hear node inputs).2 (play.answer node (hear node inputs).1)
    (serve count (.waits play node, made) inputs).1 = later.1 ∧
      printed (serve count (.waits play node, made) inputs).2 =
        printed made ++ (List.replicate (inputs.takeWhile (refuses node)).length
          ["invalid\n", prompt node]).flatten ++ printed later.2 := by
  induction inputs generalizing made with
  | nil =>
      -- The end of the input answers whatever is asked, and nothing goes on after it.
      cases node <;> simp [serve, feedAll, feed, hear, answer?, resume, Playthrough.answer,
        inputEntries]
  | cons input rest ih =>
      cases answered : answer? node input with
      | none =>
          have refused : refuses node input = true := by simp [refuses, answered]
          rw [serve_of_refused answered]
          simpa [hear, answered, refused, List.replicate_succ] using
            ih (made ++ refusal node input)
      | some answer =>
          have accepted : refuses node input = false := by simp [refuses, answered]
          simpa [hear, answered, accepted] using serve_of_answered answered made rest

end

theorem hear_cases (play : Playthrough) (node : Node) (inputs : List Input) :
    (hear node inputs).2.length < inputs.length ∨
      play.answer node (hear node inputs).1 = .leaves play.stop ∨
      play.answer node (hear node inputs).1 = .givesUp play.stop := by
  induction inputs with
  | nil => cases node <;> simp [hear, answer?, Playthrough.answer]
  | cons input rest ih =>
      simp only [hear]
      split
      · exact .inl (Nat.lt_succ_self rest.length)
      · exact ih.imp_left Nat.lt_succ_of_lt

/-- A terminal has come to where a presentation of as many nodes has, and shown the same. -/
structure Presents (bound : Nat) (inputs : List Input) (play : Playthrough)
    (made : Status × List Output) : Prop where
  status : made.1 = (run reader bound inputs play).status
  texts : printed made.2 = (exchangesFrom reader bound inputs play).flatMap display

section

variable {bound : Nat} {play next : Playthrough} {exchange : Exchange (List Input)}
  {made : Status × List Output}

theorem Presents.cons (stepped : play.step = (some exchange.node, exchange.play))
    (turn : exchange.turn reader = .goesOn next ∨
      ∃ index, exchange.turn reader = .asksAgain index next)
    {later : Status × List Output}
    (presents : Presents bound (exchange.response reader).reader next later)
    (status : made.1 = later.1)
    (texts : printed made.2 = display exchange ++ printed later.2) :
    Presents (bound + 1) exchange.reader play made := by
  obtain ⟨sameRun, sameExchanges⟩ := run_of_next bound stepped turn
  constructor
  · rw [status, presents.status, sameRun]
  · rw [texts, presents.texts, sameExchanges, List.flatMap_cons]

theorem Presents.last (stepped : play.step = (some exchange.node, exchange.play))
    {last : Playthrough}
    (turn : exchange.turn reader = .leaves last ∨ exchange.turn reader = .givesUp last)
    (status : made.1 = .ended last) (texts : printed made.2 = display exchange) :
    Presents 1 exchange.reader play made := by
  obtain ⟨sameRun, sameExchanges⟩ := run_of_last 0 stepped turn
  constructor
  · rw [status, sameRun]
    rfl
  · rw [texts, sameExchanges, List.flatMap_singleton]

theorem response_of_wants (wants : wantsLine exchange.node = true) :
    (exchange.response reader).answer = (hear exchange.node exchange.reader).1 ∧
      (exchange.response reader).reader = (hear exchange.node exchange.reader).2 := by
  simp [Exchange.response, reader, wants]

theorem response_of_silence (silent : ¬ wantsLine exchange.node = true) :
    (exchange.response reader).answer = none ∧
      (exchange.response reader).reader = exchange.reader := by
  simp [Exchange.response, reader, silent]

theorem turn_of_silence (silent : ¬ wantsLine exchange.node = true) :
    exchange.turn reader = .goesOn (exchange.heard reader) := by
  refine Exchange.turn_of_not_menu (fun choices line asked => ?_) ?_
  · rw [asked] at silent
    exact silent rfl
  · rw [(response_of_silence silent).1]
    exact nofun

theorem presents_of_silence (stepped : play.step = (some exchange.node, exchange.play))
    (silent : ¬ wantsLine exchange.node = true) {count more : Nat}
    (presents : Presents bound exchange.reader (exchange.heard reader)
      (serve count (present more [] (exchange.heard reader)) exchange.reader)) :
    Presents (bound + 1) exchange.reader play
        (serve count (present (more + 1) [] play) exchange.reader) ∧
      (serve count (present (more + 1) [] play) exchange.reader).1 =
        (serve count (present more [] (exchange.heard reader)) exchange.reader).1 := by
  have sameReader := (response_of_silence silent).2
  have later := serve_present count more ((showing exchange.play.world exchange.node).reverse ++
    ((play.stepEntries.map .log).reverse ++ [])) (exchange.heard reader) exchange.reader
  rw [← present_of_silence more [] stepped silent] at later
  refine ⟨.cons stepped (.inl (turn_of_silence silent)) (sameReader ▸ presents) later.1 ?_, later.1⟩
  simp [later.2, display, asking, silent]

theorem serve_of_wait (stepped : play.step = (some exchange.node, exchange.play))
    (wants : wantsLine exchange.node = true) (count more : Nat) :
    let later := resume count (exchange.response reader).reader (exchange.turn reader)
    (serve count (present (more + 1) [] play) exchange.reader).1 = later.1 ∧
      printed (serve count (present (more + 1) [] play) exchange.reader).2 =
        display exchange ++ printed later.2 := by
  have served := serve_of_waits count (exchange.heard reader) exchange.node
    (play.stepEntries.map .log ++ showing exchange.play.world exchange.node ++
      [.out (prompt exchange.node)]) exchange.reader
  obtain ⟨answer, rest⟩ := response_of_wants wants
  rw [present_of_wait more [] stepped wants, Exchange.turn, answer, rest]
  simpa [display, asking, wants] using served

theorem fewer_of_goesOn (wants : wantsLine exchange.node = true)
    (turn : exchange.turn reader = .goesOn next ∨
      ∃ index, exchange.turn reader = .asksAgain index next) :
    (exchange.response reader).reader.length < exchange.reader.length := by
  obtain ⟨answer, rest⟩ := response_of_wants wants
  rw [Exchange.turn, answer] at turn
  rw [rest]
  rcases hear_cases (exchange.heard reader) exchange.node exchange.reader with
    less | last | last
  · exact less
  all_goals simp [last] at turn

end

/-- Whatever it is given to read, a terminal is a presentation to its reader. It is cut at no less
than the number of nodes that it shows at a time. -/
theorem presents_serve {count more : Nat} (few : more ≤ count) (inputs : List Input)
    (play : Playthrough) :
    ∃ bound, Presents bound inputs play (serve count (present more [] play) inputs) ∧
      ∀ last, (serve count (present more [] play) inputs).1 = .pending last → more ≤ bound := by
  -- Each answer takes a line, and the nodes that want none are bounded by `more`.
  induction length : inputs.length using Nat.strong_induction_on generalizing inputs play more with
  | _ length fewer =>
  induction more generalizing play with
  | zero =>
      refine ⟨0, ⟨?_, ?_⟩, fun _ _ => Nat.le_refl 0⟩
      · simp only [serve, present, feedAll_pending]
        rfl
      · simp only [serve, present, feedAll_pending]
        rfl
  | succ more ih =>
      rcases stepped : play.step with ⟨_ | node, after⟩
      · have served : serve count (present (more + 1) [] play) inputs =
            (.ended after, play.stepEntries.map .log ++ [.log finishedEntry]) := by
          simp [serve, present_of_end more [] stepped, feedAll_ended]
        refine ⟨1, ⟨?_, ?_⟩, fun last pending => ?_⟩
        · simp [served, run, stepped, Outcome.status]
        · simp [served, exchangesFrom, stepped]
        · rw [served] at pending
          contradiction
      let exchange : Exchange (List Input) := ⟨inputs, node, after⟩
      have shown : play.step = (some exchange.node, exchange.play) := stepped
      by_cases wants : wantsLine exchange.node = true
      · obtain ⟨status, texts⟩ := serve_of_wait shown wants count more
        rcases resume_cases count (exchange.response reader).reader (exchange.turn reader) with
          ⟨next, turn, same⟩ | ⟨last, turn, same⟩
        · rw [same] at status texts
          obtain ⟨bound, presents, enough⟩ := fewer _
            (length ▸ fewer_of_goesOn wants turn) (Nat.le_refl count) _ next rfl
          refine ⟨bound + 1, presents.cons shown turn status texts, fun last pending => ?_⟩
          have := enough last (status ▸ pending)
          omega
        · rw [same] at status texts
          refine ⟨1, .last shown turn status (by simpa using texts), fun other pending => ?_⟩
          rw [status] at pending
          contradiction
      · obtain ⟨bound, presents, enough⟩ := ih (Nat.le_of_succ_le few) (exchange.heard reader)
        obtain ⟨presents, status⟩ := presents_of_silence shown wants presents
        refine ⟨bound + 1, presents, fun last pending => ?_⟩
        exact Nat.succ_le_succ (enough last (status ▸ pending))

theorem presents_session (count : Nat) (inputs : List Input) {play : Playthrough}
    (fresh : play.isRunning = false) :
    ∃ bound, (session count play inputs).1 = (ofPlaythrough reader bound inputs play).status ∧
      printed (session count play inputs).2 =
        (exchanges reader bound inputs play).flatMap display ∧
      ∀ last, (session count play inputs).1 = .pending last → count ≤ bound := by
  have opened := serve_present count count [.log play.startEntry] play.start inputs
  obtain ⟨bound, presents, enough⟩ := presents_serve (Nat.le_refl count) inputs play.start
  have started : begun play = play.start := by
    simp only [begun, fresh, Bool.false_eq_true, if_false]
  refine ⟨bound, ?_, ?_, fun last pending => enough last (opened.1 ▸ pending)⟩
  · rw [session, opening, opened.1, presents.status, ofPlaythrough]
    simp only [fresh, Bool.false_eq_true, if_false]
  · rw [session, opening, opened.2, presents.texts, exchanges, started]
    rfl

end Terminal

end StoryScript
