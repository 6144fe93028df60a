import StoryScript.Proofs.Terminal.Lines
import StoryScript.Proofs.Terminal.Reader

/-!
What the lines of an input do to a story. A menu is answered by the number of one of the options
that have been printed, so that a choice is always one of the menu at which the story waits.
-/

namespace StoryScript.Terminal

open Presentation

def IsExit (said : String) : Prop :=
  (Text.trim said.toList).map Char.toLower = "exit".toList

/-- The line is the number in digits, after a plus or not. Numbers have sixty-four bits. -/
def Denotes (said : String) (number : Nat) : Prop :=
  ∃ digits : List Char, digits ≠ [] ∧ (∀ digit ∈ digits, digit.isDigit = true) ∧
    (Text.trim said.toList = digits ∨ Text.trim said.toList = '+' :: digits) ∧
    number = Nat.ofDigitChars 10 digits 0 ∧ number < UInt64.size

def IsNoAnswer (choices : List Choice) (said : String) : Prop :=
  ¬ IsExit said ∧ ∀ number, Denotes said number → ¬ (1 ≤ number ∧ number ≤ choices.length)

def optionLine (world : World) (number : Nat) (choice : Choice) : String :=
  let mark := if (world.judgeChoice choice).holds then "" else " (locked)"
  s!"  [{number}] {world.interpolate choice.text}{mark}\n"

theorem printed_menu (world : World) (choices : List Choice) (line : Nat) :
    printed (showing world (.menu choices line)) =
      (choices.zipIdx 1).map fun (choice, number) => optionLine world number choice := by
  have option (number : Nat) (choice : Choice) :
      printed (optionOutput world number choice) = [optionLine world number choice] := by
    have complaints := printed_logs ((world.judgeChoice choice).complaints.map Diagnostic.entry)
    rw [List.map_map] at complaints
    rw [optionOutput, printed_append]
    exact congrArg (· ++ _) complaints
  rw [showing, printed, List.filterMap_flatMap, List.map_eq_flatMap]
  exact List.flatMap_congr fun (choice, number) _ => option number choice

theorem printed_option {choices : List Choice} {number : Nat} {choice : Choice} (world : World)
    (line : Nat) (positive : 1 ≤ number) (chosen : choices[number - 1]? = some choice) :
    (printed (showing world (.menu choices line)))[number - 1]? =
      some (optionLine world number choice) := by
  simp [printed_menu, chosen, Nat.add_sub_cancel' positive]

theorem isExit_iff (said : String) : isExit (Text.trim said.toList) = true ↔ IsExit said :=
  beq_iff_eq

def digitsOf (line : List Char) : List Char :=
  match line with
  | '+' :: rest => rest
  | _ => line

theorem digitsOf_cases (line : List Char) : line = digitsOf line ∨ line = '+' :: digitsOf line := by
  unfold digitsOf
  split
  next => exact .inr rfl
  next => exact .inl rfl

theorem digitsOf_digits {digits : List Char} (areDigits : ∀ digit ∈ digits, digit.isDigit = true) :
    digitsOf digits = digits := by
  unfold digitsOf
  split
  next rest =>
    have := areDigits '+' List.mem_cons_self
    contradiction
  next => rfl

theorem number?_eq (line : List Char) :
    number? line =
      if !(digitsOf line).isEmpty && (digitsOf line).all Char.isDigit &&
          decide (Nat.ofDigitChars 10 (digitsOf line) 0 < UInt64.size)
      then some (Nat.ofDigitChars 10 (digitsOf line) 0) else none := rfl

theorem number?_eq_some_iff (said : String) (number : Nat) :
    number? (Text.trim said.toList) = some number ↔ Denotes said number := by
  rw [number?_eq]
  constructor
  · intro read
    obtain ⟨holds, same⟩ := Option.ite_none_right_eq_some.mp read
    simp only [Bool.and_eq_true, Bool.not_eq_true', List.isEmpty_eq_false_iff, List.all_eq_true,
      decide_eq_true_eq] at holds
    obtain ⟨⟨nonempty, areDigits⟩, small⟩ := holds
    obtain rfl := Option.some.inj same
    exact ⟨digitsOf _, nonempty, areDigits, digitsOf_cases _, rfl, small⟩
  · rintro ⟨digits, nonempty, areDigits, spelled, rfl, small⟩
    have same : digitsOf (Text.trim said.toList) = digits := by
      rcases spelled with bare | signed
      · rw [bare, digitsOf_digits areDigits]
      · rw [signed, digitsOf]
    have all : digits.all Char.isDigit = true := List.all_eq_true.mpr areDigits
    have isEmpty : digits.isEmpty = false := List.isEmpty_eq_false_iff.mpr nonempty
    rw [same, all, isEmpty, decide_eq_true small]
    rfl

section

variable {choices : List Choice} {line : Nat}

theorem answer?_menu (said : String) :
    (IsExit said ∧ answer? (.menu choices line) (.line said) = some (some .leave)) ∨
      (∃ number choice, Denotes said number ∧ 1 ≤ number ∧ choices[number - 1]? = some choice ∧
        answer? (.menu choices line) (.line said) = some (some (.choose (number - 1)))) ∨
      (IsNoAnswer choices said ∧ answer? (.menu choices line) (.line said) = none) := by
  by_cases leaves : IsExit said
  · exact .inl ⟨leaves, by simp only [answer?, (isExit_iff said).mpr leaves, if_true]⟩
  have stays : ¬ isExit (Text.trim said.toList) = true := (isExit_iff said).not.mpr leaves
  refine .inr ?_
  cases read : number? (Text.trim said.toList) with
  | none =>
      refine .inr ⟨⟨leaves, fun number denotes => ?_⟩, by simp [answer?, stays, read]⟩
      rw [(number?_eq_some_iff said number).mpr denotes] at read
      contradiction
  | some number =>
      have denotes := (number?_eq_some_iff said number).mp read
      by_cases offered : 1 ≤ number ∧ number ≤ choices.length
      · have inside : number - 1 < choices.length := by omega
        exact .inl ⟨number, choices[number - 1], denotes, offered.1,
          List.getElem?_eq_getElem inside, by simp [answer?, stays, read, offered]⟩
      · refine .inr ⟨⟨leaves, fun other same => ?_⟩, by simp [answer?, stays, read, offered]⟩
        rw [(number?_eq_some_iff said other).mpr same] at read
        exact Option.some.inj read ▸ offered

example : answer? (.menu [⟨"Stay", "Stay", none⟩, ⟨"Go", "Road", none⟩] 1) (.line " +02\n") =
    some (some (.choose 1)) := by
  decide +kernel

theorem isNoAnswer_of_refused {said : String}
    (refused : answer? (.menu choices line) (.line said) = none) : IsNoAnswer choices said := by
  rcases answer?_menu said with ⟨-, given⟩ | ⟨number, choice, -, -, -, given⟩ | ⟨noAnswer, -⟩
  · rw [given] at refused
    contradiction
  · rw [given] at refused
    contradiction
  · exact noAnswer

end

/-- The lines that are no answer come first, and after them the one that is heard, if there is
one. -/
structure Hears (node : Node) (texts refused : List String) (said : Option String)
    (rest : List String) : Prop where
  lines : texts = refused ++ said.toList ++ rest
  areRefused : ∀ other ∈ refused, answer? node (.line other) = none
  count : ((texts.map Input.line).takeWhile (refuses node)).length = refused.length
  heard : ∀ line ∈ said, answer? node (.line line) = some (hear node (texts.map .line)).1
  ended : said = none → rest = [] ∧
    (hear node (texts.map .line)).1 = (answer? node .endOfInput).join
  left : (hear node (texts.map .line)).2 = rest.map .line

theorem exists_hears (node : Node) (texts : List String) :
    ∃ refused said rest, Hears node texts refused said rest := by
  induction texts with
  | nil => exact ⟨[], none, [], rfl, List.forall_mem_nil _, rfl, nofun, fun _ => ⟨rfl, rfl⟩, rfl⟩
  | cons text more ih =>
      cases answered : answer? node (.line text) with
      | some answer =>
          exact ⟨[], some text, more, rfl, List.forall_mem_nil _, by simp [refuses, answered],
            by simp [hear, answered], nofun, by simp [hear, answered]⟩
      | none =>
          have same : hear node ((text :: more).map .line) = hear node (more.map .line) := by
            simp [hear, answered]
          obtain ⟨refused, said, rest, hears⟩ := ih
          refine ⟨text :: refused, said, rest, ?_, ?_, ?_, same ▸ hears.heard, same ▸ hears.ended,
            same ▸ hears.left⟩
          · rw [hears.lines]
            rfl
          · exact List.forall_mem_cons.mpr ⟨answered, hears.areRefused⟩
          · simp [refuses, answered, hears.count]

/-- What an exchange takes of the lines: some that are no answer, and one that is, if there is one
left; and what it comes to. -/
inductive Takes (exchange : Exchange (List Input)) : List String → Option String → Turn → Prop
  | command {verb arguments line} : exchange.node = .command verb arguments line →
      Takes exchange [] none (.goesOn (exchange.heard reader))
  | dialogue {speaker text line said} : exchange.node = .dialogue speaker text line →
      ¬ IsExit said → Takes exchange [] (some said) (.goesOn (exchange.heard reader))
  | dialogueExit {speaker text line said} : exchange.node = .dialogue speaker text line →
      IsExit said → Takes exchange [] (some said) (.leaves (exchange.heard reader).stop)
  | dialogueEnd {speaker text line} : exchange.node = .dialogue speaker text line →
      exchange.reader = [] → Takes exchange [] none (.leaves (exchange.heard reader).stop)
  | chosen {choices line refused said number choice} : exchange.node = .menu choices line →
      (∀ other ∈ refused, IsNoAnswer choices other) →
      Denotes said number → 1 ≤ number → choices[number - 1]? = some choice →
      (printed (showing exchange.play.world exchange.node))[number - 1]? =
        some (optionLine exchange.play.world number choice) →
      Takes exchange refused (some said) (.goesOn ((exchange.heard reader).select choice.target))
  | menuExit {choices line refused said} : exchange.node = .menu choices line →
      (∀ other ∈ refused, IsNoAnswer choices other) → IsExit said →
      Takes exchange refused (some said) (.leaves (exchange.heard reader).stop)
  | menuEnd {choices line refused} : exchange.node = .menu choices line →
      (∀ other ∈ refused, IsNoAnswer choices other) → exchange.reader = refused.map .line →
      Takes exchange refused none (.givesUp (exchange.heard reader).stop)

theorem Takes.ne_asksAgain {exchange : Exchange (List Input)} {refused : List String}
    {said : Option String} {turn : Turn} (takes : Takes exchange refused said turn) (index : Nat)
    (next : Playthrough) : turn ≠ .asksAgain index next := by
  cases takes <;> exact nofun

/-- An exchange as it stands in the lines of a text: what it takes of them is followed by what it
leaves, and a choice that comes of it is one of the pending menu. -/
structure IsServed (exchange : Exchange (List Input)) (texts : List String) : Prop where
  takes : ∃ refused said rest, texts = refused ++ said.toList ++ rest ∧
    (exchange.response reader).reader = rest.map .line ∧
    Takes exchange refused said (exchange.turn reader) ∧
    display exchange =
      printed (showing exchange.play.world exchange.node) ++ asking exchange.node refused.length
  pending : ∀ choices line, exchange.node = .menu choices line → exchange.play.menu = some choices
  inRange : ∀ index, (exchange.response reader).answer = some (.choose index) →
    ∃ choices, exchange.play.menu = some choices ∧ index < choices.length
  isAnswered : ∀ index next, exchange.turn reader ≠ .asksAgain index next

section

variable {play : Playthrough} {exchange : Exchange (List Input)} {texts : List String}

theorem isServed_of_command {verb arguments : String} {line : Nat}
    (shows : exchange.node = .command verb arguments line)
    (lines : exchange.reader = texts.map .line) : IsServed exchange texts := by
  have silent : ¬ wantsLine exchange.node = true := by simp [shows, wantsLine]
  obtain ⟨answer, rest⟩ := response_of_silence silent
  refine ⟨⟨[], none, texts, rfl, rest.trans lines, ?_, ?_⟩, ?_, ?_, ?_⟩
  · rw [turn_of_silence silent]
    exact .command shows
  · simp [display, asking, silent]
  · simp [shows]
  · simp [answer]
  · simp [turn_of_silence silent]

theorem turn_of_leave (leaves : (exchange.response reader).answer = some .leave) :
    exchange.turn reader = .leaves (exchange.heard reader).stop := by
  rw [Exchange.turn, leaves, Playthrough.answer]

theorem Hears.isServed {refused rest : List String} {said : Option String} {turn : Turn}
    (hears : Hears exchange.node texts refused said rest)
    (lines : exchange.reader = texts.map .line) (wants : wantsLine exchange.node = true)
    (pending : ∀ choices line, exchange.node = .menu choices line →
      exchange.play.menu = some choices)
    (turns : exchange.turn reader = turn) (takes : Takes exchange refused said turn)
    (inRange : ∀ index, (exchange.response reader).answer = some (.choose index) →
      ∃ choices, exchange.play.menu = some choices ∧ index < choices.length) :
    IsServed exchange texts where
  takes := by
    refine ⟨refused, said, rest, hears.lines, ?_, turns ▸ takes, ?_⟩
    · rw [(response_of_wants wants).2, lines, hears.left]
    · rw [display, lines, hears.count]
  pending := pending
  inRange := inRange
  isAnswered index next := turns ▸ takes.ne_asksAgain index next

theorem isServed_of_dialogue {speaker text : String} {line : Nat}
    (shows : exchange.node = .dialogue speaker text line)
    (lines : exchange.reader = texts.map .line) : IsServed exchange texts := by
  have wants : wantsLine exchange.node = true := by simp [shows, wantsLine]
  obtain ⟨refused, said, rest, hears⟩ := exists_hears exchange.node texts
  have answer := (response_of_wants wants).1
  rw [lines] at answer
  -- Every line is an answer to a dialogue.
  obtain rfl : refused = [] := by
    refine List.eq_nil_iff_forall_not_mem.mpr fun other member => ?_
    have refuses := hears.areRefused other member
    simp [shows, answer?] at refuses
  cases said with
  | none =>
      obtain ⟨rfl, heard⟩ := hears.ended rfl
      have leaves : (exchange.response reader).answer = some .leave := by
        rw [answer, heard, shows]
        rfl
      have nothing : exchange.reader = [] := lines.trans (congrArg _ hears.lines)
      exact hears.isServed lines wants (by simp [shows]) (turn_of_leave leaves)
        (.dialogueEnd shows nothing) (by simp [leaves])
  | some said =>
      have given : (exchange.response reader).answer =
          some (if isExit (Text.trim said.toList) then .leave else .proceed) := by
        have heard := hears.heard said rfl
        rw [shows] at heard
        rw [answer, shows]
        exact (Option.some.inj heard).symm
      by_cases leaves : IsExit said
      · rw [if_pos ((isExit_iff said).mpr leaves)] at given
        exact hears.isServed lines wants (by simp [shows]) (turn_of_leave given)
          (.dialogueExit shows leaves) (by simp [given])
      · rw [if_neg ((isExit_iff said).not.mpr leaves)] at given
        have goesOn : exchange.turn reader = .goesOn (exchange.heard reader) :=
          Exchange.turn_of_not_menu (by simp [shows]) (by simp [given])
        exact hears.isServed lines wants (by simp [shows]) goesOn (.dialogue shows leaves)
          (by simp [given])

theorem isServed_of_menu (running : play.phase = .running)
    (stepped : play.step = (some exchange.node, exchange.play)) {choices : List Choice} {line : Nat}
    (asked : exchange.node = .menu choices line)
    (lines : exchange.reader = texts.map .line) : IsServed exchange texts := by
  have wants : wantsLine exchange.node = true := by simp [asked, wantsLine]
  obtain ⟨refused, said, rest, hears⟩ := exists_hears exchange.node texts
  have answer := (response_of_wants wants).1
  rw [lines] at answer
  have noAnswers : ∀ other ∈ refused, IsNoAnswer choices other := fun other member =>
    isNoAnswer_of_refused (asked ▸ hears.areRefused other member)
  have pending : exchange.play.menu = some choices :=
    (Playthrough.waits_of_step running (asked ▸ stepped)).1
  have onlyMenu : ∀ others line, exchange.node = .menu others line →
      exchange.play.menu = some others := by
    intro others line same
    rw [asked] at same
    exact (Node.menu.inj same).1 ▸ pending
  cases said with
  | none =>
      obtain ⟨rfl, heard⟩ := hears.ended rfl
      have silent : (exchange.response reader).answer = none := by
        rw [answer, heard, asked]
        rfl
      have givesUp : exchange.turn reader = .givesUp (exchange.heard reader).stop := by
        rw [Exchange.turn, silent, asked]
        rfl
      have all : exchange.reader = refused.map .line := by
        rw [lines, hears.lines, Option.toList_none, List.append_nil, List.append_nil]
      exact hears.isServed lines wants onlyMenu givesUp (.menuEnd asked noAnswers all)
        (by simp [silent])
  | some said =>
      have heard := hears.heard said rfl
      rw [← answer, asked] at heard
      rcases answer?_menu said with
        ⟨leaves, given⟩ | ⟨number, choice, denotes, positive, chosen, given⟩ | ⟨-, given⟩
      · have left := Option.some.inj (heard.symm.trans given)
        exact hears.isServed lines wants onlyMenu (turn_of_leave left)
          (.menuExit asked noAnswers leaves) (by simp [left])
      · obtain ⟨inside, rfl⟩ := List.getElem?_eq_some_iff.mp chosen
        have named := Option.some.inj (heard.symm.trans given)
        have waits : (exchange.heard reader).menu = some choices := pending
        have goesOn : exchange.turn reader =
            .goesOn ((exchange.heard reader).select choices[number - 1].target) := by
          rw [Exchange.turn, named, asked]
          simp only [Playthrough.answer, Playthrough.choose?_of_offered waits inside]
        refine hears.isServed lines wants onlyMenu goesOn
          (.chosen asked noAnswers denotes positive chosen
            (asked ▸ printed_option exchange.play.world line positive chosen)) fun index same => ?_
        obtain rfl := Answer.choose.inj (Option.some.inj (named.symm.trans same))
        exact ⟨choices, pending, inside⟩
      · rw [given] at heard
        contradiction

theorem isServed_of_step (running : play.phase = .running)
    (stepped : play.step = (some exchange.node, exchange.play))
    (lines : exchange.reader = texts.map .line) : IsServed exchange texts := by
  have isShown := (Playthrough.running_of_step running stepped).1
  cases shows : exchange.node with
  | dialogue => exact isServed_of_dialogue shows lines
  | command => exact isServed_of_command shows lines
  | menu => exact isServed_of_menu running stepped shows lines
  | assignment | guarded | jump | character =>
      rw [shows] at isShown
      contradiction

end

theorem isServed_of_mem (count : Nat) (texts : List String) {play : Playthrough}
    (running : play.phase = .running) :
    ∀ exchange ∈ exchangesFrom reader count (texts.map .line) play,
      ∃ left : List String, exchange.reader = left.map .line ∧ IsServed exchange left := by
  induction count generalizing texts play with
  | zero => exact List.forall_mem_nil _
  | succ count ih =>
      rcases stepped : play.step with ⟨_ | node, after⟩
      · simp only [exchangesFrom, stepped]
        exact List.forall_mem_nil _
      let exchange : Exchange (List Input) := ⟨texts.map .line, node, after⟩
      have shown : play.step = (some exchange.node, exchange.play) := stepped
      have served : IsServed exchange texts := isServed_of_step running shown rfl
      obtain ⟨refused, said, rest, -, left, -, -⟩ := served.takes
      have still : (exchange.heard reader).phase = .running :=
        (Playthrough.running_of_step running shown).2
      have first : ∃ left : List String, exchange.reader = left.map .line ∧
          IsServed exchange left := ⟨texts, rfl, served⟩
      have turns : (∃ next, exchange.turn reader = .goesOn next ∧ next.phase = .running) ∨
          (∃ index, exchange.turn reader = .asksAgain index (exchange.heard reader)) ∨
          ∃ last, (exchange.turn reader = .leaves last ∨ exchange.turn reader = .givesUp last) ∧
            last.phase = .finished :=
        Playthrough.answer_cases still node (exchange.response reader).answer
      rcases turns with ⟨next, turn, goesOn⟩ | ⟨index, turn⟩ | ⟨last, turn, -⟩
      · rw [(run_of_next count shown (.inl turn)).2, left]
        exact List.forall_mem_cons.mpr ⟨first, ih rest goesOn⟩
      · exact absurd turn (served.isAnswered index _)
      · rw [(run_of_last count shown turn).2]
        exact List.forall_mem_singleton.mpr first

theorem printed_closing (play : Playthrough) : printed (Console.closing play) = [] := by
  simp [Console.closing, printed, Output.text?, Console.entry]

theorem printed_perform (count : Nat) (play : Playthrough) (inputs : List Input) :
    printed (Console.perform count (.plays play) inputs).1 =
      printed (session count play inputs).2 := by
  simp only [Console.perform, session, serve, printed_append]
  split
  · rw [printed_closing, List.append_nil]
  · rw [printed_nil, List.append_nil]

/-- At a terminal the lines of the input answer the nodes in order. A choice is always one of the
menu at which the story waits, so that none is refused; a line that is no answer to a menu is
followed by another try at the same place. All that is printed is what these exchanges show. -/
theorem lines_answer_nodes (story : Story) (world : World) (settings : PlaySettings)
    (stdin : String) :
    let play := Playthrough.new story world settings
    let inputs := Console.inputs stdin.toUTF8.data.toList
    (∃ texts, Console.AreLines texts stdin.toList ∧ inputs = texts.map .line) ∧
      (∀ count, let made := exchanges reader count inputs play
        (∀ first ∈ made.head?, first.reader = inputs) ∧
        made.IsChain (Exchange.Follows reader) ∧
        ∀ exchange ∈ made, ∃ texts : List String,
          exchange.reader = texts.map .line ∧ IsServed exchange texts) ∧
      ∀ count, ∃ bound,
        (session count play inputs).1 = (ofPlaythrough reader bound inputs play).status ∧
        printed (Console.perform count (.plays play) inputs).1 =
          (exchanges reader bound inputs play).flatMap display ∧
        ∀ last, (session count play inputs).1 = .pending last → count ≤ bound := by
  intro play inputs
  obtain ⟨texts, areLines, same⟩ := Console.inputs_toUTF8 stdin
  refine ⟨⟨texts, areLines, same⟩, fun count => ?_, fun count => ?_⟩
  · have bounded : 0 < (begun play).silentBound := by
      rw [silentBound_begun]
      exact Nat.le_max_right settings.maxSilentSteps 1
    have recounts := recounts_run reader count inputs bounded (running_begun play)
    refine ⟨fun first isFirst => (recounts.opens first isFirst).1, recounts.follows, ?_⟩
    simp only [exchanges, inputs, same]
    exact isServed_of_mem count texts (running_begun play)
  · obtain ⟨bound, status, texts, enough⟩ := presents_session count inputs
      (show play.isRunning = false from rfl)
    exact ⟨bound, status, (printed_perform count play inputs).trans texts, enough⟩

end StoryScript.Terminal
