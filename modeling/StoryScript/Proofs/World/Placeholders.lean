import StoryScript.Proofs.World.Naming

/-!
Texts as the reader sees them: from the left, every placeholder becomes what its name stands for, and
all that is no placeholder is copied.
-/

namespace StoryScript

open Text

def Placeholder.written (name : List Char) : List Char :=
  '{' :: (name ++ ['}'])

/-- How a text is shown. A placeholder is followed by what follows it in the text, so that nothing
that was put in is read again. -/
inductive World.Shows (world : World) : List Char → List Char → Prop
  | nothing : Shows world [] []
  | filled {name value rest shown} : IsPath name → world.StandsFor name value →
      Shows world rest shown →
      Shows world (Placeholder.written name ++ rest) (value.display.toList ++ shown)
  | kept {name rest shown} : IsPath name → (∀ value, ¬ world.StandsFor name value) →
      Shows world rest shown →
      Shows world (Placeholder.written name ++ rest) (Placeholder.written name ++ shown)
  | copied {c rest shown} : (∀ name, IsPath name → ¬ Placeholder.written name <+: c :: rest) →
      Shows world rest shown → Shows world (c :: rest) (c :: shown)

namespace Placeholder

variable {name rest : List Char}

theorem span_path (path : IsPath name) (rest : List Char) :
    (name ++ '}' :: rest).takeWhile isReference = name ∧
      (name ++ '}' :: rest).dropWhile isReference = '}' :: rest := by
  have stops : ¬ isReference '}' = true := by decide
  rw [List.takeWhile_append_of_pos path.ofReference, List.dropWhile_append_of_pos path.ofReference,
    List.takeWhile_cons_of_neg stops, List.dropWhile_cons_of_neg stops, List.append_nil]
  exact ⟨rfl, rfl⟩

theorem name?_written (path : IsPath name) (rest : List Char) :
    name? (written name ++ rest) = some name := by
  have shape : written name ++ rest = '{' :: (name ++ '}' :: rest) := by simp [written]
  obtain ⟨taken, dropped⟩ := span_path path rest
  have filled : name.isEmpty = false := List.isEmpty_eq_false_iff.mpr path.nonempty
  rw [shape, name?]
  simp only [taken, dropped, filled, List.head?_cons, Bool.false_or, decide_not, decide_true,
    Bool.not_true, Bool.false_eq_true, if_false, ne_eq]

theorem name?_eq_some_iff (text name : List Char) :
    name? text = some name ↔ IsPath name ∧ written name <+: text := by
  constructor
  · intro found
    unfold name? at found
    split at found
    next rest =>
      dsimp only at found
      split at found
      next => contradiction
      next ends =>
        obtain rfl := Option.some.inj found
        simp only [ne_eq, Bool.or_eq_true, List.isEmpty_iff, decide_eq_true_eq, not_or, not_not]
          at ends
        obtain ⟨after, closed⟩ := List.head?_eq_some_iff.mp ends.2
        refine ⟨⟨ends.1, List.all_eq_true.mp List.all_takeWhile⟩, after, ?_⟩
        have whole := List.takeWhile_append_dropWhile (p := isReference) (l := rest)
        rw [closed] at whole
        simpa [written] using whole
    next => contradiction
  · rintro ⟨path, rest, rfl⟩
    exact name?_written path rest

theorem name?_eq_none_iff (text : List Char) :
    name? text = none ↔ ∀ name, IsPath name → ¬ written name <+: text := by
  simp only [Option.eq_none_iff_forall_ne_some, ne_eq, name?_eq_some_iff, not_and]

section Filling

variable (lookup : List Char → Option (List Char))

theorem fill_eq_append (skip : Nat) (shown text : List Char) :
    fill lookup skip shown text = shown.reverse ++ fill lookup skip [] text := by
  induction text generalizing skip shown with
  | nil => simp [fill]
  | cons c rest ih =>
      cases skip with
      | succ skip => exact ih skip shown
      | zero =>
          unfold fill
          dsimp only
          split
          next name text _ =>
            rw [ih, ih _ (text.reverse ++ [])]
            simp
          next =>
            rw [ih, ih _ [c]]
            simp

theorem fill_skip (skipped rest : List Char) :
    fill lookup skipped.length [] (skipped ++ rest) = fill lookup 0 [] rest := by
  induction skipped with
  | nil => rfl
  | cons c skipped ih => exact ih

theorem fill_filled (path : IsPath name) {text : List Char} (found : lookup name = some text)
    (rest : List Char) :
    fill lookup 0 [] (written name ++ rest) = text ++ fill lookup 0 [] rest := by
  have skipped : fill lookup (name.length + 1) [] (name ++ ['}'] ++ rest) = fill lookup 0 [] rest := by
    have length : (name ++ ['}']).length = name.length + 1 := by simp
    rw [← length, fill_skip]
  have placed := name?_written path rest
  rw [written, List.cons_append] at placed ⊢
  rw [fill, placed, Option.bind_some, found, Option.map_some]
  dsimp only
  rw [fill_eq_append, skipped, List.append_nil, List.reverse_reverse]

theorem fill_copied {c : Char} (noText : (name? (c :: rest)).bind lookup = none) :
    fill lookup 0 [] (c :: rest) = c :: fill lookup 0 [] rest := by
  have noPair : ((name? (c :: rest)).bind fun name =>
      (lookup name).map fun text => (name, text)) = none := by
    rw [Option.bind_eq_none_iff] at noText ⊢
    exact fun name placed => Option.map_eq_none_iff.mpr (noText name placed)
  rw [fill, noPair]
  exact fill_eq_append lookup 0 [c] rest

theorem fill_plain {text : List Char} (plain : '{' ∉ text) (rest : List Char) :
    fill lookup 0 [] (text ++ rest) = text ++ fill lookup 0 [] rest := by
  induction text with
  | nil => rfl
  | cons c text ih =>
      rw [List.mem_cons, not_or] at plain
      have noName : name? (c :: (text ++ rest)) = none := by
        unfold name?
        split
        next opened => exact absurd (List.head_eq_of_cons_eq opened).symm plain.1
        next => rfl
      rw [List.cons_append, fill_copied, ih plain.2, List.cons_append]
      rw [noName, Option.bind_none]

theorem noBrace_of_path (path : IsPath name) : '{' ∉ name ++ ['}'] := by
  rw [List.mem_append, not_or]
  exact ⟨fun member => absurd (path.ofReference _ member) (by decide), by decide⟩

theorem fill_kept (path : IsPath name) (noText : lookup name = none) (rest : List Char) :
    fill lookup 0 [] (written name ++ rest) = written name ++ fill lookup 0 [] rest := by
  have placed := name?_written path rest
  rw [written, List.cons_append] at placed ⊢
  rw [fill_copied, fill_plain lookup (noBrace_of_path path), List.cons_append]
  rw [placed, Option.bind_some, noText]

end Filling

theorem isPrefix_of_append {c : Char} {front : List Char} (path : IsPath name)
    (placed : written name <+: c :: (front ++ '{' :: rest)) : written name <+: c :: front := by
  rw [written, List.cons_prefix_cons] at placed ⊢
  refine ⟨placed.1, ?_⟩
  obtain ⟨after, same⟩ := placed.2
  rcases List.append_eq_append_iff.mp same with ⟨between, rfl, _⟩ | ⟨ending, whole, opened⟩
  · exact List.prefix_append _ between
  · cases ending with
    | nil =>
        rw [List.append_nil] at whole
        exact whole ▸ List.prefix_rfl
    | cons d ending =>
        obtain rfl := List.head_eq_of_cons_eq opened
        exact absurd (whole ▸ List.mem_append_right front List.mem_cons_self)
          (noBrace_of_path path)

end Placeholder

namespace World

variable {world : World}

def shownFor? (world : World) (name : List Char) : Option (List Char) :=
  (world.resolve? (.ofText name)).map fun value => value.display.toList

theorem Shows.eq_fill {text shown : List Char} (shows : world.Shows text shown) :
    shown = Placeholder.fill world.shownFor? 0 [] text := by
  induction shows with
  | nothing => rfl
  | filled path stands _ ih =>
      have found := (world.resolve?_eq_some_iff _ _).mpr stands
      rw [Placeholder.fill_filled _ path (by rw [shownFor?, found, Option.map_some]), ih]
  | kept path nothing _ ih =>
      have lost := (world.resolve?_eq_none_iff _).mpr nothing
      rw [Placeholder.fill_kept _ path (by rw [shownFor?, lost, Option.map_none]), ih]
  | copied noPlace _ ih =>
      have noName := (Placeholder.name?_eq_none_iff _).mpr noPlace
      rw [Placeholder.fill_copied _ (by rw [noName, Option.bind_none]), ih]

theorem shows_fill (world : World) (text : List Char) :
    world.Shows text (Placeholder.fill world.shownFor? 0 [] text) := by
  -- What is left after a placeholder is no tail of the text but only a shorter text.
  induction length : text.length using Nat.strongRecOn generalizing text with
  | ind count ih =>
      cases text with
      | nil => exact .nothing
      | cons c rest =>
          cases placed : Placeholder.name? (c :: rest) with
          | none =>
              rw [Placeholder.fill_copied _ (by rw [placed, Option.bind_none])]
              exact .copied ((Placeholder.name?_eq_none_iff _).mp placed)
                (ih rest.length (by simp [← length]) rest rfl)
          | some name =>
              obtain ⟨path, after, whole⟩ := (Placeholder.name?_eq_some_iff _ _).mp placed
              have shorter : after.length < count := by
                rw [← length, ← whole, Placeholder.written]
                simp
                omega
              have later := ih after.length shorter after rfl
              rw [← whole]
              cases found : world.resolve? (.ofText name) with
              | none =>
                  rw [Placeholder.fill_kept _ path (by rw [shownFor?, found, Option.map_none])]
                  exact .kept path ((world.resolve?_eq_none_iff name).mp found) later
              | some value =>
                  rw [Placeholder.fill_filled _ path (by rw [shownFor?, found, Option.map_some])]
                  exact .filled path ((world.resolve?_eq_some_iff name value).mp found) later

theorem Shows.append {text shown rest later : List Char} (shows : world.Shows text shown)
    (next : world.Shows ('{' :: rest) later) :
    world.Shows (text ++ '{' :: rest) (shown ++ later) := by
  induction shows with
  | nothing => exact next
  | filled path stands _ ih =>
      rw [List.append_assoc, List.append_assoc]
      exact .filled path stands ih
  | kept path nothing _ ih =>
      rw [List.append_assoc, List.append_assoc]
      exact .kept path nothing ih
  | copied noPlace _ ih =>
      refine .copied ?_ ih
      intro name path placed
      exact noPlace name path (Placeholder.isPrefix_of_append path placed)

theorem interpolate_eq (world : World) (text : String) :
    world.interpolate text = String.ofList (Placeholder.fill world.shownFor? 0 [] text.toList) := rfl

theorem interpolate_within (world : World) {name : List Char} (path : IsPath name)
    (before after : String) :
    world.interpolate (before ++ String.ofList (Placeholder.written name) ++ after) =
      world.interpolate before ++
        String.ofList ((world.shownFor? name).getD (Placeholder.written name)) ++
        world.interpolate after := by
  have cut := ((world.shows_fill before.toList).append
    (world.shows_fill ('{' :: (name ++ ['}'] ++ after.toList)))).eq_fill
  have shape : (before ++ String.ofList (Placeholder.written name) ++ after).toList =
      before.toList ++ '{' :: (name ++ ['}'] ++ after.toList) := by
    simp [Placeholder.written]
  have filled : Placeholder.fill world.shownFor? 0 [] ('{' :: (name ++ ['}'] ++ after.toList)) =
      (world.shownFor? name).getD (Placeholder.written name) ++
        Placeholder.fill world.shownFor? 0 [] after.toList := by
    cases found : world.shownFor? name with
    | none => exact Placeholder.fill_kept _ path found after.toList
    | some text => exact Placeholder.fill_filled _ path found after.toList
  rw [interpolate_eq, shape, ← cut, filled]
  simp [interpolate_eq, String.ofList_append, String.append_assoc]

/-- The reader sees every text in just one way. -/
theorem interpolate_eq_iff_shows (world : World) (text shown : String) :
    world.interpolate text = shown ↔ world.Shows text.toList shown.toList := by
  rw [interpolate_eq]
  constructor
  · rintro rfl
    rw [String.toList_ofList]
    exact world.shows_fill text.toList
  · intro shows
    rw [← shows.eq_fill, String.ofList_toList]

end World

end StoryScript
