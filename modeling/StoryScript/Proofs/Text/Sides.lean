import StoryScript.Proofs.Text.Trimming

/-!
Texts of two sides with a sign between them, such as assignments and comparisons. A trimmed text can
be read in this way exactly when it is so read from the left, whatever sides it may be cut into.
-/

namespace StoryScript.Text

/-- A word of some kind of characters, a sign and a source that is the rest of a line, with blanks
around the sign where wanted. -/
structure Sides (kind : Char → Bool) (sign word source text : List Char) : Prop where
  nonempty : word ≠ []
  ofKind : ∀ c ∈ word, kind c = true
  content : source ≠ []
  oneLine : '\n' ∉ source
  apart : ∃ before after, (∀ c ∈ before, isBlank c = true) ∧ (∀ c ∈ after, isBlank c = true) ∧
    text = word ++ (before ++ (sign ++ (after ++ source)))

/-- A sign that begins with neither a character of the kind nor a blank, where no blank is of the
kind: a word ends before it. -/
structure Divides (kind : Char → Bool) (sign : List Char) : Prop where
  solid : ∀ c, kind c = true → isBlank c = false
  begins : ∃ c rest, sign = c :: rest ∧ kind c = false ∧ isBlank c = false

def sides? (kind : Char → Bool) (sign text : List Char) : Option (List Char × List Char) := do
  let source ← remainder? (← sign.isPrefixOf? (trimStart (text.dropWhile kind)))
  if (text.takeWhile kind).isEmpty then none else some (text.takeWhile kind, source)

theorem remainder?_eq_some {text source : List Char} (found : remainder? text = some source) :
    source = trimStart text ∧ source ≠ [] ∧ '\n' ∉ source := by
  unfold remainder? at found
  split at found
  next => contradiction
  next content filled =>
    split at found
    next => contradiction
    next oneLine =>
      obtain rfl := Option.some.inj found
      exact ⟨rfl, filled, by simpa using oneLine⟩

theorem trim_trimStart (text : List Char) : trim (trimStart text) = trim text := by
  have blanks : ∀ c ∈ text.takeWhile isBlank, isBlank c = true :=
    List.all_eq_true.mp List.all_takeWhile
  have padded := trim_padded blanks (List.forall_mem_nil _) (trimStart text)
  rwa [List.append_nil, trimStart, List.takeWhile_append_dropWhile, eq_comm] at padded

variable {kind : Char → Bool} {sign word source text : List Char}

theorem cut_before (divides : Divides kind sign) (ofKind : ∀ c ∈ word, kind c = true)
    {blanks : List Char} (beforeBlank : ∀ c ∈ blanks, isBlank c = true) (rest : List Char) :
    (word ++ (blanks ++ (sign ++ rest))).takeWhile kind = word ∧
      trimStart ((word ++ (blanks ++ (sign ++ rest))).dropWhile kind) = sign ++ rest := by
  obtain ⟨c, mark, rfl, other, solid⟩ := divides.begins
  have stops : (blanks ++ (c :: mark ++ rest)).dropWhile kind = blanks ++ (c :: mark ++ rest) := by
    rw [dropWhile_eq_self_iff]
    cases blanks with
    | nil => simpa using other
    | cons d blanks =>
        have blank := beforeBlank d List.mem_cons_self
        cases isKind : kind d with
        | false => simpa using isKind
        | true =>
            rw [divides.solid d isKind] at blank
            contradiction
  have taken := List.takeWhile_append_dropWhile (p := kind) (l := blanks ++ (c :: mark ++ rest))
  rw [stops, List.append_left_eq_self] at taken
  constructor
  · rw [List.takeWhile_append_of_pos ofKind, taken, List.append_nil]
  · rw [List.dropWhile_append_of_pos ofKind, stops, trimStart,
      List.dropWhile_append_of_pos beforeBlank, List.cons_append,
      List.dropWhile_cons_of_neg (by simp [solid])]

namespace Sides

theorem cut (sides : Sides kind sign word source text) (divides : Divides kind sign) :
    text.takeWhile kind = word ∧
      ∃ after, (∀ c ∈ after, isBlank c = true) ∧
        trimStart (text.dropWhile kind) = sign ++ (after ++ source) := by
  obtain ⟨before, after, beforeBlank, afterBlank, rfl⟩ := sides.apart
  obtain ⟨taken, rest⟩ := cut_before divides sides.ofKind beforeBlank (after ++ source)
  exact ⟨taken, after, afterBlank, rest⟩

theorem read (sides : Sides kind sign word source text) (divides : Divides kind sign)
    (trimmed : trim text = text) : sides? kind sign text = some (word, trimStart source) := by
  obtain ⟨taken, after, blanks, rest⟩ := sides.cut divides
  have signed := List.isPrefixOf?_eq_some_iff_append_eq.mpr rest.symm
  have start : trimStart (after ++ source) = trimStart source := List.dropWhile_append_of_pos blanks
  have filled : trimStart source ≠ [] := by
    intro empty
    obtain ⟨last, ending⟩ := Option.isSome_iff_exists.mp (List.getLast?_isSome.mpr sides.content)
    have blank := (trim_eq_nil_iff source).mp (by rw [trim, empty]; rfl) last
      (List.mem_of_mem_getLast? ending)
    obtain ⟨before, between, _, _, same⟩ := sides.apart
    have solid := ((trim_eq_self_iff text).mp trimmed).2 last (by simp [same, ending])
    rw [blank] at solid
    contradiction
  have oneLine : '\n' ∉ trimStart source :=
    fun inside => sides.oneLine ((List.dropWhile_sublist isBlank).subset inside)
  have remains : remainder? (after ++ source) = some (trimStart source) := by
    rw [remainder?, start]
    simp [oneLine]
  simp [sides?, signed, remains, taken, sides.nonempty]

end Sides

theorem sides_of_sides? (found : sides? kind sign text = some (word, source)) :
    Sides kind sign word source text := by
  simp only [sides?, Option.bind_eq_bind, Option.bind_eq_some_iff] at found
  obtain ⟨rest, signed, remainder, remains, found⟩ := found
  split at found
  next => contradiction
  next filled =>
    obtain ⟨rfl, rfl⟩ := Prod.mk.inj (Option.some.inj found)
    obtain ⟨rfl, content, oneLine⟩ := remainder?_eq_some remains
    rw [List.isPrefixOf?_eq_some_iff_append_eq] at signed
    refine ⟨by simpa using filled, List.all_eq_true.mp List.all_takeWhile, content, oneLine,
      (text.dropWhile kind).takeWhile isBlank, rest.takeWhile isBlank,
      List.all_eq_true.mp List.all_takeWhile, List.all_eq_true.mp List.all_takeWhile, ?_⟩
    rw [trimStart, List.takeWhile_append_dropWhile, signed, trimStart,
      List.takeWhile_append_dropWhile, List.takeWhile_append_dropWhile]

theorem isPhrase_of_sides? (found : sides? kind sign text = some (word, source))
    (divides : Divides kind sign) (trimmed : trim text = text) : IsPhrase source := by
  have sides := sides_of_sides? found
  have read := sides.read divides trimmed
  rw [found, Option.some.injEq, Prod.mk.injEq] at read
  have start := read.2.symm
  rw [trimStart, dropWhile_eq_self_iff] at start
  obtain ⟨before, after, _, _, same⟩ := sides.apart
  refine ⟨sides.content, (trim_eq_self_iff source).mpr ⟨start, ?_⟩, sides.oneLine⟩
  intro last ending
  exact ((trim_eq_self_iff text).mp trimmed).2 last (by simp [same, Option.mem_def.mp ending])

theorem isSome_sides?_iff (divides : Divides kind sign) (trimmed : trim text = text) :
    (sides? kind sign text).isSome = true ↔ ∃ word source, Sides kind sign word source text := by
  constructor
  · intro found
    obtain ⟨⟨word, source⟩, found⟩ := Option.isSome_iff_exists.mp found
    exact ⟨word, source, sides_of_sides? found⟩
  · rintro ⟨word, source, sides⟩
    rw [sides.read divides trimmed]
    rfl

def spaced (word sign source : List Char) : List Char :=
  word ++ ' ' :: (sign ++ ' ' :: source)

theorem trim_between (phrase : IsPhrase word) (between : List Char) (ending : IsPhrase source) :
    trim (word ++ (between ++ source)) = word ++ (between ++ source) := by
  obtain ⟨c, rest, rfl, solid⟩ := phrase.start
  have last : (c :: rest ++ (between ++ source)).getLast? = source.getLast? := by
    rw [← List.append_assoc, ending.getLast?_append]
  rw [trim_eq_self_iff, last]
  refine ⟨?_, ((trim_eq_self_iff source).mp ending.trimmed).2⟩
  rintro d ⟨rfl⟩
  exact solid

theorem trim_spaced (phrase : IsPhrase word) (sign : List Char) (ending : IsPhrase source) :
    trim (spaced word sign source) = spaced word sign source := by
  have shape : spaced word sign source = word ++ (' ' :: (sign ++ [' ']) ++ source) := by
    simp [spaced]
  rw [shape, trim_between phrase _ ending]

theorem sides_spaced (nonempty : word ≠ []) (ofKind : ∀ c ∈ word, kind c = true) (sign : List Char)
    (ending : IsPhrase source) : Sides kind sign word source (spaced word sign source) where
  nonempty := nonempty
  ofKind := ofKind
  content := ending.nonempty
  oneLine := ending.oneLine
  apart := by
    have blank : ∀ c ∈ [' '], isBlank c = true := List.forall_mem_singleton.mpr rfl
    exact ⟨[' '], [' '], blank, blank, by simp [spaced]⟩

end StoryScript.Text
