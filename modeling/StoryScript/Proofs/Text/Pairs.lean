import StoryScript.Proofs.Text.Trimming

/-! Texts cut at their pairs of one mark. -/

namespace StoryScript.Text

variable {mark : Char}

theorem splitAtPair_cons {c : Char} {text : List Char} (single : ¬ [mark, mark] <+: c :: text)
    (current : List Char) :
    splitAtPair mark current (c :: text) = splitAtPair mark (c :: current) text := by
  cases text with
  | nil => rfl
  | cons d rest =>
      rw [splitAtPair, if_neg]
      intro paired
      rw [Bool.and_eq_true, decide_eq_true_eq, decide_eq_true_eq] at paired
      obtain ⟨rfl, rfl⟩ := paired
      exact single ⟨rest, rfl⟩

theorem splitAtPair_append {front : List Char} (noMark : mark ∉ front) (current text : List Char) :
    splitAtPair mark current (front ++ text) = splitAtPair mark (front.reverse ++ current) text := by
  induction front generalizing current with
  | nil => rfl
  | cons c rest ih =>
      rw [List.mem_cons, not_or] at noMark
      have single : ¬ [mark, mark] <+: c :: (rest ++ text) := by
        rw [List.cons_prefix_cons]
        exact fun paired => noMark.1 paired.1
      rw [List.cons_append, splitAtPair_cons single, ih noMark.2, List.reverse_cons,
        List.append_assoc, List.singleton_append]

theorem splitAtPair_of_noPair {text : List Char} (noPair : ¬ [mark, mark] <:+: text)
    (current : List Char) : splitAtPair mark current text = [current.reverse ++ text] := by
  induction text generalizing current with
  | nil => simp [splitAtPair]
  | cons c rest ih =>
      rw [List.infix_cons_iff, not_or] at noPair
      rw [splitAtPair_cons noPair.1, ih noPair.2, List.reverse_cons, List.append_assoc,
        List.singleton_append]

/-- What a text is up to its first pair, or all of it where there is none. -/
inductive FirstPart (mark : Char) : List Char → List Char → Prop
  | whole {text} : ¬ [mark, mark] <:+: text → FirstPart mark text text
  | cut {text first back} : text = first ++ mark :: mark :: back → FirstPart mark text first

theorem FirstPart.isPrefix {text first : List Char} (part : FirstPart mark text first) :
    first <+: text := by
  cases part with
  | whole => exact List.prefix_rfl
  | cut same => exact ⟨_, same.symm⟩

theorem FirstPart.whole_or_shorter {text first : List Char} (part : FirstPart mark text first) :
    (first = text ∧ ¬ [mark, mark] <:+: text) ∨ first.length + 2 ≤ text.length := by
  cases part with
  | whole noPair => exact .inl ⟨rfl, noPair⟩
  | cut same =>
      right
      simp only [same, List.length_append, List.length_cons]
      omega

theorem exists_firstPart (mark : Char) (text : List Char) :
    ∃ first later, FirstPart mark text first ∧
      ∀ current, splitAtPair mark current text = (current.reverse ++ first) :: later := by
  induction text with
  | nil => exact ⟨[], [], .whole (by simp), fun current => by simp [splitAtPair]⟩
  | cons c rest ih =>
      by_cases paired : [mark, mark] <+: c :: rest
      · obtain ⟨back, same⟩ := paired
        rw [← same]
        exact ⟨[], splitAtPair mark [] back, .cut rfl, fun current => by simp [splitAtPair]⟩
      · obtain ⟨first, later, part, cut⟩ := ih
        -- A pair that begins with the first character was excluded, so that the cut stays where it is.
        refine ⟨c :: first, later, ?_, ?_⟩
        · cases part with
          | whole noPair =>
              refine .whole ?_
              rw [List.infix_cons_iff, not_or]
              exact ⟨paired, noPair⟩
          | cut same => exact .cut (congrArg (c :: ·) same)
        · intro current
          rw [splitAtPair_cons paired, cut, List.reverse_cons, List.append_assoc,
            List.singleton_append]

theorem pair_append_iff {other : Char} (differs : mark ≠ other) (text : List Char) :
    [mark, mark] <:+: text ++ [other] ↔ [mark, mark] <:+: text := by
  rw [List.infix_concat_iff, or_iff_right]
  intro ending
  have last := ending.getLast (List.cons_ne_nil mark [mark])
  exact differs (by simpa using last)

/-- The parts of a text between its pairs, which are taken from the left: no pair begins earlier than
the one at which a part ends. -/
inductive Parted (mark : Char) : List Char → List (List Char) → Prop
  | whole {text} : ¬ [mark, mark] <:+: text → Parted mark text [text]
  | cut {first back parts} : ¬ [mark, mark] <:+: first ++ [mark] → Parted mark back parts →
      Parted mark (first ++ mark :: mark :: back) (first :: parts)

theorem parted_splitAtPair {current text : List Char}
    (noPair : ¬ [mark, mark] <:+: current.reverse ++ text.head?.toList) :
    Parted mark (current.reverse ++ text) (splitAtPair mark current text) := by
  fun_induction splitAtPair mark current text with
  | case1 current =>
      rw [List.append_nil]
      exact .whole (by simpa using noPair)
  | case2 current c =>
      rw [List.reverse_cons]
      exact .whole noPair
  | case3 current c d rest paired ih =>
      rw [Bool.and_eq_true, decide_eq_true_eq, decide_eq_true_eq] at paired
      obtain ⟨rfl, rfl⟩ := paired
      refine .cut noPair (ih ?_)
      intro paired
      have short := paired.length_le
      cases rest <;> simp at short
  | case4 current c d rest single ih =>
      rw [Bool.and_eq_true, decide_eq_true_eq, decide_eq_true_eq] at single
      rw [← List.singleton_append, ← List.append_assoc, ← List.reverse_cons]
      apply ih
      rw [List.reverse_cons, List.head?_cons, Option.toList_some, List.infix_concat_iff, not_or]
      refine ⟨?_, noPair⟩
      rintro ⟨front, same⟩
      -- A pair at the end would be made of the two characters that were looked at.
      rw [List.append_assoc, List.singleton_append] at same
      have ending := (List.append_inj' same rfl).2
      simp only [List.cons.injEq, and_true] at ending
      exact single ⟨ending.1.symm, ending.2.symm⟩

namespace Parted

variable {text part : List Char} {parts : List (List Char)}

theorem noPair (parted : Parted mark text parts) (member : part ∈ parts) :
    ¬ [mark, mark] <:+: part := by
  induction parted with
  | whole noPair =>
      rw [List.mem_singleton.mp member]
      exact noPair
  | cut noPair _ ih =>
      rcases List.mem_cons.mp member with rfl | later
      · exact fun paired => noPair (paired.trans (List.prefix_append _ _).isInfix)
      · exact ih later

theorem isInfix (parted : Parted mark text parts) (member : part ∈ parts) : part <:+: text := by
  induction parted with
  | whole _ => exact List.mem_singleton.mp member ▸ List.infix_rfl
  | @cut first back _ _ _ ih =>
      rcases List.mem_cons.mp member with rfl | later
      · exact (List.prefix_append _ _).isInfix
      · refine (ih later).trans ?_
        exact ((List.suffix_append [mark, mark] back).trans
          (List.suffix_append first (mark :: mark :: back))).isInfix

end Parted

theorem parted (mark : Char) (text : List Char) : Parted mark text (splitAtPair mark [] text) := by
  have noPair : ¬ [mark, mark] <:+: [].reverse ++ text.head?.toList := by
    intro paired
    have short := paired.length_le
    cases text <;> simp at short
  exact parted_splitAtPair noPair

theorem map_trim_splitAtPair_append {back : List Char} (blanks : ∀ c ∈ back, isBlank c = true)
    (noMark : mark ∉ back) (current text : List Char) :
    (splitAtPair mark current (text ++ back)).map trim = (splitAtPair mark current text).map trim := by
  have ending (current : List Char) : (splitAtPair mark current back).map trim =
      [trim current.reverse] := by
    have whole := splitAtPair_append noMark current []
    have padded := trim_padded (List.forall_mem_nil _) blanks current.reverse
    rw [List.append_nil] at whole
    rw [whole, splitAtPair, List.reverse_append, List.reverse_reverse]
    exact congrArg (· :: []) padded
  fun_induction splitAtPair mark current text with
  | case1 current => exact ending current
  | case2 current c =>
      have single : ¬ [mark, mark] <+: c :: back := by
        rw [List.cons_prefix_cons]
        exact fun paired => noMark (paired.2.subset List.mem_cons_self)
      rw [List.singleton_append, splitAtPair_cons single]
      exact ending (c :: current)
  | case3 current c d rest paired ih =>
      rw [List.cons_append, List.cons_append, splitAtPair, if_pos paired, List.map_cons, List.map_cons,
        ih]
  | case4 current c d rest single ih =>
      rw [List.cons_append, List.cons_append, splitAtPair, if_neg single, ← List.cons_append, ih]

theorem map_trim_splitAtPair (solid : isBlank mark = false) (text : List Char) :
    (splitAtPair mark [] text).map trim = (splitAtPair mark [] (trim text)).map trim := by
  have noMark {blanks : List Char} (blank : ∀ c ∈ blanks, isBlank c = true) : mark ∉ blanks := by
    intro member
    have isBlank := blank mark member
    rw [solid] at isBlank
    contradiction
  obtain ⟨front, back, before, after, same⟩ := exists_padding text
  obtain ⟨first, later, _, cut⟩ := exists_firstPart mark (trim text ++ back)
  have padded := trim_padded before (List.forall_mem_nil _) first
  rw [List.append_nil] at padded
  calc (splitAtPair mark [] text).map trim
    _ = (splitAtPair mark [] (trim text ++ back)).map trim := by
        conv => lhs; rw [same]
        rw [splitAtPair_append (noMark before), cut, cut]
        simp [padded]
    _ = (splitAtPair mark [] (trim text)).map trim :=
        map_trim_splitAtPair_append after (noMark after) [] (trim text)

end StoryScript.Text
