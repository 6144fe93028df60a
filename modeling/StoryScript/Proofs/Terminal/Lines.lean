import Mathlib.Tactic.SplitIfs
import StoryScript.Console

/-!
The input of the program as lines. An encoded text is cut where the text has its line feeds, since
no other character has the byte of a line feed in it.
-/

namespace StoryScript.Console

def encoded (text : List Char) : List UInt8 :=
  text.flatMap String.utf8EncodeChar

theorem encoded_cons (c : Char) (rest : List Char) :
    encoded (c :: rest) = String.utf8EncodeChar c ++ encoded rest :=
  List.flatMap_cons

theorem reverse_encoded_concat (text : List Char) (c : Char) :
    (encoded (text ++ [c])).reverse =
      (String.utf8EncodeChar c).reverse ++ (encoded text).reverse := by
  simp [encoded]

theorem encoded_eq_nil_iff (text : List Char) : encoded text = [] ↔ text = [] := by
  cases text <;> simp [encoded]

theorem utf8Encode_eq (text : List Char) : text.utf8Encode = ⟨(encoded text).toArray⟩ :=
  ByteArray.ext List.data_toByteArray

theorem toUTF8_toList (text : String) : text.toUTF8.data.toList = encoded text.toList := by
  rw [String.toUTF8, ← String.ofList_toList (s := text), String.toByteArray_ofList,
    String.toList_ofList, utf8Encode_eq]

theorem lineFeed_not_mem {c : Char} (other : c ≠ '\n') : 10 ∉ String.utf8EncodeChar c := by
  have value : c.val.toNat ≠ 10 := fun same => other (Char.ext (UInt32.toNat_inj.mp same))
  simp only [String.utf8EncodeChar]
  generalize c.val.toNat = value at *
  split_ifs <;> simp [← UInt8.toNat_inj] <;> omega

def readLine (bytes : List UInt8) : Input :=
  match decodeText ⟨bytes.toArray⟩ with
  | .ok text => .line text
  | .error _ => .unreadable

theorem inputs_eq_cut (bytes : List UInt8) : inputs bytes = inputs.cut readLine [] bytes := rfl

theorem readLine_encoded (text : List Char) :
    readLine (encoded text) = .line (String.ofList text) := by
  have valid : ByteArray.IsValidUTF8 ⟨(encoded text).toArray⟩ :=
    .intro text (utf8Encode_eq text).symm
  simp only [readLine, decodeText, String.fromUTF8?, dif_pos valid]
  exact congrArg Input.line (String.toByteArray_inj.mp (utf8Encode_eq text).symm)

theorem cut_skip {bytes : List UInt8} (noFeed : 10 ∉ bytes) (read : List UInt8 → Input)
    (current rest : List UInt8) :
    inputs.cut read current (bytes ++ rest) = inputs.cut read (bytes.reverse ++ current) rest := by
  induction bytes generalizing current with
  | nil => rfl
  | cons byte more ih =>
      rw [List.mem_cons, not_or] at noFeed
      simp [inputs.cut, Ne.symm noFeed.1, ih noFeed.2]

theorem cut_end {bytes : List UInt8} (nonempty : bytes ≠ []) (read : List UInt8 → Input) :
    inputs.cut read bytes.reverse [] = [read bytes] := by
  simp [inputs.cut, nonempty]

theorem cut_lineFeed (read : List UInt8 → Input) (bytes rest : List UInt8) :
    inputs.cut read bytes.reverse (10 :: rest) =
      read (bytes ++ [10]) :: inputs.cut read [] rest := by
  simp [inputs.cut]

/-- The lines of a text, each with the line feed that ends it. Only the last one may lack it. -/
structure AreLines (texts : List String) (text : List Char) : Prop where
  joined : texts.flatMap String.toList = text
  cut : ∀ line ∈ texts, line.toList ≠ [] ∧ '\n' ∉ line.toList.dropLast
  ended : ∀ line ∈ texts.dropLast, line.toList.getLast? = some '\n'

theorem AreLines.cons {texts : List String} {row text : List Char} (areLines : AreLines texts text)
    (noFeed : '\n' ∉ row) :
    AreLines (String.ofList (row ++ ['\n']) :: texts) (row ++ '\n' :: text) where
  joined := by simp [areLines.joined]
  cut := List.forall_mem_cons.mpr ⟨by simpa using noFeed, areLines.cut⟩
  ended := by
    cases texts with
    | nil => exact List.forall_mem_nil _
    | cons next more =>
        rw [List.dropLast_cons_of_ne_nil (List.cons_ne_nil next more)]
        exact List.forall_mem_cons.mpr ⟨by simp, areLines.ended⟩

theorem cut_encoded (row text : List Char) (noFeed : '\n' ∉ row) :
    ∃ texts : List String, AreLines texts (row ++ text) ∧
      inputs.cut readLine (encoded row).reverse (encoded text) = texts.map .line := by
  induction text generalizing row with
  | nil =>
      cases row with
      | nil => exact ⟨[], ⟨rfl, List.forall_mem_nil _, List.forall_mem_nil _⟩, rfl⟩
      | cons c rest =>
          refine ⟨[String.ofList (c :: rest)], ⟨by simp, ?_, List.forall_mem_nil _⟩, ?_⟩
          · exact List.forall_mem_singleton.mpr ⟨by simp, fun member =>
              noFeed (List.dropLast_subset _ (by simpa using member))⟩
          · have nonempty : encoded (c :: rest) ≠ [] := by simp [encoded_eq_nil_iff]
            exact (cut_end nonempty readLine).trans (by rw [readLine_encoded]; rfl)
  | cons c rest ih =>
      by_cases feed : c = '\n'
      · subst feed
        obtain ⟨texts, areLines, same⟩ := ih [] List.not_mem_nil
        refine ⟨_, areLines.cons noFeed, ?_⟩
        have ended : encoded row ++ [10] = encoded (row ++ ['\n']) := by
          rw [encoded, encoded, List.flatMap_append]
          rfl
        refine (cut_lineFeed readLine (encoded row) (encoded rest)).trans ?_
        rw [ended, readLine_encoded]
        exact congrArg (_ :: ·) same
      · obtain ⟨texts, areLines, same⟩ := ih (row ++ [c]) (by simp [noFeed, Ne.symm feed])
        refine ⟨texts, by simpa using areLines, ?_⟩
        rw [encoded_cons, cut_skip (lineFeed_not_mem feed), ← reverse_encoded_concat, same]

theorem inputs_toUTF8 (text : String) :
    ∃ texts : List String, AreLines texts text.toList ∧
      inputs text.toUTF8.data.toList = texts.map .line := by
  rw [toUTF8_toList, inputs_eq_cut]
  exact cut_encoded [] text.toList List.not_mem_nil

end StoryScript.Console
