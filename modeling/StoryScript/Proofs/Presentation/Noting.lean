import StoryScript.Presentation

/-! What is shown in a presentation. A reader can note it down and is no other reader for that. -/

namespace StoryScript

/-- The same reader, who also notes down what is shown, the last first. -/
def Reader.noting {σ : Type} (respond : Reader σ) : Reader (σ × List Node) :=
  fun (reader, notes) node world =>
    let response := respond reader node world
    { response with reader := (response.reader, node :: notes) }

namespace Presentation

variable {σ : Type} (respond : Reader σ)

theorem run_noting (count : Nat) (reader : σ) (notes : List Node) (play : Playthrough) :
    let noted := run respond.noting count (reader, notes) play
    let plain := run respond count reader play
    noted.play = plain.play ∧ noted.reader.1 = plain.reader ∧
      noted.isFinished = plain.isFinished := by
  induction count generalizing reader notes play with
  | zero => exact ⟨rfl, rfl, rfl⟩
  | succ count ih =>
      simp only [run, Reader.noting]
      split
      next after _ => exact ⟨rfl, rfl, rfl⟩
      next node after _ =>
        split
        next next _ => exact ih _ _ next
        next index next _ => exact ih _ _ next
        next last _ => exact ⟨rfl, rfl, rfl⟩
        next last _ => exact ⟨rfl, rfl, rfl⟩

def shown (count : Nat) (reader : σ) (play : Playthrough) : List Node :=
  (ofPlaythrough respond.noting count (reader, []) play).reader.2.reverse

theorem suffix_notes (count : Nat) (reader : σ) (notes : List Node) (play : Playthrough) :
    notes <:+ (run respond.noting count (reader, notes) play).reader.2 := by
  induction count generalizing reader notes play with
  | zero => exact List.suffix_rfl
  | succ count ih =>
      rw [run]
      split
      next after _ => exact List.suffix_rfl
      next node after _ =>
        have more := List.suffix_cons node notes
        simp only [Reader.noting]
        split
        next next _ => exact more.trans (ih _ _ next)
        next index next _ => exact more.trans (ih _ _ next)
        next last _ => exact more
        next last _ => exact more

end Presentation

end StoryScript
