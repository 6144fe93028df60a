import StoryScript.Host
import StoryScript.Proofs.Playthrough.Operation

/-!
What can be asked of a host, and the hosts that a history of such requests leads to.
-/

namespace StoryScript

namespace Trace

theorem startLabel_ofPlaythrough (bound : Nat) (play : Playthrough) :
    (ofPlaythrough bound play).2.world.startLabel = play.world.startLabel := by
  let holds (after : Playthrough) : Prop := after.world.startLabel = play.world.startLabel
  refine @run_keeps holds ?_ ?_ ?_ _ _ _ rfl
  · intro after same
    exact (congrArg Playthrough.Setting.startLabel after.setting_step).trans same
  · intro after target same
    exact same
  · intro after same
    exact (congrArg Playthrough.Setting.startLabel after.setting_stop).trans same

end Trace

namespace Host

inductive Request
  | load (source : String)
  | loadFile (path : String) (content : Except Fault String)
  | loadProject (root : String) (found : List FileTree.Found)
  | trace
  | reset

def perform (host : Host) : Request → Host
  | .load source => host.load source
  | .loadFile path content => (host.loadFile path content).2
  | .loadProject root found => (host.loadProject root found).2
  | .trace => host.trace.2
  | .reset => host.reset

def after (host : Host) (history : List Request) : Host :=
  history.foldl perform host

theorem settings_perform (host : Host) (request : Request) :
    (host.perform request).settings = host.settings ∧
      (host.perform request).world.startLabel = host.world.startLabel := by
  cases request with
  | load source => exact ⟨rfl, rfl⟩
  | loadFile path content =>
      cases content with
      | ok source => exact ⟨rfl, rfl⟩
      | error fault => exact ⟨rfl, rfl⟩
  | loadProject root found =>
      simp only [perform, loadProject]
      split
      · exact ⟨rfl, rfl⟩
      · exact ⟨rfl, rfl⟩
  | trace =>
      simp only [perform, trace]
      split
      · exact ⟨rfl, rfl⟩
      · exact ⟨rfl, Trace.startLabel_ofPlaythrough _ _⟩
  | reset => exact ⟨rfl, rfl⟩

theorem settings_after (host : Host) (history : List Request) :
    (host.after history).settings = host.settings ∧
      (host.after history).world.startLabel = host.world.startLabel := by
  induction history generalizing host with
  | nil => exact ⟨rfl, rfl⟩
  | cons request rest ih =>
      obtain ⟨settings, startLabel⟩ := settings_perform host request
      obtain ⟨sameSettings, sameLabel⟩ := ih (host.perform request)
      exact ⟨sameSettings.trans settings, sameLabel.trans startLabel⟩

end Host

end StoryScript
