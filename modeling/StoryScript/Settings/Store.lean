import StoryScript.Files.Fault
import StoryScript.Settings.Reading
import StoryScript.Toml.Document

/-!
The store of settings, which is filled from a file once. Before that, and for sections that are
absent or of the wrong form, settings have their defaults.
-/

namespace StoryScript

structure SettingsStore where
  sections : Option (List (String × Toml)) := none

inductive StoreError
  | unreadable (fault : Fault)
  | alreadyFilled
  deriving DecidableEq, Repr

def StoreError.message : StoreError → String
  | unreadable fault => fault.message
  | alreadyFilled => "Config already initialized"

namespace SettingsStore

/-- The text of the file at a path, if there is one. -/
def source (isThere : Bool) (content : Except Fault String) : Except Fault (Option String) :=
  if isThere then content.map some else .ok none

/-- Fills the store with the sections that are parsed in a text. Without a file the text is empty,
and a malformed text has no sections. -/
def fillWith (parse : String → Option (List (String × Toml))) (store : SettingsStore)
    (source : Except Fault (Option String)) : Except StoreError Unit × SettingsStore :=
  match source with
  | .error fault => (.error (.unreadable fault), store)
  | .ok found =>
      match store.sections with
      | some _ => (.error .alreadyFilled, store)
      | none => (.ok (), { sections := some ((parse (found.getD "")).getD []) })

def fill (store : SettingsStore) (source : Except Fault (Option String)) :
    Except StoreError SettingsStore :=
  let (outcome, after) := store.fillWith Toml.ofText? source
  outcome.map fun () => after

def get {σ : Type} (store : SettingsStore) (read : Toml → Except Mismatch σ) (default : σ)
    (name : String) : σ × Option Mismatch :=
  match store.sections.bind (·.lookup name) with
  | none => (default, none)
  | some section_ =>
      match read section_ with
      | .ok settings => (settings, none)
      | .error mismatch => (default, some mismatch)

def logSettings (store : SettingsStore) (name : String) : LogSettings × Option Mismatch :=
  store.get LogSettings.read {} name

def playSettings (store : SettingsStore) (name : String) : PlaySettings × Option Mismatch :=
  store.get PlaySettings.read {} name

end SettingsStore

end StoryScript
