import StoryScript.Settings.Store

/-!
The store of settings takes the first file that can be read, or the first path that has none, and
nothing after it, however the sections of a text are parsed.
-/

namespace StoryScript

inductive StoreCall : Type 1
  /-- Fills the store from a path, by whether something is there and by how it is read. -/
  | fill (isThere : Bool) (content : Except Fault String)
  | get {σ : Type} (read : Toml → Except Mismatch σ) (default : σ) (name : String)

namespace SettingsStore

def settings? {σ : Type} (read : Toml → Except Mismatch σ) (name : String)
    (sections : List (String × Toml)) : Option σ :=
  (sections.lookup name).bind fun section_ => (read section_).toOption

section

variable (parse : String → Option (List (String × Toml)))

/-- The sections of a file. There are none where it is absent or malformed. -/
def sectionsOf : Option String → List (String × Toml)
  | none => []
  | some text => (parse text).getD []

def perform (store : SettingsStore) : StoreCall → SettingsStore
  | .fill isThere content => (store.fillWith parse (source isThere content)).2
  | .get .. => store

def after (store : SettingsStore) (calls : List StoreCall) : SettingsStore :=
  calls.foldl (perform parse) store

def taken? (store : SettingsStore) : StoreCall → Option (Option String)
  | .fill isThere content =>
      match (store.fillWith parse (source isThere content)).1 with
      | .ok () => (source isThere content).toOption
      | .error _ => none
  | .get .. => none

def accepted (store : SettingsStore) : List StoreCall → List (Option String)
  | [] => []
  | call :: rest => (store.taken? parse call).toList ++ (store.perform parse call).accepted rest

end

section

variable {parse : String → Option (List (String × Toml))} {store : SettingsStore}

/-! What one call does. -/

theorem fillWith_of_empty (blank : (parse "").getD [] = []) (empty : store.sections = none)
    (found : Option String) :
    store.fillWith parse (.ok found) = (.ok (), { sections := some (sectionsOf parse found) }) := by
  simp only [fillWith, empty]
  cases found with
  | none => rw [Option.getD_none, blank, sectionsOf]
  | some text => rw [Option.getD_some, sectionsOf]

theorem fillWith_succeeds_iff (source : Except Fault (Option String)) :
    (store.fillWith parse source).1 = .ok () ↔
      store.sections = none ∧ ∃ found, source = .ok found := by
  cases source with
  | error fault => simp [fillWith]
  | ok found => cases filled : store.sections <;> simp [fillWith, filled]

theorem fillWith_of_error {source : Except Fault (Option String)} {error : StoreError}
    (failed : (store.fillWith parse source).1 = .error error) :
    (store.fillWith parse source).2 = store := by
  cases source with
  | error fault => rfl
  | ok found =>
      cases filled : store.sections with
      | none => simp [fillWith, filled] at failed
      | some sections => simp only [fillWith, filled]

theorem source_succeeds_iff (isThere : Bool) (content : Except Fault String) :
    (∃ found, source isThere content = .ok found) ↔ isThere = false ∨ content.isOk = true := by
  cases isThere <;> cases content <;> simp [source, Except.map, Except.isOk, Except.toBool]

theorem perform_of_taken?_eq_none {call : StoreCall} (nothing : store.taken? parse call = none) :
    store.perform parse call = store := by
  cases call with
  | get read default name => rfl
  | fill isThere content =>
      simp only [taken?] at nothing
      split at nothing
      next succeeds =>
        obtain ⟨_, found, read⟩ := (fillWith_succeeds_iff _).mp succeeds
        rw [read] at nothing
        contradiction
      next failed => exact fillWith_of_error failed

theorem perform_of_taken?_eq_some (blank : (parse "").getD [] = []) {call : StoreCall}
    {found : Option String} (taken : store.taken? parse call = some found) :
    store.perform parse call = { sections := some (sectionsOf parse found) } := by
  cases call with
  | get read default name => contradiction
  | fill isThere content =>
      simp only [taken?] at taken
      split at taken
      next succeeds =>
        obtain ⟨empty, other, read⟩ := (fillWith_succeeds_iff _).mp succeeds
        obtain rfl : other = found := by rw [read] at taken; exact Option.some.inj taken
        rw [perform, read, fillWith_of_empty blank empty]
      next => contradiction

theorem taken?_of_filled (filled : store.sections ≠ none) (call : StoreCall) :
    store.taken? parse call = none := by
  cases call with
  | get read default name => rfl
  | fill isThere content =>
      simp only [taken?]
      split
      next succeeds => exact absurd ((fillWith_succeeds_iff _).mp succeeds).1 filled
      next => rfl

theorem get_fst {σ : Type} (store : SettingsStore) (read : Toml → Except Mismatch σ) (default : σ)
    (name : String) :
    (store.get read default name).1 = (store.sections.bind (settings? read name)).getD default := by
  simp only [get]
  cases store.sections with
  | none => rfl
  | some sections =>
      simp only [Option.bind_some, settings?]
      cases sections.lookup name with
      | none => rfl
      | some section_ =>
          simp only [Option.bind_some]
          cases read section_ <;> rfl

/-! What a sequence of calls does. -/

theorem after_cons (store : SettingsStore) (call : StoreCall) (rest : List StoreCall) :
    store.after parse (call :: rest) = (store.perform parse call).after parse rest :=
  rfl

theorem after_append (store : SettingsStore) (calls rest : List StoreCall) :
    store.after parse (calls ++ rest) = (store.after parse calls).after parse rest :=
  List.foldl_append

theorem accepted_of_filled (filled : store.sections ≠ none) (calls : List StoreCall) :
    store.accepted parse calls = [] ∧ store.after parse calls = store := by
  induction calls with
  | nil => exact ⟨rfl, rfl⟩
  | cons call rest ih =>
      have nothing : store.taken? parse call = none := taken?_of_filled filled call
      rw [accepted, after_cons, nothing, perform_of_taken?_eq_none nothing]
      exact ih

theorem accepted_of_empty (blank : (parse "").getD [] = []) (empty : store.sections = none)
    (calls : List StoreCall) :
    (store.accepted parse calls).length ≤ 1 ∧
      (store.after parse calls).sections =
        (store.accepted parse calls).head?.map (sectionsOf parse) := by
  induction calls generalizing store with
  | nil => exact ⟨Nat.zero_le 1, empty⟩
  | cons call rest ih =>
      rw [accepted, after_cons]
      cases taken : store.taken? parse call with
      | none =>
          rw [perform_of_taken?_eq_none taken]
          exact ih empty
      | some found =>
          let after : SettingsStore := { sections := some (sectionsOf parse found) }
          obtain ⟨nothing, same⟩ := @accepted_of_filled parse after nofun rest
          rw [perform_of_taken?_eq_some blank taken, nothing, same]
          exact ⟨Nat.le_refl 1, rfl⟩

end

/-- Whatever is called, the store is filled at most once, by the first call whose path has no file
or one that can be read. A call that fails leaves no trace, and settings are those of the text that
has been taken, or the default. Of the parser it matters only that an empty text has no sections. -/
theorem filled_once (parse : String → Option (List (String × Toml)))
    (blank : (parse "").getD [] = []) (calls : List StoreCall) :
    let empty : SettingsStore := {}
    let store := empty.after parse calls
    let accepted := empty.accepted parse calls
    accepted.length ≤ 1 ∧
      (∀ isThere content, (store.fillWith parse (source isThere content)).1 = .ok () ↔
        accepted = [] ∧ (isThere = false ∨ content.isOk = true)) ∧
      (∀ isThere content error,
        (store.fillWith parse (source isThere content)).1 = .error error →
          ∀ later, empty.after parse (calls ++ .fill isThere content :: later) =
            empty.after parse (calls ++ later)) ∧
      (accepted = [] → ∀ fault isThere content, isThere = false ∨ content.isOk = true →
        ((empty.after parse (calls ++ [.fill true (.error fault)])).fillWith parse
          (source isThere content)).1 = .ok ()) ∧
      ∀ (σ : Type) (read : Toml → Except Mismatch σ) (default : σ) (name : String),
        (accepted = [] → store.get read default name = (default, none)) ∧
        ∀ found, accepted.head? = some found →
          (store.get read default name).1 =
            (settings? read name (sectionsOf parse found)).getD default := by
  intro empty store accepted
  obtain ⟨once, sections⟩ := @accepted_of_empty parse empty blank rfl calls
  have untouched : store.sections = none ↔ accepted = [] := by
    rw [sections, Option.map_eq_none_iff, List.head?_eq_none_iff]
  refine ⟨once, ?succeeds, ?fails, ?again, ?gets⟩
  case succeeds =>
    intro isThere content
    rw [fillWith_succeeds_iff, untouched, source_succeeds_iff]
  case fails =>
    intro isThere content error failed later
    rw [after_append, after_cons, after_append]
    exact congrArg (after parse · later) (fillWith_of_error failed)
  case again =>
    intro nothing fault isThere content readable
    rw [after_append, fillWith_succeeds_iff]
    exact ⟨untouched.mpr nothing, (source_succeeds_iff isThere content).mpr readable⟩
  case gets =>
    intro σ read default name
    refine ⟨fun nothing => ?_, fun found first => ?_⟩
    · simp only [get, untouched.mpr nothing, Option.bind_none]
    · rw [get_fst, sections, first]
      rfl

/-- A file that cannot be read comes first, then one that can be, and then a path with no file. -/
def thirdCallFills : List StoreCall :=
  [.get PlaySettings.read {} "core", .fill true (.error .notFound),
    .fill true (.ok "[core]\nmax_trace_nodes = 3\n"), .fill false (.ok "")]

theorem thirdCallFills_read :
    let store := ({} : SettingsStore).after Toml.ofText? thirdCallFills
    (Toml.ofText? "").getD [] = [] ∧
      (store.fillWith Toml.ofText? (source false (.ok ""))).1 ≠ .ok () ∧
      (store.get PlaySettings.read {} "core").1.maxTraceNodes = 3 := by
  have blank : (Toml.ofText? "").getD [] = [] := rfl
  have taken : ({} : SettingsStore).accepted Toml.ofText? thirdCallFills =
      [some "[core]\nmax_trace_nodes = 3\n"] := rfl
  obtain ⟨_, succeeds, _, _, gets⟩ := filled_once Toml.ofText? blank thirdCallFills
  obtain ⟨_, ofTaken⟩ := gets PlaySettings PlaySettings.read {} "core"
  refine ⟨blank, fun again => ?_, ?_⟩
  · have untouched := ((succeeds _ _).mp again).1
    rw [taken] at untouched
    exact List.cons_ne_nil _ _ untouched
  · rw [ofTaken _ (congrArg List.head? taken)]
    decide +kernel

end SettingsStore

end StoryScript
