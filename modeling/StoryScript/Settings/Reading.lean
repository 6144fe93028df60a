import StoryScript.Settings
import StoryScript.Text.Quoted
import StoryScript.Toml

/-!
Reading settings from a section of the settings file. Fields that are absent keep their defaults,
and unknown ones are passed over; a section may also be an array of the fields in their order.
-/

namespace StoryScript

structure Mismatch where
  message : String
  path : List String := []
  deriving DecidableEq, Repr

namespace Mismatch

def text (mismatch : Mismatch) : String :=
  let place := match mismatch.path with
    | [] => ""
    | path => "in `" ++ String.intercalate "." path ++ "`\n"
  mismatch.message ++ "\n" ++ place

def under (mismatch : Mismatch) (name : String) : Mismatch :=
  { mismatch with path := name :: mismatch.path }

end Mismatch

namespace Toml

def decimalText (value : Float) : String :=
  let bits := Binary64.magnitude value
  if bits > Binary64.infinityBits then "NaN"
  else
    let text :=
      if bits = Binary64.infinityBits then "inf".toList
      else if bits = 0 then "0.0".toList
      else
        let digits := (Decimal.shortest .up bits).positional
        if digits.contains '.' then digits else digits ++ ".0".toList
    String.ofList (Number.signed value text)

def mention : Toml → String
  | text value => "string " ++ Text.quote value
  | moment value => "string " ++ Text.quote value
  | integer value => s!"integer `{value}`"
  | decimal value => "floating point `" ++ decimalText value ++ "`"
  | truth value => if value then "boolean `true`" else "boolean `false`"
  | array _ => "sequence"
  | table _ => "map"

def wrongType (value : Toml) (expected : String) : Mismatch :=
  { message := "invalid type: " ++ value.mention ++ ", expected " ++ expected }

def asText : Toml → Except Mismatch String
  | text value => .ok value
  | moment value => .ok value
  | other => .error (wrongType other "a string")

def asNat : Toml → Except Mismatch Nat
  | integer value =>
      if 0 ≤ value then .ok value.toNat
      else .error { message := s!"invalid value: integer `{value}`, expected usize" }
  | other => .error (wrongType other "usize")

def asTruth : Toml → Except Mismatch Bool
  | truth value => .ok value
  | other => .error (wrongType other "a boolean")

end Toml

structure SettingField (σ : Type) where
  name : String
  set : σ → Toml → Except Mismatch σ

namespace SettingField

def ofEntries {σ : Type} (fields : List (SettingField σ)) (settings : σ) :
    List (String × Toml) → Except Mismatch σ
  | [] => .ok settings
  | (name, value) :: rest =>
      match fields.find? (·.name == name) with
      | none => ofEntries fields settings rest
      | some field =>
          match field.set settings value with
          | .ok settings => ofEntries fields settings rest
          | .error mismatch => .error (mismatch.under name)

def ofItems {σ : Type} (count : Nat) (settings : σ) :
    List (SettingField σ) → List Toml → Except Mismatch σ
  | _, [] => .ok settings
  | [], _ :: _ =>
      .error { message := s!"invalid length {count}, expected fewer elements in array" }
  | field :: fields, item :: items => do
      ofItems count (← field.set settings item) fields items

/-- Reads a section. Its entries are taken in the order of their names. -/
def read {σ : Type} (title : String) (fields : List (SettingField σ)) (settings : σ) :
    Toml → Except Mismatch σ
  | .table entries => ofEntries fields settings (Table.ofList entries).entries
  | .array items => ofItems items.length settings fields items
  | other => .error (other.wrongType ("struct " ++ title))

end SettingField

def LogSettings.read : Toml → Except Mismatch LogSettings :=
  SettingField.read "SystemConfig"
    [⟨"log_path", fun settings value => return { settings with path := ← value.asText }⟩,
     ⟨"log_level", fun settings value => return { settings with level := ← value.asText }⟩]
    {}

def DebugSettings.read (settings : DebugSettings) : Toml → Except Mismatch DebugSettings :=
  SettingField.read "DebugConfig"
    [⟨"show_tokens", fun settings value => return { settings with showTokens := ← value.asTruth }⟩,
     ⟨"show_ast", fun settings value => return { settings with showStory := ← value.asTruth }⟩]
    settings

def PlaySettings.read : Toml → Except Mismatch PlaySettings :=
  SettingField.read "CoreConfig"
    [⟨"script_path", fun settings value => return { settings with scriptPath := ← value.asText }⟩,
     ⟨"start_label", fun settings value => return { settings with startLabel := ← value.asText }⟩,
     ⟨"max_silent_steps", fun settings value =>
        return { settings with maxSilentSteps := ← value.asNat }⟩,
     ⟨"max_trace_nodes", fun settings value =>
        return { settings with maxTraceNodes := ← value.asNat }⟩,
     ⟨"debug", fun settings value =>
        return { settings with debug := ← DebugSettings.read {} value }⟩]
    {}

end StoryScript
