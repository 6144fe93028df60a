/-!
Values of TOML, the format of the settings file.
-/

namespace StoryScript

inductive Toml
  | text (value : String)
  | integer (value : Int)
  | decimal (value : Float)
  | truth (value : Bool)
  | moment (value : String)
  | array (items : List Toml)
  | table (entries : List (String × Toml))

namespace Toml

instance : Inhabited Toml := ⟨table []⟩

end Toml

end StoryScript
