import MediaLanguage.Number.Basic

/-!
# Values of settings files

A settings file in TOML is a table of named values, in the order in which the file names them first.
-/

namespace MediaLanguage

/-- A value of a settings file. -/
inductive Toml where
  | string (value : String)
  | integer (value : Int)
  | float (value : Number)
  | boolean (value : Bool)
  /-- A date, a time of day or both, as written. -/
  | time (text : String)
  | array (items : List Toml)
  | table (entries : List (String × Toml))

namespace Toml

/-- The value of a key of a table. -/
def get? (v : Toml) (key : String) : Option Toml :=
  match v with
  | .table entries => entries.lookup key
  | _ => none

/-- Whether a value switches something on: all values do but `false`, zero and what is empty. -/
def isOn : Toml → Bool
  | .string value => !value.isEmpty
  | .integer value => value != 0
  | .float value => !value.isZero
  | .boolean value => value
  | .time _ => true
  | .array items => !items.isEmpty
  | .table entries => !entries.isEmpty

end Toml

end MediaLanguage
