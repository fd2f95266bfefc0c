import MediaLanguage.Number.Format
import MediaLanguage.Text.Case

/-!
# Values

The values of a model are expressions without their places. Variables stay unresolved.
-/

namespace MediaLanguage.Model

/-- A value. -/
inductive Value where
  | string (value : String)
  | number (value : Number)
  | boolean (value : Bool)
  /-- A use of a variable. -/
  | reference (name : String)
  | object (fields : List (String × Value))
  | array (items : List Value)

/-- A name with a value. -/
structure Assignment where
  name : String
  value : Value

namespace Value

mutual

/-- The plain text of a value: a string without quotes, a variable with its sign. -/
def text : Value → String
  | .string value => value
  | .number value => value.text
  | .boolean value => if value then "true" else "false"
  | .reference name => "$" ++ name
  | .object fields => "\x7b" ++ String.intercalate ", " (fieldTexts fields) ++ "\x7d"
  | .array items => "[" ++ String.intercalate ", " (itemTexts items) ++ "]"

/-- The texts of the fields of an object. -/
def fieldTexts : List (String × Value) → List String
  | [] => []
  | (name, value) :: fields => (name ++ ": " ++ value.text) :: fieldTexts fields

/-- The texts of the items of an array. -/
def itemTexts : List Value → List String
  | [] => []
  | value :: items => value.text :: itemTexts items

end

/-- The first field with a name in lower case, if the value is an object. -/
def get? (v : Value) (name : String) : Option Value :=
  match v with
  | .object fields => (fields.find? fun f => Text.lower f.1 == name).map Prod.snd
  | _ => none

/-- The text of a string. -/
def string? : Value → Option String
  | .string value => some value
  | _ => none

end Value

/-- The first assignment with a name in lower case. -/
def valueOf? (fields : List Assignment) (name : String) : Option Value :=
  (fields.find? fun f => Text.lower f.name == name).map Assignment.value

end MediaLanguage.Model
