import MediaLanguage.Model.Value

/-!
# Literals of SQL

A text stands between single quotes, a quote inside it written twice; a missing value is `NULL`, which no text is.
-/

namespace MediaLanguage.Sql

/-- The text with each single quote written twice. -/
def escape (cs : List Char) : List Char :=
  cs.flatMap fun c => if c = '\'' then ['\'', '\''] else [c]

/-- A text as a literal. -/
def quote (s : String) : String :=
  String.ofList ('\'' :: escape s.toList ++ ['\''])

/-- A text that may be missing, as a literal. -/
def quoteOptional : Option String → String
  | some s => quote s
  | none => "NULL"

/-- A value in a statement. -/
inductive Term where
  | null
  | integer (value : Int)
  | number (value : Number)
  | text (value : String)
  /-- The `id` of the row of `table` that has `value` in `column`. -/
  | lookup (table column value : String)
deriving DecidableEq

namespace Term

/-- A text that may be missing. -/
def optional : Option String → Term
  | some s => .text s
  | none => .null

/-- An integer that may be missing. -/
def optionalInteger : Option Int → Term
  | some k => .integer k
  | none => .null

/-- A number that may be missing. -/
def optionalNumber : Option Number → Term
  | some x => .number x
  | none => .null

/-- The text of a value of the model. -/
def ofValue (v : Model.Value) : Term :=
  .text v.text

/-- A value in its written form. -/
def render : Term → String
  | .null => "NULL"
  | .integer value => toString value
  | .number value => value.text
  | .text value => quote value
  | .lookup table column value => s!"(SELECT id FROM {table} WHERE {column} = " ++ quote value ++ ")"

end Term

end MediaLanguage.Sql

namespace MediaLanguage.Model

/-- A value as a comment shows it: a string in double quotes, an object or array by its kind. -/
def Value.remark : Value → String
  | .string value => s!"\"{value}\""
  | .object _ => "object"
  | .array _ => "array"
  | v => v.text

end MediaLanguage.Model
