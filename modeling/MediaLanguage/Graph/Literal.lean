import MediaLanguage.Sql.Literal

/-!
# Literals of graph scripts

A text stands between single quotes, quotes and backslashes in it after a backslash; a missing value is `null`, which
no text is.
-/

namespace MediaLanguage.Graph

/-- The text with a backslash in front of each quote and each backslash. -/
def escape (cs : List Char) : List Char :=
  cs.flatMap fun c => if c = '\'' ∨ c = '\\' then ['\\', c] else [c]

/-- A text as a literal. -/
def quote (s : String) : String :=
  String.ofList ('\'' :: escape s.toList ++ ['\''])

/-- A text that may be missing, as a literal. -/
def quoteOptional : Option String → String
  | some s => quote s
  | none => "null"

/-- The day that stands for the open end of a period. -/
def openEnd : String := "9999-01-01"

/-- Whether a date is the open end of a period. -/
def isOpenEnd (date : String) : Bool :=
  Text.upper date == "CURRENT"

/-- A property value. -/
inductive Term where
  | null
  | integer (value : Int)
  | number (value : Number)
  | text (value : String)
  /-- A day. -/
  | date (day : String)
  /-- The time of execution. -/
  | now
deriving DecidableEq

namespace Term

/-- A text that may be missing. -/
def optional : Option String → Term
  | some s => .text s
  | none => .null

/-- An integer that may be missing. -/
def optionalInteger : Option Int → Term
  | some k => .integer k
  | none => .null

/-- A number that may be missing. -/
def optionalNumber : Option Number → Term
  | some x => .number x
  | none => .null

/-- A date that may be missing. -/
def optionalDate : Option String → Term
  | some day => .date (if isOpenEnd day then openEnd else day)
  | none => .null

/-- The text of a value of the model. -/
def ofValue (v : Model.Value) : Term :=
  .text v.text

/-- A value in its written form. -/
def render : Term → String
  | .null => "null"
  | .integer value => toString value
  | .number value => value.text
  | .text value => quote value
  | .date day => "date(" ++ quote day ++ ")"
  | .now => "datetime()"

end Term

end MediaLanguage.Graph
