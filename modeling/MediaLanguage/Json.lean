import MediaLanguage.Number.Format
import MediaLanguage.Text.Lines
import MediaLanguage.Text.Quoted

/-!
# JSON documents

JSON values and their text on indented lines, two spaces a level. The characters of a string may be kept, or all be
written in ASCII, characters beyond the basic plane as a surrogate pair. A number that is not finite is written as
`null`.
-/

namespace MediaLanguage

/-- A JSON value; integers are kept apart from the other numbers, because they are written without a point. -/
inductive Json where
  | null
  | bool (value : Bool)
  | integer (value : Int)
  | number (value : Number)
  | string (value : String)
  | array (items : List Json)
  | object (fields : List (String × Json))

namespace Json

/-- A natural number. -/
def nat (n : Nat) : Json :=
  .integer n

/-- A value that may be missing. -/
def option {α : Type} (f : α → Json) : Option α → Json
  | some a => f a
  | none => .null

/-- A list of values. -/
def list {α : Type} (f : α → Json) (xs : List α) : Json :=
  .array (xs.map f)

/-- Numbers are positional from five places below the point to sixteen digits before it, and then always have a point;
an exponent always has a sign, and no zeros in front. -/
def numberLayout : Layout where
  least := -5
  bound := 16
  keepsPoint := true
  exponentDigits := 1

/-- The text of a number. -/
def numberText (x : Number) : String :=
  match x with
  | .finite .. => x.write numberLayout Number.shortest
  | .infinite _ | .nan => "null"

/-- A code unit by its four hexadecimal digits. -/
def unicodeEscape (unit : Nat) : List Char :=
  ['\\', 'u'] ++ Text.hex 4 unit

/-- A character by its code units. -/
def unicodeEscapes (c : Char) : List Char :=
  if c.toNat < 0x10000 then unicodeEscape c.toNat
  else
    let n := c.toNat - 0x10000
    unicodeEscape (0xD800 + n / 0x400) ++ unicodeEscape (0xDC00 + n % 0x400)

/-- A character of a string; `ascii` asks for ASCII only. -/
def escapeChar (ascii : Bool) (c : Char) : List Char :=
  if c == '"' || c == '\\' then ['\\', c]
  else if c == '\n' then ['\\', 'n']
  else if c == '\r' then ['\\', 'r']
  else if c == '\t' then ['\\', 't']
  else if c.toNat == 0x8 then ['\\', 'b']
  else if c.toNat == 0xC then ['\\', 'f']
  else if c.toNat < 0x20 || (ascii && 0x7E < c.toNat) then unicodeEscapes c
  else [c]

/-- A string in quotes. -/
def quote (ascii : Bool) (s : String) : String :=
  String.ofList ('"' :: s.toList.flatMap (escapeChar ascii) ++ ['"'])

/-- The start of a line at a level. -/
def indent (level : Nat) : String :=
  "\n" ++ Text.repeated (2 * level) ' '

/-- Items between brackets, each on a line of its own one level deeper; without items the brackets touch. -/
def block (level : Nat) (opening closing : String) (items : List String) : String :=
  if items.isEmpty then opening ++ closing
  else
    let separator := "," ++ indent (level + 1)
    opening ++ indent (level + 1) ++ String.intercalate separator items ++ indent level ++ closing

mutual

/-- A value at a level. -/
def render (ascii : Bool) (level : Nat) : Json → String
  | .null => "null"
  | .bool value => if value then "true" else "false"
  | .integer value => toString value
  | .number value => numberText value
  | .string value => quote ascii value
  | .array items => block level "[" "]" (renderItems ascii (level + 1) items)
  | .object fields => block level "\x7b" "\x7d" (renderFields ascii (level + 1) fields)

/-- The items of an array at a level. -/
def renderItems (ascii : Bool) (level : Nat) : List Json → List String
  | [] => []
  | item :: items => render ascii level item :: renderItems ascii level items

/-- The fields of an object at a level. -/
def renderFields (ascii : Bool) (level : Nat) : List (String × Json) → List String
  | [] => []
  | (name, value) :: fields => (quote ascii name ++ ": " ++ render ascii level value) :: renderFields ascii level fields

end

/-- The text of a document. -/
def text (ascii : Bool) (j : Json) : String :=
  j.render ascii 0

end Json

end MediaLanguage
