import MediaLanguage.Sql.Literal

/-!
# Statements of SQL

A script is a list of statements: definitions of tables, rows to insert, comments and blank lines. Each is written on
lines of its own.
-/

namespace MediaLanguage.Sql

/-! ## Tables -/

/-- A column of a table. -/
structure Column where
  name : String
  type : String
  primaryKey : Bool := false
  notNull : Bool := false
  default : Option String := none
  /-- A comment after the definition. -/
  remark : Option String := none

/-- What the definition of a table lists. -/
inductive TableItem where
  | column (c : Column)
  | primaryKey (columns : List String)
  | foreignKey (column table target : String)

/-- A table. -/
structure Table where
  name : String
  items : List TableItem

/-- Names with commas between them. -/
def commas (names : List String) : String :=
  String.intercalate ", " names

/-- The definition of a column. -/
def Column.definition (c : Column) : String :=
  c.name ++ " " ++ c.type ++ (if c.primaryKey then " PRIMARY KEY" else "") ++ (if c.notNull then " NOT NULL" else "")
    ++ (c.default.map (" DEFAULT " ++ ·)).getD ""

/-- The definition of an item, and the comment after it. -/
def TableItem.definition : TableItem → String × Option String
  | .column c => (c.definition, c.remark)
  | .primaryKey columns =>
    let names := commas columns
    (s!"PRIMARY KEY ({names})", none)
  | .foreignKey key table target => (s!"FOREIGN KEY ({key}) REFERENCES {table}({target})", none)

/-- Definitions on lines of their own; a comma follows all but the last, in front of the comment. -/
def definitionLines : List (String × Option String) → List String
  | [] => []
  | (definition, remark) :: rest =>
    let separator := if rest.isEmpty then "" else ","
    let comment := (remark.map (" -- " ++ ·)).getD ""
    ("    " ++ definition ++ separator ++ comment) :: definitionLines rest

/-- Definitions as the body of a table. -/
def definitionBlock (definitions : List (String × Option String)) : String :=
  Text.unlines (definitionLines definitions)

/-- What stands in front of the first ` -- ` of a text, and what follows it. -/
def splitRemark : List Char → List Char × List Char
  | ' ' :: '-' :: '-' :: ' ' :: rest => ([], rest)
  | [] => ([], [])
  | c :: rest =>
    let (before, after) := splitRemark rest
    (c :: before, after)

/-- A definition that is written with a comment after ` -- `; an empty comment is none. -/
def readDefinition (s : String) : String × Option String :=
  let (definition, remark) := splitRemark s.toList
  (String.ofList definition, if remark.isEmpty then none else some (String.ofList remark))

/-! ## Rows -/

/-- What to do with a row whose key is already there. -/
inductive Conflict where
  | fail
  | skip
  /-- Set some columns of the row that has the values of `key`. -/
  | update (key : List String) (changes : List (String × Term))

/-- A row to insert. -/
structure Insert where
  table : String
  columns : List String
  values : List Term
  conflict : Conflict := .fail

/-- The clause for a row whose key is already there. -/
def Conflict.render : Conflict → String
  | .fail => ""
  | .skip => " ON CONFLICT DO NOTHING"
  | .update key changes =>
    " ON CONFLICT (" ++ commas key ++ ") DO UPDATE SET "
      ++ commas (changes.map fun (column, value) => column ++ " = " ++ value.render)

/-- The statement for a row. -/
def Insert.render (i : Insert) : String :=
  "INSERT INTO " ++ i.table ++ " (" ++ commas i.columns ++ ") VALUES (" ++ commas (i.values.map Term.render) ++ ")"
    ++ i.conflict.render ++ ";"

/-! ## Scripts -/

/-- A statement, comment or blank line. -/
inductive Statement where
  | comment (text : String)
  | blank
  | createSchema (name : String)
  | createTable (onlyIfMissing : Bool) (table : Table)
  | insert (i : Insert)

/-- A script. -/
abbrev Script := List Statement

/-- A statement on lines of its own. -/
def Statement.render : Statement → String
  | .comment text => s!"-- {text}\n"
  | .blank => "\n"
  | .createSchema name => s!"CREATE SCHEMA IF NOT EXISTS {name};\n"
  | .createTable onlyIfMissing table =>
    "CREATE TABLE " ++ (if onlyIfMissing then "IF NOT EXISTS " else "") ++ table.name ++ " (\n"
      ++ definitionBlock (table.items.map TableItem.definition) ++ "\n);\n"
  | .insert i => i.render ++ "\n"

/-- The text of a script. -/
def Script.render (s : Script) : String :=
  String.join (s.map Statement.render)

/-- A row that must be new. -/
def Statement.row (table : String) (columns : List String) (values : List Term) : Statement :=
  .insert { table, columns, values }

end MediaLanguage.Sql
