import MediaLanguage.Ast.Expr
import MediaLanguage.Number.Format

/-!
# Imports, variables, units and vocabularies
-/

namespace MediaLanguage

/-- The type of a column. -/
inductive FieldType where
  | id
  | text (length : Option Int)
  | number
  | boolean
  | category (values : List String)
deriving DecidableEq

/-- The word for a type. -/
def FieldType.name : FieldType → String
  | .id => "ID"
  | .text _ => "TEXT"
  | .number => "NUMBER"
  | .boolean => "BOOLEAN"
  | .category _ => "CATEGORY"

/-- The key of a vocabulary entry: a number, or a quoted text. -/
inductive VocabularyKey where
  | number (value : Number)
  | quoted (value : String)
deriving DecidableEq

/-- The key of a vocabulary entry as a text. -/
def VocabularyKey.text : VocabularyKey → String
  | .number value => value.text
  | .quoted value => value

namespace Ast

/-- A reference to another file; it is recorded and never followed. -/
structure Import where
  path : String
  position : Position
deriving DecidableEq

/-- A named value. -/
structure Variable where
  name : String
  value : Expr
  position : Position

/-- A type where it is written. -/
structure TypeExpr where
  type : FieldType
  position : Position
deriving DecidableEq

/-- A column of a unit. -/
structure UnitField where
  name : String
  type : TypeExpr
  primaryKey : Bool
  position : Position
deriving DecidableEq

/-- A unit: a table with typed columns. -/
structure UnitDeclaration where
  name : String
  fields : List UnitField
  position : Position
deriving DecidableEq

/-- A key of a vocabulary and its meaning. -/
structure VocabularyEntry where
  key : VocabularyKey
  value : String
  position : Position
deriving DecidableEq

/-- A named group of entries. -/
structure VocabularyBody where
  name : String
  entries : List VocabularyEntry
  position : Position
deriving DecidableEq

/-- A vocabulary. -/
structure Vocabulary where
  name : String
  bodies : List VocabularyBody
  position : Position
deriving DecidableEq

end Ast

end MediaLanguage
