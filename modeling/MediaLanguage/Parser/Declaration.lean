import MediaLanguage.Ast.Declaration
import MediaLanguage.Parser.Expr

/-!
# Imports, variables, units and vocabularies

    inclusion  ::= IMPORT string ;?
    variable   ::= LET name = expression ;?
    unit       ::= UNIT name { (name : type (PRIMARY KEY)? commas)* }
    type       ::= ID | TEXT (( number ))? | NUMBER | BOOLEAN | CATEGORY ( string (, string)* )
    vocabulary ::= VOCABULARY name { (body ,?)* } | body
    body       ::= name { ((number | string) : string ,?)* }
-/

namespace MediaLanguage.Parser

open Ast

/-- Reads an import. -/
def importFile : Parser Import := do
  let start ← keyword .importFile
  let path ← string "string literal after 'import'"
  let _ ← accept (.mark .semicolon)
  return { path, position := start.position }

/-- Reads a variable. -/
def letVariable : Parser Variable := do
  let start ← keyword .letVariable
  let label ← name
  let _ ← mark .assign
  let value ← expression
  let _ ← accept (.mark .semicolon)
  return { name := label, value, position := start.position }

/-! ## Units -/

/-- Reads the length of a text, which has to be a finite number. -/
def textLength : Parser Int := do
  match (← number "text length").truncate with
  | .ok length => return length
  | .error e => throw (.conversion e)

/-- Reads a type. -/
def fieldType : Parser TypeExpr := do
  let token ← current
  let typed (type : FieldType) : TypeExpr := { type, position := token.position }
  match token.kind with
  | .keyword .id =>
    let _ ← advance
    return typed .id
  | .keyword .text =>
    let _ ← advance
    if ← accept (.mark .openParen) then
      let length ← textLength
      let _ ← mark .closeParen
      return typed (.text (some length))
    else return typed (.text none)
  | .keyword .number =>
    let _ ← advance
    return typed .number
  | .keyword .boolean =>
    let _ ← advance
    return typed .boolean
  | .keyword .category =>
    let _ ← advance
    let _ ← mark .openParen
    return typed (.category (← commaList .closeParen (string "category value")))
  | _ => unexpected "field type"

/-- Reads the words that make a column the key, if they are there. -/
def primaryKey : Parser Bool := do
  if (← current).kind == .keyword .primary && (← next).kind == .keyword .key then
    let _ ← advance
    let _ ← advance
    return true
  else return false

/-- Reads a column. -/
def unitField : Parser UnitField := do
  let position := (← current).position
  let label ← name
  let _ ← mark .colon
  let type ← fieldType
  return { name := label, type, primaryKey := ← primaryKey, position }

/-- Skips a comma, and with it more commas, line breaks and comments. -/
def skipCommas : Parser Unit := do
  if ← sees (.mark .comma) then skipWhile fun k => k == .mark .comma || isTrivia k

/-- An item of a block in which comments are trivia and annotations are dropped; `after` may follow a field. -/
def untaggedItem {α : Type} (field : Parser α) (after : Parser Unit) : Parser (List α) := do
  if ← sees .tag then
    skipTag
    return []
  else
    let node ← field
    after
    return [node]

/-- Reads a unit. -/
def unitDeclaration : Parser UnitDeclaration := do
  let start ← keyword .unit
  let label ← name
  let fields ← braced isTrivia (untaggedItem unitField skipCommas)
  return { name := label, fields, position := start.position }

/-! ## Vocabularies -/

/-- Skips one comma. -/
def skipComma : Parser Unit := do
  let _ ← accept (.mark .comma)

/-- Reads the key of an entry. -/
def vocabularyKey : Parser VocabularyKey := do
  match (← current).lexeme with
  | .number value =>
    let _ ← advance
    return .number value
  | .string value =>
    let _ ← advance
    return .quoted value
  | _ => unexpected "number or string key"

/-- Reads an entry. -/
def vocabularyEntry : Parser VocabularyEntry := do
  let position := (← current).position
  let key ← vocabularyKey
  let _ ← mark .colon
  return { key, value := ← string "vocabulary value", position }

/-- Reads a body of entries. -/
def vocabularyBody : Parser VocabularyBody := do
  let position := (← current).position
  let label ← name
  let entries ← braced isTrivia (untaggedItem vocabularyEntry skipComma)
  return { name := label, entries, position }

/-- Reads a vocabulary. -/
def vocabulary : Parser Vocabulary := do
  let start ← keyword .vocabulary
  let label ← name
  let bodies ← braced isTrivia (untaggedItem vocabularyBody skipComma)
  return { name := label, bodies, position := start.position }

/-- Reads a vocabulary that is one body, which names it. -/
def bareVocabulary : Parser Vocabulary := do
  let body ← vocabularyBody
  return { name := body.name, bodies := [body], position := body.position }

end MediaLanguage.Parser
