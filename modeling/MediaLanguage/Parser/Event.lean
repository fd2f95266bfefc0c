import MediaLanguage.Ast.Event
import MediaLanguage.Parser.Link

/-!
# Events and catalogs

    event    ::= EVENT name { ((field = value | annotation) separators | comment)* } ;?
    entities ::= { (name = { (field = value separators)* } separators)* }
    catalog  ::= CATALOG name { (source separators)* } ;?
    source   ::= SOURCE string { ((name = expression | name { … } | annotation) separators | comment)* }
-/

namespace MediaLanguage.Parser

open Ast

/-! ## Events -/

/-- The fields of an entity. -/
inductive EntityField where
  | id | role | stakeBefore | stakeAfter

/-- The names of the fields of an entity. -/
def entityFields : List (String × EntityField) :=
  [("id", .id), ("role", .role), ("stake_before", .stakeBefore), ("stake_after", .stakeAfter)]

/-- Reads a field of an entity. -/
def entityField : Parser (EventEntity → EventEntity) := do
  match ← fieldName entityFields "entity" with
  | .id =>
    let id ← number "outlet id"
    return fun e => { e with outlet := some id }
  | .role =>
    let role ← string "role"
    return fun e => { e with role := some role }
  | .stakeBefore =>
    let stake ← number "stake"
    return fun e => { e with stakeBefore := some stake }
  | .stakeAfter =>
    let stake ← number "stake"
    return fun e => { e with stakeAfter := some stake }

/-- Reads an entity. -/
def eventEntity : Parser EventEntity := do
  let position := (← current).position
  let label ← name
  let _ ← mark .assign
  let changes ← braced isTrivia do
    let change ← entityField
    skipSeparators
    return [change]
  return applyAll changes { name := label, position }

/-- Reads the entities of an event. -/
def eventEntities : Parser (List EventEntity) :=
  braced isTrivia do
    let entity ← eventEntity
    skipSeparators
    return [entity]

/-- The fields of an event. -/
inductive EventField where
  | type | date | status | entities | impact | metadata

/-- The names of the fields of an event. -/
def eventFields : List (String × EventField) :=
  [("type", .type), ("date", .date), ("status", .status), ("entities", .entities), ("impact", .impact),
   ("metadata", .metadata)]

/-- Reads a field of an event. -/
def eventField : Parser (Event → Event) := do
  match ← fieldName eventFields "event" with
  | .type =>
    let type ← string "event type"
    return fun e => { e with type := some type }
  | .date =>
    let day ← date
    return fun e => { e with date := some day }
  | .status =>
    let status ← string "event status"
    return fun e => { e with status := some status }
  | .entities =>
    let entities ← eventEntities
    return fun e => { e with entities }
  | .impact =>
    let impact ← assignments
    return fun e => { e with impact }
  | .metadata =>
    let metadata ← assignments
    return fun e => { e with metadata }

/-- Reads what an event holds. -/
def eventItem : Parser (Event → Event) :=
  blockItem
    (do let c ← comment; return fun e => { e with comments := e.comments ++ [c] })
    (do let t ← tag; return fun e => { e with tags := e.tags ++ [t] })
    eventField

/-- Reads an event. -/
def event : Parser Event := do
  let start ← keyword .event
  let label ← name
  let changes ← braced isNewline (do return [← eventItem])
  let _ ← accept (.mark .semicolon)
  return applyAll changes { name := label, position := start.position }

/-! ## Catalogs -/

/-- Reads a group of assignments, after its name. -/
def nestedAssignment (label : String) (position : Position) : Parser NestedAssignment := do
  return { name := label, fields := ← braced isNewline keptField, position }

/-- Reads a field of a source. -/
def sourceField : Parser SourceField := do
  let position := (← current).position
  let label ← name
  if ← sees (.mark .openBrace) then SourceField.nested <$> nestedAssignment label position
  else
    let _ ← expectAs (.mark .assign) "'=' or '\x7b'"
    return .assignment { name := label, value := ← expression, position }

/-- Reads a source. -/
def source : Parser Source := do
  let start ← keyword .source
  let label ← string "source name"
  let fields ← braced isNewline <|
    blockItem (do return [.comment (← comment)]) (do return [.tag (← tag)]) (do return [← sourceField])
  return { name := label, fields, position := start.position }

/-- Reads a catalog. -/
def catalog : Parser Catalog := do
  let start ← keyword .catalog
  let label ← name
  let sources ← braced isTrivia do
    if ← sees (.keyword .source) then
      let s ← source
      skipSeparators
      return [s]
    else unexpected "'source' declaration"
  let _ ← accept (.mark .semicolon)
  return { name := label, sources, position := start.position }

end MediaLanguage.Parser
