import MediaLanguage.Ast.Link
import MediaLanguage.Parser.Expr

/-!
# Links

    diachronic  ::= DIACHRONIC_LINK (string | name) { ((field = value | annotation) separators | comment)* } ;?
    synchronous ::= (SYNCHRONOUS_LINK | SYNCHRONOUS_LINKS) (string | name) { … } ;?
    outlet      ::= { (id = number separators | role = string separators)* }

The fields of a link may come in any order, and the last of two fields of one name counts: a body is read as a list of
changes to a link without fields.
-/

namespace MediaLanguage.Parser

open Ast

/-- Reads the name of a link. -/
def linkName : Parser String := do
  match (← current).lexeme with
  | .string value =>
    let _ ← advance
    return value
  | _ => name

/-- The changes made one after the other. -/
def applyAll {α : Type} (changes : List (α → α)) (a : α) : α :=
  changes.foldl (fun x f => f x) a

/-! ## Diachronic links -/

/-- The fields of a diachronic link. -/
inductive DiachronicField where
  | predecessor | successor | relationshipType | eventDate | triggeredBy

/-- The names of the fields of a diachronic link. -/
def diachronicFields : List (String × DiachronicField) :=
  [("predecessor", .predecessor), ("successor", .successor), ("relationship_type", .relationshipType),
   ("event_date", .eventDate), ("triggered_by_event", .triggeredBy)]

/-- Reads a field of a diachronic link. -/
def diachronicField : Parser (DiachronicLink → DiachronicLink) := do
  match ← fieldName diachronicFields "diachronic" with
  | .predecessor =>
    let id ← number "outlet id"
    return fun l => { l with predecessor := some id }
  | .successor =>
    let id ← number "outlet id"
    return fun l => { l with successor := some id }
  | .relationshipType =>
    let type ← string "relationship type"
    return fun l => { l with relationshipType := some type }
  | .eventDate =>
    let range ← dateRange
    return fun l => { l with eventDate := some range }
  | .triggeredBy =>
    let event ← name
    return fun l => { l with triggeredBy := some event }

/-- Reads what a diachronic link holds. -/
def diachronicItem : Parser (DiachronicLink → DiachronicLink) :=
  blockItem
    (do let c ← comment; return fun l => { l with comments := l.comments ++ [c] })
    (do let t ← tag; return fun l => { l with tags := l.tags ++ [t] })
    diachronicField

/-- Reads a diachronic link. -/
def diachronicLink : Parser DiachronicLink := do
  let start ← keyword .diachronicLink
  let label ← linkName
  let changes ← braced isNewline (do return [← diachronicItem])
  let _ ← accept (.mark .semicolon)
  return applyAll changes { name := label, position := start.position }

/-! ## Synchronous links -/

/-- The fields of one side of a synchronous link. -/
inductive SpecField where
  | id | role

/-- The names of the fields of one side of a synchronous link. -/
def specFields : List (String × SpecField) :=
  [("id", .id), ("role", .role)]

/-- Reads a field of one side of a synchronous link. -/
def specField : Parser (OutletSpec → OutletSpec) := do
  match ← fieldName specFields "outlet" with
  | .id =>
    let id ← number "outlet id"
    return fun s => { s with outlet := id }
  | .role =>
    let role ← string "role"
    return fun s => { s with role := some role }

/-- Reads one side of a synchronous link; a side without a number is outlet zero. -/
def outletSpec : Parser OutletSpec := do
  let position := (← current).position
  let changes ← braced isNewline (plainItem specField)
  return applyAll changes { outlet := .zero, role := none, position }

/-- The fields of a synchronous link. -/
inductive SynchronousField where
  | first | second | relationshipType | periodStart | periodEnd | period | details | createdBy

/-- The names of the fields of a synchronous link. -/
def synchronousFields : List (String × SynchronousField) :=
  [("outlet_1", .first), ("outlet_2", .second), ("relationship_type", .relationshipType),
   ("period_start", .periodStart), ("period_end", .periodEnd), ("period", .period), ("details", .details),
   ("created_by_event", .createdBy)]

/-- Reads a field of a synchronous link. -/
def synchronousField : Parser (SynchronousLink → SynchronousLink) := do
  match ← fieldName synchronousFields "synchronous" with
  | .first =>
    let side ← outletSpec
    return fun l => { l with first := some side }
  | .second =>
    let side ← outletSpec
    return fun l => { l with second := some side }
  | .relationshipType =>
    let type ← string "relationship type"
    return fun l => { l with relationshipType := some type }
  | .periodStart =>
    let start ← date
    return fun l => { l with periodStart := some start }
  | .periodEnd =>
    let finish ← date
    return fun l => { l with periodEnd := some finish }
  | .period =>
    let range ← dateRange
    return fun l => { l with periodStart := some range.start, periodEnd := range.finish }
  | .details =>
    let details ← string "details"
    return fun l => { l with details := some details }
  | .createdBy =>
    let event ← name
    return fun l => { l with createdBy := some event }

/-- Reads what a synchronous link holds. -/
def synchronousItem : Parser (SynchronousLink → SynchronousLink) :=
  blockItem
    (do let c ← comment; return fun l => { l with comments := l.comments ++ [c] })
    (do let t ← tag; return fun l => { l with tags := l.tags ++ [t] })
    synchronousField

/-- Reads a synchronous link, after the keyword for one link or for several. -/
def synchronousLink : Parser SynchronousLink := do
  let start ← advance
  let label ← linkName
  let changes ← braced isNewline (do return [← synchronousItem])
  let _ ← accept (.mark .semicolon)
  return applyAll changes { name := label, position := start.position }

end MediaLanguage.Parser
