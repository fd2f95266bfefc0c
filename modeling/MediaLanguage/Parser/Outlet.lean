import MediaLanguage.Parser.Link
import MediaLanguage.Parser.Market

/-!
# Outlets, templates and families

    family    ::= (FAMILY | group) string { (member | dividers)* }
    template  ::= TEMPLATE keyword? string blocks
    outlet    ::= OUTLET string (EXTENDS TEMPLATE string | BASED_ON number)? blocks
    reference ::= OUTLET_REF number ([ string ] | string) braces?
    blocks    ::= { (block | dividers)* }

The body of a reference is skipped.
-/

namespace MediaLanguage.Parser

open Ast

/-- Reads the blocks of an outlet or template. -/
def outletBody : Parser (List Block) :=
  braced isDivider (do return [← outletBlock])

/-- Reads the type of a template: a keyword in front of its name, if there is one. -/
def templateType : Parser String := do
  match (← current).kind with
  | .keyword word =>
    let _ ← advance
    return Text.upper word.spelling
  | _ => return "OUTLET"

/-- Reads a template. -/
def template : Parser Template := do
  let start ← keyword .template
  let type ← templateType
  let label ← string "template name"
  return { name := label, type, blocks := ← outletBody, position := start.position }

/-- Reads what an outlet takes over, if anything. -/
def inheritance : Parser (Option Inheritance) := do
  let position := (← current).position
  if ← accept (.keyword .extending) then
    let _ ← keyword .template
    return some (.template (← string "template name") position)
  else if ← accept (.keyword .basedOn) then
    return some (.outlet (← number "outlet id") position)
  else return none

/-- Reads an outlet. -/
def outlet : Parser Outlet := do
  let start ← keyword .outlet
  let label ← string "outlet name"
  let inherited ← inheritance
  return { name := label, inheritance := inherited, blocks := ← outletBody, position := start.position }

/-- Reads the name of an outlet that is mentioned, perhaps in brackets. -/
def outletLabel : Parser String := do
  if ← accept (.mark .openBracket) then
    let label ← string "outlet name"
    let _ ← mark .closeBracket
    return label
  else string "outlet name"

/-- Reads a mention of an outlet. -/
def outletReference : Parser OutletReference := do
  let start ← keyword .outletRef
  let id ← number "outlet id"
  let label ← outletLabel
  skipWhile isNewline
  skipBracesIfAny
  return { outlet := id, name := label, position := start.position }

/-- Reads a member of a family. -/
def familyMember : Parser FamilyMember := do
  match (← current).kind with
  | .keyword .outlet => FamilyMember.outlet <$> outlet
  | .keyword .outletRef => FamilyMember.reference <$> outletReference
  | .keyword .data => FamilyMember.data <$> data
  | .keyword .diachronicLink => (FamilyMember.link ∘ .diachronic) <$> diachronicLink
  | .keyword .synchronousLink | .keyword .synchronousLinks => (FamilyMember.link ∘ .synchronous) <$> synchronousLink
  | .comment | .blockComment => FamilyMember.comment <$> comment
  | .tag => FamilyMember.comment <$> tagComment
  | _ => unexpected "family member"

/-- Reads a family, after the keyword or the word that stands for it. -/
def family : Parser Family := do
  let start ← advance
  let label ← string "family name"
  let members ← braced isDivider (do return [← familyMember])
  return { name := label, members, position := start.position }

end MediaLanguage.Parser
