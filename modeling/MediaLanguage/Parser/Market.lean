import MediaLanguage.Ast.Market
import MediaLanguage.Parser.Block

/-!
# Market data

    data        ::= DATA FOR number { ((annotation | aggregation | year) separators | comment)* }
    aggregation ::= AGGREGATION =? { (name = expression separators)* }
    year        ::= YEAR number { ((metrics | comment = string | annotation) separators | comment)* }
    metrics     ::= METRICS { (name = { (name = expression separators)* } separators)* }
-/

namespace MediaLanguage.Parser

open Ast

/-- The text that is kept of a level: a number has six significant digits, a variable its sign. -/
def aggregationText : Expr → String
  | .string value _ => value
  | .number value _ => value.general
  | .boolean value _ => if value then "true" else "false"
  | .reference label _ => "$" ++ label
  | .object .. => objectPlaceholder

/-- Reads a level. -/
def aggregationField : Parser AggregationField := do
  let a ← assignment
  return { name := a.name, value := aggregationText a.value, position := a.position }

/-- Reads a block of levels. -/
def aggregation : Parser Aggregation := do
  let start ← keyword .aggregation
  let _ ← accept (.mark .assign)
  let fields ← braced isNewline (plainItem aggregationField)
  return { fields, position := start.position }

/-- Reads a figure. -/
def metric : Parser Metric := do
  let position := (← current).position
  let label ← name
  let _ ← mark .assign
  let attributes ← braced isNewline (plainItem assignment)
  return { name := label, attributes, position }

/-- Reads a block of figures. -/
def metrics : Parser Metrics := do
  let start ← keyword .metrics
  let fields ← braced isNewline (plainItem metric)
  return { fields, position := start.position }

/-- Reads what a year holds, other than comments. -/
def yearField : Parser YearBlock := do
  let token ← current
  if token.kind == .keyword .metrics then YearBlock.metrics <$> metrics
  else if token.kind == .identifier && Text.lower token.text == "comment" then
    let _ ← advance
    let _ ← mark .assign
    return .remark { value := ← string "year comment", position := token.position }
  else unexpected "'metrics' or 'comment'"

/-- Reads a year. -/
def year : Parser Year := do
  let start ← keyword .year
  let figure ← number "year"
  let blocks ← braced isNewline <|
    blockItem (do return [.comment (← comment)]) (do return [.comment (← tagComment)]) (do return [← yearField])
  return { year := figure, blocks, position := start.position }

/-- Reads what the data of an outlet hold, other than comments and annotations. -/
def dataField : Parser DataBlock := do
  match (← current).kind with
  | .keyword .aggregation => DataBlock.aggregation <$> aggregation
  | .keyword .year => DataBlock.year <$> year
  | _ => unexpected "data block"

/-- Reads the data of an outlet. -/
def data : Parser Data := do
  let start ← keyword .data
  let _ ← keyword .forOutlet
  let target ← number "outlet id"
  let blocks ← braced isNewline <|
    blockItem (do return [.comment (← comment)]) (do return [.tag (← tag)]) (do return [← dataField])
  return { target, blocks, position := start.position }

end MediaLanguage.Parser
