import MediaLanguage.Parser.Basic

/-!
# Expressions and dates

    expression ::= $ name | string | number | boolean | object
    object     ::= { (name = (string TO date | expression) separators)* }
    date       ::= string | CURRENT

A string literal with `TO` after it begins a period. Objects nest; each level reads at least the opening brace, so
the number of tokens that are left bounds the depth.
-/

namespace MediaLanguage.Parser

open Ast

/-- Reads a date. -/
def date : Parser Date := do
  let token ← current
  match token.lexeme with
  | .keyword .current =>
    let _ ← advance
    return .current token.position
  | .string value =>
    let _ ← advance
    return .day value token.position
  | _ => unexpected "date string or CURRENT"

/-- Reads the end of a period, if there is one. -/
def periodEnd : Parser (Option Date) := do
  if ← accept (.keyword .toDate) then some <$> date else return none

/-- Reads a date and perhaps the end of a period. -/
def dateRange : Parser DateRange := do
  let start ← date
  return ⟨start, ← periodEnd⟩

/-- Reads a member of an object; `value` reads its value. -/
def member (value : Parser Expr) : Parser Member := do
  let position := (← current).position
  let label ← name
  let _ ← mark .assign
  let token ← current
  match token.lexeme, (← next).kind with
  | .string text, .keyword .toDate =>
    let _ ← advance
    let _ ← advance
    return .period label ⟨.day text token.position, some (← date)⟩ position
  | _, _ => return .assignment label (← value) position

/-- Reads an object; `value` reads the values in it. -/
def objectOf (value : Parser Expr) : Parser ObjectLiteral := do
  let position := (← current).position
  let members ← braced isTrivia do
    let m ← member value
    skipSeparators
    return [m]
  return ⟨members, position⟩

/-- Reads an expression with at most `depth` levels of objects. -/
def expressionWithin : Nat → Parser Expr
  | 0 => unexpected "expression"
  | depth + 1 => do
    let token ← current
    match token.lexeme with
    | .mark .dollar =>
      let _ ← advance
      return .reference (← name) token.position
    | .string value =>
      let _ ← advance
      return .string value token.position
    | .number value =>
      let _ ← advance
      return .number value token.position
    | .boolean value =>
      let _ ← advance
      return .boolean value token.position
    | .mark .openBrace => return (← objectOf (expressionWithin depth)).toExpr
    | _ => unexpected "expression"

/-- Reads an expression. -/
def expression : Parser Expr := do
  expressionWithin ((← get).rest.length + 1)

/-- Reads an object. -/
def object : Parser ObjectLiteral := do
  objectOf (expressionWithin ((← get).rest.length + 1))

/-- Reads a name, a sign and a value. -/
def assignment : Parser Assignment := do
  let position := (← current).position
  let label ← name
  let _ ← mark .assign
  return { name := label, value := ← expression, position }

/-- Reads assignments in braces. -/
def assignments : Parser (List Assignment) :=
  braced isTrivia do
    let a ← assignment
    skipSeparators
    return [a]

/-- A field of a block that keeps comments, and keeps annotations as comments. -/
def keptField : Parser (List Field) :=
  blockItem (do return [.comment (← comment)]) (do return [.comment (← tagComment)])
    (do return [.assignment (← assignment)])

end MediaLanguage.Parser
