import MediaLanguage.Ast.Outlet
import MediaLanguage.Parser.Declaration

/-!
# Blocks of outlets and templates

    block           ::= identity | lifecycle | characteristics | metadata | comment | annotation | name = expression
    identity        ::= IDENTITY { (name = ([ object (, object)* ] | expression) separators)* }
    lifecycle       ::= LIFECYCLE { (entry separators)* }
    entry           ::= STATUS string FROM date (TO date)? { (name = expression separators)* }
    characteristics ::= CHARACTERISTICS { (name = (string braces? | braces | expression) separators)* }
    metadata        ::= METADATA { (name = expression separators)* }

Bodies in braces among the characteristics are skipped. A characteristic whose value cannot be read is passed over up
to a semicolon or closing brace, and is no error.
-/

namespace MediaLanguage.Parser

open Ast

/-! ## Identity -/

/-- Reads a field of an identity block that is no comment. -/
def identityField : Parser IdentityField := do
  let position := (← current).position
  let label ← name
  let _ ← mark .assign
  if ← accept (.mark .openBracket) then
    return .array { name := label, values := ← commaList .closeBracket object, position }
  else return .assignment { name := label, value := ← expression, position }

/-- Reads an identity block. -/
def identityBlock : Parser Identity := do
  let start ← keyword .identity
  let fields ← braced isNewline <|
    blockItem (do return [.comment (← comment)]) (do return [.comment (← tagComment)]) (do return [← identityField])
  return { fields, position := start.position }

/-! ## Lifecycle -/

/-- Reads an attribute of a status; semicolons and commas may follow a comment too. -/
def lifecycleAttribute : Parser Field := do
  let kind := (← current).kind
  let field ←
    if kind.isComment then Field.comment <$> comment
    else if kind == .tag then Field.comment <$> tagComment
    else Field.assignment <$> assignment
  skipSeparators
  return field

/-- Reads a status. -/
def lifecycleEntry : Parser LifecycleEntry := do
  let token ← keyword .status
  let status ← string "status name"
  let _ ← keyword .fromDate
  let start ← date
  let finish ← periodEnd
  let attributes ← braced isNewline (do return [← lifecycleAttribute])
  return { status, start, finish, attributes, position := token.position }

/-- Reads a lifecycle block. -/
def lifecycleBlock : Parser Lifecycle := do
  let start ← keyword .lifecycle
  let entries ← braced isTrivia (untaggedItem lifecycleEntry skipSeparators)
  return { entries, position := start.position }

/-! ## Characteristics and metadata -/

/-- What stands for the value of a characteristic that is an object. -/
def objectPlaceholder : String := "complex_object"

/-- Where the value of a characteristic that cannot be read ends. -/
def endsCharacteristic (k : Kind) : Bool :=
  k == .mark .semicolon || k == .mark .closeBrace

/-- Passes over the value of a characteristic that cannot be read; a number that cannot be converted stays a failure. -/
def passOver : Failure → Parser (Option Expr)
  | .grammar _ => do
    skipWhile fun k => !endsCharacteristic k
    return none
  | .conversion e => throw (.conversion e)

/-- Reads the value of a characteristic, or passes over it. -/
def characteristicValue : Parser (Option Expr) := do
  let token ← current
  match token.lexeme with
  | .string value =>
    let _ ← advance
    skipBracesIfAny
    return some (.string value token.position)
  | .mark .openBrace =>
    skipBraces
    return some (.string objectPlaceholder token.position)
  | _ => tryCatch (some <$> expression) passOver

/-- Reads a characteristic, or passes over one. -/
def characteristic : Parser (Option Assignment) := do
  let position := (← current).position
  let label ← name
  let _ ← mark .assign
  return (← characteristicValue).map fun value => { name := label, value, position }

/-- Reads a block of characteristics. -/
def characteristicsBlock : Parser FieldBlock := do
  let start ← keyword .characteristics
  let fields ← braced isNewline <|
    blockItem (do return [.comment (← comment)]) (do return [.comment (← tagComment)])
      (do return (← characteristic).toList.map .assignment)
  return { fields, position := start.position }

/-- Reads a block of metadata. -/
def metadataBlock : Parser FieldBlock := do
  let start ← keyword .metadata
  let fields ← braced isNewline keptField
  return { fields, position := start.position }

/-! ## Blocks -/

/-- Reads a block; a field that stands alone is an identity block of its own. -/
def outletBlock : Parser Block := do
  let token ← current
  match token.kind with
  | .comment | .blockComment => Block.comment <$> comment
  | .tag => Block.comment <$> tagComment
  | .keyword .identity => Block.identity <$> identityBlock
  | .keyword .lifecycle => Block.lifecycle <$> lifecycleBlock
  | .keyword .characteristics => Block.characteristics <$> characteristicsBlock
  | .keyword .metadata => Block.metadata <$> metadataBlock
  | kind =>
    if (kind == .identifier || kind == .keyword .id) && (← next).kind == .mark .assign then
      return .identity { fields := [← identityField], position := token.position }
    else unexpected "outlet block"

end MediaLanguage.Parser
