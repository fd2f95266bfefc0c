import MediaLanguage.Number.Basic
import MediaLanguage.Position

/-!
# Comments, dates and expressions

The parts that the declarations of the language are made of. Every node keeps the place of its first token.
-/

namespace MediaLanguage.Ast

/-- A comment that is kept with the declarations around it. -/
structure Comment where
  text : String
  multiline : Bool := false
  position : Position
deriving DecidableEq

/-- An annotation: a name after an at-sign, and perhaps a text. -/
structure Tag where
  name : String
  value : Option String
  position : Position
deriving DecidableEq

/-- A date: a literal, which is not interpreted, or the open end of a period. -/
inductive Date where
  | day (text : String) (position : Position)
  | current (position : Position)
deriving DecidableEq

namespace Date

/-- The place of a date. -/
def position : Date → Position
  | .day _ position | .current position => position

/-- The text of a date: the literal, or the word for the open end. -/
def text : Date → String
  | .day text _ => text
  | .current _ => "CURRENT"

end Date

/-- A date, or a period from one date to another. -/
structure DateRange where
  start : Date
  finish : Option Date
deriving DecidableEq

/-- A range starts where its first date does. -/
def DateRange.position (r : DateRange) : Position :=
  r.start.position

mutual

/-- A value on the right of an assignment. -/
inductive Expr where
  | string (value : String) (position : Position)
  | number (value : Number) (position : Position)
  | boolean (value : Bool) (position : Position)
  /-- A use of a variable. -/
  | reference (name : String) (position : Position)
  | object (members : List Member) (position : Position)

/-- A member of an object: a value, or a period of time. -/
inductive Member where
  | assignment (name : String) (value : Expr) (position : Position)
  | period (name : String) (range : DateRange) (position : Position)

end

/-- An object in braces. -/
structure ObjectLiteral where
  members : List Member
  position : Position

/-- An object as a value. -/
def ObjectLiteral.toExpr (o : ObjectLiteral) : Expr :=
  .object o.members o.position

/-- The place of an expression. -/
def Expr.position : Expr → Position
  | .string _ p | .number _ p | .boolean _ p | .reference _ p | .object _ p => p

mutual

/-- The expression and every expression inside it, each before those inside it. -/
def Expr.walk : Expr → List Expr
  | .object members position => .object members position :: walkMembers members
  | e => [e]

/-- The expressions inside the members of an object. -/
def walkMembers : List Member → List Expr
  | [] => []
  | .assignment _ value _ :: members => value.walk ++ walkMembers members
  | .period .. :: members => walkMembers members

end

/-- A name with a value. -/
structure Assignment where
  name : String
  value : Expr
  position : Position

/-- An assignment of a block, or a comment between the assignments. -/
inductive Field where
  | assignment (a : Assignment)
  | comment (c : Comment)

/-- The assignment that a field is, if it is one. -/
def Field.assignment? : Field → Option Assignment
  | .assignment a => some a
  | .comment _ => none

end MediaLanguage.Ast
