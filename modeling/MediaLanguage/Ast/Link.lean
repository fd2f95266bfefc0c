import MediaLanguage.Ast.Expr

/-!
# Links between outlets

A diachronic link leads from an outlet to its successor; a synchronous link connects two outlets that exist side by
side.
-/

namespace MediaLanguage.Ast

/-- One side of a synchronous link. -/
structure OutletSpec where
  outlet : Number
  role : Option String
  position : Position
deriving DecidableEq

/-- A link over time. -/
structure DiachronicLink where
  name : String
  predecessor : Option Number := none
  successor : Option Number := none
  relationshipType : Option String := none
  eventDate : Option DateRange := none
  triggeredBy : Option String := none
  tags : List Tag := []
  comments : List Comment := []
  position : Position
deriving DecidableEq

/-- A link at one time. -/
structure SynchronousLink where
  name : String
  first : Option OutletSpec := none
  second : Option OutletSpec := none
  relationshipType : Option String := none
  periodStart : Option Date := none
  periodEnd : Option Date := none
  details : Option String := none
  createdBy : Option String := none
  tags : List Tag := []
  comments : List Comment := []
  position : Position
deriving DecidableEq

/-- A link of either sort. -/
inductive Link where
  | diachronic (l : DiachronicLink)
  | synchronous (l : SynchronousLink)
deriving DecidableEq

end MediaLanguage.Ast
