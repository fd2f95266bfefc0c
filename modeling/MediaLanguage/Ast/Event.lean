import MediaLanguage.Ast.Expr

/-!
# Events and catalogs
-/

namespace MediaLanguage.Ast

/-- An outlet that takes part in an event. -/
structure EventEntity where
  name : String
  outlet : Option Number := none
  role : Option String := none
  stakeBefore : Option Number := none
  stakeAfter : Option Number := none
  position : Position
deriving DecidableEq

/-- Something that happened to outlets. -/
structure Event where
  name : String
  type : Option String := none
  date : Option Date := none
  status : Option String := none
  entities : List EventEntity := []
  impact : List Assignment := []
  metadata : List Assignment := []
  tags : List Tag := []
  comments : List Comment := []
  position : Position

/-- A named group of assignments. -/
structure NestedAssignment where
  name : String
  fields : List Field
  position : Position

/-- What a source holds. -/
inductive SourceField where
  | assignment (a : Assignment)
  | nested (a : NestedAssignment)
  | tag (t : Tag)
  | comment (c : Comment)

/-- A source of data. -/
structure Source where
  name : String
  fields : List SourceField
  position : Position

/-- A list of sources. -/
structure Catalog where
  name : String
  sources : List Source
  position : Position

end MediaLanguage.Ast
