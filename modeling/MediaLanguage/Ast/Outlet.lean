import MediaLanguage.Ast.Link
import MediaLanguage.Ast.Market
import MediaLanguage.Text.Case

/-!
# Outlets, templates and families
-/

namespace MediaLanguage.Ast

/-- A name with a list of objects. -/
structure ArrayAssignment where
  name : String
  values : List ObjectLiteral
  position : Position

/-- What an identity block holds. -/
inductive IdentityField where
  | assignment (a : Assignment)
  | array (a : ArrayAssignment)
  | comment (c : Comment)

/-- Names and numbers that identify an outlet. -/
structure Identity where
  fields : List IdentityField
  position : Position

/-- A status of an outlet and its time. -/
structure LifecycleEntry where
  status : String
  start : Date
  finish : Option Date
  attributes : List Field
  position : Position

/-- The statuses of an outlet. -/
structure Lifecycle where
  entries : List LifecycleEntry
  position : Position

/-- A block of assignments: characteristics or metadata. -/
structure FieldBlock where
  fields : List Field
  position : Position

/-- A block of an outlet or template. -/
inductive Block where
  | identity (b : Identity)
  | lifecycle (b : Lifecycle)
  | characteristics (b : FieldBlock)
  | metadata (b : FieldBlock)
  | comment (c : Comment)

/-- What an outlet takes over. -/
inductive Inheritance where
  | template (name : String) (position : Position)
  | outlet (id : Number) (position : Position)
deriving DecidableEq

/-- A media outlet. -/
structure Outlet where
  name : String
  inheritance : Option Inheritance
  blocks : List Block
  position : Position

/-- A pattern for outlets. -/
structure Template where
  name : String
  type : String
  blocks : List Block
  position : Position

/-- A mention of an outlet that is declared elsewhere. -/
structure OutletReference where
  outlet : Number
  name : String
  position : Position
deriving DecidableEq

/-- What a family holds. -/
inductive FamilyMember where
  | outlet (o : Outlet)
  | reference (r : OutletReference)
  | data (d : Data)
  | link (l : Link)
  | comment (c : Comment)

/-- A family of outlets. -/
structure Family where
  name : String
  members : List FamilyMember
  position : Position

namespace Identity

/-- The assignments of an identity block. -/
def assignments (b : Identity) : List Assignment :=
  b.fields.filterMap fun
    | .assignment a => some a
    | _ => none

/-- The first assignment with a name in lower case. -/
def assignment? (b : Identity) (name : String) : Option Assignment :=
  b.assignments.find? fun a => Text.lower a.name == name

end Identity

/-- The identity blocks among some blocks. -/
def identities (blocks : List Block) : List Identity :=
  blocks.filterMap fun
    | .identity b => some b
    | _ => none

/-- The number that an identity block gives as the `id` of its outlet, if the first `id` of the block is a number. -/
def Identity.idNumber? (b : Identity) : Option Number :=
  match b.assignment? "id" with
  | some ⟨_, .number x _, _⟩ => some x
  | _ => none

/-- The number that identifies an outlet: the first that one of its identity blocks gives. -/
def Outlet.idNumber? (o : Outlet) : Option Number :=
  (identities o.blocks).findSome? Identity.idNumber?

/-- The outlets that a family declares. -/
def Family.outlets (f : Family) : List Outlet :=
  f.members.filterMap fun
    | .outlet o => some o
    | _ => none

end MediaLanguage.Ast
