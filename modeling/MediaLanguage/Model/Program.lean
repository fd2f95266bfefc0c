import MediaLanguage.Ast.Declaration
import MediaLanguage.Model.Value

/-!
# Models

A model is what a program says, sorted by kind and free of places: the form from which every output is generated.
Well-known keys have fields of their own, numbers of outlets are integers, and links and data that a program declares
outside its families belong to a family.
-/

namespace MediaLanguage.Model

/-! ## Units and vocabularies -/

/-- A column of a unit. -/
structure Column where
  name : String
  type : FieldType
  primaryKey : Bool := false

/-- A unit: a table with typed columns. -/
structure UnitTable where
  name : String
  columns : List Column := []

/-- A key of a vocabulary and its meaning. -/
structure VocabularyEntry where
  key : VocabularyKey
  value : String

/-- A vocabulary, with the entries of all its bodies and the name of the first. -/
structure Vocabulary where
  name : String
  bodyName : String
  entries : List VocabularyEntry := []

/-! ## Market data -/

/-- The level at which a figure was collected. -/
structure AggregationLevel where
  name : String
  value : String

/-- A figure of a year. -/
structure Metric where
  name : String
  value : Number := .zero
  unit : String := ""
  source : String := ""
  comment : Option String := none

/-- The figures of a year. -/
structure Year where
  year : Int
  metrics : List Metric := []
  comment : Option String := none

/-- The data of an outlet. -/
structure DataBlock where
  outlet : Int
  aggregation : List AggregationLevel := []
  years : List Year := []
  mapsTo : Option String := none

/-! ## Links -/

/-- A link over time. -/
structure DiachronicLink where
  name : String
  predecessor : Int := 0
  successor : Int := 0
  eventStart : Option String := none
  eventEnd : Option String := none
  relationshipType : String := ""
  comment : Option String := none
  mapsTo : Option String := none

/-- One side of a synchronous link. -/
structure Side where
  outlet : Int := 0
  role : String := ""

/-- A link at one time. -/
structure SynchronousLink where
  name : String
  first : Side := {}
  second : Side := {}
  relationshipType : String := ""
  periodStart : Option String := none
  periodEnd : Option String := none
  details : Option String := none
  mapsTo : Option String := none

/-- A link of either sort. -/
inductive Link where
  | diachronic (l : DiachronicLink)
  | synchronous (l : SynchronousLink)

/-- The name of a link. -/
def Link.name : Link → String
  | .diachronic l => l.name
  | .synchronous l => l.name

/-! ## Outlets -/

/-- A status of an outlet and its time. -/
structure Status where
  status : String
  startDate : Option String := none
  endDate : Option String := none
  precisionStart : Option String := none
  precisionEnd : Option String := none
  comment : Option String := none

/-- A block of an outlet. -/
inductive Block where
  | identity (fields : List Assignment)
  | lifecycle (statuses : List Status)
  | characteristics (fields : List Assignment)
  | metadata (fields : List Assignment)

/-- A block of a template. -/
inductive TemplateBlock where
  | characteristics (fields : List Assignment)
  | metadata (fields : List Assignment)

/-- The word for a block of an outlet. -/
def Block.kind : Block → String
  | .identity _ => "identity"
  | .lifecycle _ => "lifecycle"
  | .characteristics _ => "characteristics"
  | .metadata _ => "metadata"

/-- The fields of a block of an outlet; a lifecycle has none. -/
def Block.fields : Block → List Assignment
  | .identity fields | .characteristics fields | .metadata fields => fields
  | .lifecycle _ => []

/-- The word for a block of a template. -/
def TemplateBlock.kind : TemplateBlock → String
  | .characteristics _ => "characteristics"
  | .metadata _ => "metadata"

/-- The fields of a block of a template. -/
def TemplateBlock.fields : TemplateBlock → List Assignment
  | .characteristics fields | .metadata fields => fields

/-- A pattern for outlets. -/
structure Template where
  name : String
  type : String := "OUTLET"
  blocks : List TemplateBlock := []

/-- A media outlet. What it takes over is named, not filled in. -/
structure Outlet where
  name : String
  id : Option Int := none
  templateRef : Option String := none
  baseRef : Option Int := none
  blocks : List Block := []

/-- A family of outlets. -/
structure Family where
  name : String
  comment : Option String := none
  outlets : List Outlet := []
  links : List Link := []
  data : List DataBlock := []

/-! ## Events -/

/-- An outlet that takes part in an event. -/
structure EventEntity where
  name : String
  outlet : Int := 0
  role : String := ""
  stakeBefore : Option Number := none
  stakeAfter : Option Number := none

/-- Something that happened to outlets. -/
structure Event where
  name : String
  type : String := ""
  date : Option String := none
  entities : List EventEntity := []
  impact : List Assignment := []
  metadata : List Assignment := []
  status : Option String := none

/-! ## Programs -/

/-- A whole model. -/
structure Program where
  imports : List String := []
  /-- The variables with their values. -/
  bindings : List Assignment := []
  templates : List Template := []
  units : List UnitTable := []
  vocabularies : List Vocabulary := []
  families : List Family := []
  events : List Event := []

/-- The characteristics of a template. -/
def Template.characteristics (t : Template) : List Assignment :=
  t.blocks.flatMap fun
    | .characteristics fields => fields
    | _ => []

namespace Outlet

/-- The identity fields of an outlet. -/
def identity (o : Outlet) : List Assignment :=
  o.blocks.flatMap fun
    | .identity fields => fields
    | _ => []

/-- The first identity value with a name in lower case. -/
def identityValue? (o : Outlet) (name : String) : Option Value :=
  valueOf? o.identity name

/-- The statuses of an outlet. -/
def lifecycle (o : Outlet) : List Status :=
  o.blocks.flatMap fun
    | .lifecycle statuses => statuses
    | _ => []

/-- The characteristics of an outlet. -/
def characteristics (o : Outlet) : List Assignment :=
  o.blocks.flatMap fun
    | .characteristics fields => fields
    | _ => []

/-- The metadata of an outlet. -/
def metadata (o : Outlet) : List Assignment :=
  o.blocks.flatMap fun
    | .metadata fields => fields
    | _ => []

end Outlet

namespace Program

/-- The outlets, family by family, each with its family. -/
def familyOutlets (p : Program) : List (Family × Outlet) :=
  p.families.flatMap fun f => f.outlets.map fun o => (f, o)

/-- The outlets, family by family. -/
def outlets (p : Program) : List Outlet :=
  p.families.flatMap Family.outlets

/-- The links, family by family. -/
def links (p : Program) : List Link :=
  p.families.flatMap Family.links

/-- The diachronic links, family by family. -/
def diachronicLinks (p : Program) : List DiachronicLink :=
  p.links.filterMap fun
    | .diachronic l => some l
    | .synchronous _ => none

/-- The synchronous links, family by family. -/
def synchronousLinks (p : Program) : List SynchronousLink :=
  p.links.filterMap fun
    | .synchronous l => some l
    | .diachronic _ => none

/-- The data, family by family. -/
def data (p : Program) : List DataBlock :=
  p.families.flatMap Family.data

/-- The first vocabulary with a name. -/
def vocabulary? (p : Program) (name : String) : Option Vocabulary :=
  p.vocabularies.find? fun v => v.name == name

end Program

end MediaLanguage.Model
