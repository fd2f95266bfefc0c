import MediaLanguage.Anmi.Schema

/-!
# Rows of outlets

A row of an outlet is gathered from its blocks; of several fields that give the same column the last counts. Numbers
in columns of integers lose their fraction, and have to be finite.
-/

namespace MediaLanguage.Anmi

open Model Sql

/-- What does not change about an outlet. -/
structure OutletRow where
  id : Int
  title : String
  sector : Option Int := none
  mandate : Option Int := none
  location : Option String := none
  distributionArea : Option Int := none
  local? : Option Int := none
  language : Option String := none
  startDate : Option String := none
  endDate : Option String := none
  editorialLine : Option String := none
  comments : Option String := none

namespace OutletRow

/-- The row with what an identity field gives: the number, or the title. -/
def addIdentity (row : OutletRow) (f : Assignment) : OutletRow :=
  match Text.lower f.name, f.value with
  | "id", .number x => { row with id := x.integerPart }
  | "name", .string s => { row with title := s }
  | _, _ => row

/-- The row with what a characteristic gives. -/
def addCharacteristic (row : OutletRow) (f : Assignment) : OutletRow :=
  match Text.lower f.name, f.value with
  | "sector", .number x => { row with sector := some x.integerPart }
  | "mandate", .number x => { row with mandate := some x.integerPart }
  | "primary_distribution_area", .number x => { row with distributionArea := some x.integerPart }
  | "local", .number x => { row with local? := some x.integerPart }
  | "location", .string s => { row with location := some s }
  | "language", .string s => { row with language := some s }
  | _, _ => row

/-- The row with what a field of the metadata gives. -/
def addMetadata (row : OutletRow) (f : Assignment) : OutletRow :=
  match Text.lower f.name, f.value with
  | "editorial_line", .string s => { row with editorialLine := some s }
  | "comments", .string s => { row with comments := some s }
  | _, _ => row

/-- The row with what a block gives; of a lifecycle the first status counts. -/
def addBlock (row : OutletRow) : Block → OutletRow
  | .identity fields => fields.foldl addIdentity row
  | .characteristics fields => fields.foldl addCharacteristic row
  | .lifecycle [] => row
  | .lifecycle (s :: _) => { row with startDate := s.startDate, endDate := s.endDate }
  | .metadata fields => fields.foldl addMetadata row

/-- The row of an outlet. -/
def ofOutlet (o : Outlet) : OutletRow :=
  o.blocks.foldl addBlock { id := o.id.getD 0, title := o.name }

/-- The names of the columns. -/
def columns : List String :=
  ["id_mo", "mo_title", "id_sector", "mandate", "location", "primary_distr_area", "local", "language", "start_date",
    "end_date", "editorial_line_s", "comments"]

/-- The values of the columns. -/
def values (r : OutletRow) : List Term :=
  [.integer r.id, .text r.title, .optionalInteger r.sector, .optionalInteger r.mandate, .optional r.location,
    .optionalInteger r.distributionArea, .optionalInteger r.local?, .optional r.language, .optional r.startDate,
    .optional r.endDate, .optional r.editorialLine, .optional r.comments]

/-- The statement for a row. -/
def statement (r : OutletRow) : Statement :=
  .row (qualified "mo_constant") columns r.values

end OutletRow

/-- The number that a field holds. -/
def fieldNumber? (f : Assignment) : Option Number :=
  match f.value with
  | .number x => some x
  | _ => none

/-- The numbers of a block that have to be integers: those of the identity that are called `id`, and all
characteristics. -/
def blockIntegers : Block → List Number
  | .identity fields => (fields.filter fun f => Text.lower f.name == "id").filterMap fieldNumber?
  | .characteristics fields => fields.filterMap fieldNumber?
  | .lifecycle _ | .metadata _ => []

/-- The numbers of an outlet that have to be integers. -/
def outletIntegers (o : Outlet) : List Number :=
  o.blocks.flatMap blockIntegers

end MediaLanguage.Anmi
