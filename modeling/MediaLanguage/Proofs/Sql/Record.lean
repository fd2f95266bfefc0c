import Mathlib
import MediaLanguage.Proofs.Sql.Soundness
import MediaLanguage.Sql.Script

/-!
# The data sections say what the model says

The sections for links, market data and events hold rows only. A row is read into a record by the names of its columns:
integers as integers, other numbers as they are written, literals as their texts, and `NULL` as nothing. What is read in
the text of a section are the records of the model, one for each row and in the order of the model, whatever the texts
of the model hold.

* `Says`: what the rows of a script say, record by record; scripts are put together from parts that say something.
* `readRecords_render`: what is read in the text of a script is what its rows say.
* `readRecords_sections`: the records of the three sections.
-/

namespace MediaLanguage.Sql

open Model

/-! ## Records -/

/-- What a row of the data sections says. -/
inductive Record where
  /-- A link, its sort, and the family it belongs to. -/
  | link (name kind family : String)
  /-- What is particular to a link. -/
  | details (l : Link)
  /-- The level at which figures of an outlet were collected. -/
  | level (outlet : Int) (l : AggregationLevel)
  /-- A figure of an outlet and year, its value as it is written. -/
  | figure (outlet year : Int) (name value unit source : String) (comment mapsTo : Option String)
  | event (number : Int) (name type : String) (date status : Option String)
  /-- An outlet that takes part in the event of a number. -/
  | entity (event : Int) (name : String) (outlet : Int) (role : String) (stakeBefore stakeAfter : Option String)
  /-- What the event of a number changes. -/
  | impact (event : Int) (name value : String)
  /-- A field of the metadata of the event of a number. -/
  | metadata (event : Int) (name value : String)

namespace Cell

def text? : Cell → Option String
  | .text value => some value
  | _ => none

def number? : Cell → Option String
  | .number value => some value
  | _ => none

def integer? (c : Cell) : Option Int :=
  c.number?.bind String.toInt?

/-- The value by which a row of a table is referred to. -/
def key? (table column : String) : Cell → Option String
  | .lookup t c value => if t = table ∧ c = column then some value else none
  | _ => none

/-- A value that may be missing. -/
def optional {α : Type} (read : Cell → Option α) : Cell → Option (Option α)
  | .missing => some none
  | c => (read c).map some

end Cell

namespace Row

def get? {α : Type} (r : Row) (column : String) (read : Cell → Option α) : Option α :=
  (r.cells.lookup column).bind read

def linkName? (r : Row) : Option String :=
  r.get? "relationship_id" (Cell.key? "relationships" "relationship_name")

def link? (r : Row) : Option Record := do
  let name ← r.get? "relationship_name" Cell.text?
  let kind ← r.get? "relationship_type" Cell.text?
  let family ← r.get? "family_id" (Cell.key? "families" "name")
  return .link name kind family

def diachronic? (r : Row) : Option Record := do
  let name ← r.linkName?
  let predecessor ← r.get? "predecessor_id" Cell.integer?
  let successor ← r.get? "successor_id" Cell.integer?
  let eventStart ← r.get? "event_start_date" (Cell.optional Cell.text?)
  let eventEnd ← r.get? "event_end_date" (Cell.optional Cell.text?)
  let relationshipType ← r.get? "relationship_subtype" Cell.text?
  let comment ← r.get? "comment" (Cell.optional Cell.text?)
  let mapsTo ← r.get? "maps_to" (Cell.optional Cell.text?)
  return .details (.diachronic { name, predecessor, successor, eventStart, eventEnd
                                 relationshipType, comment, mapsTo })

def synchronous? (r : Row) : Option Record := do
  let name ← r.linkName?
  let firstOutlet ← r.get? "outlet_1_id" Cell.integer?
  let firstRole ← r.get? "outlet_1_role" Cell.text?
  let secondOutlet ← r.get? "outlet_2_id" Cell.integer?
  let secondRole ← r.get? "outlet_2_role" Cell.text?
  let relationshipType ← r.get? "relationship_subtype" Cell.text?
  let periodStart ← r.get? "period_start" (Cell.optional Cell.text?)
  let periodEnd ← r.get? "period_end" (Cell.optional Cell.text?)
  let details ← r.get? "details" (Cell.optional Cell.text?)
  let mapsTo ← r.get? "maps_to" (Cell.optional Cell.text?)
  return .details (.synchronous { name, first := ⟨firstOutlet, firstRole⟩, second := ⟨secondOutlet, secondRole⟩
                                  relationshipType, periodStart, periodEnd, details, mapsTo })

def level? (r : Row) : Option Record := do
  let outlet ← r.get? "outlet_id" Cell.integer?
  let name ← r.get? "aggregation_name" Cell.text?
  let value ← r.get? "aggregation_value" Cell.text?
  return .level outlet ⟨name, value⟩

def figure? (r : Row) : Option Record := do
  let outlet ← r.get? "outlet_id" Cell.integer?
  let year ← r.get? "data_year" Cell.integer?
  let name ← r.get? "metric_name" Cell.text?
  let value ← r.get? "metric_value" Cell.number?
  let unit ← r.get? "metric_unit" Cell.text?
  let source ← r.get? "data_source" Cell.text?
  let comment ← r.get? "comment" (Cell.optional Cell.text?)
  let mapsTo ← r.get? "maps_to" (Cell.optional Cell.text?)
  return .figure outlet year name value unit source comment mapsTo

def event? (r : Row) : Option Record := do
  let number ← r.get? "id" Cell.integer?
  let name ← r.get? "name" Cell.text?
  let type ← r.get? "event_type" Cell.text?
  let date ← r.get? "event_date" (Cell.optional Cell.text?)
  let status ← r.get? "status" (Cell.optional Cell.text?)
  return .event number name type date status

def entity? (r : Row) : Option Record := do
  let event ← r.get? "event_id" Cell.integer?
  let name ← r.get? "entity_name" Cell.text?
  let outlet ← r.get? "entity_id" Cell.integer?
  let role ← r.get? "entity_role" Cell.text?
  let stakeBefore ← r.get? "stake_before" (Cell.optional Cell.number?)
  let stakeAfter ← r.get? "stake_after" (Cell.optional Cell.number?)
  return .entity event name outlet role stakeBefore stakeAfter

def eventField? (column : String) (make : Int → String → String → Record) (r : Row) : Option Record := do
  let event ← r.get? "event_id" Cell.integer?
  let name ← r.get? (column ++ "_name") Cell.text?
  let value ← r.get? (column ++ "_value") Cell.text?
  return make event name value

/-- The tables of the data sections: how many columns a row names, and what it says. -/
def readers : List (String × Nat × (Row → Option Record)) :=
  [("relationships", 3, link?),
   ("diachronic_relationships", 8, diachronic?),
   ("synchronous_relationships", 10, synchronous?),
   ("data_aggregation", 3, level?),
   ("market_data", 8, figure?),
   ("events", 5, event?),
   ("event_entities", 6, entity?),
   ("event_impact", 3, eventField? "impact" .impact),
   ("event_metadata", 3, eventField? "metadata" .metadata)]

/-- What a row says. A row of another table, or with other columns, says nothing. -/
def record? (r : Row) : Option Record :=
  (readers.lookup r.table).bind fun (width, read) => if r.cells.length = width then read r else none

end Row

/-- What the rows of a text say, if all of them say something. -/
def readRecords (s : String) : Option (List Record) :=
  (readRows s).bind (·.mapM Row.record?)

/-! ## Records of a model -/

/-- The records of the links: for each link one for the link and one for what is particular to it. -/
def linkRecords (p : Program) : List Record :=
  p.families.flatMap fun f => f.links.flatMap fun l => [.link l.name (linkKind l) f.name, .details l]

/-- The records of the data of an outlet: one for each level, and one for each figure of each year. -/
def dataBlockRecords (d : DataBlock) : List Record :=
  d.aggregation.map (Record.level d.outlet)
    ++ d.years.flatMap fun y => y.metrics.map fun m =>
      Record.figure d.outlet y.year m.name m.value.text m.unit m.source m.comment d.mapsTo

/-- The records of all data. -/
def dataRecords (p : Program) : List Record :=
  p.data.flatMap dataBlockRecords

/-- The records of an event: one for the event, and one for each entity, change and field, with its number. -/
def singleEventRecords (e : Event) (number : Nat) : List Record :=
  Record.event number e.name e.type e.date e.status
    :: e.entities.map (fun x =>
      .entity number x.name x.outlet x.role (x.stakeBefore.map Number.text) (x.stakeAfter.map Number.text))
    ++ e.impact.map (fun a => Record.impact number a.name a.value.text)
    ++ e.metadata.map fun a => Record.metadata number a.name a.value.text

/-- The records of all events, which are numbered from one. -/
def eventRecords (p : Program) : List Record :=
  (p.events.zipIdx 1).flatMap fun (e, number) => singleEventRecords e number

/-! ## What values are read as -/

section Cells

@[simp] theorem text?_text (s : String) : (Term.text s).cell.text? = some s := rfl

@[simp] theorem text?_ofValue (v : Value) : (Term.ofValue v).cell.text? = some v.text := rfl

@[simp] theorem number?_number (x : Number) : (Term.number x).cell.number? = some x.text := rfl

@[simp] theorem integer?_integer (k : Int) : (Term.integer k).cell.integer? = some k := by
  cases k <;> exact Int.toInt?_repr _

@[simp] theorem optional_text?_optional (s : Option String) :
    Cell.optional Cell.text? (Term.optional s).cell = some s := by
  cases s <;> rfl

@[simp] theorem optional_number?_optionalNumber (x : Option Number) :
    Cell.optional Cell.number? (Term.optionalNumber x).cell = some (x.map Number.text) := by
  cases x <;> rfl

@[simp] theorem key?_familyRef (name : String) : (familyRef name).cell.key? "families" "name" = some name := rfl

@[simp] theorem key?_linkRef (name : String) :
    (linkRef name).cell.key? "relationships" "relationship_name" = some name := rfl

end Cells

/-! ## What scripts say -/

/-- The statements can be read and are plain, and their rows say the records. -/
structure Says (s : Script) (rs : List Record) : Prop where
  readable : ∀ st ∈ s, st.IsReadable
  plain : ∀ st ∈ s, st.IsPlain
  records : (s.filterMap Statement.row?).mapM Row.record? = some rs

/-- What is read in the text of a script is what its rows say. -/
theorem readRecords_render {s : Script} {rs : List Record} (h : Says s rs) : readRecords s.render = some rs := by
  rw [readRecords, readRows_render h.readable h.plain]
  exact h.records

section Says

variable {s t : Script} {rs qs : List Record}

theorem says_nil : Says [] [] :=
  ⟨List.forall_mem_nil _, List.forall_mem_nil _, rfl⟩

theorem Says.append (h : Says s rs) (h' : Says t qs) : Says (s ++ t) (rs ++ qs) := by
  refine ⟨List.forall_mem_append.2 ⟨h.readable, h'.readable⟩, List.forall_mem_append.2 ⟨h.plain, h'.plain⟩, ?_⟩
  rw [List.filterMap_append, List.mapM_append, h.records, h'.records]
  rfl

theorem says_flatMap {α : Type} {part : α → Script} {records : α → List Record} (xs : List α)
    (h : ∀ x, Says (part x) (records x)) : Says (xs.flatMap part) (xs.flatMap records) := by
  induction xs with
  | nil => exact says_nil
  | cons x xs ih => exact (h x).append ih

theorem says_map {α : Type} {part : α → Statement} {record : α → Record} (xs : List α)
    (h : ∀ x, Says [part x] [record x]) : Says (xs.map part) (xs.map record) := by
  rw [List.map_eq_flatMap, List.map_eq_flatMap]
  exact says_flatMap xs h

/-- Comments say nothing. -/
theorem says_comment (text : String) (h : OneLine text) : Says [.comment text] [] :=
  ⟨List.forall_mem_singleton.2 h, List.forall_mem_singleton.2 trivial, rfl⟩

/-- Blank lines say nothing. -/
theorem says_blank : Says [.blank] [] :=
  ⟨List.forall_mem_singleton.2 trivial, List.forall_mem_singleton.2 trivial, rfl⟩

/-- A row says the record that is read in its values. -/
theorem says_row {table : String} {columns : List String} {values : List Term} {r : Record} (htable : IsName table)
    (hcolumns : ∀ c ∈ columns, IsName c) (hvalues : ∀ v ∈ values, v.HasNames) (hlength : columns.length = values.length)
    (hne : columns ≠ []) (hrecord : Row.record? ⟨table, columns.zip (values.map Term.cell)⟩ = some r) :
    Says [.row table columns values] [r] := by
  have hreadable := Statement.isReadable_row htable hcolumns hvalues hlength hne
  refine ⟨List.forall_mem_singleton.2 hreadable, List.forall_mem_singleton.2 rfl, ?_⟩
  show [Insert.row _].mapM Row.record? = some [r]
  simp [Insert.row, hrecord]

end Says

/-! ## Rows of the data sections -/

/-- Another name is passed over. -/
theorem lookup_of_ne {β : Type} {name other : String} {value : β} {cells : List (String × β)} (h : name ≠ other) :
    ((other, value) :: cells).lookup name = cells.lookup name := by
  have hne : (name == other) = false := by simpa using h
  rw [List.lookup_cons, hne]

/-- The first row of a link says which link it is, and where it belongs. -/
theorem says_link (family : String) (l : Link) :
    Says [.row "relationships" ["relationship_name", "relationship_type", "family_id"]
      [.text l.name, .text (linkKind l), familyRef family]] [.link l.name (linkKind l) family] := by
  -- the reader is looked up by the name of the table, and each value by the name of its column
  refine says_row (by decide) (by decide) (by simp) rfl (by simp) ?_
  simp [Row.record?, Row.readers, Row.link?, Row.get?, lookup_of_ne]

/-- The second row of a link says what the link is. -/
theorem says_linkDetails (l : Link) : Says [linkDetails l] [.details l] := by
  cases l with
  | diachronic l =>
    refine says_row (by decide) (by decide) (by simp) rfl (by simp) ?_
    simp [Row.record?, Row.readers, Row.diachronic?, Row.linkName?, Row.get?, lookup_of_ne]
  | synchronous l =>
    refine says_row (by decide) (by decide) (by simp) rfl (by simp) ?_
    simp [Row.record?, Row.readers, Row.synchronous?, Row.linkName?, Row.get?, lookup_of_ne]

theorem says_aggregationRow (outlet : Int) (a : AggregationLevel) :
    Says [aggregationRow outlet a] [.level outlet a] := by
  refine says_row (by decide) (by decide) (by simp) rfl (by simp) ?_
  simp [Row.record?, Row.readers, Row.level?, Row.get?, lookup_of_ne]

theorem says_metricRow (d : DataBlock) (year : Int) (m : Metric) :
    Says [metricRow d year m]
      [.figure d.outlet year m.name m.value.text m.unit m.source m.comment d.mapsTo] := by
  refine says_row (by decide) (by decide) (by simp) rfl (by simp) ?_
  simp [Row.record?, Row.readers, Row.figure?, Row.get?, lookup_of_ne]

theorem says_eventRow (e : Event) (number : Nat) :
    Says [.row "events" ["id", "name", "event_type", "event_date", "status"]
      [.integer number, .text e.name, .text e.type, .optional e.date, .optional e.status]]
      [.event number e.name e.type e.date e.status] := by
  refine says_row (by decide) (by decide) (by simp) rfl (by simp) ?_
  simp [Row.record?, Row.readers, Row.event?, Row.get?, lookup_of_ne]

theorem says_entityRow (number : Nat) (x : EventEntity) :
    Says [entityRow number x]
      [.entity number x.name x.outlet x.role (x.stakeBefore.map Number.text) (x.stakeAfter.map Number.text)] := by
  refine says_row (by decide) (by decide) (by simp) rfl (by simp) ?_
  simp [Row.record?, Row.readers, Row.entity?, Row.get?, lookup_of_ne]

theorem says_impactRow (number : Nat) (a : Assignment) :
    Says [eventFieldRow "event_impact" "impact" number a] [.impact number a.name a.value.text] := by
  refine says_row (by decide) (by decide) (by simp) rfl (by simp) ?_
  simp [Row.record?, Row.readers, Row.eventField?, Row.get?, lookup_of_ne]

theorem says_eventMetadataRow (number : Nat) (a : Assignment) :
    Says [eventFieldRow "event_metadata" "metadata" number a] [.metadata number a.name a.value.text] := by
  refine says_row (by decide) (by decide) (by simp) rfl (by simp) ?_
  simp [Row.record?, Row.readers, Row.eventField?, Row.get?, lookup_of_ne]

/-! ## The data sections -/

theorem says_linkScript (p : Program) : Says (linkScript p) (linkRecords p) := by
  refine (says_comment "RELATIONSHIPS" (by decide)).append (says_flatMap p.families fun f => ?_)
  refine says_flatMap f.links fun l => ?_
  exact (says_link f.name l).append (says_linkDetails l)

theorem says_dataScript (p : Program) : Says (dataScript p) (dataRecords p) := by
  refine (says_comment "MARKET DATA" (by decide)).append (says_flatMap p.data fun d => ?_)
  refine (says_map d.aggregation (says_aggregationRow d.outlet)).append (says_flatMap d.years fun y => ?_)
  exact says_map y.metrics (says_metricRow d y.year)

theorem says_eventRows (e : Event) (number : Nat) : Says (eventRows e number) (singleEventRecords e number) := by
  have hentities := says_map e.entities (says_entityRow number)
  have himpact := says_map e.impact (says_impactRow number)
  have hmetadata := says_map e.metadata (says_eventMetadataRow number)
  exact (((says_eventRow e number).append hentities).append himpact).append hmetadata

theorem says_eventScript (p : Program) : Says (eventScript p) (eventRecords p) := by
  unfold eventScript
  split
  · next hempty =>
    rw [eventRecords, List.isEmpty_iff.1 hempty]
    exact says_nil
  · have hrows := says_flatMap (p.events.zipIdx 1) fun x => says_eventRows x.1 x.2
    have hsection := ((says_comment "EVENTS" (by decide)).append hrows).append says_blank
    rw [List.append_nil] at hsection
    exact hsection

/-- The texts of the sections for links, market data and events are read as the records of the model: for each link,
level, figure, event, entity, change and field its own, in the order of the model, with nothing lost or added. -/
theorem readRecords_sections (p : Program) :
    readRecords (linkScript p).render = some (linkRecords p) ∧
      readRecords (dataScript p).render = some (dataRecords p) ∧
      readRecords (eventScript p).render = some (eventRecords p) :=
  ⟨readRecords_render (says_linkScript p), readRecords_render (says_dataScript p),
    readRecords_render (says_eventScript p)⟩

end MediaLanguage.Sql
