import MediaLanguage.Text.Case

/-!
# Keywords

The reserved words of the language. They are matched without regard to letter case, and every keyword may also serve
as the name of a field. Each has a spelling, which field names and error messages show, and a label, under which it
stands in a listing of tokens.
-/

namespace MediaLanguage

/-- The reserved words. -/
inductive Keyword where
  | importFile | letVariable | unit | vocabulary | family | outlet | template | extending | basedOn | outletRef
  | catalog | source | id | text | number | boolean | category | primary | key | status | fromDate | toDate
  | current | identity | lifecycle | characteristics | metadata | metrics | aggregation | data | forOutlet
  | year | event | type | date | entities | impact | stakeBefore | stakeAfter | triggeredByEvent
  | createdByEvent | diachronicLink | synchronousLink | synchronousLinks | predecessor | successor
  | relationshipType | eventDate | period | details | outlet1 | outlet2 | role | notAvailable | notApplicable
  | override | forPeriod | inheritsFrom | until
deriving DecidableEq

namespace Keyword

/-- Every keyword once. -/
def all : List Keyword :=
  [.importFile, .letVariable, .unit, .vocabulary, .family, .outlet, .template, .extending, .basedOn, .outletRef,
   .catalog, .source, .id, .text, .number, .boolean, .category, .primary, .key, .status, .fromDate, .toDate,
   .current, .identity, .lifecycle, .characteristics, .metadata, .metrics, .aggregation, .data, .forOutlet,
   .year, .event, .type, .date, .entities, .impact, .stakeBefore, .stakeAfter, .triggeredByEvent,
   .createdByEvent, .diachronicLink, .synchronousLink, .synchronousLinks, .predecessor, .successor,
   .relationshipType, .eventDate, .period, .details, .outlet1, .outlet2, .role, .notAvailable, .notApplicable,
   .override, .forPeriod, .inheritsFrom, .until]

/-- The word itself, in lower case. -/
def spelling : Keyword → String
  | .importFile => "import"
  | .letVariable => "let"
  | .unit => "unit"
  | .vocabulary => "vocabulary"
  | .family => "family"
  | .outlet => "outlet"
  | .template => "template"
  | .extending => "extends"
  | .basedOn => "based_on"
  | .outletRef => "outlet_ref"
  | .catalog => "catalog"
  | .source => "source"
  | .id => "id"
  | .text => "text"
  | .number => "number"
  | .boolean => "boolean"
  | .category => "category"
  | .primary => "primary"
  | .key => "key"
  | .status => "status"
  | .fromDate => "from"
  | .toDate => "to"
  | .current => "current"
  | .identity => "identity"
  | .lifecycle => "lifecycle"
  | .characteristics => "characteristics"
  | .metadata => "metadata"
  | .metrics => "metrics"
  | .aggregation => "aggregation"
  | .data => "data"
  | .forOutlet => "for"
  | .year => "year"
  | .event => "event"
  | .type => "type"
  | .date => "date"
  | .entities => "entities"
  | .impact => "impact"
  | .stakeBefore => "stake_before"
  | .stakeAfter => "stake_after"
  | .triggeredByEvent => "triggered_by_event"
  | .createdByEvent => "created_by_event"
  | .diachronicLink => "diachronic_link"
  | .synchronousLink => "synchronous_link"
  | .synchronousLinks => "synchronous_links"
  | .predecessor => "predecessor"
  | .successor => "successor"
  | .relationshipType => "relationship_type"
  | .eventDate => "event_date"
  | .period => "period"
  | .details => "details"
  | .outlet1 => "outlet_1"
  | .outlet2 => "outlet_2"
  | .role => "role"
  | .notAvailable => "n.v."
  | .notApplicable => "n.a."
  | .override => "override"
  | .forPeriod => "for_period"
  | .inheritsFrom => "inherits_from"
  | .until => "until"

/-- The name of the keyword in a listing of tokens: its spelling in capitals, except where another token has that
name or the spelling is no word. -/
def label : Keyword → String
  | .number => "NUMBER_TYPE"
  | .boolean => "BOOLEAN_TYPE"
  | .notAvailable => "NOT_AVAILABLE"
  | .notApplicable => "NOT_APPLICABLE"
  | k => Text.upper k.spelling

/-- The keyword that a word in lower case spells. -/
def ofSpelling? (word : String) : Option Keyword :=
  all.find? fun k => k.spelling == word

end Keyword

end MediaLanguage
