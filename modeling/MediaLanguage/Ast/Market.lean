import MediaLanguage.Ast.Expr

/-!
# Market data

Figures of an outlet, year by year, and the level at which they were collected.
-/

namespace MediaLanguage.Ast

/-- The level at which a figure was collected. -/
structure AggregationField where
  name : String
  value : String
  position : Position
deriving DecidableEq

/-- A block of levels. -/
structure Aggregation where
  fields : List AggregationField
  position : Position
deriving DecidableEq

/-- A figure with its attributes. -/
structure Metric where
  name : String
  attributes : List Assignment
  position : Position

/-- A block of figures. -/
structure Metrics where
  fields : List Metric
  position : Position

/-- The comment field of a year. -/
structure YearComment where
  value : String
  position : Position
deriving DecidableEq

/-- What a year holds. -/
inductive YearBlock where
  | metrics (m : Metrics)
  | remark (c : YearComment)
  | comment (c : Comment)

/-- The figures of one year. -/
structure Year where
  year : Number
  blocks : List YearBlock
  position : Position

/-- What the data of an outlet hold. -/
inductive DataBlock where
  | tag (t : Tag)
  | aggregation (a : Aggregation)
  | year (y : Year)
  | comment (c : Comment)

/-- The data of an outlet. -/
structure Data where
  target : Number
  blocks : List DataBlock
  position : Position

end MediaLanguage.Ast
