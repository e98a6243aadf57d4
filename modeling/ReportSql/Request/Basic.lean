import ReportSql.Dict
import ReportSql.Filter.Reading
import ReportSql.Text.Case

/-!
# Report requests

What a report asks for: a dataset, datasets joined to it, columns or aggregations, filters, an order
and a page.

## Main definitions

* `Join`, `Aggregation`, `SortKey`, `ColumnMetadata` — the parts of a request.
* `Request` — a request.
* `RequestError`, `Request.validate` — the checks that a request passes before it is compiled.
-/

namespace ReportSql

open Text

/-- How the rows of two datasets are matched. -/
inductive JoinKind where
  | inner
  | left
  | right
  | outer
deriving DecidableEq, Repr

namespace JoinKind

/-- The keyword of a kind of join. -/
def keyword : JoinKind → String
  | .inner => "INNER"
  | .left => "LEFT"
  | .right => "RIGHT"
  | .outer => "FULL OUTER"

/-- The name of a kind of join in requests. -/
def name : JoinKind → String
  | .inner => "inner"
  | .left => "left"
  | .right => "right"
  | .outer => "outer"

/-- The kinds of join under their names. -/
def choices : List (String × JoinKind) :=
  [.inner, .left, .right, .outer].map fun k => (k.name, k)

/-- Whether rows of the left side that match nothing are kept. -/
def keepsLeft : JoinKind → Bool
  | .left | .outer => true
  | .inner | .right => false

/-- Whether rows of the right side that match nothing are kept. -/
def keepsRight : JoinKind → Bool
  | .right | .outer => true
  | .inner | .left => false

end JoinKind

/-- Two columns that are equal in matching rows. -/
structure JoinPair where
  left : String
  right : String
deriving DecidableEq, Repr

/-- A dataset joined to one that the request already names. -/
structure Join where
  leftDataset : String
  rightDataset : String
  kind : JoinKind := .inner
  pairs : List JoinPair
deriving DecidableEq, Repr

/-- How the values of a group are summed up. -/
inductive AggregateFunction where
  | sum
  | avg
  | count
  | min
  | max
  | distinctCount
deriving DecidableEq, Repr

namespace AggregateFunction

/-- The name of a function in query text and in the default names of its outputs. -/
def keyword : AggregateFunction → String
  | .sum => "SUM"
  | .avg => "AVG"
  | .count => "COUNT"
  | .min => "MIN"
  | .max => "MAX"
  | .distinctCount => "DISTINCT_COUNT"

/-- The name of a function in requests. -/
def name : AggregateFunction → String
  | .sum => "sum"
  | .avg => "avg"
  | .count => "count"
  | .min => "min"
  | .max => "max"
  | .distinctCount => "distinct_count"

/-- The functions under their names. -/
def choices : List (String × AggregateFunction) :=
  [.sum, .avg, .count, .min, .max, .distinctCount].map fun f => (f.name, f)

end AggregateFunction

/-- A function over the values of a column. -/
structure Aggregation where
  column : String
  function : AggregateFunction
  outputName : Option String := none
deriving DecidableEq, Repr

namespace Aggregation

/-- The name by which filters and sorts refer to an aggregation: the one it was given unless that is
blank, else one made of its function and column. -/
def requestedName (a : Aggregation) : String :=
  match a.outputName.map trim with
  | some name => if name.isEmpty then default else name
  | none => default
where
  /-- The name of an aggregation that was given none. -/
  default : String := a.function.keyword ++ "_" ++ a.column

end Aggregation

/-- The direction of an order. -/
inductive SortDirection where
  | ascending
  | descending
deriving DecidableEq, Repr

namespace SortDirection

/-- The keyword of a direction. -/
def keyword : SortDirection → String
  | .ascending => "ASC"
  | .descending => "DESC"

/-- The directions under their names in requests. -/
def choices : List (String × SortDirection) :=
  [("ASC", .ascending), ("asc", .ascending), ("DESC", .descending), ("desc", .descending)]

end SortDirection

/-- A column that rows are ordered by. -/
structure SortKey where
  column : String
  direction : SortDirection := .ascending
deriving DecidableEq, Repr

/-- What is known of a column's type. -/
structure ColumnMetadata where
  dataType : Option String := none
  baseType : Option String := none
deriving DecidableEq, Repr

namespace ColumnMetadata

/-- The name of a column's type in lower case, its data type before its base type. -/
def typeName (m : ColumnMetadata) : Option String := (m.dataType.or m.baseType).map lower

end ColumnMetadata

/-- The number of rows of a page when a request does not say. -/
def defaultLimit : Nat := 100

/-- The greatest number of rows of a page. -/
def maxLimit : Nat := 100000

/-- What a report asks for. -/
structure Request where
  dataset : String
  columns? : Option (List String) := none
  joins? : Option (List Join) := none
  filters? : Option Filter := none
  groupBy? : Option (List String) := none
  aggregations? : Option (List Aggregation) := none
  sorting? : Option (List SortKey) := none
  columnMetadata? : Option (Dict ColumnMetadata) := none
  partitionFilters? : Option (Dict (List Scalar)) := none
  partitionLoadType? : Option String := none
  limit : Nat := defaultLimit
  offset : Nat := 0
  useHints : Bool := false

/-- Why a request is refused. -/
inductive RequestError where
  | invalidLimit (limit : Nat)
  | emptyJoin (left right : String)
  | nothingSelected
  | emptyDataset
deriving DecidableEq

namespace RequestError

/-- What is said about a refused request. -/
def message : RequestError → String
  | .invalidLimit limit => "limit must be between 1 and 100000, got " ++ limit.repr
  | .emptyJoin left right =>
    "join from '" ++ left ++ "' to '" ++ right ++ "' needs at least one column pair"
  | .nothingSelected => "request must select explicit columns or aggregations"
  | .emptyDataset => "request dataset must not be empty"

end RequestError

namespace Request

variable (r : Request)

/-- The selected columns. -/
def columns : List String := r.columns?.getD []

/-- The joins, in order. -/
def joins : List Join := r.joins?.getD []

/-- The filter, empty when there is none. -/
def filter : Filter := r.filters?.getD {}

/-- The columns that rows are grouped by. -/
def groupBy : List String := r.groupBy?.getD []

/-- The aggregations, in order. -/
def aggregations : List Aggregation := r.aggregations?.getD []

/-- The sorts, in order. -/
def sorting : List SortKey := r.sorting?.getD []

/-- Whether a result row stands for a group of rows. -/
def isGrouped : Bool := !r.groupBy.isEmpty || !r.aggregations.isEmpty

/-- The checks that a request passes before it is compiled, the first failure of several.  Only a
request for rows must say what it selects. -/
def validate (needsSelection : Bool) : Except RequestError Unit :=
  if (trim r.dataset).isEmpty then .error .emptyDataset
  else if r.limit = 0 ∨ maxLimit < r.limit then .error (.invalidLimit r.limit)
  else
    match r.joins.find? fun j => j.pairs.isEmpty with
    | some j => .error (.emptyJoin j.leftDataset j.rightDataset)
    | none =>
      if needsSelection && r.columns.isEmpty && r.aggregations.isEmpty then
        .error .nothingSelected
      else .ok ()

end Request

end ReportSql
