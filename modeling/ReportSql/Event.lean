import ReportSql.Filter.Operator

/-!
# Events

What is reported while a query is compiled or a catalog is refreshed.

## Main definitions

* `Event` — the events.
* `Event.level`, `Event.message`, `Event.fields` — how an event is reported.
-/

namespace ReportSql

/-- How urgent an event is. -/
inductive EventLevel where
  | debug
  | warn
deriving DecidableEq, Repr

namespace EventLevel

/-- The name of a level. -/
def name : EventLevel → String
  | .debug => "DEBUG"
  | .warn => "WARN"

end EventLevel

/-- What is reported. -/
inductive Event where
  | filtersPushed (source : String) (predicates : Nat)
  | partitionUnknown (dataset : String)
  | loadTypeUnsupported (dataset loadType : String)
  | valueMissing (column : String) (operator : Operator)
  | listEmpty (column : String)
  | listTruncated (column : String) (requested limit : Nat)
  | filterUnresolvable (column : String)
  | sortNotGrouped (column : String)
  | sortUnresolvable (column : String)
  | compiled (text : String) (values : Nat)
  | catalogLoaded
  | catalogGone
  | catalogUnreachable
  | catalogUnreadable
deriving DecidableEq

namespace Event

/-- How urgent an event is: a filter or a catalog that had to be left aside is a warning. -/
def level : Event → EventLevel
  | .partitionUnknown .. | .catalogGone | .catalogUnreachable | .catalogUnreadable => .warn
  | _ => .debug

/-- The message of an event. -/
def message : Event → String
  | .filtersPushed .. => "pushing filters into derived source"
  | .partitionUnknown .. => "partition filter given for a dataset without partition config"
  | .loadTypeUnsupported .. => "load type not supported by dataset, skipping"
  | .valueMissing .. => "filter value missing, using neutral predicate"
  | .listEmpty .. => "empty list filter"
  | .listTruncated .. => "list filter truncated"
  | .filterUnresolvable .. => "unresolvable filter column, using neutral predicate"
  | .sortNotGrouped .. => "sort column is not grouped, skipping"
  | .sortUnresolvable .. => "unresolvable sort column, skipping"
  | .compiled .. => "compiled report query"
  | .catalogLoaded => "loaded catalog"
  | .catalogGone => "catalog file disappeared, using empty catalog"
  | .catalogUnreachable => "failed to stat catalog file"
  | .catalogUnreadable => "error loading catalog, keeping previous snapshot"

/-- The named details of an event. -/
def fields : Event → List (String × String)
  | .filtersPushed source predicates => [("alias", source), ("predicates", predicates.repr)]
  | .partitionUnknown dataset => [("dataset", dataset)]
  | .loadTypeUnsupported dataset loadType => [("dataset", dataset), ("load_type", loadType)]
  | .valueMissing column operator => [("column", column), ("operator", operator.name)]
  | .listEmpty column => [("column", column)]
  | .listTruncated column requested limit =>
    [("column", column), ("requested", requested.repr), ("limit", limit.repr)]
  | .filterUnresolvable column => [("column", column)]
  | .sortNotGrouped column => [("column", column)]
  | .sortUnresolvable column => [("column", column)]
  | .compiled text values => [("sql", text), ("params", values.repr)]
  | _ => []

end Event

end ReportSql
