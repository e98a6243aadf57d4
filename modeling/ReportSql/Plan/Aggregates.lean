import ReportSql.Plan.Settings
import ReportSql.Plan.Sources
import ReportSql.Sql.Predicate

/-!
# Aggregations of a query

The output columns of the aggregations, each under a name that is safe, bounded and its own, and
found by that name as well as by the one that was asked for.

## Main definitions

* `AggregateOutput`, `AggregateIndex` — the outputs and their names.
* `AggregateIndex.get?` — the output of a name.
* `AggregateIndex.ofRequest` — the outputs of a request.
-/

namespace ReportSql

open Text

/-- The column that a resolved reference stands for in query text. -/
def SourcePlan.columnRef? (p : SourcePlan) (s : Settings) (column : String) : Option ColumnRef := do
  let (index, name) ← p.resolveColumn column
  let o ← p.occurrences[index]?
  return .qualified o.name (s.physicalColumn o.dataset name)

/-- The column that a selected reference stands for, which has to be found. -/
def SourcePlan.selectedColumn (p : SourcePlan) (s : Settings) (column : String) :
    Except CompileError ColumnRef :=
  match p.columnRef? s column with
  | some ref => .ok ref
  | none => .error (.unresolvedColumn column)

/-- The output column of an aggregation. -/
structure AggregateOutput where
  name : String
  function : AggregateFunction
  column : ColumnRef
deriving DecidableEq

namespace AggregateOutput

/-- What an output is computed from. -/
def expression (o : AggregateOutput) : Expr := .aggregate o.function o.column

end AggregateOutput

/-- The outputs, and their positions under upper-cased names.  Of several entries for one name the
first counts. -/
structure AggregateIndex where
  outputs : List AggregateOutput := []
  positions : List (String × Nat) := []

namespace AggregateIndex

/-- The output of a name, in any case and with blanks around it. -/
def get? (index : AggregateIndex) (name : String) : Option AggregateOutput := do
  let position ← index.positions.lookup (upper (trim name))
  index.outputs[position]?

/-- Whether a name is that of an output. -/
def names (index : AggregateIndex) (name : String) : Bool := (index.get? name).isSome

/-- The name of an output beside those that are used: cut to the greatest length, and with a number
at its end if it would not be its own. -/
def outputName (options : Options) (used : List String) (requested : String) : String :=
  let base := sanitizeAlias requested options.maxNameLength options.fallbackName
  freshName used base fun n =>
    let tail := "_" ++ n.repr
    String.ofList (base.toList.take (options.maxNameLength - tail.length)) ++ tail

/-- The outputs with one more. -/
def add (index : AggregateIndex) (options : Options) (a : Aggregation) (column : ColumnRef) :
    AggregateIndex :=
  let requested := a.requestedName
  let name := outputName options (index.outputs.map fun o => upper o.name) requested
  let position := index.outputs.length
  { outputs := index.outputs ++ [⟨name, a.function, column⟩]
    positions := index.positions ++ [(upper requested, position), (upper name, position)] }

/-- The outputs with those of some aggregations more, in order. -/
def addAll (s : Settings) (p : SourcePlan) :
    AggregateIndex → List Aggregation → Except CompileError AggregateIndex
  | index, [] => .ok index
  | index, a :: rest =>
    match p.selectedColumn s a.column with
    | .ok column => addAll s p (index.add s.options a column) rest
    | .error e => .error e

/-- The outputs of a request. -/
def ofRequest (s : Settings) (r : Request) (p : SourcePlan) : Except CompileError AggregateIndex :=
  addAll s p {} r.aggregations

end AggregateIndex

end ReportSql
