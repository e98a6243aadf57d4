import ReportSql.Plan.Routing
import ReportSql.Sql.Statement

/-!
# Compiling requests

A request becomes a query text and the values bound to its placeholders.  First a draft of the query
is made, whose values still wait for placeholders; then the placeholders are numbered in one pass
over the draft.

## Main definitions

* `Draft` — a query whose values wait for placeholders.
* `Draft.ofRequest` — the draft of a request.
* `Draft.number` — the query of a draft and the values of its placeholders.
* `compile`, `compileCount` — the query for the rows of a request, and for their number.
-/

namespace ReportSql

open Text

/-- A query whose values wait for placeholders. -/
structure Draft where
  hint : Option String
  items : List SelectItem
  base : Source Hole
  joins : List (JoinClause Hole)
  filter : Option (Tree (Routed Hole))
  groupBy : List ColumnRef
  orderBy : List (OrderKey × SortDirection)
  paging : Option Paging

/-! ## Sources -/

namespace Scope

variable (s : Scope)

/-- Whether a filter is a choice between several members. -/
def isChoice (g : Filter) : Bool := g.logic = .or && 1 < g.children.length

/-- The clause of a filter that was moved into a source. -/
def pushedClause (settings : Settings) : Option Filter → Traced (Option (Pushed Hole))
  | none => pure none
  | some g => do
    let routed ← s.routeFilter settings .source g
    return (rowClause routed).map fun tree => ⟨tree, isChoice g⟩

/-- The source of an occurrence, restricted to its loads and by the filter moved into it. -/
def source (settings : Settings) (o : Occurrence) (pushed : Option Filter) :
    Traced (Source Hole) := do
  let load ← loadPredicates settings s.request o.dataset
  let pushed ← s.pushedClause settings pushed
  return ⟨settings.physicalTable o.dataset, o.name, load, pushed⟩

/-- The occurrence at a position. -/
def occurrence (position : Nat) : Occurrence :=
  s.sources.occurrences.getD position ⟨s.request.dataset, "", false⟩

/-- The column of an occurrence that a join refers to. -/
def joinColumn (settings : Settings) (o : Occurrence) (column : String) : ColumnRef :=
  .qualified o.name (settings.physicalColumn o.dataset (lastSegment (trim column)))

/-- The clause of a join. -/
def joinClause (settings : Settings) (pushdown : Pushdown) (j : PlannedJoin) :
    Traced (JoinClause Hole) := do
  let left := s.occurrence j.left
  let right := s.occurrence j.right
  let source ← s.source settings right (pushdown.at? j.right)
  let pairs := j.spec.pairs.map fun pair =>
    (joinColumn settings left pair.left, joinColumn settings right pair.right)
  return ⟨j.spec.kind, source, pairs⟩

/-- The clauses of some joins, in order. -/
def joinClauses (settings : Settings) (pushdown : Pushdown) :
    List PlannedJoin → Traced (List (JoinClause Hole))
  | [] => pure []
  | j :: js => do
    let clause ← s.joinClause settings pushdown j
    return clause :: (← joinClauses settings pushdown js)

/-! ## Outputs and order -/

/-- The label of a selected column, which is qualified by its dataset. -/
def columnLabel (column : String) : String :=
  if column.toList.contains '.' then column else s.request.dataset ++ "." ++ column

/-- The columns that some references stand for, each of which has to be found. -/
def selectedColumns (settings : Settings) : List String → Except CompileError (List ColumnRef)
  | [] => .ok []
  | column :: columns => do
    let ref ← s.sources.selectedColumn settings column
    return ref :: (← selectedColumns settings columns)

/-- The references that the output columns start with. -/
def selectedNames : List String :=
  if s.request.isGrouped then s.request.groupBy else s.request.columns

/-- The output columns: those grouped by and the aggregations, or the selected columns. -/
def items (refs : List ColumnRef) : List SelectItem :=
  if s.request.isGrouped then
    (s.request.groupBy.zip refs).map (fun (column, ref) => ⟨.column ref, .verbatim column⟩) ++
      s.aggregates.outputs.map fun o => ⟨o.expression, .folded o.name⟩
  else
    (s.request.columns.zip refs).map fun (column, ref) =>
      ⟨.column ref, .verbatim (s.columnLabel column)⟩

/-- Whether a sort is on a column that rows are grouped by. -/
def isGroupedSort (key : SortKey) : Bool :=
  s.request.groupBy.any fun column => sameFolded column (trim key.column)

/-- The order of a sort, none when it is left aside. -/
def orderOf (settings : Settings) (key : SortKey) :
    Traced (Option (OrderKey × SortDirection)) :=
  match s.aggregates.get? key.column with
  | some o => pure (some (.output o.name, key.direction))
  | none =>
    if s.request.isGrouped && !s.isGroupedSort key then do
      Traced.report (.sortNotGrouped key.column)
      return none
    else
      match s.sources.columnRef? settings key.column with
      | some ref => pure (some (.column ref, key.direction))
      | none => do
        Traced.report (.sortUnresolvable key.column)
        return none

/-- The order of some sorts, less those that are left aside. -/
def orderBy (settings : Settings) : List SortKey → Traced (List (OrderKey × SortDirection))
  | [] => pure []
  | key :: keys => do
    let order ← s.orderOf settings key
    let rest ← orderBy settings keys
    return order.toList ++ rest

/-- The filter of the outer query, none when nothing is left for it. -/
def outerFilter (settings : Settings) (g : Filter) : Traced (Option (Tree (Routed Hole))) :=
  if g.isEmpty then pure none
  else do return some (← s.routeFilter settings .query g)

end Scope

/-! ## Drafts -/

/-- A request with its sources and outputs, which have to be found. -/
def Scope.ofRequest (settings : Settings) (r : Request) : Except CompileError Scope := do
  let sources ← SourcePlan.ofRequest r
  let aggregates ← AggregateIndex.ofRequest settings r sources
  return ⟨r, sources, aggregates⟩

namespace Draft

/-- The draft of a request, ordered and paged or not. -/
def ofRequest (settings : Settings) (r : Request) (paged : Bool) : Traced Draft := do
  let planned ← Traced.ofExcept (Scope.ofRequest settings r)
  let pushdown := Pushdown.ofScope planned
  Traced.reportAll (pushdown.events planned.sources.occurrences)
  let scope := { planned with sources := planned.sources.reorder pushdown.weights }
  let base ← scope.source settings (scope.occurrence 0) (pushdown.at? 0)
  let joins ← scope.joinClauses settings pushdown scope.sources.joins
  let filter ← scope.outerFilter settings pushdown.remaining
  let refs ← Traced.ofExcept (scope.selectedColumns settings scope.selectedNames)
  let orderBy ← if paged then scope.orderBy settings r.sorting else pure []
  return {
    hint := if r.useHints then some settings.options.performanceHint else none
    items := scope.items refs
    base
    joins
    filter
    groupBy := if r.isGrouped then refs else []
    orderBy
    paging := if paged then some ⟨r.offset, r.limit⟩ else none }

/-- A placeholder for a hole. -/
def fill (h : Hole) : StateM Bindings Placeholder := fun b => b.bind h.stem h.value

/-- The query of a draft, its placeholders numbered source by source and then through the filter of
the outer query. -/
def numbered (d : Draft) : StateM Bindings (Select Placeholder) := do
  let base ← d.base.traverse fill
  let joins ← d.joins.mapM (·.traverse fill)
  let filter ← d.filter.mapM fun tree =>
    tree.traverse fun r => do
      return { ofGroups := r.ofGroups, predicate := ← r.predicate.traverse fill }
  return {
    hint := d.hint
    items := d.items
    base
    joins
    rowFilter := filter.bind rowClause
    groupBy := d.groupBy
    groupFilter := filter.bind groupClause
    orderBy := d.orderBy
    paging := d.paging }

/-- The query of a draft and the values of its placeholders. -/
def number (d : Draft) : Select Placeholder × Bindings := d.numbered.run {}

end Draft

/-! ## Queries -/

/-- A query text and the values of its placeholders. -/
structure Compiled where
  text : String
  values : Dict BindValue
deriving DecidableEq

namespace Compiled

/-- The JSON value of a compiled query. -/
def toJson (c : Compiled) : Json :=
  .object [("sql", .text c.text), ("params", .ofDict BindValue.toJson c.values)]

end Compiled

/-- The end of a compilation, which is reported. -/
def finish (query : Query) (bindings : Bindings) : Traced Compiled := do
  Traced.report (.compiled query.render bindings.size)
  return ⟨query.render, bindings.toDict⟩

/-- The checks on a request as a step. -/
def checked (r : Request) (needsSelection : Bool) : Traced Unit :=
  match r.validate needsSelection with
  | .ok () => pure ()
  | .error e => .fail (.invalid e)

/-- The query for one page of the rows of a request. -/
def compile (settings : Settings) (r : Request) : Traced Compiled := do
  checked r true
  let draft ← Draft.ofRequest settings r true
  let (select, bindings) := draft.number
  finish (.rows select) bindings

/-- The query for the number of a request's rows, or of its groups. -/
def compileCount (settings : Settings) (r : Request) : Traced Compiled := do
  checked r false
  let draft ← Draft.ofRequest settings r false
  let (select, bindings) := draft.number
  if r.isGrouped then finish (.countOf select) bindings
  else
    finish (.rows { select with items := [⟨.countRows, .verbatim countLabel⟩] }) bindings

/-- A request as the text of one. -/
def readRequest (text : String) : Except Fault Request := Request.read.runText text

/-- The query for one page of the rows of a request that is given as text. -/
def compileText (c : Catalog) (text : String) : Traced Compiled :=
  match readRequest text with
  | .ok r => compile (.ofCatalog c) r
  | .error fault => .fail (.unreadable fault)

/-- The query for the number of rows of a request that is given as text. -/
def compileCountText (c : Catalog) (text : String) : Traced Compiled :=
  match readRequest text with
  | .ok r => compileCount (.ofCatalog c) r
  | .error fault => .fail (.unreadable fault)

end ReportSql
