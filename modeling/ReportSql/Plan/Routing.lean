import ReportSql.Plan.Partitions

/-!
# Filters in clauses

A filter on rows and a filter on groups stand in different clauses of a query.  Each condition is
routed to one of the two: a condition on the output of an aggregation to the groups, any other to
the rows.  An OR between both cannot be split, so all its conditions go to the groups, where a
column stands for the greatest value of its group.

## Main definitions

* `Routed α` — a predicate and the clause that it stands in.
* `Place` — whether a filter stands in the outer query or within a source.
* `routeFilter` — the predicates of a filter with their clauses.
* `rowClause`, `groupClause` — the two clauses of a routed filter.
-/

namespace ReportSql

open Text

/-- A predicate, and whether it holds of groups rather than rows. -/
structure Routed (α : Type) where
  ofGroups : Bool
  predicate : Predicate α

/-- Whether a filter stands in the outer query, where columns are qualified and outputs have names,
or within a source. -/
inductive Place where
  | query
  | source
deriving DecidableEq

/-- What the column of a condition refers to. -/
inductive Target where
  | output (o : AggregateOutput)
  | column (ref : ColumnRef)
  | unresolved
deriving DecidableEq

/-- A qualified column within its own source. -/
def ColumnRef.unqualified : ColumnRef → ColumnRef
  | .bare column => .bare column
  | .qualified _ column => .bare column

namespace Scope

variable (s : Scope)

/-- What the column of a condition refers to. -/
def target (settings : Settings) (place : Place) (column : String) : Target :=
  if (trim column).isEmpty then .unresolved
  else
    let output := if place = .query then s.aggregates.get? column else none
    match output, s.sources.columnRef? settings column with
    | some o, _ => .output o
    | none, some ref => .column (if place = .query then ref else ref.unqualified)
    | none, none => .unresolved

/-- Whether a condition is on the output of an aggregation. -/
def isOnOutput (c : Condition) : Bool := s.aggregates.names c.column

/-- Whether some conditions are on outputs and some are not. -/
def mixes (conditions : List Condition) : Bool :=
  conditions.any s.isOnOutput && conditions.any fun c => !s.isOnOutput c

/-- The predicate of a condition with its clause.  A promoted condition holds of groups. -/
def routeCondition (settings : Settings) (place : Place) (promoted : Bool) (c : Condition) :
    Traced (Routed Hole) := do
  let kind := s.request.valueKind c
  match s.target settings place c.column with
  | .output o =>
    return ⟨true, ← conditionPredicate settings.options o.expression kind c⟩
  | .column ref =>
    let e := if promoted then Expr.aggregate .max ref else .column ref
    return ⟨promoted, ← conditionPredicate settings.options e kind c⟩
  | .unresolved =>
    Traced.report (.filterUnresolvable c.column)
    return ⟨promoted, .always⟩

/-- Whether the members of a group are promoted: with the group itself, or because it is an OR of
the outer query that mixes conditions on outputs with others. -/
def promotes (place : Place) (promoted : Bool) (logic : Logic) (children : List (Tree Condition)) :
    Bool :=
  promoted || (place = .query && logic = .or && s.mixes (Tree.leavesAll children))

mutual

/-- The predicates of a tree with their clauses. -/
def routeTree (settings : Settings) (place : Place) (promoted : Bool) :
    Tree Condition → Traced (Tree (Routed Hole))
  | .leaf c => do return .leaf (← s.routeCondition settings place promoted c)
  | .group logic children => do
    let promoted := s.promotes place promoted logic children
    return .group logic (← routeTrees settings place promoted children)

@[inherit_doc routeTree] def routeTrees (settings : Settings) (place : Place) (promoted : Bool) :
    List (Tree Condition) → Traced (List (Tree (Routed Hole)))
  | [] => pure []
  | t :: ts => do
    let u ← routeTree settings place promoted t
    return u :: (← routeTrees settings place promoted ts)

end

/-- The predicates of a filter with their clauses. -/
def routeFilter (settings : Settings) (place : Place) (g : Filter) :
    Traced (Tree (Routed Hole)) :=
  s.routeTree settings place false g.toTree

end Scope

variable {α : Type}

/-- The clause on rows of a routed filter, if any predicate stands there. -/
def rowClause (t : Tree (Routed α)) : Option (Tree (Predicate α)) :=
  t.prune fun r => if r.ofGroups then none else some r.predicate

/-- The clause on groups of a routed filter, if any predicate stands there. -/
def groupClause (t : Tree (Routed α)) : Option (Tree (Predicate α)) :=
  t.prune fun r => if r.ofGroups then some r.predicate else none

end ReportSql
