import ReportSql.Plan.Aggregates

/-!
# Filters moved into sources

A condition on the columns of one source may be applied to that source before it is joined, unless
an outer join may put nulls in the place of its rows.  The members of an AND move one by one; an OR
moves whole or not at all.

## Main definitions

* `Scope` — a request with its sources and outputs.
* `splitFilter` — a filter in two, by a test on conditions.
* `Pushdown` — the filters moved into each source and the one that is left.
-/

namespace ReportSql

open Text

/-- A request with its sources and outputs. -/
structure Scope where
  request : Request
  sources : SourcePlan
  aggregates : AggregateIndex

/-! ## Splitting -/

variable {α : Type}

mutual

/-- The members that a member of an AND leaves on either side, by a test on leaves. -/
def splitMember (p : α → Bool) : Tree α → List (Tree α) × List (Tree α)
  | .leaf a => if p a then ([.leaf a], []) else ([], [.leaf a])
  | .group .or children =>
    if children.isEmpty then ([], [])
    else if (Tree.leavesAll children).all p then ([.group .or children], [])
    else ([], [.group .or children])
  | .group .and children =>
    let (passed, kept) := splitMembers p children
    (if passed.isEmpty then [] else [.group .and passed],
      if kept.isEmpty then [] else [.group .and kept])

/-- The members of an AND on either side, by a test on leaves. -/
def splitMembers (p : α → Bool) : List (Tree α) → List (Tree α) × List (Tree α)
  | [] => ([], [])
  | t :: ts =>
    let (passed, kept) := splitMember p t
    let (passedRest, keptRest) := splitMembers p ts
    (passed ++ passedRest, kept ++ keptRest)

end

/-- A filter in two: what moves, by a test on its leaves, and what stays. -/
def splitFilter (p : α → Bool) (g : FilterGroup α) : FilterGroup α × FilterGroup α :=
  match g.logic with
  | .and =>
    let (passed, kept) := splitMembers p g.children
    (⟨.and, passed⟩, ⟨.and, kept⟩)
  | .or =>
    if !g.isEmpty && g.leaves.all p then (g, ⟨.or, []⟩) else (⟨.and, []⟩, g)

/-! ## Moving -/

/-- Whether a condition is on a column of the source at a position. -/
def Scope.belongsTo (s : Scope) (target : Nat) (c : Condition) : Bool :=
  !s.aggregates.names c.column && !(trim c.column).isEmpty &&
    (s.sources.resolveColumn c.column).any fun (index, _) => index == target

/-- The filters moved into each source, by position, and the filter that is left. -/
structure Pushdown where
  pushed : List (Option Filter)
  remaining : Filter

namespace Pushdown

/-- The filters moved into the sources from a position on. -/
def fromPosition (s : Scope) : Nat → List Occurrence → Filter → Pushdown
  | _, [], g => ⟨[], g⟩
  | target, o :: rest, g =>
    if o.nullSupplying then
      let plan := fromPosition s (target + 1) rest g
      { plan with pushed := none :: plan.pushed }
    else
      let (moved, kept) := splitFilter (s.belongsTo target) g
      let plan := fromPosition s (target + 1) rest kept
      { plan with pushed := (if moved.isEmpty then none else some moved) :: plan.pushed }

/-- The filters moved into the sources of a request. -/
def ofScope (s : Scope) : Pushdown := fromPosition s 0 s.sources.occurrences s.request.filter

/-- The filter moved into the source at a position. -/
def at? (plan : Pushdown) (position : Nat) : Option Filter := (plan.pushed[position]?).join

/-- The number of conditions moved into each source. -/
def weights (plan : Pushdown) : List Nat :=
  plan.pushed.map fun g => (g.map fun g => g.leaves.length).getD 0

/-- What is reported about the filters moved. -/
def events (plan : Pushdown) (occurrences : List Occurrence) : List Event :=
  (occurrences.zip plan.pushed).filterMap fun (o, g) =>
    g.map fun g => .filtersPushed o.name g.leaves.length

end Pushdown

end ReportSql
