import ReportSql.Plan.Traced
import ReportSql.Sql.Identifier

/-!
# Sources of a query

The datasets of a request in the order in which they join the query.  A dataset may occur several
times, each time under a name of its own.

## Main definitions

* `freshName` — a name that differs from those already used.
* `Occurrence`, `PlannedJoin`, `SourcePlan` — the occurrences of datasets and the joins between
  them.
* `SourcePlan.ofRequest` — the plan of a request.
* `SourcePlan.resolveQualifier`, `SourcePlan.resolveColumn` — the occurrence that a name refers to.
* `SourcePlan.reorder` — the joins with the most restricted sources first.
-/

namespace ReportSql

open Text

/-! ## Fresh names -/

/-- The first of the candidates from `n` on whose upper case is not used, among as many as there is
fuel for, or the one after them. -/
def firstFresh (used : List String) (candidate : Nat → String) : Nat → Nat → String
  | 0, n => candidate n
  | fuel + 1, n =>
    if used.contains (upper (candidate n)) then firstFresh used candidate fuel (n + 1)
    else candidate n

/-- A name whose upper case is not used: the base itself, else the first free candidate.  Of
candidates that differ, one more than there are used names is enough to find one. -/
def freshName (used : List String) (base : String) (candidate : Nat → String) : String :=
  if used.contains (upper base) then firstFresh used candidate used.length 1 else base

/-! ## The plan -/

/-- A dataset where it joins the query. -/
structure Occurrence where
  dataset : String
  name : String
  /-- Whether an outer join may put nulls in the place of its rows. -/
  nullSupplying : Bool
deriving DecidableEq

/-- A join between two occurrences, which are given by their positions. -/
structure PlannedJoin where
  spec : Join
  left : Nat
  right : Nat
deriving DecidableEq

/-- The occurrences of datasets, the base dataset first, and the joins between them. -/
structure SourcePlan where
  occurrences : List Occurrence
  joins : List PlannedJoin
deriving DecidableEq

/-- The name of an occurrence of a dataset beside those that are used. -/
def occurrenceName (used : List String) (dataset : String) : String :=
  let base := nameToken (trim dataset)
  freshName used base fun n => base ++ "_" ++ n.repr

namespace SourcePlan

variable (p : SourcePlan)

/-- The upper-cased names of the occurrences. -/
def usedNames : List String := p.occurrences.map fun o => upper o.name

/-- The occurrence that a qualifier refers to: by its name, else the first of a dataset, else the
first of a dataset whose last segment is the qualifier's. -/
def resolveQualifier (qualifier : String) : Option Nat :=
  let q := trim qualifier
  let byName := p.occurrences.findIdx? fun o => sameFolded o.name q
  let byDataset := p.occurrences.findIdx? fun o => sameFolded o.dataset q
  let bySegment :=
    p.occurrences.findIdx? fun o => sameFolded (lastSegment o.dataset) (lastSegment q)
  (byName.or byDataset).or bySegment

/-- The occurrence and the column that a reference names.  A reference without a qualifier belongs
to the base dataset. -/
def resolveColumn (column : String) : Option (Nat × String) :=
  match qualifierAndColumn (trim column) with
  | some (qualifier, name) => (p.resolveQualifier qualifier).map fun index => (index, name)
  | none => some (0, trim column)

/-- The plan of a base dataset alone. -/
def ofBase (dataset : String) : SourcePlan :=
  ⟨[⟨dataset, occurrenceName [] dataset, false⟩], []⟩

/-- The plan with one join more.  A join that keeps unmatched rows of its right side may put nulls
in the place of all rows before it. -/
def addJoin (spec : Join) : Except CompileError SourcePlan :=
  match p.resolveQualifier spec.leftDataset with
  | none => .error (.unresolvedJoin spec)
  | some left =>
    let before := p.occurrences.map fun o =>
      { o with nullSupplying := o.nullSupplying || spec.kind.keepsRight }
    let occurrence : Occurrence :=
      ⟨spec.rightDataset, occurrenceName p.usedNames spec.rightDataset, spec.kind.keepsLeft⟩
    .ok ⟨before ++ [occurrence], p.joins ++ [⟨spec, left, p.occurrences.length⟩]⟩

/-- The plan with some joins more, in order. -/
def addJoins : SourcePlan → List Join → Except CompileError SourcePlan
  | p, [] => .ok p
  | p, spec :: specs =>
    match p.addJoin spec with
    | .ok p => addJoins p specs
    | .error e => .error e

/-- The plan of a request. -/
def ofRequest (r : Request) : Except CompileError SourcePlan := (ofBase r.dataset).addJoins r.joins

/-! ## Order of joins -/

/-- Whether the joins may change places: none keeps unmatched rows of its right side. -/
def isReorderable : Bool := p.joins.all fun j => !j.spec.kind.keepsRight

/-- The plan with its joins in another order if they may change places: those with the base dataset
first, by descending weight of the source that they bring in, then the others as they were. -/
def reorder (weights : List Nat) : SourcePlan :=
  if p.isReorderable then
    let weight (j : PlannedJoin) : Nat := weights.getD j.right 0
    let anchored := p.joins.filter fun j => j.left == 0
    let chained := p.joins.filter fun j => j.left != 0
    { p with joins := anchored.mergeSort (fun a b => weight b ≤ weight a) ++ chained }
  else p

end SourcePlan

end ReportSql
