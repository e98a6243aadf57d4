import Mathlib.Data.List.Dedup
import ReportSql.Dict
import ReportSql.Proofs.Query.Parts
import ReportSql.Proofs.Tree.Value

/-!
# Rows of queries

What a query answers, and how many rows that are.  The rows of its joined sources that the clause on
rows keeps are put into units, each of which becomes one row of the answer if the clause on groups
keeps it: the groups that agree in the columns grouped by, or all the rows together for an aggregate
without such columns, or else every row by itself.

## Main definitions

* `Database` — what a database makes of sources, expressions and predicates.
* `Database.units`, `Database.results` — the units of a query, and its rows.
* `Database.answer` — the rows of a query for rows or for their number.
* `Select.IsPlain` — a query whose units are single rows.

## Main statements

* `Database.length_results` — without a page, every unit that is kept becomes a row.
* `Database.results_ofCount` — a plain query with the number of rows in place of its columns.
-/

namespace ReportSql

/-! ## Units -/

/-- Whether an expression is computed from a group of rows. -/
def Expr.isAggregate : Expr → Bool
  | .column _ => false
  | .aggregate _ _ | .countRows => true
  | .castText _ e | .day _ e | .upper e | .numberText e | .momentText e => e.isAggregate

namespace Select

variable {α : Type} (s : Select α)

/-- Whether a query computes something from groups of rows. -/
def isAggregate : Bool :=
  s.groupFilter.isSome || s.items.any fun i => i.expression.isAggregate

/-- A query for the columns of single rows, without groups. -/
structure IsPlain : Prop where
  groupBy : s.groupBy = []
  groupFilter : s.groupFilter = none
  items : ∀ i ∈ s.items, i.expression.isAggregate = false

/-- The query without its order and its page. -/
def unpaged : Select α := { s with orderBy := [], paging := none }

/-- The query with the number of rows in place of its output columns. -/
def ofCount : Select α := { s with items := [⟨.countRows, .verbatim countLabel⟩] }

variable {s}

theorem IsPlain.isAggregate_eq (h : s.IsPlain) : s.isAggregate = false := by
  rw [isAggregate, h.groupFilter, Option.isSome_none, Bool.false_or, List.any_eq_false]
  intro i hi
  rw [h.items i hi]
  exact Bool.false_ne_true

end Select

/-- What a database makes of the parts of a query, when values are bound to its placeholders.  A row
by itself counts as a group of one. -/
structure Database (Row Value : Type) where
  /-- The rows of the joined sources of a query. -/
  joined : Dict BindValue → Source Placeholder → List (JoinClause Placeholder) → List Row
  value : Expr → List Row → Value
  truth : Dict BindValue → Predicate Placeholder → List Row → Truth
  /-- A number of rows as a value. -/
  number : Nat → Value
  value_countRows : ∀ group, value .countRows group = number group.length
  /-- Groups in an order, some keys of which are names of output columns. -/
  order : List (OrderKey × SortDirection) → List SelectItem → List (List Row) → List (List Row)
  order_perm : ∀ keys items groups, (order keys items groups).Perm groups

namespace Database

variable {Row Value : Type} [DecidableEq Value] (db : Database Row Value)
  (values : Dict BindValue) (s : Select Placeholder)

/-- Whether a clause keeps a group of rows.  Without a clause all are kept. -/
def keeps (clause : Option (Tree (Predicate Placeholder))) (group : List Row) : Bool :=
  clause.all fun tree => (tree.value fun p => db.truth values p group).holds

/-- The rows of the joined sources that the clause on rows keeps. -/
def rows : List Row :=
  (db.joined values s.base s.joins).filter fun row => db.keeps values s.rowFilter [row]

/-- The groups of rows that agree in some columns. -/
def groups (columns : List ColumnRef) (rows : List Row) : List (List Row) :=
  let key (row : Row) : List Value := columns.map fun ref => db.value (.column ref) [row]
  (rows.map key).dedup.map fun k => rows.filter fun row => key row = k

/-- The units of a query that become rows of its answer, as far as the clause on groups keeps
them. -/
def units : List (List Row) :=
  if !s.groupBy.isEmpty then db.groups s.groupBy (db.rows values s)
  else if s.isAggregate then [db.rows values s]
  else (db.rows values s).map fun row => [row]

/-- The rows of a query. -/
def results : List (List Value) :=
  let kept := (db.units values s).filter fun group => db.keeps values s.groupFilter group
  let ordered := db.order s.orderBy s.items kept
  let page := match s.paging with
    | none => ordered
    | some p => (ordered.drop p.offset).take p.limit
  page.map fun group => s.items.map fun i => db.value i.expression group

/-- The rows of a query for rows or for the number of the rows of another. -/
def answer : Query → List (List Value)
  | .rows s => db.results values s
  | .countOf s => [[db.number (db.results values s).length]]

/-! ## How many rows -/

variable {s}

omit [DecidableEq Value] in
@[simp] theorem keeps_none (group : List Row) : db.keeps values none group = true := rfl

/-- **Without a page, every unit that is kept becomes a row**, in whatever order. -/
theorem length_results (h : s.paging = none) :
    (db.results values s).length =
      ((db.units values s).filter fun group => db.keeps values s.groupFilter group).length := by
  unfold results
  rw [h]
  dsimp only
  rw [List.length_map, (db.order_perm _ _ _).length_eq]

/-- An order does not matter for the number of rows. -/
theorem length_results_unpaged (h : s.paging = none) :
    (db.results values s.unpaged).length = (db.results values s).length := by
  rw [db.length_results values h, db.length_results values rfl]
  rfl

/-- A plain query has a row for every row of its sources that is kept. -/
theorem length_results_of_isPlain (hplain : s.IsPlain) (h : s.paging = none) :
    (db.results values s).length = (db.rows values s).length := by
  rw [db.length_results values h, hplain.groupFilter, units, hplain.groupBy, hplain.isAggregate_eq]
  simp

/-- **A plain query with the number of rows in place of its columns** answers with that number. -/
theorem results_ofCount (hplain : s.IsPlain) (h : s.paging = none) :
    db.results values s.ofCount = [[db.number (db.rows values s).length]] := by
  have haggregate : s.ofCount.isAggregate = true := by
    simp [Select.isAggregate, Select.ofCount, Expr.isAggregate]
  have hgroupBy : s.ofCount.groupBy = [] := hplain.groupBy
  have hgroupFilter : s.ofCount.groupFilter = none := hplain.groupFilter
  have hpaging : s.ofCount.paging = none := h
  have hunits : db.units values s.ofCount = [db.rows values s] := by
    rw [units, hgroupBy, haggregate]
    rfl
  have horder : ∀ keys items, db.order keys items [db.rows values s] = [db.rows values s] :=
    fun keys items => List.perm_singleton.1 (db.order_perm keys items _)
  unfold results
  rw [hunits, hgroupFilter, hpaging]
  simp [horder, Select.ofCount, db.value_countRows]

end Database

end ReportSql
