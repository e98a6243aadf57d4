import ReportSql.Sql.Predicate

/-!
# Statements

Whole queries as clauses, and their text.  Every clause is made of quoted names and placeholders
before the text is laid out, one clause to a line.

## Main definitions

* `Source` — a table under a name, perhaps restricted.
* `JoinClause`, `SelectItem`, `OrderKey`, `Paging` — the other parts of a query.
* `Select` — a query for rows.
* `Query` — a query for rows or for their number.
-/

namespace ReportSql

variable {α β : Type}

/-- A filter that a source is restricted by, and whether it is a choice between several members. -/
structure Pushed (α : Type) where
  tree : Tree (Predicate α)
  isChoice : Bool

/-- A table under a name.  Its rows are restricted by load predicates and by a filter. -/
structure Source (α : Type) where
  table : String
  name : String
  load : List (Predicate α)
  pushed : Option (Pushed α)

namespace Source

/-- The source with the images of its values, found in the order of the text. -/
def traverse {m : Type → Type} [Monad m] (f : α → m β) (s : Source α) : m (Source β) := do
  let load ← s.load.mapM (·.traverse f)
  match s.pushed with
  | none => return { s with load, pushed := none }
  | some p =>
    let tree ← p.tree.traverse (·.traverse f)
    return { s with load, pushed := some { p with tree } }

/-- The conjuncts of a source's restriction in query text.  A choice that stands beside load
predicates is put between parentheses. -/
def conjuncts (s : Source Placeholder) : List String :=
  s.load.map Predicate.render ++
    match s.pushed with
    | none => []
    | some p =>
      if p.isChoice && !s.load.isEmpty then ["(" ++ renderTree p.tree ++ ")"]
      else [renderTree p.tree]

/-- A source in query text: the table itself, or a derived table when it is restricted. -/
def render (s : Source Placeholder) : String :=
  let table := quoteIdentifier s.table
  if s.conjuncts.isEmpty then table ++ " " ++ quotePart s.name
  else
    "(SELECT * FROM " ++ table ++ " WHERE " ++ " AND ".intercalate s.conjuncts ++ ") " ++
      quotePart s.name

end Source

/-- A source joined to those before it. -/
structure JoinClause (α : Type) where
  kind : JoinKind
  source : Source α
  pairs : List (ColumnRef × ColumnRef)

namespace JoinClause

/-- The clause with the images of its values, found in the order of the text. -/
def traverse {m : Type → Type} [Monad m] (f : α → m β) (j : JoinClause α) :
    m (JoinClause β) := do
  return { j with source := ← j.source.traverse f }

/-- A join in query text. -/
def render (j : JoinClause Placeholder) : String :=
  let pairs := j.pairs.map fun (left, right) => left.render ++ " = " ++ right.render
  j.kind.keyword ++ " JOIN " ++ j.source.render ++ " ON " ++ " AND ".intercalate pairs

end JoinClause

/-- The name of an output column: as it was given, or in upper case. -/
inductive Label where
  | verbatim (name : String)
  | folded (name : String)
deriving DecidableEq, Repr

namespace Label

/-- A label in query text. -/
def render : Label → String
  | .verbatim name => quoteLabel name
  | .folded name => quotePart name

end Label

/-- An output column. -/
structure SelectItem where
  expression : Expr
  label : Label
deriving DecidableEq

namespace SelectItem

/-- An output column in query text. -/
def render (i : SelectItem) : String := i.expression.render ++ " AS " ++ i.label.render

end SelectItem

/-- What rows are ordered by: a column, or an output under its upper-cased name. -/
inductive OrderKey where
  | column (ref : ColumnRef)
  | output (name : String)
deriving DecidableEq, Repr

namespace OrderKey

/-- An order in query text, without its direction. -/
def render : OrderKey → String
  | .column ref => ref.render
  | .output name => quotePart name

end OrderKey

/-- The rows of one page. -/
structure Paging where
  offset : Nat
  limit : Nat
deriving DecidableEq, Repr

/-- A query for rows. -/
structure Select (α : Type) where
  hint : Option String := none
  items : List SelectItem
  base : Source α
  joins : List (JoinClause α)
  /-- What holds of every row. -/
  rowFilter : Option (Tree (Predicate α)) := none
  groupBy : List ColumnRef := []
  /-- What holds of every group. -/
  groupFilter : Option (Tree (Predicate α)) := none
  orderBy : List (OrderKey × SortDirection) := []
  paging : Option Paging := none

namespace Select

variable (s : Select Placeholder)

/-- The line of the output columns. -/
def itemsLine : String :=
  let items := ", ".intercalate (s.items.map SelectItem.render)
  match s.hint with
  | some hint => "SELECT " ++ hint ++ " " ++ items
  | none => "SELECT " ++ items

/-- The lines of the sources. -/
def sourceLines : List String := ("FROM " ++ s.base.render) :: s.joins.map JoinClause.render

/-- The line of a filter under a keyword, if there is one. -/
def filterLines (keyword : String) : Option (Tree (Predicate Placeholder)) → List String
  | none => []
  | some tree => [keyword ++ " " ++ renderTree tree]

/-- The line of the grouping, if there is any. -/
def groupLines : List String :=
  if s.groupBy.isEmpty then []
  else ["GROUP BY " ++ ", ".intercalate (s.groupBy.map ColumnRef.render)]

/-- The line of the order, if there is any. -/
def orderLines : List String :=
  if s.orderBy.isEmpty then []
  else
    let keys := s.orderBy.map fun (key, direction) => key.render ++ " " ++ direction.keyword
    ["ORDER BY " ++ ", ".intercalate keys]

/-- The line of the page, if there is one. -/
def pagingLines : List String :=
  match s.paging with
  | none => []
  | some p => ["OFFSET " ++ p.offset.repr ++ " ROWS FETCH NEXT " ++ p.limit.repr ++ " ROWS ONLY"]

/-- The lines of a query, in order. -/
def lines : List String :=
  s.itemsLine :: s.sourceLines ++ filterLines "WHERE" s.rowFilter ++ s.groupLines ++
    filterLines "HAVING" s.groupFilter ++ s.orderLines ++ s.pagingLines

/-- The text of a query. -/
def render : String := "\n".intercalate s.lines

end Select

/-- The label of a number of rows. -/
def countLabel : String := "total_rows"

/-- A query for rows, or for the number of the rows of another. -/
inductive Query where
  | rows (select : Select Placeholder)
  | countOf (select : Select Placeholder)

namespace Query

/-- The text of a query. -/
def render : Query → String
  | .rows s => s.render
  | .countOf s =>
    "SELECT COUNT(*) AS " ++ quoteLabel countLabel ++ " FROM (\n" ++ s.render ++ "\n) sub"

end Query

end ReportSql
