import ReportSql.Filter.Tree
import ReportSql.Request.Basic
import ReportSql.Sql.Identifier
import ReportSql.Sql.Placeholder

/-!
# Expressions and predicates

The expressions and comparisons of a query.  A predicate is generic in what stands at the places of
its values: a hole while the query is put together, a placeholder in the finished text.

## Main definitions

* `ColumnRef`, `Expr` — columns and what is computed from them.
* `Predicate α` — a comparison of an expression with values.
* `Predicate.traverse` — a pass over the values of a predicate, in the order of the text.
* `renderTree` — the text of predicates joined by AND and OR.
-/

namespace ReportSql

/-- A column, by itself or of a named source. -/
inductive ColumnRef where
  | bare (column : String)
  | qualified (source column : String)
deriving DecidableEq, Repr

namespace ColumnRef

/-- A column in query text. -/
def render : ColumnRef → String
  | .bare column => quotePart column
  | .qualified source column => quotePart source ++ "." ++ quotePart column

end ColumnRef

/-- What is computed from a column. -/
inductive Expr where
  | column (ref : ColumnRef)
  | aggregate (function : AggregateFunction) (ref : ColumnRef)
  /-- The number of rows. -/
  | countRows
  | castText (type : String) (e : Expr)
  /-- The day of a moment, by a function of the database. -/
  | day (function : String) (e : Expr)
  | upper (e : Expr)
  /-- A number as text, with a point before its fraction. -/
  | numberText (e : Expr)
  /-- A moment as text. -/
  | momentText (e : Expr)
deriving DecidableEq, Repr

namespace Expr

/-- An aggregate of a column in query text. -/
def renderAggregate (function : AggregateFunction) (ref : ColumnRef) : String :=
  match function with
  | .distinctCount => "COUNT(DISTINCT " ++ ref.render ++ ")"
  | f => f.keyword ++ "(" ++ ref.render ++ ")"

/-- An expression in query text. -/
def render : Expr → String
  | .column ref => ref.render
  | .aggregate function ref => renderAggregate function ref
  | .countRows => "COUNT(*)"
  | .castText type e => "CAST(" ++ e.render ++ " AS " ++ type ++ ")"
  | .day function e => function ++ "(" ++ e.render ++ ")"
  | .upper e => "UPPER(" ++ e.render ++ ")"
  | .numberText e => "TO_CHAR(" ++ e.render ++ ", 'TM', 'NLS_NUMERIC_CHARACTERS=''. ''')"
  | .momentText e => "TO_CHAR(" ++ e.render ++ ", 'YYYY-MM-DD HH24:MI:SS')"

end Expr

/-- How an expression is compared with one value. -/
inductive Comparison where
  | equal
  | notEqual
  | greater
  | atLeast
  | less
  | atMost
deriving DecidableEq, Repr

namespace Comparison

/-- The symbol of a comparison. -/
def symbol : Comparison → String
  | .equal => "="
  | .notEqual => "!="
  | .greater => ">"
  | .atLeast => ">="
  | .less => "<"
  | .atMost => "<="

/-- The comparison that an operator with one value makes. -/
def ofOperator? : Operator → Option Comparison
  | .equal => some .equal
  | .notEqual => some .notEqual
  | .greater => some .greater
  | .atLeast => some .atLeast
  | .less => some .less
  | .atMost => some .atMost
  | _ => none

end Comparison

/-- A comparison of an expression with values. -/
inductive Predicate (α : Type) where
  /-- True of every row. -/
  | always
  /-- True of no row. -/
  | never
  | isNull (e : Expr)
  | isNotNull (e : Expr)
  /-- Null or the empty text. -/
  | isBlank (e : Expr)
  /-- Neither null nor the empty text. -/
  | isNotBlank (e : Expr)
  | compare (e : Expr) (c : Comparison) (value : α)
  /-- A comparison of both sides in upper case. -/
  | compareUpper (e : Expr) (c : Comparison) (value : α)
  /-- A search for a pattern, both sides in upper case. -/
  | like (negated : Bool) (e : Expr) (pattern : α)
  | between (e : Expr) (low high : α)
  | among (negated : Bool) (e : Expr) (values : List α)

namespace Predicate

variable {α β : Type}

/-- The values of a predicate, in the order of the text. -/
def values : Predicate α → List α
  | .compare _ _ v | .compareUpper _ _ v | .like _ _ v => [v]
  | .between _ low high => [low, high]
  | .among _ _ vs => vs
  | _ => []

/-- The predicate with the images of its values, found in the order of the text. -/
def traverse {m : Type → Type} [Monad m] (f : α → m β) : Predicate α → m (Predicate β)
  | .always => pure .always
  | .never => pure .never
  | .isNull e => pure (.isNull e)
  | .isNotNull e => pure (.isNotNull e)
  | .isBlank e => pure (.isBlank e)
  | .isNotBlank e => pure (.isNotBlank e)
  | .compare e c v => do return .compare e c (← f v)
  | .compareUpper e c v => do return .compareUpper e c (← f v)
  | .like negated e v => do return .like negated e (← f v)
  | .between e low high => do
    let low ← f low
    let high ← f high
    return .between e low high
  | .among negated e vs => do return .among negated e (← vs.mapM f)

/-- A predicate in query text. -/
def render : Predicate Placeholder → String
  | .always => "1=1"
  | .never => "1=0"
  | .isNull e => e.render ++ " IS NULL"
  | .isNotNull e => e.render ++ " IS NOT NULL"
  | .isBlank e => "(" ++ e.render ++ " IS NULL OR " ++ e.render ++ " = '')"
  | .isNotBlank e => "(" ++ e.render ++ " IS NOT NULL AND " ++ e.render ++ " != '')"
  | .compare e c p => e.render ++ " " ++ c.symbol ++ " " ++ p.render
  | .compareUpper e c p =>
    "UPPER(" ++ e.render ++ ") " ++ c.symbol ++ " UPPER(" ++ p.render ++ ")"
  | .like negated e p =>
    "UPPER(" ++ e.render ++ ")" ++ (if negated then " NOT LIKE " else " LIKE ") ++
      "UPPER(" ++ p.render ++ ")"
  | .between e low high => e.render ++ " BETWEEN " ++ low.render ++ " AND " ++ high.render
  | .among negated e ps =>
    e.render ++ (if negated then " NOT IN (" else " IN (") ++
      ", ".intercalate (ps.map Placeholder.render) ++ ")"

end Predicate

/-! ## Trees of predicates -/

mutual

/-- A tree of predicates in query text, each member of a group between parentheses. -/
def renderTree : Tree (Predicate Placeholder) → String
  | .leaf p => p.render
  | .group logic children => (" " ++ logic.keyword ++ " ").intercalate (renderMembers children)

/-- The members of a group in query text. -/
def renderMembers : List (Tree (Predicate Placeholder)) → List String
  | [] => []
  | t :: ts => ("(" ++ renderTree t ++ ")") :: renderMembers ts

end

end ReportSql
