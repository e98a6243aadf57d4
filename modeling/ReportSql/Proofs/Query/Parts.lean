import ReportSql.Compile
import ReportSql.Proofs.Tree.Part

/-!
# Parts of queries

A query is made of predicates, and predicates of expressions over columns.  The predicates of a
query are listed in the order of its text, first those of its sources.

## Main definitions

* `Expr.column?`, `Expr.Suits` — the column of an expression, and expressions of a dialect.
* `Predicate.exprs` — the expressions of a predicate.
* `Source.predicates`, `Select.sources`, `Select.predicates` — the predicates of queries.
-/

namespace ReportSql

variable {α : Type}

namespace Expr

/-- The column that an expression is computed from. -/
def column? : Expr → Option ColumnRef
  | .column ref | .aggregate _ ref => some ref
  | .countRows => none
  | .castText _ e | .day _ e | .upper e | .numberText e | .momentText e => e.column?

/-- An expression of a dialect: it names no types and functions but those of the options. -/
def Suits (options : Options) : Expr → Prop
  | .column _ | .aggregate _ _ | .countRows => True
  | .castText type e => type = options.textType ∧ e.Suits options
  | .day function e => function = options.dayFunction ∧ e.Suits options
  | .upper e | .numberText e | .momentText e => e.Suits options

end Expr

/-- The expression of a predicate, if it compares one. -/
def Predicate.exprs : Predicate α → List Expr
  | .always | .never => []
  | .isNull e | .isNotNull e | .isBlank e | .isNotBlank e | .compare e _ _ | .compareUpper e _ _
  | .like _ e _ | .between e _ _ | .among _ e _ => [e]

/-- The predicates of a clause, in order. -/
def clausePredicates (clause : Option (Tree (Predicate α))) : List (Predicate α) :=
  clause.elim [] Tree.leaves

/-- The predicates of the clause on rows, in order. -/
theorem clausePredicates_rowClause (u : Tree (Routed α)) :
    clausePredicates (rowClause u) =
      (u.leaves.filter fun r => !r.ofGroups).map Routed.predicate := by
  rw [clausePredicates, rowClause, Tree.leaves_prune, ← List.filterMap_eq_map,
    List.filterMap_filter]
  congr 1
  funext r
  cases r.ofGroups <;> rfl

/-- The predicates of the clause on groups, in order. -/
theorem clausePredicates_groupClause (u : Tree (Routed α)) :
    clausePredicates (groupClause u) = (u.leaves.filter Routed.ofGroups).map Routed.predicate := by
  rw [clausePredicates, groupClause, Tree.leaves_prune, ← List.filterMap_eq_map,
    List.filterMap_filter]
  rfl

/-- The predicates of the two clauses are those of the tree. -/
theorem clausePredicates_perm (u : Tree (Routed α)) :
    (clausePredicates (rowClause u) ++ clausePredicates (groupClause u)).Perm
      (u.leaves.map Routed.predicate) := by
  rw [clausePredicates_rowClause, clausePredicates_groupClause, ← List.map_append]
  refine List.Perm.map _ (List.perm_append_comm.trans ?_)
  exact List.filter_append_perm Routed.ofGroups u.leaves

/-- The clause on rows of an image is the image of one part. -/
theorem rowClause_map {γ : Type} (g : γ → Routed α) (w : Tree γ) :
    rowClause (w.map g) =
      (w.part (fun x => (g x).ofGroups) false).map (Tree.map fun x => (g x).predicate) := by
  rw [rowClause, Tree.prune_map, Tree.part, Tree.map_prune]
  congr 1
  funext x
  cases h : (g x).ofGroups <;> simp [Tree.onSide, h]

/-- The clause on groups of an image is the image of the other part. -/
theorem groupClause_map {γ : Type} (g : γ → Routed α) (w : Tree γ) :
    groupClause (w.map g) =
      (w.part (fun x => (g x).ofGroups) true).map (Tree.map fun x => (g x).predicate) := by
  rw [groupClause, Tree.prune_map, Tree.part, Tree.map_prune]
  congr 1
  funext x
  cases h : (g x).ofGroups <;> simp [Tree.onSide, h]

/-- The predicates of a source, in order. -/
def Source.predicates (s : Source α) : List (Predicate α) :=
  s.load ++ clausePredicates (s.pushed.map Pushed.tree)

namespace Select

variable (s : Select α)

/-- The sources of a query, in order. -/
def sources : List (Source α) := s.base :: s.joins.map JoinClause.source

/-- The predicates of a query, in order. -/
def predicates : List (Predicate α) :=
  s.sources.flatMap Source.predicates ++ clausePredicates s.rowFilter ++
    clausePredicates s.groupFilter

end Select

/-- The query for rows within a query. -/
def Query.select : Query → Select Placeholder
  | .rows s | .countOf s => s

end ReportSql
