import ReportSql.Proofs.Query.Parts
import ReportSql.Proofs.Routing.Flags
import ReportSql.Proofs.Token.Lexer
import ReportSql.Proofs.Tree.Relate

/-!
# What predicates are drawn from

The predicates of a query are over columns that the references of the request stand for, and name
nothing else of the request outside their holes.

## Main definitions

* `Expr.DrawnFrom`, `Predicate.DrawnFrom` — expressions and predicates of a dialect over some
  columns.
* `Request.references` — the references to columns that a request makes outside its joins.
* `Scope.IsColumn`, `Place.IsColumn` — the columns that these stand for.

## Main statements

* `drawnFrom_of_conditionPredicate` — the predicate of a condition is over its column.
* `Scope.matches_of_routeTree` — routing a tree gives a tree of predicates over columns of the
  request.
-/

namespace ReportSql

open Text

variable {options : Options} {names : ColumnRef → Prop}

/-! ## Expressions -/

/-- An expression of a dialect over one of some columns. -/
structure Expr.DrawnFrom (options : Options) (names : ColumnRef → Prop) (e : Expr) : Prop where
  suits : e.Suits options
  column : ∀ ref, e.column? = some ref → names ref

namespace Expr.DrawnFrom

variable {e : Expr}

theorem ofColumn {ref : ColumnRef} (h : names ref) : (Expr.column ref).DrawnFrom options names :=
  ⟨trivial, fun _ href => Option.some_inj.1 href ▸ h⟩

theorem ofAggregate (function : AggregateFunction) {ref : ColumnRef} (h : names ref) :
    (Expr.aggregate function ref).DrawnFrom options names :=
  ⟨trivial, fun _ href => Option.some_inj.1 href ▸ h⟩

theorem upper (h : e.DrawnFrom options names) : (Expr.upper e).DrawnFrom options names :=
  ⟨h.suits, h.column⟩

theorem castText (h : e.DrawnFrom options names) :
    (Expr.castText options.textType e).DrawnFrom options names :=
  ⟨⟨rfl, h.suits⟩, h.column⟩

theorem compared (h : e.DrawnFrom options names) (kind : ValueKind) :
    (comparedExpr options kind e).DrawnFrom options names := by
  unfold comparedExpr
  split
  · exact ⟨⟨rfl, h.suits⟩, h.column⟩
  · exact h

theorem searched (h : e.DrawnFrom options names) (kind : ValueKind) :
    (searchedExpr options kind e).DrawnFrom options names := by
  cases kind with
  | text => exact h.castText
  | number | date | timestamp => exact ⟨h.suits, h.column⟩

end Expr.DrawnFrom

/-! ## Predicates -/

/-- A predicate of a dialect over some columns, whose holes have stems that are names. -/
structure Predicate.DrawnFrom (options : Options) (names : ColumnRef → Prop) (p : Predicate Hole) :
    Prop where
  exprs : ∀ e ∈ p.exprs, e.DrawnFrom options names
  stems : ∀ h ∈ p.values, isName h.stem.toList = true

namespace Predicate.DrawnFrom

variable {e : Expr} {p : Predicate Hole}

/-- A predicate over one expression with the holes of a condition. -/
theorem ofExpr (he : e.DrawnFrom options names) (hexprs : p.exprs = [e])
    (hstems : ∀ h ∈ p.values, h.stem = conditionStem) : p.DrawnFrom options names := by
  refine ⟨fun e' he' => ?_, fun h hh => ?_⟩
  · rw [hexprs, List.mem_singleton] at he'
    rwa [he']
  · rw [hstems h hh]
    rfl

theorem always : (Predicate.always : Predicate Hole).DrawnFrom options names :=
  ⟨by simp [Predicate.exprs], by simp [values]⟩

theorem never : (Predicate.never : Predicate Hole).DrawnFrom options names :=
  ⟨by simp [Predicate.exprs], by simp [values]⟩

theorem of_unaryPredicate? (he : e.DrawnFrom options names) {kind : ValueKind}
    {operator : Operator} (h : unaryPredicate? e kind operator = some p) :
    p.DrawnFrom options names := by
  cases operator with
  | isNull | isNotNull =>
    cases h
    exact ofExpr he rfl (by simp [values])
  | isEmpty | isNotEmpty =>
    cases h
    split
    · exact ofExpr he rfl (by simp [values])
    · exact ofExpr he rfl (by simp [values])
  | _ => cases h

theorem of_scalarPredicate? (he : e.DrawnFrom options names) {kind : ValueKind}
    {operator : Operator} {s : Scalar}
    (h : scalarPredicate? options e kind operator s = some p) : p.DrawnFrom options names := by
  unfold scalarPredicate? at h
  split at h
  · cases h
    exact ofExpr (he.searched kind) rfl (by simp [searchPredicate, values, textHole])
  · obtain ⟨c, -, rfl⟩ := Option.map_eq_some_iff.1 h
    split
    · exact ofExpr he.castText rfl (by simp [values, textHole])
    · exact ofExpr (he.compared kind) rfl (by simp [values, kindHole])

theorem ofRange (he : e.DrawnFrom options names) (kind : ValueKind) (low high : Option Scalar) :
    (rangePredicate options e kind low high).DrawnFrom options names := by
  have hcompared := he.compared kind
  cases low with
  | none =>
    cases high with
    | none => exact always
    | some high => exact ofExpr hcompared rfl (by simp [rangePredicate, values, kindHole])
  | some low =>
    cases high with
    | none => exact ofExpr hcompared rfl (by simp [rangePredicate, values, kindHole])
    | some high => exact ofExpr hcompared rfl (by simp [rangePredicate, values, kindHole])

theorem ofList (he : e.DrawnFrom options names) (kind : ValueKind) (negated : Bool)
    (items : List Scalar) :
    (listPredicate options e kind negated items).DrawnFrom options names := by
  have htext : ∀ s : Scalar, (textItemHole s).stem = conditionStem := by
    intro s
    cases s <;> rfl
  cases kind with
  | text =>
    refine ofExpr he.castText.upper rfl fun h hh => ?_
    obtain ⟨s, -, rfl⟩ := List.mem_map.1 hh
    exact htext s
  | number | date | timestamp =>
    refine ofExpr he rfl fun h hh => ?_
    obtain ⟨s, -, rfl⟩ := List.mem_map.1 hh
    rfl

end Predicate.DrawnFrom

/-- **The predicate of a condition** is over the columns of its expression. -/
theorem drawnFrom_of_conditionPredicate {e : Expr} (he : e.DrawnFrom options names)
    {kind : ValueKind} {c : Condition} {p : Predicate Hole}
    (h : (conditionPredicate options e kind c).outcome = .ok p) : p.DrawnFrom options names := by
  unfold conditionPredicate at h
  split at h
  · next hunary =>
    cases h
    exact .of_unaryPredicate? he hunary
  · split at h
    · cases h
      exact .always
    · split at h
      · next hscalar =>
        cases h
        exact .of_scalarPredicate? he hscalar
      · cases h
    · split at h
      · obtain ⟨_, -, h⟩ := Traced.exists_of_outcome_bind h
        split at h
        · cases h
          split
          · exact .always
          · exact .never
        · cases h
          exact .ofList he kind _ _
      · cases h
    · split at h
      · cases h
        exact .ofRange he kind _ _
      · cases h

/-! ## Columns of a request -/

/-- The references to columns that a request makes outside its joins. -/
def Request.references (r : Request) : List String :=
  r.columns ++ r.groupBy ++ r.aggregations.map Aggregation.column ++
    r.sorting.map SortKey.column ++ r.filter.leaves.map Condition.column

/-- A column of a source that a reference of the request stands for. -/
def Scope.IsColumn (s : Scope) (settings : Settings) (ref : ColumnRef) : Prop :=
  ∃ column ∈ s.request.references, s.sources.columnRef? settings column = some ref

/-- A column of a request is a column of an occurrence that a reference stands for. -/
theorem Scope.IsColumn.exists_occurrence {s : Scope} {settings : Settings} {ref : ColumnRef}
    (h : s.IsColumn settings ref) :
    ∃ reference ∈ s.request.references, ∃ i column o,
      s.sources.resolveColumn reference = some (i, column) ∧
      s.sources.occurrences[i]? = some o ∧
      ref = .qualified o.name (settings.physicalColumn o.dataset column) := by
  obtain ⟨reference, hreference, href⟩ := h
  simp only [SourcePlan.columnRef?, Option.bind_eq_bind, Option.bind_eq_some_iff,
    Prod.exists] at href
  obtain ⟨i, column, hcolumn, o, ho, href⟩ := href
  exact ⟨reference, hreference, i, column, o, hcolumn, ho, (Option.some_inj.1 href).symm⟩

/-- A column as a filter in the outer query or within a source refers to it. -/
def Place.refers (place : Place) (ref : ColumnRef) : ColumnRef :=
  if place = .query then ref else ref.unqualified

/-- A column of the request as a filter at a place refers to it. -/
def Place.IsColumn (place : Place) (s : Scope) (settings : Settings) (ref : ColumnRef) : Prop :=
  ∃ column, s.IsColumn settings column ∧ place.refers column = ref

namespace Scope

variable {s : Scope} {settings : Settings} {place : Place}

/-- Outputs of aggregations are over columns of the request. -/
def OutputsDrawn (s : Scope) (settings : Settings) : Prop :=
  ∀ o ∈ s.aggregates.outputs, s.IsColumn settings o.column

theorem mem_outputs_of_get? {index : AggregateIndex} {name : String} {o : AggregateOutput}
    (h : index.get? name = some o) : o ∈ index.outputs := by
  unfold AggregateIndex.get? at h
  obtain ⟨position, -, hposition⟩ := Option.bind_eq_some_iff.1 h
  exact List.mem_of_getElem? hposition

/-- A condition refers to an output in the outer query alone, or to the column that its reference
stands for, or to nothing. -/
theorem target_cases (s : Scope) (settings : Settings) (place : Place) (column : String) :
    (∃ o, s.target settings place column = .output o ∧ place = .query ∧
      s.aggregates.get? column = some o) ∨
    (∃ found, s.target settings place column = .column (place.refers found) ∧
      s.sources.columnRef? settings column = some found) ∨
    s.target settings place column = .unresolved := by
  unfold target Place.refers
  by_cases hblank : (trim column).isEmpty
  · simp [hblank]
  · rw [if_neg hblank]
    cases place with
    | query =>
      cases hget : s.aggregates.get? column with
      | some o => simp
      | none => cases hcolumn : s.sources.columnRef? settings column <;> simp
    | source => cases hcolumn : s.sources.columnRef? settings column <;> simp

/-- A condition is routed to a predicate over the column of its output or the column that it refers
to. -/
theorem drawnFrom_of_routeCondition {promoted : Bool} {c : Condition} {r : Routed Hole}
    (houtput : ∀ o, place = .query → s.aggregates.get? c.column = some o → names o.column)
    (hcolumn : ∀ found, s.sources.columnRef? settings c.column = some found →
      names (place.refers found))
    (h : (s.routeCondition settings place promoted c).outcome = .ok r) :
    r.predicate.DrawnFrom settings.options names := by
  unfold routeCondition at h
  dsimp only at h
  rcases target_cases s settings place c.column with
    ⟨o, htarget, hplace, hget⟩ | ⟨found, htarget, hfound⟩ | htarget
  · rw [htarget] at h
    obtain ⟨p, hp, h⟩ := Traced.exists_of_outcome_bind h
    cases h
    exact drawnFrom_of_conditionPredicate (.ofAggregate o.function (houtput o hplace hget)) hp
  · rw [htarget] at h
    obtain ⟨p, hp, h⟩ := Traced.exists_of_outcome_bind h
    cases h
    refine drawnFrom_of_conditionPredicate ?_ hp
    split
    · exact .ofAggregate .max (hcolumn found hfound)
    · exact .ofColumn (hcolumn found hfound)
  · rw [htarget] at h
    obtain ⟨_, -, h⟩ := Traced.exists_of_outcome_bind h
    cases h
    exact .always

/-- **Routing gives every condition of a tree a predicate over columns of the request.** -/
theorem matches_of_routeTree (place : Place) (hs : s.OutputsDrawn settings) (t : Tree Condition)
    (hc : ∀ c ∈ t.leaves, c.column ∈ s.request.references) (promoted : Bool)
    (u : Tree (Routed Hole)) (h : (s.routeTree settings place promoted t).outcome = .ok u) :
    t.Matches (fun _ r => r.predicate.DrawnFrom settings.options (place.IsColumn s settings))
      u := by
  refine (matches_of_outcome_routeTree h).imp_of_mem fun c hmem r hr => ?_
  obtain ⟨_, hr⟩ := hr
  refine drawnFrom_of_routeCondition (fun o hplace ho => ?_) (fun found hfound => ?_) hr
  · exact ⟨o.column, hs o (mem_outputs_of_get? ho), by rw [hplace]; rfl⟩
  · exact ⟨found, ⟨c.column, hc c hmem, hfound⟩, rfl⟩

/-- The clause on rows of a filter is a group with as many members at most. -/
theorem exists_group_of_rowClause {promoted : Bool} {logic : Logic}
    {children : List (Tree Condition)} {u : Tree (Routed Hole)} {tree : Tree (Predicate Hole)}
    (h : (s.routeTree settings place promoted (.group logic children)).outcome = .ok u)
    (htree : rowClause u = some tree) :
    ∃ members, tree = .group logic members ∧ members ≠ [] ∧ members.length ≤ children.length := by
  obtain ⟨us, rfl, hall⟩ := Tree.matches_group.1 (matches_of_outcome_routeTree h)
  rw [rowClause, Tree.prune_group] at htree
  split at htree
  · cases htree
  · next hne =>
    cases htree
    refine ⟨_, rfl, by simpa using hne, ?_⟩
    rw [hall.length_eq]
    exact Tree.length_pruneAll_le _ us

end Scope

end ReportSql
