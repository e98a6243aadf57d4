import ReportSql.Proofs.Blind.Scopes

/-!
# Queries that do not see values

The text of a query, the names of its placeholders and what is reported while it is compiled depend
on a request without its values: the scalars of filters, the load identifiers, and the load type as
long as the datasets support it alike.

## Main definitions

* `Compiled.Alike` — compiled queries with the same text and the same names of placeholders.

## Main statements

* `Request.Alike.draft` — requests that differ in values alone have drafts that do.
* `Request.Alike.compile_alike` — values influence neither the query nor what is reported.
-/

namespace ReportSql

/-! ## Sources -/

namespace Scope.Alike

variable {settings : Settings} {s s' : Scope}

/-- What does not depend on values is the same for both scopes. -/
theorem congr {β : Type} (h : s.Alike settings s') (f : Scope → β)
    (hf : ∀ filters? partitionFilters? partitionLoadType?,
      f { s with request := { s.request with filters?, partitionFilters?, partitionLoadType? } } =
        f s) : f s' = f s := by
  obtain ⟨r, sources, aggregates⟩ := s
  obtain ⟨r', _, _⟩ := s'
  obtain ⟨hr, rfl, rfl⟩ := h
  exact hr.congr (fun r => f ⟨r, sources, aggregates⟩) hf

/-- The clauses on rows of filters that differ in values alone. -/
theorem rowClause_alike {u u' : Tree (Routed Hole)}
    (h : u.Matches (Routed.Matches Hole.Alike) u') :
    Option.Rel (Tree.Matches (Predicate.Matches Hole.Alike)) (rowClause u) (rowClause u') := by
  refine h.prune ?_
  intro r r' hr
  rw [hr.ofGroups]
  split
  · exact .none
  · exact .some hr.predicate

theorem pushedClause (h : s.Alike settings s') {g g' : Option Filter}
    (hg : Option.Rel (FilterGroup.Matches Condition.Alike) g g') :
    Traced.Alike (Option.Rel (Pushed.Matches Hole.Alike)) (s.pushedClause settings g)
      (s'.pushedClause settings g') := by
  cases hg with
  | none => exact .pure .none
  | @some g g' hg =>
    refine (h.routeFilter .source hg).bind fun u u' hu => .pure ?_
    exact rel_map (fun _ _ htree => ⟨htree, isChoice_eq_of_matches hg⟩) (rowClause_alike hu)

/-- Sources are restricted by predicates that differ in values alone. -/
theorem source (h : s.Alike settings s') (o : Occurrence) {g g' : Option Filter}
    (hg : Option.Rel (FilterGroup.Matches Condition.Alike) g g') :
    Traced.Alike (Source.Matches Hole.Alike) (s.source settings o g) (s'.source settings o g') := by
  unfold Scope.source
  refine (h.request.loadPredicates o.dataset).bind fun load load' hload => ?_
  exact (h.pushedClause hg).bind fun p p' hp => .pure ⟨rfl, rfl, hload, hp⟩

theorem occurrence (h : s.Alike settings s') (position : Nat) :
    s'.occurrence position = s.occurrence position :=
  h.congr (·.occurrence position) fun _ _ _ => rfl

theorem joinClause (h : s.Alike settings s') {plan plan' : Pushdown} (hplan : plan.Alike plan')
    (j : PlannedJoin) :
    Traced.Alike (JoinClause.Matches Hole.Alike) (s.joinClause settings plan j)
      (s'.joinClause settings plan' j) := by
  unfold Scope.joinClause
  rw [h.occurrence, h.occurrence]
  exact (h.source _ (hplan.at? j.right)).bind fun _ _ hsource => .pure ⟨rfl, hsource, rfl⟩

theorem joinClauses (h : s.Alike settings s') {plan plan' : Pushdown} (hplan : plan.Alike plan')
    (js : List PlannedJoin) :
    Traced.Alike (List.Forall₂ (JoinClause.Matches Hole.Alike)) (s.joinClauses settings plan js)
      (s'.joinClauses settings plan' js) := by
  induction js with
  | nil => exact .pure .nil
  | cons j js ih =>
    unfold Scope.joinClauses
    exact (h.joinClause hplan j).bind fun _ _ hclause =>
      ih.bind fun _ _ hclauses => .pure (.cons hclause hclauses)

/-! ## The outer query -/

theorem outerFilter (h : s.Alike settings s') {g g' : Filter}
    (hg : g.Matches Condition.Alike g') :
    Traced.Alike (Option.Rel (Tree.Matches (Routed.Matches Hole.Alike)))
      (s.outerFilter settings g) (s'.outerFilter settings g') := by
  unfold Scope.outerFilter
  rw [hg.isEmpty_eq]
  split
  · exact .pure .none
  · exact (h.routeFilter .query hg).bind fun _ _ hu => .pure (.some hu)

theorem orderOf (h : s.Alike settings s') (key : SortKey) :
    s'.orderOf settings key = s.orderOf settings key := by
  have hgrouped : s'.request.isGrouped = s.request.isGrouped :=
    h.request.congr Request.isGrouped fun _ _ _ => rfl
  have hsort : s'.isGroupedSort key = s.isGroupedSort key :=
    h.congr (·.isGroupedSort key) fun _ _ _ => rfl
  unfold Scope.orderOf
  rw [hgrouped, hsort, h.sources, h.aggregates]

theorem orderBy (h : s.Alike settings s') (keys : List SortKey) :
    s'.orderBy settings keys = s.orderBy settings keys := by
  induction keys with
  | nil => rfl
  | cons key keys ih => rw [Scope.orderBy, Scope.orderBy, h.orderOf, ih]

/-- The output columns are found alike. -/
theorem selectedColumns (h : s.Alike settings s') :
    s'.selectedColumns settings s'.selectedNames = s.selectedColumns settings s.selectedNames := by
  have hnames : s'.selectedNames = s.selectedNames := h.congr Scope.selectedNames fun _ _ _ => rfl
  have hcolumns : ∀ columns, s'.selectedColumns settings columns =
      s.selectedColumns settings columns := by
    intro columns
    induction columns with
    | nil => rfl
    | cons column columns ih =>
      rw [Scope.selectedColumns, Scope.selectedColumns, h.sources, ih]
  rw [hnames, hcolumns]

theorem items (h : s.Alike settings s') (refs : List ColumnRef) : s'.items refs = s.items refs :=
  h.congr (·.items refs) fun _ _ _ => rfl

/-- The joins are put in the same order. -/
theorem reorder (h : s.Alike settings s') (weights : List Nat) :
    Scope.Alike settings { s with sources := s.sources.reorder weights }
      { s' with sources := s'.sources.reorder weights } :=
  ⟨h.request, by rw [h.sources], h.aggregates⟩

end Scope.Alike

/-! ## Drafts -/

namespace Request.Alike

variable {settings : Settings} {r r' : Request}

theorem scope (h : r.Alike settings r') :
    OutcomesAlike (Scope.Alike settings) (Scope.ofRequest settings r)
      (Scope.ofRequest settings r') := by
  have hsources : SourcePlan.ofRequest r' = SourcePlan.ofRequest r :=
    h.congr SourcePlan.ofRequest fun _ _ _ => rfl
  have haggregates : ∀ p, AggregateIndex.ofRequest settings r' p =
      AggregateIndex.ofRequest settings r p :=
    fun p => h.congr (AggregateIndex.ofRequest settings · p) fun _ _ _ => rfl
  unfold Scope.ofRequest
  refine (OutcomesAlike.of_eq hsources).bind ?_
  rintro sources _ rfl
  refine (OutcomesAlike.of_eq (haggregates sources)).bind ?_
  rintro aggregates _ rfl
  exact .ok ⟨h, rfl, rfl⟩

/-- **Requests that differ in values alone have drafts that do.** -/
theorem draft (h : r.Alike settings r') (paged : Bool) :
    Traced.Alike Draft.Alike (Draft.ofRequest settings r paged)
      (Draft.ofRequest settings r' paged) := by
  unfold Draft.ofRequest
  refine (Traced.Alike.ofExcept h.scope).bind fun s s' hs => ?_
  have hplan := Pushdown.Alike.ofScope hs
  -- joins are ordered by the numbers of conditions moved, which do not depend on values
  have hweights := hplan.weights
  have hscope := hs.reorder (Pushdown.ofScope s).weights
  have hevents : (Pushdown.ofScope s).events s.sources.occurrences =
      (Pushdown.ofScope s').events s'.sources.occurrences := by
    rw [← hs.sources]
    exact hplan.events s.sources.occurrences
  refine .reportAll_bind hevents ?_
  rw [← hweights]
  dsimp only
  rw [hscope.occurrence 0]
  refine (hscope.source _ (hplan.at? 0)).bind fun base base' hbase => ?_
  rw [← hs.sources] at hscope ⊢
  refine (hscope.joinClauses hplan _).bind fun joins joins' hjoins => ?_
  refine (hscope.outerFilter hplan.remaining).bind fun filter filter' hfilter => ?_
  rw [hscope.selectedColumns]
  refine (Traced.Alike.refl _).bind ?_
  rintro refs _ rfl
  have hsorting : r'.sorting = r.sorting := h.congr Request.sorting fun _ _ _ => rfl
  have hhints : r'.useHints = r.useHints := h.congr Request.useHints fun _ _ _ => rfl
  have hgrouped : r'.isGrouped = r.isGrouped := h.congr Request.isGrouped fun _ _ _ => rfl
  have hoffset : r'.offset = r.offset := h.congr Request.offset fun _ _ _ => rfl
  have hlimit : r'.limit = r.limit := h.congr Request.limit fun _ _ _ => rfl
  rw [hscope.orderBy, hscope.items, hsorting, hhints, hgrouped, hoffset, hlimit]
  split
  · refine (Traced.Alike.refl _).bind ?_
    rintro orderBy _ rfl
    exact .pure ⟨rfl, rfl, hbase, hjoins, hfilter, rfl, rfl, rfl⟩
  · refine (Traced.Alike.refl _).bind ?_
    rintro orderBy _ rfl
    exact .pure ⟨rfl, rfl, hbase, hjoins, hfilter, rfl, rfl, rfl⟩

/-! ## Queries -/

theorem checked (h : r.Alike settings r') (needsSelection : Bool) :
    checked r' needsSelection = checked r needsSelection := by
  have hdataset : r'.dataset = r.dataset := h.congr Request.dataset fun _ _ _ => rfl
  have hlimit : r'.limit = r.limit := h.congr Request.limit fun _ _ _ => rfl
  have hjoins : r'.joins = r.joins := h.congr Request.joins fun _ _ _ => rfl
  have hcolumns : r'.columns = r.columns := h.congr Request.columns fun _ _ _ => rfl
  have haggregations : r'.aggregations = r.aggregations :=
    h.congr Request.aggregations fun _ _ _ => rfl
  unfold ReportSql.checked Request.validate
  rw [hdataset, hlimit, hjoins, hcolumns, haggregations]

end Request.Alike

/-- Two compiled queries with the same text and the same names of placeholders. -/
def Compiled.Alike (q q' : Compiled) : Prop :=
  q.text = q'.text ∧ q.values.keys = q'.values.keys

theorem finish_alike (query : Query) {b b' : Bindings} (h : b.Alike b') :
    Traced.Alike Compiled.Alike (finish query b) (finish query b') := by
  unfold finish
  rw [h.size]
  exact .report_bind _ (.pure ⟨rfl, h.keys_toDict⟩)

/-- **Values influence neither the query nor what is reported.**  For requests that differ in values
alone, either no query can be made of both, or the queries have the same text and the same names of
placeholders; and the same events are reported. -/
theorem Request.Alike.compile_alike {settings : Settings} {r r' : Request}
    (h : r.Alike settings r') :
    Traced.Alike Compiled.Alike (compile settings r) (compile settings r') ∧
      Traced.Alike Compiled.Alike (compileCount settings r) (compileCount settings r') := by
  constructor
  · unfold compile
    rw [h.checked]
    refine (Traced.Alike.refl _).bind fun _ _ _ => ?_
    refine (h.draft true).bind fun d d' hd => ?_
    dsimp only
    rw [hd.number_fst]
    exact finish_alike _ hd.number_snd
  · have hgrouped : r'.isGrouped = r.isGrouped := h.congr Request.isGrouped fun _ _ _ => rfl
    unfold compileCount
    rw [h.checked, hgrouped]
    refine (Traced.Alike.refl _).bind fun _ _ _ => ?_
    refine (h.draft false).bind fun d d' hd => ?_
    dsimp only
    rw [hd.number_fst]
    split
    · exact finish_alike _ hd.number_snd
    · exact finish_alike _ hd.number_snd

/-- Settings with a partitioned dataset that has loads of two types. -/
def loadSettings : Settings where
  partition? dataset :=
    if dataset = "EMP" then some ⟨"LOAD_ID", some "LOAD_TYPE", some ["FULL", "DELTA"]⟩ else none
  physicalTable dataset := dataset
  physicalColumn _ column := column

/-- A request for some of the staff in one load. -/
def staffOfLoad (name : String) (pay load : Scalar) (loadType : String) : Request where
  dataset := "EMP"
  columns? := some ["NAME"]
  filters? := some
    { children := [.leaf ⟨"NAME", .text, .contains, .scalar (.text name)⟩,
        .leaf ⟨"PAY", .number, .between, .range (some pay) none⟩] }
  partitionFilters? := some (.ofList [("EMP", [load])])
  partitionLoadType? := some loadType

/-- A request with plain values. -/
def plainStaff : Request := staffOfLoad "ann" (.int 10) (.int 7) "full"

/-- A request with values that are made up to look like query text. -/
def craftedStaff : Request :=
  staffOfLoad "'; DROP TABLE EMP; --" (.text "1 OR 1=1") (.text "x') OR ('a' = 'a") "delta"

theorem compile_alike_staff :
    plainStaff.Alike loadSettings craftedStaff ∧
      Traced.Alike Compiled.Alike (compile loadSettings plainStaff)
        (compile loadSettings craftedStaff) ∧
      Traced.Alike Compiled.Alike (compileCount loadSettings plainStaff)
        (compileCount loadSettings craftedStaff) := by
  have htypes : loadSettings.LoadTypesAlike "full" "delta" := by
    intro dataset spec hspec
    unfold loadSettings at hspec
    dsimp only at hspec
    split at hspec
    · cases hspec
      exact ⟨rfl, fun h => absurd h (by decide)⟩
    · cases hspec
  have hname : FilterValue.Alike (.scalar (.text "ann"))
      (.scalar (.text "'; DROP TABLE EMP; --")) := .scalar _ _
  have hpay : FilterValue.Alike (.range (some (.int 10)) none)
      (.range (some (.text "1 OR 1=1")) none) := .range rfl rfl
  have halike : plainStaff.Alike loadSettings craftedStaff :=
    { rest := rfl
      filters := .some ⟨rfl, ⟨rfl, rfl, rfl, hname⟩, ⟨rfl, rfl, rfl, hpay⟩, trivial⟩
      partitionFilters := .some (.cons ⟨rfl, rfl⟩ .nil)
      loadType := .some htypes }
  exact ⟨halike, halike.compile_alike⟩

end ReportSql
