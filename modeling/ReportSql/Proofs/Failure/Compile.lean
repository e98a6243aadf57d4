import ReportSql.Proofs.Failure.Checks
import ReportSql.Proofs.Failure.Reading
import ReportSql.Proofs.Query.Drawn
import ReportSql.Proofs.Query.Loads

/-!
# When requests compile

A request for rows compiles if and only if it passes its checks, and otherwise fails with the error
of the first that it does not pass.  Conditions that were built have predicates, a sort that cannot
be resolved is left aside, and so is a load restriction that does not apply, so filters, sorts and
load restrictions never make a request fail.

## Main definitions

* `Request.Compilable` — the requests for rows that compile.
* `Request.FailsAsChecked` — a request that fails as its checks say.

## Main statements

* `Scope.exists_routeTree_of_isBuilt` — a filter of conditions that were built is routed.
* `Draft.guarded_ofRequest` — drafting a request makes its checks on datasets.
* `failsAsChecked_of_isBuilt` — requests fail as their checks say.
-/

namespace ReportSql

open Text

variable {settings : Settings} {r : Request} {s : Scope}

/-- Steps that succeed make a sequence that does. -/
theorem Traced.exists_outcome_bind {α β : Type} {x : Traced α} {f : α → Traced β}
    (hx : ∃ a, x.outcome = .ok a) (hf : ∀ a, x.outcome = .ok a → ∃ b, (f a).outcome = .ok b) :
    ∃ b, (x >>= f).outcome = .ok b := by
  obtain ⟨a, ha⟩ := hx
  rw [Traced.outcome_bind_of_ok ha]
  exact hf a ha

namespace Scope

/-! ## Filters -/

theorem exists_routeCondition_of_isBuilt {c : Condition} (hc : c.IsBuilt) (place : Place)
    (promoted : Bool) : ∃ r, (s.routeCondition settings place promoted c).outcome = .ok r := by
  unfold routeCondition
  dsimp only
  split
  · exact Traced.exists_outcome_bind (hc.exists_predicate _ _ _) fun _ _ => ⟨_, rfl⟩
  · exact Traced.exists_outcome_bind (hc.exists_predicate _ _ _) fun _ _ => ⟨_, rfl⟩
  · exact ⟨_, rfl⟩

mutual

/-- **A filter of conditions that were built is routed**, in the outer query and within sources. -/
theorem exists_routeTree_of_isBuilt : ∀ (t : Tree Condition) (place : Place) (promoted : Bool),
    (∀ c ∈ t.leaves, c.IsBuilt) →
      ∃ u, (s.routeTree settings place promoted t).outcome = .ok u
  | .leaf c, place, promoted, hbuilt => by
    rw [routeTree]
    exact Traced.exists_outcome_bind
      (exists_routeCondition_of_isBuilt (hbuilt c (by simp)) place promoted) fun _ _ => ⟨_, rfl⟩
  | .group logic children, place, promoted, hbuilt => by
    rw [routeTree]
    exact Traced.exists_outcome_bind
      (exists_routeTrees_of_isBuilt children place _ (by simpa using hbuilt)) fun _ _ => ⟨_, rfl⟩

theorem exists_routeTrees_of_isBuilt :
    ∀ (ts : List (Tree Condition)) (place : Place) (promoted : Bool),
      (∀ c ∈ Tree.leavesAll ts, c.IsBuilt) →
        ∃ us, (s.routeTrees settings place promoted ts).outcome = .ok us
  | [], place, promoted, _ => by
    rw [routeTrees]
    exact ⟨[], rfl⟩
  | t :: ts, place, promoted, hbuilt => by
    rw [routeTrees]
    refine Traced.exists_outcome_bind
      (exists_routeTree_of_isBuilt t place promoted fun c hc => hbuilt c (by simp [hc]))
      fun u _ => ?_
    exact Traced.exists_outcome_bind
      (exists_routeTrees_of_isBuilt ts place promoted fun c hc => hbuilt c (by simp [hc]))
      fun us _ => ⟨_, rfl⟩

end

theorem exists_outerFilter {g : Filter} (hbuilt : ∀ c ∈ g.leaves, c.IsBuilt) :
    ∃ filter, (s.outerFilter settings g).outcome = .ok filter := by
  unfold outerFilter
  split
  · exact ⟨none, rfl⟩
  · have hleaves : ∀ c ∈ g.toTree.leaves, c.IsBuilt := by simpa using hbuilt
    exact Traced.exists_outcome_bind (exists_routeTree_of_isBuilt _ _ _ hleaves) fun _ _ => ⟨_, rfl⟩

/-! ## Sources -/

theorem exists_loadPredicates (dataset : String) :
    ∃ load, (loadPredicates settings r dataset).outcome = .ok load := by
  by_cases hvalues : r.partitionValues dataset = []
  · exact ⟨[], loadPredicates_eq_nil (.inl hvalues)⟩
  · cases hspec : settings.partition? dataset with
    | none => exact ⟨[], loadPredicates_eq_nil (.inr hspec)⟩
    | some spec => exact ⟨_, loadPredicates_of_spec hvalues hspec⟩

theorem exists_source {g : Option Filter} (hbuilt : ∀ h, g = some h → ∀ c ∈ h.leaves, c.IsBuilt)
    (o : Occurrence) : ∃ source, (s.source settings o g).outcome = .ok source := by
  have hpushed : ∃ clause, (s.pushedClause settings g).outcome = .ok clause := by
    cases g with
    | none => exact ⟨none, rfl⟩
    | some g =>
      have hleaves : ∀ c ∈ g.toTree.leaves, c.IsBuilt := by simpa using hbuilt g rfl
      exact Traced.exists_outcome_bind (exists_routeTree_of_isBuilt _ _ _ hleaves)
        fun _ _ => ⟨_, rfl⟩
  refine Traced.exists_outcome_bind (exists_loadPredicates o.dataset) fun load _ => ?_
  exact Traced.exists_outcome_bind hpushed fun _ _ => ⟨_, rfl⟩

theorem exists_joinClauses {plan : Pushdown}
    (hbuilt : ∀ k h, plan.at? k = some h → ∀ c ∈ h.leaves, c.IsBuilt) (js : List PlannedJoin) :
    ∃ clauses, (s.joinClauses settings plan js).outcome = .ok clauses := by
  induction js with
  | nil => exact ⟨[], rfl⟩
  | cons j js ih =>
    have hclause : ∃ clause, (s.joinClause settings plan j).outcome = .ok clause :=
      Traced.exists_outcome_bind (exists_source (hbuilt j.right) _) fun _ _ => ⟨_, rfl⟩
    exact Traced.exists_outcome_bind hclause fun _ _ =>
      Traced.exists_outcome_bind ih fun _ _ => ⟨_, rfl⟩

/-! ## Selection and order -/

/-- **A sort is part of the order or left aside.** -/
theorem exists_orderBy (settings : Settings) (s : Scope) (keys : List SortKey) :
    ∃ orders, (s.orderBy settings keys).outcome = .ok orders := by
  induction keys with
  | nil => exact ⟨[], rfl⟩
  | cons key keys ih =>
    have horder : ∃ order, (s.orderOf settings key).outcome = .ok order := by
      unfold orderOf
      split
      · exact ⟨_, rfl⟩
      · split
        · exact ⟨_, rfl⟩
        · split <;> exact ⟨_, rfl⟩
    exact Traced.exists_outcome_bind horder fun _ _ =>
      Traced.exists_outcome_bind ih fun _ _ => ⟨_, rfl⟩

/-- Finding the selected columns of a request makes the checks on their references. -/
theorem guarded_selectedColumns (h : s.PlannedFor settings r) (columns : List String) :
    Guarded (s.selectedColumns settings columns) (columns.map r.columnCheck) := by
  obtain ⟨p, weights, hp, hsources, -, -⟩ := h.exists_sources
  induction columns with
  | nil => exact .ok []
  | cons column columns ih =>
    have hcolumn : Guarded (s.sources.selectedColumn settings column) [r.columnCheck column] := by
      rw [hsources, SourcePlan.selectedColumn_reorder]
      exact SourcePlan.guarded_selectedColumn hp settings column
    have hbind : s.selectedColumns settings (column :: columns) =
        (s.sources.selectedColumn settings column).bind fun ref =>
          (s.selectedColumns settings columns).bind fun refs => .ok (ref :: refs) := by
      rw [selectedColumns]
      rfl
    rw [hbind]
    exact hcolumn.bind fun ref _ => ih.map (ref :: ·)

end Scope

/-! ## Drafts and queries -/

/-- **Drafting a request makes its checks on datasets.** -/
theorem Draft.guarded_ofRequest (hbuilt : ∀ c ∈ r.filter.leaves, c.IsBuilt) (paged : Bool) :
    Guarded (Draft.ofRequest settings r paged).outcome
      (Request.joinChecks (.ofBase r.dataset) r.joins ++
        (r.aggregations.map fun a => r.columnCheck a.column) ++
          r.selection.map r.columnCheck) := by
  refine Guarded.bindTraced (Scope.guarded_ofRequest settings r) fun planned hplanned => ?_
  have hs : planned.arranged.PlannedFor settings r := ⟨planned, hplanned, rfl⟩
  obtain rfl : planned.request = r := hs.request_eq
  obtain ⟨hpushed, hremaining⟩ := planned.mem_leaves_of_fromPosition 0
    planned.sources.occurrences planned.request.filter
  have hmoved : ∀ k g, (Pushdown.ofScope planned).at? k = some g → ∀ c ∈ g.leaves, c.IsBuilt :=
    fun k g hk c hc => hbuilt c (hpushed k g hk c hc)
  refine Guarded.bindTraced_of_exists ⟨(), rfl⟩ fun _ _ => ?_
  refine Guarded.bindTraced_of_exists (Scope.exists_source (hmoved 0) _) fun base _ => ?_
  refine Guarded.bindTraced_of_exists (Scope.exists_joinClauses hmoved _) fun joins _ => ?_
  refine Guarded.bindTraced_of_exists
    (Scope.exists_outerFilter fun c hc => hbuilt c (hremaining c hc)) fun filter _ => ?_
  rw [← List.append_nil (planned.request.selection.map _)]
  refine Guarded.bindTraced (Scope.guarded_selectedColumns hs _) fun refs _ => ?_
  refine .of_exists ?_
  cases paged with
  | true =>
    exact Traced.exists_outcome_bind (Scope.exists_orderBy settings _ _) fun _ _ => ⟨_, rfl⟩
  | false => exact ⟨_, rfl⟩

/-- **Compiling a request for rows makes all its checks.** -/
theorem guarded_compile (hbuilt : ∀ c ∈ r.filter.leaves, c.IsBuilt) :
    Guarded (compile settings r).outcome r.checks := by
  unfold Request.checks
  rw [← List.append_nil (_ ++ _), List.append_assoc, List.append_assoc, List.append_assoc]
  refine Guarded.bindTraced (guarded_checked r) fun _ _ => ?_
  rw [← List.append_assoc, ← List.append_assoc]
  exact Guarded.bindTraced (Draft.guarded_ofRequest hbuilt true) fun draft _ => .of_exists ⟨_, rfl⟩

/-! ## Requests that compile -/

/-- The requests for rows that compile. -/
structure Request.Compilable (r : Request) : Prop where
  dataset : trim r.dataset ≠ ""
  limit : 1 ≤ r.limit ∧ r.limit ≤ 100000
  pairs : ∀ j ∈ r.joins, j.pairs ≠ []
  selects : r.columns ≠ [] ∨ r.aggregations ≠ []
  /-- A join refers to a dataset that is part of the query before it. -/
  joins : ∀ before j after, r.joins = before ++ j :: after →
    ((r.introduced before).resolveQualifier j.leftDataset).isSome = true
  aggregations : ∀ a ∈ r.aggregations,
    ((r.introduced r.joins).resolveColumn a.column).isSome = true
  selection : ∀ column ∈ r.selection,
    ((r.introduced r.joins).resolveColumn column).isSome = true

namespace Request

theorem forall_validityChecks_iff :
    (∀ check ∈ r.validityChecks, check.passes = true) ↔
      trim r.dataset ≠ "" ∧ (1 ≤ r.limit ∧ r.limit ≤ 100000) ∧ (∀ j ∈ r.joins, j.pairs ≠ []) ∧
        (r.columns ≠ [] ∨ r.aggregations ≠ []) := by
  simp [validityChecks, or_imp, forall_and]

theorem forall_joinChecks_iff {p : SourcePlan} {joins : List Join} :
    (∀ check ∈ joinChecks p joins, check.passes = true) ↔
      ∀ before j after, joins = before ++ j :: after →
        ((before.foldl (fun p j => p.introduce j.rightDataset) p).resolveQualifier
          j.leftDataset).isSome = true := by
  induction joins generalizing p with
  | nil => simp [joinChecks]
  | cons j joins ih =>
    rw [joinChecks, List.forall_mem_cons, ih]
    constructor
    · rintro ⟨hfirst, hrest⟩ before j' after h
      cases before with
      | nil =>
        cases h
        exact hfirst
      | cons b before =>
        cases h
        exact hrest before j' after rfl
    · intro h
      refine ⟨h [] j joins rfl, fun before j' after heq => h (j :: before) j' after ?_⟩
      rw [heq, List.cons_append]

/-- The error of a check on a join is about a join. -/
theorem exists_join_of_mem_joinChecks {p : SourcePlan} {joins : List Join} {check : Check}
    (h : check ∈ joinChecks p joins) : ∃ j ∈ joins, check.error = .unresolvedJoin j := by
  induction joins generalizing p with
  | nil => simp [joinChecks] at h
  | cons j joins ih =>
    rw [joinChecks, List.mem_cons] at h
    rcases h with rfl | h
    · exact ⟨j, by simp, rfl⟩
    · obtain ⟨j', hj', herror⟩ := ih h
      exact ⟨j', by simp [hj'], herror⟩

/-- **A request passes its checks if and only if it can be compiled.** -/
theorem forall_checks_iff :
    (∀ check ∈ r.checks, check.passes = true) ↔ r.Compilable := by
  simp only [checks, List.forall_mem_append, List.forall_mem_map, passes_columnCheck]
  rw [forall_validityChecks_iff, forall_joinChecks_iff]
  constructor
  · rintro ⟨⟨⟨⟨hdataset, hlimit, hpairs, hselects⟩, hjoins⟩, haggregations⟩, hselection⟩
    exact ⟨hdataset, hlimit, hpairs, hselects, hjoins, haggregations, hselection⟩
  · intro h
    exact ⟨⟨⟨⟨h.dataset, h.limit, h.pairs, h.selects⟩, h.joins⟩, h.aggregations⟩, h.selection⟩

/-- What an error says about a request: that the request is not valid, or else that no query can be
put together, and from which of its joins or columns. -/
def Reports (r : Request) (e : CompileError) : Prop :=
  (∃ error, e = .invalid error ∧ e.message = "invalid request: " ++ error.message ∧
    e.context = none) ∨
  e.message = "sql generation error: " ++ e.generationMessage ∧
    ((∃ j ∈ r.joins, e = .unresolvedJoin j ∧ e.context = some j.toJson.sorted) ∨
      ∃ column ∈ r.aggregations.map Aggregation.column ++ r.selection,
        e = .unresolvedColumn column ∧ e.context = some (.text column))

theorem reports_of_mem_checks {check : Check} (h : check ∈ r.checks) : r.Reports check.error := by
  simp only [checks, validityChecks, List.mem_append, List.mem_cons, List.mem_map,
    List.not_mem_nil, or_false] at h
  rcases h with ((((rfl | rfl | ⟨j, -, rfl⟩) | rfl) | h) | ⟨a, ha, rfl⟩) | ⟨column, hcolumn, rfl⟩
  · exact .inl ⟨_, rfl, rfl, rfl⟩
  · exact .inl ⟨_, rfl, rfl, rfl⟩
  · exact .inl ⟨_, rfl, rfl, rfl⟩
  · exact .inl ⟨_, rfl, rfl, rfl⟩
  · obtain ⟨j, hj, herror⟩ := exists_join_of_mem_joinChecks h
    rw [herror]
    exact .inr ⟨rfl, .inl ⟨j, hj, rfl, rfl⟩⟩
  · have hmem : a.column ∈ r.aggregations.map Aggregation.column := List.mem_map_of_mem ha
    exact .inr ⟨rfl, .inr ⟨a.column, List.mem_append_left _ hmem, rfl, rfl⟩⟩
  · exact .inr ⟨rfl, .inr ⟨column, List.mem_append_right _ hcolumn, rfl, rfl⟩⟩

/-- A request for rows that compiles exactly when it should, and fails as its checks say. -/
structure FailsAsChecked (settings : Settings) (r : Request) : Prop where
  succeeds : (∃ c, (compile settings r).outcome = .ok c) ↔ r.Compilable
  /-- The error is that of the first check that the request does not pass. -/
  fails : ∀ e, (compile settings r).outcome = .error e ↔ firstFailure r.checks = some e
  reports : ∀ e, (compile settings r).outcome = .error e → r.Reports e
  /-- Other filters, sorts, load restrictions or knowledge of columns and datasets change nothing
  about the failure. -/
  independent : ∀ settings' filters? sorting? columnMetadata? partitionFilters? partitionLoadType?,
    (∀ g, filters? = some g → ∀ c ∈ FilterGroup.leaves g, c.IsBuilt) →
      failure? (compile settings' { r with
        filters?, sorting?, columnMetadata?, partitionFilters?, partitionLoadType? }).outcome =
          failure? (compile settings r).outcome

end Request

/-- **Requests compile exactly when they should, and fail as their checks say**, if they were read
from a text or their conditions were built. -/
theorem failsAsChecked_of_isBuilt (settings : Settings) (r : Request)
    (h : (∃ text, readRequest text = .ok r) ∨ ∀ c ∈ r.filter.leaves, c.IsBuilt) :
    r.FailsAsChecked settings := by
  have hbuilt : ∀ c ∈ r.filter.leaves, c.IsBuilt :=
    h.elim (fun ⟨_, hread⟩ => Request.isBuilt_of_readRequest hread) id
  have hguarded : Guarded (compile settings r).outcome r.checks := guarded_compile hbuilt
  refine ⟨?succeeds, fun e => hguarded.eq_error_iff, ?reports, ?independent⟩
  case succeeds => rw [hguarded.exists_ok_iff, Request.forall_checks_iff]
  case reports =>
    intro e he
    obtain ⟨check, hcheck, rfl⟩ := exists_of_firstFailure (hguarded.eq_error_iff.1 he)
    exact Request.reports_of_mem_checks hcheck
  case independent =>
    intro settings' filters? sorting? columnMetadata? partitionFilters? partitionLoadType? hbuilt'
    have hleaves : ∀ c ∈ (filters?.getD {}).leaves, c.IsBuilt := by
      cases filters? with
      | none => simp [FilterGroup.leaves]
      | some g => exact hbuilt' g rfl
    -- the checks read none of the changed parts
    let r' : Request :=
      { r with filters?, sorting?, columnMetadata?, partitionFilters?, partitionLoadType? }
    exact (guarded_compile (r := r') hleaves).trans hguarded.symm

/-- A dataset joined to one that is part of the query and to one that is not.  One of its
aggregations is on a column of neither. -/
def strayJoin : Request where
  dataset := "SALES"
  joins? := some [⟨"SALES", "SHOP", .left, [⟨"SHOP_ID", "ID"⟩]⟩,
    ⟨"GHOST", "AREA", .inner, [⟨"AREA_ID", "ID"⟩]⟩]
  aggregations? := some [{ column := "NOWHERE.AMOUNT", function := .sum }]
  filters? := some
    { logic := .or
      children := [.leaf ⟨"AMOUNT", .number, .between, .range none (some (.int 9))⟩,
        .leaf ⟨"NOWHERE.KIND", .text, .among, .list []⟩] }
  sorting? := some [{ column := "NOWHERE.AMOUNT" }]

theorem isBuilt_of_mem_strayJoin : ∀ c ∈ strayJoin.filter.leaves, c.IsBuilt := by
  have hleaves : strayJoin.filter.leaves =
      [⟨"AMOUNT", .number, .between, .range none (some (.int 9))⟩,
        ⟨"NOWHERE.KIND", .text, .among, .list []⟩] := rfl
  intro c hc
  simp only [hleaves, List.mem_cons, List.not_mem_nil, or_false] at hc
  rcases hc with rfl | rfl
  · exact ⟨"AMOUNT", .number, .between, some (.array [.null, .number (.int 9)]), rfl⟩
  · exact ⟨"NOWHERE.KIND", .text, .among, some (.array []), rfl⟩

/-- The second join fails before the aggregation does. -/
theorem failsAsChecked_strayJoin :
    (∀ c ∈ strayJoin.filter.leaves, c.IsBuilt) ∧
      (compile (.ofCatalog .empty) strayJoin).outcome =
        .error (.unresolvedJoin ⟨"GHOST", "AREA", .inner, [⟨"AREA_ID", "ID"⟩]⟩) :=
  ⟨isBuilt_of_mem_strayJoin,
    ((failsAsChecked_of_isBuilt _ strayJoin (.inr isBuilt_of_mem_strayJoin)).fails _).2 rfl⟩

end ReportSql
