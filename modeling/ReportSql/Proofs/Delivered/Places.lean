import ReportSql.Proofs.Delivered.Holes
import ReportSql.Proofs.Delivered.Values
import ReportSql.Proofs.Join.Partition
import ReportSql.Proofs.Load.Isolation
import ReportSql.Proofs.RoundTrip.Requests
import ReportSql.Proofs.Routing.Asked

/-!
# Where null values come from

The values of a query come from the conditions of its request and from the loads that the request
allows.  Every condition is at one place of the query, in a source or after the joins, and binds the
same values wherever it is.

## Main definitions

* `Scope.ComparesNonFinite` — a condition that binds a value that is written as `null`.
* `Request.LoadsNonFinite` — loads of a dataset among which is such a value.

## Main statements

* `Scope.exists_bindsNull_of_routeTree_iff` — such values in a filter.
* `exists_bindsNull_of_loadPredicates_iff` — such values in the loads of a dataset.
* `Draft.Assembled.exists_isNull_iff` — such values in a whole query.
-/

namespace ReportSql

open Text

variable {settings : Settings} {r : Request} {s : Scope}

/-! ## Conditions -/

theorem Request.IsStable.isStable_of_mem_filter (h : r.IsStable) :
    ∀ c ∈ r.filter.leaves, c.IsStable := by
  intro c hc
  unfold Request.filter at hc
  cases hfilters : r.filters? with
  | none => simp [hfilters] at hc
  | some g => exact h.filters g hfilters c (by simpa [hfilters] using hc)

namespace Scope

/-- A condition that compares numbers with a text that spells an infinite number or a NaN, and whose
column refers to something where the condition stands. -/
structure ComparesNonFinite (s : Scope) (settings : Settings) (place : Place) (c : Condition) :
    Prop where
  resolved : s.target settings place c.column ≠ .unresolved
  kind : s.request.valueKind c = .number
  spells : ∃ x ∈ c.compared settings.options, x.SpellsNonFinite

variable {place : Place} {c : Condition}

theorem bindsNull_of_routeCondition_iff (hc : c.IsStable) {promoted : Bool} {x : Routed Hole}
    (h : (s.routeCondition settings place promoted c).outcome = .ok x) :
    x.predicate.BindsNull ↔ s.ComparesNonFinite settings place c := by
  have hsuits : c.value.suits c.operator = true :=
    Condition.IsBuilt.suits ⟨_, _, _, _, hc.build⟩
  have hiff : ∀ {e : Expr} {p : Predicate Hole},
      s.target settings place c.column ≠ .unresolved →
      (conditionPredicate settings.options e (s.request.valueKind c) c).outcome = .ok p →
        (p.BindsNull ↔ s.ComparesNonFinite settings place c) := by
    intro e p hresolved hp
    rw [bindsNull_conditionPredicate_iff hsuits hc.isWritable hp]
    exact ⟨fun ⟨hkind, hspells⟩ => ⟨hresolved, hkind, hspells⟩,
      fun hcompares => ⟨hcompares.kind, hcompares.spells⟩⟩
  unfold routeCondition at h
  dsimp only at h
  rcases s.target_cases settings place c.column with ⟨o, htarget, -⟩ | ⟨ref, htarget, -⟩ | htarget
  · rw [htarget] at h
    obtain ⟨p, hp, h⟩ := Traced.exists_of_outcome_bind h
    cases h
    exact hiff (by simp [htarget]) hp
  · rw [htarget] at h
    obtain ⟨p, hp, h⟩ := Traced.exists_of_outcome_bind h
    cases h
    exact hiff (by simp [htarget]) hp
  · rw [htarget] at h
    cases h
    refine iff_of_false ?_ fun hcompares => hcompares.resolved htarget
    simp [Predicate.BindsNull, Predicate.values]

/-- **A filter binds a value that is written as `null` where one of its conditions does.** -/
theorem exists_bindsNull_of_routeTree_iff {promoted : Bool} {t : Tree Condition}
    {u : Tree (Routed Hole)} (ht : ∀ c ∈ t.leaves, c.IsStable)
    (h : (s.routeTree settings place promoted t).outcome = .ok u) :
    (∃ p ∈ u.leaves.map Routed.predicate, p.BindsNull) ↔
      ∃ c ∈ t.leaves, s.ComparesNonFinite settings place c := by
  have hmatch := (matches_of_outcome_routeTree h).leaves
  have hiff : (∃ c ∈ t.leaves, s.ComparesNonFinite settings place c) ↔
      ∃ x ∈ u.leaves, x.predicate.BindsNull := by
    refine exists_iff_of_forall₂ hmatch ?_
    rintro c hc x ⟨promoted, hroute⟩
    exact (bindsNull_of_routeCondition_iff (ht c hc) hroute).symm
  rw [hiff]
  simp

/-- A filter that is moved into a source. -/
theorem exists_bindsNull_of_pushedClause_iff {g : Option Filter} {clause : Option (Pushed Hole)}
    (hg : ∀ c ∈ (g.getD {}).leaves, c.IsStable)
    (h : (s.pushedClause settings g).outcome = .ok clause) :
    (∃ p ∈ clausePredicates (clause.map Pushed.tree), p.BindsNull) ↔
      ∃ c ∈ (g.getD {}).leaves, s.ComparesNonFinite settings .source c := by
  cases g with
  | none =>
    cases h
    simp [clausePredicates]
  | some g =>
    obtain ⟨u, hu, h⟩ := Traced.exists_of_outcome_bind h
    cases h
    -- within a source all predicates hold of rows
    have hrows : (u.leaves.filter fun x => !x.ofGroups) = u.leaves :=
      List.filter_eq_self.2 fun x hx => by simp [ofGroups_of_routeTree_source hu x hx]
    have hclause : clausePredicates (((rowClause u).map fun tree =>
        (⟨tree, isChoice g⟩ : Pushed Hole)).map Pushed.tree) = u.leaves.map Routed.predicate := by
      rw [Option.map_map, ← hrows, ← clausePredicates_rowClause]
      simp [Function.comp_def]
    rw [hclause]
    have htree : ∀ c ∈ g.toTree.leaves, c.IsStable := by simpa using hg
    simpa using exists_bindsNull_of_routeTree_iff htree hu

/-- The filter of the outer query. -/
theorem exists_bindsNull_of_outerFilter_iff {g : Filter} {filter : Option (Tree (Routed Hole))}
    (hg : ∀ c ∈ g.leaves, c.IsStable) (h : (s.outerFilter settings g).outcome = .ok filter) :
    (∃ p ∈ (filter.elim [] Tree.leaves).map Routed.predicate, p.BindsNull) ↔
      ∃ c ∈ g.leaves, s.ComparesNonFinite settings .query c := by
  unfold outerFilter at h
  split at h
  · next hempty =>
    cases h
    simp [Pushdown.leaves_of_isEmpty hempty]
  · obtain ⟨u, hu, h⟩ := Traced.exists_of_outcome_bind h
    cases h
    have htree : ∀ c ∈ g.toTree.leaves, c.IsStable := by simpa using hg
    simpa using exists_bindsNull_of_routeTree_iff htree hu

end Scope

/-! ## Loads -/

/-- The load identifiers of a dataset are numbers, and one that a request allows is a text that
spells an infinite number or a NaN. -/
def Request.LoadsNonFinite (r : Request) (settings : Settings) (dataset : String) : Prop :=
  ∃ spec, settings.partition? dataset = some spec ∧
    r.loadIdKind dataset spec.loadIdColumn = .number ∧
    ∃ x ∈ r.partitionValues dataset, x.SpellsNonFinite

/-- The load identifiers of a request that is read can be written. -/
theorem Request.IsStable.isWritable_of_mem_partitionValues (h : r.IsStable) {dataset : String} :
    ∀ x ∈ r.partitionValues dataset, x.IsWritable := by
  intro x hx
  unfold Request.partitionValues at hx
  split at hx
  · cases hx
  · next filters hfilters =>
    obtain ⟨key, values, hentry, hmem⟩ :
        ∃ key values, (key, values) ∈ filters.entries ∧ x ∈ values := by
      cases hget : filters.get? dataset with
      | some values =>
        rw [hget] at hx
        exact ⟨dataset, values, Dict.mem_entries_iff.2 hget, hx⟩
      | none =>
        rw [hget, Option.none_or, Dict.find?] at hx
        cases hfind : filters.entries.find? (fun e => sameFolded e.1 dataset) with
        | none => simp [hfind] at hx
        | some e =>
          rw [hfind] at hx
          exact ⟨e.1, e.2, List.mem_of_find?_eq_some hfind, hx⟩
    exact h.partitionFilters filters hfilters _ hentry x hmem

/-- **The loads of a dataset bind a value that is written as `null` where an identifier is one.** -/
theorem exists_bindsNull_of_loadPredicates_iff {dataset : String} {load : List (Predicate Hole)}
    (hr : r.IsStable) (h : (loadPredicates settings r dataset).outcome = .ok load) :
    (∃ p ∈ load, p.BindsNull) ↔ r.LoadsNonFinite settings dataset := by
  unfold Request.LoadsNonFinite
  by_cases hvalues : r.partitionValues dataset = []
  · rw [loadPredicates_eq_nil (.inl hvalues)] at h
    cases h
    simp [hvalues]
  · cases hspec : settings.partition? dataset with
    | none =>
      rw [loadPredicates_eq_nil (.inr hspec)] at h
      cases h
      simp
    | some spec =>
      rw [loadPredicates_of_spec hvalues hspec] at h
      cases h
      have htype : ∀ p ∈ loadTypeConjunct settings r dataset spec, ¬p.BindsNull := by
        intro p hp
        obtain ⟨loadType, column, -, -, -, rfl⟩ := mem_loadTypeConjunct.1 hp
        simp [Predicate.BindsNull, Predicate.values]
      have hid : (loadIdPredicate (settings.physicalColumn dataset spec.loadIdColumn)
          (loadHoles r dataset spec)).BindsNull ↔
            r.loadIdKind dataset spec.loadIdColumn = .number ∧
              ∃ x ∈ r.partitionValues dataset, x.SpellsNonFinite := by
        rw [Predicate.BindsNull, values_loadIdPredicate, loadHoles]
        exact exists_isNull_map_iff (fun _ => rfl) hr.isWritable_of_mem_partitionValues
      simp only [List.mem_cons, exists_eq_or_imp, hid, Option.some_inj, exists_eq_left']
      refine or_iff_left ?_
      rintro ⟨p, hp, hnull⟩
      exact htype p hp hnull

/-! ## Sources -/

/-- A source binds a value that is written as `null` where its loads or the filter moved into it
do. -/
theorem exists_bindsNull_of_source_iff {o : Occurrence} {g : Option Filter} {source : Source Hole}
    (hr : s.request.IsStable) (hg : ∀ c ∈ (g.getD {}).leaves, c.IsStable)
    (h : (s.source settings o g).outcome = .ok source) :
    (∃ p ∈ source.predicates, p.BindsNull) ↔
      s.request.LoadsNonFinite settings o.dataset ∨
        ∃ c ∈ (g.getD {}).leaves, s.ComparesNonFinite settings .source c := by
  obtain ⟨load, hload, h⟩ := Traced.exists_of_outcome_bind h
  obtain ⟨clause, hclause, h⟩ := Traced.exists_of_outcome_bind h
  cases h
  rw [← exists_bindsNull_of_loadPredicates_iff hr hload,
    ← Scope.exists_bindsNull_of_pushedClause_iff hg hclause]
  simp only [Source.predicates, List.mem_append, or_and_right, exists_or]

/-! ## Places of conditions -/

namespace Pushdown

variable {plan : Pushdown} {g : Filter} {homes : Tree (Condition × Option Nat)}

/-- The conditions of a filter are those at the places of its plan. -/
theorem Homes.mem_leaves_iff (h : plan.Homes g homes) {c : Condition} :
    c ∈ g.leaves ↔ ∃ place, c ∈ (plan.part place).leaves := by
  have hleaves : g.leaves = homes.leaves.map Prod.fst := by
    rw [← Tree.leaves_map, h.erased, FilterGroup.leaves_toTree]
  simp only [h.leaves_part, hleaves, Tree.itemsAt, List.mem_map, List.mem_filter,
    decide_eq_true_eq]
  constructor
  · rintro ⟨x, hx, rfl⟩
    exact ⟨x.2, x, ⟨hx, rfl⟩, rfl⟩
  · rintro ⟨place, x, ⟨hx, -⟩, rfl⟩
    exact ⟨x, hx, rfl⟩

end Pushdown

namespace Scope

variable {place : Place} {c : Condition}

/-- A condition on a column of a source refers to something wherever it stands. -/
theorem target_ne_unresolved {column name : String} {i : Nat} {o : Occurrence}
    (hblank : (trim column).isEmpty = false)
    (hresolve : s.sources.resolveColumn column = some (i, name))
    (ho : s.sources.occurrences[i]? = some o) :
    s.target settings place column ≠ .unresolved := by
  have hcolumn : s.sources.columnRef? settings column =
      some (.qualified o.name (settings.physicalColumn o.dataset name)) := by
    simp [SourcePlan.columnRef?, hresolve, ho]
  unfold target
  rw [if_neg (by simp [hblank]), hcolumn]
  dsimp only
  split <;> simp_all

/-- A condition that is moved into a source binds there what it would bind after the joins. -/
theorem comparesNonFinite_source_iff {i : Nat}
    (hc : c ∈ ((Pushdown.ofScope s).part (some i)).leaves) :
    s.ComparesNonFinite settings .source c ↔ s.ComparesNonFinite settings .query c := by
  obtain ⟨hblank, -, ⟨name, hresolve⟩, o, ho, -⟩ :=
    (Pushdown.isMaximalPartition_ofScope s).moved i c hc
  have hresolved : ∀ place, s.target settings place c.column ≠ .unresolved :=
    fun _ => target_ne_unresolved hblank hresolve ho
  exact ⟨fun h => ⟨hresolved _, h.kind, h.spells⟩, fun h => ⟨hresolved _, h.kind, h.spells⟩⟩

/-- The order of the joins is nothing to a condition. -/
theorem comparesNonFinite_arranged_iff :
    s.arranged.ComparesNonFinite settings place c ↔ s.ComparesNonFinite settings place c := by
  have htarget : s.arranged.target settings place c.column = s.target settings place c.column := by
    unfold target
    rw [arranged, SourcePlan.columnRef?_reorder]
  exact ⟨fun h => ⟨htarget ▸ h.resolved, h.kind, h.spells⟩,
    fun h => ⟨htarget.symm ▸ h.resolved, h.kind, h.spells⟩⟩

/-- A place with conditions is a position of the query. -/
theorem PlannedFor.mem_positions_of_mem_part (h : s.arranged.PlannedFor settings r) {i : Nat}
    (hc : c ∈ ((Pushdown.ofScope s).part (some i)).leaves) :
    i ∈ 0 :: s.arranged.sources.joins.map PlannedJoin.right := by
  obtain ⟨-, -, -, o, ho, -⟩ := (Pushdown.isMaximalPartition_ofScope s).moved i c hc
  rw [h.positions_perm.mem_iff, List.mem_range, arranged, SourcePlan.occurrences_reorder]
  exact (List.getElem?_eq_some_iff.1 ho).1

/-- **A condition binds a value that is written as `null` at its place if and only if it would after
the joins.** -/
theorem exists_comparesNonFinite_iff :
    (∃ place : Option Nat, ∃ c ∈ ((Pushdown.ofScope s).part place).leaves,
        s.ComparesNonFinite settings (if place.isSome then .source else .query) c) ↔
      ∃ c ∈ s.request.filter.leaves, s.ComparesNonFinite settings .query c := by
  obtain ⟨homes, hhomes⟩ := (Pushdown.isMaximalPartition_ofScope s).homes
  constructor
  · rintro ⟨place, c, hc, hcompares⟩
    refine ⟨c, hhomes.mem_leaves_iff.2 ⟨place, hc⟩, ?_⟩
    cases place with
    | none => exact hcompares
    | some i => exact (comparesNonFinite_source_iff hc).1 hcompares
  · rintro ⟨c, hc, hcompares⟩
    obtain ⟨place, hplace⟩ := hhomes.mem_leaves_iff.1 hc
    refine ⟨place, c, hplace, ?_⟩
    cases place with
    | none => exact hcompares
    | some i => exact (comparesNonFinite_source_iff hplace).2 hcompares

end Scope

/-! ## Drafts -/

namespace Draft

variable {d : Draft} {paged : Bool}

theorem exists_isNull_holes_iff :
    (∃ h ∈ d.holes, h.value.IsNull) ↔
      (∃ source ∈ d.sources, ∃ p ∈ source.predicates, p.BindsNull) ∨
        ∃ p ∈ d.filterPredicates, p.BindsNull := by
  simp only [holes, Source.values, Predicate.BindsNull, List.mem_append, List.mem_flatMap,
    or_and_right, exists_or]
  refine or_congr ?_ ?_
  · constructor
    · rintro ⟨h, ⟨source, hsource, p, hp, hmem⟩, hnull⟩
      exact ⟨source, hsource, p, hp, h, hmem, hnull⟩
    · rintro ⟨source, hsource, p, hp, h, hmem, hnull⟩
      exact ⟨h, ⟨source, hsource, p, hp, hmem⟩, hnull⟩
  · constructor
    · rintro ⟨h, ⟨p, hp, hmem⟩, hnull⟩
      exact ⟨p, hp, h, hmem, hnull⟩
    · rintro ⟨p, hp, h, hmem, hnull⟩
      exact ⟨h, ⟨p, hp, hmem⟩, hnull⟩

/-- The sources of a draft are those of the positions in the order of the joins. -/
theorem Assembled.forall₂_sources {plan : Pushdown} (h : d.Assembled settings paged plan s) :
    List.Forall₂ (fun i source =>
        (s.source settings (s.occurrence i) (plan.at? i)).outcome = .ok source)
      (0 :: s.sources.joins.map PlannedJoin.right) d.sources := by
  refine .cons h.base ?_
  rw [List.forall₂_map_left_iff, List.forall₂_map_right_iff]
  exact Scope.forall₂_of_joinClauses h.joins

/-- **A query binds a value that is written as `null` where a condition or a load identifier of the
request is one.** -/
theorem Assembled.exists_isNull_iff (hr : s.request.IsStable)
    (hs : s.arranged.PlannedFor settings s.request)
    (h : d.Assembled settings paged (Pushdown.ofScope s) s.arranged) :
    (∃ hole ∈ d.holes, hole.value.IsNull) ↔
      (∃ c ∈ s.request.filter.leaves, s.ComparesNonFinite settings .query c) ∨
        ∃ dataset ∈ s.request.datasets, s.request.LoadsNonFinite settings dataset := by
  obtain ⟨homes, hhomes⟩ := (Pushdown.isMaximalPartition_ofScope s).homes
  have hplaces : ∀ place, ∀ c ∈ ((Pushdown.ofScope s).part place).leaves, c.IsStable :=
    fun place c hc => hr.isStable_of_mem_filter c (hhomes.mem_leaves_iff.2 ⟨place, hc⟩)
  have hsources : (∃ source ∈ d.sources, ∃ p ∈ source.predicates, p.BindsNull) ↔
      ∃ i ∈ 0 :: s.arranged.sources.joins.map PlannedJoin.right,
        s.request.LoadsNonFinite settings (s.arranged.occurrence i).dataset ∨
          ∃ c ∈ ((Pushdown.ofScope s).part (some i)).leaves,
            s.ComparesNonFinite settings .source c := by
    refine (exists_iff_of_forall₂ h.forall₂_sources fun i _ source hsource => ?_).symm
    rw [exists_bindsNull_of_source_iff (s := s.arranged) hr (hplaces (some i)) hsource]
    simp only [Scope.comparesNonFinite_arranged_iff]
    rfl
  have houter : (∃ p ∈ d.filterPredicates, p.BindsNull) ↔
      ∃ c ∈ ((Pushdown.ofScope s).part none).leaves, s.ComparesNonFinite settings .query c := by
    rw [filterPredicates, Scope.exists_bindsNull_of_outerFilter_iff (hplaces none) h.filter]
    simp only [Scope.comparesNonFinite_arranged_iff]
  have hloads : (∃ i ∈ 0 :: s.arranged.sources.joins.map PlannedJoin.right,
        s.request.LoadsNonFinite settings (s.arranged.occurrence i).dataset) ↔
      ∃ dataset ∈ s.request.datasets, s.request.LoadsNonFinite settings dataset := by
    rw [← hs.exists_joined_iff]
    simp [Scope.joined]
  rw [exists_isNull_holes_iff, hsources, houter, ← hloads, ← Scope.exists_comparesNonFinite_iff]
  constructor
  · rintro (⟨i, hi, hload | ⟨c, hc, hcompares⟩⟩ | ⟨c, hc, hcompares⟩)
    · exact .inr ⟨i, hi, hload⟩
    · exact .inl ⟨some i, c, hc, hcompares⟩
    · exact .inl ⟨none, c, hc, hcompares⟩
  · rintro (⟨_ | i, c, hc, hcompares⟩ | ⟨i, hi, hload⟩)
    · exact .inr ⟨c, hc, hcompares⟩
    · exact .inl ⟨i, hs.mem_positions_of_mem_part hc, .inr ⟨c, hc, hcompares⟩⟩
    · exact .inl ⟨i, hi, .inl hload⟩

end Draft

end ReportSql
