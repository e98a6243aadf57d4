import ReportSql.Proofs.Aggregate.Names
import ReportSql.Proofs.Join.Order
import ReportSql.Proofs.Query.Conditions
import ReportSql.Proofs.Tree.Split

/-!
# What drafts are drawn from

The parts of a draft are drawn from the plan of its request: a source from each occurrence of a
dataset, a join clause from each planned join, and all columns from references of the request.

## Main definitions

* `Source.DrawnFrom`, `JoinClause.DrawnFrom`, `Draft.DrawnFrom` — what the parts of a draft consist
  of.
* `Scope.PlannedFor` — the scope of a request with its joins in some order.

## Main statements

* `Draft.exists_scope` — the draft of a request is drawn from a scope of the request.
-/

namespace ReportSql

open Text

variable {settings : Settings} {s : Scope}

/-! ## Moved filters -/

open Pushdown in
/-- The conditions of a filter that is moved into a source, or left, are conditions of the whole. -/
theorem Scope.mem_leaves_of_fromPosition (s : Scope) (target : Nat) (occurrences : List Occurrence)
    (g : Filter) :
    (∀ k h, (fromPosition s target occurrences g).at? k = some h → ∀ c ∈ h.leaves, c ∈ g.leaves) ∧
      ∀ c ∈ (fromPosition s target occurrences g).remaining.leaves, c ∈ g.leaves := by
  induction occurrences generalizing target g with
  | nil => simp [fromPosition, at?]
  | cons o rest ih =>
    unfold fromPosition
    split
    · obtain ⟨hpushed, hremaining⟩ := ih (target + 1) g
      refine ⟨fun k h hk => ?_, hremaining⟩
      cases k with
      | zero => simp [at?] at hk
      | succ k => exact hpushed k h (by simpa [at?] using hk)
    · dsimp only
      obtain ⟨hpushed, hremaining⟩ := ih (target + 1) (splitFilter (s.belongsTo target) g).2
      have hmoved : ∀ c ∈ (splitFilter (s.belongsTo target) g).1.leaves, c ∈ g.leaves :=
        fun c hc => mem_leaves_of_splitFilter _ (.inl hc)
      have hkept : ∀ c ∈ (splitFilter (s.belongsTo target) g).2.leaves, c ∈ g.leaves :=
        fun c hc => mem_leaves_of_splitFilter _ (.inr hc)
      refine ⟨fun k h hk c hc => ?_, fun c hc => hkept c (hremaining c hc)⟩
      cases k with
      | zero =>
        have hh : (splitFilter (s.belongsTo target) g).1 = h := by
          simp only [at?, List.getElem?_cons_zero, Option.join_some] at hk
          split at hk
          · cases hk
          · exact Option.some_inj.1 hk
        exact hmoved c (hh ▸ hc)
      | succ k => exact hkept c (hpushed k h (by simpa [at?] using hk) c hc)

/-! ## Sources -/

/-- A filter of a source: the clause on rows of a filter of the request.  An OR of several members
is marked as a choice. -/
structure Pushed.DrawnFrom (settings : Settings) (s : Scope) (p : Pushed Hole) : Prop where
  predicates : ∀ q ∈ p.tree.leaves,
    q.DrawnFrom settings.options (Place.source.IsColumn s settings)
  group : ∃ logic children, p.tree = .group logic children ∧
    (logic = .or → 1 < children.length → p.isChoice = true)

/-- The source of an occurrence. -/
structure Source.DrawnFrom (settings : Settings) (s : Scope) (o : Occurrence)
    (source : Source Hole) : Prop where
  table : source.table = settings.physicalTable o.dataset
  name : source.name = o.name
  load : (loadPredicates settings s.request o.dataset).outcome = .ok source.load
  pushed : ∀ p, source.pushed = some p → p.DrawnFrom settings s

/-- The clause of a planned join. -/
structure JoinClause.DrawnFrom (settings : Settings) (s : Scope) (j : PlannedJoin)
    (clause : JoinClause Hole) : Prop where
  kind : clause.kind = j.spec.kind
  source : clause.source.DrawnFrom settings s (s.occurrence j.right)
  pairs : clause.pairs = j.spec.pairs.map fun pair =>
    (Scope.joinColumn settings (s.occurrence j.left) pair.left,
      Scope.joinColumn settings (s.occurrence j.right) pair.right)

namespace Scope

/-- A filter moved into a source is the clause on rows of a filter of the request. -/
theorem drawnFrom_of_pushedClause (hs : s.OutputsDrawn settings) {g : Option Filter}
    (hg : ∀ h, g = some h → ∀ c ∈ h.leaves, c.column ∈ s.request.references)
    {clause : Option (Pushed Hole)} (h : (s.pushedClause settings g).outcome = .ok clause) :
    ∀ p, clause = some p → p.DrawnFrom settings s := by
  cases g with
  | none =>
    cases h
    simp
  | some g =>
    obtain ⟨u, hu, h⟩ := Traced.exists_of_outcome_bind h
    cases h
    have hleaves : ∀ c ∈ g.toTree.leaves, c.column ∈ s.request.references := by
      simpa using hg g rfl
    have hmatch := matches_of_routeTree .source hs _ hleaves _ _ hu
    intro p hp
    obtain ⟨tree, htree, rfl⟩ := Option.map_eq_some_iff.1 hp
    constructor
    · intro q hq
      have hmem : q ∈ clausePredicates (rowClause u) := by
        rw [htree]
        exact hq
      rw [clausePredicates_rowClause, List.mem_map] at hmem
      obtain ⟨r, hr, rfl⟩ := hmem
      obtain ⟨c, -, hdrawn⟩ := hmatch.exists_left r (List.mem_filter.1 hr).1
      exact hdrawn
    · obtain ⟨members, htree, -, hle⟩ := exists_group_of_rowClause hu htree
      refine ⟨g.logic, members, htree, fun hlogic hlength => ?_⟩
      simp only [isChoice, hlogic, decide_true, Bool.true_and, decide_eq_true_eq]
      omega

theorem drawnFrom_of_source (hs : s.OutputsDrawn settings) {o : Occurrence} {g : Option Filter}
    (hg : ∀ h, g = some h → ∀ c ∈ h.leaves, c.column ∈ s.request.references)
    {source : Source Hole} (h : (s.source settings o g).outcome = .ok source) :
    source.DrawnFrom settings s o := by
  obtain ⟨load, hload, h⟩ := Traced.exists_of_outcome_bind h
  obtain ⟨clause, hclause, h⟩ := Traced.exists_of_outcome_bind h
  cases h
  exact ⟨rfl, rfl, hload, drawnFrom_of_pushedClause hs hg hclause⟩

theorem drawnFrom_of_joinClauses (hs : s.OutputsDrawn settings) {plan : Pushdown}
    (hplan : ∀ k h, plan.at? k = some h → ∀ c ∈ h.leaves, c.column ∈ s.request.references)
    {js : List PlannedJoin} {clauses : List (JoinClause Hole)}
    (h : (s.joinClauses settings plan js).outcome = .ok clauses) :
    List.Forall₂ (JoinClause.DrawnFrom settings s) js clauses := by
  induction js generalizing clauses with
  | nil =>
    cases h
    exact .nil
  | cons j js ih =>
    obtain ⟨clause, hclause, h⟩ := Traced.exists_of_outcome_bind h
    obtain ⟨rest, hrest, h⟩ := Traced.exists_of_outcome_bind h
    cases h
    obtain ⟨source, hsource, hclause⟩ := Traced.exists_of_outcome_bind hclause
    cases hclause
    exact .cons ⟨rfl, drawnFrom_of_source hs (hplan j.right) hsource, rfl⟩ (ih hrest)

/-! ## The outer query -/

/-- The verbatim labels of the output columns. -/
def labels (s : Scope) : List String :=
  if s.request.isGrouped then s.request.groupBy else s.request.columns.map s.columnLabel

/-- A label that is verbatim one of the request, or the name of an output. -/
def IsLabel (s : Scope) : Label → Prop
  | .verbatim name => name ∈ s.labels
  | .folded name => ∃ o ∈ s.aggregates.outputs, o.name = name

/-- An order by a column of the request, or by an output. -/
def IsOrder (s : Scope) (settings : Settings) : OrderKey → Prop
  | .column ref => s.IsColumn settings ref
  | .output name => ∃ o ∈ s.aggregates.outputs, o.name = name

theorem isColumn_of_selectedColumn {column : String} {ref : ColumnRef}
    (hcolumn : column ∈ s.request.references)
    (h : s.sources.selectedColumn settings column = .ok ref) : s.IsColumn settings ref := by
  unfold SourcePlan.selectedColumn at h
  split at h
  · next found hfound =>
    cases h
    exact ⟨column, hcolumn, hfound⟩
  · cases h

theorem isColumn_of_selectedColumns {columns : List String} {refs : List ColumnRef}
    (hcolumns : ∀ column ∈ columns, column ∈ s.request.references)
    (h : s.selectedColumns settings columns = .ok refs) :
    ∀ ref ∈ refs, s.IsColumn settings ref := by
  induction columns generalizing refs with
  | nil =>
    cases h
    simp
  | cons column columns ih =>
    unfold selectedColumns at h
    cases hfirst : s.sources.selectedColumn settings column with
    | error e =>
      rw [hfirst] at h
      cases h
    | ok ref =>
      cases hrest : s.selectedColumns settings columns with
      | error e =>
        rw [hfirst, hrest] at h
        cases h
      | ok rest =>
        rw [hfirst, hrest] at h
        cases h
        have hhead := isColumn_of_selectedColumn (hcolumns column (by simp)) hfirst
        have htail := ih (fun c hc => hcolumns c (by simp [hc])) hrest
        intro ref' href'
        rcases List.mem_cons.1 href' with rfl | href'
        · exact hhead
        · exact htail ref' href'

theorem selectedNames_subset : ∀ column ∈ s.selectedNames, column ∈ s.request.references := by
  intro column hcolumn
  unfold selectedNames at hcolumn
  split at hcolumn
  · simp [Request.references, hcolumn]
  · simp [Request.references, hcolumn]

theorem drawnFrom_of_items (hs : s.OutputsDrawn settings) {refs : List ColumnRef}
    (hrefs : ∀ ref ∈ refs, s.IsColumn settings ref) :
    ∀ i ∈ s.items refs,
      i.expression.DrawnFrom settings.options (s.IsColumn settings) ∧ s.IsLabel i.label := by
  intro i hi
  unfold items at hi
  by_cases hgrouped : s.request.isGrouped = true
  · rw [if_pos hgrouped, List.mem_append] at hi
    rcases hi with hi | hi
    · obtain ⟨pair, hpair, rfl⟩ := List.mem_map.1 hi
      refine ⟨.ofColumn (hrefs _ (List.of_mem_zip hpair).2), ?_⟩
      simpa [IsLabel, labels, hgrouped] using (List.of_mem_zip hpair).1
    · obtain ⟨o, ho, rfl⟩ := List.mem_map.1 hi
      exact ⟨.ofAggregate o.function (hs o ho), o, ho, rfl⟩
  · rw [if_neg hgrouped] at hi
    obtain ⟨pair, hpair, rfl⟩ := List.mem_map.1 hi
    refine ⟨.ofColumn (hrefs _ (List.of_mem_zip hpair).2), ?_⟩
    rw [IsLabel, labels, if_neg hgrouped]
    exact List.mem_map_of_mem (List.of_mem_zip hpair).1

theorem isOrder_of_orderOf {key : SortKey} {order : Option (OrderKey × SortDirection)}
    (hkey : key.column ∈ s.request.references)
    (h : (s.orderOf settings key).outcome = .ok order) :
    ∀ k ∈ order.toList, s.IsOrder settings k.1 := by
  unfold orderOf at h
  split at h
  · next o ho =>
    cases h
    simpa [IsOrder] using ⟨o, mem_outputs_of_get? ho, rfl⟩
  · split at h
    · cases h
      simp
    · split at h
      · next ref href =>
        cases h
        simpa [IsOrder] using ⟨key.column, hkey, href⟩
      · cases h
        simp

theorem isOrder_of_orderBy {keys : List SortKey} {orders : List (OrderKey × SortDirection)}
    (hkeys : ∀ key ∈ keys, key.column ∈ s.request.references)
    (h : (s.orderBy settings keys).outcome = .ok orders) :
    ∀ k ∈ orders, s.IsOrder settings k.1 := by
  induction keys generalizing orders with
  | nil =>
    cases h
    simp
  | cons key keys ih =>
    obtain ⟨order, horder, h⟩ := Traced.exists_of_outcome_bind h
    obtain ⟨rest, hrest, h⟩ := Traced.exists_of_outcome_bind h
    cases h
    intro k hk
    rcases List.mem_append.1 hk with hk | hk
    · exact isOrder_of_orderOf (hkeys key (by simp)) horder k hk
    · exact ih (fun key' hkey' => hkeys key' (by simp [hkey'])) hrest k hk

theorem drawnFrom_of_outerFilter (hs : s.OutputsDrawn settings) {g : Filter}
    (hg : ∀ c ∈ g.leaves, c.column ∈ s.request.references)
    {filter : Option (Tree (Routed Hole))} (h : (s.outerFilter settings g).outcome = .ok filter) :
    ∀ tree, filter = some tree → ∀ r ∈ tree.leaves,
      r.predicate.DrawnFrom settings.options (s.IsColumn settings) := by
  unfold outerFilter at h
  split at h
  · cases h
    simp
  · obtain ⟨u, hu, h⟩ := Traced.exists_of_outcome_bind h
    cases h
    intro tree htree r hr
    cases htree
    have hleaves : ∀ c ∈ g.toTree.leaves, c.column ∈ s.request.references := by simpa using hg
    obtain ⟨c, -, hdrawn⟩ := (matches_of_routeTree .query hs _ hleaves _ _ hu).exists_left r hr
    have hcolumns : ∀ ref, Place.query.IsColumn s settings ref → s.IsColumn settings ref := by
      rintro ref ⟨column, hcolumn, rfl⟩
      exact hcolumn
    exact ⟨fun e he => ⟨(hdrawn.exprs e he).suits, fun ref href =>
      hcolumns ref ((hdrawn.exprs e he).column ref href)⟩, hdrawn.stems⟩

end Scope

/-! ## Scopes -/

theorem SourcePlan.columnRef?_reorder (p : SourcePlan) (weights : List Nat) (column : String) :
    (p.reorder weights).columnRef? settings column = p.columnRef? settings column := by
  unfold columnRef? resolveColumn resolveQualifier
  rw [occurrences_reorder]

theorem SourcePlan.selectedColumn_reorder (p : SourcePlan) (weights : List Nat) (column : String) :
    (p.reorder weights).selectedColumn settings column = p.selectedColumn settings column := by
  rw [selectedColumn, columnRef?_reorder, selectedColumn]

/-- A scope with its joins in the order of a query: the sources with the most conditions first. -/
def Scope.arranged (planned : Scope) : Scope :=
  { planned with sources := planned.sources.reorder (Pushdown.ofScope planned).weights }

/-- The scope of a request, with its joins in the order of the query. -/
structure Scope.PlannedFor (settings : Settings) (r : Request) (s : Scope) : Prop where
  exists_planned : ∃ planned, Scope.ofRequest settings r = .ok planned ∧ s = planned.arranged

namespace Scope.PlannedFor

variable {r : Request}

theorem exists_sources (h : s.PlannedFor settings r) :
    ∃ p weights, SourcePlan.ofRequest r = .ok p ∧ s.sources = p.reorder weights ∧
      AggregateIndex.ofRequest settings r p = .ok s.aggregates ∧ s.request = r := by
  obtain ⟨planned, hplanned, rfl⟩ := h.exists_planned
  unfold Scope.ofRequest at hplanned
  cases hsources : SourcePlan.ofRequest r with
  | error e =>
    rw [hsources] at hplanned
    cases hplanned
  | ok p =>
    cases haggregates : AggregateIndex.ofRequest settings r p with
    | error e =>
      rw [hsources] at hplanned
      change (AggregateIndex.ofRequest settings r p >>= _) = _ at hplanned
      rw [haggregates] at hplanned
      cases hplanned
    | ok aggregates =>
      rw [hsources] at hplanned
      change (AggregateIndex.ofRequest settings r p >>= _) = _ at hplanned
      rw [haggregates] at hplanned
      cases hplanned
      exact ⟨p, _, rfl, rfl, haggregates, rfl⟩

theorem request_eq (h : s.PlannedFor settings r) : s.request = r := by
  obtain ⟨_, _, _, _, _, hrequest⟩ := h.exists_sources
  exact hrequest

/-- The outputs of a request are over its columns. -/
theorem outputsDrawn (h : s.PlannedFor settings r) : s.OutputsDrawn settings := by
  obtain ⟨p, weights, -, hsources, haggregates, rfl⟩ := h.exists_sources
  intro o ho
  obtain ⟨i, hi⟩ := List.mem_iff_getElem?.1 ho
  obtain ⟨a, ha, hbelongs⟩ := (AggregateIndex.outputsOf_of_ofRequest haggregates).exists_belongs hi
  refine ⟨a.column, ?_, ?_⟩
  · simp only [Request.references, List.mem_append, List.mem_map]
    exact .inl (.inl (.inr ⟨a, List.mem_of_getElem? ha, rfl⟩))
  · rw [hsources, SourcePlan.columnRef?_reorder, hbelongs.column_eq]

end Scope.PlannedFor

/-! ## Drafts -/

/-- What the parts of a draft are drawn from. -/
structure Draft.DrawnFrom (settings : Settings) (s : Scope) (d : Draft) : Prop where
  hint : ∀ hint, d.hint = some hint → hint = settings.options.performanceHint
  items : ∀ i ∈ d.items,
    i.expression.DrawnFrom settings.options (s.IsColumn settings) ∧ s.IsLabel i.label
  base : d.base.DrawnFrom settings s (s.occurrence 0)
  joins : List.Forall₂ (JoinClause.DrawnFrom settings s) s.sources.joins d.joins
  filter : ∀ tree, d.filter = some tree → ∀ r ∈ tree.leaves,
    r.predicate.DrawnFrom settings.options (s.IsColumn settings)
  groupBy : ∀ ref ∈ d.groupBy, s.IsColumn settings ref
  orderBy : ∀ key ∈ d.orderBy, s.IsOrder settings key.1
  paging : ∀ p, d.paging = some p → p = ⟨s.request.offset, s.request.limit⟩

/-- The steps by which a draft is put together, once the filter has been moved into the sources of
a planned scope and the joins of the scope have been put in order. -/
structure Draft.Assembled (settings : Settings) (paged : Bool) (plan : Pushdown) (s : Scope)
    (d : Draft) : Prop where
  base : (s.source settings (s.occurrence 0) (plan.at? 0)).outcome = .ok d.base
  joins : (s.joinClauses settings plan s.sources.joins).outcome = .ok d.joins
  filter : (s.outerFilter settings plan.remaining).outcome = .ok d.filter
  columns : ∃ refs, s.selectedColumns settings s.selectedNames = .ok refs ∧
    d.items = s.items refs ∧ d.groupBy = if s.request.isGrouped then refs else []
  orderBy :
    (if paged then s.orderBy settings s.request.sorting else pure []).outcome = .ok d.orderBy
  hint : d.hint = if s.request.useHints then some settings.options.performanceHint else none
  paging : d.paging = if paged then some ⟨s.request.offset, s.request.limit⟩ else none

theorem Draft.exists_assembled {r : Request} {paged : Bool} {d : Draft}
    (h : (Draft.ofRequest settings r paged).outcome = .ok d) :
    ∃ planned, Scope.ofRequest settings r = .ok planned ∧
      d.Assembled settings paged (Pushdown.ofScope planned) planned.arranged := by
  obtain ⟨planned, hplanned, h⟩ := Traced.exists_of_outcome_bind h
  obtain ⟨_, -, h⟩ := Traced.exists_of_outcome_bind h
  obtain ⟨base, hbase, h⟩ := Traced.exists_of_outcome_bind h
  obtain ⟨joins, hjoins, h⟩ := Traced.exists_of_outcome_bind h
  obtain ⟨filter, hfilter, h⟩ := Traced.exists_of_outcome_bind h
  obtain ⟨refs, hrefs, h⟩ := Traced.exists_of_outcome_bind h
  have hs : planned.arranged.PlannedFor settings r := ⟨planned, hplanned, rfl⟩
  obtain rfl : planned.request = r := hs.request_eq
  refine ⟨planned, hplanned, ?_⟩
  cases paged with
  | true =>
    obtain ⟨orderBy, horder, h⟩ := Traced.exists_of_outcome_bind h
    cases h
    exact ⟨hbase, hjoins, hfilter, ⟨refs, hrefs, rfl, rfl⟩, horder, rfl, rfl⟩
  | false =>
    obtain ⟨orderBy, horder, h⟩ := Traced.exists_of_outcome_bind h
    cases h
    exact ⟨hbase, hjoins, hfilter, ⟨refs, hrefs, rfl, rfl⟩, horder, rfl, rfl⟩

/-- A draft that is put together from filters of the request is drawn from the request. -/
theorem Draft.Assembled.drawnFrom {paged : Bool} {plan : Pushdown} {d : Draft}
    (h : d.Assembled settings paged plan s) (hs : s.OutputsDrawn settings)
    (hpushed : ∀ k g, plan.at? k = some g → ∀ c ∈ g.leaves, c ∈ s.request.filter.leaves)
    (hremaining : ∀ c ∈ plan.remaining.leaves, c ∈ s.request.filter.leaves) :
    d.DrawnFrom settings s := by
  have hfilters : ∀ c ∈ s.request.filter.leaves, c.column ∈ s.request.references := by
    intro c hc
    simp only [Request.references, List.mem_append, List.mem_map]
    exact .inr ⟨c, hc, rfl⟩
  have hsorting : ∀ key ∈ s.request.sorting, key.column ∈ s.request.references := by
    intro key hkey
    simp only [Request.references, List.mem_append, List.mem_map]
    exact .inl (.inr ⟨key, hkey, rfl⟩)
  have hplan : ∀ k g, plan.at? k = some g → ∀ c ∈ g.leaves, c.column ∈ s.request.references :=
    fun k g hk c hc => hfilters c (hpushed k g hk c hc)
  obtain ⟨refs, hrefs, hitems, hgroupBy⟩ := h.columns
  have hcolumns := Scope.isColumn_of_selectedColumns Scope.selectedNames_subset hrefs
  refine ⟨?hint, ?items, ?base, ?joins, ?filter, ?groupBy, ?orderBy, ?paging⟩
  case hint =>
    rw [h.hint]
    intro hint hhint
    split at hhint
    · cases hhint
      rfl
    · cases hhint
  case items =>
    rw [hitems]
    exact Scope.drawnFrom_of_items hs hcolumns
  case base => exact Scope.drawnFrom_of_source hs (hplan 0) h.base
  case joins => exact Scope.drawnFrom_of_joinClauses hs hplan h.joins
  case filter =>
    exact Scope.drawnFrom_of_outerFilter hs (fun c hc => hfilters c (hremaining c hc)) h.filter
  case groupBy =>
    rw [hgroupBy]
    intro ref href
    split at href
    · exact hcolumns ref href
    · cases href
  case orderBy =>
    have horder := h.orderBy
    split at horder
    · exact Scope.isOrder_of_orderBy hsorting horder
    · have hnil : [] = d.orderBy := by simpa using horder
      simp [← hnil]
  case paging =>
    rw [h.paging]
    intro p hp
    split at hp
    · exact (Option.some_inj.1 hp).symm
    · cases hp

/-- **The draft of a request is drawn from a scope of the request.** -/
theorem Draft.exists_scope {r : Request} {paged : Bool} {d : Draft}
    (h : (Draft.ofRequest settings r paged).outcome = .ok d) :
    ∃ s : Scope, s.PlannedFor settings r ∧ d.DrawnFrom settings s := by
  obtain ⟨planned, hplanned, hassembled⟩ := Draft.exists_assembled h
  have hs : planned.arranged.PlannedFor settings r := ⟨planned, hplanned, rfl⟩
  obtain ⟨hpushed, hremaining⟩ := planned.mem_leaves_of_fromPosition 0
    planned.sources.occurrences planned.request.filter
  exact ⟨_, hs, hassembled.drawnFrom hs.outputsDrawn hpushed hremaining⟩

end ReportSql
