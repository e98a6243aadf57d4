import ReportSql.Proofs.Aggregate.Lookup
import ReportSql.Proofs.Count.Compile
import ReportSql.Proofs.Recased.Requests

/-!
# The order of queries for groups

A request for groups can be ordered by what one group has one of: an output, or a column that rows
are grouped by.  A sort is kept if it names an output, or repeats a reference that rows are grouped
by, in any case and with blanks around it.  The kept sorts make the order of the query, and each of
them stands for a column of its grouping or for an output among its columns.

## Main definitions

* `Scope.keepsSort`, `Scope.sortKey?` — whether a sort is kept, and what it stands for.
* `Scope.MakesOrder` — the order that a sort makes.
* `Select.OrderedBy` — a query that is ordered by the kept sorts of a request.
* `Select.AdmitsOrder` — a query for groups that can be ordered by a key.

## Main statements

* `Scope.outcome_orderBy` — the order that some sorts make.
* `Request.exists_groupsFor` — the query of a request for groups that compiles.
* `Request.admitsOrder_of_compile` — it can be ordered by its order.
-/

namespace ReportSql

open Text

/-! ## References that repeat another -/

namespace SourcePlan

variable {settings : Settings} {p : SourcePlan} {column column' : String}

theorem resolveColumn_trim (p : SourcePlan) (column : String) :
    p.resolveColumn (trim column) = p.resolveColumn column := by
  rw [resolveColumn, resolveColumn, trim_trim]

theorem columnRef?_trim (p : SourcePlan) (settings : Settings) (column : String) :
    p.columnRef? settings (trim column) = p.columnRef? settings column := by
  rw [columnRef?, columnRef?, resolveColumn_trim]

/-- A reference that repeats another, but for case and blanks, resolves like it. -/
theorem resolveColumn_of_sameFolded (h : sameFolded column (trim column') = true) :
    Option.Rel (InvImage Eq (Prod.map id Text.folded)) (p.resolveColumn column)
      (p.resolveColumn column') := by
  have hrel := resolveColumn_recased (p := p) rfl (sameFolded_iff.1 h)
  rwa [resolveColumn_trim] at hrel

/-- A reference that repeats another stands for a column if that does. -/
theorem isSome_columnRef?_of_sameFolded (h : sameFolded column (trim column') = true) :
    (p.columnRef? settings column).isSome = (p.columnRef? settings column').isSome := by
  have hrel := resolveColumn_of_sameFolded (p := p) h
  unfold columnRef?
  generalize p.resolveColumn column = x at hrel ⊢
  generalize p.resolveColumn column' = y at hrel ⊢
  cases hrel with
  | none => rfl
  | @some target target' htarget =>
    obtain ⟨index, name⟩ := target
    obtain ⟨index', name'⟩ := target'
    obtain rfl : index = index' := (Prod.mk.inj htarget).1
    dsimp only [Option.bind_eq_bind, Option.bind_some]
    cases p.occurrences[index]? <;> rfl

/-- **A reference that repeats another has the text of its column**, if columns are named alike in
any case. -/
theorem render_columnRef?_of_sameFolded (hs : settings.IgnoresCase)
    (h : sameFolded column (trim column') = true) :
    (p.columnRef? settings column).map ColumnRef.render =
      (p.columnRef? settings column').map ColumnRef.render := by
  have hrel := columnRef?_recased (p := p) hs rfl (sameFolded_iff.1 h)
  rw [columnRef?_trim] at hrel
  generalize p.columnRef? settings column = x at hrel ⊢
  generalize p.columnRef? settings column' = y at hrel ⊢
  cases hrel with
  | none => rfl
  | some href => exact congrArg some (ColumnRef.render_eq_of_folded_eq href)

end SourcePlan

/-! ## Kept sorts -/

namespace Scope

variable {settings : Settings} {s : Scope}

/-- Whether a sort of a request for groups is kept: it names an output, or repeats a reference that
rows are grouped by. -/
def keepsSort (s : Scope) (key : SortKey) : Bool :=
  s.aggregates.names key.column || s.isGroupedSort key

/-- What a sort stands for: the output that it names, else the column that it refers to. -/
def sortKey? (s : Scope) (settings : Settings) (key : SortKey) : Option OrderKey :=
  match s.aggregates.get? key.column with
  | some o => some (.output o.name)
  | none => (s.sources.columnRef? settings key.column).map .column

/-- The order that a sort makes: by what it stands for, in its direction. -/
def MakesOrder (s : Scope) (settings : Settings) (key : SortKey)
    (order : OrderKey × SortDirection) : Prop :=
  s.sortKey? settings key = some order.1 ∧ order.2 = key.direction

/-- **What becomes of a sort of a request for groups.** -/
theorem outcome_orderOf (hgrouped : s.request.isGrouped = true) (key : SortKey) :
    (s.orderOf settings key).outcome =
      .ok (if s.keepsSort key then (s.sortKey? settings key).map (·, key.direction)
        else none) := by
  unfold orderOf keepsSort sortKey? AggregateIndex.names
  rw [hgrouped]
  cases s.aggregates.get? key.column with
  | some o => rfl
  | none =>
    cases s.isGroupedSort key with
    | false => rfl
    | true => cases s.sources.columnRef? settings key.column <;> rfl

/-- **The order that the sorts of a request for groups make.** -/
theorem outcome_orderBy (hgrouped : s.request.isGrouped = true) (keys : List SortKey) :
    (s.orderBy settings keys).outcome =
      .ok ((keys.filter s.keepsSort).filterMap fun key =>
        (s.sortKey? settings key).map (·, key.direction)) := by
  induction keys with
  | nil => rfl
  | cons key keys ih =>
    rw [orderBy, Traced.outcome_bind_of_ok (outcome_orderOf hgrouped key),
      Traced.outcome_bind_of_ok ih, Traced.outcome_pure]
    cases hkeeps : s.keepsSort key with
    | false => rw [List.filter_cons_of_neg (by simp [hkeeps])]; rfl
    | true =>
      rw [List.filter_cons_of_pos hkeeps, if_pos rfl]
      cases hkey : s.sortKey? settings key with
      | none => rw [List.filterMap_cons_none (by rw [hkey]; rfl)]; rfl
      | some k => rw [List.filterMap_cons_some (by rw [hkey]; rfl)]; rfl

/-- The columns that are found for some references, in order. -/
theorem forall₂_of_selectedColumns {columns : List String} {refs : List ColumnRef}
    (h : s.selectedColumns settings columns = .ok refs) :
    List.Forall₂ (fun column ref => s.sources.columnRef? settings column = some ref) columns
      refs := by
  induction columns generalizing refs with
  | nil =>
    cases h
    exact .nil
  | cons column columns ih =>
    unfold selectedColumns SourcePlan.selectedColumn at h
    cases href : s.sources.columnRef? settings column with
    | none =>
      rw [href] at h
      cases h
    | some ref =>
      cases hrest : s.selectedColumns settings columns with
      | error e =>
        rw [href, hrest] at h
        cases h
      | ok rest =>
        rw [href, hrest] at h
        cases h
        exact .cons href (ih hrest)

/-- A reference that rows are grouped by has its column among those that are found. -/
theorem exists_of_selectedColumns {columns : List String} {refs : List ColumnRef}
    (h : s.selectedColumns settings columns = .ok refs) {column : String}
    (hcolumn : column ∈ columns) :
    ∃ ref ∈ refs, s.sources.columnRef? settings column = some ref :=
  exists_of_forall₂ (forall₂_of_selectedColumns h).flip column hcolumn

/-- A kept sort stands for an output or for a column, once the columns grouped by are found. -/
theorem isSome_sortKey? {refs : List ColumnRef}
    (hrefs : s.selectedColumns settings s.request.groupBy = .ok refs) {key : SortKey}
    (hkeeps : s.keepsSort key = true) : (s.sortKey? settings key).isSome = true := by
  unfold keepsSort AggregateIndex.names at hkeeps
  unfold sortKey?
  cases hget : s.aggregates.get? key.column with
  | some o => rfl
  | none =>
    rw [hget, Option.isSome_none, Bool.false_or, isGroupedSort, List.any_eq_true] at hkeeps
    obtain ⟨column, hcolumn, hsame⟩ := hkeeps
    obtain ⟨ref, -, href⟩ := exists_of_selectedColumns hrefs hcolumn
    rw [Option.isSome_map, ← SourcePlan.isSome_columnRef?_of_sameFolded hsame, href]
    rfl

/-- A kept sort that names no output stands for the text of a column grouped by, if columns are
named alike in any case. -/
theorem exists_render_of_isGroupedSort (hs : settings.IgnoresCase) {refs : List ColumnRef}
    (hrefs : s.selectedColumns settings s.request.groupBy = .ok refs) {key : SortKey}
    (hkey : s.isGroupedSort key = true) {ref : ColumnRef}
    (href : s.sources.columnRef? settings key.column = some ref) :
    ∃ ref' ∈ refs, ref.render = ref'.render := by
  rw [isGroupedSort, List.any_eq_true] at hkey
  obtain ⟨column, hcolumn, hsame⟩ := hkey
  obtain ⟨ref', hmem, href'⟩ := exists_of_selectedColumns hrefs hcolumn
  have hrender := SourcePlan.render_columnRef?_of_sameFolded (p := s.sources) hs hsame
  rw [href', href] at hrender
  exact ⟨ref', hmem, (Option.some.inj hrender).symm⟩

end Scope

/-! ## Ordered queries -/

namespace Select

variable {α : Type}

/-- A query whose order is made of the kept sorts of a request, in the order of the request. -/
def OrderedBy (settings : Settings) (s : Scope) (q : Select α) : Prop :=
  List.Forall₂ (s.MakesOrder settings) (s.request.sorting.filter s.keepsSort) q.orderBy

/-- A query for groups that can be ordered by a key: this is the text of one of the columns grouped
by, or the quoted name of an output that is among the columns of the query. -/
def AdmitsOrder (s : Scope) (q : Select α) (key : OrderKey) : Prop :=
  (∃ ref ∈ q.groupBy, key.render = ref.render) ∨
    ∃ o ∈ s.aggregates.outputs, ⟨o.expression, .folded o.name⟩ ∈ q.items ∧
      key.render = quotePart o.name

end Select

/-- The query of a request for groups: it has the columns that the request groups by and all of its
outputs, and it is ordered by the sorts that are kept. -/
structure Select.GroupsFor (settings : Settings) (s : Scope) (q : Select Placeholder) : Prop where
  columns : s.selectedColumns settings s.request.groupBy = .ok q.groupBy
  outputs : ∀ o ∈ s.aggregates.outputs, ⟨o.expression, .folded o.name⟩ ∈ q.items
  orderedBy : q.OrderedBy settings s

variable {settings : Settings} {s : Scope} {r : Request} {c : Compiled}

/-- The order of sorts that all stand for something. -/
theorem forall₂_filterMap_sortKey? {keys : List SortKey}
    (h : ∀ key ∈ keys, (s.sortKey? settings key).isSome = true) :
    List.Forall₂ (s.MakesOrder settings) keys
      (keys.filterMap fun key => (s.sortKey? settings key).map (·, key.direction)) := by
  induction keys with
  | nil => exact .nil
  | cons key keys ih =>
    rw [List.forall_mem_cons] at h
    obtain ⟨k, hk⟩ := Option.isSome_iff_exists.1 h.1
    rw [List.filterMap_cons_some (by rw [hk]; rfl)]
    exact .cons ⟨hk, rfl⟩ (ih h.2)

/-- The query that a draft for groups becomes. -/
theorem Draft.Assembled.groupsFor {plan : Pushdown} {d : Draft}
    (h : d.Assembled settings true plan s) (hgrouped : s.request.isGrouped = true) :
    d.number.1.GroupsFor settings s := by
  obtain ⟨bound, hquery, -⟩ := d.exists_number
  obtain ⟨refs, hrefs, hitems, hgroupBy⟩ := h.columns
  rw [Scope.selectedNames, if_pos hgrouped] at hrefs
  rw [if_pos hgrouped] at hgroupBy
  have horder : (s.orderBy settings s.request.sorting).outcome = .ok d.orderBy := h.orderBy
  rw [Scope.outcome_orderBy hgrouped, Except.ok.injEq] at horder
  refine ⟨?columns, fun o ho => ?outputs, ?orderedBy⟩
  case columns => rw [hrefs, hquery.groupBy, hgroupBy]
  case outputs =>
    rw [hquery.items, hitems, Scope.items, if_pos hgrouped]
    exact List.mem_append_right _ (List.mem_map_of_mem ho)
  case orderedBy =>
    rw [Select.OrderedBy, hquery.orderBy, ← horder]
    exact forall₂_filterMap_sortKey? fun key hkey =>
      Scope.isSome_sortKey? hrefs (List.mem_filter.1 hkey).2

/-- **A query for groups can be ordered by its order**, if columns are named alike in any case. -/
theorem Select.GroupsFor.admitsOrder {q : Select Placeholder} (h : q.GroupsFor settings s)
    (hs : settings.IgnoresCase) : ∀ order ∈ q.orderBy, q.AdmitsOrder s order.1 := by
  intro order horder
  obtain ⟨key, hkey, hstands, -⟩ := exists_of_forall₂ h.orderedBy order horder
  have hkeeps := (List.mem_filter.1 hkey).2
  unfold Scope.sortKey? at hstands
  cases hget : s.aggregates.get? key.column with
  | some o =>
    rw [hget, Option.some_inj] at hstands
    have ho := Scope.mem_outputs_of_get? hget
    refine .inr ⟨o, ho, h.outputs o ho, ?_⟩
    rw [← hstands, OrderKey.render]
  | none =>
    rw [hget] at hstands
    obtain ⟨ref, href, hstands⟩ := Option.map_eq_some_iff.1 hstands
    rw [Scope.keepsSort, AggregateIndex.names, hget] at hkeeps
    obtain ⟨ref', hmem, hrender⟩ :=
      Scope.exists_render_of_isGroupedSort hs h.columns (by simpa using hkeeps) href
    refine .inl ⟨ref', hmem, ?_⟩
    rw [← hstands, OrderKey.render, hrender]

/-- **The query of a request for groups that compiles.** -/
theorem Request.exists_groupsFor (hgrouped : r.isGrouped = true)
    (h : (compile settings r).outcome = .ok c) :
    ∃ (s : Scope) (d : Draft), s.PlannedFor settings r ∧
      (Draft.ofRequest settings r true).outcome = .ok d ∧ c.text = d.number.1.render ∧
        d.number.1.GroupsFor settings s := by
  obtain ⟨-, d, hd, rfl⟩ := outcome_compile_iff.1 h
  obtain ⟨planned, hplanned, hassembled⟩ := Draft.exists_assembled hd
  have hs : planned.arranged.PlannedFor settings r := ⟨planned, hplanned, rfl⟩
  exact ⟨_, d, hs, hd, rfl, hassembled.groupsFor (hs.request_eq ▸ hgrouped)⟩

/-- **The order of a query for groups is one that it can be ordered by.**  With the names of columns
from a catalog, every key of the order is the text of a column grouped by or the quoted name of an
output; and the order is that of the kept sorts of the request. -/
theorem Request.admitsOrder_of_compile (options : Options) (partitions names : Catalog)
    (hgrouped : r.isGrouped = true)
    (h : (compile (.ofCatalogs options partitions names) r).outcome = .ok c) :
    ∃ (s : Scope) (d : Draft), s.PlannedFor (.ofCatalogs options partitions names) r ∧
      (Draft.ofRequest (.ofCatalogs options partitions names) r true).outcome = .ok d ∧
      c.text = d.number.1.render ∧
      (∀ order ∈ d.number.1.orderBy, d.number.1.AdmitsOrder s order.1) ∧
      d.number.1.OrderedBy (.ofCatalogs options partitions names) s := by
  obtain ⟨s, d, hs, hd, htext, hgroups⟩ := Request.exists_groupsFor hgrouped h
  have hnames := Settings.ignoresCase_ofCatalogs options partitions names
  exact ⟨s, d, hs, hd, htext, hgroups.admitsOrder hnames, hgroups.orderedBy⟩

/-! ## Regional totals -/

/-- A catalog in which regions are kept in a column of another name. -/
def regionCatalog : Catalog :=
  .ofParts .empty (.ofList [("Sales",
    { physicalName := some "SALES_V2"
      columns := some (.ofList [("Region", { physicalName := some "rgn_cd" })]) })])

/-- Totals by region and customer, whose sorts spell the columns in other ways, and one of whose
sorts is on a column that is not grouped by. -/
def regionTotals : Request where
  dataset := "SALES"
  joins? := some [⟨"SALES", "CRM.CUSTOMER", .inner, [⟨"CUST_ID", "ID"⟩]⟩]
  groupBy? := some ["sales.REGION", "Customer.Name"]
  aggregations? := some [⟨"AMOUNT", .sum, some "Total Sales"⟩]
  sorting? := some [⟨" total sales ", .descending⟩, ⟨"CITY", .ascending⟩,
    ⟨" Sales.Region", .descending⟩, ⟨"CUSTOMER.name ", .ascending⟩]

theorem exists_compile_regionTotals :
    ∃ c, (compile (.ofCatalogs {} .empty regionCatalog) regionTotals).outcome = .ok c :=
  exists_compile (by decide +kernel)

theorem admitsOrder_regionTotals :
    regionTotals.isGrouped = true ∧
      ∃ c, (compile (.ofCatalogs {} .empty regionCatalog) regionTotals).outcome = .ok c ∧
        ∃ (s : Scope) (d : Draft),
          s.PlannedFor (.ofCatalogs {} .empty regionCatalog) regionTotals ∧
          (Draft.ofRequest (.ofCatalogs {} .empty regionCatalog) regionTotals true).outcome =
            .ok d ∧
          c.text = d.number.1.render ∧
          (∀ order ∈ d.number.1.orderBy, d.number.1.AdmitsOrder s order.1) ∧
          d.number.1.OrderedBy (.ofCatalogs {} .empty regionCatalog) s := by
  have hgrouped : regionTotals.isGrouped = true := by decide
  obtain ⟨c, hc⟩ := exists_compile_regionTotals
  exact ⟨hgrouped, c, hc, Request.admitsOrder_of_compile {} .empty regionCatalog hgrouped hc⟩

/-- Three of the sorts are kept, each with the text of a column grouped by or the name of an
output. -/
example :
    (Draft.ofRequest (.ofCatalogs {} .empty regionCatalog) regionTotals true).outcome.toOption.map
      (fun d => d.number.1.orderLines) =
        some ["ORDER BY \"TOTAL_SALES\" DESC, \"SALES\".\"RGN_CD\" DESC, " ++
          "\"CRM_CUSTOMER\".\"NAME\" ASC"] := by
  decide +kernel

end ReportSql
