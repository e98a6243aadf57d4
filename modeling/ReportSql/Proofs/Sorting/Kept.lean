import ReportSql.Proofs.Sorting.Grouped

/-!
# Sorts that are lost

A query for groups can be ordered by any column that it groups by, however a sort refers to that
column.  But a sort is kept only if it repeats one of the references grouped by as these are
spelled.  A reference to the same column with its dataset before it is left aside, and so is every
sort on a column that is grouped by under a reference with blanks around it, because the sort alone
is read without blanks.

## Main definitions

* `Scope.SameColumn` — two references to one column.
* `Scope.IsOnGroup` — a sort on a column that rows are grouped by.
* `Scope.LosesNoSort` — a request whose sorts are left aside only where they have to be.
* `Scope.RepeatsGroups` — a request whose sorts on columns grouped by repeat the references to them.

## Main statements

* `Scope.isOnGroup_of_isGroupedSort` — a sort that is kept for its text is on a column grouped by.
* `Scope.losesNoSort_iff` — no sort is lost if and only if they repeat the references grouped by.
-/

namespace ReportSql

open Text

variable {settings : Settings} {s : Scope} {r : Request} {c : Compiled}

namespace Scope

/-- Two references to one column: of one occurrence, and with one quoted name. -/
def SameColumn (s : Scope) (settings : Settings) (column column' : String) : Prop :=
  ∃ index name name' o, s.sources.resolveColumn column = some (index, name) ∧
    s.sources.resolveColumn column' = some (index, name') ∧
    s.sources.occurrences[index]? = some o ∧
    quotePart (settings.physicalColumn o.dataset name) =
      quotePart (settings.physicalColumn o.dataset name')

/-- A sort on a column that rows are grouped by. -/
def IsOnGroup (s : Scope) (settings : Settings) (key : SortKey) : Prop :=
  ∃ column ∈ s.request.groupBy, s.SameColumn settings key.column column

/-- A request whose sorts are left aside only if they name no output and are on no column that rows
are grouped by. -/
def LosesNoSort (s : Scope) (settings : Settings) : Prop :=
  ∀ key ∈ s.request.sorting, (s.orderOf settings key).outcome = .ok none →
    s.aggregates.get? key.column = none ∧ ¬s.IsOnGroup settings key

/-- A request whose sorts on columns that rows are grouped by name outputs, or repeat, in any case
and with blanks around them, references that rows are grouped by. -/
def RepeatsGroups (s : Scope) (settings : Settings) : Prop :=
  ∀ key ∈ s.request.sorting, s.IsOnGroup settings key → s.keepsSort key = true

/-- A sort is left aside if and only if it neither names an output nor repeats a reference. -/
theorem outcome_orderOf_eq_none_iff (hgrouped : s.request.isGrouped = true)
    {refs : List ColumnRef} (hrefs : s.selectedColumns settings s.request.groupBy = .ok refs)
    (key : SortKey) :
    (s.orderOf settings key).outcome = .ok none ↔ s.keepsSort key = false := by
  rw [outcome_orderOf hgrouped, Except.ok.injEq]
  cases hkeeps : s.keepsSort key with
  | false => simp
  | true =>
    obtain ⟨k, hk⟩ := Option.isSome_iff_exists.1 (isSome_sortKey? hrefs hkeeps)
    simp [hk]

/-- **A sort that is kept as repeating a reference is on the column of the reference**, if columns
are named alike in any case. -/
theorem isOnGroup_of_isGroupedSort (hs : settings.IgnoresCase) {refs : List ColumnRef}
    (hrefs : s.selectedColumns settings s.request.groupBy = .ok refs) {key : SortKey}
    (hkey : s.isGroupedSort key = true) : s.IsOnGroup settings key := by
  rw [isGroupedSort, List.any_eq_true] at hkey
  obtain ⟨column, hcolumn, hsame⟩ := hkey
  obtain ⟨ref, -, href⟩ := exists_of_selectedColumns hrefs hcolumn
  rw [SourcePlan.columnRef?] at href
  obtain ⟨⟨index, name⟩, htarget, href⟩ := Option.bind_eq_some_iff.1 href
  obtain ⟨o, ho, -⟩ := Option.bind_eq_some_iff.1 href
  have hrel := SourcePlan.resolveColumn_of_sameFolded (p := s.sources) hsame
  rw [htarget] at hrel
  generalize htarget' : s.sources.resolveColumn key.column = target at hrel
  cases hrel with
  | @some _ target hfolded =>
    obtain ⟨index', name'⟩ := target
    obtain ⟨hindex, hname⟩ := Prod.mk.inj hfolded
    obtain rfl : index = index' := hindex
    have hphysical := hs.physicalColumn_eq o.dataset (hname : folded name = folded name')
    exact ⟨column, hcolumn, index, name', name, o, htarget', htarget, ho,
      (quotePart_eq_of_folded_eq hphysical).symm⟩

/-- **No sort is lost if and only if the sorts repeat the references grouped by.** -/
theorem losesNoSort_iff (hgrouped : s.request.isGrouped = true) {refs : List ColumnRef}
    (hrefs : s.selectedColumns settings s.request.groupBy = .ok refs) :
    s.LosesNoSort settings ↔ s.RepeatsGroups settings := by
  constructor
  · intro hnone key hkey honGroup
    by_contra hkeeps
    have hlost := (outcome_orderOf_eq_none_iff hgrouped hrefs key).2 (Bool.eq_false_iff.2 hkeeps)
    exact (hnone key hkey hlost).2 honGroup
  · intro hrepeats key hkey hlost
    have hkeeps := (outcome_orderOf_eq_none_iff hgrouped hrefs key).1 hlost
    refine ⟨?_, fun honGroup => ?_⟩
    · rw [keepsSort, AggregateIndex.names, Bool.or_eq_false_iff] at hkeeps
      simpa using hkeeps.1
    · rw [hrepeats key hkey honGroup] at hkeeps
      cases hkeeps

end Scope

/-- **What becomes of the sorts of a request for groups.**  Those that are not kept are left aside,
the others make the order of the query; and none is lost if and only if the sorts on columns that
rows are grouped by repeat the references to them. -/
theorem Request.losesNoSort_iff_of_compile (hgrouped : r.isGrouped = true)
    (h : (compile settings r).outcome = .ok c) :
    ∃ (s : Scope) (d : Draft), s.PlannedFor settings r ∧
      (Draft.ofRequest settings r true).outcome = .ok d ∧ c.text = d.number.1.render ∧
      d.number.1.OrderedBy settings s ∧
      (∀ key, (s.orderOf settings key).outcome = .ok none ↔ s.keepsSort key = false) ∧
      (settings.IgnoresCase →
        ∀ key, s.isGroupedSort key = true → s.IsOnGroup settings key) ∧
      (s.LosesNoSort settings ↔ s.RepeatsGroups settings) := by
  obtain ⟨s, d, hs, hd, htext, hgroups⟩ := Request.exists_groupsFor hgrouped h
  have hgrouped' : s.request.isGrouped = true := hs.request_eq ▸ hgrouped
  exact ⟨s, d, hs, hd, htext, hgroups.orderedBy,
    Scope.outcome_orderOf_eq_none_iff hgrouped' hgroups.columns,
    fun hnames _ => Scope.isOnGroup_of_isGroupedSort hnames hgroups.columns,
    Scope.losesNoSort_iff hgrouped' hgroups.columns⟩

theorem losesNoSort_iff_regionTotals :
    regionTotals.isGrouped = true ∧
      ∃ c, (compile (.ofCatalogs {} .empty regionCatalog) regionTotals).outcome = .ok c ∧
        ∃ (s : Scope) (d : Draft),
          s.PlannedFor (.ofCatalogs {} .empty regionCatalog) regionTotals ∧
          (Draft.ofRequest (.ofCatalogs {} .empty regionCatalog) regionTotals true).outcome =
            .ok d ∧
          c.text = d.number.1.render ∧
          d.number.1.OrderedBy (.ofCatalogs {} .empty regionCatalog) s ∧
          (s.LosesNoSort (.ofCatalogs {} .empty regionCatalog) ↔
            s.RepeatsGroups (.ofCatalogs {} .empty regionCatalog)) := by
  have hgrouped : regionTotals.isGrouped = true := by decide
  obtain ⟨c, hc⟩ := exists_compile_regionTotals
  obtain ⟨s, d, hs, hd, htext, horder, -, -, hiff⟩ := Request.losesNoSort_iff_of_compile hgrouped hc
  exact ⟨hgrouped, c, hc, s, d, hs, hd, htext, horder, hiff⟩

/-- Totals by department and city.  One sort has the dataset before the department, the other spells
the city as it is grouped by. -/
def cityTotals : Request where
  dataset := "EMP"
  groupBy? := some ["DEPT", " CITY "]
  aggregations? := some [⟨"SALARY", .sum, some "Total"⟩]
  sorting? := some [⟨"EMP.DEPT", .descending⟩, ⟨" CITY ", .ascending⟩]

/-- **Both sorts are lost**, though they are on columns that rows are grouped by. -/
theorem not_losesNoSort_cityTotals :
    (compile (.ofCatalog .empty) cityTotals).outcome.toOption.map Compiled.text =
        some ("SELECT \"EMP\".\"DEPT\" AS \"DEPT\", \"EMP\".\"CITY\" AS \" CITY \", " ++
          "SUM(\"EMP\".\"SALARY\") AS \"TOTAL\"\nFROM \"EMP\" \"EMP\"\n" ++
          "GROUP BY \"EMP\".\"DEPT\", \"EMP\".\"CITY\"\n" ++
          "OFFSET 0 ROWS FETCH NEXT 100 ROWS ONLY") ∧
      ∃ s : Scope, s.PlannedFor (.ofCatalog .empty) cityTotals ∧
        (∀ key ∈ cityTotals.sorting, s.IsOnGroup (.ofCatalog .empty) key ∧
          (s.orderOf (.ofCatalog .empty) key).outcome = .ok none) ∧
        ¬s.LosesNoSort (.ofCatalog .empty) := by
  obtain ⟨s, hs, hlost⟩ : ∃ s : Scope, s.PlannedFor (.ofCatalog .empty) cityTotals ∧
      ∀ key ∈ cityTotals.sorting, s.IsOnGroup (.ofCatalog .empty) key ∧
        (s.orderOf (.ofCatalog .empty) key).outcome = .ok none := by
    refine ⟨_, ⟨⟨_, rfl, rfl⟩⟩, fun key hkey => ⟨?onGroup, ?lost⟩⟩
    case onGroup =>
      rcases List.mem_pair.1 hkey with rfl | rfl
      · refine ⟨"DEPT", by decide, 0, "DEPT", "DEPT", ⟨"EMP", "EMP", false⟩, ?_, ?_, ?_, rfl⟩ <;>
          decide +kernel
      · refine ⟨" CITY ", by decide, 0, "CITY", "CITY", ⟨"EMP", "EMP", false⟩, ?_, ?_, ?_, rfl⟩ <;>
          decide +kernel
    case lost =>
      rw [Scope.outcome_orderOf (by decide +kernel)]
      rcases List.mem_pair.1 hkey with rfl | rfl <;> rw [if_neg (by decide +kernel)]
  have hcity : (⟨" CITY ", .ascending⟩ : SortKey) ∈ cityTotals.sorting := by decide
  refine ⟨by decide +kernel, s, hs, hlost, fun hnone => ?_⟩
  exact (hnone _ (hs.request_eq ▸ hcity) (hlost _ hcity).2).2 (hlost _ hcity).1

end ReportSql
