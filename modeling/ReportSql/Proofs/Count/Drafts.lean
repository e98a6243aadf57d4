import ReportSql.Proofs.Count.Rows
import ReportSql.Proofs.Failure.Compile
import ReportSql.Proofs.Query.Numbering

/-!
# Drafts with and without a page

The draft of a request for a page of its rows is that for all rows, with an order and a page.
Neither has placeholders, so numbering gives both the same placeholders and values.  The query of a
request without groups is a plain one.

## Main definitions

* `Draft.unpaged` — a draft without its order and its page.

## Main statements

* `Draft.outcome_ofRequest_iff` — what it takes to draft a request.
* `Draft.ofRequest_false_iff` — the draft for all rows is that for a page, without the page.
* `Draft.Assembled.isPlain_number` — the query of a request without groups.
-/

namespace ReportSql

variable {settings : Settings} {r : Request} {s : Scope} {plan : Pushdown} {d : Draft}
  {paged : Bool}

/-! ## Requests without groups -/

namespace Scope

/-- Without outputs no group of conditions is promoted. -/
theorem promotes_of_aggregates_eq (h : s.aggregates = {}) (place : Place) (logic : Logic)
    (children : List (Tree Condition)) : s.promotes place false logic children = false := by
  have hnone : ∀ c, s.isOnOutput c = false := by
    intro c
    rw [isOnOutput, h]
    rfl
  simp [promotes, mixes, hnone]

/-- Without outputs a condition that is not promoted holds of rows. -/
theorem ofGroups_of_routeCondition (h : s.aggregates = {}) {place : Place} {c : Condition}
    {q : Routed Hole} (hq : (s.routeCondition settings place false c).outcome = .ok q) :
    q.ofGroups = false := by
  unfold routeCondition at hq
  dsimp only at hq
  rcases target_cases s settings place c.column with
    ⟨o, -, -, hget⟩ | ⟨found, htarget, -⟩ | htarget
  · rw [h] at hget
    cases hget
  · rw [htarget] at hq
    obtain ⟨p, -, hq⟩ := Traced.exists_of_outcome_bind hq
    cases hq
    rfl
  · rw [htarget] at hq
    obtain ⟨_, -, hq⟩ := Traced.exists_of_outcome_bind hq
    cases hq
    rfl

mutual

/-- Without outputs no condition of a tree is promoted. -/
theorem flagged_of_aggregates_eq (h : s.aggregates = {}) (place : Place) : ∀ t : Tree Condition,
    s.flagged place false t = t.map (Prod.mk false)
  | .leaf c => by rw [flagged, Tree.map_leaf]
  | .group logic children => by
    rw [flagged, promotes_of_aggregates_eq h, flaggedAll_of_aggregates_eq h place children,
      Tree.map_group]

theorem flaggedAll_of_aggregates_eq (h : s.aggregates = {}) (place : Place) :
    ∀ ts : List (Tree Condition), s.flaggedAll place false ts = Tree.mapAll (Prod.mk false) ts
  | [] => by rw [flaggedAll, Tree.mapAll_nil]
  | t :: ts => by
    rw [flaggedAll, flagged_of_aggregates_eq h place t, flaggedAll_of_aggregates_eq h place ts,
      Tree.mapAll_cons]

end

/-- **Without outputs all conditions of a filter hold of rows.** -/
theorem ofGroups_of_routeTree (h : s.aggregates = {}) {place : Place} {t : Tree Condition}
    {u : Tree (Routed Hole)} (hu : (s.routeTree settings place false t).outcome = .ok u) :
    ∀ q ∈ u.leaves, q.ofGroups = false := by
  rw [routeTree_eq_traverse, flagged_of_aggregates_eq h] at hu
  have hmatch := Tree.matches_map_iff.1 (Tree.matches_of_outcome_traverse hu)
  intro q hq
  obtain ⟨c, -, hroute⟩ := hmatch.exists_left q hq
  exact ofGroups_of_routeCondition h hroute

theorem ofGroups_of_outerFilter (h : s.aggregates = {}) {g : Filter}
    {filter : Option (Tree (Routed Hole))}
    (hfilter : (s.outerFilter settings g).outcome = .ok filter) :
    ∀ tree, filter = some tree → ∀ q ∈ tree.leaves, q.ofGroups = false := by
  unfold outerFilter at hfilter
  split at hfilter
  · cases hfilter
    simp
  · obtain ⟨u, hu, hfilter⟩ := Traced.exists_of_outcome_bind hfilter
    cases hfilter
    intro tree htree
    cases htree
    exact ofGroups_of_routeTree h hu

theorem PlannedFor.aggregates_eq (h : s.PlannedFor settings r) (hnone : r.aggregations = []) :
    s.aggregates = {} := by
  obtain ⟨p, -, -, -, haggregates, -⟩ := h.exists_sources
  rw [AggregateIndex.ofRequest, hnone] at haggregates
  exact (Except.ok.inj haggregates).symm

end Scope

/-- The filter of a draft becomes no clause on groups if all its conditions hold of rows. -/
theorem Draft.groupFilter_number
    (h : ∀ tree, d.filter = some tree → ∀ q ∈ tree.leaves, q.ofGroups = false) :
    d.number.1.groupFilter = none := by
  obtain ⟨bound, hquery, -⟩ := d.exists_number
  obtain ⟨filter, hmatch, -, hgroups⟩ := hquery.filter
  rw [hgroups]
  generalize hdraft : d.filter = draft at hmatch
  cases hmatch with
  | none => rfl
  | @some tree u hu =>
    refine Tree.prune_eq_none _ u fun q hq => ?_
    obtain ⟨q', hq', hqq⟩ := hu.exists_left q hq
    rw [← hqq.ofGroups, h tree hdraft q' hq']
    rfl

theorem Request.of_isGrouped_eq_false (h : r.isGrouped = false) :
    r.groupBy = [] ∧ r.aggregations = [] := by
  simpa [isGrouped] using h

/-- **The query of a request without groups is a plain one.** -/
theorem Draft.Assembled.isPlain_number (h : d.Assembled settings paged plan s)
    (hs : s.PlannedFor settings r) (hplain : r.isGrouped = false) : d.number.1.IsPlain := by
  obtain rfl := hs.request_eq
  obtain ⟨bound, hquery, -⟩ := d.exists_number
  obtain ⟨refs, -, hitems, hgroupBy⟩ := h.columns
  have haggregates := hs.aggregates_eq (Request.of_isGrouped_eq_false hplain).2
  refine ⟨?_, Draft.groupFilter_number (Scope.ofGroups_of_outerFilter haggregates h.filter), ?_⟩
  · rw [hquery.groupBy, hgroupBy, hplain]
    rfl
  · rw [hquery.items, hitems, Scope.items, hplain, if_neg Bool.false_ne_true]
    intro i hi
    obtain ⟨pair, -, rfl⟩ := List.mem_map.1 hi
    rfl

/-! ## Order and page -/

namespace Draft

/-- The draft without its order and its page. -/
def unpaged (d : Draft) : Draft := { d with orderBy := [], paging := none }

/-- Neither order nor page has placeholders. -/
theorem number_unpaged (d : Draft) : d.unpaged.number = (d.number.1.unpaged, d.number.2) := rfl

theorem Assembled.outcome_ofRequest {planned : Scope}
    (hplanned : Scope.ofRequest settings r = .ok planned)
    (h : d.Assembled settings paged (Pushdown.ofScope planned) planned.arranged) :
    (ofRequest settings r paged).outcome = .ok d := by
  have hs : planned.arranged.PlannedFor settings r := ⟨planned, hplanned, rfl⟩
  obtain rfl : planned.request = r := hs.request_eq
  obtain ⟨hint, items, base, joins, filter, groupBy, orderBy, paging⟩ := d
  obtain ⟨hbase, hjoins, hfilter, ⟨refs, hrefs, hitems, hgroupBy⟩, horderBy, hhint, hpaging⟩ := h
  dsimp only at *
  subst hitems hgroupBy hhint hpaging
  have hfirst : (Traced.ofExcept (Scope.ofRequest settings planned.request)).outcome =
      .ok planned := hplanned
  have hlast : (Traced.ofExcept (planned.arranged.selectedColumns settings
      planned.arranged.selectedNames)).outcome = .ok refs := hrefs
  unfold ofRequest
  refine (Traced.outcome_bind_of_ok hfirst _).trans ?_
  refine (Traced.outcome_bind_of_ok rfl _).trans ?_
  refine (Traced.outcome_bind_of_ok hbase _).trans ?_
  refine (Traced.outcome_bind_of_ok hjoins _).trans ?_
  refine (Traced.outcome_bind_of_ok hfilter _).trans ?_
  refine (Traced.outcome_bind_of_ok hlast _).trans ?_
  cases paged with
  | true => exact (Traced.outcome_bind_of_ok horderBy _).trans rfl
  | false => exact (Traced.outcome_bind_of_ok horderBy _).trans rfl

/-- **What it takes to draft a request.** -/
theorem outcome_ofRequest_iff :
    (ofRequest settings r paged).outcome = .ok d ↔
      ∃ planned, Scope.ofRequest settings r = .ok planned ∧
        d.Assembled settings paged (Pushdown.ofScope planned) planned.arranged := by
  constructor
  · exact exists_assembled
  · rintro ⟨planned, hplanned, h⟩
    exact h.outcome_ofRequest hplanned

theorem Assembled.unpaged (h : d.Assembled settings true plan s) :
    d.unpaged.Assembled settings false plan s :=
  ⟨h.base, h.joins, h.filter, h.columns, rfl, h.hint, rfl⟩

/-- Every draft for all rows is one for a page, without the page: no sort makes it fail. -/
theorem Assembled.exists_paged (h : d.Assembled settings false plan s) :
    ∃ d' : Draft, d'.Assembled settings true plan s ∧ d = d'.unpaged := by
  obtain ⟨orders, horders⟩ := Scope.exists_orderBy settings s s.request.sorting
  have horderBy : [] = d.orderBy := Except.ok.inj h.orderBy
  have hpaging : d.paging = none := h.paging
  refine ⟨{ d with orderBy := orders, paging := some ⟨s.request.offset, s.request.limit⟩ },
    ⟨h.base, h.joins, h.filter, h.columns, horders, h.hint, rfl⟩, ?_⟩
  obtain ⟨hint, items, base, joins, filter, groupBy, orderBy, paging⟩ := d
  dsimp only at horderBy hpaging
  subst horderBy hpaging
  rfl

/-- **The draft for all rows is that for a page, without the page.** -/
theorem ofRequest_false_iff :
    (ofRequest settings r false).outcome = .ok d ↔
      ∃ d' : Draft, (ofRequest settings r true).outcome = .ok d' ∧ d = d'.unpaged := by
  constructor
  · intro h
    obtain ⟨planned, hplanned, hassembled⟩ := outcome_ofRequest_iff.1 h
    obtain ⟨d', hd', heq⟩ := hassembled.exists_paged
    exact ⟨d', outcome_ofRequest_iff.2 ⟨planned, hplanned, hd'⟩, heq⟩
  · rintro ⟨d', h, rfl⟩
    obtain ⟨planned, hplanned, hassembled⟩ := outcome_ofRequest_iff.1 h
    exact outcome_ofRequest_iff.2 ⟨planned, hplanned, hassembled.unpaged⟩

end Draft

end ReportSql
