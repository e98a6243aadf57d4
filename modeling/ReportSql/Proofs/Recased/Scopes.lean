import ReportSql.Proofs.Blind.Scopes
import ReportSql.Proofs.Recased.Requests

/-!
# Plans up to the letter case of references

The conditions of requests that differ in the case of references alone go to the same sources and
clauses, and joins and sorts stand in the same places.  What is reported on the way may name a
reference in either case, so that only the ends of the steps are compared.

## Main definitions

* `Target.Recased` — references that stand for the same, but for the case of letters.
* `Scope.Recased` — scopes whose requests differ in the case of references alone.

## Main statements

* `Scope.Recased.routeFilter` — filters are routed alike.
* `Scope.Recased.pushdown` — the same conditions are moved into the same sources.
* `Scope.Recased.joinClauses`, `Scope.Recased.orderBy` — joins and sorts.
-/

namespace ReportSql

open Text

/-- Two references that stand for the same output or column, but for the case of letters. -/
inductive Target.Recased : Target → Target → Prop
  | output {o o' : AggregateOutput} (h : o.folded = o'.folded) : Recased (.output o) (.output o')
  | column {ref ref' : ColumnRef} (h : ref.folded = ref'.folded) :
      Recased (.column ref) (.column ref')
  | unresolved : Recased .unresolved .unresolved

/-- Two scopes whose requests differ in the case of references alone. -/
structure Scope.Recased (s s' : Scope) : Prop where
  request : s.request.Recased s'.request
  metadata : s.request.HasDistinctMetadata
  sources : s.sources.folded = s'.sources.folded
  aggregates : s.aggregates.folded = s'.aggregates.folded

namespace Scope.Recased

variable {settings : Settings} {s s' : Scope}

/-! ## Conditions -/

theorem isOnOutput (h : s.Recased s') (c c' : Condition) (hc : c.folded = c'.folded) :
    s.isOnOutput c = s'.isOnOutput c' :=
  AggregateIndex.names_eq h.aggregates (Condition.mk.inj hc).1

theorem belongsTo (h : s.Recased s') (i : Nat) (c c' : Condition) (hc : c.folded = c'.folded) :
    s.belongsTo i c = s'.belongsTo i c' := by
  have hcolumn := (Condition.mk.inj hc).1
  have htarget := SourcePlan.resolveColumn_recased h.sources hcolumn
  rw [Scope.belongsTo, Scope.belongsTo, AggregateIndex.names_eq h.aggregates hcolumn,
    isEmpty_trim_eq hcolumn]
  generalize s.sources.resolveColumn c.column = x at htarget ⊢
  generalize s'.sources.resolveColumn c'.column = y at htarget ⊢
  cases htarget with
  | none => rfl
  | @some place place' htarget =>
    have hindex : place.1 = place'.1 := (Prod.mk.inj htarget).1
    change (_ && (place.1 == i)) = (_ && (place'.1 == i))
    rw [hindex]

/-- A reference stands for the same in any case. -/
theorem target (hs : settings.IgnoresCase) (h : s.Recased s') (place : Place)
    {column column' : String} (hcolumn : folded column = folded column') :
    (s.target settings place column).Recased (s'.target settings place column') := by
  have houtput : Option.Rel (InvImage Eq AggregateOutput.folded)
      (if place = .query then s.aggregates.get? column else none)
      (if place = .query then s'.aggregates.get? column' else none) := by
    split
    · exact AggregateIndex.get?_recased h.aggregates hcolumn
    · exact .none
  have href := SourcePlan.columnRef?_recased hs h.sources hcolumn
  rw [Scope.target, Scope.target, isEmpty_trim_eq hcolumn]
  split
  · exact .unresolved
  · dsimp only
    generalize (if place = .query then s.aggregates.get? column else none) = x at houtput ⊢
    generalize (if place = .query then s'.aggregates.get? column' else none) = y at houtput ⊢
    generalize s.sources.columnRef? settings column = z at href ⊢
    generalize s'.sources.columnRef? settings column' = w at href ⊢
    cases houtput with
    | some ho => exact .output ho
    | none =>
      cases href with
      | none => exact .unresolved
      | some href =>
        refine .column ?_
        split
        · exact href
        · rw [← ColumnRef.unqualified_folded, href, ColumnRef.unqualified_folded]

/-- **A condition goes to the same clause, whatever the case of its column.** -/
theorem routeCondition (hs : settings.IgnoresCase) (h : s.Recased s') {c c' : Condition}
    (hc : c.folded = c'.folded) (place : Place) (promoted : Bool) :
    Traced.EndAlike (InvImage Eq Routed.folded) (s.routeCondition settings place promoted c)
      (s'.routeCondition settings place promoted c') := by
  have htarget := target hs h place (Condition.mk.inj hc).1
  rw [Scope.routeCondition, Scope.routeCondition, h.metadata.valueKind_eq h.request hc]
  dsimp only
  generalize s.target settings place c.column = x at htarget ⊢
  generalize s'.target settings place c'.column = y at htarget ⊢
  cases htarget with
  | @output o o' ho =>
    have hexpr : o.expression.folded = o'.expression.folded :=
      congrArg AggregateOutput.expression ho
    refine (conditionPredicate_recased hexpr hc).bind ?_
    exact fun p p' hp => .pure (congrArg (Routed.mk true) hp)
  | @column ref ref' href =>
    have hexpr : (if promoted then Expr.aggregate .max ref else .column ref).folded =
        (if promoted then Expr.aggregate .max ref' else .column ref').folded := by
      split
      · exact congrArg (Expr.aggregate .max) href
      · exact congrArg Expr.column href
    refine (conditionPredicate_recased hexpr hc).bind ?_
    exact fun p p' hp => .pure (congrArg (Routed.mk promoted) hp)
  | unresolved => exact .report_bind _ _ (.pure rfl)

mutual

theorem routeTree (hs : settings.IgnoresCase) (h : s.Recased s') (place : Place) :
    ∀ (t t' : Tree Condition) (promoted : Bool), t.Matches (InvImage Eq Condition.folded) t' →
      Traced.EndAlike (Tree.Matches (InvImage Eq Routed.folded))
        (s.routeTree settings place promoted t) (s'.routeTree settings place promoted t')
  | .leaf c, t', promoted, ht => by
    obtain ⟨c', rfl, hc⟩ := Tree.matches_leaf.1 ht
    rw [Scope.routeTree, Scope.routeTree]
    exact (routeCondition hs h hc place promoted).bind fun _ r hr =>
      .pure (Tree.matches_leaf.2 ⟨r, rfl, hr⟩)
  | .group logic children, t', promoted, ht => by
    obtain ⟨children', rfl, hall⟩ := Tree.matches_group.1 ht
    rw [Scope.routeTree, Scope.routeTree,
      Scope.promotes_eq_of_matchesAll h.isOnOutput place promoted logic hall]
    exact (routeTrees hs h place children children' _ hall).bind fun _ us hus =>
      .pure (Tree.matches_group.2 ⟨us, rfl, hus⟩)

theorem routeTrees (hs : settings.IgnoresCase) (h : s.Recased s') (place : Place) :
    ∀ (ts ts' : List (Tree Condition)) (promoted : Bool),
      Tree.MatchesAll (InvImage Eq Condition.folded) ts ts' →
        Traced.EndAlike (Tree.MatchesAll (InvImage Eq Routed.folded))
          (s.routeTrees settings place promoted ts) (s'.routeTrees settings place promoted ts')
  | [], ts', promoted, hts => by
    obtain rfl := Tree.matchesAll_nil.1 hts
    rw [Scope.routeTrees, Scope.routeTrees]
    exact .pure (Tree.matchesAll_nil.2 rfl)
  | t :: ts, ts', promoted, hts => by
    obtain ⟨t', ts', rfl, ht, hrest⟩ := Tree.matchesAll_cons.1 hts
    rw [Scope.routeTrees, Scope.routeTrees]
    exact (routeTree hs h place t t' promoted ht).bind fun _ u hu =>
      (routeTrees hs h place ts ts' promoted hrest).bind fun _ us hus =>
        .pure (Tree.matchesAll_cons.2 ⟨u, us, rfl, hu, hus⟩)

end

/-- **Filters that differ in the case of columns alone are routed alike.** -/
theorem routeFilter (hs : settings.IgnoresCase) (h : s.Recased s') (place : Place)
    {g g' : Filter} (hg : g.Matches (InvImage Eq Condition.folded) g') :
    Traced.EndAlike (Tree.Matches (InvImage Eq Routed.folded)) (s.routeFilter settings place g)
      (s'.routeFilter settings place g') :=
  routeTree hs h place g.toTree g'.toTree false hg.toTree

/-- **The same conditions are moved into the same sources**, whatever the case of their columns. -/
theorem pushdown (h : s.Recased s') :
    (Pushdown.ofScope s).Matches (InvImage Eq Condition.folded) (Pushdown.ofScope s') := by
  rw [Pushdown.ofScope, Pushdown.ofScope, SourcePlan.occurrences_eq h.sources]
  exact Pushdown.Matches.fromPosition h.belongsTo 0 _ h.request.filter

/-! ## Sources -/

theorem pushedClause (hs : settings.IgnoresCase) (h : s.Recased s') {g g' : Option Filter}
    (hg : Option.Rel (FilterGroup.Matches (InvImage Eq Condition.folded)) g g') :
    Traced.EndAlike (Option.Rel Pushed.Recased) (s.pushedClause settings g)
      (s'.pushedClause settings g') := by
  cases hg with
  | none => exact .pure .none
  | @some g g' hg =>
    refine (routeFilter hs h .source hg).bind fun u u' hu => .pure ?_
    exact rel_map (fun _ _ htree => ⟨htree, isChoice_eq_of_matches hg⟩) (rowClause_recased hu)

/-- The loads of a dataset do not depend on references. -/
theorem loadPredicates_eq (h : s.Recased s') (settings : Settings) (dataset : String) :
    loadPredicates settings s.request dataset = loadPredicates settings s'.request dataset :=
  h.request.congr (loadPredicates settings · dataset) fun _ => rfl

theorem source (hs : settings.IgnoresCase) (h : s.Recased s') (o : Occurrence)
    {g g' : Option Filter}
    (hg : Option.Rel (FilterGroup.Matches (InvImage Eq Condition.folded)) g g') :
    Traced.EndAlike Source.Recased (s.source settings o g) (s'.source settings o g') := by
  rw [Scope.source, Scope.source, h.loadPredicates_eq]
  refine (Traced.EndAlike.refl _).bind ?_
  rintro load _ rfl
  exact (pushedClause hs h hg).bind fun p p' hp => .pure ⟨rfl, rfl, rfl, hp⟩

theorem occurrence_eq (h : s.Recased s') (position : Nat) :
    s.occurrence position = s'.occurrence position := by
  have hdataset : s.request.dataset = s'.request.dataset :=
    h.request.congr Request.dataset fun _ => rfl
  rw [Scope.occurrence, Scope.occurrence, SourcePlan.occurrences_eq h.sources, hdataset]

theorem joinColumn_eq (hs : settings.IgnoresCase) (o : Occurrence) {column column' : String}
    (h : folded column = folded column') :
    (joinColumn settings o column).folded = (joinColumn settings o column').folded := by
  have hname : folded (lastSegment (trim column)) = folded (lastSegment (trim column')) := by
    rw [← lastSegment_folded, folded_trim_eq h, lastSegment_folded]
  exact congrArg (ColumnRef.qualified o.name) (hs.physicalColumn_eq o.dataset hname)

theorem joinClause (hs : settings.IgnoresCase) (h : s.Recased s') {plan plan' : Pushdown}
    (hplan : plan.Matches (InvImage Eq Condition.folded) plan') {j j' : PlannedJoin}
    (hj : j.folded = j'.folded) :
    Traced.EndAlike JoinClause.Recased (s.joinClause settings plan j)
      (s'.joinClause settings plan' j') := by
  obtain ⟨hspec, hleft, hright⟩ := PlannedJoin.mk.inj hj
  obtain ⟨-, -, hkind, hpairs⟩ := Join.mk.inj hspec
  rw [Scope.joinClause, Scope.joinClause, hleft, hright, h.occurrence_eq, h.occurrence_eq]
  dsimp only
  refine (source hs h _ (hplan.at? j'.right)).bind fun _ _ hsource => .pure ⟨hkind, hsource, ?_⟩
  rw [List.forall₂_map_left_iff, List.forall₂_map_right_iff]
  refine (forall₂_invImage_iff.2 hpairs).imp fun pair pair' hpair => ?_
  obtain ⟨hfirst, hsecond⟩ := JoinPair.mk.inj hpair
  exact Prod.ext (joinColumn_eq hs _ hfirst) (joinColumn_eq hs _ hsecond)

theorem joinClauses (hs : settings.IgnoresCase) (h : s.Recased s') {plan plan' : Pushdown}
    (hplan : plan.Matches (InvImage Eq Condition.folded) plan') {js js' : List PlannedJoin}
    (hjs : List.Forall₂ (InvImage Eq PlannedJoin.folded) js js') :
    Traced.EndAlike (List.Forall₂ JoinClause.Recased) (s.joinClauses settings plan js)
      (s'.joinClauses settings plan' js') := by
  induction hjs with
  | nil => exact .pure .nil
  | cons hj _ ih =>
    rw [Scope.joinClauses, Scope.joinClauses]
    exact (joinClause hs h hplan hj).bind fun _ _ hclause =>
      ih.bind fun _ _ hclauses => .pure (.cons hclause hclauses)

/-- The joins are put in the same order. -/
theorem reorder (h : s.Recased s') (weights : List Nat) :
    Scope.Recased { s with sources := s.sources.reorder weights }
      { s' with sources := s'.sources.reorder weights } :=
  ⟨h.request, h.metadata, SourcePlan.reorder_recased h.sources weights, h.aggregates⟩

/-! ## The outer query -/

theorem outerFilter (hs : settings.IgnoresCase) (h : s.Recased s') {g g' : Filter}
    (hg : g.Matches (InvImage Eq Condition.folded) g') :
    Traced.EndAlike (Option.Rel (Tree.Matches (InvImage Eq Routed.folded)))
      (s.outerFilter settings g) (s'.outerFilter settings g') := by
  rw [Scope.outerFilter, Scope.outerFilter, hg.isEmpty_eq]
  split
  · exact .pure .none
  · exact (routeFilter hs h .query hg).bind fun _ _ hu => .pure (.some hu)

theorem isGroupedSort_eq (h : s.Recased s') {key key' : SortKey} (hkey : key.folded = key'.folded) :
    s.isGroupedSort key = s'.isGroupedSort key' := by
  have hgroupBy : s.request.groupBy = s'.request.groupBy :=
    h.request.congr Request.groupBy fun _ => rfl
  have hcolumn : ∀ column, sameFolded column (trim key.column) =
      sameFolded column (trim key'.column) := by
    intro column
    rw [← sameFolded_folded_right, folded_trim_eq (SortKey.mk.inj hkey).1, sameFolded_folded_right]
  simp only [Scope.isGroupedSort, hgroupBy, hcolumn]

/-- A sort makes one order in any case. -/
theorem orderOf (hs : settings.IgnoresCase) (h : s.Recased s') {key key' : SortKey}
    (hkey : key.folded = key'.folded) :
    Traced.EndAlike (Option.Rel OrderRecased) (s.orderOf settings key)
      (s'.orderOf settings key') := by
  obtain ⟨hcolumn, hdirection⟩ := SortKey.mk.inj hkey
  have houtput := AggregateIndex.get?_recased h.aggregates hcolumn
  have href := SourcePlan.columnRef?_recased hs h.sources hcolumn
  rw [Scope.orderOf, Scope.orderOf, h.request.isGrouped, h.isGroupedSort_eq hkey]
  generalize s.aggregates.get? key.column = x at houtput ⊢
  generalize s'.aggregates.get? key'.column = y at houtput ⊢
  generalize s.sources.columnRef? settings key.column = z at href ⊢
  generalize s'.sources.columnRef? settings key'.column = w at href ⊢
  cases houtput with
  | some ho =>
    have hname := quotePart_eq_of_folded_eq (AggregateOutput.mk.inj ho).1
    exact .pure (.some ⟨hname, hdirection⟩)
  | none =>
    dsimp only
    split
    · exact .report_bind _ _ (.pure .none)
    · cases href with
      | some href => exact .pure (.some ⟨ColumnRef.render_eq_of_folded_eq href, hdirection⟩)
      | none => exact .report_bind _ _ (.pure .none)

theorem orderBy (hs : settings.IgnoresCase) (h : s.Recased s') {keys keys' : List SortKey}
    (hkeys : List.Forall₂ (InvImage Eq SortKey.folded) keys keys') :
    Traced.EndAlike (List.Forall₂ OrderRecased) (s.orderBy settings keys)
      (s'.orderBy settings keys') := by
  induction hkeys with
  | nil => exact .pure .nil
  | cons hkey _ ih =>
    rw [Scope.orderBy, Scope.orderBy]
    refine (orderOf hs h hkey).bind fun _ _ horder => ih.bind fun _ _ hrest => .pure ?_
    cases horder with
    | none => exact hrest
    | some horder => exact .cons horder hrest

/-- The selected columns do not depend on references. -/
theorem selectedColumns_eq (h : s.Recased s') (settings : Settings) :
    s.selectedColumns settings s.selectedNames = s'.selectedColumns settings s'.selectedNames := by
  have hgroupBy : s.request.groupBy = s'.request.groupBy :=
    h.request.congr Request.groupBy fun _ => rfl
  have hcolumns : s.request.columns = s'.request.columns :=
    h.request.congr Request.columns fun _ => rfl
  have hselected : ∀ columns, s.selectedColumns settings columns =
      s'.selectedColumns settings columns := by
    intro columns
    induction columns with
    | nil => rfl
    | cons column columns ih =>
      rw [Scope.selectedColumns, Scope.selectedColumns, SourcePlan.selectedColumn_eq h.sources, ih]
  rw [Scope.selectedNames, Scope.selectedNames, hselected, h.request.isGrouped, hgroupBy, hcolumns]

/-- The output columns differ in the case of letters alone. -/
theorem items (h : s.Recased s') (refs : List ColumnRef) :
    List.Forall₂ (InvImage Eq SelectItem.render) (s.items refs) (s'.items refs) := by
  have hgroupBy : s.request.groupBy = s'.request.groupBy :=
    h.request.congr Request.groupBy fun _ => rfl
  have hcolumns : s.request.columns = s'.request.columns :=
    h.request.congr Request.columns fun _ => rfl
  have hdataset : s.request.dataset = s'.request.dataset :=
    h.request.congr Request.dataset fun _ => rfl
  have houtput : ∀ o o' : AggregateOutput, o.folded = o'.folded →
      (⟨o.expression, .folded o.name⟩ : SelectItem).render =
        (⟨o'.expression, .folded o'.name⟩ : SelectItem).render := by
    intro o o' ho
    have hexpr : o.expression.folded = o'.expression.folded :=
      congrArg AggregateOutput.expression ho
    unfold SelectItem.render Label.render
    dsimp only
    rw [Expr.render_eq_of_folded_eq hexpr,
      quotePart_eq_of_folded_eq (AggregateOutput.mk.inj ho).1]
  rw [forall₂_invImage_iff]
  unfold Scope.items Scope.columnLabel
  rw [h.request.isGrouped, hgroupBy, hcolumns, hdataset]
  split
  · have houtputs := forall₂_invImage_iff.2 (AggregateIndex.mk.inj h.aggregates).1
    rw [List.map_append, List.map_append, List.map_map, List.map_map, List.map_map]
    exact congrArg _ (map_eq_of_forall₂ houtput houtputs)
  · rfl

end Scope.Recased

end ReportSql
