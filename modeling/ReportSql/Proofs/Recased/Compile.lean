import ReportSql.Proofs.Recased.Scopes

/-!
# Queries up to the letter case of references

A request refers to the same columns, datasets and outputs with its ASCII letters in either case, so
that its query and the values bound to it do not depend on the case.

## Main statements

* `Request.Recased.draft` — requests that differ in the case of references alone have drafts that
  differ in the case of columns and outputs alone.
* `Request.Recased.compile_endAlike` — either no query can be made of both, or the same.
-/

namespace ReportSql

namespace Request.Recased

variable {settings : Settings} {r r' : Request}

/-! ## Drafts -/

theorem scope (hs : settings.IgnoresCase) (h : r.Recased r') (hmetadata : r.HasDistinctMetadata) :
    OutcomesAlike Scope.Recased (Scope.ofRequest settings r) (Scope.ofRequest settings r') := by
  rw [Scope.ofRequest, Scope.ofRequest]
  refine (SourcePlan.ofRequest_recased h).bind fun p p' hp => ?_
  refine (AggregateIndex.ofRequest_recased hs h hp).bind fun index index' hindex => ?_
  exact .ok ⟨h, hmetadata, hp, hindex⟩

/-- **Requests that differ in the case of references alone have drafts that differ in the case of
columns and outputs alone.** -/
theorem draft (hs : settings.IgnoresCase) (h : r.Recased r') (hmetadata : r.HasDistinctMetadata)
    (paged : Bool) :
    Traced.EndAlike Draft.Recased (Draft.ofRequest settings r paged)
      (Draft.ofRequest settings r' paged) := by
  rw [Draft.ofRequest, Draft.ofRequest]
  refine (Traced.EndAlike.ofExcept (h.scope hs hmetadata)).bind fun s s' hscope => ?_
  have hplan := hscope.pushdown
  -- joins are ordered by the numbers of conditions moved, which do not depend on the case
  have hordered := hscope.reorder (Pushdown.ofScope s').weights
  have hjoins := forall₂_invImage_iff.2 (SourcePlan.mk.inj hordered.sources).2
  refine .reportAll_bind _ _ ?_
  rw [hplan.weights]
  dsimp only
  rw [hordered.occurrence_eq 0]
  refine (hordered.source hs _ (hplan.at? 0)).bind fun base base' hbase => ?_
  refine (hordered.joinClauses hs hplan hjoins).bind fun joins joins' hjoins => ?_
  refine (hordered.outerFilter hs hplan.remaining).bind fun filter filter' hfilter => ?_
  rw [hordered.selectedColumns_eq]
  refine (Traced.EndAlike.refl _).bind ?_
  rintro refs _ rfl
  have hitems := hordered.items refs
  have hhints : r.useHints = r'.useHints := h.congr Request.useHints fun _ => rfl
  have hoffset : r.offset = r'.offset := h.congr Request.offset fun _ => rfl
  have hlimit : r.limit = r'.limit := h.congr Request.limit fun _ => rfl
  rw [hhints, h.isGrouped, hoffset, hlimit]
  split
  · refine (hordered.orderBy hs h.sorting).bind fun orderBy orderBy' horderBy => ?_
    exact .pure ⟨rfl, hitems, hbase, hjoins, hfilter, rfl, horderBy, rfl⟩
  · have hunordered : Traced.EndAlike (List.Forall₂ OrderRecased) (pure []) (pure []) := .pure .nil
    refine hunordered.bind fun orderBy orderBy' horderBy => ?_
    exact .pure ⟨rfl, hitems, hbase, hjoins, hfilter, rfl, horderBy, rfl⟩

/-! ## Queries -/

/-- The checks on a request do not see the case of references, though what they say may. -/
theorem checked (h : r.Recased r') (needsSelection : Bool) :
    Traced.EndAlike Eq (checked r needsSelection) (checked r' needsSelection) := by
  have hdataset : r.dataset = r'.dataset := h.congr Request.dataset fun _ => rfl
  have hlimit : r.limit = r'.limit := h.congr Request.limit fun _ => rfl
  have hcolumns : r.columns = r'.columns := h.congr Request.columns fun _ => rfl
  have hpairs : ∀ j j' : Join, j.folded = j'.folded → j.pairs.isEmpty = j'.pairs.isEmpty :=
    fun j j' hj => isEmpty_eq_of_length_eq
      (forall₂_invImage_iff.2 (Join.mk.inj hj).2.2.2).length_eq
  have hunpaired := rel_find?_of_forall₂ hpairs h.joins
  rw [ReportSql.checked, ReportSql.checked, Request.validate, Request.validate, hdataset, hlimit,
    hcolumns, isEmpty_eq_of_length_eq h.aggregations.length_eq]
  generalize r.joins.find? (fun j => j.pairs.isEmpty) = x at hunpaired ⊢
  generalize r'.joins.find? (fun j => j.pairs.isEmpty) = y at hunpaired ⊢
  cases hunpaired with
  | none => exact .refl _
  | some _ =>
    dsimp only
    by_cases hblank : (Text.trim r'.dataset).isEmpty
    · rw [if_pos hblank, if_pos hblank]
      exact .fail _ _
    · rw [if_neg hblank, if_neg hblank]
      by_cases hinvalid : r'.limit = 0 ∨ maxLimit < r'.limit
      · rw [if_pos hinvalid, if_pos hinvalid]
        exact .fail _ _
      · rw [if_neg hinvalid, if_neg hinvalid]
        exact .fail _ _

end Request.Recased

/-- Queries with one text and the same values are one. -/
theorem finish_endAlike {query query' : Query} (h : query.render = query'.render)
    (bindings : Bindings) :
    Traced.EndAlike Eq (finish query bindings) (finish query' bindings) := by
  rw [finish, finish, h]
  exact .refl _

/-- Queries that differ in the case of columns and outputs alone are one, for rows as well as for
their number. -/
theorem Select.Recased.finish_endAlike {s s' : Select Placeholder} (h : s.Recased s')
    (bindings : Bindings) :
    Traced.EndAlike Eq (finish (.rows s) bindings) (finish (.rows s') bindings) ∧
      Traced.EndAlike Eq (finish (.countOf s) bindings) (finish (.countOf s') bindings) := by
  have hrows : (Query.rows s).render = (Query.rows s').render := h.render_eq
  have hcount : (Query.countOf s).render = (Query.countOf s').render :=
    congrArg (fun text => "SELECT COUNT(*) AS " ++ quoteLabel countLabel ++ " FROM (\n" ++ text ++
      "\n) sub") h.render_eq
  exact ⟨ReportSql.finish_endAlike hrows bindings, ReportSql.finish_endAlike hcount bindings⟩

/-- **References may be written in any case.**  Of requests that differ in the case of the ASCII
letters of references alone, either no query can be made of both, or the same query with the same
values, whatever the catalog and the options.  What is said of columns has to be said under keys
that differ in upper case. -/
theorem Request.Recased.compile_endAlike {r r' : Request} (options : Options)
    (partitions names : Catalog) (hmetadata : r.HasDistinctMetadata) (h : r.Recased r') :
    Traced.EndAlike Eq (compile (.ofCatalogs options partitions names) r)
        (compile (.ofCatalogs options partitions names) r') ∧
      Traced.EndAlike Eq (compileCount (.ofCatalogs options partitions names) r)
        (compileCount (.ofCatalogs options partitions names) r') := by
  have hs := Settings.ignoresCase_ofCatalogs options partitions names
  constructor
  · rw [compile, compile]
    refine (h.checked true).bind fun _ _ _ => ?_
    refine (h.draft hs hmetadata true).bind fun d d' hd => ?_
    dsimp only
    rw [hd.number_snd]
    exact (hd.number_fst.finish_endAlike _).1
  · rw [compileCount, compileCount]
    refine (h.checked false).bind fun _ _ _ => ?_
    refine (h.draft hs hmetadata false).bind fun d d' hd => ?_
    have hselect := hd.number_fst
    dsimp only
    rw [h.isGrouped, hd.number_snd]
    split
    · exact (hselect.finish_endAlike _).2
    · have hcounted : Select.Recased
          { d.number.1 with items := [⟨.countRows, .verbatim countLabel⟩] }
          { d'.number.1 with items := [⟨.countRows, .verbatim countLabel⟩] } :=
        { hselect with items := .cons rfl .nil }
      exact (hcounted.finish_endAlike _).1

/-- A request for the pay of departments with references in upper case. -/
def upperCaseReport : Request where
  dataset := "EMP"
  joins? := some [⟨"EMP", "DEPT", .left, [⟨"EMP.DEPT_ID", "DEPT.ID"⟩]⟩]
  filters? := some
    { children := [.leaf ⟨"EMP.HIRED", .text, .greater, .scalar (.text "2020-01-01")⟩,
        .leaf ⟨"TOTAL PAY", .number, .greater, .scalar (.int 10)⟩] }
  groupBy? := some ["DEPT.NAME"]
  aggregations? := some [⟨"EMP.PAY", .sum, some "TOTAL PAY"⟩]
  sorting? := some [⟨"TOTAL PAY", .descending⟩, ⟨"DEPT.NAME", .ascending⟩]
  columnMetadata? := some
    (.ofList [("emp.hired", ⟨some "DATE", none⟩), ("PAY", ⟨some "NUMBER", none⟩)])

/-- The same request with references in mixed case. -/
def mixedCaseReport : Request :=
  { upperCaseReport with
    joins? := some [⟨"emp", "DEPT", .left, [⟨"Emp.Dept_Id", "dept.id"⟩]⟩]
    filters? := some
      { children := [.leaf ⟨"emp.Hired", .text, .greater, .scalar (.text "2020-01-01")⟩,
          .leaf ⟨"Total Pay", .number, .greater, .scalar (.int 10)⟩] }
    aggregations? := some [⟨"Emp.pay", .sum, some "total pay"⟩]
    sorting? := some [⟨"TOTAL pay", .descending⟩, ⟨"Dept.Name", .ascending⟩] }

theorem compile_endAlike_mixedCase :
    upperCaseReport.HasDistinctMetadata ∧ upperCaseReport.Recased mixedCaseReport ∧
      Traced.EndAlike Eq (compile (.ofCatalogs {} .empty .empty) upperCaseReport)
        (compile (.ofCatalogs {} .empty .empty) mixedCaseReport) ∧
      Traced.EndAlike Eq (compileCount (.ofCatalogs {} .empty .empty) upperCaseReport)
        (compileCount (.ofCatalogs {} .empty .empty) mixedCaseReport) := by
  have hmetadata : upperCaseReport.HasDistinctMetadata := by
    intro metadata h
    cases h
    decide +kernel
  have hhired : Condition.folded ⟨"EMP.HIRED", .text, .greater, .scalar (.text "2020-01-01")⟩ =
      Condition.folded ⟨"emp.Hired", .text, .greater, .scalar (.text "2020-01-01")⟩ := by
    decide +kernel
  have htotal : Condition.folded ⟨"TOTAL PAY", .number, .greater, .scalar (.int 10)⟩ =
      Condition.folded ⟨"Total Pay", .number, .greater, .scalar (.int 10)⟩ := by
    decide +kernel
  have hrecased : upperCaseReport.Recased mixedCaseReport := by
    refine Request.recased_of_parts rfl (by decide +kernel) ?_ (by decide +kernel)
      (by decide +kernel)
    simp only [upperCaseReport, mixedCaseReport, Option.map_some, FilterGroup.map,
      Tree.mapAll_cons, Tree.mapAll_nil, Tree.map_leaf, hhired, htotal]
  exact ⟨hmetadata, hrecased,
    Request.Recased.compile_endAlike {} .empty .empty hmetadata hrecased⟩

end ReportSql
