import ReportSql.Proofs.Count.Drafts
import ReportSql.Proofs.Query.Compiled

/-!
# Queries for numbers of rows

A request has a query for one page of its rows and one for their number.  Both come from one query,
with the same values: its text without order and page stands within the query for the number of
groups, and for single rows the number takes the place of the columns.  So the number is that of the
rows which the query for a page would have without the page.

## Main definitions

* `Request.countQuery` — the query for the number of rows of a query of a request.
* `Select.CountedAs` — two compiled queries, for a page of the rows of a query and for their number.

## Main statements

* `outcome_compile_iff`, `outcome_compileCount_iff` — what it takes to compile a request.
* `reported_of_compileCount` — the report of a query for the number of rows.
* `Database.answer_countQuery` — the number that is counted.
* `countsItsRows` — a request counts its own rows.
-/

namespace ReportSql

variable {settings : Settings} {r : Request} {c n : Compiled} {d : Draft}

/-! ## What it takes to compile -/

/-- A valid request for rows is a valid request that selects something. -/
theorem Request.validate_true_iff :
    r.validate true = .ok () ↔
      r.validate false = .ok () ∧ (r.columns ≠ [] ∨ r.aggregations ≠ []) := by
  unfold validate
  split
  · simp
  · split
    · simp
    · split
      · simp
      · cases hcolumns : r.columns <;> cases haggregations : r.aggregations <;> simp

theorem outcome_checked_iff {needsSelection : Bool} :
    (checked r needsSelection).outcome = .ok () ↔ r.validate needsSelection = .ok () := by
  unfold checked
  cases r.validate needsSelection <;> simp [Traced.fail]

/-- **What it takes to compile a request for rows.** -/
theorem outcome_compile_iff :
    (compile settings r).outcome = .ok c ↔
      r.validate true = .ok () ∧ ∃ d, (Draft.ofRequest settings r true).outcome = .ok d ∧
        c = ⟨d.number.1.render, d.number.2.toDict⟩ := by
  constructor
  · intro h
    obtain ⟨_, hchecked, -⟩ := Traced.exists_of_outcome_bind h
    obtain ⟨d, hd, rfl⟩ := exists_draft_of_compile h
    exact ⟨outcome_checked_iff.1 hchecked, d, hd, rfl⟩
  · rintro ⟨hvalid, d, hd, rfl⟩
    refine (Traced.outcome_bind_of_ok (outcome_checked_iff.2 hvalid) _).trans ?_
    exact Traced.outcome_bind_of_ok hd _

/-- The query for the number of rows of a query of a request: over it if it has groups, else with
the number in place of its columns. -/
def Request.countQuery (r : Request) (s : Select Placeholder) : Query :=
  if r.isGrouped then .countOf s else .rows s.ofCount

/-- The compilation of a query for the number of rows ends like that of any other query. -/
theorem finish_countQuery (r : Request) (s : Select Placeholder) (bindings : Bindings) :
    finish (r.countQuery s) bindings =
      if r.isGrouped then finish (.countOf s) bindings else finish (.rows s.ofCount) bindings := by
  unfold Request.countQuery
  split <;> rfl

/-- **What it takes to compile a request for the number of its rows.** -/
theorem outcome_compileCount_iff :
    (compileCount settings r).outcome = .ok n ↔
      r.validate false = .ok () ∧ ∃ d, (Draft.ofRequest settings r true).outcome = .ok d ∧
        n = ⟨(r.countQuery d.number.1.unpaged).render, d.number.2.toDict⟩ := by
  have hfinish : ∀ d : Draft,
      (if r.isGrouped then finish (.countOf d.unpaged.number.1) d.unpaged.number.2
        else finish (.rows d.unpaged.number.1.ofCount) d.unpaged.number.2).outcome =
          .ok ⟨(r.countQuery d.number.1.unpaged).render, d.number.2.toDict⟩ := by
    intro d
    rw [← finish_countQuery, d.number_unpaged]
    rfl
  constructor
  · intro h
    obtain ⟨_, hchecked, h⟩ := Traced.exists_of_outcome_bind h
    obtain ⟨_, hunpaged, h⟩ := Traced.exists_of_outcome_bind h
    obtain ⟨d, hd, rfl⟩ := Draft.ofRequest_false_iff.1 hunpaged
    exact ⟨outcome_checked_iff.1 hchecked, d, hd, Except.ok.inj (h.symm.trans (hfinish d))⟩
  · rintro ⟨hvalid, d, hd, rfl⟩
    have hunpaged := Draft.ofRequest_false_iff.2 ⟨d, hd, rfl⟩
    refine (Traced.outcome_bind_of_ok (outcome_checked_iff.2 hvalid) _).trans ?_
    exact (Traced.outcome_bind_of_ok hunpaged _).trans (hfinish d)

/-- **A query for the number of rows is reported with the number of its values**, too. -/
theorem reported_of_compileCount (h : (compileCount settings r).outcome = .ok n) :
    (compileCount settings r).events.getLast? =
      some (.compiled n.text n.values.entries.length) := by
  obtain ⟨_, hchecked, h⟩ := Traced.exists_of_outcome_bind h
  obtain ⟨d, hd, h⟩ := Traced.exists_of_outcome_bind h
  refine Traced.getLast?_events_bind hchecked (Traced.getLast?_events_bind hd ?_)
  have hfinish := finish_countQuery r d.number.1 d.number.2
  have hdone : (finish (r.countQuery d.number.1) d.number.2).outcome = .ok n := by
    rw [hfinish]
    exact h
  have hreport := getLast?_events_finish d (r.countQuery d.number.1)
  cases hdone
  rw [hfinish] at hreport
  exact hreport

/-! ## Texts -/

namespace Select

variable (s : Select Placeholder)

/-- The text of a query before its output columns. -/
def start : String :=
  match s.hint with
  | some hint => "SELECT " ++ hint ++ " "
  | none => "SELECT "

theorem itemsLine_eq :
    s.itemsLine = s.start ++ ", ".intercalate (s.items.map SelectItem.render) := by
  unfold itemsLine start
  cases s.hint <;> rfl

/-- The text of a query is that without its order and its page, with a line for each. -/
theorem render_eq :
    s.render = "\n".intercalate (s.unpaged.render :: (s.orderLines ++ s.pagingLines)) := by
  have hlines : s.lines = s.unpaged.lines ++ (s.orderLines ++ s.pagingLines) := by
    simp [lines, unpaged, orderLines, pagingLines, itemsLine, sourceLines, groupLines]
  have hne : s.unpaged.lines ≠ [] := List.cons_ne_nil _ _
  rw [render, hlines]
  cases s.orderLines ++ s.pagingLines with
  | nil => simp [render]
  | cons line lines =>
    rw [String.intercalate_append_of_ne_nil hne (List.cons_ne_nil _ _),
      String.intercalate_cons_cons]
    rfl

variable {s}

/-- The text of a plain query. -/
theorem IsPlain.render_unpaged (h : s.IsPlain) :
    s.unpaged.render = "\n".intercalate
      ((s.start ++ ", ".intercalate (s.items.map SelectItem.render)) ::
        (s.sourceLines ++ filterLines "WHERE" s.rowFilter)) := by
  have hlines : s.unpaged.lines =
      s.itemsLine :: (s.sourceLines ++ filterLines "WHERE" s.rowFilter) := by
    simp [lines, unpaged, orderLines, pagingLines, itemsLine, sourceLines, groupLines, h.groupBy,
      h.groupFilter, filterLines]
  rw [render, hlines, itemsLine_eq]

/-- The text of a plain query with the number of rows in place of its columns. -/
theorem IsPlain.render_ofCount (h : s.IsPlain) :
    s.unpaged.ofCount.render = "\n".intercalate
      ((s.start ++ "COUNT(*) AS \"total_rows\"") ::
        (s.sourceLines ++ filterLines "WHERE" s.rowFilter)) := by
  have hlines : s.unpaged.ofCount.lines = s.unpaged.ofCount.itemsLine ::
      (s.sourceLines ++ filterLines "WHERE" s.rowFilter) := by
    simp [lines, unpaged, ofCount, orderLines, pagingLines, sourceLines, groupLines, h.groupBy,
      h.groupFilter, filterLines]
  have hitem : SelectItem.render ⟨.countRows, .verbatim countLabel⟩ =
      "COUNT(*) AS \"total_rows\"" := by decide +kernel
  have hitems : ", ".intercalate (s.unpaged.ofCount.items.map SelectItem.render) =
      "COUNT(*) AS \"total_rows\"" := by
    rw [← hitem]
    simp [ofCount]
  rw [render, hlines, itemsLine_eq, hitems]
  rfl

end Select

/-- The text of a query for the number of the rows of another. -/
theorem Query.render_countOf (s : Select Placeholder) :
    (Query.countOf s).render =
      "SELECT COUNT(*) AS \"total_rows\" FROM (\n" ++ s.render ++ "\n) sub" := by
  have hrender : (Query.countOf s).render =
      "SELECT COUNT(*) AS " ++ quoteLabel countLabel ++ " FROM (\n" ++ s.render ++ "\n) sub" := rfl
  have hstart : "SELECT COUNT(*) AS " ++ quoteLabel countLabel ++ " FROM (\n" =
      "SELECT COUNT(*) AS \"total_rows\" FROM (\n" := by decide +kernel
  rw [hrender, hstart]

/-! ## Numbers of rows -/

/-- **The number that is counted** is that of the rows of the query without its page. -/
theorem Database.answer_countQuery {Row Value : Type} [DecidableEq Value] (db : Database Row Value)
    (values : Dict BindValue) {s : Select Placeholder} (h : r.isGrouped = false → s.IsPlain) :
    db.answer values (r.countQuery s.unpaged) =
      [[db.number (db.results values { s with paging := none }).length]] := by
  have hlength := db.length_results_unpaged values (s := { s with paging := none }) rfl
  unfold Request.countQuery
  cases hgrouped : r.isGrouped with
  | true =>
    rw [if_pos rfl, answer, ← hlength]
    rfl
  | false =>
    have hplain := h hgrouped
    have hunpaged : s.unpaged.IsPlain := ⟨hplain.groupBy, hplain.groupFilter, hplain.items⟩
    rw [if_neg Bool.false_ne_true, answer, db.results_ofCount values hunpaged rfl, ← hlength]
    have hrows := db.length_results_of_isPlain values hunpaged rfl
    exact congrArg (fun count => [[db.number count]]) hrows.symm

/-! ## Requests -/

/-- Two compiled queries of a request with the same values: one for a page of the rows of a query,
and one for the number of its rows. -/
structure Select.CountedAs (s : Select Placeholder) (r : Request) (c n : Compiled) : Prop where
  text : c.text = s.render
  values : n.values = c.values
  page : s.paging = some ⟨r.offset, r.limit⟩
  /-- The text for a page has a line for the order, if there is one, and a line for the page. -/
  paged : c.text = "\n".intercalate (s.unpaged.render :: (s.orderLines ++ s.pagingLines))
  /-- The number of groups is asked for of the text without these lines. -/
  grouped : r.isGrouped = true →
    n.text = "SELECT COUNT(*) AS \"total_rows\" FROM (\n" ++ s.unpaged.render ++ "\n) sub"
  /-- The number of single rows takes the place of the columns in that text. -/
  plain : r.isGrouped = false →
    s.unpaged.render = "\n".intercalate
      ((s.start ++ ", ".intercalate (s.items.map SelectItem.render)) ::
        (s.sourceLines ++ Select.filterLines "WHERE" s.rowFilter)) ∧
    n.text = "\n".intercalate
      ((s.start ++ "COUNT(*) AS \"total_rows\"") ::
        (s.sourceLines ++ Select.filterLines "WHERE" s.rowFilter))
  /-- In every database the number is that of the rows of the query without its page. -/
  counted : n.text = (r.countQuery s.unpaged).render ∧
    ∀ (Row Value : Type) [DecidableEq Value] (db : Database Row Value),
      db.answer n.values (r.countQuery s.unpaged) =
        [[db.number (db.results c.values { s with paging := none }).length]]

/-- A request whose query for the number of rows counts the rows of its query for a page, which is
that of its draft. -/
structure Request.CountsItsRows (settings : Settings) (r : Request) : Prop where
  exists_count : ∀ c, (compile settings r).outcome = .ok c →
    ∃ n, (compileCount settings r).outcome = .ok n ∧ n.values = c.values
  exists_page : ∀ n, (compileCount settings r).outcome = .ok n →
    r.columns ≠ [] ∨ r.aggregations ≠ [] → ∃ c, (compile settings r).outcome = .ok c
  counted : ∀ c n, (compile settings r).outcome = .ok c →
    (compileCount settings r).outcome = .ok n →
      ∃ d, (Draft.ofRequest settings r true).outcome = .ok d ∧ d.number.1.CountedAs r c n

theorem Draft.countedAs (hd : (Draft.ofRequest settings r true).outcome = .ok d) :
    d.number.1.CountedAs r ⟨d.number.1.render, d.number.2.toDict⟩
      ⟨(r.countQuery d.number.1.unpaged).render, d.number.2.toDict⟩ := by
  obtain ⟨planned, hplanned, hassembled⟩ := exists_assembled hd
  have hs : planned.arranged.PlannedFor settings r := ⟨planned, hplanned, rfl⟩
  have hplain : r.isGrouped = false → d.number.1.IsPlain := hassembled.isPlain_number hs
  refine ⟨rfl, rfl, ?page, Select.render_eq _, ?grouped, ?plain, rfl,
    fun Row Value _ db => ?counted⟩
  case page =>
    obtain ⟨bound, hquery, -⟩ := d.exists_number
    rw [hquery.paging, hassembled.paging, hs.request_eq]
    rfl
  case grouped =>
    intro hgrouped
    dsimp only
    rw [Request.countQuery, if_pos hgrouped, Query.render_countOf]
  case plain =>
    intro hungrouped
    refine ⟨(hplain hungrouped).render_unpaged, ?_⟩
    rw [← (hplain hungrouped).render_ofCount, Request.countQuery, hungrouped]
    rfl
  case counted => exact db.answer_countQuery _ hplain

/-- **A request counts its own rows.**  Whenever its rows can be asked for, so can their number, and
the other way round if the request selects something. -/
theorem countsItsRows (settings : Settings) (r : Request) : r.CountsItsRows settings where
  exists_count c hc := by
    obtain ⟨hvalid, d, hd, rfl⟩ := outcome_compile_iff.1 hc
    exact ⟨_, outcome_compileCount_iff.2 ⟨(Request.validate_true_iff.1 hvalid).1, d, hd, rfl⟩, rfl⟩
  exists_page n hn hselects := by
    obtain ⟨hvalid, d, hd, -⟩ := outcome_compileCount_iff.1 hn
    exact ⟨_, outcome_compile_iff.2 ⟨Request.validate_true_iff.2 ⟨hvalid, hselects⟩, d, hd, rfl⟩⟩
  counted c n hc hn := by
    obtain ⟨-, d, hd, rfl⟩ := outcome_compile_iff.1 hc
    obtain ⟨-, d', hd', rfl⟩ := outcome_compileCount_iff.1 hn
    obtain rfl : d = d' := Except.ok.inj (hd.symm.trans hd')
    exact ⟨d, hd, Draft.countedAs hd⟩

end ReportSql
