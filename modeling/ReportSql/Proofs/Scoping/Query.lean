import ReportSql.Proofs.Count.Compile
import ReportSql.Proofs.Query.Joined
import ReportSql.Proofs.Scoping.Names

/-!
# Scoping of queries

Every source of a query is declared under a name of its own, and the columns of the query are
qualified by these names.  A join compares columns of the source that it brings in with columns of
one source before it.  Within a source columns are not qualified.

## Main definitions

* `Select.declarations` — the names that a query declares.
* `Select.outerRefs` — the columns that a query refers to outside its sources.
* `Select.WellScoped` — the columns of a query are qualified by names that it declares once.

## Main statements

* `Select.WrittenFor.wellScoped` — the query of a scope is well scoped.
* `Request.wellNamed_and_wellScoped` — the plan of a request is well named, and the queries that it
  is compiled to are well scoped.
-/

namespace ReportSql

open Text

variable {settings : Settings} {r : Request} {s : Scope}
  {bound : List (Placeholder × BindValue)} {q : Select Placeholder}

/-! ## Columns of queries -/

/-- The columns of a predicate. -/
def Predicate.refs (p : Predicate Placeholder) : List ColumnRef := p.exprs.filterMap Expr.column?

/-- The column of an order, if it is not by an output. -/
def OrderKey.column? : OrderKey → Option ColumnRef
  | .column ref => some ref
  | .output _ => none

namespace Select

/-- The names that the sources of a query are declared under, as a database compares them. -/
def declarations (q : Select Placeholder) : List String := q.sources.map fun s => upper s.name

/-- The columns that a query refers to outside its sources: those of its output columns, of its
joins, of its filters on rows and groups, of its grouping and of its order. -/
def outerRefs (q : Select Placeholder) : List ColumnRef :=
  q.items.filterMap (fun i => i.expression.column?) ++
    q.joins.flatMap (fun j => j.pairs.flatMap fun pair => [pair.1, pair.2]) ++
    (clausePredicates q.rowFilter).flatMap Predicate.refs ++ q.groupBy ++
    (clausePredicates q.groupFilter).flatMap Predicate.refs ++
    q.orderBy.filterMap fun key => key.1.column?

end Select

/-- A column that is qualified by a name which occurs once among some declarations. -/
def ColumnRef.IsDeclaredOnce (declarations : List String) : ColumnRef → Prop
  | .qualified source _ => declarations.count (upper source) = 1
  | .bare _ => False

/-- A query whose sources are declared under names of their own.  Its columns are qualified by one
of these names, but for those within its sources, which are not qualified.  A join compares columns
of its own source with columns of one source that is declared before it. -/
structure Select.WellScoped (q : Select Placeholder) : Prop where
  distinct : q.declarations.Nodup
  outer : ∀ ref ∈ q.outerRefs, ref.IsDeclaredOnce q.declarations
  inner : ∀ source ∈ q.sources, ∀ p ∈ source.predicates, ∀ ref ∈ p.refs,
    ∃ column, ref = .bare column
  joins : ∀ before j after, q.joins = before ++ j :: after →
    ∃ left ∈ q.base :: before.map JoinClause.source, ∀ pair ∈ j.pairs,
      (∃ column, pair.1 = .qualified left.name column) ∧
        ∃ column, pair.2 = .qualified j.source.name column

/-! ## Queries of scopes -/

namespace Scope.PlannedFor

theorem nodup_joined (h : s.PlannedFor settings r) :
    (s.joined.map fun o => upper o.name).Nodup := by
  obtain ⟨p, hp, -, hperm⟩ := h.joined_perm
  have hnamed := SourcePlan.namedInOrder_of_ofRequest hp
  have hnames := hperm.map fun o => upper o.name
  rw [hnames.nodup_iff]
  exact hnamed.nodup_upper

/-- A column of the request is a column of a joined occurrence. -/
theorem exists_joined_of_isColumn (h : s.PlannedFor settings r) {ref : ColumnRef}
    (href : s.IsColumn settings ref) :
    ∃ o ∈ s.joined, ∃ column, ref = .qualified o.name column := by
  obtain ⟨_, -, i, column, o, -, ho, rfl⟩ := href.exists_occurrence
  exact ⟨o, h.mem_joined (List.mem_of_getElem? ho), _, rfl⟩

end Scope.PlannedFor

namespace Select.WrittenFor

theorem declarations_eq (h : q.WrittenFor settings s bound) :
    q.declarations = s.joined.map fun o => upper o.name := by
  have hnames : ∀ {os : List Occurrence} {sources : List (Source Placeholder)},
      List.Forall₂ (fun o source => source.WrittenFor settings s bound o) os sources →
        sources.map (fun s => upper s.name) = os.map fun o => upper o.name := by
    intro os sources hwritten
    exact (map_eq_of_forall₂ (fun o source hsource => by rw [hsource.name]) hwritten).symm
  exact hnames h.forall₂_joined

theorem nodup_declarations (hs : s.PlannedFor settings r) (h : q.WrittenFor settings s bound) :
    q.declarations.Nodup := by
  rw [h.declarations_eq]
  exact hs.nodup_joined

theorem isDeclaredOnce (hs : s.PlannedFor settings r) (h : q.WrittenFor settings s bound)
    {o : Occurrence} (ho : o ∈ s.joined) (column : String) :
    (ColumnRef.qualified o.name column).IsDeclaredOnce q.declarations := by
  refine List.count_eq_one_of_mem (h.nodup_declarations hs) ?_
  rw [h.declarations_eq]
  exact List.mem_map_of_mem ho

/-- The columns of a predicate over columns of the request. -/
theorem isDeclaredOnce_of_refs (hs : s.PlannedFor settings r) (h : q.WrittenFor settings s bound)
    {clause : Option (Tree (Predicate Placeholder))}
    (hclause : ∀ p ∈ clausePredicates clause,
      p.WrittenOver settings.options (s.IsColumn settings)) :
    ∀ ref ∈ (clausePredicates clause).flatMap Predicate.refs,
      ref.IsDeclaredOnce q.declarations := by
  intro ref href
  obtain ⟨p, hp, href⟩ := List.mem_flatMap.1 href
  obtain ⟨e, he, href⟩ := List.mem_filterMap.1 href
  obtain ⟨o, ho, column, rfl⟩ :=
    hs.exists_joined_of_isColumn (((hclause p hp).exprs e he).column ref href)
  exact h.isDeclaredOnce hs ho column

/-- The columns of a query are qualified by names that it declares once. -/
theorem isDeclaredOnce_outerRefs (hs : s.PlannedFor settings r)
    (h : q.WrittenFor settings s bound) :
    ∀ ref ∈ q.outerRefs, ref.IsDeclaredOnce q.declarations := by
  have hcolumn : ∀ ref, s.IsColumn settings ref → ref.IsDeclaredOnce q.declarations := by
    intro ref href
    obtain ⟨o, ho, column, rfl⟩ := hs.exists_joined_of_isColumn href
    exact h.isDeclaredOnce hs ho column
  intro ref href
  simp only [outerRefs, List.mem_append, or_assoc] at href
  rcases href with href | href | href | href | href | href
  · obtain ⟨i, hi, href⟩ := List.mem_filterMap.1 href
    exact hcolumn ref ((h.items i hi).1.column ref href)
  · obtain ⟨clause, hclause, href⟩ := List.mem_flatMap.1 href
    obtain ⟨j, hj, hwritten⟩ := exists_of_forall₂ h.joins clause hclause
    rw [hwritten.pairs, List.flatMap_map] at href
    obtain ⟨pair, -, href⟩ := List.mem_flatMap.1 href
    rcases List.mem_pair.1 href with rfl | rfl
    · exact h.isDeclaredOnce hs (hs.left_mem_joined hj) _
    · exact h.isDeclaredOnce hs (Scope.right_mem_joined hj) _
  · exact h.isDeclaredOnce_of_refs hs h.rowFilter ref href
  · exact hcolumn ref (h.groupBy ref href)
  · exact h.isDeclaredOnce_of_refs hs h.groupFilter ref href
  · obtain ⟨key, hkey, href⟩ := List.mem_filterMap.1 href
    have horder := h.orderBy key hkey
    cases hkind : key.1 with
    | column ref' =>
      rw [hkind] at horder href
      cases href
      exact hcolumn _ horder
    | output name =>
      rw [hkind] at href
      cases href

end Select.WrittenFor

/-- Within a source columns are not qualified. -/
theorem Source.WrittenFor.exists_bare {o : Occurrence} {source : Source Placeholder}
    (h : source.WrittenFor settings s bound o) :
    ∀ p ∈ source.predicates, ∀ ref ∈ p.refs, ∃ column, ref = .bare column := by
  intro p hp ref href
  obtain ⟨e, he, href⟩ := List.mem_filterMap.1 href
  rcases ((h.writtenOver_predicates p hp).exprs e he).column ref href with hload | hcolumn
  · obtain ⟨spec, column, -, -, rfl⟩ := hload
    exact ⟨_, rfl⟩
  · obtain ⟨column, -, rfl⟩ := hcolumn
    cases column <;> exact ⟨_, rfl⟩

namespace Select.WrittenFor

/-- A join compares columns of its own source with columns of one source before it. -/
theorem exists_left (hs : s.PlannedFor settings r) (h : q.WrittenFor settings s bound)
    {before after : List (JoinClause Placeholder)} {j : JoinClause Placeholder}
    (hj : q.joins = before ++ j :: after) :
    ∃ left ∈ q.base :: before.map JoinClause.source, ∀ pair ∈ j.pairs,
      (∃ column, pair.1 = .qualified left.name column) ∧
        ∃ column, pair.2 = .qualified j.source.name column := by
  have hjoins := h.joins
  rw [hj] at hjoins
  have hbefore := List.forall₂_take_append s.sources.joins before (j :: after) hjoins
  have hrest := List.forall₂_drop_append s.sources.joins before (j :: after) hjoins
  obtain ⟨planned, later, hj', -, hplanned⟩ := List.forall₂_cons_right_iff.1 hrest
  have hsplit : s.sources.joins = s.sources.joins.take before.length ++ planned :: later := by
    rw [← hplanned, List.take_append_drop]
  -- the source that the join hangs on is that of an occurrence joined before
  have hsources : List.Forall₂ (fun o source => source.WrittenFor settings s bound o)
      (s.occurrence 0 ::
        (s.sources.joins.take before.length).map fun i => s.occurrence i.right)
      (q.base :: before.map JoinClause.source) := by
    refine .cons h.base ?_
    rw [List.forall₂_map_left_iff, List.forall₂_map_right_iff]
    exact hbefore.imp fun _ _ hi => hi.source
  obtain ⟨left, hleft, hwritten⟩ :=
    exists_of_forall₂ hsources.flip _ (hs.exists_left hsplit)
  refine ⟨left, hleft, fun pair hpair => ?_⟩
  rw [hj'.pairs, List.mem_map] at hpair
  obtain ⟨pair, -, rfl⟩ := hpair
  rw [hwritten.name, hj'.source.name]
  exact ⟨⟨_, rfl⟩, _, rfl⟩

/-- **The query of a scope is well scoped.** -/
theorem wellScoped (hs : s.PlannedFor settings r) (h : q.WrittenFor settings s bound) :
    q.WellScoped := by
  refine ⟨h.nodup_declarations hs, h.isDeclaredOnce_outerRefs hs, ?_, ?_⟩
  · intro source hsource
    obtain ⟨i, -, hwritten⟩ := h.exists_occurrence source hsource
    exact hwritten.exists_bare
  · intro before j after hj
    exact h.exists_left hs hj

/-- Without its order and its page a query has the same sources, and no other columns. -/
theorem unpaged (h : q.WrittenFor settings s bound) : q.unpaged.WrittenFor settings s bound :=
  { h with orderBy := by simp [Select.unpaged], paging := by simp [Select.unpaged] }

/-- So has the query that counts its rows. -/
theorem countQuery (h : q.WrittenFor settings s bound) (r : Request) :
    (r.countQuery q).select.WrittenFor settings s bound := by
  unfold Request.countQuery
  split
  · exact h
  · exact h.countRows

end Select.WrittenFor

/-- **Plans are well named and compiled queries well scoped.**  The names of a plan's occurrences
differ in any case and refer to these.  In the query whose text a compiled query is, that of the
request's draft or the one that counts its rows, every column is qualified by a name that is
declared once, or stands within a source. -/
theorem Request.wellNamed_and_wellScoped (settings : Settings) (r : Request) :
    (∀ p, SourcePlan.ofRequest r = .ok p → p.WellNamed) ∧
      (∀ c, (compile settings r).outcome = .ok c →
        ∃ d, (Draft.ofRequest settings r true).outcome = .ok d ∧
          c = ⟨d.number.1.render, d.number.2.toDict⟩ ∧ d.number.1.WellScoped) ∧
      ∀ n, (compileCount settings r).outcome = .ok n →
        ∃ d, (Draft.ofRequest settings r true).outcome = .ok d ∧
          n = ⟨(r.countQuery d.number.1.unpaged).render, d.number.2.toDict⟩ ∧
            (r.countQuery d.number.1.unpaged).select.WellScoped := by
  refine ⟨fun p hp => SourcePlan.wellNamed_of_ofRequest hp, fun c hc => ?rows, fun n hn => ?count⟩
  case rows =>
    obtain ⟨-, d, hd, rfl⟩ := outcome_compile_iff.1 hc
    obtain ⟨s, bound, hs, hwritten, -⟩ := Draft.exists_written hd
    exact ⟨d, hd, rfl, hwritten.wellScoped hs⟩
  case count =>
    obtain ⟨-, d, hd, rfl⟩ := outcome_compileCount_iff.1 hn
    obtain ⟨s, bound, hs, hwritten, -⟩ := Draft.exists_written hd
    exact ⟨d, hd, rfl, (hwritten.unpaged.countQuery r).wellScoped hs⟩

/-- Datasets whose names become one name, or become the name of another with its number. -/
def clashingNames : Request where
  dataset := "a.b"
  columns? := some ["x", "A_B.x", "A_B_1.x", "a_b_2.x"]
  joins? := some
    [⟨"a.b", "A_B", .left, [⟨"k", "k"⟩]⟩, ⟨"A_B_1", "a_b_1", .inner, [⟨"k", "k"⟩]⟩,
      ⟨"a_b_1_1", "a b", .inner, [⟨"k", "k"⟩]⟩]

/-- Settings in which every dataset and every column has its own name. -/
def plainSettings : Settings where
  partition? _ := none
  physicalTable dataset := dataset
  physicalColumn _ column := column

theorem wellNamed_and_wellScoped_clashingNames :
    (∃ p, SourcePlan.ofRequest clashingNames = .ok p ∧
      p.occurrences.map Occurrence.name = ["a_b", "A_B_1", "a_b_1_1", "a_b_2"] ∧ p.WellNamed) ∧
    (∃ c, (compile plainSettings clashingNames).outcome = .ok c ∧
      ∃ d, (Draft.ofRequest plainSettings clashingNames true).outcome = .ok d ∧
        c = ⟨d.number.1.render, d.number.2.toDict⟩ ∧ d.number.1.WellScoped) ∧
    ∃ n, (compileCount plainSettings clashingNames).outcome = .ok n ∧
      ∃ d, (Draft.ofRequest plainSettings clashingNames true).outcome = .ok d ∧
        n = ⟨(clashingNames.countQuery d.number.1.unpaged).render, d.number.2.toDict⟩ ∧
          (clashingNames.countQuery d.number.1.unpaged).select.WellScoped := by
  obtain ⟨hwellNamed, hrows, hcount⟩ :=
    Request.wellNamed_and_wellScoped plainSettings clashingNames
  have hnames : (SourcePlan.ofRequest clashingNames).toOption.map
      (fun p => p.occurrences.map Occurrence.name) =
        some ["a_b", "A_B_1", "a_b_1_1", "a_b_2"] := by decide +kernel
  obtain ⟨c, hc⟩ : ∃ c, (compile plainSettings clashingNames).outcome = .ok c :=
    exists_compile (by decide +kernel)
  obtain ⟨n, hn⟩ : ∃ n, (compileCount plainSettings clashingNames).outcome = .ok n := by
    obtain ⟨hvalid, d, hd, -⟩ := outcome_compile_iff.1 hc
    exact ⟨_, outcome_compileCount_iff.2 ⟨(Request.validate_true_iff.1 hvalid).1, d, hd, rfl⟩⟩
  refine ⟨?_, ⟨c, hc, hrows c hc⟩, n, hn, hcount n hn⟩
  cases hplan : SourcePlan.ofRequest clashingNames with
  | ok p =>
    rw [hplan] at hnames
    exact ⟨p, rfl, Option.some.inj hnames, hwellNamed p hplan⟩
  | error e =>
    rw [hplan] at hnames
    cases hnames

end ReportSql
