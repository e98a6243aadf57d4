import ReportSql.Proofs.Query.Calls
import ReportSql.Proofs.Query.Drawn
import ReportSql.Proofs.Query.Loads
import ReportSql.Proofs.Token.Statement

/-!
# What compiled queries consist of

The text of a compiled query is that of a query whose sources, joins and columns are those of the
request's scope, and whose placeholders are bound to the values of the request.

## Main definitions

* `Request.CompilesTo` — a compiled query of a request, for its rows or for their number.
* `Source.WrittenFor`, `Select.WrittenFor` — a query whose parts are those of a scope.
* `Compiled.Spells` — the text and the values of a query.

## Main statements

* `Request.CompilesTo.exists_query` — the query that a compiled query is the text of.
* `reported_of_compile` — its report counts the values that are delivered with it.
* `Select.WrittenFor.legible` — its text can be cut into tokens.
-/

namespace ReportSql

open Text

variable {settings : Settings} {r : Request} {c : Compiled} {s : Scope}
  {bound : List (Placeholder × BindValue)} {options : Options} {names : ColumnRef → Prop}

/-- A compiled query of a request, for one page of its rows or for their number. -/
def Request.CompilesTo (settings : Settings) (r : Request) (c : Compiled) : Prop :=
  (compile settings r).outcome = .ok c ∨ (compileCount settings r).outcome = .ok c

/-! ## Parts of queries -/

/-- A predicate of a dialect over some columns, whose placeholders are names. -/
structure Predicate.WrittenOver (options : Options) (names : ColumnRef → Prop)
    (p : Predicate Placeholder) : Prop where
  exprs : ∀ e ∈ p.exprs, e.DrawnFrom options names
  named : ∀ q ∈ p.values, isName q.name.toList = true

theorem Predicate.WrittenOver.legible {p : Predicate Placeholder}
    (h : p.WrittenOver options names) : p.Legible options :=
  ⟨fun e he => (h.exprs e he).suits, h.named⟩

theorem Predicate.WrittenOver.imp {names' : ColumnRef → Prop} {p : Predicate Placeholder}
    (h : p.WrittenOver options names) (himp : ∀ ref, names ref → names' ref) :
    p.WrittenOver options names' :=
  ⟨fun e he => ⟨(h.exprs e he).suits, fun ref href => himp ref ((h.exprs e he).column ref href)⟩,
    h.named⟩

theorem Predicate.Matches.exprs_eq {α β : Type} {R : α → β → Prop} {p : Predicate α}
    {q : Predicate β} (h : p.Matches R q) : q.exprs = p.exprs := by
  cases h <;> rfl

theorem Predicate.Matches.values {α β : Type} {R : α → β → Prop} {p : Predicate α}
    {q : Predicate β} (h : p.Matches R q) : List.Forall₂ R p.values q.values := by
  cases h with
  | always | never | isNull | isNotNull | isBlank | isNotBlank => exact .nil
  | compare _ _ h | compareUpper _ _ h | like _ _ h => exact .cons h .nil
  | between _ hlow hhigh => exact .cons hlow (.cons hhigh .nil)
  | among _ _ h => exact h

/-- A stem that is a name makes names. -/
theorem isName_name {p : Placeholder} (h : isName p.stem.toList = true) :
    isName p.name.toList = true := by
  have hdigits : ∀ c ∈ p.number.repr.toList, isNameChar c = true := by
    intro c hc
    have hdigit := isDigit_of_mem_repr hc
    simp [isNameChar, Char.isAlphanum, hdigit]
  cases hstem : p.stem.toList with
  | nil =>
    rw [hstem] at h
    cases h
  | cons c cs =>
    rw [hstem, isName, Bool.and_eq_true] at h
    rw [Placeholder.name, String.toList_append, String.toList_append, hstem, List.cons_append,
      List.cons_append, isName, List.all_append, List.all_append, h.1, h.2,
      List.all_eq_true.2 hdigits]
    rfl

/-- Placeholders that take the places of holes leave the columns of a predicate. -/
theorem Predicate.DrawnFrom.writtenOver {p : Predicate Hole} {q : Predicate Placeholder}
    (h : p.DrawnFrom options names) (hmatch : p.Matches (Binds bound) q) :
    q.WrittenOver options names := by
  refine ⟨hmatch.exprs_eq ▸ h.exprs, fun v hv => isName_name ?_⟩
  obtain ⟨hole, hmem, hbinds⟩ := exists_of_forall₂ hmatch.values v hv
  rw [hbinds.stem]
  exact h.stems hole hmem

/-- A source of a query, made of an occurrence of a dataset. -/
structure Source.WrittenFor (settings : Settings) (s : Scope)
    (bound : List (Placeholder × BindValue)) (o : Occurrence) (source : Source Placeholder) :
    Prop where
  table : source.table = settings.physicalTable o.dataset
  name : source.name = o.name
  load : ∃ load, (loadPredicates settings s.request o.dataset).outcome = .ok load ∧
    List.Forall₂ (Predicate.Matches (Binds bound)) load source.load
  pushed : ∀ p, source.pushed = some p →
    (∀ q ∈ p.tree.leaves, q.WrittenOver settings.options (Place.source.IsColumn s settings)) ∧
      ∃ logic children, p.tree = .group logic children ∧
        (logic = .or → 1 < children.length → p.isChoice = true)

/-- The predicates on the loads of a source are over load columns. -/
theorem Source.WrittenFor.writtenOver_load {o : Occurrence} {source : Source Placeholder}
    (h : source.WrittenFor settings s bound o) :
    ∀ p ∈ source.load, p.WrittenOver settings.options (IsLoadColumn settings o.dataset) := by
  intro p hp
  obtain ⟨load, hload, hmatch⟩ := h.load
  obtain ⟨p', hp', hpp⟩ := exists_of_forall₂ hmatch p hp
  exact (drawnFrom_of_loadPredicates hload p' hp').writtenOver hpp

/-- The predicates of a source are over load columns and columns of the request. -/
theorem Source.WrittenFor.writtenOver_predicates {o : Occurrence} {source : Source Placeholder}
    (h : source.WrittenFor settings s bound o) :
    ∀ p ∈ source.predicates, p.WrittenOver settings.options fun ref =>
      IsLoadColumn settings o.dataset ref ∨ Place.source.IsColumn s settings ref := by
  intro p hp
  rw [predicates, List.mem_append] at hp
  rcases hp with hp | hp
  · exact (h.writtenOver_load p hp).imp fun _ => .inl
  · cases hpushed : source.pushed with
    | none => simp [hpushed, clausePredicates] at hp
    | some pushed =>
      have hleaf : p ∈ pushed.tree.leaves := by simpa [hpushed, clausePredicates] using hp
      exact ((h.pushed pushed hpushed).1 p hleaf).imp fun _ => .inr

/-- A join of a query, made of a planned join. -/
structure JoinClause.WrittenFor (settings : Settings) (s : Scope)
    (bound : List (Placeholder × BindValue)) (j : PlannedJoin) (clause : JoinClause Placeholder) :
    Prop where
  kind : clause.kind = j.spec.kind
  source : clause.source.WrittenFor settings s bound (s.occurrence j.right)
  pairs : clause.pairs = j.spec.pairs.map fun pair =>
    (Scope.joinColumn settings (s.occurrence j.left) pair.left,
      Scope.joinColumn settings (s.occurrence j.right) pair.right)

/-- A query made of the sources, joins, columns and outputs of a scope. -/
structure Select.WrittenFor (settings : Settings) (s : Scope)
    (bound : List (Placeholder × BindValue)) (q : Select Placeholder) : Prop where
  hint : ∀ hint, q.hint = some hint → hint = settings.options.performanceHint
  items : ∀ i ∈ q.items, i.expression.DrawnFrom settings.options (s.IsColumn settings) ∧
    (s.IsLabel i.label ∨ i.label = .verbatim countLabel)
  base : q.base.WrittenFor settings s bound (s.occurrence 0)
  joins : List.Forall₂ (JoinClause.WrittenFor settings s bound) s.sources.joins q.joins
  rowFilter : ∀ p ∈ clausePredicates q.rowFilter,
    p.WrittenOver settings.options (s.IsColumn settings)
  groupFilter : ∀ p ∈ clausePredicates q.groupFilter,
    p.WrittenOver settings.options (s.IsColumn settings)
  groupBy : ∀ ref ∈ q.groupBy, s.IsColumn settings ref
  orderBy : ∀ key ∈ q.orderBy, s.IsOrder settings key.1
  paging : ∀ p, q.paging = some p → p = ⟨s.request.offset, s.request.limit⟩

/-! ## From drafts to queries -/

theorem Source.DrawnFrom.writtenFor {o : Occurrence} {draft : Source Hole}
    {source : Source Placeholder} (h : draft.DrawnFrom settings s o)
    (hmatch : draft.Matches (Binds bound) source) : source.WrittenFor settings s bound o := by
  refine ⟨hmatch.table ▸ h.table, hmatch.name ▸ h.name, ⟨_, h.load, hmatch.load⟩, ?_⟩
  intro p hp
  have hrel := hmatch.pushed
  rw [hp] at hrel
  cases hdraft : draft.pushed with
  | none =>
    rw [hdraft] at hrel
    cases hrel
  | some d =>
    rw [hdraft] at hrel
    cases hrel with
    | some hpushed =>
      have hdrawn := h.pushed d hdraft
      constructor
      · intro q hq
        obtain ⟨q', hq', hqq⟩ := hpushed.tree.exists_left q hq
        exact (hdrawn.predicates q' hq').writtenOver hqq
      · obtain ⟨logic, children, htree, hchoice⟩ := hdrawn.group
        have hmatches := hpushed.tree
        rw [htree] at hmatches
        obtain ⟨children', htree', hall⟩ := Tree.matches_group.1 hmatches
        refine ⟨logic, children', htree', fun hlogic hlength => ?_⟩
        rw [← hpushed.isChoice]
        exact hchoice hlogic (hall.length_eq ▸ hlength)

theorem JoinClause.DrawnFrom.writtenFor {j : PlannedJoin} {draft : JoinClause Hole}
    {clause : JoinClause Placeholder} (h : draft.DrawnFrom settings s j)
    (hmatch : draft.Matches (Binds bound) clause) : clause.WrittenFor settings s bound j :=
  ⟨hmatch.kind ▸ h.kind, h.source.writtenFor hmatch.source, hmatch.pairs ▸ h.pairs⟩

/-- The predicates of the clauses on rows and on groups are over the columns of the draft. -/
theorem writtenOver_of_mem_clauses {draft : Option (Tree (Routed Hole))}
    {filter : Option (Tree (Routed Placeholder))}
    (hdraft : ∀ tree, draft = some tree → ∀ r ∈ tree.leaves, r.predicate.DrawnFrom options names)
    (hmatch : Option.Rel (Tree.Matches (Routed.Matches (Binds bound))) draft filter) :
    ∀ p ∈ clausePredicates (filter.bind rowClause) ++ clausePredicates (filter.bind groupClause),
      p.WrittenOver options names := by
  cases hmatch with
  | none => simp [clausePredicates]
  | @some tree u hu =>
    intro p hp
    obtain ⟨r, hr, rfl⟩ := List.mem_map.1 ((clausePredicates_perm u).mem_iff.1 hp)
    obtain ⟨r', hr', hrr⟩ := hu.exists_left r hr
    exact (hdraft tree rfl r' hr').writtenOver hrr.predicate

theorem Draft.DrawnFrom.writtenFor {d : Draft} {q : Select Placeholder}
    (h : d.DrawnFrom settings s) (hq : d.NumberedAs (Binds bound) q) :
    q.WrittenFor settings s bound := by
  obtain ⟨filter, hfilter, hrows, hgroups⟩ := hq.filter
  have hclauses := writtenOver_of_mem_clauses h.filter hfilter
  rw [← hrows, ← hgroups] at hclauses
  refine ⟨?_, ?_, ?_, ?_, ?_, ?_, ?_, ?_, ?_⟩
  · rw [hq.hint]
    exact h.hint
  · rw [hq.items]
    exact fun i hi => ⟨(h.items i hi).1, .inl (h.items i hi).2⟩
  · exact h.base.writtenFor hq.base
  · have hjoins : ∀ {js : List PlannedJoin} {ds : List (JoinClause Hole)}
        {cs : List (JoinClause Placeholder)},
        List.Forall₂ (JoinClause.DrawnFrom settings s) js ds →
          List.Forall₂ (JoinClause.Matches (Binds bound)) ds cs →
            List.Forall₂ (JoinClause.WrittenFor settings s bound) js cs := by
      intro js ds cs hdrawn
      induction hdrawn generalizing cs with
      | nil =>
        intro hmatch
        cases hmatch
        exact .nil
      | cons hj _ ih =>
        intro hmatch
        cases hmatch with
        | cons hc hcs => exact .cons (hj.writtenFor hc) (ih hcs)
    exact hjoins h.joins hq.joins
  · exact fun p hp => hclauses p (List.mem_append_left _ hp)
  · exact fun p hp => hclauses p (List.mem_append_right _ hp)
  · rw [hq.groupBy]
    exact h.groupBy
  · rw [hq.orderBy]
    exact h.orderBy
  · rw [hq.paging]
    exact h.paging

/-! ## Compiled queries -/

/-- The text of a query, and values under the names of its placeholders, all of which differ. -/
structure Compiled.Spells (bound : List (Placeholder × BindValue)) (q : Query) (c : Compiled) :
    Prop where
  text : c.text = q.render
  values : c.values = Dict.ofList (bound.map fun e => (e.1.name, e.2))
  nodup : (bound.map fun e => e.1.name).Nodup
  perm : (bound.map Prod.fst).Perm (q.select.predicates.flatMap Predicate.values)

theorem exists_draft_of_compile (h : (compile settings r).outcome = .ok c) :
    ∃ d, (Draft.ofRequest settings r true).outcome = .ok d ∧
      c = ⟨(Query.rows d.number.1).render, d.number.2.toDict⟩ := by
  obtain ⟨_, -, h⟩ := Traced.exists_of_outcome_bind h
  obtain ⟨d, hd, h⟩ := Traced.exists_of_outcome_bind h
  obtain ⟨_, -, h⟩ := Traced.exists_of_outcome_bind h
  cases h
  exact ⟨d, hd, rfl⟩

/-- The number of rows is asked for of the query for groups, or in place of all output columns. -/
theorem exists_draft_of_compileCount (h : (compileCount settings r).outcome = .ok c) :
    ∃ d, (Draft.ofRequest settings r false).outcome = .ok d ∧
      ∃ q : Query, c = ⟨q.render, d.number.2.toDict⟩ ∧
        (q = .countOf d.number.1 ∨
          q = .rows { d.number.1 with items := [⟨.countRows, .verbatim countLabel⟩] }) := by
  obtain ⟨_, -, h⟩ := Traced.exists_of_outcome_bind h
  obtain ⟨d, hd, h⟩ := Traced.exists_of_outcome_bind h
  refine ⟨d, hd, ?_⟩
  dsimp only at h
  split at h
  · obtain ⟨_, -, h⟩ := Traced.exists_of_outcome_bind h
    cases h
    exact ⟨_, rfl, .inl rfl⟩
  · obtain ⟨_, -, h⟩ := Traced.exists_of_outcome_bind h
    cases h
    exact ⟨_, rfl, .inr rfl⟩

/-- The query of a draft, maybe with the number of rows in place of its output columns. -/
def Draft.HasQuery (d : Draft) (q : Select Placeholder) : Prop :=
  q = d.number.1 ∨ q = { d.number.1 with items := [⟨.countRows, .verbatim countLabel⟩] }

/-- **The draft that a compiled query was made from.** -/
theorem Request.CompilesTo.exists_draft (h : r.CompilesTo settings c) :
    ∃ (paged : Bool) (d : Draft) (q : Query),
      (Draft.ofRequest settings r paged).outcome = .ok d ∧ d.HasQuery q.select ∧
        c = ⟨q.render, d.number.2.toDict⟩ := by
  rcases h with h | h
  · obtain ⟨d, hd, rfl⟩ := exists_draft_of_compile h
    exact ⟨true, d, .rows d.number.1, hd, .inl rfl, rfl⟩
  · obtain ⟨d, hd, q, rfl, hq⟩ := exists_draft_of_compileCount h
    refine ⟨false, d, q, hd, ?_, rfl⟩
    rcases hq with rfl | rfl
    · exact .inl rfl
    · exact .inr rfl

/-- The number of rows is over no column, and its label is fixed. -/
theorem Select.WrittenFor.countRows {q : Select Placeholder} (h : q.WrittenFor settings s bound) :
    Select.WrittenFor settings s bound
      { q with items := [⟨.countRows, .verbatim countLabel⟩] } := by
  have hcount : ∀ i ∈ [(⟨.countRows, .verbatim countLabel⟩ : SelectItem)],
      i.expression.DrawnFrom settings.options (s.IsColumn settings) ∧
        (s.IsLabel i.label ∨ i.label = .verbatim countLabel) := by
    intro i hi
    rw [List.mem_singleton] at hi
    subst hi
    exact ⟨⟨trivial, by simp [Expr.column?]⟩, .inr rfl⟩
  exact ⟨h.hint, hcount, h.base, h.joins, h.rowFilter, h.groupFilter, h.groupBy, h.orderBy,
    h.paging⟩

theorem Draft.HasQuery.writtenFor {d : Draft} {q : Select Placeholder} (hq : d.HasQuery q)
    (h : d.number.1.WrittenFor settings s bound) : q.WrittenFor settings s bound := by
  rcases hq with rfl | rfl
  · exact h
  · exact h.countRows

theorem Draft.HasQuery.predicates_eq {d : Draft} {q : Select Placeholder} (hq : d.HasQuery q) :
    q.predicates = d.number.1.predicates := by
  rcases hq with rfl | rfl <;> rfl

/-- The query of a draft is made of a scope of the request, and it is spelled with the values of the
draft. -/
theorem Draft.exists_written {paged : Bool} {d : Draft}
    (h : (Draft.ofRequest settings r paged).outcome = .ok d) :
    ∃ (s : Scope) (bound : List (Placeholder × BindValue)),
      s.PlannedFor settings r ∧ d.number.1.WrittenFor settings s bound ∧
        ∀ q : Query, d.HasQuery q.select →
          Compiled.Spells bound q ⟨q.render, d.number.2.toDict⟩ := by
  obtain ⟨s, hs, hdrawn⟩ := Draft.exists_scope h
  obtain ⟨bound, hquery, hperm, hnodup, hvalues⟩ := d.exists_number
  refine ⟨s, bound, hs, hdrawn.writtenFor hquery, fun q hq => ⟨rfl, hvalues, hnodup, ?_⟩⟩
  rwa [hq.predicates_eq]

/-- **The query that a compiled query is the text of.** -/
theorem Request.CompilesTo.exists_query (h : r.CompilesTo settings c) :
    ∃ (s : Scope) (bound : List (Placeholder × BindValue)) (q : Query),
      s.PlannedFor settings r ∧ q.select.WrittenFor settings s bound ∧ c.Spells bound q := by
  obtain ⟨paged, d, q, hd, hq, rfl⟩ := h.exists_draft
  obtain ⟨s, bound, hs, hwritten, hspells⟩ := Draft.exists_written hd
  exact ⟨s, bound, q, hs, hq.writtenFor hwritten, hspells q hq⟩

/-! ## Reports -/

/-- The last report of a sequence of steps is that of the steps after the first. -/
theorem Traced.getLast?_events_bind {α β : Type} {x : Traced α} {f : α → Traced β} {a : α}
    {event : Event} (hx : x.outcome = .ok a) (hf : (f a).events.getLast? = some event) :
    (x >>= f).events.getLast? = some event := by
  rw [Traced.bind_of_ok hx, List.getLast?_append, hf, Option.some_or]

/-- The end of a compilation reports the text of the query and how many values are delivered. -/
theorem getLast?_events_finish (d : Draft) (q : Query) :
    (finish q d.number.2).events.getLast? =
      some (.compiled q.render d.number.2.toDict.entries.length) := by
  rw [Bindings.length_entries_toDict d.nodup_names]
  rfl

/-- **A compiled query is reported with the number of the values that are delivered with it.** -/
theorem reported_of_compile (h : (compile settings r).outcome = .ok c) :
    (compile settings r).events.getLast? =
      some (.compiled c.text c.values.entries.length) := by
  obtain ⟨_, hchecked, h⟩ := Traced.exists_of_outcome_bind h
  obtain ⟨d, hd, h⟩ := Traced.exists_of_outcome_bind h
  refine Traced.getLast?_events_bind hchecked (Traced.getLast?_events_bind hd ?_)
  cases h
  exact getLast?_events_finish d _

/-! ## Tokens -/

namespace Select.WrittenFor

variable {q : Select Placeholder}

/-- Every source of a query is made of an occurrence. -/
theorem exists_occurrence (h : q.WrittenFor settings s bound) :
    ∀ source ∈ q.sources, ∃ i, (i = 0 ∨ ∃ j ∈ s.sources.joins, j.right = i) ∧
      source.WrittenFor settings s bound (s.occurrence i) := by
  intro source hsource
  rw [sources, List.mem_cons, List.mem_map] at hsource
  rcases hsource with rfl | ⟨clause, hclause, rfl⟩
  · exact ⟨0, .inl rfl, h.base⟩
  · obtain ⟨j, hj, hwritten⟩ := exists_of_forall₂ h.joins clause hclause
    exact ⟨j.right, .inr ⟨j, hj, rfl⟩, hwritten.source⟩

/-- The text of a query of a scope can be cut into tokens. -/
theorem legible (h : q.WrittenFor settings s bound) : q.Legible settings.options := by
  refine ⟨h.hint, fun i hi => (h.items i hi).1.suits, fun p hp => ?_⟩
  rw [predicates, List.mem_append, List.mem_append, List.mem_flatMap] at hp
  rcases hp with (⟨source, hsource, hp⟩ | hp) | hp
  · obtain ⟨i, -, hwritten⟩ := h.exists_occurrence source hsource
    exact (hwritten.writtenOver_predicates p hp).legible
  · exact (h.rowFilter p hp).legible
  · exact (h.groupFilter p hp).legible

end Select.WrittenFor

/-! ## Crafted names -/

/-- Settings for a dataset with a name that is made up to look like query text. -/
def craftedSettings : Settings where
  partition? dataset :=
    if dataset = "a\":p_1 OR" then some ⟨"LOAD_ID", some "LOAD_TYPE", some ["FULL"]⟩ else none
  physicalTable dataset := "x.y\"" ++ dataset
  physicalColumn _ column := column

/-- A dataset joined with itself, with names that are made up to look like query text.  Both
occurrences are restricted to two loads, and a choice moves into the first. -/
def craftedPairs : Request where
  dataset := "a\":p_1 OR"
  columns? := some ["n\"--:p_2", "a__p_1_OR_1.'x"]
  joins? := some [⟨"a\":p_1 OR", "a\":p_1 OR", .left, [⟨"\"k", "'k"⟩]⟩]
  filters? := some
    { logic := .or
      children := [.leaf ⟨"c:p_1", .text, .contains, .scalar (.text "1")⟩,
        .leaf ⟨"d\"", .number, .between, .range (some (.int 1)) (some (.int 2))⟩] }
  sorting? := some [{ column := "n\"--:p_2" }]
  partitionFilters? := some (.ofList [("A\":P_1 or", [.int 7, .text "8"])])
  partitionLoadType? := some " full "
  useHints := true

theorem exists_compile (h : (compile settings r).outcome.toOption.isSome = true) :
    ∃ c, (compile settings r).outcome = .ok c := by
  cases houtcome : (compile settings r).outcome with
  | ok c => exact ⟨c, rfl⟩
  | error e =>
    rw [houtcome] at h
    cases h

/-- A request that compiles has a compiled query. -/
theorem Request.exists_compilesTo
    (h : (compile settings r).outcome.toOption.isSome = true) : ∃ c, r.CompilesTo settings c :=
  (exists_compile h).imp fun _ => .inl

theorem exists_compilesTo_craftedPairs : ∃ c, craftedPairs.CompilesTo craftedSettings c :=
  Request.exists_compilesTo (by decide +kernel)

end ReportSql
