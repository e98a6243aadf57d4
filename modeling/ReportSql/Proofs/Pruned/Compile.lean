import ReportSql.Proofs.Blind.Steps
import ReportSql.Proofs.Count.Compile
import ReportSql.Proofs.Pruned.Plan
import ReportSql.Proofs.Query.Conditions
import ReportSql.Proofs.Query.Numbering

/-!
# Queries without leafless groups

A request whose filter has groups without conditions has the query of the request without these
groups, with the same values.  The texts differ at most in a second pair of parentheses around a
filter that is moved into a source: an OR counts as a choice by the number of its members, leafless
groups among them.

## Main definitions

* `Source.Agrees`, `Draft.Agrees`, `Select.Agrees` — parts of queries that differ at most in what is
  marked as a choice.
* `Source.OnceParenthesised` — two restrictions of a source, one of them in parentheses twice.
* `Request.CompilesPruned` — compiled queries of a request, as it is and without leafless groups.

## Main statements

* `Request.draft_pruned` — the draft of a request without leafless groups.
* `Request.compile_pruned` — leafless groups do not matter.
-/

namespace ReportSql

variable {α β : Type}

/-! ## Sources -/

/-- A filter moved into a source, once with leafless groups and once without.  Only the latter need
not be marked as a choice, and then it is a group of one member. -/
structure Pushed.Agrees (p p' : Pushed α) : Prop where
  tree : p.tree = p'.tree
  isChoice : p.isChoice = p'.isChoice ∨
    p.isChoice = true ∧ p'.isChoice = false ∧ ∃ logic t, p.tree = .group logic [t]

/-- Sources that differ at most in what is marked as a choice. -/
structure Source.Agrees (s s' : Source α) : Prop where
  table : s.table = s'.table
  name : s.name = s'.name
  load : s.load = s'.load
  pushed : Option.Rel Pushed.Agrees s.pushed s'.pushed

/-- Joins that differ at most in what is marked as a choice. -/
structure JoinClause.Agrees (j j' : JoinClause α) : Prop where
  kind : j.kind = j'.kind
  source : j.source.Agrees j'.source
  pairs : j.pairs = j'.pairs

/-- The clause on rows does not see leafless groups. -/
theorem rowClause_prune (t : Tree (Routed α)) : (t.prune some).bind rowClause = rowClause t :=
  Tree.bind_prune_prune some _ t

/-- Neither does the clause on groups. -/
theorem groupClause_prune (t : Tree (Routed α)) : (t.prune some).bind groupClause = groupClause t :=
  Tree.bind_prune_prune some _ t

namespace Scope

variable (s : Scope) (settings : Settings)

/-- The filter of a source without leafless groups has the same clause. -/
theorem map_rowClause_routeFilter (place : Place) (g : Filter) :
    (fun x => x.bind rowClause) <$> g.pruned?.mapM (s.pruned.routeFilter settings place) =
      rowClause <$> s.routeFilter settings place g := by
  rw [mapM_routeFilter_pruned]
  simp [rowClause_prune]

/-- A filter and the filter without its leafless groups are marked alike, unless the latter has one
member left. -/
theorem agrees_of_rowClause {g g' : Filter} (hg : g.pruned? = some g') {u : Tree (Routed Hole)}
    (hu : (s.routeFilter settings .source g').outcome = .ok u) {tree : Tree (Predicate Hole)}
    (htree : rowClause u = some tree) :
    Pushed.Agrees ⟨tree, isChoice g⟩ ⟨tree, isChoice g'⟩ := by
  obtain ⟨members, rfl, hne, hle⟩ := exists_group_of_rowClause hu htree
  rw [FilterGroup.pruned?, Option.ite_none_left_eq_some, Option.some_inj] at hg
  obtain ⟨-, rfl⟩ := hg
  have hlength := Tree.length_pruneAll_le some g.children
  refine ⟨rfl, ?_⟩
  by_cases hor : g.logic = .or
  · by_cases hmany : 1 < (Tree.pruneAll some g.children).length
    · have hboth : 1 < g.children.length := by omega
      exact .inl (by simp [isChoice, FilterGroup.pruned, hor, hmany, hboth])
    · -- the group has one member left: the clause has no more, and it is not empty
      have hone : members.length = 1 := by
        have hpos := List.length_pos_iff.2 hne
        have hfew : members.length ≤ (Tree.pruneAll some g.children).length := hle
        omega
      obtain ⟨t, rfl⟩ := List.length_eq_one_iff.1 hone
      by_cases hboth : 1 < g.children.length
      · exact .inr ⟨by simp [isChoice, hor, hboth],
          by simp [isChoice, FilterGroup.pruned, hmany], _, t, rfl⟩
      · exact .inl (by simp [isChoice, FilterGroup.pruned, hmany, hboth])
  · exact .inl (by simp [isChoice, FilterGroup.pruned, hor])

/-- **The filter moved into a source is the same**, but for what is marked as a choice. -/
theorem pushedClause_pruned (x : Option Filter) :
    Traced.Agree (Option.Rel Pushed.Agrees) (s.pushedClause settings x)
      (s.pruned.pushedClause settings (x.bind FilterGroup.pruned?)) := by
  cases x with
  | none => exact .pure .none
  | some g =>
    have hclause : s.pushedClause settings (some g) = (do
        let clause ← g.pruned?.mapM (s.pruned.routeFilter settings .source)
        return (clause.bind rowClause).map fun tree => ⟨tree, isChoice g⟩) := by
      have hmap : s.pushedClause settings (some g) =
          Option.map (fun tree => ⟨tree, isChoice g⟩) <$>
            rowClause <$> s.routeFilter settings .source g := by simp [pushedClause]
      rw [hmap, ← s.map_rowClause_routeFilter settings]
      simp
    rw [hclause, Option.bind_some]
    cases hpruned : g.pruned? with
    | none => exact .pure .none
    | some g' =>
      rw [Option.mapM_some, pushedClause]
      simp only [map_eq_pure_bind, bind_assoc, pure_bind, Option.bind_some]
      refine .bind_left fun u hu => .pure ?_
      cases htree : rowClause u with
      | none => exact .none
      | some tree => exact .some (s.pruned.agrees_of_rowClause settings hpruned hu htree)

/-- The source of an occurrence is the same, but for what is marked as a choice. -/
theorem source_pruned (o : Occurrence) (x : Option Filter) :
    Traced.Agree Source.Agrees (s.source settings o x)
      (s.pruned.source settings o (x.bind FilterGroup.pruned?)) := by
  rw [source, source]
  refine .bind_left fun load _ => ?_
  exact (s.pushedClause_pruned settings x).bind fun p p' hp => .pure ⟨rfl, rfl, rfl, hp⟩

theorem joinClauses_pruned (plan : Pushdown) (js : List PlannedJoin) :
    Traced.Agree (List.Forall₂ JoinClause.Agrees) (s.joinClauses settings plan js)
      (s.pruned.joinClauses settings plan.pruned js) := by
  induction js with
  | nil => exact .pure .nil
  | cons j js ih =>
    have hsource := s.source_pruned settings (s.occurrence j.right) (plan.at? j.right)
    rw [← Pushdown.at?_pruned] at hsource
    have hclause : Traced.Agree JoinClause.Agrees (s.joinClause settings plan j)
        (s.pruned.joinClause settings plan.pruned j) :=
      hsource.bind fun source source' h => .pure ⟨rfl, h, rfl⟩
    rw [joinClauses, joinClauses]
    exact hclause.bind fun clause clause' h => ih.bind fun _ _ hs => .pure (.cons h hs)

/-- The outer query has the same filter, less its leafless groups. -/
theorem outerFilter_pruned (g : Filter) :
    Traced.Agree (fun filter filter' => filter' = filter.bind (Tree.prune some))
      (s.outerFilter settings g) (s.pruned.outerFilter settings g.pruned) := by
  have hpruned : s.pruned.outerFilter settings g.pruned =
      Tree.prune some <$> s.routeFilter settings .query g := by
    rw [← mapM_routeFilter_pruned, outerFilter, FilterGroup.pruned?]
    split
    · rfl
    · simp
  rw [hpruned, outerFilter]
  split
  · next hempty =>
    have hnone : g.pruned? = none := by
      rw [← g.bind_pruned?, if_pos hempty, Option.bind_none]
    rw [← mapM_routeFilter_pruned, hnone]
    exact .pure rfl
  · rw [map_eq_pure_bind]
    exact .bind_left fun u _ => .pure rfl

end Scope

/-! ## Drafts -/

/-- Drafts with one filter, once with leafless groups and once without, whose sources differ at most
in what is marked as a choice. -/
structure Draft.Agrees (d d' : Draft) : Prop where
  hint : d.hint = d'.hint
  items : d.items = d'.items
  base : d.base.Agrees d'.base
  joins : List.Forall₂ JoinClause.Agrees d.joins d'.joins
  filter : d'.filter = d.filter.bind (Tree.prune some)
  groupBy : d.groupBy = d'.groupBy
  orderBy : d.orderBy = d'.orderBy
  paging : d.paging = d'.paging

/-- **The draft of a request without leafless groups.** -/
theorem Request.draft_pruned (settings : Settings) (r : Request) (paged : Bool) :
    Traced.Agree Draft.Agrees (Draft.ofRequest settings r paged)
      (Draft.ofRequest settings r.pruned paged) := by
  have hscope : Traced.Agree (fun s s' => s' = s.pruned)
      (Traced.ofExcept (Scope.ofRequest settings r))
      (Traced.ofExcept (Scope.ofRequest settings r.pruned)) := by
    rw [Scope.ofRequest_pruned]
    unfold Traced.Agree Traced.ofExcept
    cases Scope.ofRequest settings r with
    | error e => exact .error e
    | ok s => exact .ok rfl
  rw [Draft.ofRequest, Draft.ofRequest]
  refine hscope.bind ?_
  rintro planned _ rfl
  have hplan := Pushdown.ofScope_pruned planned
  refine .reportAll_bind _ _ ?_
  rw [hplan, Pushdown.weights_pruned]
  set plan := Pushdown.ofScope planned
  let s : Scope := { planned with sources := planned.sources.reorder plan.weights }
  change Traced.Agree Draft.Agrees
    (s.source settings (s.occurrence 0) (plan.at? 0) >>= _)
    (s.pruned.source settings (s.occurrence 0) (plan.pruned.at? 0) >>= _)
  rw [Pushdown.at?_pruned]
  refine (s.source_pruned settings _ _).bind fun base base' hbase => ?_
  refine (s.joinClauses_pruned settings plan _).bind fun joins joins' hjoins => ?_
  refine (s.outerFilter_pruned settings plan.remaining).bind fun filter filter' hfilter => ?_
  have hrefs : s.pruned.selectedColumns settings s.pruned.selectedNames =
      s.selectedColumns settings s.selectedNames := s.selectedColumns_pruned settings _
  change Traced.Agree Draft.Agrees
    (Traced.ofExcept (s.selectedColumns settings s.selectedNames) >>= _)
    (Traced.ofExcept (s.pruned.selectedColumns settings s.pruned.selectedNames) >>= _)
  rw [hrefs]
  refine .bind_left fun refs _ => ?_
  have horder : s.pruned.orderBy settings r.pruned.sorting = s.orderBy settings r.sorting :=
    s.orderBy_pruned settings _
  cases paged with
  | true =>
    change Traced.Agree Draft.Agrees (s.orderBy settings r.sorting >>= _)
      (s.pruned.orderBy settings r.pruned.sorting >>= _)
    rw [horder]
    exact .bind_left fun orderBy _ => .pure ⟨rfl, rfl, hbase, hjoins, hfilter, rfl, rfl, rfl⟩
  | false => exact .pure ⟨rfl, rfl, hbase, hjoins, hfilter, rfl, rfl, rfl⟩

/-! ## Queries -/

/-- Queries that differ at most in what is marked as a choice in their sources. -/
structure Select.Agrees (s s' : Select Placeholder) : Prop where
  hint : s.hint = s'.hint
  items : s.items = s'.items
  base : s.base.Agrees s'.base
  joins : List.Forall₂ JoinClause.Agrees s.joins s'.joins
  rowFilter : s.rowFilter = s'.rowFilter
  groupBy : s.groupBy = s'.groupBy
  groupFilter : s.groupFilter = s'.groupFilter
  orderBy : s.orderBy = s'.orderBy
  paging : s.paging = s'.paging

/-- The sources of a draft are numbered alike. -/
theorem Source.Agrees.runsAlike_traverse {s s' : Source Hole} (h : s.Agrees s') :
    RunsAlike Eq Source.Agrees (s.traverse Draft.fill) (s'.traverse Draft.fill) := by
  obtain ⟨table, name, load, pushed⟩ := s
  obtain ⟨_, _, _, pushed'⟩ := s'
  obtain ⟨rfl, rfl, rfl, hpushed⟩ := h
  have hload : RunsAlike Eq Eq (load.mapM (·.traverse Draft.fill))
      (load.mapM (·.traverse Draft.fill)) := .refl fun _ => rfl
  refine hload.bind ?_
  rintro load _ rfl
  dsimp only
  cases hpushed with
  | none => exact .pure ⟨rfl, rfl, rfl, .none⟩
  | @some p p' hp =>
    obtain ⟨tree, isChoice⟩ := p
    obtain ⟨_, isChoice'⟩ := p'
    obtain ⟨rfl, hchoice⟩ := hp
    -- a group of one member stays one when its placeholders are numbered
    have htree : RunsAlike Eq (fun u u' => Pushed.Agrees ⟨u, isChoice⟩ ⟨u', isChoice'⟩)
        (tree.traverse (·.traverse Draft.fill)) (tree.traverse (·.traverse Draft.fill)) := by
      refine .refl fun b => ⟨rfl, hchoice.imp id ?_⟩
      rintro ⟨hmarked, hunmarked, logic, t, rfl⟩
      refine ⟨hmarked, hunmarked, logic, (t.traverse (·.traverse Draft.fill) b).1, ?_⟩
      rw [Tree.traverse, Tree.traverseAll, Tree.traverseAll]
      rfl
    exact htree.bind fun u u' hu => .pure ⟨rfl, rfl, rfl, .some hu⟩

theorem JoinClause.Agrees.runsAlike_traverse {j j' : JoinClause Hole} (h : j.Agrees j') :
    RunsAlike Eq JoinClause.Agrees (j.traverse Draft.fill) (j'.traverse Draft.fill) :=
  h.source.runsAlike_traverse.bind fun _ _ hsource => .pure ⟨h.kind, hsource, h.pairs⟩

/-- A filter is numbered before its leafless groups are taken out or afterwards. -/
theorem mapM_traverse_bind_prune {m : Type → Type} [Monad m] [LawfulMonad m] (f : α → m β)
    (filter : Option (Tree α)) :
    (filter.bind (Tree.prune some)).mapM (Tree.traverse f) =
      (fun filter => filter.bind (Tree.prune some)) <$> filter.mapM (Tree.traverse f) := by
  cases filter with
  | none => simp
  | some tree =>
    rw [Option.bind_some, Tree.mapM_traverse_prune]
    simp

theorem Draft.Agrees.runsAlike_numbered {d d' : Draft} (h : d.Agrees d') :
    RunsAlike Eq Select.Agrees d.numbered d'.numbered := by
  have hjoins : RunsAlike Eq (List.Forall₂ JoinClause.Agrees)
      (d.joins.mapM (·.traverse fill)) (d'.joins.mapM (·.traverse fill)) :=
    RunsAlike.mapM (fun _ _ hj => hj.runsAlike_traverse) h.joins
  have hfilter : RunsAlike Eq (fun filter filter' => filter' = filter.bind (Tree.prune some))
      (d.filter.mapM (Tree.traverse Routed.fill)) (d'.filter.mapM (Tree.traverse Routed.fill)) := by
    rw [h.filter, mapM_traverse_bind_prune]
    rintro b _ rfl
    exact ⟨rfl, rfl⟩
  refine h.base.runsAlike_traverse.bind fun base base' hbase => ?_
  refine hjoins.bind fun joins joins' hjoins => ?_
  refine hfilter.bind ?_
  rintro filter _ rfl
  have hrows : filter.bind rowClause = (filter.bind (Tree.prune some)).bind rowClause := by
    cases filter with
    | none => rfl
    | some tree => exact (rowClause_prune tree).symm
  have hgroups : filter.bind groupClause = (filter.bind (Tree.prune some)).bind groupClause := by
    cases filter with
    | none => rfl
    | some tree => exact (groupClause_prune tree).symm
  exact .pure ⟨h.hint, h.items, hbase, hjoins, hrows, h.groupBy, hgroups, h.orderBy, h.paging⟩

/-- **The query of a request without leafless groups**, with the same placeholders. -/
theorem Draft.Agrees.number {d d' : Draft} (h : d.Agrees d') :
    d.number.1.Agrees d'.number.1 ∧ d.number.2 = d'.number.2 :=
  h.runsAlike_numbered {} {} rfl

/-- The restrictions of two sources are one, or the last conjunct of the first is in parentheses
twice and that of the second once. -/
def Source.OnceParenthesised (s s' : Source Placeholder) : Prop :=
  s.conjuncts = s'.conjuncts ∨ ∃ (conjuncts : List String) (t : Tree (Predicate Placeholder)),
    s.conjuncts = conjuncts ++ ["((" ++ renderTree t ++ "))"] ∧
      s'.conjuncts = conjuncts ++ ["(" ++ renderTree t ++ ")"]

theorem renderTree_singleton (logic : Logic) (t : Tree (Predicate Placeholder)) :
    renderTree (.group logic [t]) = "(" ++ renderTree t ++ ")" := by
  rw [renderTree, renderMembers, renderMembers, String.intercalate_singleton]

theorem Source.Agrees.onceParenthesised {s s' : Source Placeholder} (h : s.Agrees s') :
    s.OnceParenthesised s' := by
  obtain ⟨table, name, load, pushed⟩ := s
  obtain ⟨_, _, _, pushed'⟩ := s'
  obtain ⟨rfl, rfl, rfl, hpushed⟩ := h
  cases hpushed with
  | none => exact .inl rfl
  | @some p p' hp =>
    obtain ⟨tree, isChoice⟩ := p
    obtain ⟨_, isChoice'⟩ := p'
    obtain ⟨rfl, hchoice⟩ := hp
    rcases hchoice with hsame | ⟨hmarked, hunmarked, logic, t, htree⟩
    · dsimp only at hsame
      rw [hsame]
      exact .inl rfl
    · dsimp only at hmarked hunmarked htree
      subst hmarked hunmarked htree
      cases load with
      | nil => exact .inl rfl
      | cons p load =>
        have htwice : "(" ++ ("(" ++ renderTree t ++ ")") ++ ")" = "((" ++ renderTree t ++ "))" :=
          String.toList_inj.1 (by simp)
        refine .inr ⟨(p :: load).map Predicate.render, t, ?_, ?_⟩
        · rw [← htwice]
          simp [conjuncts, renderTree_singleton]
        · simp [conjuncts, renderTree_singleton]

/-- Two queries whose parts are the same, but for parentheses in the sources. -/
inductive Query.Agrees : Query → Query → Prop
  | rows {s s' : Select Placeholder} (h : s.Agrees s') : Agrees (.rows s) (.rows s')
  | countOf {s s' : Select Placeholder} (h : s.Agrees s') : Agrees (.countOf s) (.countOf s')

/-- Two compiled queries with the same values, which are the texts of two queries of the same parts.
They differ at most in a second pair of parentheses around a filter that is moved into a source. -/
structure Compiled.Agrees (q q' : Query) (c c' : Compiled) : Prop where
  values : c.values = c'.values
  text : c.text = q.render
  text' : c'.text = q'.render
  parts : q.Agrees q'
  sources : List.Forall₂ Source.OnceParenthesised q.select.sources q'.select.sources

/-- Compiled queries of a request, as it is and without its leafless groups.  They are the texts of
queries that are made from the drafts of the two requests in one way. -/
def Request.CompilesPruned (settings : Settings) (r : Request) (paged : Bool)
    (query : Select Placeholder → Query) (c c' : Compiled) : Prop :=
  ∃ d d', (Draft.ofRequest settings r paged).outcome = .ok d ∧
    (Draft.ofRequest settings r.pruned paged).outcome = .ok d' ∧
    Compiled.Agrees (query d.number.1) (query d'.number.1) c c'

theorem Select.Agrees.onceParenthesised {s s' : Select Placeholder} (h : s.Agrees s') :
    List.Forall₂ Source.OnceParenthesised s.sources s'.sources := by
  rw [sources, sources]
  refine .cons h.base.onceParenthesised ?_
  rw [List.forall₂_map_left_iff, List.forall₂_map_right_iff]
  exact h.joins.imp fun _ _ hj => hj.source.onceParenthesised

/-- Queries that agree are reported with the same values. -/
theorem Query.Agrees.compiled {q q' : Query} (h : q.Agrees q') (bindings : Bindings) :
    Compiled.Agrees q q' ⟨q.render, bindings.toDict⟩ ⟨q'.render, bindings.toDict⟩ := by
  have hsources : List.Forall₂ Source.OnceParenthesised q.select.sources q'.select.sources := by
    cases h with
    | rows h | countOf h => exact h.onceParenthesised
  exact ⟨rfl, rfl, rfl, h, hsources⟩

/-- Queries that are made in one way from drafts that agree. -/
theorem finish_agrees {settings : Settings} {r : Request} {paged : Bool} {d d' : Draft}
    (query : Select Placeholder → Query)
    (hquery : ∀ s s' : Select Placeholder, s.Agrees s' → (query s).Agrees (query s'))
    (hd : (Draft.ofRequest settings r paged).outcome = .ok d)
    (hd' : (Draft.ofRequest settings r.pruned paged).outcome = .ok d') (h : d.Agrees d') :
    Traced.Agree (r.CompilesPruned settings paged query) (finish (query d.number.1) d.number.2)
      (finish (query d'.number.1) d'.number.2) := by
  obtain ⟨hselect, hbindings⟩ := h.number
  rw [← hbindings]
  exact .ok ⟨d, d', hd, hd', (hquery _ _ hselect).compiled _⟩

/-- The queries that count the rows of queries that agree. -/
theorem Select.Agrees.countQuery (r : Request) {s s' : Select Placeholder} (h : s.Agrees s') :
    (r.countQuery s).Agrees (r.countQuery s') := by
  unfold Request.countQuery
  split
  · exact .countOf h
  · exact .rows { h with items := rfl }

/-- **Leafless groups do not matter.**  A request and the request without the leafless groups of its
filter fail alike, or they have the same values and queries of the same parts: the same filters of
rows and of groups, the same joins in the same order, and the same filters moved into the same
sources, around which a pair of parentheses may be left out. -/
theorem Request.compile_pruned (settings : Settings) (r : Request) :
    Traced.Agree (r.CompilesPruned settings true .rows) (compile settings r)
        (compile settings r.pruned) ∧
      Traced.Agree (r.CompilesPruned settings false r.countQuery) (compileCount settings r)
        (compileCount settings r.pruned) := by
  constructor
  · rw [compile, compile, checked_pruned]
    refine .bind_left fun _ _ => (draft_pruned settings r true).withOutcomes.bind ?_
    rintro d d' ⟨hd, hd', h⟩
    exact finish_agrees .rows (fun _ _ => .rows) hd hd' h
  · rw [compileCount, compileCount, checked_pruned]
    refine .bind_left fun _ _ => (draft_pruned settings r false).withOutcomes.bind ?_
    rintro d d' ⟨hd, hd', h⟩
    have hfinish := finish_agrees r.countQuery (fun _ _ => Select.Agrees.countQuery r) hd hd' h
    rw [finish_countQuery, finish_countQuery] at hfinish
    exact hfinish

end ReportSql
