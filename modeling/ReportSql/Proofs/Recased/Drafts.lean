import ReportSql.Proofs.Blind.Drafts
import ReportSql.Proofs.Recased.Names

/-!
# Queries up to the letter case of columns

A column is quoted in upper case, so the text of a query is the same with the letters of its columns
in either case.  Two drafts that differ in that alone bind the same values to the same placeholders
and become queries with one text.

## Main definitions

* `ColumnRef.folded`, `Expr.folded`, `Predicate.folded`, `Routed.folded` — what is left of the parts
  of a query when the case of columns is forgotten.
* `Source.Recased`, `JoinClause.Recased`, `Select.Recased`, `Draft.Recased` — parts, queries and
  drafts that differ in the case of columns alone.

## Main statements

* `Predicate.render_folded` — a predicate has the text of its folded form.
* `Draft.Recased.runsAlike_numbered` — the placeholders of drafts are numbered alike.
* `Select.Recased.render_eq` — queries have one text.
-/

namespace ReportSql

variable {α β : Type}

/-! ## Expressions -/

namespace ColumnRef

/-- A reference with the letters of its column folded. -/
def folded : ColumnRef → ColumnRef
  | .bare column => .bare (Text.folded column)
  | .qualified source column => .qualified source (Text.folded column)

@[simp] theorem render_folded (ref : ColumnRef) : ref.folded.render = ref.render := by
  cases ref <;> simp [folded, render]

theorem render_eq_of_folded_eq {ref ref' : ColumnRef} (h : ref.folded = ref'.folded) :
    ref.render = ref'.render := by
  rw [← ref.render_folded, h, render_folded]

@[simp] theorem unqualified_folded (ref : ColumnRef) :
    ref.folded.unqualified = ref.unqualified.folded := by
  cases ref <;> rfl

end ColumnRef

namespace Expr

/-- An expression with the letters of its column folded. -/
def folded : Expr → Expr
  | .column ref => .column ref.folded
  | .aggregate function ref => .aggregate function ref.folded
  | .countRows => .countRows
  | .castText type e => .castText type e.folded
  | .day function e => .day function e.folded
  | .upper e => .upper e.folded
  | .numberText e => .numberText e.folded
  | .momentText e => .momentText e.folded

@[simp] theorem render_folded (e : Expr) : e.folded.render = e.render := by
  induction e with
  | column ref => exact ref.render_folded
  | aggregate function ref =>
    change renderAggregate function ref.folded = renderAggregate function ref
    unfold renderAggregate
    rw [ref.render_folded]
  | countRows => rfl
  | castText _ e ih | day _ e ih | upper e ih | numberText e ih | momentText e ih =>
    rw [folded, render, render, ih]

theorem render_eq_of_folded_eq {e e' : Expr} (h : e.folded = e'.folded) :
    e.render = e'.render := by
  rw [← e.render_folded, h, render_folded]

end Expr

/-! ## Predicates -/

namespace Predicate

/-- A predicate with the letters of its column folded. -/
def folded : Predicate α → Predicate α
  | .always => .always
  | .never => .never
  | .isNull e => .isNull e.folded
  | .isNotNull e => .isNotNull e.folded
  | .isBlank e => .isBlank e.folded
  | .isNotBlank e => .isNotBlank e.folded
  | .compare e c value => .compare e.folded c value
  | .compareUpper e c value => .compareUpper e.folded c value
  | .like negated e pattern => .like negated e.folded pattern
  | .between e low high => .between e.folded low high
  | .among negated e values => .among negated e.folded values

/-- **A predicate has the text of its folded form.** -/
@[simp] theorem render_folded (p : Predicate Placeholder) : p.folded.render = p.render := by
  cases p <;> simp only [folded, render, Expr.render_folded]

/-- Folding a predicate leaves its values alone, so that the same are numbered. -/
theorem traverse_folded (f : α → StateM Bindings β) (p : Predicate α) (b : Bindings) :
    p.folded.traverse f b = ((p.traverse f b).1.folded, (p.traverse f b).2) := by
  cases p <;> rfl

theorem runsAlike_traverse (f : α → StateM Bindings β) {p p' : Predicate α}
    (h : InvImage Eq folded p p') :
    RunsAlike Eq (InvImage Eq folded) (p.traverse f) (p'.traverse f) := by
  rintro b _ rfl
  have hrun : p.folded.traverse f b = p'.folded.traverse f b := by rw [h]
  rw [traverse_folded, traverse_folded, Prod.mk.injEq] at hrun
  exact hrun

end Predicate

/-- A predicate of a clause with the letters of its column folded. -/
def Routed.folded (r : Routed α) : Routed α := { r with predicate := r.predicate.folded }

theorem Routed.runsAlike_traverse (f : α → StateM Bindings β) {r r' : Routed α}
    (h : InvImage Eq folded r r') :
    RunsAlike Eq (InvImage Eq folded)
      (do return (⟨r.ofGroups, ← r.predicate.traverse f⟩ : Routed β))
      (do return ⟨r'.ofGroups, ← r'.predicate.traverse f⟩) := by
  obtain ⟨ofGroups, p⟩ := r
  obtain ⟨_, p'⟩ := r'
  obtain ⟨rfl, hp⟩ := Routed.mk.inj h
  refine (Predicate.runsAlike_traverse f hp).bind fun q q' hq => .pure ?_
  exact congrArg (Routed.mk ofGroups) hq

/-- Two clauses that differ in the case of columns alone. -/
abbrev ClauseRecased : Tree (Predicate α) → Tree (Predicate α) → Prop :=
  Tree.Matches (InvImage Eq Predicate.folded)

mutual

/-- Trees of predicates that differ in the case of columns alone have one text. -/
theorem renderTree_eq_of_recased : ∀ {t u : Tree (Predicate Placeholder)}, ClauseRecased t u →
    renderTree t = renderTree u
  | .leaf p, u, h => by
    obtain ⟨p', rfl, hp⟩ := Tree.matches_leaf.1 h
    rw [renderTree, renderTree, ← p.render_folded, hp, Predicate.render_folded]
  | .group logic children, u, h => by
    obtain ⟨children', rfl, hall⟩ := Tree.matches_group.1 h
    rw [renderTree, renderTree, renderMembers_eq_of_recased hall]

theorem renderMembers_eq_of_recased : ∀ {ts us : List (Tree (Predicate Placeholder))},
    Tree.MatchesAll (InvImage Eq Predicate.folded) ts us → renderMembers ts = renderMembers us
  | [], us, h => by rw [Tree.matchesAll_nil.1 h]
  | t :: ts, us, h => by
    obtain ⟨u, us, rfl, hu, hus⟩ := Tree.matchesAll_cons.1 h
    rw [renderMembers, renderMembers, renderTree_eq_of_recased hu, renderMembers_eq_of_recased hus]

end

/-! ## Sources -/

/-- Two filters of a source that differ in the case of columns alone. -/
structure Pushed.Recased (p p' : Pushed α) : Prop where
  tree : ClauseRecased p.tree p'.tree
  isChoice : p.isChoice = p'.isChoice

/-- Two sources whose filters differ in the case of columns alone. -/
structure Source.Recased (s s' : Source α) : Prop where
  table : s.table = s'.table
  name : s.name = s'.name
  load : s.load = s'.load
  pushed : Option.Rel Pushed.Recased s.pushed s'.pushed

namespace Source.Recased

theorem runsAlike_traverse (f : α → StateM Bindings β) {s s' : Source α} (h : s.Recased s') :
    RunsAlike Eq Source.Recased (s.traverse f) (s'.traverse f) := by
  obtain ⟨table, name, load, pushed⟩ := s
  obtain ⟨_, _, _, pushed'⟩ := s'
  obtain ⟨rfl, rfl, rfl, hpushed⟩ := h
  have hload : RunsAlike Eq Eq (load.mapM (·.traverse f)) (load.mapM (·.traverse f)) := by
    rintro b _ rfl
    exact ⟨rfl, rfl⟩
  refine hload.bind ?_
  rintro load _ rfl
  cases hpushed with
  | none => exact .pure ⟨rfl, rfl, rfl, .none⟩
  | @some p p' hp =>
    obtain ⟨tree, isChoice⟩ := p
    obtain ⟨tree', _⟩ := p'
    obtain ⟨htree, rfl⟩ := hp
    have hpredicate : ∀ p p' : Predicate α, InvImage Eq Predicate.folded p p' →
        RunsAlike Eq (InvImage Eq Predicate.folded) (p.traverse f) (p'.traverse f) :=
      fun _ _ => Predicate.runsAlike_traverse f
    refine (htree.runsAlike_traverse hpredicate).bind fun u u' hu => ?_
    exact .pure ⟨rfl, rfl, rfl, .some ⟨hu, rfl⟩⟩

theorem conjuncts_eq {s s' : Source Placeholder} (h : s.Recased s') :
    s.conjuncts = s'.conjuncts := by
  have hpushed := h.pushed
  rw [Source.conjuncts, Source.conjuncts, h.load]
  generalize s.pushed = x at hpushed ⊢
  generalize s'.pushed = y at hpushed ⊢
  cases hpushed with
  | none => rfl
  | some hp =>
    dsimp only
    rw [hp.isChoice, renderTree_eq_of_recased hp.tree]

theorem render_eq {s s' : Source Placeholder} (h : s.Recased s') : s.render = s'.render := by
  rw [Source.render, Source.render, h.conjuncts_eq, h.table, h.name]

end Source.Recased

/-- Two joins that differ in the case of columns alone. -/
structure JoinClause.Recased (j j' : JoinClause α) : Prop where
  kind : j.kind = j'.kind
  source : j.source.Recased j'.source
  pairs : List.Forall₂ (InvImage Eq (Prod.map ColumnRef.folded ColumnRef.folded)) j.pairs j'.pairs

namespace JoinClause.Recased

theorem runsAlike_traverse (f : α → StateM Bindings β) {j j' : JoinClause α} (h : j.Recased j') :
    RunsAlike Eq JoinClause.Recased (j.traverse f) (j'.traverse f) := by
  obtain ⟨kind, source, pairs⟩ := j
  obtain ⟨_, source', pairs'⟩ := j'
  obtain ⟨rfl, hsource, hpairs⟩ := h
  exact (hsource.runsAlike_traverse f).bind fun _ _ hs => .pure ⟨rfl, hs, hpairs⟩

theorem render_eq {j j' : JoinClause Placeholder} (h : j.Recased j') : j.render = j'.render := by
  rw [JoinClause.render, JoinClause.render, h.kind, h.source.render_eq,
    map_eq_of_forall₂ ?pair h.pairs]
  rintro ⟨left, right⟩ ⟨left', right'⟩ hpair
  obtain ⟨hleft, hright⟩ := Prod.mk.inj hpair
  dsimp only
  rw [ColumnRef.render_eq_of_folded_eq hleft, ColumnRef.render_eq_of_folded_eq hright]

end JoinClause.Recased

/-! ## Queries -/

/-- Two orders with one text. -/
def OrderRecased (x x' : OrderKey × SortDirection) : Prop :=
  x.1.render = x'.1.render ∧ x.2 = x'.2

/-- Two queries that differ in the case of columns and outputs alone. -/
structure Select.Recased (s s' : Select α) : Prop where
  hint : s.hint = s'.hint
  items : List.Forall₂ (InvImage Eq SelectItem.render) s.items s'.items
  base : s.base.Recased s'.base
  joins : List.Forall₂ JoinClause.Recased s.joins s'.joins
  rowFilter : Option.Rel ClauseRecased s.rowFilter s'.rowFilter
  groupBy : s.groupBy = s'.groupBy
  groupFilter : Option.Rel ClauseRecased s.groupFilter s'.groupFilter
  orderBy : List.Forall₂ OrderRecased s.orderBy s'.orderBy
  paging : s.paging = s'.paging

namespace Select.Recased

variable {s s' : Select Placeholder}

theorem filterLines_eq (keyword : String) {x y : Option (Tree (Predicate Placeholder))}
    (h : Option.Rel ClauseRecased x y) :
    Select.filterLines keyword x = Select.filterLines keyword y := by
  cases h with
  | none => rfl
  | some htree =>
    rw [Select.filterLines, Select.filterLines, renderTree_eq_of_recased htree]

theorem orderLines_eq (h : s.Recased s') : s.orderLines = s'.orderLines := by
  rw [Select.orderLines, Select.orderLines, isEmpty_eq_of_length_eq h.orderBy.length_eq,
    map_eq_of_forall₂ ?key h.orderBy]
  rintro ⟨key, direction⟩ ⟨key', _⟩ ⟨hkey, rfl⟩
  dsimp only at hkey ⊢
  rw [hkey]

/-- **Queries that differ in the case of columns and outputs alone have one text.** -/
theorem render_eq (h : s.Recased s') : s.render = s'.render := by
  have hitems : s.itemsLine = s'.itemsLine := by
    rw [Select.itemsLine, Select.itemsLine, h.hint, map_eq_of_forall₂ (fun _ _ hi => hi) h.items]
  have hsources : s.sourceLines = s'.sourceLines := by
    rw [Select.sourceLines, Select.sourceLines, h.base.render_eq,
      map_eq_of_forall₂ (fun _ _ hj => hj.render_eq) h.joins]
  unfold Select.render Select.lines Select.groupLines Select.pagingLines
  rw [hitems, hsources, filterLines_eq "WHERE" h.rowFilter, h.groupBy,
    filterLines_eq "HAVING" h.groupFilter, h.orderLines_eq, h.paging]

end Select.Recased

/-! ## Drafts -/

/-- Two drafts that differ in the case of columns and outputs alone. -/
structure Draft.Recased (d d' : Draft) : Prop where
  hint : d.hint = d'.hint
  items : List.Forall₂ (InvImage Eq SelectItem.render) d.items d'.items
  base : d.base.Recased d'.base
  joins : List.Forall₂ JoinClause.Recased d.joins d'.joins
  filter : Option.Rel (Tree.Matches (InvImage Eq Routed.folded)) d.filter d'.filter
  groupBy : d.groupBy = d'.groupBy
  orderBy : List.Forall₂ OrderRecased d.orderBy d'.orderBy
  paging : d.paging = d'.paging

section Clauses

variable {u u' : Tree (Routed α)}

theorem rowClause_recased (h : u.Matches (InvImage Eq Routed.folded) u') :
    Option.Rel ClauseRecased (rowClause u) (rowClause u') := by
  refine h.prune fun r r' hr => ?_
  obtain ⟨hgroups, hpredicate⟩ := Routed.mk.inj hr
  rw [hgroups]
  split
  · exact .none
  · exact .some hpredicate

theorem groupClause_recased (h : u.Matches (InvImage Eq Routed.folded) u') :
    Option.Rel ClauseRecased (groupClause u) (groupClause u') := by
  refine h.prune fun r r' hr => ?_
  obtain ⟨hgroups, hpredicate⟩ := Routed.mk.inj hr
  rw [hgroups]
  split
  · exact .some hpredicate
  · exact .none

end Clauses

namespace Draft.Recased

variable {d d' : Draft}

/-- **The placeholders of drafts that differ in the case of columns and outputs alone are numbered
alike.** -/
theorem runsAlike_numbered (h : d.Recased d') :
    RunsAlike Eq Select.Recased d.numbered d'.numbered := by
  have hjoin : ∀ j j' : JoinClause Hole, j.Recased j' →
      RunsAlike Eq JoinClause.Recased (j.traverse fill) (j'.traverse fill) :=
    fun _ _ hj => hj.runsAlike_traverse fill
  have hroute : ∀ r r' : Routed Hole, InvImage Eq Routed.folded r r' →
      RunsAlike Eq (InvImage Eq Routed.folded)
        (do return (⟨r.ofGroups, ← r.predicate.traverse fill⟩ : Routed Placeholder))
        (do return ⟨r'.ofGroups, ← r'.predicate.traverse fill⟩) :=
    fun _ _ => Routed.runsAlike_traverse fill
  unfold Draft.numbered
  refine (h.base.runsAlike_traverse fill).bind fun base base' hbase => ?_
  refine (RunsAlike.mapM hjoin h.joins).bind fun joins joins' hjoins => ?_
  refine (RunsAlike.mapM_option (fun t t' ht => ht.runsAlike_traverse hroute) h.filter).bind ?_
  intro filter filter' hfilter
  refine .pure ⟨h.hint, h.items, hbase, hjoins, ?_, h.groupBy, ?_, h.orderBy, h.paging⟩
  · cases hfilter with
    | none => exact .none
    | some hu => exact rowClause_recased hu
  · cases hfilter with
    | none => exact .none
    | some hu => exact groupClause_recased hu

/-- The queries of the drafts differ in the case of columns and outputs alone. -/
theorem number_fst (h : d.Recased d') : d.number.1.Recased d'.number.1 :=
  (h.runsAlike_numbered {} {} rfl).1

/-- The same values are bound to the same placeholders. -/
theorem number_snd (h : d.Recased d') : d.number.2 = d'.number.2 :=
  (h.runsAlike_numbered {} {} rfl).2

end Draft.Recased

end ReportSql
