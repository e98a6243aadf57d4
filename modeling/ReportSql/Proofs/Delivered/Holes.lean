import ReportSql.Proofs.Catalog.Keys
import ReportSql.Proofs.Query.Compiled

/-!
# The holes of drafts

Numbering the placeholders of a draft gives the value of every hole to one of them, in the order in
which the holes stand in the draft.  So the values that a query is delivered with are those of the
holes of its draft.

## Main definitions

* `Draft.holes` — the holes of a draft, in order.

## Main statements

* `Draft.map_snd_bound` — the bound values are those of the holes.
* `Draft.exists_mem_toDict_iff` — and so are the values under the names of the placeholders.
-/

namespace ReportSql

/-! ## Matching parts -/

section Matching

variable {α β : Type} {R : α → β → Prop}

/-- The values of matching sources are related in order. -/
theorem Source.Matches.values {s : Source α} {s' : Source β} (h : s.Matches R s') :
    List.Forall₂ R s.values s'.values := by
  have hclauses : ∀ {x : Option (Pushed α)} {y : Option (Pushed β)},
      Option.Rel (Pushed.Matches R) x y →
        List.Forall₂ R ((clausePredicates (x.map Pushed.tree)).flatMap Predicate.values)
          ((clausePredicates (y.map Pushed.tree)).flatMap Predicate.values) := by
    intro x y hxy
    cases hxy with
    | none => exact .nil
    | some hp => exact List.rel_flatMap hp.tree.leaves fun _ _ hpq => hpq.values
  rw [Source.values, Source.values, Source.predicates, Source.predicates, List.flatMap_append,
    List.flatMap_append]
  exact List.rel_append (List.rel_flatMap h.load fun _ _ hpq => hpq.values) (hclauses h.pushed)

end Matching

/-! ## Drafts -/

namespace Draft

variable (d : Draft)

/-- The sources of a draft, in order. -/
def sources : List (Source Hole) := d.base :: d.joins.map JoinClause.source

/-- The predicates of the filter of the outer query, before it is parted into clauses. -/
def filterPredicates : List (Predicate Hole) := (d.filter.elim [] Tree.leaves).map Routed.predicate

/-- The holes of a draft: first those of its sources, then those of the filter of the outer
query. -/
def holes : List Hole :=
  d.sources.flatMap Source.values ++ d.filterPredicates.flatMap Predicate.values

/-- A value that is bound to a placeholder alone is the value of the hole that the placeholder was
given out for. -/
theorem map_snd_of_binds {bound : List (Placeholder × BindValue)} {hs : List Hole}
    (hnodup : (bound.map Prod.fst).Nodup)
    (h : List.Forall₂ (Binds bound) hs (bound.map Prod.fst)) :
    bound.map Prod.snd = hs.map Hole.value := by
  obtain ⟨hlength, hbinds⟩ := List.forall₂_iff_get.1 h
  rw [List.length_map] at hlength
  refine List.ext_getElem (by simp [hlength]) fun i hi _ => ?_
  rw [List.length_map] at hi
  have hmem := (hbinds i (hlength ▸ hi) (by simpa using hi)).mem
  simp only [List.get_eq_getElem, List.getElem_map] at hmem
  have hentry := List.inj_on_of_nodup_map hnodup hmem (List.getElem_mem hi) rfl
  rw [List.getElem_map, List.getElem_map, ← hentry]

/-- The filter of a draft and what it becomes have related values in order. -/
theorem forall₂_filterPredicates {R : Hole → Placeholder → Prop}
    {filter : Option (Tree (Routed Placeholder))}
    (h : Option.Rel (Tree.Matches (Routed.Matches R)) d.filter filter) :
    List.Forall₂ R (d.filterPredicates.flatMap Predicate.values)
      ((filter.elim [] Tree.leaves).flatMap fun r => r.predicate.values) := by
  rw [filterPredicates, List.flatMap_map]
  generalize d.filter = draft at h
  cases h with
  | none => exact .nil
  | some htree => exact List.rel_flatMap htree.leaves fun _ _ hr => hr.predicate.values

/-- Numbering a draft binds the value of every hole, in order, to a placeholder of its own. -/
theorem forall₂_holes :
    (d.number.2.bound.map fun e => e.1.name).Nodup ∧
      List.Forall₂ (Binds d.number.2.bound) d.holes (d.number.2.bound.map Prod.fst) := by
  obtain ⟨bound, hbindings, hnumbers, hpost⟩ := d.numbers_inOrder {}
  obtain ⟨hquery, filter, hfilter, -, -, hps⟩ := hpost bound (List.Subset.refl bound)
  have hbound : d.number.2.bound = bound := by
    change (d.numbered {}).2.bound = _
    rw [hbindings]
    rfl
  rw [hbound]
  constructor
  · have hnodup : ((bound.map Prod.fst).map Placeholder.number).Nodup := by
      rw [List.map_map]
      exact hnumbers ▸ List.nodup_range'
    have hnames := Placeholder.nodup_names hnodup
    rwa [List.map_map] at hnames
  · have hsources : List.Forall₂ (Binds bound) (d.sources.flatMap Source.values)
        ((d.numbered {}).1.sources.flatMap Source.values) := by
      refine List.rel_flatMap (R := Source.Matches (Binds bound)) ?_ fun _ _ h => h.values
      refine .cons hquery.base ?_
      rw [List.forall₂_map_left_iff, List.forall₂_map_right_iff]
      exact hquery.joins.imp fun _ _ hj => hj.source
    rw [hps]
    exact List.rel_append hsources (d.forall₂_filterPredicates hfilter)

/-- **The bound values are those of the holes, in order.** -/
theorem map_snd_bound : d.number.2.bound.map Prod.snd = d.holes.map Hole.value := by
  obtain ⟨hnodup, hbinds⟩ := d.forall₂_holes
  refine map_snd_of_binds (List.Nodup.of_map Placeholder.name ?_) hbinds
  rwa [List.map_map]

end Draft

/-! ## Values under names -/

/-- **The values of a query are those of the holes of its draft.** -/
theorem Draft.exists_mem_toDict_iff (d : Draft) {P : BindValue → Prop} :
    (∃ e ∈ d.number.2.toDict.entries, P e.2) ↔ ∃ h ∈ d.holes, P h.value := by
  have hkeys : ((d.number.2.bound.map fun e => (e.1.name, e.2)).map Prod.fst).Nodup := by
    rw [List.map_map]
    exact d.forall₂_holes.1
  have hvalues : (∃ v ∈ d.number.2.bound.map Prod.snd, P v) ↔
      ∃ v ∈ d.holes.map Hole.value, P v := by rw [d.map_snd_bound]
  simp only [Bindings.toDict, Dict.mem_entries_ofList hkeys]
  simpa using hvalues

end ReportSql
